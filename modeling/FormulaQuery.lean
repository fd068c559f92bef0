import FormulaQuery.Command.Arguments
import FormulaQuery.Command.Event
import FormulaQuery.Command.Run
import FormulaQuery.Config.Dialect
import FormulaQuery.Config.Draft
import FormulaQuery.Config.Options
import FormulaQuery.Config.Validation
import FormulaQuery.Data.Binary64
import FormulaQuery.Data.Moment
import FormulaQuery.Data.Value
import FormulaQuery.Files.Disk
import FormulaQuery.Files.Document
import FormulaQuery.Files.Gzip
import FormulaQuery.Files.Inflate
import FormulaQuery.Files.Path
import FormulaQuery.Main
import FormulaQuery.Query.Assembly
import FormulaQuery.Query.Constraint
import FormulaQuery.Query.Generator
import FormulaQuery.Query.Path
import FormulaQuery.Query.Session
import FormulaQuery.Query.Wildcard
import FormulaQuery.Text.Base64
import FormulaQuery.Text.Cased
import FormulaQuery.Text.Digit
import FormulaQuery.Text.Encoding
import FormulaQuery.Text.Half
import FormulaQuery.Text.Hidden
import FormulaQuery.Text.Join
import FormulaQuery.Text.Lowercase
import FormulaQuery.Text.Printable
import FormulaQuery.Text.Quoted
import FormulaQuery.Text.Range
import FormulaQuery.Text.Strip
import FormulaQuery.Text.Trim
import FormulaQuery.Topics.Json
import FormulaQuery.Topics.Reader
import FormulaQuery.Topics.Report
import FormulaQuery.Topics.Topic
import FormulaQuery.Tree.Element
import FormulaQuery.Tree.Locate
import FormulaQuery.Tree.OfValue
import FormulaQuery.Xml.Char
import FormulaQuery.Xml.Content
import FormulaQuery.Xml.Declaration
import FormulaQuery.Xml.Document
import FormulaQuery.Xml.Finding
import FormulaQuery.Xml.Identifier
import FormulaQuery.Xml.Markup
import FormulaQuery.Xml.Namespace
import FormulaQuery.Xml.Place
import FormulaQuery.Xml.Reading
import FormulaQuery.Xml.Scan
import FormulaQuery.Xml.Token
import FormulaQuery.Xml.Uri
import FormulaQuery.Xml.Value
import FormulaQuery.Yaml.Construct
import FormulaQuery.Yaml.Delivery
import FormulaQuery.Yaml.Document
import FormulaQuery.Yaml.Error
import FormulaQuery.Yaml.Moment
import FormulaQuery.Yaml.Node
import FormulaQuery.Yaml.Number
import FormulaQuery.Yaml.Scalar
import FormulaQuery.Yaml.Token
import FormulaQuery.Yaml.Token.Block
import FormulaQuery.Yaml.Token.Inline
import FormulaQuery.Yaml.Token.Label
import FormulaQuery.Yaml.Token.Scan
import FormulaQuery.Yaml.Token.Stream
import FormulaQuery.Proofs.Walk
import FormulaQuery.Proofs.Compilation
import FormulaQuery.Proofs.XPath
import FormulaQuery.Proofs.ReadConstraint
import FormulaQuery.Proofs.ReadQuery
import FormulaQuery.Proofs.Table
import FormulaQuery.Proofs.Matching
import FormulaQuery.Proofs.NormalForm
import FormulaQuery.Proofs.Paths
import FormulaQuery.Proofs.History
import FormulaQuery.Proofs.Outcome
import FormulaQuery.Proofs.Options
import FormulaQuery.Proofs.Report
import FormulaQuery.Proofs.StrictReading
import FormulaQuery.Proofs.Location
import FormulaQuery.Proofs.Metadata
import FormulaQuery.Proofs.Markers
import FormulaQuery.Proofs.Loading
import FormulaQuery.Proofs.Conversion
import FormulaQuery.Proofs.Exit
import FormulaQuery.Proofs.Translation
import FormulaQuery.Proofs.Visible
import FormulaQuery.Proofs.Postorder
import FormulaQuery.Proofs.Grammar
import FormulaQuery.Proofs.ForClause
import FormulaQuery.Proofs.Equalities
import FormulaQuery.Proofs.MapClause
import FormulaQuery.Proofs.StringLiteral
import FormulaQuery.Proofs.Places
import FormulaQuery.Proofs.Precedence
import FormulaQuery.Proofs.TextAndTail
import FormulaQuery.Proofs.Visits
import FormulaQuery.Proofs.AttributeNames
import FormulaQuery.Proofs.Dialects
import FormulaQuery.Proofs.Assignment
import FormulaQuery.Proofs.Overrides
