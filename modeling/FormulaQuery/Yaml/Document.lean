/-
  FormulaQuery/Yaml/Document.lean
  ===============================
  **Option files.**  A file holds at most one document; without one its value is null.
-/
import FormulaQuery.Yaml.Construct

namespace FormulaQuery.Yaml

def read (d : Delivery) : Except Error Value := do
  let (ts, fault) := tokens d
  match ← Graph.ofTokens? ts fault with
  | some g => g.value
  | none => return .null

def readBytes (bytes : List UInt8) : Except Error Value := read (Delivery.ofBytes bytes)

end FormulaQuery.Yaml
