/-
  FormulaQuery/Config/Draft.lean
  ==============================
  **Configurations that are edited by name.**  A draft holds the values of a
  configuration under what they belong to.  Assignments check the values of options, but
  a draft also lets its own parts be replaced, unchecked: all of its values at once, the
  record of the options given, what checks values, and values to be added with the next
  assignment.  So an option may be missing in a draft, or have a value of any kind, and
  then the configuration cannot be shown.
-/
import FormulaQuery.Config.Validation

namespace FormulaQuery

/-- What a name stands for in a draft. -/
inductive Target where
  | option (f : Field)
  | note (name : String)
  /-- Something that follows from the rest. -/
  | view
  /-- What makes the draft a draft. -/
  | kind
  | values
  | record
  /-- What checks values. -/
  | checker
  /-- What decides how names are assigned to. -/
  | routes
  /-- The values that are added with the next assignment. -/
  | additions
  | unknown (name : String)
  deriving DecidableEq, Repr

inductive DraftError where
  | refused (f : Fault)
  | wrongKind
  /-- What is asked for is not there, or cannot be changed. -/
  | absent
  deriving DecidableEq, Repr

structure Draft where
  values : List (Target × Value)
  additions : Value := .null
  /-- Whether the record of the options given is in place. -/
  hasRecord : Bool := true
  deriving Repr

/-- The value of an option as it is kept, if the option takes it. -/
def Field.accept (f : Field) (v : Value) : Except Refusal Value :=
  (({} : Config).set f v).map fun c => c.get f

namespace Draft

def ofConfig (c : Config) : Draft := { values := Field.all.map fun f => (.option f, c.get f) }

def put (values : List (Target × Value)) (t : Target) (v : Value) : List (Target × Value) :=
  values.filter (fun e => e.1 != t) ++ [(t, v)]

/-- The values of a mapping under what their names stand for. -/
def readValues (target : String → Target) (entries : List (Value × Value)) :
    List (Target × Value) :=
  entries.foldl (fun values e =>
    match e.1 with
    | .text name => put values (target name) e.2
    | _ => values) []

/-- Assigns a checked value to an option, with the additions. -/
def store (target : String → Target) (d : Draft) (f : Field) (v : Value) : Draft :=
  let added := match d.additions with
    | .mapping entries => readValues target entries
    | _ => []
  let values := added.foldl (fun values e => put values e.1 e.2) d.values
  { d with values := put values (.option f) v, additions := .null }

/-- Assigns a value to an option, or to a name that stands for nothing; values are
    checked. -/
def assignChecked (target : String → Target) (d : Draft) (name : String) (v : Value) :
    Except DraftError Draft :=
  -- a value under this name hides what checks values
  if (d.values.lookup .checker).isSome then .error .absent
  else if !canAdd d.additions then .error .wrongKind
  else
    match Field.ofName? name with
    | none => .error (.refused ⟨name, .unknownTarget⟩)
    | some f =>
      match f.accept v with
      | .error r => .error (.refused ⟨name, r⟩)
      | .ok v => if d.hasRecord then .ok (d.store target f v) else .error .wrongKind
where
  canAdd : Value → Bool
    | .null => true
    | .mapping _ => true
    | _ => false

/-- Whether a name is kept from being assigned to, and why. -/
def blocked? (target : String → Target) (d : Draft) (t : Target) : Option DraftError :=
  match d.values.lookup .routes with
  | none => none
  | some (.mapping entries) =>
    match (readValues target entries).lookup t with
    | none => none
    | some .null => none
    | some _ => some .wrongKind
  | some _ => some .absent

def assign (target : String → Target) (d : Draft) (name : String) (v : Value) :
    Except DraftError Draft :=
  let t := target name
  match d.blocked? target t with
  | some e => .error e
  | none =>
    match t with
    | .option _ => d.assignChecked target name v
    | .unknown _ => d.assignChecked target name v
    | .view => .error .absent
    | .kind => .error .wrongKind
    | .values =>
      match v with
      | .mapping entries => .ok { d with values := readValues target entries }
      | _ => .error .wrongKind
    -- without its record a draft takes no more values
    | .record => .ok { d with hasRecord := false }
    | .additions => .ok { d with additions := v }
    | .note _ => .ok { d with values := put d.values t v }
    | .checker => .ok { d with values := put d.values t v }
    | .routes => .ok { d with values := put d.values t v }

/-- The value of an option; one that is missing is looked for among the additions. -/
def get (d : Draft) (f : Field) : Except DraftError Value :=
  match d.values.lookup (.option f) with
  | some v => .ok v
  | none =>
    if d.additions.isTruthy then
      match d.additions with
      | .mapping entries =>
        match Value.lookup (.text f.name) entries with
        | some v => .ok v
        | none => .error .absent
      | _ => .error .wrongKind
    else .error .absent

def textOf (v : Value) : Except DraftError String :=
  match v with
  | .text s => .ok s
  | _ => .error .wrongKind

def resolvedHeader (d : Draft) : Except DraftError Value := do
  match ← d.get .header with
  | .null =>
    let declaration ← d.get .declaration
    let opening ←
      if declaration.isTruthy then do pure ((← textOf declaration) ++ "\n") else pure ""
    let path ← textOf (← d.get .pathToRoot)
    return .text (opening ++ "for $m in " ++ path ++ " return\n")
  | v => return v

def resolvedFooter (d : Draft) : Except DraftError Value := do
  match ← d.get .footer with
  | .null => d.get .returnFormat
  | v => return v

end Draft

end FormulaQuery
