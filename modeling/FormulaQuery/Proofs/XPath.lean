/-
  FormulaQuery/Proofs/XPath.lean
  ==============================
  **The conditions of a query: what they mean, and how they are read.**  A query
  asks three kinds of things about a candidate: a predicate in brackets on its
  texts and children, numbers of children, and equalities between nodes below
  it.  This module says which elements satisfy them, and reads them from the
  text of a query.

  Reading is by recursive descent over the characters, a whole number and a
  whole literal at a time.  The last section is about these two: a number and a
  literal are read as what they were written for.
-/
import FormulaQuery.Proofs.Compilation
import Mathlib.Data.List.Basic

namespace FormulaQuery

namespace XPath

/-! ### Conditions and their meaning -/

/-- Conditions in brackets: the first one, followed by the rest. -/
inductive Condition where
  | always
  /-- `./text() = value`: some text directly inside equals the value. -/
  | textIs (value : String) (rest : Condition)
  /-- `*[index]/name() = name`: there is such an element child, and this is its name. -/
  | nameIs (index : Nat) (name : String) (rest : Condition)
  /-- `*[index][inner]`: there is such an element child, and it satisfies `inner`. -/
  | child (index : Nat) (inner : Condition) (rest : Condition)
  deriving DecidableEq, Repr

/-- Which elements satisfy the conditions. -/
def Condition.Holds : Condition → Element → Prop
  | always, _ => True
  | textIs value rest, t => value ∈ t.ownTexts ∧ rest.Holds t
  | nameIs index name rest, t => (∃ u ∈ t.child? index, u.qualifiedName = name) ∧ rest.Holds t
  | child index inner rest, t => (∃ u ∈ t.child? index, inner.Holds u) ∧ rest.Holds t

/-- Conditions on the nodes below the candidate `$x`. -/
inductive Comparison where
  /-- `fn:count($x path/*) = number`. -/
  | count (path : Path) (number : Nat)
  /-- `$x left = $x right`. -/
  | same (left right : Path)
  deriving DecidableEq, Repr

/-- Which candidates satisfy a comparison.  The children of a node that is not there
    are none; nodes are compared by their whole text, and both have to be there. -/
def Comparison.Holds : Comparison → Element → Prop
  | count path number, t => ((t.descend? path).map Element.childCount).getD 0 = number
  | same left right, t =>
    ∃ u ∈ t.descend? left, ∃ v ∈ t.descend? right, u.textContent = v.textContent

/-- What a query asks about its candidates. -/
structure Demand where
  predicate : Condition
  comparisons : List Comparison
  deriving DecidableEq, Repr

/-- The candidates that satisfy the predicate and every comparison. -/
def Demand.Holds (d : Demand) (t : Element) : Prop :=
  d.predicate.Holds t ∧ ∀ c ∈ d.comparisons, c.Holds t

/-! ### Reading -/

def word (w : String) (s : List Char) : Option (List Char) := w.toList.isPrefixOf? s

/-- Takes a decimal number off the front, as many digits as there are. -/
def number (s : List Char) : Option (Nat × List Char) :=
  let digits := s.takeWhile Char.isDigit
  if digits = [] then none
  else some (Nat.ofDigitChars 10 digits 0, s.dropWhile Char.isDigit)

/-- The rest of a literal: two apostrophes stand for one, and one ends the literal. -/
def literalBody : List Char → Option (List Char × List Char)
  | [] => none
  | [c] => if c = Text.apostrophe then some ([], []) else none
  | c :: d :: rest =>
    if c = Text.apostrophe then
      if d = Text.apostrophe then (literalBody rest).map fun r => (d :: r.1, r.2)
      else some ([], d :: rest)
    else (literalBody (d :: rest)).map fun r => (c :: r.1, r.2)

def literal : List Char → Option (String × List Char)
  | [] => none
  | c :: rest =>
    if c = Text.apostrophe then (literalBody rest).map fun r => (String.ofList r.1, r.2) else none

/-- Takes an index off the front, opened by the given text and closed by a bracket. -/
def index (opening : String) (s : List Char) : Option (Nat × List Char) := do
  let s ← word opening s
  let (n, s) ← number s
  let s ← word "]" s
  return (n, s)

/-- What follows a condition: further conditions, or none. -/
def further (read : List Char → Option (Condition × List Char)) (s : List Char) :
    Option (Condition × List Char) :=
  match word " and " s with
  | some s => read s
  | none => some (.always, s)

def bracketed (read : List Char → Option (Condition × List Char)) (s : List Char) :
    Option (Condition × List Char) :=
  match word "[" s with
  | some s => do
    let (inner, s) ← read s
    let s ← word "]" s
    return (inner, s)
  | none => some (.always, s)

/-- Reads one or more conditions, at most `fuel` of them one after or inside another. -/
def conditions : (fuel : Nat) → List Char → Option (Condition × List Char)
  | 0, _ => none
  | fuel + 1, s =>
    match word "./text() = " s with
    | some s => do
      let (value, s) ← literal s
      let (rest, s) ← further (conditions fuel) s
      return (.textIs value rest, s)
    | none => do
      let (k, s) ← index "*[" s
      match word "/name() = " s with
      | some s =>
        let (name, s) ← literal s
        let (rest, s) ← further (conditions fuel) s
        return (.nameIs k name rest, s)
      | none =>
        let (inner, s) ← bracketed (conditions fuel) s
        let (rest, s) ← further (conditions fuel) s
        return (.child k inner rest, s)

/-- Reads a path of at most `fuel` steps. -/
def path : (fuel : Nat) → List Char → Path × List Char
  | 0, s => ([], s)
  | fuel + 1, s =>
    match index "/*[" s with
    | some (k, s) =>
      let (p, s) := path fuel s
      (k :: p, s)
    | none => ([], s)

def node (s : List Char) : Option (Path × List Char) :=
  (word "$x" s).map fun s => path s.length s

def comparison (s : List Char) : Option (Comparison × List Char) :=
  match word "fn:count(" s with
  | some s => do
    let (p, s) ← node s
    let s ← word "/*) = " s
    let (n, s) ← number s
    return (.count p n, s)
  | none => do
    let (p, s) ← node s
    let s ← word " = " s
    let (q, s) ← node s
    return (.same p q, s)

/-- What stands between two comparisons. -/
def conjunction (s : List Char) : Option (List Char) :=
  match word "\n and " s with
  | some s => some s
  | none => word " and " s

/-- Reads one or more comparisons, at most `fuel` of them. -/
def comparisons : (fuel : Nat) → List Char → Option (List Comparison × List Char)
  | 0, _ => none
  | fuel + 1, s => do
    let (c, s) ← comparison s
    match conjunction s with
    | some s =>
      let (cs, s) ← comparisons fuel s
      return (c :: cs, s)
    | none => return ([c], s)

/-- Reads what a query asks, from behind its first line: the predicate and the
    comparisons of the `where` clause, both if they are there. -/
def demand (s : List Char) : Option (Demand × List Char) := do
  let (predicate, s) ← bracketed (conditions s.length) s
  match word "\nwhere\n" s with
  | some s =>
    let (cs, s) ← comparisons s.length s
    return (⟨predicate, cs⟩, s)
  | none => return (⟨predicate, []⟩, s)

/-! ### Reading words, numbers and literals -/

theorem word_append (w : String) (s : List Char) : word w (w.toList ++ s) = some s := by
  simp [word]

/-- Digits come to an end here. -/
def NoDigit (s : List Char) : Prop := ∀ c ∈ s.head?, c.isDigit = false

/-- A literal comes to an end here. -/
def NoApostrophe (s : List Char) : Prop := ∀ c ∈ s.head?, c ≠ Text.apostrophe

theorem takeWhile_of_noDigit {s : List Char} (h : NoDigit s) : s.takeWhile Char.isDigit = [] := by
  cases s with
  | nil => rfl
  | cons c s => simp [h c rfl]

theorem dropWhile_of_noDigit {s : List Char} (h : NoDigit s) : s.dropWhile Char.isDigit = s := by
  cases s with
  | nil => rfl
  | cons c s => simp [h c rfl]

theorem number_toString (n : Nat) {s : List Char} (h : NoDigit s) :
    number ((toString n).toList ++ s) = some (n, s) := by
  have hdigits : ∀ c ∈ Nat.toDigits 10 n, c.isDigit = true := fun c hc =>
    Nat.isDigit_of_mem_toDigits (by decide) (by decide) hc
  have htake : (Nat.toDigits 10 n ++ s).takeWhile Char.isDigit = Nat.toDigits 10 n := by
    rw [List.takeWhile_append_of_pos hdigits, takeWhile_of_noDigit h, List.append_nil]
  have hdrop : (Nat.toDigits 10 n ++ s).dropWhile Char.isDigit = s := by
    rw [List.dropWhile_append_of_pos hdigits, dropWhile_of_noDigit h]
  have htext : (toString n).toList = Nat.toDigits 10 n := by simp
  simp only [number, htext, htake, hdrop, Nat.toDigits_ne_nil, if_false,
    Nat.ofDigitChars_ten_toDigits]

/-- A number is written in digits alone. -/
theorem ne_of_mem_toString {n : Nat} {c d : Char} (hc : c ∈ (toString n).toList)
    (hd : d.isDigit = false) : c ≠ d := by
  rintro rfl
  have htext : (toString n).toList = Nat.toDigits 10 n := by simp
  rw [htext] at hc
  have hdigit := Nat.isDigit_of_mem_toDigits (by decide) (by decide) hc
  rw [hd] at hdigit
  cases hdigit

theorem index_toString (opening : String) (n : Nat) (s : List Char) :
    index opening (opening.toList ++ ((toString n).toList ++ ("]".toList ++ s))) = some (n, s) := by
  have hbracket : NoDigit ("]".toList ++ s) := by
    intro c hc
    obtain rfl : ']' = c := by simpa using hc
    rfl
  simp only [index, word_append, number_toString n hbracket, Option.bind_eq_bind, Option.bind_some,
    Option.pure_def]

theorem literalBody_double (cs : List Char) {s : List Char} (h : NoApostrophe s) :
    literalBody (Text.doubleApostrophes cs ++ Text.apostrophe :: s) = some (cs, s) := by
  induction cs with
  | nil =>
    cases s with
    | nil => simp [Text.doubleApostrophes, literalBody]
    | cons d s => simp [Text.doubleApostrophes, literalBody, h d rfl]
  | cons c cs ih =>
    by_cases hc : c = Text.apostrophe
    · simp [Text.doubleApostrophes, literalBody, hc, ih]
    · -- one more character stands behind `c`, if only the closing apostrophe
      obtain ⟨d, rest, hrest⟩ : ∃ d rest,
          Text.doubleApostrophes cs ++ Text.apostrophe :: s = d :: rest := by
        cases hd : Text.doubleApostrophes cs with
        | nil => exact ⟨_, _, rfl⟩
        | cons d rest => exact ⟨_, _, rfl⟩
      rw [hrest] at ih
      simp [Text.doubleApostrophes, literalBody, hc, hrest, ih]

theorem literal_quote (v : String) {s : List Char} (h : NoApostrophe s) :
    literal ((Text.quote v).toList ++ s) = some (v, s) := by
  have htext : (Text.quote v).toList ++ s =
      Text.apostrophe :: (Text.doubleApostrophes v.toList ++ Text.apostrophe :: s) := by
    simp [Text.quote]
  rw [htext]
  simp only [literal, if_true, literalBody_double v.toList h, Option.map_some,
    String.ofList_toList]

end XPath

end FormulaQuery
