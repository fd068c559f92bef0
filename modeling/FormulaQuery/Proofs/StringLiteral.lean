/-
  FormulaQuery/Proofs/StringLiteral.lean
  ======================================
  **What the literals of a query stand for.**  A literal is written between
  apostrophes with its own apostrophes doubled, and nothing else is changed.  The
  query language has one more rule for reading it: an ampersand starts a reference
  to a character, `&lt;` or `&#60;`, and stands for nothing else.

  So a literal stands for the text that it was made from with the references in
  it expanded (`read_quote`), and it is no literal if an ampersand starts no
  reference.  It stands for the text itself exactly if there is no ampersand
  (`expand_eq_self_iff`), because a reference is longer than its character.  The
  same is then true of every comparison of a constraint with a literal
  (`literals_stand_for_texts`).
-/
import FormulaQuery.Proofs.Translation
import FormulaQuery.Proofs.Visible
import FormulaQuery.Xml.Token

namespace FormulaQuery

open Text (apostrophe doubleApostrophes quote trim)
open XPath (NoApostrophe)

namespace StringLiteral

/-! ### Reading a literal -/

/-- The character of a reference, by what stands between its ampersand and its semicolon. -/
def referent? : List Char → Option Char
  | '#' :: 'x' :: digits => (Xml.hexValue? digits).bind Xml.charOfCode?
  | '#' :: digits => (Xml.decimalValue? digits).bind Xml.charOfCode?
  | name => Xml.predefined? (String.ofList name)

/-- The text with its references expanded.  The first argument is what was read of the
    reference that is open, if one is. -/
def expandFrom : Option (List Char) → List Char → Option (List Char)
  | none, [] => some []
  | some _, [] => none
  | none, c :: s =>
    if c = '&' then expandFrom (some []) s else (expandFrom none s).map (c :: ·)
  | some name, c :: s =>
    if c = ';' then (referent? name).bind fun d => (expandFrom none s).map (d :: ·)
    else expandFrom (some (name ++ [c])) s

def expand (s : List Char) : Option (List Char) := expandFrom none s

/-- The rest of a literal and what stands behind it.  Two apostrophes stand for one, and one
    ends the literal; the open reference is the first argument. -/
def body : Option (List Char) → List Char → Option (List Char × List Char)
  | _, [] => none
  | none, [c] => if c = apostrophe then some ([], []) else none
  | none, c :: d :: s =>
    if c = apostrophe then
      if d = apostrophe then (body none s).map fun r => (d :: r.1, r.2) else some ([], d :: s)
    else if c = '&' then body (some []) (d :: s)
    else (body none (d :: s)).map fun r => (c :: r.1, r.2)
  | some name, c :: s =>
    if c = ';' then (referent? name).bind fun d => (body none s).map fun r => (d :: r.1, r.2)
    else body (some (name ++ [c])) s

/-- Takes a literal off the front: what it stands for, and the rest. -/
def read : List Char → Option (String × List Char)
  | [] => none
  | c :: s => if c = apostrophe then (body none s).map fun r => (String.ofList r.1, r.2) else none

/-! ### References -/

theorem foldlM_eq_none {f : Nat → Char → Option Nat} {c : Char} (hc : ∀ n, f n c = none)
    {cs : List Char} (h : c ∈ cs) (n : Nat) : cs.foldlM f n = none := by
  induction cs generalizing n with
  | nil => cases h
  | cons d cs ih =>
    rw [List.foldlM_cons]
    rcases List.mem_cons.mp h with rfl | hmem
    · rw [hc n]
      rfl
    · cases f n d with
      | none => rfl
      | some m => exact ih hmem m

/-- No reference holds an apostrophe. -/
theorem referent?_of_mem {name : List Char} (h : apostrophe ∈ name) : referent? name = none := by
  have hhex : ∀ digits : List Char, apostrophe ∈ digits → Xml.hexValue? digits = none :=
    fun digits hmem => foldlM_eq_none (fun _ => rfl) hmem 0
  have hdecimal : ∀ digits : List Char, apostrophe ∈ digits → Xml.decimalValue? digits = none :=
    fun digits hmem => foldlM_eq_none (fun _ => rfl) hmem 0
  have hnamed : ∀ word : String, apostrophe ∉ word.toList → String.ofList name ≠ word := by
    rintro word hword rfl
    exact hword (by rwa [String.toList_ofList])
  unfold referent?
  split
  · rename_i digits
    rw [hhex digits (by simpa [apostrophe] using h)]
    rfl
  · rename_i digits _
    rw [hdecimal digits (by simpa [apostrophe] using h)]
    rfl
  · unfold Xml.predefined?
    split
    · exact absurd ‹_› (hnamed "lt" (by decide))
    · exact absurd ‹_› (hnamed "gt" (by decide))
    · exact absurd ‹_› (hnamed "amp" (by decide))
    · exact absurd ‹_› (hnamed "apos" (by decide))
    · exact absurd ‹_› (hnamed "quot" (by decide))
    · rfl

theorem expandFrom_of_mem {name : List Char} (h : apostrophe ∈ name) (s : List Char) :
    expandFrom (some name) s = none := by
  induction s generalizing name with
  | nil => rfl
  | cons c s ih =>
    rw [expandFrom, referent?_of_mem h, ih (List.mem_append_left _ h)]
    simp

theorem body_of_mem {name : List Char} (h : apostrophe ∈ name) (s : List Char) :
    body (some name) s = none := by
  induction s generalizing name with
  | nil => rfl
  | cons c s ih =>
    rw [body, referent?_of_mem h, ih (List.mem_append_left _ h)]
    simp

/-- **A literal is read as its text with the references expanded.** -/
theorem body_double (cs : List Char) {s : List Char} (hs : NoApostrophe s)
    (reference : Option (List Char)) :
    body reference (doubleApostrophes cs ++ apostrophe :: s) =
      (expandFrom reference cs).map fun value => (value, s) := by
  induction cs generalizing reference with
  | nil =>
    cases reference with
    | none =>
      cases s with
      | nil => simp [doubleApostrophes, body, expandFrom]
      | cons d s => simp [doubleApostrophes, body, expandFrom, hs d rfl]
    | some name =>
      -- the closing apostrophe would have to be a part of the reference
      have hmem : apostrophe ∈ name ++ [apostrophe] := by simp
      have hne : apostrophe ≠ ';' := by decide
      simp [doubleApostrophes, body, expandFrom, hne, body_of_mem hmem]
  | cons c cs ih =>
    cases reference with
    | none =>
      by_cases hc : c = apostrophe
      · have hne : apostrophe ≠ '&' := by decide
        simp [doubleApostrophes, body, expandFrom, hc, hne, ih none, Function.comp_def]
      · -- one more character stands behind `c`, if only the closing apostrophe
        obtain ⟨d, rest, hrest⟩ : ∃ d rest,
            doubleApostrophes cs ++ apostrophe :: s = d :: rest := by
          cases hd : doubleApostrophes cs with
          | nil => exact ⟨_, _, rfl⟩
          | cons d rest => exact ⟨_, _, rfl⟩
        rw [doubleApostrophes, if_neg hc, List.cons_append, hrest, body, if_neg hc, ← hrest,
          ih none, ih (some []), expandFrom]
        by_cases hamp : c = '&'
        · rw [if_pos hamp, if_pos hamp]
        · rw [if_neg hamp, if_neg hamp, Option.map_map, Option.map_map]
          rfl
    | some name =>
      by_cases hc : c = apostrophe
      · have hmem : apostrophe ∈ name ++ [apostrophe] := by simp
        have hne : apostrophe ≠ ';' := by decide
        subst hc
        simp only [doubleApostrophes, if_true, List.cons_append, body, hne, if_false, expandFrom,
          expandFrom_of_mem hmem, body_of_mem (List.mem_append_left _ hmem), Option.map_none]
      · rw [doubleApostrophes, if_neg hc, List.cons_append, body, expandFrom, ih none,
          ih (some (name ++ [c]))]
        by_cases hsemi : c = ';'
        · rw [if_pos hsemi, if_pos hsemi]
          cases referent? name with
          | none => rfl
          | some d => simp [Function.comp_def]
        · rw [if_neg hsemi, if_neg hsemi]

theorem read_quote (v : String) {s : List Char} (hs : NoApostrophe s) :
    read ((quote v).toList ++ s) =
      (expand v.toList).map fun value => (String.ofList value, s) := by
  have htext : (quote v).toList ++ s =
      apostrophe :: (doubleApostrophes v.toList ++ apostrophe :: s) := by
    simp [quote]
  rw [htext, read, if_pos rfl, body_double v.toList hs, expand, Option.map_map]
  rfl

/-! ### Texts that stay as they are -/

theorem length_expandFrom {reference : Option (List Char)} {cs value : List Char}
    (h : expandFrom reference cs = some value) : value.length ≤ cs.length := by
  induction cs generalizing reference value with
  | nil =>
    cases reference with
    | none =>
      obtain rfl : [] = value := by simpa [expandFrom] using h
      exact Nat.le_refl 0
    | some name => simp [expandFrom] at h
  | cons c cs ih =>
    cases reference with
    | none =>
      rw [expandFrom] at h
      by_cases hc : c = '&'
      · rw [if_pos hc] at h
        exact Nat.le_succ_of_le (ih h)
      · rw [if_neg hc] at h
        obtain ⟨rest, hrest, rfl⟩ := Option.map_eq_some_iff.mp h
        exact Nat.succ_le_succ (ih hrest)
    | some name =>
      rw [expandFrom] at h
      by_cases hc : c = ';'
      · rw [if_pos hc] at h
        obtain ⟨d, -, hd⟩ := Option.bind_eq_some_iff.mp h
        obtain ⟨rest, hrest, rfl⟩ := Option.map_eq_some_iff.mp hd
        exact Nat.succ_le_succ (ih hrest)
      · rw [if_neg hc] at h
        exact Nat.le_succ_of_le (ih h)

/-- A text stays as it is exactly if it has no ampersand. -/
theorem expand_eq_self_iff {cs : List Char} : expand cs = some cs ↔ '&' ∉ cs := by
  constructor
  · intro h hmem
    -- the first ampersand makes the text shorter
    have hshorter : ∀ {cs value : List Char}, expandFrom none cs = some value → '&' ∈ cs →
        value.length < cs.length := by
      intro cs
      induction cs with
      | nil =>
        intro value _ hmem
        cases hmem
      | cons c cs ih =>
        intro value h hmem
        rw [expandFrom] at h
        by_cases hc : c = '&'
        · rw [if_pos hc] at h
          exact Nat.lt_succ_of_le (length_expandFrom h)
        · rw [if_neg hc] at h
          obtain ⟨rest, hrest, rfl⟩ := Option.map_eq_some_iff.mp h
          have htail : '&' ∈ cs := (List.mem_cons.mp hmem).resolve_left (Ne.symm hc)
          exact Nat.succ_lt_succ (ih hrest htail)
    exact Nat.lt_irrefl _ (hshorter h hmem)
  · intro h
    rw [expand]
    induction cs with
    | nil => rfl
    | cons c cs ih =>
      obtain ⟨hc, hcs⟩ := not_or.mp (fun hor => h (List.mem_cons.mpr hor))
      rw [expandFrom, if_neg (Ne.symm hc), ih hcs]
      rfl

theorem length_body {reference : Option (List Char)} {s : List Char} {r : List Char × List Char}
    (h : body reference s = some r) : r.2.length < s.length := by
  fun_induction body reference s generalizing r with
  | case1 => cases h
  | case2 =>
    cases h
    exact Nat.one_pos
  | case3 => cases h
  | case4 s ih =>
    obtain ⟨r, hr, rfl⟩ := Option.map_eq_some_iff.mp h
    have hrest : r.2.length < s.length := ih hr
    exact Nat.lt_succ_of_lt (Nat.lt_succ_of_lt hrest)
  | case5 d s =>
    cases h
    exact Nat.lt_succ_self _
  | case6 d s hd ih => exact Nat.lt_succ_of_lt (ih h)
  | case7 c d s hc hamp ih =>
    obtain ⟨r, hr, rfl⟩ := Option.map_eq_some_iff.mp h
    have hrest : r.2.length < (d :: s).length := ih hr
    exact Nat.lt_succ_of_lt hrest
  | case8 name s ih =>
    obtain ⟨d, -, hd⟩ := Option.bind_eq_some_iff.mp h
    obtain ⟨r, hr, rfl⟩ := Option.map_eq_some_iff.mp hd
    have hrest : r.2.length < s.length := ih hr
    exact Nat.lt_succ_of_lt hrest
  | case9 name c s hc ih => exact Nat.lt_succ_of_lt (ih h)

theorem length_read {s rest : List Char} {v : String} (h : read s = some (v, rest)) :
    rest.length < s.length := by
  cases s with
  | nil => cases h
  | cons c s =>
    rw [read] at h
    by_cases hc : c = apostrophe
    · rw [if_pos hc] at h
      obtain ⟨r, hr, hrest⟩ := Option.map_eq_some_iff.mp h
      obtain ⟨-, rfl⟩ := Prod.mk.inj hrest
      exact Nat.lt_succ_of_lt (length_body hr)
    · rw [if_neg hc] at h
      cases h

end StringLiteral

/-! ### The comparisons of a constraint -/

/-- What a literal is compared with. -/
inductive Operand where
  /-- `./text()`: the texts directly inside. -/
  | text
  /-- `name()`: the name of a child. -/
  | name
  deriving DecidableEq, Repr

abbrev Compared := List (Operand × String)

namespace Compared

/-- A comparison that starts here: its operand, and what stands behind the equals sign. -/
def opening (s : List Char) : Option (Operand × List Char) :=
  match XPath.word "./text() = " s with
  | some rest => some (.text, rest)
  | none => (XPath.word "/name() = " s).map fun rest => (.name, rest)

theorem length_opening {s behind : List Char} {operand : Operand}
    (h : opening s = some (operand, behind)) : behind.length ≤ s.length := by
  have hword : ∀ {w : String} {rest : List Char}, XPath.word w s = some rest →
      rest.length ≤ s.length := by
    intro w rest hrest
    rw [← List.isPrefixOf?_eq_some_iff_append_eq.mp hrest, List.length_append]
    exact Nat.le_add_left _ _
  unfold opening at h
  split at h
  · cases h
    exact hword ‹_›
  · obtain ⟨rest, hrest, hpair⟩ := Option.map_eq_some_iff.mp h
    cases hpair
    exact hword hrest

/-- The comparisons with literals in the text of a constraint.  There is no reading of the
    text if a literal cannot be read or stands anywhere else. -/
def read (s : List Char) : Option Compared :=
  match s with
  | [] => some []
  | c :: s =>
    match _ : opening (c :: s) with
    | some (operand, behind) =>
      match _ : StringLiteral.read behind with
      | some (value, rest) => (read rest).map ((operand, value) :: ·)
      | none => none
    | none => if c = apostrophe then none else read s
termination_by s.length
decreasing_by
  · exact Nat.lt_of_lt_of_le (StringLiteral.length_read ‹_›) (length_opening ‹_›)
  · exact Nat.lt_succ_self _

theorem read_of_opening {s behind : List Char} {operand : Operand}
    (h : opening s = some (operand, behind)) :
    read s = (StringLiteral.read behind).bind fun r => (read r.2).map ((operand, r.1) :: ·) := by
  cases s with
  | nil => cases h
  | cons c s =>
    rw [read]
    split
    · rename_i heq
      rw [h] at heq
      cases heq
      split
      · rename_i hliteral
        rw [hliteral]
        rfl
      · rename_i hliteral
        rw [hliteral]
        rfl
    · rename_i heq
      rw [h] at heq
      cases heq

theorem read_skip {c : Char} {s : List Char} (h : opening (c :: s) = none) (hc : c ≠ apostrophe) :
    read (c :: s) = read s := by
  rw [read]
  split
  · rename_i heq
    rw [h] at heq
    cases heq
  · exact if_neg hc

/-- The comparisons as they are read: every literal with its references expanded. -/
def expanded (compared : Compared) : Option Compared :=
  compared.mapM fun c => (StringLiteral.expand c.2.toList).map fun value => (c.1, String.ofList value)

theorem expanded_append (compared compared' : Compared) :
    expanded (compared ++ compared') =
      compared.expanded.bind fun cs => compared'.expanded.map (cs ++ ·) := by
  rw [expanded, List.mapM_append]
  change (compared.expanded >>= fun cs => compared'.expanded >>= fun cs' => pure (cs ++ cs')) = _
  cases compared.expanded with
  | none => rfl
  | some cs => cases compared'.expanded <;> rfl

/-- A character with which no comparison and no literal starts. -/
def isFiller (c : Char) : Bool := c != '.' && c != '/' && c != apostrophe

/-- From this text these comparisons are read, wherever it stands. -/
structure Writes (text : String) (compared : Compared) : Prop where
  starts : NoApostrophe text.toList
  reads : ∀ {s : List Char}, NoApostrophe s →
    read (text.toList ++ s) = compared.expanded.bind fun cs => (read s).map (cs ++ ·)

theorem noApostrophe_append {s t : List Char} (hs : NoApostrophe s) (ht : NoApostrophe t) :
    NoApostrophe (s ++ t) := by
  cases s with
  | nil => exact ht
  | cons c s => exact hs

namespace Writes

variable {text text' : String} {compared compared' : Compared}

theorem append (h : Writes text compared) (h' : Writes text' compared') :
    Writes (text ++ text') (compared ++ compared') := by
  constructor
  · rw [String.toList_append]
    exact noApostrophe_append h.starts h'.starts
  · intro s hs
    rw [String.toList_append, List.append_assoc, h.reads (noApostrophe_append h'.starts hs),
      h'.reads hs, expanded_append]
    cases compared.expanded with
    | none => rfl
    | some cs =>
      cases compared'.expanded with
      | none => rfl
      | some cs' => simp [Function.comp_def]

/-- Nothing is compared in a text that holds neither a start of a comparison nor a literal. -/
theorem filler (h : text.toList.all isFiller = true) : Writes text [] := by
  have hskip : ∀ (cs : List Char), cs.all isFiller = true → ∀ s, read (cs ++ s) = read s := by
    intro cs
    induction cs with
    | nil => exact fun _ _ => rfl
    | cons c cs ih =>
      intro h s
      rw [List.all_cons, Bool.and_eq_true] at h
      have hc : (c ≠ '.' ∧ c ≠ '/') ∧ c ≠ apostrophe := by simpa [isFiller] using h.1
      have hopening : opening (c :: (cs ++ s)) = none := by
        simp [opening, XPath.word, List.isPrefixOf?, Ne.symm hc.1.1, Ne.symm hc.1.2]
      rw [List.cons_append, read_skip hopening hc.2, ih h.2]
  constructor
  · intro c hc
    have hfiller := List.all_eq_true.mp h c (List.mem_of_head? hc)
    exact (by simpa [isFiller] using hfiller : _ ∧ c ≠ apostrophe).2
  · intro s _
    rw [hskip _ h]
    cases hread : read s <;> simp [expanded]

theorem number (k : Nat) : Writes (toString k) [] := by
  apply filler
  rw [List.all_eq_true]
  intro c hc
  have hne : ∀ d : Char, d.isDigit = false → c ≠ d := fun d => XPath.ne_of_mem_toString hc
  simp [isFiller, hne '.' rfl, hne '/' rfl, hne apostrophe rfl]

/-- A comparison with a literal. -/
theorem comparison {start : String} (operand : Operand) (value : String)
    (hstarts : ∀ s, NoApostrophe (start.toList ++ s))
    (h : ∀ s, opening (start.toList ++ s) = some (operand, s)) :
    Writes (start ++ quote value) [(operand, value)] := by
  constructor
  · rw [String.toList_append]
    exact hstarts _
  · intro s hs
    rw [String.toList_append, List.append_assoc, read_of_opening (h _),
      StringLiteral.read_quote value hs]
    cases hvalue : StringLiteral.expand value.toList <;> simp [expanded, hvalue]

theorem textIs (value : String) : Writes (Constraint.textIs value) [(.text, value)] := by
  apply comparison
  · intro s c hc
    obtain rfl : '.' = c := by simpa using hc
    decide
  · intro s
    rw [opening, XPath.word_append]

theorem nameIs (index : Nat) (name : String) :
    Writes (Constraint.nameIs index name) [(.name, name)] := by
  have hname : Writes ("/name() = " ++ quote name) [(.name, name)] := by
    apply comparison
    · intro s c hc
      obtain rfl : '/' = c := by simpa using hc
      decide
    · intro s
      have hother : XPath.word "./text() = " ("/name() = ".toList ++ s) = none := rfl
      rw [opening, hother, XPath.word_append]
      rfl
  have htext : Constraint.nameIs index name =
      "*[" ++ (toString index ++ ("]" ++ ("/name() = " ++ quote name))) := by
    apply String.toList_injective
    simp [Constraint.nameIs]
  rw [htext]
  exact (filler (by decide)).append ((number index).append ((filler (by decide)).append hname))

theorem bracket (h : Writes text compared) : Writes (Constraint.bracket text) compared := by
  unfold Constraint.bracket
  split
  · rename_i hempty
    rwa [hempty] at h
  · have hbrackets := ((filler (by decide : "[".toList.all isFiller = true)).append h).append
      (filler (by decide : "]".toList.all isFiller = true))
    rwa [List.nil_append, List.append_nil] at hbrackets

theorem behindAnd (h : Writes text compared) : Writes (" and " ++ text) compared :=
  (filler (by decide)).append h

end Writes

end Compared

open Compared (Writes)

namespace Constraint

/-- The comparisons of a constraint, in the order in which they are written. -/
def compared : Constraint → Compared
  | nil => []
  | text value rest => (.text, value) :: rest.compared
  | named _ name rest => (.name, name) :: rest.compared
  | nested _ name inner rest => (.name, name) :: (inner.compared ++ rest.compared)

theorem writes_more {c : Constraint} (h : Writes c.render c.compared) :
    Writes c.more c.compared := by
  by_cases hc : c = nil
  · subst hc
    exact Writes.filler (by decide)
  · rw [more_of_ne_nil hc]
    exact h.behindAnd

theorem writes_render (c : Constraint) : Writes c.render c.compared := by
  induction c with
  | nil => exact Writes.filler (by decide)
  | text value rest ih =>
    rw [render_text]
    exact (Writes.textIs value).append (writes_more ih)
  | named index name rest ih =>
    rw [render_named]
    exact (Writes.nameIs index name).append (writes_more ih)
  | nested index name inner rest ihinner ih =>
    have hchild := ((Writes.nameIs index name).append
      (Writes.filler (by decide : " and *[".toList.all Compared.isFiller = true))).append
        (Writes.number index)
    have hbracket := (hchild.append
      (Writes.filler (by decide : "]".toList.all Compared.isFiller = true))).append ihinner.bracket
    have hall := hbracket.append (writes_more ih)
    rw [render_nested]
    simpa only [compared, List.append_nil, List.nil_append, List.cons_append] using hall

end Constraint

namespace RootCondition

def compared : RootCondition → Compared
  | text value => [(.text, value)]
  | child inner => inner.compared

theorem writes_render (c : RootCondition) : Writes c.render c.compared := by
  cases c with
  | text value => exact Writes.textIs value
  | child inner => exact inner.writes_render.bracket

theorem writes_renderAll (cs : List RootCondition) : Writes (renderAll cs) (cs.flatMap compared) := by
  have hjoin : ∀ cs : List RootCondition,
      Writes (Text.join " and " (cs.map render)) (cs.flatMap compared) := by
    intro cs
    induction cs with
    | nil => exact Writes.filler (by decide)
    | cons c cs ih =>
      rw [List.map_cons, Text.join_cons, List.flatMap_cons]
      refine c.writes_render.append ?_
      by_cases hcs : cs = []
      · subst hcs
        exact Writes.filler (by decide)
      · rw [if_neg (by simpa using hcs)]
        exact ih.behindAnd
  exact hjoin cs

end RootCondition

/-! ### What a pattern has to be compared with -/

namespace Content

/-- The trimmed texts and the names of the elements, in document order.  Wildcards and
    annotations are not compared. -/
def compared : Content → Compared
  | nil => []
  | text value rest => (.text, trim value) :: rest.compared
  | element tag inner rest =>
    if tag.isWildcard || tag.isAnnotation then rest.compared
    else (.name, tag.localName) :: (inner.compared ++ rest.compared)

/-- The same of a main element: its own children are not compared by name. -/
def rootCompared : Content → Compared
  | nil => []
  | text value rest => (.text, trim value) :: rest.rootCompared
  | element tag inner rest =>
    if tag.isWildcard || tag.isAnnotation then rest.rootCompared
    else inner.compared ++ rest.rootCompared

theorem compared_constraint (c : Content) (before : Nat) :
    (c.constraint before).compared = c.compared := by
  induction c generalizing before with
  | nil => rfl
  | text value rest ih => simp only [constraint, Constraint.compared, compared, ih]
  | element tag inner rest ihinner ih =>
    rw [constraint, compared]
    by_cases hwild : tag.isWildcard = true
    · rw [if_pos hwild, hwild, Bool.true_or, if_pos rfl, ih]
    · by_cases hann : tag.isAnnotation = true
      · rw [if_neg hwild, if_pos hann, hann, Bool.or_true, if_pos rfl, ih]
      · have hneither : (tag.isWildcard || tag.isAnnotation) ≠ true := by simp [hwild, hann]
        rw [if_neg hwild, if_neg hann, if_neg hneither]
        by_cases hempty : inner.isEmpty = true
        · have hnil : inner.compared = [] := by
            rw [isEmpty_iff.mp hempty]
            rfl
          rw [if_pos hempty, Constraint.compared, ih, hnil, List.nil_append]
        · rw [if_neg hempty, Constraint.compared, ih, ihinner]

theorem compared_rootConditions (c : Content) :
    c.rootConditions.flatMap RootCondition.compared = c.rootCompared := by
  induction c with
  | nil => rfl
  | text value rest ih =>
    rw [rootConditions, List.flatMap_cons, ih]
    rfl
  | element tag inner rest _ ih =>
    rw [rootConditions, rootCompared]
    by_cases hskipped : (tag.isWildcard || tag.isAnnotation) = true
    · rw [if_pos hskipped, if_pos hskipped, ih]
    · rw [if_neg hskipped, if_neg hskipped, List.flatMap_cons, ih, RootCondition.compared,
        compared_constraint]

end Content

def Element.compared (e : Element) (isMain : Bool) : Compared :=
  if isMain then e.content.rootCompared else e.content.compared

/-- The text of conditions, and what they compare with. -/
inductive Compared.Emitted : String → Compared → Prop where
  | constraint (c : Constraint) : Emitted c.render c.compared
  | rootConditions (cs : List RootCondition) :
    Emitted (RootCondition.renderAll cs) (cs.flatMap RootCondition.compared)

theorem Compared.Emitted.writes {text : String} {compared : Compared} (h : Emitted text compared) :
    Writes text compared := by
  cases h with
  | constraint c => exact Constraint.writes_render c
  | rootConditions cs => exact RootCondition.writes_renderAll cs

theorem Session.emitted_compileAs {isMain : Bool} {e : Element} {s s' : Session} {text : String}
    (h : (compileAs isMain e).run s = .ok text s') :
    Compared.Emitted text (e.compared isMain) := by
  have htext : ∀ {rs : List Record} {written : String},
      (replay rs >>= fun _ => pure written).run s = .ok text s' → text = written := by
    intro rs written hrun
    rw [EStateM.run_bind] at hrun
    cases hreplay : (replay rs).run s with
    | ok _ _ =>
      rw [hreplay] at hrun
      cases hrun
      rfl
    | error _ _ =>
      rw [hreplay] at hrun
      cases hrun
  cases isMain with
  | true =>
    simp only [compileAs, compileMain, if_true, constrainRoot_eq_replay, bind_assoc,
      pure_bind] at h
    rw [htext h, Element.compared, if_pos rfl, ← Content.compared_rootConditions]
    exact .rootConditions _
  | false =>
    simp only [compileAs, compileNested, if_false, Bool.false_eq_true, constrain_eq_replay,
      bind_assoc, pure_bind] at h
    rw [htext h, Element.compared, if_neg Bool.false_ne_true,
      ← Content.compared_constraint e.content 0]
    exact .constraint _

namespace Compared

theorem Writes.read_eq {text : String} {compared : Compared} (h : Writes text compared) :
    read text.toList = compared.expanded := by
  have hread := h.reads (s := []) (by simp [NoApostrophe])
  rw [List.append_nil] at hread
  rw [hread]
  cases compared.expanded <;> simp [read]

theorem expanded_cons (c : Operand × String) (compared : Compared) :
    expanded (c :: compared) =
      (StringLiteral.expand c.2.toList).bind fun value =>
        (expanded compared).map ((c.1, String.ofList value) :: ·) := by
  have hone : expanded [c] =
      (StringLiteral.expand c.2.toList).map fun value => [(c.1, String.ofList value)] := by
    rw [expanded, List.mapM_cons, List.mapM_nil]
    cases StringLiteral.expand c.2.toList <;> rfl
  rw [← List.singleton_append, expanded_append, hone]
  cases StringLiteral.expand c.2.toList <;> rfl

theorem expanded_eq_self_iff {compared : Compared} :
    compared.expanded = some compared ↔ ∀ c ∈ compared, '&' ∉ c.2.toList := by
  induction compared with
  | nil => simp [expanded]
  | cons c compared ih =>
    rw [List.forall_mem_cons, ← ih, ← StringLiteral.expand_eq_self_iff, expanded_cons]
    constructor
    · intro h
      obtain ⟨value, hvalue, hrest⟩ := Option.bind_eq_some_iff.mp h
      obtain ⟨rest, hrest, hlist⟩ := Option.map_eq_some_iff.mp hrest
      obtain ⟨hhead, rfl⟩ := List.cons.inj hlist
      have htext : String.ofList value = c.2 := congrArg Prod.snd hhead
      rw [← htext, String.toList_ofList]
      exact ⟨by rwa [← htext, String.toList_ofList] at hvalue, hrest⟩
    · rintro ⟨hvalue, hrest⟩
      simp [hvalue, hrest]

end Compared

/-- **What the literals of a query stand for.**  A literal stands for the text that it was made
    from with the references in it expanded, with nothing left over, and there is no such
    literal if an ampersand starts no reference; so it stands for the text itself exactly if
    there is no ampersand.  A constraint compares with the trimmed texts and the local names
    of its pattern, each in the same way expanded, and with exactly these texts and names if
    and only if no ampersand is in them. -/
theorem literals_stand_for_texts (v : String) (isMain : Bool) (e : Element) (s : Session) :
    (StringLiteral.read (quote v).toList =
      (StringLiteral.expand v.toList).map fun value => (String.ofList value, [])) ∧
    (StringLiteral.read (quote v).toList = some (v, []) ↔ '&' ∉ v.toList) ∧
    ∀ (text : String) (s' : Session), (Session.compileAs isMain e).run s = .ok text s' →
      Compared.read text.toList = (e.compared isMain).expanded ∧
      (Compared.read text.toList = some (e.compared isMain) ↔
        ∀ c ∈ e.compared isMain, '&' ∉ c.2.toList) := by
  have hread : StringLiteral.read (quote v).toList =
      (StringLiteral.expand v.toList).map fun value => (String.ofList value, []) := by
    have hquote := StringLiteral.read_quote v (s := []) (by simp [NoApostrophe])
    rwa [List.append_nil] at hquote
  refine ⟨hread, ?_, ?_⟩
  · rw [hread, ← StringLiteral.expand_eq_self_iff, Option.map_eq_some_iff]
    constructor
    · rintro ⟨value, hvalue, hpair⟩
      have htext : String.ofList value = v := congrArg Prod.fst hpair
      rw [← htext, String.toList_ofList] at hvalue ⊢
      exact hvalue
    · intro hvalue
      exact ⟨v.toList, hvalue, by rw [String.ofList_toList]⟩
  · intro text s' hrun
    have hwrites := (Session.emitted_compileAs hrun).writes
    rw [hwrites.read_eq]
    exact ⟨rfl, Compared.expanded_eq_self_iff⟩

/-- Apostrophes at the ends and in runs, a text that looks like a comparison, and layout. -/
def primed : Element where
  tag := { localName := "apply" }
  content :=
    .text " \n" <|
    .element { localName := "ci" } (.text "f''" .nil) <|
    .element (wildcardTag "x") .nil <|
    .element { localName := "annotation" } (.text "&" .nil) <|
    .element { localName := "csymbol" } (.text "  ' and *[1]/name() = 'ci  " .nil) .nil

def primedText : String :=
  "./text() = '' and *[1]/name() = 'ci' and *[1][./text() = 'f''''']" ++
    " and *[4]/name() = 'csymbol' and *[4][./text() = ''' and *[1]/name() = ''ci']"

theorem primed_literals_stand_for_texts :
    StringLiteral.read (quote "'f''").toList = some ("'f''", []) ∧
    (Session.compileAs false primed).run { restrictLength := false } =
      .ok primedText { restrictLength := false, occurrences := [⟨"x", [2]⟩] } ∧
    Compared.read primedText.toList =
      some [(.text, ""), (.name, "ci"), (.text, "f''"), (.name, "csymbol"),
        (.text, "' and *[1]/name() = 'ci")] := by
  have htext : (primed.content.constraint 0).render = primedText := by decide +kernel
  have hrun : (Session.compileAs false primed).run { restrictLength := false } =
      .ok primedText { restrictLength := false, occurrences := [⟨"x", [2]⟩] } := by
    rw [← htext]
    exact Session.compileNested_ok primed false rfl
  have hplain : (primed.compared false).all (fun c => !c.2.toList.contains '&') = true := by
    decide +kernel
  obtain ⟨-, hliteral, hcompared⟩ :=
    literals_stand_for_texts "'f''" false primed { restrictLength := false }
  refine ⟨hliteral.mpr (by decide), hrun, (hcompared _ _ hrun).2.mpr ?_⟩
  intro c hc
  simpa using List.all_eq_true.mp hplain c hc

/-- A reference that the text did not mean, and an ampersand that starts no reference. -/
theorem ampersand_not_kept :
    StringLiteral.read (quote "&lt;").toList = some ("<", []) ∧
    StringLiteral.read (quote "a&b").toList = none := by
  decide +kernel

end FormulaQuery
