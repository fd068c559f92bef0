/-
  FormulaQuery/Proofs/ForClause.lean
  ==================================
  **What stands behind the `for` line.**  The query binds `$x` to the elements
  with some name, and the constraint behind that line narrows them down.  There it
  has to be nothing, or one predicate: a conjunction in brackets.

  A main element puts one condition there for each of its texts and for each child
  that is compared, with ` and ` between any two of them, also next to a condition
  that is empty.  So the line is well formed exactly for a main element without
  texts and with at most one compared child
  (`constraint_is_predicate_iff`).

  For several conditions in brackets the question is whether the first bracket and
  the last one could belong together.  They do not, because a conjunction never
  closes a bracket that it has not opened (`IsConjunction.balanced`).
-/
import FormulaQuery.Proofs.Grammar
import FormulaQuery.Proofs.ReadQuery

namespace FormulaQuery

open Text (join quote apostrophe IsLiteral)

namespace Grammar

/-! ### Conjunctions -/

/-- One item of a conjunction; what stands in its brackets is a conjunction again. -/
inductive Conjunct : String → Prop
  | text {lit : String} (hlit : IsLiteral lit) : Conjunct ("./text() = " ++ lit)
  | named {k : Nat} {lit : String} (hlit : IsLiteral lit) :
      Conjunct ("*[" ++ toString k ++ "]/name() = " ++ lit)
  | opened {k : Nat} {lit : String} (hlit : IsLiteral lit) :
      Conjunct ("*[" ++ toString k ++ "]/name() = " ++ lit ++ " and *[" ++ toString k ++ "]")
  | nested {k : Nat} {lit : String} {items : List String} (hlit : IsLiteral lit)
      (hne : items ≠ []) (hitems : ∀ s ∈ items, Conjunct s) :
      Conjunct ("*[" ++ toString k ++ "]/name() = " ++ lit ++ " and *[" ++ toString k ++ "][" ++
        join " and " items ++ "]")

def IsConjunction (text : String) : Prop :=
  ∃ items, items ≠ [] ∧ (∀ s ∈ items, Conjunct s) ∧ text = join " and " items

/-- Nothing, or a conjunction in brackets. -/
def IsPredicate (text : String) : Prop :=
  text = "" ∨ ∃ inner, IsConjunction inner ∧ text = "[" ++ inner ++ "]"

/-! ### Brackets -/

/-- What stands behind the first closing bracket that belongs to no opening one, when
    `depth` brackets are open.  Brackets in literals do not count. -/
def unopened : (inside : Bool) → (depth : Nat) → List Char → Option (List Char)
  | _, _, [] => none
  | true, depth, c :: cs => unopened (c != apostrophe) depth cs
  | false, depth, c :: cs =>
    if c = '[' then unopened false (depth + 1) cs
    else if c = ']' then
      match depth with
      | 0 => some cs
      | depth + 1 => unopened false depth cs
    else unopened (c == apostrophe) depth cs

def Balanced (s : String) : Prop :=
  ∀ depth rest, unopened false depth (s.toList ++ rest) = unopened false depth rest

/-- Neither a bracket nor the start of a literal. -/
def isPlain (c : Char) : Bool := c != '[' && c != ']' && c != apostrophe

theorem unopened_plain {cs : List Char} (h : cs.all isPlain = true) (depth : Nat)
    (rest : List Char) : unopened false depth (cs ++ rest) = unopened false depth rest := by
  induction cs with
  | nil => rfl
  | cons c cs ih =>
    rw [List.all_cons, Bool.and_eq_true] at h
    have hc : (c ≠ '[' ∧ c ≠ ']') ∧ c ≠ apostrophe := by simpa [isPlain] using h.1
    have hplain : (c == apostrophe) = false := beq_eq_false_iff_ne.mpr hc.2
    rw [List.cons_append, ← ih h.2]
    cases depth <;> simp [unopened, hc.1, hplain]

theorem balanced_plain {s : String} (h : s.toList.all isPlain = true) : Balanced s :=
  unopened_plain h

theorem balanced_number (k : Nat) : Balanced (toString k) := by
  apply balanced_plain
  rw [List.all_eq_true]
  intro c hc
  have hne : ∀ d : Char, d.isDigit = false → c ≠ d := fun d => XPath.ne_of_mem_toString hc
  simp [isPlain, hne '[' rfl, hne ']' rfl, hne apostrophe rfl]

theorem unopened_doubled {body : List Char} (h : Text.Doubled body) (depth : Nat)
    (rest : List Char) :
    unopened true depth (body ++ apostrophe :: rest) = unopened false depth rest := by
  induction h with
  | nil => rfl
  | plain hc _ ih => rw [List.cons_append, unopened, bne_iff_ne.mpr hc, ih]
  | pair _ ih => exact ih

theorem balanced_literal {lit : String} (h : IsLiteral lit) : Balanced lit := by
  intro depth rest
  obtain ⟨body, hbody, hlit⟩ := h
  have hopen : lit.toList ++ rest = apostrophe :: (body ++ apostrophe :: rest) := by simp [hlit]
  rw [hopen]
  exact unopened_doubled hbody depth rest

namespace Balanced

variable {s t : String}

theorem append (hs : Balanced s) (ht : Balanced t) : Balanced (s ++ t) := by
  intro depth rest
  rw [String.toList_append, List.append_assoc, hs, ht]

theorem brackets (hs : Balanced s) : Balanced ("[" ++ s ++ "]") := by
  intro depth rest
  have htext : ("[" ++ s ++ "]").toList ++ rest = '[' :: (s.toList ++ ']' :: rest) := by simp
  rw [htext]
  exact hs (depth + 1) (']' :: rest)

/-- Behind a balanced text, a closing bracket belongs to one in front of it. -/
theorem unopened_closing (hs : Balanced s) (rest : List Char) :
    unopened false 0 (s.toList ++ ']' :: rest) = some rest := by
  rw [hs]
  rfl

theorem join_and {texts : List String} (h : ∀ s ∈ texts, Balanced s) :
    Balanced (join " and " texts) := by
  induction texts with
  | nil => exact balanced_plain rfl
  | cons s rest ih =>
    obtain ⟨hs, hrest⟩ := List.forall_mem_cons.mp h
    cases rest with
    | nil => exact hs
    | cons t rest => exact (hs.append (balanced_plain rfl)).append (ih hrest)

end Balanced

theorem balanced_name (k : Nat) {lit : String} (h : IsLiteral lit) :
    Balanced ("*[" ++ toString k ++ "]/name() = " ++ lit) := by
  have htext : "*[" ++ toString k ++ "]/name() = " ++ lit =
      "*" ++ ("[" ++ toString k ++ "]") ++ "/name() = " ++ lit := by
    apply String.toList_injective
    simp
  rw [htext]
  have hindex := (balanced_number k).brackets
  have hstar : Balanced "*" := balanced_plain rfl
  have hword : Balanced "/name() = " := balanced_plain rfl
  exact ((hstar.append hindex).append hword).append (balanced_literal h)

theorem balanced_opened (k : Nat) {lit : String} (h : IsLiteral lit) :
    Balanced ("*[" ++ toString k ++ "]/name() = " ++ lit ++ " and *[" ++ toString k ++ "]") := by
  have htext : ∀ s : String, s ++ " and *[" ++ toString k ++ "]" =
      s ++ (" and *" ++ ("[" ++ toString k ++ "]")) := by
    intro s
    apply String.toList_injective
    simp
  rw [htext]
  have hword : Balanced " and *" := balanced_plain rfl
  exact (balanced_name k h).append (hword.append (balanced_number k).brackets)

theorem Conjunct.balanced {s : String} (h : Conjunct s) : Balanced s := by
  induction h with
  | text hlit => exact Balanced.append (balanced_plain rfl) (balanced_literal hlit)
  | named hlit => exact balanced_name _ hlit
  | opened hlit => exact balanced_opened _ hlit
  | @nested k lit items hlit _ _ ih =>
    have htext : ∀ s t : String, s ++ "][" ++ t ++ "]" = s ++ "]" ++ ("[" ++ t ++ "]") := by
      intro s t
      apply String.toList_injective
      simp
    rw [htext]
    exact (balanced_opened k hlit).append (Balanced.join_and ih).brackets

theorem IsConjunction.balanced {text : String} (h : IsConjunction text) : Balanced text := by
  obtain ⟨items, -, hitems, rfl⟩ := h
  exact Balanced.join_and fun s hs => (hitems s hs).balanced

/-- A predicate with more behind it is no predicate. -/
theorem not_isPredicate_append {inner more : String} (h : IsConjunction inner) (hmore : more ≠ "") :
    ¬ IsPredicate ("[" ++ inner ++ "]" ++ more) := by
  rintro (hempty | ⟨inner', h', htext⟩)
  · simp at hempty
  · have hchars := congrArg (fun s => s.toList.tail) htext
    have hleft : ("[" ++ inner ++ "]" ++ more).toList.tail = inner.toList ++ ']' :: more.toList := by
      simp
    have hright : ("[" ++ inner' ++ "]").toList.tail = inner'.toList ++ [']'] := by simp
    have hrest := congrArg (unopened false 0) (hleft.symm.trans (hchars.trans hright))
    rw [h.balanced.unopened_closing, h'.balanced.unopened_closing, Option.some.injEq] at hrest
    exact hmore (String.toList_eq_nil_iff.mp hrest)

theorem not_isPredicate_of_head {text : String} {c : Char} (h : text.toList.head? = some c)
    (hc : c ≠ '[') : ¬ IsPredicate text := by
  rintro (rfl | ⟨inner, -, rfl⟩)
  · cases h
  · apply hc
    simpa using h.symm

end Grammar

open Grammar

/-! ### The conditions of a main element -/

theorem Constraint.conjunct_of_mem_conditions {c : Constraint} {s : String}
    (h : s ∈ c.conditions) : Conjunct s := by
  induction c generalizing s with
  | nil => cases h
  | text value rest ih =>
    rcases List.mem_cons.mp h with rfl | hs
    · exact .text (Text.isLiteral_quote value)
    · exact ih hs
  | named index name rest ih =>
    rcases List.mem_cons.mp h with rfl | hs
    · exact .named (Text.isLiteral_quote name)
    · exact ih hs
  | nested index name inner rest ihi ihr =>
    rcases List.mem_cons.mp h with rfl | hs
    · have hlit := Text.isLiteral_quote name
      by_cases hinner : inner = nil
      · subst hinner
        have hempty : bracket (conjunction nil.conditions) = "" := rfl
        rw [hempty, String.append_empty]
        exact .opened hlit
      · have hbracket : bracket (conjunction inner.conditions) =
            "[" ++ join " and " inner.conditions ++ "]" := bracket_render_of_ne_nil hinner
        have htext : ∀ s t : String, s ++ "]" ++ ("[" ++ t ++ "]") = s ++ "][" ++ t ++ "]" := by
          intro s t
          apply String.toList_injective
          simp
        rw [hbracket, htext]
        exact .nested hlit (mt conditions_eq_nil_iff.mp hinner) fun s hs => ihi hs
    · exact ihr hs

theorem Constraint.isConjunction_render {c : Constraint} (h : c ≠ nil) :
    IsConjunction c.render :=
  ⟨c.conditions, mt conditions_eq_nil_iff.mp h, fun _ hs => conjunct_of_mem_conditions hs, rfl⟩

namespace RootCondition

theorem isPredicate_child (c : Constraint) : IsPredicate (child c).render := by
  by_cases h : c = .nil
  · subst h
    exact Or.inl rfl
  · exact Or.inr ⟨c.render, Constraint.isConjunction_render h, Constraint.bracket_render_of_ne_nil h⟩

theorem renderAll_cons_cons (a b : RootCondition) (rest : List RootCondition) :
    ∃ more, renderAll (a :: b :: rest) = a.render ++ (" and " ++ more) := by
  refine ⟨renderAll (b :: rest), ?_⟩
  rw [← String.append_assoc]
  rfl

/-- Conditions are one predicate only if there are none, or one on a child. -/
theorem isPredicate_renderAll_iff (conditions : List RootCondition) :
    IsPredicate (renderAll conditions) ↔
      conditions = [] ∨ ∃ c, conditions = [child c] := by
  constructor
  · intro h
    cases conditions with
    | nil => exact Or.inl rfl
    | cons a rest =>
      cases a with
      | text value =>
        -- nothing in front of a text opens a bracket
        have hhead : (renderAll (text value :: rest)).toList.head? = some '.' := by
          cases rest with
          | nil => simp [renderAll, render, Constraint.conjunction, join, Constraint.textIs]
          | cons b rest =>
            obtain ⟨more, hmore⟩ := renderAll_cons_cons (text value) b rest
            simp [hmore, render, Constraint.textIs]
        exact absurd h (not_isPredicate_of_head hhead (by decide))
      | child c =>
        cases rest with
        | nil => exact Or.inr ⟨c, rfl⟩
        | cons b rest =>
          exfalso
          obtain ⟨more, hmore⟩ := renderAll_cons_cons (child c) b rest
          rw [hmore] at h
          by_cases hc : c = .nil
          · subst hc
            have hhead : ((child .nil).render ++ (" and " ++ more)).toList.head? = some ' ' := by
              simp [render, Constraint.bracket]
            exact not_isPredicate_of_head hhead (by decide) h
          · have hrender : (child c).render = "[" ++ c.render ++ "]" :=
              Constraint.bracket_render_of_ne_nil hc
            rw [hrender] at h
            exact not_isPredicate_append (Constraint.isConjunction_render hc) (by simp) h
  · rintro (rfl | ⟨c, rfl⟩)
    · exact Or.inl rfl
    · exact isPredicate_child c

end RootCondition

/-- The children of an element that are compared. -/
def Element.comparedChildren (e : Element) : List Element :=
  e.children.filter fun child => child.tag.isCompared

namespace Content

theorem length_rootConditions (c : Content) :
    c.rootConditions.length =
      c.ownTexts.length + (c.children.filter fun child => child.tag.isCompared).length := by
  induction c with
  | nil => rfl
  | text value rest ih =>
    simp only [rootConditions, ownTexts_text, children_text, List.length_cons, ih]
    omega
  | element tag inner rest _ ih =>
    rw [rootConditions, ownTexts_element, children_element]
    cases hskip : tag.isWildcard || tag.isAnnotation with
    | true =>
      rw [List.filter_cons_of_neg (by simp [Tag.isCompared, hskip])]
      exact ih
    | false =>
      rw [List.filter_cons_of_pos (by simp [Tag.isCompared, hskip])]
      exact congrArg Nat.succ ih

theorem text_mem_rootConditions {c : Content} {value : String} (h : value ∈ c.ownTexts) :
    .text (Text.trim value) ∈ c.rootConditions := by
  induction c with
  | nil => cases h
  | text value' rest ih =>
    rcases List.mem_cons.mp h with rfl | hrest
    · exact List.mem_cons_self
    · exact List.mem_cons_of_mem _ (ih hrest)
  | element tag inner rest _ ih =>
    rw [rootConditions]
    cases hskip : tag.isWildcard || tag.isAnnotation with
    | true => exact ih h
    | false => exact List.mem_cons_of_mem _ (ih h)

theorem ownTexts_ne_nil_of_mem {c : Content} {value : String}
    (h : .text value ∈ c.rootConditions) : c.ownTexts ≠ [] := by
  induction c with
  | nil => cases h
  | text value' rest _ => exact List.cons_ne_nil _ _
  | element tag inner rest _ ih =>
    rw [rootConditions] at h
    cases hskip : tag.isWildcard || tag.isAnnotation with
    | true => exact ih (by simpa [hskip] using h)
    | false => exact ih (by simpa [hskip] using h)

end Content

/-- The constraint of a main element is one predicate exactly if it has no texts and at
    most one child that is compared. -/
theorem Element.isPredicate_rootConditions_iff (main : Element) :
    IsPredicate (RootCondition.renderAll main.content.rootConditions) ↔
      main.ownTexts = [] ∧ main.comparedChildren.length ≤ 1 := by
  have hlength : main.content.rootConditions.length =
      main.ownTexts.length + main.comparedChildren.length := main.content.length_rootConditions
  rw [RootCondition.isPredicate_renderAll_iff]
  constructor
  · rintro (hnil | ⟨c, hchild⟩)
    · rw [hnil, List.length_nil] at hlength
      exact ⟨List.eq_nil_of_length_eq_zero (by omega), by omega⟩
    · have htexts : main.ownTexts = [] := by
        rw [List.eq_nil_iff_forall_not_mem]
        intro value hvalue
        have hmem := Content.text_mem_rootConditions hvalue
        rw [hchild] at hmem
        cases List.mem_singleton.mp hmem
      rw [hchild, List.length_singleton] at hlength
      exact ⟨htexts, by omega⟩
  · rintro ⟨htexts, hone⟩
    rw [htexts, List.length_nil] at hlength
    cases hconditions : main.content.rootConditions with
    | nil => exact Or.inl rfl
    | cons a rest =>
      rw [hconditions, List.length_cons] at hlength
      obtain rfl : rest = [] := List.eq_nil_of_length_eq_zero (by omega)
      cases a with
      | child c => exact Or.inr ⟨c, rfl⟩
      | text value =>
        have hmem : .text value ∈ main.content.rootConditions := by simp [hconditions]
        exact absurd htexts (Content.ownTexts_ne_nil_of_mem hmem)

/-! ### The `for` clause of a query -/

/-- The next clause of a query starts here. -/
def Clauses.OpensClause (text : String) : Prop :=
  (∃ tail, text = "\nwhere\n" ++ tail) ∨ XPath.Ends text.toList

theorem Element.opensClause_clauses (main : Element) (config : Config) :
    Clauses.OpensClause ((main.clauses config).whereClause ++ ((main.clauses config).mapClause ++
      "\n\nreturn\n" ++ (main.clauses config).footer)) := by
  have hwhere := (main.clauses config).whereClause_written
    (if config.restrictLength then main.content.rootLengthFacts else []) main.wildcardTable rfl rfl
  rcases hwhere with ⟨-, hempty⟩ | ⟨asked, hasked, -⟩
  · rw [hempty, String.empty_append]
    right
    apply Clauses.ends_of_map _ main.wildcardTable
    cases hemit : config.emitWildcardMap with
    | true => exact Or.inr (by simp [clauses, hemit])
    | false => exact Or.inl (by simp [clauses, hemit])
  · rw [hasked, String.append_assoc]
    exact Or.inl ⟨_, rfl⟩

/-- **When the `for` clause is well formed.**  Between the `for` line and the next clause
    stand the conditions of the texts and the compared children of the main element, with
    ` and ` between them; the condition of a child is a predicate or empty.  All of it is
    one predicate, or empty, if and only if there is no text and at most one such child. -/
theorem constraint_is_predicate_iff {g : Generator} {main : Element} {query : String}
    (hmain : g.main = some main) (hquery : g.generate.2 = .ok (some query)) :
    ∃ first constraint lengths rest, main.firstElement? = some first ∧
      (main.compile g.config.restrictLength).outcome = .ok (constraint, lengths) ∧
      query = g.config.resolvedHeader ++ "for $x in $m//*:" ++ first.tag.localName ++ "\n" ++
        constraint ++ rest ∧
      Clauses.OpensClause rest ∧
      (∃ conditions, constraint = join " and " conditions ∧
        conditions.length = main.ownTexts.length + main.comparedChildren.length ∧
        ∀ s ∈ conditions, (∃ lit, IsLiteral lit ∧ s = "./text() = " ++ lit) ∨ IsPredicate s) ∧
      (IsPredicate constraint ↔ main.ownTexts = [] ∧ main.comparedChildren.length ≤ 1) := by
  obtain ⟨hnamed, first, hfirst, rfl⟩ := Generator.generate_eq_query hmain hquery
  have hcompile := Element.compile_ok main g.config.restrictLength hnamed
  refine ⟨first, _, _, _, hfirst, by rw [hcompile], ?_, main.opensClause_clauses g.config, ?_,
    main.isPredicate_rootConditions_iff⟩
  · simp only [Clauses.query, String.append_assoc]
    rfl
  · refine ⟨main.content.rootConditions.map RootCondition.render, rfl, ?_, ?_⟩
    · rw [List.length_map]
      exact main.content.length_rootConditions
    · intro s hs
      obtain ⟨condition, -, rfl⟩ := List.mem_map.mp hs
      cases condition with
      | text value => exact Or.inl ⟨_, Text.isLiteral_quote value, rfl⟩
      | child c => exact Or.inr (RootCondition.isPredicate_child c)

/-- A formula between a wildcard and an annotation. -/
def flanked : Element where
  tag := { localName := "semantics" }
  content :=
    .element { localName := "apply" }
      (.element { localName := "plus" } .nil <|
        .element { localName := "ci" } (.text " f' " .nil) .nil) <|
    .element { localName := "qvar", qualifier := some "mws" } (.text "x" .nil) <|
    .element { localName := "annotation" } (.text "f'" .nil) .nil

def bareOptions : Config :=
  { header := some "", footer := some "$x", restrictLength := false, emitWildcardMap := false }

def flankedConstraint : String :=
  "[*[1]/name() = 'plus' and *[2]/name() = 'ci' and *[2][./text() = 'f''']]"

theorem flanked_constraint_is_predicate :
    (Generator.ofMain (some flanked) bareOptions).generate.2 =
      .ok (some ("for $x in $m//*:apply\n" ++ flankedConstraint ++ "\n\nreturn\n$x")) ∧
    flanked.ownTexts = [] ∧ flanked.comparedChildren.length ≤ 1 ∧
    IsPredicate flankedConstraint := by
  have hquery : (Generator.ofMain (some flanked) bareOptions).generate.2 =
      .ok (some ("for $x in $m//*:apply\n" ++ flankedConstraint ++ "\n\nreturn\n$x")) := by
    decide +kernel
  have hcompile : (flanked.compile false).outcome = .ok (flankedConstraint, []) := by
    decide +kernel
  have hone : flanked.ownTexts = [] ∧ flanked.comparedChildren.length ≤ 1 := by decide +kernel
  obtain ⟨first, constraint, lengths, rest, -, hconstraint, -, -, -, hiff⟩ :=
    constraint_is_predicate_iff rfl hquery
  obtain ⟨rfl, -⟩ : flankedConstraint = constraint ∧ [] = lengths :=
    Prod.mk.inj (Except.ok.inj (hcompile.symm.trans hconstraint))
  exact ⟨hquery, hone.1, hone.2, hiff.mpr hone⟩

/-- Two formulas next to each other, neither with anything inside. -/
def twoSymbols : Element where
  tag := { localName := "math" }
  content := .element { localName := "ci" } .nil <| .element { localName := "cn" } .nil .nil

/-- Behind their `for` line stands ` and ` alone. -/
theorem twoSymbols_without_predicate :
    (Generator.ofMain (some twoSymbols) bareOptions).generate.2 =
      .ok (some "for $x in $m//*:ci\n and \n\nreturn\n$x") ∧
    ¬ ∃ constraint rest, "for $x in $m//*:ci\n and \n\nreturn\n$x" =
        "for $x in $m//*:ci\n" ++ constraint ++ rest ∧
      IsPredicate constraint ∧ Clauses.OpensClause rest := by
  refine ⟨by decide +kernel, ?_⟩
  rintro ⟨constraint, rest, htext, hpredicate, hrest⟩
  have hchars : " and \n\nreturn\n$x".toList = constraint.toList ++ rest.toList := by
    have hall := congrArg (fun s => s.toList.drop 19) htext
    simpa using hall
  rcases hpredicate with rfl | ⟨inner, -, rfl⟩
  · rcases hrest with ⟨tail, rfl⟩ | ⟨tail, htail⟩ | ⟨tail, htail⟩
    · simp at hchars
    · simp [htail] at hchars
    · simp [htail] at hchars
  · simp at hchars

end FormulaQuery
