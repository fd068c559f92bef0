/-
  FormulaQuery/Proofs/ReadConstraint.lean
  =======================================
  **Constraints can be read back from their text.**  A literal may hold anything,
  brackets and further conditions included, and the text of a nested constraint
  stands in the middle of the text of another.  `conditions_render` says that the
  reader nevertheless finds the conditions that were written, and that it stops
  where the constraint ends.

  It follows that different constraints have different texts (`render_injective`).
-/
import FormulaQuery.Proofs.XPath

namespace FormulaQuery

/-! ### Constraints as conditions -/

theorem Text.join_cons (sep s : String) (rest : List String) :
    Text.join sep (s :: rest) = s ++ if rest = [] then "" else sep ++ Text.join sep rest := by
  cases rest with
  | nil => simp [Text.join]
  | cons t rest => simp [Text.join, String.append_assoc]

namespace Constraint

open XPath

/-- The conditions that a constraint is written as.  A nested constraint takes two: one
    on the name of the child and one on what is inside it. -/
def toCondition : Constraint → Condition
  | nil => .always
  | text value rest => .textIs value rest.toCondition
  | named index name rest => .nameIs index name rest.toCondition
  | nested index name inner rest =>
    .nameIs index name (.child index inner.toCondition rest.toCondition)

theorem toCondition_ne_child (c : Constraint) (index : Nat) (inner rest : Condition) :
    c.toCondition ≠ .child index inner rest := by
  cases c <;> simp [toCondition]

theorem toCondition_injective : Function.Injective toCondition := by
  intro c
  induction c with
  | nil =>
    intro d h
    cases d <;> simp [toCondition] at h ⊢
  | text value rest ih =>
    intro d h
    cases d <;> simp [toCondition] at h ⊢
    exact ⟨h.1, ih h.2⟩
  | named index name rest ih =>
    intro d h
    cases d with
    | named index' name' rest' =>
      simp only [toCondition, Condition.nameIs.injEq] at h
      obtain ⟨rfl, rfl, hrest⟩ := h
      rw [ih hrest]
    | nested index' name' inner' rest' =>
      simp only [toCondition, Condition.nameIs.injEq] at h
      exact absurd h.2.2 (toCondition_ne_child rest _ _ _)
    | nil => simp [toCondition] at h
    | text value rest' => simp [toCondition] at h
  | nested index name inner rest ihi ihr =>
    intro d h
    cases d with
    | nested index' name' inner' rest' =>
      simp only [toCondition, Condition.nameIs.injEq, Condition.child.injEq] at h
      obtain ⟨rfl, rfl, -, hinner, hrest⟩ := h
      rw [ihi hinner, ihr hrest]
    | named index' name' rest' =>
      simp only [toCondition, Condition.nameIs.injEq] at h
      exact absurd h.2.2.symm (toCondition_ne_child rest' _ _ _)
    | nil => simp [toCondition] at h
    | text value rest' => simp [toCondition] at h

/-- The text of conditions that stand behind others. -/
def more (c : Constraint) : String := if c = nil then "" else " and " ++ c.render

theorem conditions_eq_nil_iff {c : Constraint} : c.conditions = [] ↔ c = nil := by
  cases c <;> simp [conditions]

theorem conjunction_cons (s : String) (c : Constraint) :
    conjunction (s :: c.conditions) = s ++ c.more := by
  simp only [conjunction, Text.join_cons, conditions_eq_nil_iff, more, render]

@[simp] theorem render_nil : nil.render = "" := rfl

@[simp] theorem more_nil : nil.more = "" := rfl

theorem more_of_ne_nil {c : Constraint} (h : c ≠ nil) : c.more = " and " ++ c.render := if_neg h

theorem render_text (value : String) (rest : Constraint) :
    (text value rest).render = textIs value ++ rest.more :=
  conjunction_cons _ rest

theorem render_named (index : Nat) (name : String) (rest : Constraint) :
    (named index name rest).render = nameIs index name ++ rest.more :=
  conjunction_cons _ rest

theorem render_nested (index : Nat) (name : String) (inner rest : Constraint) :
    (nested index name inner rest).render =
      nameIs index name ++ " and *[" ++ toString index ++ "]" ++ bracket inner.render ++
        rest.more :=
  conjunction_cons _ rest

theorem render_ne_empty {c : Constraint} (h : c ≠ nil) : c.render ≠ "" := by
  cases c with
  | nil => exact absurd rfl h
  | text value rest => simp [render_text, textIs]
  | named index name rest => simp [render_named, nameIs]
  | nested index name inner rest => simp [render_nested, nameIs]

theorem bracket_render_of_ne_nil {c : Constraint} (h : c ≠ nil) :
    bracket c.render = "[" ++ c.render ++ "]" := if_neg (render_ne_empty h)

/-- Conditions come to an end here: the text ends, or the bracket is closed. -/
def Closes (s : List Char) : Prop := s = [] ∨ ∃ rest, s = "]".toList ++ rest

theorem word_of_closes {s : List Char} (h : Closes s) :
    word " and " s = none ∧ word "[" s = none ∧ word "/name() = " s = none := by
  rcases h with rfl | ⟨rest, rfl⟩
  · exact ⟨rfl, rfl, rfl⟩
  · exact ⟨rfl, rfl, rfl⟩

/-- Behind a condition there is neither a bracket nor a comparison of names, and no
    apostrophe that would continue a literal. -/
theorem word_more {c : Constraint} {s : List Char} (h : Closes s) :
    word "[" (c.more.toList ++ s) = none ∧ word "/name() = " (c.more.toList ++ s) = none ∧
      NoApostrophe (c.more.toList ++ s) := by
  by_cases hc : c = nil
  · subst hc
    refine ⟨(word_of_closes h).2.1, (word_of_closes h).2.2, ?_⟩
    rcases h with rfl | ⟨rest, rfl⟩
    · simp [NoApostrophe]
    · simp [NoApostrophe, Text.apostrophe]
  · rw [more_of_ne_nil hc, String.toList_append, List.append_assoc]
    refine ⟨rfl, rfl, ?_⟩
    simp [NoApostrophe, Text.apostrophe]

/-- Reading goes on behind a condition as it goes on in the constraint. -/
theorem further_more {c : Constraint} {fuel : Nat} {s : List Char} (hs : Closes s)
    (hc : c ≠ nil → XPath.conditions fuel (c.render.toList ++ s) = some (c.toCondition, s)) :
    further (XPath.conditions fuel) (c.more.toList ++ s) = some (c.toCondition, s) := by
  by_cases h : c = nil
  · subst h
    simp only [more_nil, String.toList_empty, List.nil_append, further, (word_of_closes hs).1,
      toCondition]
  · rw [more_of_ne_nil h, String.toList_append, List.append_assoc]
    simp only [further, word_append, hc h]

/-- Brackets are read as what they hold, and no brackets as no condition. -/
theorem bracketed_bracket {c : Constraint} {fuel : Nat} {s : List Char} (hs : word "[" s = none)
    (hc : c ≠ nil → ∀ r, Closes r →
      XPath.conditions fuel (c.render.toList ++ r) = some (c.toCondition, r)) :
    bracketed (XPath.conditions fuel) ((bracket c.render).toList ++ s) =
      some (c.toCondition, s) := by
  by_cases h : c = nil
  · subst h
    simp only [render_nil, bracket, if_true, String.toList_empty, List.nil_append, bracketed, hs,
      toCondition]
  · have hread := hc h ("]".toList ++ s) (Or.inr ⟨s, rfl⟩)
    simp only [bracket_render_of_ne_nil h, String.toList_append, List.append_assoc, bracketed,
      word_append, hread, Option.bind_eq_bind, Option.bind_some, Option.pure_def]

theorem length_more {c : Constraint} (h : c ≠ nil) :
    c.render.toList.length < c.more.toList.length := by
  rw [more_of_ne_nil h, String.toList_append, List.length_append]
  exact Nat.lt_add_of_pos_left (by decide)

theorem length_bracket {c : Constraint} (h : c ≠ nil) :
    c.render.toList.length < (bracket c.render).toList.length := by
  rw [bracket_render_of_ne_nil h, String.toList_append, String.toList_append, List.length_append,
    List.length_append]
  have hopen : "[".toList.length = 1 := rfl
  omega

/-- The name of a child and what follows it, read from its text. -/
theorem conditions_nameIs (index : Nat) (name : String) {fuel : Nat} {s r : List Char}
    {rest : Condition} (hs : NoApostrophe s)
    (hrest : further (XPath.conditions fuel) s = some (rest, r)) :
    XPath.conditions (fuel + 1) ((nameIs index name).toList ++ s) =
      some (.nameIs index name rest, r) := by
  have htext : (nameIs index name).toList ++ s =
      "*[".toList ++ ((toString index).toList ++ ("]".toList ++
        ("/name() = ".toList ++ ((Text.quote name).toList ++ s)))) := by
    simp [nameIs]
  have hword : word "./text() = " ((nameIs index name).toList ++ s) = none := by
    rw [htext]
    rfl
  simp only [XPath.conditions, hword]
  rw [htext]
  simp only [index_toString, word_append, literal_quote name hs, hrest, Option.bind_eq_bind,
    Option.bind_some, Option.pure_def]

/-- A child and what stands in brackets behind it, read from their text. -/
theorem conditions_child (index : Nat) {fuel : Nat} {s s' r : List Char} {inner rest : Condition}
    (hname : word "/name() = " s = none)
    (hinner : bracketed (XPath.conditions fuel) s = some (inner, s'))
    (hrest : further (XPath.conditions fuel) s' = some (rest, r)) :
    XPath.conditions (fuel + 1) ("*[".toList ++ ((toString index).toList ++ ("]".toList ++ s))) =
      some (.child index inner rest, r) := by
  have hword : word "./text() = "
      ("*[".toList ++ ((toString index).toList ++ ("]".toList ++ s))) = none := rfl
  simp only [XPath.conditions, hword, index_toString, hname, hinner, hrest, Option.bind_eq_bind,
    Option.bind_some, Option.pure_def]

/-- **Reading a constraint from its text** gives its conditions and stops where the
    text of the constraint ends. -/
theorem conditions_render {c : Constraint} (hc : c ≠ nil) {fuel : Nat} {s : List Char}
    (hs : Closes s) (hfuel : c.render.toList.length ≤ fuel) :
    XPath.conditions fuel (c.render.toList ++ s) = some (c.toCondition, s) := by
  induction c generalizing fuel s with
  | nil => exact absurd rfl hc
  | text value rest ih =>
    simp only [render_text, textIs, String.toList_append, List.length_append] at hfuel
    have hword : "./text() = ".toList.length = 11 := rfl
    obtain ⟨fuel, rfl⟩ : ∃ n, fuel = n + 1 := ⟨fuel - 1, by omega⟩
    have hmore : further (XPath.conditions fuel) (rest.more.toList ++ s) =
        some (rest.toCondition, s) :=
      further_more hs fun h => ih h hs (by have := length_more h; omega)
    have htext : (text value rest).render.toList ++ s =
        "./text() = ".toList ++ ((Text.quote value).toList ++ (rest.more.toList ++ s)) := by
      simp [render_text, textIs]
    rw [htext]
    simp only [XPath.conditions, word_append, literal_quote value (word_more hs).2.2, hmore,
      Option.bind_eq_bind, Option.bind_some, Option.pure_def, toCondition]
  | named index name rest ih =>
    simp only [render_named, nameIs, String.toList_append, List.length_append] at hfuel
    have hword : "*[".toList.length = 2 := rfl
    obtain ⟨fuel, rfl⟩ : ∃ n, fuel = n + 1 := ⟨fuel - 1, by omega⟩
    have hmore : further (XPath.conditions fuel) (rest.more.toList ++ s) =
        some (rest.toCondition, s) :=
      further_more hs fun h => ih h hs (by have := length_more h; omega)
    rw [render_named, String.toList_append, List.append_assoc]
    exact conditions_nameIs index name (word_more hs).2.2 hmore
  | nested index name inner rest ihi ihr =>
    simp only [render_nested, nameIs, String.toList_append, List.length_append] at hfuel
    have hword : "*[".toList.length = 2 := rfl
    -- one condition for the name, one for the child itself
    obtain ⟨fuel, rfl⟩ : ∃ n, fuel = n + 1 + 1 := ⟨fuel - 2, by omega⟩
    have hmore : further (XPath.conditions fuel) (rest.more.toList ++ s) =
        some (rest.toCondition, s) :=
      further_more hs fun h => ihr h hs (by have := length_more h; omega)
    have hbracket : bracketed (XPath.conditions fuel)
        ((bracket inner.render).toList ++ (rest.more.toList ++ s)) =
          some (inner.toCondition, rest.more.toList ++ s) :=
      bracketed_bracket (word_more hs).1 fun h r hr =>
        ihi h hr (by have := length_bracket h; omega)
    have hname : word "/name() = " ((bracket inner.render).toList ++ (rest.more.toList ++ s)) =
        none := by
      by_cases h : inner = nil
      · subst h
        exact (word_more hs).2.1
      · rw [bracket_render_of_ne_nil h, String.toList_append, String.toList_append]
        rfl
    have hchild := conditions_child index hname hbracket hmore
    have htext : (nested index name inner rest).render.toList ++ s =
        (nameIs index name).toList ++ (" and ".toList ++ ("*[".toList ++
          ((toString index).toList ++ ("]".toList ++
            ((bracket inner.render).toList ++ (rest.more.toList ++ s)))))) := by
      simp [render_nested]
    rw [htext]
    refine conditions_nameIs index name ?_ ?_
    · simp [NoApostrophe, Text.apostrophe]
    · simp only [further, word_append, hchild]

theorem render_injective : Function.Injective render := by
  intro c d h
  by_cases hc : c = nil
  · subst hc
    by_contra hd
    exact render_ne_empty (Ne.symm hd) h.symm
  · have hd : d ≠ nil := by
      rintro rfl
      exact render_ne_empty hc h
    have hclosed : Closes [] := Or.inl rfl
    have hread := conditions_render hc hclosed (Nat.le_refl _)
    have hread' := conditions_render hd hclosed (Nat.le_refl _)
    rw [h, hread', Option.some.injEq, Prod.mk.injEq] at hread
    exact toCondition_injective hread.1.symm

end Constraint

end FormulaQuery
