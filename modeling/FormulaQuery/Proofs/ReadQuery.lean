/-
  FormulaQuery/Proofs/ReadQuery.lean
  ==================================
  **What a query asks can be read from its text.**  The child counts and the
  equalities of a query are joined in two ways, within the occurrences of one
  name and between them.  `Written` covers both, so that one reader finds all
  comparisons of a `where` clause (`comparisons_written`).

  `Clauses.demand_read` puts predicate and comparisons together: what is read
  behind the first line of a query is what its clauses were made from.
-/
import FormulaQuery.Proofs.ReadConstraint

namespace FormulaQuery

namespace XPath

/-! ### Comparisons and their text -/

def Comparison.write : Comparison → String
  | count path number => "fn:count($x" ++ path.render ++ "/*) = " ++ toString number
  | same left right => WildcardTable.node left ++ " = " ++ WildcardTable.node right

theorem render_cons (k : Nat) (p : Path) :
    Path.render (k :: p) = "/*[" ++ toString k ++ "]" ++ Path.render p := rfl

theorem length_le_render (p : Path) : p.length ≤ p.render.toList.length := by
  induction p with
  | nil => exact Nat.zero_le _
  | cons k p ih =>
    rw [render_cons]
    simp only [String.toList_append, List.length_append, List.length_cons]
    have hword : "/*[".toList.length = 3 := rfl
    omega

theorem path_render (p : Path) {fuel : Nat} {s : List Char} (hs : index "/*[" s = none)
    (hfuel : p.length ≤ fuel) : path fuel (p.render.toList ++ s) = (p, s) := by
  induction p generalizing fuel with
  | nil =>
    cases fuel with
    | zero => rfl
    | succ fuel =>
      have htext : Path.render [] = "" := rfl
      simp only [htext, String.toList_empty, List.nil_append, path, hs]
  | cons k p ih =>
    obtain ⟨fuel, rfl⟩ : ∃ n, fuel = n + 1 := ⟨fuel - 1, by simp at hfuel; omega⟩
    have hrest := ih (Nat.le_of_succ_le_succ hfuel)
    simp only [render_cons, String.toList_append, List.append_assoc, path, index_toString, hrest]

theorem node_render (p : Path) {s : List Char} (hs : index "/*[" s = none) :
    node ((WildcardTable.node p).toList ++ s) = some (p, s) := by
  have hfuel : p.length ≤ (p.render.toList ++ s).length := by
    rw [List.length_append]
    exact Nat.le_trans (length_le_render p) (Nat.le_add_right _ _)
  simp only [node, WildcardTable.node, String.toList_append, List.append_assoc, word_append,
    Option.map_some, path_render p hs hfuel]

/-- A comparison comes to an end here: a blank or a new line follows. -/
def Separates (s : List Char) : Prop := ∃ rest, s = ' ' :: rest ∨ s = '\n' :: rest

theorem index_of_separates {s : List Char} (h : Separates s) : index "/*[" s = none := by
  obtain ⟨rest, rfl | rfl⟩ := h <;> rfl

theorem noDigit_of_separates {s : List Char} (h : Separates s) : NoDigit s := by
  intro c hc
  obtain ⟨rest, rfl | rfl⟩ := h
  · obtain rfl : ' ' = c := by simpa using hc
    rfl
  · obtain rfl : '\n' = c := by simpa using hc
    rfl

theorem comparison_write (c : Comparison) {s : List Char} (hs : Separates s) :
    comparison (c.write.toList ++ s) = some (c, s) := by
  cases c with
  | count p n =>
    have htext : (Comparison.count p n).write.toList ++ s =
        "fn:count(".toList ++ ((WildcardTable.node p).toList ++ ("/*) = ".toList ++
          ((toString n).toList ++ s))) := by
      simp [Comparison.write, WildcardTable.node]
    have hnode := node_render p (s := "/*) = ".toList ++ ((toString n).toList ++ s)) rfl
    rw [htext]
    simp only [comparison, word_append, hnode, number_toString n (noDigit_of_separates hs),
      Option.bind_eq_bind, Option.bind_some, Option.pure_def]
  | same p q =>
    have htext : (Comparison.same p q).write.toList ++ s =
        (WildcardTable.node p).toList ++ (" = ".toList ++ ((WildcardTable.node q).toList ++ s)) := by
      simp [Comparison.write]
    have hnode := node_render p (s := " = ".toList ++ ((WildcardTable.node q).toList ++ s)) rfl
    have hword : word "fn:count("
        ((WildcardTable.node p).toList ++ (" = ".toList ++ ((WildcardTable.node q).toList ++ s))) =
          none := by
      simp only [WildcardTable.node, String.toList_append, List.append_assoc]
      rfl
    rw [htext]
    simp only [comparison, hword, hnode, word_append, node_render q (index_of_separates hs),
      Option.bind_eq_bind, Option.bind_some, Option.pure_def]

theorem Comparison.write_injective : Function.Injective Comparison.write := by
  intro c d h
  have hblank : Separates [' '] := ⟨[], Or.inl rfl⟩
  have hread := comparison_write c hblank
  rw [h, comparison_write d hblank, Option.some.injEq, Prod.mk.injEq] at hread
  exact hread.1.symm

theorem path_render_injective : Function.Injective Path.render := by
  intro p q h
  have hend : index "/*[" [] = none := rfl
  have hread := node_render p hend
  rw [WildcardTable.node, h, ← WildcardTable.node, node_render q hend, Option.some.injEq,
    Prod.mk.injEq] at hread
  exact hread.1.symm

/-- Comparisons as query text: between two of them stands one of two separators. -/
inductive Written : List Comparison → String → Prop
  | single (c : Comparison) : Written [c] c.write
  | cons {cs : List Comparison} {s : String} (c : Comparison) (sep : String)
      (hsep : sep = " and " ∨ sep = "\n and ") (h : Written cs s) :
      Written (c :: cs) (c.write ++ sep ++ s)

theorem Written.ne_empty {cs : List Comparison} {s : String} (h : Written cs s) : s ≠ "" := by
  have hwrite : ∀ c : Comparison, c.write ≠ "" := by
    intro c
    cases c <;> simp [Comparison.write, WildcardTable.node]
  cases h with
  | single c => exact hwrite c
  | cons c sep hsep h => simp [hwrite c]

theorem Written.append {cs ds : List Comparison} {s t sep : String} (hs : Written cs s)
    (hsep : sep = " and " ∨ sep = "\n and ") (ht : Written ds t) :
    Written (cs ++ ds) (s ++ sep ++ t) := by
  induction hs with
  | single c => exact .cons c sep hsep ht
  | cons c sep' hsep' _ ih =>
    have htext : ∀ a b : String, a ++ sep' ++ b ++ sep ++ t = a ++ sep' ++ (b ++ sep ++ t) := by
      intro a b
      simp only [String.append_assoc]
    rw [htext]
    exact .cons c sep' hsep' ih

/-- Joining written parts with a separator writes all their comparisons. -/
theorem Written.join {sep : String} (hsep : sep = " and " ∨ sep = "\n and ")
    {parts : List (List Comparison × String)} (hne : parts ≠ [])
    (h : ∀ part ∈ parts, Written part.1 part.2) :
    Written (parts.flatMap Prod.fst) (Text.join sep (parts.map Prod.snd)) := by
  induction parts with
  | nil => exact absurd rfl hne
  | cons part parts ih =>
    have hpart := h part List.mem_cons_self
    rw [List.flatMap_cons, List.map_cons, Text.join_cons]
    by_cases hparts : parts = []
    · subst hparts
      simpa using hpart
    · have hrest := ih hparts fun p hp => h p (List.mem_cons_of_mem _ hp)
      rw [if_neg (by simpa using hparts), ← String.append_assoc]
      exact hpart.append hsep hrest

theorem Written.join_write {sep : String} (hsep : sep = " and " ∨ sep = "\n and ")
    {cs : List Comparison} (hne : cs ≠ []) : Written cs (Text.join sep (cs.map Comparison.write)) := by
  have hparts : ∀ part ∈ cs.map fun c => ([c], c.write), Written part.1 part.2 := by
    intro part hpart
    obtain ⟨c, -, rfl⟩ := List.mem_map.mp hpart
    exact .single c
  have hwritten := Written.join hsep (by simpa using hne) hparts
  simpa [List.flatMap_map, List.map_map, Function.comp_def] using hwritten

/-- The conditions of a query come to an end here: the map of wildcards or what to
    return follows. -/
def Ends (s : List Char) : Prop :=
  (∃ rest, s = "\nlet".toList ++ rest) ∨ ∃ rest, s = "\n\nreturn".toList ++ rest

theorem separates_of_ends {s : List Char} (h : Ends s) : Separates s := by
  rcases h with ⟨rest, rfl⟩ | ⟨rest, rfl⟩
  · exact ⟨_, Or.inr rfl⟩
  · exact ⟨_, Or.inr rfl⟩

theorem conjunction_of_ends {s : List Char} (h : Ends s) : conjunction s = none := by
  rcases h with ⟨rest, rfl⟩ | ⟨rest, rfl⟩ <;> rfl

theorem conjunction_separator {sep : String} (hsep : sep = " and " ∨ sep = "\n and ")
    (s : List Char) : conjunction (sep.toList ++ s) = some s ∧ Separates (sep.toList ++ s) := by
  rcases hsep with rfl | rfl
  · have hword : word "\n and " (" and ".toList ++ s) = none := rfl
    exact ⟨by simp only [conjunction, hword, word_append], ⟨_, Or.inl rfl⟩⟩
  · exact ⟨by simp only [conjunction, word_append], ⟨_, Or.inr rfl⟩⟩

/-- **Reading comparisons from their text** gives the comparisons and stops where the
    text ends. -/
theorem comparisons_written {cs : List Comparison} {s : String} (h : Written cs s) {fuel : Nat}
    {rest : List Char} (hrest : Ends rest) (hfuel : s.toList.length < fuel) :
    comparisons fuel (s.toList ++ rest) = some (cs, rest) := by
  induction h generalizing fuel with
  | single c =>
    obtain ⟨fuel, rfl⟩ : ∃ n, fuel = n + 1 := ⟨fuel - 1, by omega⟩
    simp only [comparisons, comparison_write c (separates_of_ends hrest),
      conjunction_of_ends hrest, Option.bind_eq_bind, Option.bind_some, Option.pure_def]
  | @cons cs s c sep hsep _ ih =>
    obtain ⟨fuel, rfl⟩ : ∃ n, fuel = n + 1 := ⟨fuel - 1, by omega⟩
    simp only [String.toList_append, List.length_append] at hfuel
    have hlength : 0 < sep.toList.length := by
      rcases hsep with rfl | rfl <;> decide
    have hmore := ih (show s.toList.length < fuel by omega)
    have hsep' := conjunction_separator hsep (s.toList ++ rest)
    simp only [comparisons, String.toList_append, List.append_assoc, comparison_write c hsep'.2,
      hsep'.1, hmore, Option.bind_eq_bind, Option.bind_some, Option.pure_def]

end XPath

def LengthFact.toComparison (f : LengthFact) : XPath.Comparison := .count f.path f.count

theorem LengthFact.render_injective : Function.Injective LengthFact.render := by
  intro f g h
  have heq : f.toComparison = g.toComparison := XPath.Comparison.write_injective h
  obtain ⟨p, n⟩ := f
  obtain ⟨q, m⟩ := g
  simpa [toComparison] using heq

namespace WildcardTable

open XPath

/-- The first of some paths compared with each of the others. -/
def star : List Path → List Comparison
  | [] => []
  | first :: others => others.map fun other => .same first other

def comparisons (t : WildcardTable) : List Comparison := t.flatMap fun entry => star entry.2

theorem pairs_eq_map_write (paths : List Path) : pairs paths = (star paths).map Comparison.write := by
  cases paths with
  | nil => rfl
  | cons first others =>
    simp only [pairs, star, List.map_map]
    rfl

/-- The equalities of a table are its comparisons, unless there are none. -/
theorem equalities_written (t : WildcardTable) :
    (t.comparisons = [] ∧ t.equalities = "") ∨ Written t.comparisons t.equalities := by
  -- the parts are the names that occur more than once
  let parts := (t.filter fun entry => !(star entry.2).isEmpty).map fun entry =>
    (star entry.2, Text.join " and " ((star entry.2).map Comparison.write))
  have hcomparisons : t.comparisons = parts.flatMap Prod.fst := by
    simp only [parts, comparisons, List.flatMap_map]
    clear parts
    induction t with
    | nil => rfl
    | cons entry t ih =>
      cases h : star entry.2 with
      | nil => simpa [List.filter_cons, h] using ih
      | cons c cs => simpa [List.filter_cons, h] using ih
  have hgroups : t.groups = parts.map Prod.snd := by
    simp only [parts, groups, pairs_eq_map_write, List.map_map]
    clear hcomparisons parts
    induction t with
    | nil => rfl
    | cons entry t ih =>
      cases h : star entry.2 with
      | nil => simpa [List.filter_cons, h] using ih
      | cons c cs => simpa [List.filter_cons, h] using ih
  have hwritten : ∀ part ∈ parts, Written part.1 part.2 := by
    intro part hpart
    obtain ⟨entry, hentry, rfl⟩ := List.mem_map.mp hpart
    have hne : star entry.2 ≠ [] := by simpa using (List.mem_filter.mp hentry).2
    exact Written.join_write (Or.inl rfl) hne
  by_cases hparts : parts = []
  · left
    rw [hcomparisons, equalities, hgroups, hparts]
    exact ⟨rfl, rfl⟩
  · right
    rw [hcomparisons, equalities, hgroups]
    exact Written.join (Or.inr rfl) hparts hwritten

end WildcardTable

/-! ### The demand of a query -/

theorem LengthFact.join_written (fs : List LengthFact) :
    (fs = [] ∧ Text.join "\n and " (fs.map LengthFact.render) = "") ∨
      XPath.Written (fs.map LengthFact.toComparison)
        (Text.join "\n and " (fs.map LengthFact.render)) := by
  by_cases hfs : fs = []
  · left
    subst hfs
    exact ⟨rfl, rfl⟩
  · right
    have hne : fs.map LengthFact.toComparison ≠ [] := by simpa using hfs
    have hwritten : XPath.Written _ (Text.join "\n and " _) :=
      XPath.Written.join_write (Or.inr rfl) hne
    rwa [List.map_map] at hwritten

namespace Clauses

open XPath

/-- The `where` clause for child counts and a table of wildcards: the comparisons of
    both, or nothing if there are none. -/
theorem whereClause_written (c : Clauses) (fs : List LengthFact) (t : WildcardTable)
    (hlengths : c.lengths = Text.join "\n and " (fs.map LengthFact.render))
    (hequalities : c.equalities = t.equalities) :
    (fs.map LengthFact.toComparison ++ t.comparisons = [] ∧ c.whereClause = "") ∨
      ∃ s, c.whereClause = "\nwhere\n" ++ s ∧
        Written (fs.map LengthFact.toComparison ++ t.comparisons) s := by
  rcases LengthFact.join_written fs with ⟨rfl, hempty⟩ | hfs
  · rw [hempty] at hlengths
    rcases t.equalities_written with ⟨hnone, hempty'⟩ | ht
    · left
      simp [whereClause, hlengths, hequalities, hempty', hnone]
    · right
      refine ⟨c.equalities, ?_, by simpa [hequalities] using ht⟩
      simp [whereClause, hlengths, hequalities, ht.ne_empty]
  · rw [← hlengths] at hfs
    right
    rcases t.equalities_written with ⟨hnone, hempty'⟩ | ht
    · refine ⟨c.lengths, ?_, by simpa [hnone] using hfs⟩
      simp [whereClause, hequalities, hempty', hfs.ne_empty]
    · rw [← hequalities] at ht
      refine ⟨c.lengths ++ "\n and " ++ c.equalities, ?_, hfs.append (Or.inr rfl) ht⟩
      simp [whereClause, hfs.ne_empty, ht.ne_empty, String.append_assoc]

theorem ends_of_map (c : Clauses) (t : WildcardTable) (footer : String)
    (hmap : c.map = "" ∨ c.map = t.binding) :
    Ends (c.mapClause ++ "\n\nreturn\n" ++ footer).toList := by
  have hnone : Ends ("" ++ "\n\nreturn\n" ++ footer).toList :=
    Or.inr ⟨"\n".toList ++ footer.toList, by simp⟩
  by_cases h : c.map = ""
  · simpa only [mapClause, h, if_true] using hnone
  · have hbinding : c.map = t.binding := hmap.resolve_left h
    have ht : t.isEmpty = false := by
      cases t with
      | nil => exact absurd hbinding h
      | cons entry t => rfl
    left
    simp only [mapClause, h, if_false]
    rw [hbinding, WildcardTable.binding, ht]
    exact ⟨_, by simp; rfl⟩

/-- **Reading a query.**  Behind the first line of a query stand the brackets of its
    constraint and its `where` clause; what is read there are the conditions of the
    constraint, the child counts and the comparisons of the wildcard table. -/
theorem demand_read (c : Clauses) (constraint : Constraint) (fs : List LengthFact)
    (t : WildcardTable) (hlengths : c.lengths = Text.join "\n and " (fs.map LengthFact.render))
    (hequalities : c.equalities = t.equalities) {rest : List Char} (hrest : Ends rest) :
    demand ((Constraint.bracket constraint.render ++ c.whereClause).toList ++ rest) =
      some (⟨constraint.toCondition, fs.map LengthFact.toComparison ++ t.comparisons⟩, rest) := by
  have hwhere := c.whereClause_written fs t hlengths hequalities
  have hword : word "[" (c.whereClause.toList ++ rest) = none := by
    rcases hwhere with ⟨-, htext⟩ | ⟨s, htext, -⟩
    · rw [htext]
      rcases hrest with ⟨r, rfl⟩ | ⟨r, rfl⟩ <;> rfl
    · rw [htext, String.toList_append]
      rfl
  have hpredicate : bracketed
      (conditions ((Constraint.bracket constraint.render ++ c.whereClause).toList ++ rest).length)
      ((Constraint.bracket constraint.render ++ c.whereClause).toList ++ rest) =
        some (constraint.toCondition, c.whereClause.toList ++ rest) := by
    have hlength : ∀ h : constraint ≠ .nil, constraint.render.toList.length ≤
        ((Constraint.bracket constraint.render ++ c.whereClause).toList ++ rest).length := by
      intro h
      have hbracket := Constraint.length_bracket h
      simp only [String.toList_append, List.length_append]
      omega
    have hread := Constraint.bracketed_bracket hword fun h r hr =>
      Constraint.conditions_render h hr (hlength h)
    simpa only [String.toList_append, List.append_assoc] using hread
  simp only [demand, hpredicate, Option.bind_eq_bind, Option.bind_some, Option.pure_def]
  rcases hwhere with ⟨hnone, htext⟩ | ⟨s, htext, hwritten⟩
  · have hwhere : word "\nwhere\n" rest = none := by
      rcases hrest with ⟨r, rfl⟩ | ⟨r, rfl⟩ <;> rfl
    simp only [htext, String.toList_empty, List.nil_append, hwhere, hnone]
  · have hread : comparisons (s.toList ++ rest).length (s.toList ++ rest) =
        some (fs.map LengthFact.toComparison ++ t.comparisons, rest) := by
      refine comparisons_written hwritten hrest ?_
      rw [List.length_append]
      have hpos : 0 < rest.length := by
        rcases hrest with ⟨r, rfl⟩ | ⟨r, rfl⟩ <;> simp
      omega
    simp only [htext, String.toList_append, List.append_assoc, word_append, hread,
      Option.bind_some]

end Clauses

end FormulaQuery
