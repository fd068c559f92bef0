/-
  FormulaQuery/Proofs/Table.lean
  ==============================
  **Wildcard tables.**  A table groups occurrences by name.  What it records is
  exactly what it was made from: a path stands under a name if and only if that
  occurrence was met (`recorded_ofOccurrences`).  Names stand in the order of
  their first occurrence and the paths of a name in their order
  (`ofOccurrences_eq_grouped`), no path is lost or doubled
  (`ofOccurrences_perm`), and more occurrences extend a table
  (`ofOccurrences_append`).
-/
import FormulaQuery.Proofs.Compilation

namespace FormulaQuery

namespace WildcardTable

def Recorded (t : WildcardTable) (name : String) (p : Path) : Prop :=
  ∃ paths, (name, paths) ∈ t ∧ p ∈ paths

theorem recorded_nil (name : String) (p : Path) : ¬ Recorded [] name p := by
  rintro ⟨paths, hmem, -⟩
  exact absurd hmem List.not_mem_nil

theorem recorded_cons (entry : String × List Path) (t : WildcardTable) (name : String) (p : Path) :
    Recorded (entry :: t) name p ↔ (entry.1 = name ∧ p ∈ entry.2) ∨ Recorded t name p := by
  constructor
  · rintro ⟨paths, hmem, hp⟩
    rcases List.mem_cons.mp hmem with heq | hmem
    · exact Or.inl ⟨by rw [← heq], by rw [← heq]; exact hp⟩
    · exact Or.inr ⟨paths, hmem, hp⟩
  · rintro (⟨rfl, hp⟩ | ⟨paths, hmem, hp⟩)
    · exact ⟨entry.2, List.mem_cons_self, hp⟩
    · exact ⟨paths, List.mem_cons_of_mem _ hmem, hp⟩

theorem recorded_add (t : WildcardTable) (o : Occurrence) (name : String) (p : Path) :
    Recorded (t.add o) name p ↔ Recorded t name p ∨ o = ⟨name, p⟩ := by
  have hocc : o = ⟨name, p⟩ ↔ o.name = name ∧ p = o.path := by
    obtain ⟨n, q⟩ := o
    simp [eq_comm]
  rw [hocc]
  induction t with
  | nil => simp [add, recorded_cons, recorded_nil]
  | cons entry t ih =>
    by_cases h : entry.1 = o.name
    · simp only [add, h, if_true, recorded_cons, List.mem_append, List.mem_singleton]
      constructor
      · rintro (⟨hn, hp | hp⟩ | ht)
        · exact Or.inl (Or.inl ⟨hn, hp⟩)
        · exact Or.inr ⟨hn, hp⟩
        · exact Or.inl (Or.inr ht)
      · rintro ((⟨hn, hp⟩ | ht) | ⟨hn, hp⟩)
        · exact Or.inl ⟨hn, Or.inl hp⟩
        · exact Or.inr ht
        · exact Or.inl ⟨hn, Or.inr hp⟩
    · simp only [add, h, if_false, recorded_cons, ih, or_assoc]

/-- **A table records what it was made from.** -/
theorem recorded_ofOccurrences (os : List Occurrence) (name : String) (p : Path) :
    Recorded (ofOccurrences os) name p ↔ ⟨name, p⟩ ∈ os := by
  have hfold : ∀ (os : List Occurrence) (t : WildcardTable),
      Recorded (os.foldl add t) name p ↔ Recorded t name p ∨ ⟨name, p⟩ ∈ os := by
    intro os
    induction os with
    | nil => simp
    | cons o os ih =>
      intro t
      rw [List.foldl_cons, ih, recorded_add, List.mem_cons, or_assoc, eq_comm]
  rw [ofOccurrences, hfold]
  simp [recorded_nil]

end WildcardTable

/-! ### Grouping by name -/

theorem eraseDups_nodup (names : List String) : names.eraseDups.Nodup := by
  match names with
  | [] => simp
  | name :: rest =>
    rw [List.eraseDups_cons, List.nodup_cons, List.mem_eraseDups]
    exact ⟨by simp, eraseDups_nodup _⟩
termination_by names.length
decreasing_by exact Nat.lt_succ_of_le (List.length_filter_le _ _)

theorem eraseDups_filter (p : String → Bool) (names : List String) :
    (names.filter p).eraseDups = names.eraseDups.filter p := by
  match names with
  | [] => rfl
  | name :: rest =>
    have ih := eraseDups_filter p (rest.filter fun b => !b == name)
    rw [List.eraseDups_cons]
    by_cases hp : p name = true
    · rw [List.filter_cons_of_pos hp, List.filter_cons_of_pos hp, List.eraseDups_cons, ← ih,
        List.filter_filter, List.filter_filter]
      simp only [Bool.and_comm]
    · rw [List.filter_cons_of_neg hp, List.filter_cons_of_neg hp, ← ih, List.filter_filter]
      have hsame : rest.filter p = rest.filter fun b => p b && !b == name := by
        apply List.filter_congr
        intro b _
        by_cases hb : b = name
        · simp [hb, hp]
        · simp [hb]
      rw [hsame]
termination_by names.length
decreasing_by exact Nat.lt_succ_of_le (List.length_filter_le _ _)

theorem eraseDups_append (names others : List String) :
    (names ++ others).eraseDups =
      names.eraseDups ++ others.eraseDups.filter fun name => name ∉ names := by
  have hnew : others.removeAll names = others.filter fun name => name ∉ names := by
    apply List.filter_congr
    intro name _
    rw [List.elem_eq_mem, ← decide_not]
  rw [List.eraseDups_append, hnew, eraseDups_filter]

/-- The paths of the occurrences with this name, in their order. -/
def pathsNamed (os : List Occurrence) (name : String) : List Path :=
  (os.filter fun o => o.name = name).map Occurrence.path

theorem pathsNamed_append (os ps : List Occurrence) (name : String) :
    pathsNamed (os ++ ps) name = pathsNamed os name ++ pathsNamed ps name := by
  simp only [pathsNamed, List.filter_append, List.map_append]

theorem pathsNamed_eq_nil {os : List Occurrence} {name : String}
    (h : name ∉ os.map Occurrence.name) : pathsNamed os name = [] := by
  have hnone : os.filter (fun o => o.name = name) = [] := by
    rw [List.filter_eq_nil_iff]
    intro o ho heq
    exact h (List.mem_map.mpr ⟨o, ho, of_decide_eq_true heq⟩)
  rw [pathsNamed, hnone, List.map_nil]

theorem mem_pathsNamed {os : List Occurrence} {name : String} {q : Path} :
    q ∈ pathsNamed os name ↔ ⟨name, q⟩ ∈ os := by
  simp only [pathsNamed, List.mem_map, List.mem_filter, decide_eq_true_eq]
  constructor
  · rintro ⟨o, ⟨ho, rfl⟩, rfl⟩
    exact ho
  · intro ho
    exact ⟨_, ⟨ho, rfl⟩, rfl⟩

namespace WildcardTable

/-- The names in the order in which they first occur, each with the paths of its
    occurrences in their order. -/
def grouped (os : List Occurrence) : WildcardTable :=
  (os.map Occurrence.name).eraseDups.map fun name => (name, pathsNamed os name)

/-- The names `names`, each with its paths, and one path more. -/
theorem add_map {names : List String} (hnodup : names.Nodup) (f : String → List Path)
    (o : Occurrence) :
    add (names.map fun name => (name, f name)) o =
      (names.map fun name => (name, f name ++ if name = o.name then [o.path] else [])) ++
        if o.name ∈ names then [] else [(o.name, [o.path])] := by
  induction names with
  | nil => simp [add]
  | cons name names ih =>
    obtain ⟨hfresh, hnodup⟩ := List.nodup_cons.mp hnodup
    rw [List.map_cons, add]
    by_cases h : name = o.name
    · have hrest : (names.map fun name => (name, f name)) =
          names.map fun name => (name, f name ++ if name = o.name then [o.path] else []) := by
        apply List.map_congr_left
        intro other hother
        have hne : other ≠ o.name := fun heq => hfresh (h ▸ heq ▸ hother)
        rw [if_neg hne, List.append_nil]
      simp [h, hrest]
    · simp [h, Ne.symm h, ih hnodup]

theorem add_grouped (os : List Occurrence) (o : Occurrence) :
    (grouped os).add o = grouped (os ++ [o]) := by
  have hpaths : ∀ name, pathsNamed (os ++ [o]) name =
      pathsNamed os name ++ if name = o.name then [o.path] else [] := by
    intro name
    rw [pathsNamed_append]
    by_cases h : name = o.name
    · simp [pathsNamed, h]
    · simp [pathsNamed, h, Ne.symm h]
  rw [grouped, grouped, add_map (eraseDups_nodup _), List.map_append, eraseDups_append,
    List.map_append]
  simp only [hpaths, List.mem_eraseDups]
  congr 1
  have hone : [o.name].eraseDups = [o.name] := List.eraseDups_cons
  rw [List.map_cons, List.map_nil, hone]
  by_cases hmem : o.name ∈ os.map Occurrence.name
  · rw [if_pos hmem, List.filter_cons_of_neg (by simpa using hmem)]
    rfl
  · rw [if_neg hmem, List.filter_cons_of_pos (by simpa using hmem)]
    simp [pathsNamed_eq_nil hmem]

/-- **A table groups the occurrences by name.** -/
theorem ofOccurrences_eq_grouped (os : List Occurrence) : ofOccurrences os = grouped os := by
  have hfold : ∀ ps qs : List Occurrence, qs.foldl add (grouped ps) = grouped (ps ++ qs) := by
    intro ps qs
    induction qs generalizing ps with
    | nil => rw [List.foldl_nil, List.append_nil]
    | cons q qs ih => rw [List.foldl_cons, add_grouped, ih, List.append_assoc, List.singleton_append]
  exact hfold [] os

theorem exists_mem_of_mem_ofOccurrences {os : List Occurrence} {entry : String × List Path}
    (h : entry ∈ ofOccurrences os) : ∃ o ∈ os, o.name = entry.1 ∧ o.path ∈ entry.2 := by
  rw [ofOccurrences_eq_grouped, grouped] at h
  obtain ⟨name, hname, rfl⟩ := List.mem_map.mp h
  obtain ⟨o, ho, rfl⟩ := List.mem_map.mp (List.mem_eraseDups.mp hname)
  exact ⟨o, ho, rfl, mem_pathsNamed.mpr ho⟩

/-! ### Tables that are extended -/

/-- The paths under a name. -/
def paths (t : WildcardTable) (name : String) : List Path := (t.lookup name).getD []

/-- The first table with the paths of the second one: a name that it has keeps its place
    and its paths, and gets the new ones behind them; the other names follow. -/
def merge (t u : WildcardTable) : WildcardTable :=
  (t.map fun entry => (entry.1, entry.2 ++ u.paths entry.1)) ++
    u.filter fun entry => entry.1 ∉ t.map Prod.fst

/-- The table as seen from further up. -/
def below (p : Path) (t : WildcardTable) : WildcardTable :=
  t.map fun entry => (entry.1, entry.2.map (p ++ ·))

theorem paths_grouped (os : List Occurrence) (name : String) :
    (grouped os).paths name = pathsNamed os name := by
  have hlookup : ∀ names : List String,
      (names.map fun n => (n, pathsNamed os n)).lookup name =
        if name ∈ names then some (pathsNamed os name) else none := by
    intro names
    induction names with
    | nil => rfl
    | cons n names ih =>
      rw [List.map_cons, List.lookup_cons, ih]
      by_cases h : name = n
      · simp [h]
      · simp [h, beq_false_of_ne h]
  rw [paths, grouped, hlookup]
  by_cases hmem : name ∈ os.map Occurrence.name
  · rw [if_pos (List.mem_eraseDups.mpr hmem), Option.getD_some]
  · rw [if_neg (fun h => hmem (List.mem_eraseDups.mp h)), pathsNamed_eq_nil hmem, Option.getD_none]

theorem map_fst_grouped (os : List Occurrence) :
    (grouped os).map Prod.fst = (os.map Occurrence.name).eraseDups := by
  rw [grouped, List.map_map]
  exact List.map_id _

theorem merge_grouped (os ps : List Occurrence) :
    (grouped os).merge (grouped ps) = grouped (os ++ ps) := by
  have hold : ((grouped os).map fun entry => (entry.1, entry.2 ++ (grouped ps).paths entry.1)) =
      (os.map Occurrence.name).eraseDups.map fun name => (name, pathsNamed (os ++ ps) name) := by
    simp only [paths_grouped]
    rw [grouped, List.map_map]
    apply List.map_congr_left
    intro name _
    rw [Function.comp_apply, pathsNamed_append]
  have hnew : ((grouped ps).filter fun entry => entry.1 ∉ (grouped os).map Prod.fst) =
      ((ps.map Occurrence.name).eraseDups.filter fun name => name ∉ os.map Occurrence.name).map
        fun name => (name, pathsNamed (os ++ ps) name) := by
    rw [map_fst_grouped, grouped, List.filter_map]
    simp only [Function.comp_def, List.mem_eraseDups]
    apply List.map_congr_left
    intro name hname
    have hfresh : name ∉ os.map Occurrence.name := of_decide_eq_true (List.mem_filter.mp hname).2
    rw [pathsNamed_append, pathsNamed_eq_nil hfresh, List.nil_append]
  rw [merge, hold, hnew, grouped, List.map_append, eraseDups_append, List.map_append]

theorem ofOccurrences_append (os ps : List Occurrence) :
    ofOccurrences (os ++ ps) = (ofOccurrences os).merge (ofOccurrences ps) := by
  rw [ofOccurrences_eq_grouped, ofOccurrences_eq_grouped os, ofOccurrences_eq_grouped ps,
    merge_grouped]

theorem ofOccurrences_map_below (p : Path) (os : List Occurrence) :
    ofOccurrences (os.map (Occurrence.below p)) = (ofOccurrences os).below p := by
  have hnames : (os.map (Occurrence.below p)).map Occurrence.name = os.map Occurrence.name := by
    rw [List.map_map]
    rfl
  have hpaths : ∀ name, pathsNamed (os.map (Occurrence.below p)) name =
      (pathsNamed os name).map (p ++ ·) := by
    intro name
    rw [pathsNamed, pathsNamed, List.filter_map, List.map_map, List.map_map]
    rfl
  rw [ofOccurrences_eq_grouped, ofOccurrences_eq_grouped, grouped, hnames, grouped, below,
    List.map_map]
  apply List.map_congr_left
  intro name _
  rw [hpaths, Function.comp_apply]

/-! ### The paths in a table -/

theorem add_perm (t : WildcardTable) (o : Occurrence) :
    ((t.add o).flatMap Prod.snd).Perm (t.flatMap Prod.snd ++ [o.path]) := by
  induction t with
  | nil => exact List.Perm.refl _
  | cons entry t ih =>
    rw [add]
    by_cases h : entry.1 = o.name
    · rw [if_pos h]
      simp only [List.flatMap_cons, List.append_assoc]
      exact List.Perm.append_left _ List.perm_append_comm
    · rw [if_neg h]
      simp only [List.flatMap_cons, List.append_assoc]
      exact ih.append_left _

theorem ofOccurrences_perm (os : List Occurrence) :
    ((ofOccurrences os).flatMap Prod.snd).Perm (os.map Occurrence.path) := by
  have hfold : ∀ (qs : List Occurrence) (t : WildcardTable),
      ((qs.foldl add t).flatMap Prod.snd).Perm (t.flatMap Prod.snd ++ qs.map Occurrence.path) := by
    intro qs
    induction qs with
    | nil => simp
    | cons q qs ih =>
      intro t
      have hstep := (ih (t.add q)).trans ((add_perm t q).append_right _)
      rw [List.append_assoc, List.singleton_append] at hstep
      rw [List.foldl_cons, List.map_cons]
      exact hstep
  exact hfold os []

end WildcardTable

theorem mem_occurrencesOf {ws : List Sighting} {name : String} {p : Path} :
    ⟨name, p⟩ ∈ occurrencesOf ws ↔ ⟨p, some name⟩ ∈ ws := by
  simp only [occurrencesOf, List.mem_filterMap, Sighting.occurrence?, Option.map_eq_some_iff,
    Occurrence.mk.injEq]
  constructor
  · rintro ⟨⟨p', name'⟩, hmem, _, rfl, rfl, rfl⟩
    exact hmem
  · intro hmem
    exact ⟨_, hmem, name, rfl, rfl, rfl⟩

/-- The table of a main element records the wildcards that have names. -/
theorem Element.recorded_wildcardTable {main : Element} {name : String} {p : Path} :
    main.wildcardTable.Recorded name p ↔ ⟨p, some name⟩ ∈ main.wildcards := by
  rw [wildcardTable, WildcardTable.recorded_ofOccurrences, mem_occurrencesOf]

end FormulaQuery
