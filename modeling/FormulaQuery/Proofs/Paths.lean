/-
  FormulaQuery/Proofs/Paths.lean
  ==============================
  **Where recorded paths lead.**  A compilation looks into an element through its
  compared children (`Reaches`).  Below an element it records exactly the
  wildcards and the child counts of the nodes that it looks into, each at its
  path from that element (`mem_sightings`, `mem_lengthFacts`).

  The paths in a query start at the node that the query binds, which stands for
  the first element child of the main element.  The walk does not enter a path
  for the children of the main element, so a path is right for the first child
  only.  `recorded_paths_lead_right_iff` says when all paths are right: a
  wildcard directly in the main element and a compared child behind the first
  one must happen to be repeated inside the first child.
-/
import FormulaQuery.Proofs.Table

namespace FormulaQuery

/-! ### Nodes that a compilation looks into -/

/-- The path leads down to the node, through compared elements only. -/
inductive Reaches : Element → Path → Element → Prop
  | here (e : Element) : Reaches e [] e
  | down {e child v : Element} {index : Nat} {p : Path} (hchild : e.child? index = some child)
      (hcompared : child.tag.isCompared = true) (h : Reaches child p v) :
      Reaches e (index :: p) v

theorem Reaches.descend?_append {e v : Element} {p : Path} (h : Reaches e p v) (q : Path) :
    e.descend? (p ++ q) = v.descend? q := by
  induction h with
  | here e => rfl
  | down hchild _ _ ih =>
    rw [List.cons_append, Element.descend?_cons_of_child hchild]
    exact ih

theorem Reaches.descend? {e v : Element} {p : Path} (h : Reaches e p v) :
    e.descend? p = some v := by
  simpa using h.descend?_append []

/-- A wildcard with this name, or one without a name. -/
def Element.IsWildcard (e : Element) (name : Option String) : Prop :=
  e.tag.isWildcard = true ∧ wildcardName? e.tag e.content = name

theorem Element.mem_zipIdx_iff {e child : Element} {index : Nat} :
    (child, index) ∈ e.content.children.zipIdx 1 ↔ e.child? index = some child := by
  cases index with
  | zero =>
    constructor
    · intro h
      exact absurd (List.le_snd_of_mem_zipIdx h) (Nat.not_succ_le_zero 0)
    · intro h
      cases h
  | succ index =>
    rw [Element.child?_succ, Nat.add_comm]
    exact List.mk_add_mem_zipIdx_iff_getElem?

theorem Element.hasChildren_of_child? {e child : Element} {index : Nat}
    (h : e.child? index = some child) : e.hasChildren = true := by
  obtain ⟨tag, content⟩ := e
  cases content with
  | nil => cases index <;> cases h
  | text value rest => rfl
  | element tag' inner rest => rfl

theorem Reaches.hasChildren {e v : Element} {p : Path} (h : Reaches e p v)
    (hv : v.hasChildren = true) : e.hasChildren = true := by
  cases h with
  | here _ => exact hv
  | down hchild _ _ => exact Element.hasChildren_of_child? hchild

/-! ### What is recorded below an element -/

theorem exists_mem_zipIdx_cons {x : Element} {xs : List Element} {n : Nat}
    {P : Element → Nat → Prop} :
    (∃ child index, (child, index) ∈ (x :: xs).zipIdx n ∧ P child index) ↔
      P x n ∨ ∃ child index, (child, index) ∈ xs.zipIdx (n + 1) ∧ P child index := by
  simp only [List.zipIdx_cons, List.mem_cons, Prod.mk.injEq]
  constructor
  · rintro ⟨child, index, ⟨rfl, rfl⟩ | hmem, h⟩
    · exact Or.inl h
    · exact Or.inr ⟨child, index, hmem, h⟩
  · rintro (h | ⟨child, index, hmem, h⟩)
    · exact ⟨x, n, Or.inl ⟨rfl, rfl⟩, h⟩
    · exact ⟨child, index, Or.inr hmem, h⟩

namespace Content

/-- What a walk over content meets is met at one of its children. -/
theorem mem_sightings_iff_child (c : Content) (before : Nat) (w : Sighting) :
    w ∈ c.sightings before ↔ ∃ child index, (child, index) ∈ c.children.zipIdx (before + 1) ∧
      (child.IsWildcard w.name ∧ w.path = [index] ∨
        child.tag.isCompared = true ∧ ∃ u ∈ child.content.sightings 0, u.below [index] = w) := by
  induction c generalizing before with
  | nil => simp [sightings]
  | text value rest ih => simpa only [sightings, children_text] using ih before
  | element tag inner rest _ ih =>
    rw [children_element, exists_mem_zipIdx_cons, ← ih (before + 1), sightings]
    cases hw : tag.isWildcard with
    | true =>
      obtain ⟨path, name⟩ := w
      simp [Element.IsWildcard, Tag.isCompared, hw, and_comm, eq_comm]
    | false =>
      cases ha : tag.isAnnotation with
      | true => simp [Element.IsWildcard, Tag.isCompared, hw, ha]
      | false => simp [Element.IsWildcard, Tag.isCompared, hw, ha]

/-- What is recorded for content is the number of its children, or is recorded at one
    of them. -/
theorem mem_lengthFacts_iff_child (c : Content) (before : Nat) (f : LengthFact) :
    f ∈ c.lengthFacts before ↔ f = ⟨[], before + c.children.length⟩ ∨
      ∃ child index, (child, index) ∈ c.children.zipIdx (before + 1) ∧
        child.tag.isCompared = true ∧ child.hasChildren = true ∧
        ∃ u ∈ child.content.lengthFacts 0, u.below [index] = f := by
  induction c generalizing before with
  | nil => simp [lengthFacts]
  | text value rest ih => simpa only [lengthFacts, children_text] using ih before
  | element tag inner rest _ ih =>
    have hcount : before + (rest.children.length + 1) = before + 1 + rest.children.length := by
      omega
    rw [children_element, exists_mem_zipIdx_cons, List.length_cons, hcount, or_left_comm,
      ← ih (before + 1), lengthFacts]
    cases hw : tag.isWildcard with
    | true => simp [Tag.isCompared, hw]
    | false =>
      cases ha : tag.isAnnotation with
      | true => simp [Tag.isCompared, ha]
      | false =>
        cases he : inner.isEmpty with
        | true => simp [Element.hasChildren, he]
        | false => simp [Tag.isCompared, Element.hasChildren, hw, ha, he]

/-- At the children of a main element the paths start anew, except that of a wildcard. -/
theorem mem_rootSightings_iff_child (c : Content) (before : Nat) (w : Sighting) :
    w ∈ c.rootSightings before ↔ ∃ child index, (child, index) ∈ c.children.zipIdx (before + 1) ∧
      (child.IsWildcard w.name ∧ w.path = [index] ∨
        child.tag.isCompared = true ∧ w ∈ child.content.sightings 0) := by
  induction c generalizing before with
  | nil => simp [rootSightings]
  | text value rest ih => simpa only [rootSightings, children_text] using ih before
  | element tag inner rest _ ih =>
    rw [children_element, exists_mem_zipIdx_cons, ← ih (before + 1), rootSightings]
    cases hw : tag.isWildcard with
    | true =>
      obtain ⟨path, name⟩ := w
      simp [Element.IsWildcard, Tag.isCompared, hw, and_comm, eq_comm]
    | false =>
      cases ha : tag.isAnnotation with
      | true => simp [Element.IsWildcard, Tag.isCompared, hw, ha]
      | false => simp [Element.IsWildcard, Tag.isCompared, hw, ha]

theorem mem_rootLengthFacts_iff_child (c : Content) (f : LengthFact) :
    f ∈ c.rootLengthFacts ↔ ∃ child ∈ c.children, child.tag.isCompared = true ∧
      child.hasChildren = true ∧ f ∈ child.content.lengthFacts 0 := by
  induction c with
  | nil => simp [rootLengthFacts]
  | text value rest ih => simpa only [rootLengthFacts, children_text] using ih
  | element tag inner rest _ ih =>
    simp only [children_element, List.mem_cons, or_and_right, exists_or, exists_eq_left]
    rw [← ih, rootLengthFacts]
    cases hw : tag.isWildcard with
    | true => simp [Tag.isCompared, hw]
    | false =>
      cases ha : tag.isAnnotation with
      | true => simp [Tag.isCompared, ha]
      | false =>
        cases he : inner.isEmpty with
        | true => simp [Element.hasChildren, he]
        | false => simp [Tag.isCompared, Element.hasChildren, hw, ha, he]

end Content

/-- **Below an element, exactly the wildcards in the nodes it is looked into are met**, each
    at its path from the element. -/
theorem mem_sightings {e : Element} {q : Path} {name : Option String} :
    ⟨q, name⟩ ∈ e.content.sightings 0 ↔
      ∃ p v index w, Reaches e p v ∧ v.child? index = some w ∧ w.IsWildcard name ∧
        q = p ++ [index] := by
  constructor
  · intro hmem
    induction q generalizing e with
    | nil =>
      obtain ⟨child, index, -, ⟨-, hpath⟩ | ⟨-, u, -, hu⟩⟩ :=
        (Content.mem_sightings_iff_child _ _ _).mp hmem
      · exact absurd hpath (List.cons_ne_nil _ _).symm
      · exact absurd (congrArg Sighting.path hu) (List.cons_ne_nil _ _)
    | cons k q ih =>
      obtain ⟨child, index, hchild, ⟨hwild, hpath⟩ | ⟨hcompared, u, hu, hbelow⟩⟩ :=
        (Content.mem_sightings_iff_child _ _ _).mp hmem
      · rw [Element.mem_zipIdx_iff] at hchild
        exact ⟨[], e, index, child, .here e, hchild, hwild, hpath⟩
      · rw [Element.mem_zipIdx_iff] at hchild
        obtain ⟨path, name'⟩ := u
        simp only [Sighting.below, List.cons_append, List.nil_append, Sighting.mk.injEq,
          List.cons.injEq] at hbelow
        obtain ⟨⟨rfl, rfl⟩, rfl⟩ := hbelow
        obtain ⟨p, v, i, w, hreach, hw, hwild, rfl⟩ := ih hu
        exact ⟨index :: p, v, i, w, .down hchild hcompared hreach, hw, hwild, rfl⟩
  · rintro ⟨p, v, index, w, hreach, hw, hwild, rfl⟩
    induction hreach with
    | here e =>
      exact (Content.mem_sightings_iff_child _ _ _).mpr
        ⟨w, index, Element.mem_zipIdx_iff.mpr hw, Or.inl ⟨hwild, rfl⟩⟩
    | down hchild hcompared _ ih =>
      exact (Content.mem_sightings_iff_child _ _ _).mpr
        ⟨_, _, Element.mem_zipIdx_iff.mpr hchild, Or.inr ⟨hcompared, _, ih hw, rfl⟩⟩

/-- **Below an element that has children, exactly the nodes with children that it is looked
    into are counted.** -/
theorem mem_lengthFacts {e : Element} (he : e.hasChildren = true) {q : Path} {count : Nat} :
    ⟨q, count⟩ ∈ e.content.lengthFacts 0 ↔
      ∃ v, Reaches e q v ∧ v.hasChildren = true ∧ v.childCount = count := by
  constructor
  · intro hmem
    induction q generalizing e with
    | nil =>
      obtain heq | ⟨child, index, -, -, -, u, -, hu⟩ :=
        (Content.mem_lengthFacts_iff_child _ _ _).mp hmem
      · simp only [LengthFact.mk.injEq, Nat.zero_add, true_and] at heq
        exact ⟨e, .here e, he, heq.symm⟩
      · exact absurd (congrArg LengthFact.path hu) (List.cons_ne_nil _ _)
    | cons k q ih =>
      obtain heq | ⟨child, index, hchild, hcompared, hne, u, hu, hbelow⟩ :=
        (Content.mem_lengthFacts_iff_child _ _ _).mp hmem
      · exact absurd (congrArg LengthFact.path heq) (List.cons_ne_nil _ _)
      · rw [Element.mem_zipIdx_iff] at hchild
        obtain ⟨path, count'⟩ := u
        simp only [LengthFact.below, List.cons_append, List.nil_append, LengthFact.mk.injEq,
          List.cons.injEq] at hbelow
        obtain ⟨⟨rfl, rfl⟩, rfl⟩ := hbelow
        obtain ⟨v, hreach, hv, hcount⟩ := ih hne hu
        exact ⟨v, .down hchild hcompared hreach, hv, hcount⟩
  · rintro ⟨v, hreach, hv, rfl⟩
    induction hreach with
    | here e =>
      exact (Content.mem_lengthFacts_iff_child _ _ _).mpr
        (Or.inl (by rw [Nat.zero_add]; rfl))
    | @down e child v index p hchild hcompared hreach ih =>
      have hne : child.hasChildren = true := hreach.hasChildren hv
      exact (Content.mem_lengthFacts_iff_child _ _ _).mpr
        (Or.inr ⟨_, _, Element.mem_zipIdx_iff.mpr hchild, hcompared, hne, _, ih hne hv, rfl⟩)

/-! ### What is recorded for a main element -/

theorem recorded_iff {main : Element} {name : String} {q : Path} :
    main.wildcardTable.Recorded name q ↔
      (∃ index child, main.child? index = some child ∧ child.IsWildcard (some name) ∧
        q = [index]) ∨
      ∃ index child p v i w, main.child? index = some child ∧ child.tag.isCompared = true ∧
        Reaches child p v ∧ v.child? i = some w ∧ w.IsWildcard (some name) ∧ q = p ++ [i] := by
  rw [Element.recorded_wildcardTable, Element.wildcards, Content.mem_rootSightings_iff_child]
  constructor
  · rintro ⟨child, index, hchild, ⟨hwild, hpath⟩ | ⟨hcompared, hmem⟩⟩
    · exact Or.inl ⟨index, child, Element.mem_zipIdx_iff.mp hchild, hwild, hpath⟩
    · obtain ⟨p, v, i, w, hreach, hw, hwild, hpath⟩ := mem_sightings.mp hmem
      exact Or.inr ⟨index, child, p, v, i, w, Element.mem_zipIdx_iff.mp hchild, hcompared,
        hreach, hw, hwild, hpath⟩
  · rintro (⟨index, child, hchild, hwild, hpath⟩ |
      ⟨index, child, p, v, i, w, hchild, hcompared, hreach, hw, hwild, hpath⟩)
    · exact ⟨child, index, Element.mem_zipIdx_iff.mpr hchild, Or.inl ⟨hwild, hpath⟩⟩
    · exact ⟨child, index, Element.mem_zipIdx_iff.mpr hchild,
        Or.inr ⟨hcompared, mem_sightings.mpr ⟨p, v, i, w, hreach, hw, hwild, hpath⟩⟩⟩

theorem mem_rootLengthFacts_iff {main : Element} {q : Path} {count : Nat} :
    ⟨q, count⟩ ∈ main.content.rootLengthFacts ↔
      ∃ index child v, main.child? index = some child ∧ child.tag.isCompared = true ∧
        Reaches child q v ∧ v.hasChildren = true ∧ v.childCount = count := by
  rw [Content.mem_rootLengthFacts_iff_child]
  constructor
  · rintro ⟨child, hchild, hcompared, hne, hmem⟩
    obtain ⟨index, hindex⟩ := List.mem_iff_getElem?.mp hchild
    obtain ⟨v, hreach, hv, hcount⟩ := (mem_lengthFacts hne).mp hmem
    exact ⟨index + 1, child, v, hindex, hcompared, hreach, hv, hcount⟩
  · rintro ⟨index, child, v, hchild, hcompared, hreach, hv, hcount⟩
    have hne : child.hasChildren = true := hreach.hasChildren hv
    have hmem := Element.mem_zipIdx_iff.mpr hchild
    exact ⟨child, List.fst_mem_of_mem_zipIdx hmem, hcompared, hne,
      (mem_lengthFacts hne).mpr ⟨v, hreach, hv, hcount⟩⟩

/-- An element repeats another one if, at the same paths, it has wildcards of the same
    names and, where lengths matter, nodes with as many children. -/
structure Repeats (restrictLength : Bool) (e child : Element) : Prop where
  wildcards : ∀ p v index w name, Reaches child p v → v.child? index = some w →
    w.IsWildcard (some name) →
    ∃ w', e.descend? (p ++ [index]) = some w' ∧ w'.IsWildcard (some name)
  counts : restrictLength = true → ∀ p v, Reaches child p v → v.hasChildren = true →
    ∃ v', e.descend? p = some v' ∧ v'.childCount = v.childCount

theorem Repeats.refl (restrictLength : Bool) (e : Element) : Repeats restrictLength e e where
  wildcards := by
    intro p v index w name hreach hw hwild
    refine ⟨w, ?_, hwild⟩
    rw [hreach.descend?_append, Element.descend?_singleton, hw]
  counts := by
    intro _ p v hreach _
    exact ⟨v, hreach.descend?, rfl⟩

/-- **When the paths of a query are right.**  Every path in the wildcard table leads from
    the first element child to a wildcard of its name, and every counted path to an
    element with that many children, if and only if the first child has, at the same
    index, each wildcard that stands directly in the main element, and repeats each
    compared child behind it. -/
theorem recorded_paths_lead_right_iff {g : Generator} {main : Element} {query : String}
    (hmain : g.main = some main) (hquery : g.generate.2 = .ok (some query)) :
    ∃ first fixed lengths, main.firstElement? = some first ∧
      (main.compile g.config.restrictLength).outcome = .ok (fixed, lengths) ∧
      (((∀ name p, g.generate.1.wildcards.Recorded name p →
            ∃ w, first.descend? p = some w ∧ w.IsWildcard (some name)) ∧
          ∀ f ∈ lengths, ∃ v, first.descend? f.path = some v ∧ v.childCount = f.count) ↔
        ∀ index child, main.child? index = some child →
          (∀ name, child.IsWildcard (some name) →
            ∃ w, first.child? index = some w ∧ w.IsWildcard (some name)) ∧
          (child.tag.isCompared = true → index = 1 ∨
            Repeats g.config.restrictLength first child)) := by
  obtain ⟨hnamed, first, hfirst, -⟩ := Generator.generate_eq_query hmain hquery
  have hcompile := Element.compile_ok main g.config.restrictLength hnamed
  refine ⟨first, _, _, hfirst, by rw [hcompile], ?_⟩
  rw [Generator.generate_of_named hmain hnamed]
  constructor
  · rintro ⟨hpaths, hlengths⟩ index child hchild
    constructor
    · intro name hwild
      obtain ⟨w, hw, hwild'⟩ := hpaths name [index]
        (recorded_iff.mpr (Or.inl ⟨index, child, hchild, hwild, rfl⟩))
      exact ⟨w, by rw [← Element.descend?_singleton, hw], hwild'⟩
    · intro hcompared
      refine Or.inr ⟨?_, ?_⟩
      · intro p v i w name hreach hw hwild
        exact hpaths name (p ++ [i]) (recorded_iff.mpr
          (Or.inr ⟨index, child, p, v, i, w, hchild, hcompared, hreach, hw, hwild, rfl⟩))
      · intro hrestrict p v hreach hv
        refine hlengths ⟨p, v.childCount⟩ ?_
        rw [if_pos hrestrict]
        exact mem_rootLengthFacts_iff.mpr
          ⟨index, child, v, hchild, hcompared, hreach, hv, rfl⟩
  · intro hall
    have hrepeats : ∀ index child, main.child? index = some child →
        child.tag.isCompared = true → Repeats g.config.restrictLength first child := by
      intro index child hchild hcompared
      rcases (hall index child hchild).2 hcompared with rfl | hrepeats
      · rw [Element.firstElement?_eq_child?, hchild] at hfirst
        obtain rfl : child = first := Option.some.inj hfirst
        exact Repeats.refl _ child
      · exact hrepeats
    constructor
    · intro name q hrecorded
      rcases recorded_iff.mp hrecorded with ⟨index, child, hchild, hwild, rfl⟩ |
        ⟨index, child, p, v, i, w, hchild, hcompared, hreach, hw, hwild, rfl⟩
      · obtain ⟨w, hw, hwild'⟩ := (hall index child hchild).1 name hwild
        exact ⟨w, by rw [Element.descend?_singleton, hw], hwild'⟩
      · exact (hrepeats index child hchild hcompared).wildcards p v i w name hreach hw hwild
    · rintro ⟨q, count⟩ hmem
      by_cases hrestrict : g.config.restrictLength = true
      · rw [if_pos hrestrict] at hmem
        obtain ⟨index, child, v, hchild, hcompared, hreach, hv, rfl⟩ :=
          mem_rootLengthFacts_iff.mp hmem
        exact (hrepeats index child hchild hcompared).counts hrestrict q v hreach hv
      · rw [if_neg hrestrict] at hmem
        exact absurd hmem List.not_mem_nil

/-- A wildcard as the whole formula. -/
def loneWildcard : Element where
  tag := { localName := "qvar", qualifier := some "mws" }
  content := .text "x" .nil

def loneWildcardGenerator : Generator where
  config := { header := some "", footer := some "$x", emitWildcardMap := false }
  main := some
    { tag := { localName := "expr", qualifier := some "mws" }
      content := .element loneWildcard.tag loneWildcard.content .nil }

/-- Its path leads away from it, to a child that it does not have. -/
theorem loneWildcard_path_leads_nowhere :
    loneWildcardGenerator.generate.2 = .ok (some "for $x in $m//*:qvar\n\n\nreturn\n$x") ∧
    loneWildcardGenerator.generate.1.wildcards = [("x", [[1]])] ∧
    ¬ ∀ name p, loneWildcardGenerator.generate.1.wildcards.Recorded name p →
      ∃ w, loneWildcard.descend? p = some w ∧ w.IsWildcard (some name) := by
  have hquery : loneWildcardGenerator.generate.2 =
      .ok (some "for $x in $m//*:qvar\n\n\nreturn\n$x") := by rfl
  refine ⟨hquery, by decide +kernel, ?_⟩
  intro hpaths
  obtain ⟨first, fixed, lengths, hfirst, hcompile, hiff⟩ := recorded_paths_lead_right_iff rfl hquery
  obtain rfl : loneWildcard = first := Option.some.inj hfirst
  obtain ⟨-, rfl⟩ : "" = fixed ∧ [] = lengths := Prod.mk.inj (Except.ok.inj hcompile)
  have hright := hiff.mp ⟨hpaths, by simp⟩
  obtain ⟨w, hw, -⟩ := (hright 1 loneWildcard rfl).1 "x" ⟨by decide, by decide +kernel⟩
  exact absurd hw (by simp [Element.child?, Element.children, loneWildcard])

end FormulaQuery
