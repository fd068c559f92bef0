/-
  FormulaQuery/Proofs/Visible.lean
  ================================
  **The wildcards that can be seen.**  From an element, a node below it is seen if
  no wildcard and no annotation stands strictly between the two.  This is said by
  paths (`Element.Sees`), without the walk of a session, and `reaches_child_iff`
  shows that it is where a walk gets to.

  `table_groups_visible` describes the wildcard table of a compilation by the
  wildcards that are seen: they are grouped by name, none is lost and none stands
  there twice, and each path leads back to its wildcard.
-/
import FormulaQuery.Proofs.Outcome

namespace FormulaQuery

/-! ### What is seen from an element -/

namespace Element

/-- Neither a wildcard nor an annotation stands strictly between the element and the node
    at the path. -/
def Sees (e : Element) (q : Path) : Prop :=
  ∀ r v, r ≠ [] → r <+: q → r ≠ q → e.descend? r = some v → v.tag.isCompared = true

theorem sees_singleton (e : Element) (index : Nat) : e.Sees [index] := by
  intro r v hne hprefix hproper _
  rcases List.prefix_cons_iff.mp hprefix with rfl | ⟨r', rfl, hr'⟩
  · exact absurd rfl hne
  · rw [List.prefix_nil.mp hr'] at hproper
    exact absurd rfl hproper

theorem sees_cons_iff {e child : Element} {index : Nat} (hchild : e.child? index = some child)
    {q : Path} (hq : q ≠ []) :
    e.Sees (index :: q) ↔ child.tag.isCompared = true ∧ child.Sees q := by
  constructor
  · intro h
    constructor
    · have hproper : [index] ≠ index :: q := fun heq => hq (List.cons.inj heq).2.symm
      refine h [index] child (List.cons_ne_nil _ _) ?_ hproper ?_
      · exact List.prefix_append [index] q
      · rw [descend?_singleton, hchild]
    · intro r v hne hprefix hproper hr
      refine h (index :: r) v (List.cons_ne_nil _ _) ?_ ?_ ?_
      · exact (List.prefix_cons_inj index).mpr hprefix
      · exact fun heq => hproper (List.cons.inj heq).2
      · rw [descend?_cons_of_child hchild, hr]
  · rintro ⟨hcompared, hsees⟩ r v hne hprefix hproper hr
    rcases List.prefix_cons_iff.mp hprefix with rfl | ⟨r', rfl, hr'⟩
    · exact absurd rfl hne
    · rw [descend?_cons_of_child hchild] at hr
      by_cases hempty : r' = []
      · rw [hempty, descend?_nil, Option.some.injEq] at hr
        exact hr ▸ hcompared
      · exact hsees r' v hempty hr' (fun heq => hproper (by rw [heq])) hr

theorem exists_child_of_descend? {e v : Element} {index : Nat} {q : Path}
    (h : e.descend? (index :: q) = some v) :
    ∃ child, e.child? index = some child ∧ child.descend? q = some v := by
  rw [descend?_cons] at h
  exact Option.bind_eq_some_iff.mp h

end Element

/-- **What is seen is what a walk gets to**: the children of the elements that are reached. -/
theorem reaches_child_iff {e w : Element} {p : Path} {index : Nat} :
    (∃ v, Reaches e p v ∧ v.child? index = some w) ↔
      e.descend? (p ++ [index]) = some w ∧ e.Sees (p ++ [index]) := by
  induction p generalizing e with
  | nil =>
    rw [List.nil_append, Element.descend?_singleton]
    constructor
    · rintro ⟨v, hreach, hchild⟩
      cases hreach
      exact ⟨hchild, e.sees_singleton index⟩
    · rintro ⟨hchild, -⟩
      exact ⟨e, .here e, hchild⟩
  | cons k p ih =>
    have hne : p ++ [index] ≠ [] := List.append_ne_nil_of_right_ne_nil p (List.cons_ne_nil _ _)
    rw [List.cons_append]
    constructor
    · rintro ⟨v, hreach, hw⟩
      cases hreach with
      | down hchild hcompared hreach =>
        obtain ⟨hdescend, hsees⟩ := ih.mp ⟨v, hreach, hw⟩
        rw [Element.descend?_cons_of_child hchild]
        exact ⟨hdescend, (Element.sees_cons_iff hchild hne).mpr ⟨hcompared, hsees⟩⟩
    · rintro ⟨hdescend, hsees⟩
      obtain ⟨child, hchild, hdescend⟩ := Element.exists_child_of_descend? hdescend
      obtain ⟨hcompared, hsees⟩ := (Element.sees_cons_iff hchild hne).mp hsees
      obtain ⟨v, hreach, hw⟩ := ih.mpr ⟨hdescend, hsees⟩
      exact ⟨v, .down hchild hcompared hreach, hw⟩

theorem Element.shows_iff {e w : Element} {q : Path} :
    e.Shows q w ↔ q ≠ [] ∧ e.descend? q = some w ∧ w.tag.isWildcard = true ∧ e.Sees q := by
  constructor
  · rintro ⟨hwild, p, v, index, hreach, hchild, rfl⟩
    obtain ⟨hdescend, hsees⟩ := reaches_child_iff.mp ⟨v, hreach, hchild⟩
    exact ⟨by simp, hdescend, hwild, hsees⟩
  · rintro ⟨hne, hdescend, hwild, hsees⟩
    rcases List.eq_nil_or_concat' q with rfl | ⟨p, index, rfl⟩
    · exact absurd rfl hne
    · obtain ⟨v, hreach, hchild⟩ := reaches_child_iff.mpr ⟨hdescend, hsees⟩
      exact ⟨hwild, p, v, index, hreach, hchild, rfl⟩

/-! ### The wildcards that are seen, in document order -/

namespace Element

/-- The name that a wildcard is given: its trimmed text or, where the text is blank, its
    `name` attribute. -/
def givenName (w : Element) : String :=
  if Text.isBlank w.textContent then (w.attribute? "name").getD "" else Text.trim w.textContent

theorem givenName_of_wildcardName? {w : Element} {name : String}
    (h : wildcardName? w.tag w.content = some name) : w.givenName = name ∧ name ≠ "" := by
  have hblank := Text.trim_eq_empty_iff w.textContent
  simp only [wildcardName?, ← Element.texts.eq_1, ← Element.textContent.eq_1,
    ← Element.attribute?.eq_1] at h
  by_cases hempty : Text.trim w.textContent = ""
  · rw [if_pos hempty] at h
    rw [givenName, if_pos (hblank.mp hempty)]
    cases hname : w.attribute? "name" with
    | none => simp [hname] at h
    | some given =>
      by_cases hgiven : given = ""
      · simp [hname, hgiven] at h
      · simp only [hname, if_neg hgiven, Option.some.injEq] at h
        exact ⟨h, h ▸ hgiven⟩
  · rw [if_neg hempty, Option.some.injEq] at h
    rw [givenName, if_neg (fun hb => hempty (hblank.mpr hb))]
    exact ⟨h, h ▸ hempty⟩

theorem Shows.descend? {e w : Element} {q : Path} (h : e.Shows q w) : e.descend? q = some w :=
  (shows_iff.mp h).2.1

/-- The wildcards that are seen from an element, with their paths, in document order. -/
def visibleWildcards (e : Element) : List (Path × Element) :=
  (e.content.sightings 0).map fun w => (w.path, (e.descend? w.path).getD e)

theorem mem_visibleWildcards {e w : Element} {q : Path} :
    (q, w) ∈ e.visibleWildcards ↔ e.Shows q w := by
  simp only [visibleWildcards, List.mem_map, Prod.mk.injEq]
  constructor
  · rintro ⟨⟨q', name⟩, hmem, rfl, hw⟩
    obtain ⟨w', hshows, -⟩ := mem_sightings_iff_shows.mp hmem
    rw [hshows.descend?, Option.getD_some] at hw
    exact hw ▸ hshows
  · intro hshows
    refine ⟨⟨q, wildcardName? w.tag w.content⟩, ?_, rfl, ?_⟩
    · exact mem_sightings_iff_shows.mpr ⟨w, hshows, rfl⟩
    · rw [hshows.descend?, Option.getD_some]

theorem visibleWildcards_ordered (e : Element) :
    e.visibleWildcards.Pairwise fun v w => v.1 < w.1 := by
  rw [visibleWildcards, List.pairwise_map]
  exact e.content.sightings_ordered 0

theorem visibleWildcards_nodup (e : Element) : (e.visibleWildcards.map Prod.fst).Nodup := by
  have hordered := List.pairwise_map.mpr e.visibleWildcards_ordered
  apply hordered.imp
  intro q r hlt heq
  exact List.lt_irrefl r (heq ▸ hlt)

/-- Where all wildcards have names, they are recorded under the names they are given. -/
theorem occurrencesOf_sightings {e : Element} (hnamed : unnamed? (e.content.sightings 0) = none) :
    occurrencesOf (e.content.sightings 0) =
      e.visibleWildcards.map fun v => ⟨v.2.givenName, v.1⟩ := by
  rw [visibleWildcards, List.map_map, occurrencesOf, ← List.filterMap_eq_map]
  apply List.filterMap_congr
  intro w hw
  obtain ⟨name, hname⟩ := exists_name_of_unnamed? hnamed hw
  obtain ⟨q, _⟩ := w
  obtain rfl := hname
  obtain ⟨v, hshows, hv⟩ := mem_sightings_iff_shows.mp hw
  obtain ⟨hgiven, -⟩ := givenName_of_wildcardName? hv
  simp [Sighting.occurrence?, hshows.descend?, hgiven]

theorem givenName_ne_empty {e : Element} (hnamed : unnamed? (e.content.sightings 0) = none)
    {v : Path × Element} (hv : v ∈ e.visibleWildcards) : v.2.givenName ≠ "" := by
  obtain ⟨q, w⟩ := v
  have hshows := mem_visibleWildcards.mp hv
  cases hname : wildcardName? w.tag w.content with
  | none =>
    have hw := mem_sightings_iff_shows.mpr ⟨w, hshows, hname⟩
    obtain ⟨name, hsome⟩ := exists_name_of_unnamed? hnamed hw
    cases hsome
  | some name =>
    obtain ⟨hgiven, hne⟩ := givenName_of_wildcardName? hname
    exact hgiven ▸ hne

end Element

/-! ### The wildcard table -/

theorem WildcardTable.flatMap_written (t : WildcardTable) :
    t.written.flatMap Prod.snd = (t.flatMap Prod.snd).map Path.render := by
  simp only [written, List.flatMap_map, List.map_flatMap]

/-- The table is a list of wildcards, grouped by name: `vs` are those that are seen from the
    element, in document order, which is the dictionary order of paths. -/
structure WildcardTable.GroupsVisible (t : WildcardTable) (e : Element)
    (vs : List (Path × Element)) : Prop where
  ordered : vs.Pairwise fun v w => v.1 < w.1
  mem_iff : ∀ q w, (q, w) ∈ vs ↔
    q ≠ [] ∧ e.descend? q = some w ∧ w.tag.isWildcard = true ∧ e.Sees q
  grouped : t = (vs.map fun v => v.2.givenName).eraseDups.map fun name =>
    (name, (vs.filter fun v => v.2.givenName = name).map Prod.fst)
  nodup : (t.written.flatMap Prod.snd).Nodup
  length_eq : (t.written.flatMap Prod.snd).length = vs.length
  nonempty : ∀ entry ∈ t, entry.1 ≠ "" ∧ entry.2 ≠ []
  leads_back : ∀ entry ∈ t, ∀ q ∈ entry.2,
    ∃ w, (q, w) ∈ vs ∧ e.descend? q = some w ∧ w.givenName = entry.1

/-- **The table holds the wildcards that are seen, grouped by name.** -/
theorem table_groups_visible {e : Element} {restrictLength : Bool} {text : String} {s : Session}
    (h : (Session.compileNested e).run { restrictLength := restrictLength } = .ok text s) :
    ∃ vs, s.table.GroupsVisible e vs := by
  obtain ⟨hnamed, -, hoccurrences, -⟩ := Session.compileNested_inv h
  have htable : s.table = WildcardTable.ofOccurrences
      (e.visibleWildcards.map fun v => ⟨v.2.givenName, v.1⟩) := by
    rw [Session.table, hoccurrences, Element.occurrencesOf_sightings hnamed]
  have hpaths : (s.table.flatMap Prod.snd).Perm (e.visibleWildcards.map Prod.fst) := by
    have hperm := WildcardTable.ofOccurrences_perm
      (e.visibleWildcards.map fun v => ⟨v.2.givenName, v.1⟩)
    rwa [← htable, List.map_map] at hperm
  refine ⟨e.visibleWildcards, e.visibleWildcards_ordered, ?_, ?_, ?_, ?_, ?_, ?_⟩
  · intro q w
    rw [Element.mem_visibleWildcards, Element.shows_iff]
  · rw [htable, WildcardTable.ofOccurrences_eq_grouped, WildcardTable.grouped, List.map_map]
    apply List.map_congr_left
    intro name _
    rw [pathsNamed, List.filter_map, List.map_map]
    rfl
  · rw [WildcardTable.flatMap_written]
    exact (hpaths.nodup_iff.mpr e.visibleWildcards_nodup).map XPath.path_render_injective
  · rw [WildcardTable.flatMap_written, List.length_map, hpaths.length_eq, List.length_map]
  · intro entry hentry
    rw [htable] at hentry
    obtain ⟨o, ho, hname, hpath⟩ := WildcardTable.exists_mem_of_mem_ofOccurrences hentry
    obtain ⟨v, hv, rfl⟩ := List.mem_map.mp ho
    exact ⟨hname ▸ Element.givenName_ne_empty hnamed hv, List.ne_nil_of_mem hpath⟩
  · intro entry hentry q hq
    have hrecorded : s.table.Recorded entry.1 q := ⟨entry.2, hentry, hq⟩
    rw [htable, WildcardTable.recorded_ofOccurrences] at hrecorded
    obtain ⟨⟨q', w⟩, hv, heq⟩ := List.mem_map.mp hrecorded
    obtain ⟨hname, rfl⟩ := Occurrence.mk.inj heq
    exact ⟨w, hv, (Element.mem_visibleWildcards.mp hv).descend?, hname⟩

def wildcardTag (name : String) : Tag :=
  { localName := "qvar", qualifier := some "mws", attributes := [("name", name)] }

/-- Two names that take turns at two depths, and wildcards that are not seen. -/
def interleaved : Element where
  tag := { localName := "apply" }
  content :=
    .text "f" <|
    .element (wildcardTag "a") (.text " x " .nil) <|
    .element { localName := "plus" }
      (.element (wildcardTag "y") .nil <|
        .element { localName := "annotation" } (.element (wildcardTag "x") .nil .nil) <|
        .element (wildcardTag "x") (.element (wildcardTag "y") .nil .nil) .nil) <|
    .element { localName := "annotation-xml" } (.element (wildcardTag "z") .nil .nil) <|
    .element (wildcardTag "y") (.text " " .nil) .nil

def interleavedText : String := "./text() = 'f' and *[2]/name() = 'plus' and *[2]"

def interleavedSession : Session where
  restrictLength := true
  occurrences := [⟨"x", [1]⟩, ⟨"y", [2, 1]⟩, ⟨"x", [2, 3]⟩, ⟨"y", [4]⟩]
  lengths := [⟨[2], 3⟩, ⟨[], 4⟩]

theorem interleaved_table_groups :
    (Session.compileNested interleaved).run { restrictLength := true } =
      .ok interleavedText interleavedSession ∧
    interleavedSession.table = [("x", [[1], [2, 3]]), ("y", [[2, 1], [4]])] ∧
    ∃ vs, interleavedSession.table.GroupsVisible interleaved vs := by
  have h : (Session.compileNested interleaved).run { restrictLength := true } =
      .ok interleavedText interleavedSession := by rfl
  exact ⟨h, by decide, table_groups_visible h⟩

end FormulaQuery
