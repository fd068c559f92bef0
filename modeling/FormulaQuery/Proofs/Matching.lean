/-
  FormulaQuery/Proofs/Matching.lean
  =================================
  **A query finds exactly the elements that match its formula.**  The meaning of
  a formula is spread over three parts of its query: nested predicates, numbers
  of children at paths from the candidate, and equalities between such paths.
  `Matches` says in one piece what they ask together: as many element children,
  the same texts, and below every child that is compared the same again.

  `Fits` is matching for what is left of the content of a pattern, so that the
  induction over the content meets it at every place (`holds_iff_fits`).
  `generate_finds_matches` is the result for the text of a query.
-/
import FormulaQuery.Proofs.ReadQuery
import FormulaQuery.Proofs.Table

namespace FormulaQuery

open Text (trim)

/-- **An element matches a pattern** if it has as many element children, every text of the
    pattern, and for every compared child of the pattern a child at the same place that
    has its name and, unless the child of the pattern is empty, matches it. -/
inductive Matches : (pattern target : Element) → Prop
  | intro {pattern target : Element}
      (count : target.childCount = pattern.childCount)
      (texts : ∀ value ∈ pattern.ownTexts, trim value ∈ target.ownTexts)
      (names : ∀ k child found, pattern.child? k = some child → child.tag.isCompared = true →
        target.child? k = some found → found.qualifiedName = child.tag.localName)
      (inside : ∀ k child found, pattern.child? k = some child → child.tag.isCompared = true →
        child.hasChildren = true → target.child? k = some found → Matches child found) :
      Matches pattern target

/-! ### Matching the rest of a pattern -/

/-- A child of a pattern and the place where it has to be found. -/
def FitsAt (child target : Element) (k : Nat) : Prop :=
  ∃ found, target.child? k = some found ∧ found.qualifiedName = child.tag.localName ∧
    (child.hasChildren = true → Matches child found)

/-- The element matches what is left of a pattern behind `before` element children. -/
def Fits (c : Content) (before : Nat) (target : Element) : Prop :=
  target.childCount = before + c.children.length ∧
    (∀ value ∈ c.ownTexts, trim value ∈ target.ownTexts) ∧
    ∀ i child, c.children[i]? = some child → child.tag.isCompared = true →
      FitsAt child target (before + i + 1)

theorem matches_iff_fits {pattern target : Element} :
    Matches pattern target ↔ Fits pattern.content 0 target := by
  constructor
  · rintro ⟨hcount, htexts, hnames, hinside⟩
    refine ⟨by rw [Nat.zero_add]; exact hcount, htexts, ?_⟩
    intro i child hchild hcompared
    have hlt : i < pattern.childCount := (List.getElem?_eq_some_iff.mp hchild).1
    obtain ⟨found, hfound⟩ : ∃ found, target.child? (i + 1) = some found := by
      rw [Element.exists_child?_iff, hcount]
      exact ⟨Nat.succ_pos i, hlt⟩
    rw [Nat.zero_add]
    exact ⟨found, hfound, hnames (i + 1) child found hchild hcompared hfound,
      fun h => hinside (i + 1) child found hchild hcompared h hfound⟩
  · rintro ⟨hcount, htexts, hchildren⟩
    -- what is found at a place is the one child that the fit speaks of
    have hat : ∀ k child found, pattern.child? k = some child → child.tag.isCompared = true →
        target.child? k = some found →
        found.qualifiedName = child.tag.localName ∧
          (child.hasChildren = true → Matches child found) := by
      intro k child found hchild hcompared hfound
      cases k with
      | zero => simp at hchild
      | succ i =>
        obtain ⟨found', hfound', hrest⟩ := hchildren i child hchild hcompared
        rw [Nat.zero_add, hfound, Option.some.injEq] at hfound'
        exact hfound' ▸ hrest
    rw [Nat.zero_add] at hcount
    refine .intro hcount htexts ?_ ?_
    · intro k child found hchild hcompared hfound
      exact (hat k child found hchild hcompared hfound).1
    · intro k child found hchild hcompared hne hfound
      exact (hat k child found hchild hcompared hfound).2 hne

theorem fits_nil {before : Nat} {target : Element} :
    Fits .nil before target ↔ target.childCount = before := by
  simp [Fits]

theorem fits_text {value : String} {rest : Content} {before : Nat} {target : Element} :
    Fits (.text value rest) before target ↔
      trim value ∈ target.ownTexts ∧ Fits rest before target := by
  simp only [Fits, Content.children_text, Content.ownTexts_text, List.forall_mem_cons]
  constructor
  · rintro ⟨hcount, ⟨hvalue, htexts⟩, hchildren⟩
    exact ⟨hvalue, hcount, htexts, hchildren⟩
  · rintro ⟨hvalue, hcount, htexts, hchildren⟩
    exact ⟨hcount, ⟨hvalue, htexts⟩, hchildren⟩

theorem fits_element {tag : Tag} {inner rest : Content} {before : Nat} {target : Element} :
    Fits (.element tag inner rest) before target ↔
      (tag.isCompared = true → FitsAt ⟨tag, inner⟩ target (before + 1)) ∧
        Fits rest (before + 1) target := by
  simp only [Fits, Content.children_element, Content.ownTexts_element, List.length_cons]
  constructor
  · rintro ⟨hcount, htexts, hchildren⟩
    refine ⟨hchildren 0 ⟨tag, inner⟩ rfl, by omega, htexts, ?_⟩
    intro i child hchild hcompared
    have hat := hchildren (i + 1) child hchild hcompared
    rwa [show before + (i + 1) + 1 = before + 1 + i + 1 by omega] at hat
  · rintro ⟨hfirst, hcount, htexts, hchildren⟩
    refine ⟨by omega, htexts, ?_⟩
    intro i child hchild hcompared
    cases i with
    | zero =>
      obtain rfl : (⟨tag, inner⟩ : Element) = child := by simpa using hchild
      exact hfirst hcompared
    | succ i =>
      have hat := hchildren i child hchild hcompared
      rwa [show before + 1 + i + 1 = before + (i + 1) + 1 by omega] at hat

/-! ### Predicates and child counts -/

open XPath

theorem LengthFact.holds_below {t u : Element} {k : Nat} (h : t.child? k = some u)
    (f : LengthFact) : (f.below [k]).toComparison.Holds t ↔ f.toComparison.Holds u := by
  simp only [toComparison, below, Comparison.Holds, List.singleton_append,
    Element.descend?_cons_of_child h]

theorem LengthFact.holds_map_below {t u : Element} {k : Nat} (h : t.child? k = some u)
    (fs : List LengthFact) :
    (∀ f ∈ fs.map (LengthFact.below [k]), f.toComparison.Holds t) ↔
      ∀ f ∈ fs, f.toComparison.Holds u := by
  rw [List.forall_mem_map]
  constructor
  · intro hall f hf
    exact (f.holds_below h).mp (hall f hf)
  · intro hall f hf
    exact (f.holds_below h).mpr (hall f hf)

/-- **Predicate and child counts together say that an element fits.**  The induction is
    over the content of the pattern; below a child that is entered it is used for what
    is found there. -/
theorem holds_iff_fits (c : Content) (before : Nat) (t : Element) :
    ((c.constraint before).toCondition.Holds t ∧
      ∀ f ∈ c.lengthFacts before, f.toComparison.Holds t) ↔ Fits c before t := by
  induction c generalizing before t with
  | nil =>
    rw [fits_nil]
    simp [Content.constraint, Content.lengthFacts, Constraint.toCondition, Condition.Holds,
      LengthFact.toComparison, Comparison.Holds]
  | text value rest ih =>
    rw [fits_text, ← ih before t]
    simp only [Content.constraint, Content.lengthFacts, Constraint.toCondition, Condition.Holds,
      and_assoc]
  | element tag inner rest ihi ihr =>
    rw [fits_element, ← ihr (before + 1) t]
    simp only [Content.constraint, Content.lengthFacts]
    cases hw : tag.isWildcard with
    | true => simp [Tag.isCompared, hw]
    | false =>
      cases ha : tag.isAnnotation with
      | true => simp [Tag.isCompared, ha]
      | false =>
        have hcompared : tag.isCompared = true := by simp [Tag.isCompared, hw, ha]
        cases he : inner.isEmpty with
        | true =>
          have hfits : FitsAt ⟨tag, inner⟩ t (before + 1) ↔
              ∃ u ∈ t.child? (before + 1), u.qualifiedName = tag.localName := by
            simp [FitsAt, Element.hasChildren, he]
          simp only [hcompared, forall_const, hfits, Bool.or_true, if_true, if_false,
            Bool.false_eq_true, Constraint.toCondition, Condition.Holds, and_assoc]
        | false =>
          simp only [hcompared, forall_const, Bool.or_self, if_false, Bool.false_eq_true,
            Constraint.toCondition, Condition.Holds, List.forall_mem_append]
          constructor
          · rintro ⟨⟨⟨u, hu, hname⟩, ⟨v, hv, hinner⟩, hrest⟩, hcounts, hcounts'⟩
            -- both conditions speak of the same child
            obtain rfl : u = v := Option.some.inj (hu.symm.trans hv)
            refine ⟨⟨u, hu, hname, fun _ => ?_⟩, hrest, hcounts'⟩
            rw [matches_iff_fits, ← ihi 0 u]
            exact ⟨hinner, (LengthFact.holds_map_below hu _).mp hcounts⟩
          · rintro ⟨⟨u, hu, hname, hmatches⟩, hrest, hcounts'⟩
            have hne : (⟨tag, inner⟩ : Element).hasChildren = true := by
              simp [Element.hasChildren, he]
            obtain ⟨hinner, hcounts⟩ := (ihi 0 u).mpr (matches_iff_fits.mp (hmatches hne))
            exact ⟨⟨⟨u, hu, hname⟩, ⟨u, hu, hinner⟩, hrest⟩,
              (LengthFact.holds_map_below hu _).mpr hcounts, hcounts'⟩

/-! ### Wildcards -/

/-- Where the pattern has a wildcard, an element that fits has a node. -/
theorem exists_node_of_fits {c : Content} {before : Nat} {t : Element} (h : Fits c before t)
    {w : Sighting} (hw : w ∈ c.sightings before) : ∃ u, t.descend? w.path = some u := by
  induction c generalizing before t w with
  | nil => simp [Content.sightings] at hw
  | text value rest ih => exact ih (fits_text.mp h).2 hw
  | element tag inner rest ihi ihr =>
    have hrest := (fits_element.mp h).2
    simp only [Content.sightings] at hw
    cases hwild : tag.isWildcard with
    | true =>
      simp only [hwild, if_true, List.mem_cons] at hw
      rcases hw with rfl | hw
      · rw [Element.descend?_singleton, Element.exists_child?_iff, h.1]
        simp only [Content.children_element, List.length_cons]
        omega
      · exact ihr hrest hw
    | false =>
      cases ha : tag.isAnnotation with
      | true =>
        simp only [hwild, ha, if_true, if_false, Bool.false_eq_true] at hw
        exact ihr hrest hw
      | false =>
        simp only [hwild, ha, if_false, Bool.false_eq_true, List.mem_append, List.mem_map] at hw
        rcases hw with ⟨v, hv, rfl⟩ | hw
        · obtain ⟨u, hu, -, hmatches⟩ :=
            (fits_element.mp h).1 (by simp [Tag.isCompared, hwild, ha])
          have hne : (⟨tag, inner⟩ : Element).hasChildren = true := by
            cases he : inner.isEmpty with
            | true => simp [Content.sightings_of_isEmpty he] at hv
            | false => simp [Element.hasChildren, he]
          obtain ⟨node, hnode⟩ := ihi (matches_iff_fits.mp (hmatches hne)) hv
          exact ⟨node, by
            rw [Sighting.below, List.singleton_append, Element.descend?_cons_of_child hu, hnode]⟩
        · exact ihr hrest hw

/-- The nodes at these paths are all there, and have the same text. -/
def AgreeAt (t : Element) (paths : List Path) : Prop :=
  ∃ value, ∀ p ∈ paths, ∃ u, t.descend? p = some u ∧ u.textContent = value

/-- A star of comparisons says that all nodes agree, if they are there. -/
theorem star_holds_iff {t : Element} {paths : List Path}
    (hnodes : ∀ p ∈ paths, ∃ u, t.descend? p = some u) :
    (∀ c ∈ WildcardTable.star paths, c.Holds t) ↔ AgreeAt t paths := by
  cases paths with
  | nil => simp [WildcardTable.star, AgreeAt]
  | cons first others =>
    obtain ⟨node, hnode⟩ := hnodes first List.mem_cons_self
    simp only [WildcardTable.star, List.forall_mem_map, Comparison.Holds]
    constructor
    · intro hall
      refine ⟨node.textContent, ?_⟩
      intro p hp
      rcases List.mem_cons.mp hp with rfl | hp
      · exact ⟨node, hnode, rfl⟩
      · obtain ⟨u, hu, v, hv, heq⟩ := hall p hp
        obtain rfl : u = node := Option.some.inj (hu.symm.trans hnode)
        exact ⟨v, hv, heq.symm⟩
    · rintro ⟨value, hall⟩ p hp
      obtain ⟨u, hu, hvalue⟩ := hall first List.mem_cons_self
      obtain ⟨v, hv, hvalue'⟩ := hall p (List.mem_cons_of_mem _ hp)
      exact ⟨u, hu, v, hv, hvalue.trans hvalue'.symm⟩

theorem comparisons_hold_iff {t : Element} {table : WildcardTable}
    (hnodes : ∀ entry ∈ table, ∀ p ∈ entry.2, ∃ u, t.descend? p = some u) :
    (∀ c ∈ table.comparisons, c.Holds t) ↔ ∀ entry ∈ table, AgreeAt t entry.2 := by
  simp only [WildcardTable.comparisons, List.mem_flatMap]
  constructor
  · intro hall entry hentry
    exact (star_holds_iff (hnodes entry hentry)).mp fun c hc => hall c ⟨entry, hentry, hc⟩
  · rintro hall c ⟨entry, hentry, hc⟩
    exact (star_holds_iff (hnodes entry hentry)).mpr (hall entry hentry) c hc

/-! ### Main elements with one formula -/

/-- No annotation is written like a wildcard. -/
theorem Tag.isWildcard_of_isAnnotation {t : Tag} (h : t.isAnnotation = true) :
    t.isWildcard = false := by
  have hlast : t.localName.toList.getLast? = some 'n' ∨ t.localName.toList.getLast? = some 'l' := by
    unfold isAnnotation at h
    simp only [Bool.or_eq_true, beq_iff_eq] at h
    rcases h with h | h
    · exact Or.inl (by rw [h]; rfl)
    · exact Or.inr (by rw [h]; rfl)
  by_contra hwild
  simp only [isWildcard, Bool.not_eq_false, beq_iff_eq] at hwild
  -- the written name ends like the local name, and `mws:qvar` ends differently
  have hname : t.qualifiedName.toList.getLast? = t.localName.toList.getLast? := by
    have hne : t.localName.toList ≠ [] := by
      intro hnil
      simp [hnil] at hlast
    unfold qualifiedName
    split
    · rfl
    · split
      · rfl
      · rw [String.toList_append, List.getLast?_append_of_ne_nil _ hne]
  rw [hwild] at hname
  have hlast' : "mws:qvar".toList.getLast? = some 'r' := rfl
  rw [← hname, hlast'] at hlast
  simp at hlast

/-- Annotations add nothing to the compilation of a main element. -/
theorem root_of_annotations {c : Content} (htexts : c.ownTexts = [])
    (h : ∀ a ∈ c.children, a.tag.isAnnotation = true) (before : Nat) :
    c.rootConditions = [] ∧ c.rootLengthFacts = [] ∧ c.rootSightings before = [] := by
  induction c generalizing before with
  | nil => exact ⟨rfl, rfl, rfl⟩
  | text value rest _ => simp at htexts
  | element tag inner rest _ ih =>
    have ha : tag.isAnnotation = true := h ⟨tag, inner⟩ List.mem_cons_self
    have hw := Tag.isWildcard_of_isAnnotation ha
    have hrest := ih htexts (fun a hmem => h a (List.mem_cons_of_mem _ hmem)) (before + 1)
    simpa [Content.rootConditions, Content.rootLengthFacts, Content.rootSightings, ha, hw] using
      hrest

/-- A main element with one formula and annotations behind it is compiled like the
    formula. -/
theorem root_of_formula {main p : Element} {annotations : List Element}
    (htexts : main.ownTexts = []) (hchildren : main.children = p :: annotations)
    (hannotations : ∀ a ∈ annotations, a.tag.isAnnotation = true)
    (hcompared : p.tag.isCompared = true) (hne : p.hasChildren = true) :
    main.content.rootConditions = [.child (p.content.constraint 0)] ∧
      main.content.rootLengthFacts = p.content.lengthFacts 0 ∧
      main.wildcards = p.content.sightings 0 := by
  obtain ⟨tag, content⟩ := main
  cases content with
  | nil => simp [Element.children] at hchildren
  | text value rest => simp [Element.ownTexts] at htexts
  | element tag' inner rest =>
    simp only [Element.children, Content.children_element, List.cons.injEq] at hchildren
    obtain ⟨rfl, rfl⟩ := hchildren
    simp only [Tag.isCompared, Bool.not_eq_true', Bool.or_eq_false_iff] at hcompared
    simp only [Element.hasChildren, Bool.not_eq_true'] at hne
    have htexts' : rest.ownTexts = [] := htexts
    have hrest := root_of_annotations htexts' hannotations 1
    simp [Content.rootConditions, Content.rootLengthFacts, Content.rootSightings,
      Element.wildcards, hcompared.1, hcompared.2, hne, hrest.1, hrest.2.1, hrest.2.2]

/-- **A query finds exactly the matches of its formula.**  The main element holds one
    formula that is no wildcard and not empty, and behind it annotations only.  What the
    query asks, read from its text behind the `for` line, holds of an element if and only
    if the element matches the formula and, for every wildcard name, the nodes at the
    recorded paths have the same text. -/
theorem generate_finds_matches {g : Generator} {main p : Element} {annotations : List Element}
    {query : String} (hmain : g.main = some main)
    (htexts : main.ownTexts = []) (hchildren : main.children = p :: annotations)
    (hannotations : ∀ a ∈ annotations, a.tag.isAnnotation = true)
    (hcompared : p.tag.isCompared = true) (hne : p.hasChildren = true)
    (hlength : g.config.restrictLength = true)
    (hquery : g.generate.2 = .ok (some query)) :
    ∃ (asked rest : String) (d : Demand),
      query = g.config.resolvedHeader ++ "for $x in $m//*:" ++ p.tag.localName ++ "\n" ++
        asked ++ rest ∧
      rest = (main.clauses g.config).mapClause ++ "\n\nreturn\n" ++ g.config.resolvedFooter ∧
      demand (asked ++ rest).toList = some (d, rest.toList) ∧
      ∀ t : Element, d.Holds t ↔
        Matches p t ∧ ∀ entry ∈ g.generate.1.wildcards, AgreeAt t entry.2 := by
  obtain ⟨hnamed, child, hfirst, rfl⟩ := Generator.generate_eq_query hmain hquery
  obtain ⟨hconditions, hfacts, hwildcards⟩ :=
    root_of_formula htexts hchildren hannotations hcompared hne
  have hchild : child = p := by
    rw [Element.firstElement?_eq_child?, Element.child?_succ, hchildren] at hfirst
    exact (Option.some.inj hfirst).symm
  have htable : g.generate.1.wildcards = main.wildcardTable := by
    rw [Generator.generate_of_named hmain hnamed]
  let constraint := p.content.constraint 0
  let asked := Constraint.bracket constraint.render ++ (main.clauses g.config).whereClause
  let rest := (main.clauses g.config).mapClause ++ "\n\nreturn\n" ++ g.config.resolvedFooter
  refine ⟨asked, rest,
    ⟨constraint.toCondition,
      (p.content.lengthFacts 0).map LengthFact.toComparison ++ main.wildcardTable.comparisons⟩,
    ?_, rfl, ?_, ?_⟩
  · have hfixed : (main.clauses g.config).fixed = Constraint.bracket constraint.render := by
      simp [Element.clauses, hconditions, RootCondition.renderAll, RootCondition.render,
        Constraint.conjunction, Text.join, constraint]
    simp only [Clauses.query, hfixed, hchild, asked, rest, String.append_assoc]
    rfl
  · rw [String.toList_append]
    refine Clauses.demand_read _ constraint _ _ ?_ rfl ?_
    · simp [Element.clauses, hlength, hfacts]
    · refine Clauses.ends_of_map _ main.wildcardTable _ ?_
      cases hmap : g.config.emitWildcardMap with
      | true => exact Or.inr (by simp [Element.clauses, hmap])
      | false => exact Or.inl (by simp [Element.clauses, hmap])
  · intro t
    rw [htable, Demand.Holds, List.forall_mem_append, List.forall_mem_map, ← and_assoc,
      holds_iff_fits, ← matches_iff_fits]
    refine and_congr_right fun hmatches => comparisons_hold_iff ?_
    intro entry hentry path hpath
    have hrecorded : main.wildcardTable.Recorded entry.1 path := ⟨entry.2, hentry, hpath⟩
    rw [Element.recorded_wildcardTable, hwildcards] at hrecorded
    exact exists_node_of_fits (matches_iff_fits.mp hmatches) hrecorded

/-- The formula `x + sin x` for any `x`; the wildcard is named once by its text and once
    by its attribute. -/
def sineSum : Element where
  tag := { localName := "apply" }
  content :=
    .element { localName := "plus" } .nil <|
    .element { localName := "qvar", qualifier := some "mws" } (.text " x" .nil) <|
    .element { localName := "apply" }
      (.element { localName := "sin" } .nil <|
        .element { localName := "qvar", qualifier := some "mws", attributes := [("name", "x")] }
          .nil .nil)
      .nil

def sineSumMain : Element where
  tag := { localName := "semantics" }
  content := .element sineSum.tag sineSum.content <|
    .element { localName := "annotation" } (.text "x+sin(x)" .nil) .nil

def sineSumGenerator : Generator where
  config := { header := some "", footer := some "$x" }
  main := some sineSumMain

def sineSumQuery : String :=
  "for $x in $m//*:apply\n" ++
    "[*[1]/name() = 'plus' and *[3]/name() = 'apply' and *[3][*[1]/name() = 'sin']]\nwhere\n" ++
    "fn:count($x/*[3]/*) = 2\n and fn:count($x/*) = 3\n and $x/*[2] = $x/*[3]/*[2]\n" ++
    "let $q := map \x7b\"x\" : (data($x/*[2]/@xml:id),data($x/*[3]/*[2]/@xml-id))\x7d\n\n" ++
    "return\n$x"

theorem sineSum_finds_matches :
    sineSumGenerator.generate.2 = .ok (some sineSumQuery) ∧
    ∃ (asked rest : String) (d : Demand),
      sineSumQuery = sineSumGenerator.config.resolvedHeader ++ "for $x in $m//*:" ++
        sineSum.tag.localName ++ "\n" ++ asked ++ rest ∧
      rest = (sineSumMain.clauses sineSumGenerator.config).mapClause ++ "\n\nreturn\n" ++
        sineSumGenerator.config.resolvedFooter ∧
      demand (asked ++ rest).toList = some (d, rest.toList) ∧
      ∀ t : Element, d.Holds t ↔
        Matches sineSum t ∧ ∀ entry ∈ sineSumGenerator.generate.1.wildcards, AgreeAt t entry.2 := by
  have hquery : sineSumGenerator.generate.2 = .ok (some sineSumQuery) := by decide +kernel
  refine ⟨hquery, generate_finds_matches rfl rfl rfl ?_ (by decide) rfl rfl hquery⟩
  intro a ha
  obtain rfl := List.mem_singleton.mp ha
  decide

end FormulaQuery
