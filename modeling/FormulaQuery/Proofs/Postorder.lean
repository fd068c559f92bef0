/-
  FormulaQuery/Proofs/Postorder.lean
  ==================================
  **The order of the child counts.**  The child count of an element is recorded
  where a walk leaves it, so the counts stand in post-order: a node comes behind
  everything below it, and behind its earlier siblings with all that is below them
  (`Path.PostBefore`).

  `lengths_in_postorder` lists the counts of a compilation.  There is one for the
  element itself and one for each node with children that is seen from it and
  compared, each with the number of all its element children.  For a main element
  the lists of its children are put one after the other.
-/
import FormulaQuery.Proofs.Visible

namespace FormulaQuery

/-! ### Post-order of paths -/

/-- The first path comes before the second one in post-order: it leads to a node below the
    other one, or it leaves the way to it at an earlier child. -/
inductive Path.PostBefore : Path → Path → Prop
  | parent (index : Nat) (q : Path) : PostBefore (index :: q) []
  | sibling {i j : Nat} (h : i < j) (q r : Path) : PostBefore (i :: q) (j :: r)
  | within (index : Nat) {q r : Path} (h : PostBefore q r) : PostBefore (index :: q) (index :: r)

theorem Path.PostBefore.ne {q r : Path} (h : PostBefore q r) : q ≠ r := by
  induction h with
  | parent index q => exact List.cons_ne_nil index q
  | sibling hlt q r =>
    intro heq
    exact absurd (List.cons.inj heq).1 (Nat.ne_of_lt hlt)
  | within index _ ih =>
    intro heq
    exact ih (List.cons.inj heq).2

def LengthFact.PostBefore (f g : LengthFact) : Prop := Path.PostBefore f.path g.path

namespace Content

/-- The last count is that of the element itself, those before start at a later child. -/
theorem lengthFacts_behind {c : Content} {before : Nat} {f : LengthFact}
    (hf : f ∈ c.lengthFacts before) : f.path = [] ∨ ∃ k q, f.path = k :: q ∧ before < k := by
  rcases (mem_lengthFacts_iff_child c before f).mp hf with rfl | ⟨child, index, hmem, -, -, u, -, rfl⟩
  · exact Or.inl rfl
  · have hle : before + 1 ≤ index := List.le_snd_of_mem_zipIdx hmem
    exact Or.inr ⟨index, u.path, rfl, hle⟩

theorem lengthFacts_ordered (c : Content) (before : Nat) :
    (c.lengthFacts before).Pairwise LengthFact.PostBefore := by
  induction c generalizing before with
  | nil => exact List.pairwise_singleton _ _
  | text value rest ih => exact ih before
  | element tag inner rest ihi ihr =>
    rw [lengthFacts]
    cases hskip : tag.isWildcard || tag.isAnnotation || inner.isEmpty with
    | true => exact ihr (before + 1)
    | false =>
      rw [if_neg (by simp), List.pairwise_append, List.pairwise_map]
      refine ⟨?_, ihr (before + 1), ?_⟩
      · apply (ihi 0).imp
        intro f g h
        exact .within (before + 1) h
      · intro f hf g hg
        obtain ⟨u, -, rfl⟩ := List.mem_map.mp hf
        change Path.PostBefore ((before + 1) :: u.path) g.path
        rcases lengthFacts_behind hg with hpath | ⟨k, q, hpath, hlt⟩
        · rw [hpath]
          exact .parent (before + 1) u.path
        · rw [hpath]
          exact .sibling hlt u.path q

theorem getLast?_lengthFacts (c : Content) (before : Nat) :
    (c.lengthFacts before).getLast? = some ⟨[], before + c.children.length⟩ := by
  rw [lengthFacts_kept, List.getLast?_concat]

theorem rootLengthFacts_eq_flatMap (c : Content) :
    c.rootLengthFacts =
      (c.children.filter fun child => child.tag.isCompared && child.hasChildren).flatMap
        fun child => child.content.lengthFacts 0 := by
  induction c with
  | nil => rfl
  | text value rest ih => exact ih
  | element tag inner rest _ ih =>
    have hkeep : (tag.isCompared && (Element.mk tag inner).hasChildren) =
        !(tag.isWildcard || tag.isAnnotation || inner.isEmpty) := by
      rw [Tag.isCompared, Element.hasChildren, Bool.not_or (tag.isWildcard || tag.isAnnotation)]
    rw [rootLengthFacts, children_element, ih, List.filter_cons, hkeep]
    cases tag.isWildcard || tag.isAnnotation || inner.isEmpty with
    | true => rfl
    | false => rfl

end Content

/-! ### The nodes that are counted -/

theorem reaches_concat_iff {e w : Element} {p : Path} {index : Nat} :
    Reaches e (p ++ [index]) w ↔
      (∃ v, Reaches e p v ∧ v.child? index = some w) ∧ w.tag.isCompared = true := by
  induction p generalizing e with
  | nil =>
    constructor
    · intro h
      cases h with
      | down hchild hcompared hreach =>
        cases hreach
        exact ⟨⟨e, .here e, hchild⟩, hcompared⟩
    · rintro ⟨⟨v, hreach, hchild⟩, hcompared⟩
      cases hreach
      exact .down hchild hcompared (.here w)
  | cons k p ih =>
    constructor
    · intro h
      cases h with
      | down hchild hcompared hreach =>
        obtain ⟨⟨v, hreach, hw⟩, hw'⟩ := ih.mp hreach
        exact ⟨⟨v, .down hchild hcompared hreach, hw⟩, hw'⟩
    · rintro ⟨⟨v, hreach, hw⟩, hw'⟩
      cases hreach with
      | down hchild hcompared hreach =>
        exact .down hchild hcompared (ih.mpr ⟨⟨v, hreach, hw⟩, hw'⟩)

theorem reaches_iff {e v : Element} {q : Path} :
    Reaches e q v ↔
      e.descend? q = some v ∧ (q = [] ∨ e.Sees q ∧ v.tag.isCompared = true) := by
  rcases List.eq_nil_or_concat' q with rfl | ⟨p, index, rfl⟩
  · constructor
    · intro h
      cases h
      exact ⟨rfl, Or.inl rfl⟩
    · rintro ⟨h, -⟩
      obtain rfl : e = v := Option.some.inj h
      exact .here e
  · rw [reaches_concat_iff, reaches_child_iff]
    simp [and_assoc]

namespace Element

/-- An element has its own child count, also where it has no children at all. -/
theorem mem_lengthFacts_iff {e : Element} {q : Path} {count : Nat} :
    ⟨q, count⟩ ∈ e.content.lengthFacts 0 ↔
      ∃ v, Reaches e q v ∧ (q = [] ∨ v.hasChildren = true) ∧ v.childCount = count := by
  cases he : e.hasChildren with
  | true =>
    rw [mem_lengthFacts he]
    constructor
    · rintro ⟨v, hreach, hv, hcount⟩
      exact ⟨v, hreach, Or.inr hv, hcount⟩
    · rintro ⟨v, hreach, rfl | hv, hcount⟩
      · cases hreach
        exact ⟨e, .here e, he, hcount⟩
      · exact ⟨v, hreach, hv, hcount⟩
  | false =>
    obtain ⟨tag, content⟩ := e
    obtain rfl : content = .nil := by
      simpa [hasChildren, Content.isEmpty_iff] using he
    constructor
    · intro h
      obtain ⟨rfl, rfl⟩ : q = [] ∧ count = 0 := by
        simpa [Content.lengthFacts] using h
      exact ⟨_, .here _, Or.inl rfl, rfl⟩
    · rintro ⟨v, hreach, -, rfl⟩
      cases hreach with
      | here _ => exact List.mem_singleton.mpr rfl
      | down hchild _ _ =>
        rw [hasChildren_of_child? hchild] at he
        cases he

/-- The nodes whose children are counted, with their paths. -/
def countedNodes (e : Element) : List (Path × Element) :=
  (e.content.lengthFacts 0).map fun f => (f.path, (e.descend? f.path).getD e)

theorem mem_countedNodes {e d : Element} {q : Path} :
    (q, d) ∈ e.countedNodes ↔
      e.descend? q = some d ∧
        (q = [] ∨ e.Sees q ∧ d.tag.isCompared = true ∧ d.hasChildren = true) := by
  have hreaches : (q, d) ∈ e.countedNodes ↔
      Reaches e q d ∧ (q = [] ∨ d.hasChildren = true) := by
    simp only [countedNodes, List.mem_map, Prod.mk.injEq]
    constructor
    · rintro ⟨⟨q', count⟩, hmem, rfl, hd⟩
      obtain ⟨v, hreach, hv, -⟩ := mem_lengthFacts_iff.mp hmem
      rw [hreach.descend?, Option.getD_some] at hd
      exact hd ▸ ⟨hreach, hv⟩
    · rintro ⟨hreach, hd⟩
      refine ⟨⟨q, d.childCount⟩, mem_lengthFacts_iff.mpr ⟨d, hreach, hd, rfl⟩, rfl, ?_⟩
      rw [hreach.descend?, Option.getD_some]
  rw [hreaches, reaches_iff, and_assoc, ← or_and_left, and_assoc]

theorem countedNodes_ordered (e : Element) :
    e.countedNodes.Pairwise fun m n => Path.PostBefore m.1 n.1 := by
  rw [countedNodes, List.pairwise_map]
  exact e.content.lengthFacts_ordered 0

theorem getLast?_countedNodes (e : Element) : e.countedNodes.getLast? = some ([], e) := by
  rw [countedNodes, List.getLast?_map, Content.getLast?_lengthFacts]
  rfl

theorem lengthFacts_eq_map_countedNodes (e : Element) :
    e.content.lengthFacts 0 = e.countedNodes.map fun n => ⟨n.1, n.2.childCount⟩ := by
  rw [countedNodes, List.map_map]
  refine (List.map_id _).symm.trans (List.map_congr_left ?_)
  rintro ⟨q, count⟩ hmem
  obtain ⟨v, hreach, -, rfl⟩ := mem_lengthFacts_iff.mp hmem
  simp [hreach.descend?]

end Element

/-! ### The child counts of a compilation -/

/-- The entries are the child counts of `nodes`: the element and the nodes with children that
    are seen from it and compared, in post-order. -/
structure CountsInPostorder (entries : List String) (e : Element)
    (nodes : List (Path × Element)) : Prop where
  entries_eq : entries = nodes.map fun n =>
    "fn:count($x" ++ n.1.render ++ "/*) = " ++ toString n.2.childCount
  mem_iff : ∀ q d, (q, d) ∈ nodes ↔ e.descend? q = some d ∧
    (q = [] ∨ e.Sees q ∧ d.tag.isCompared = true ∧ d.hasChildren = true)
  ordered : nodes.Pairwise fun m n => Path.PostBefore m.1 n.1
  last : nodes.getLast? = some ([], e)
  nodup : (nodes.map fun n => n.1.render).Nodup

theorem countsInPostorder_countedNodes (e : Element) :
    CountsInPostorder ((e.content.lengthFacts 0).map LengthFact.render) e e.countedNodes where
  entries_eq := by
    rw [e.lengthFacts_eq_map_countedNodes, List.map_map]
    rfl
  mem_iff := fun _ _ => Element.mem_countedNodes
  ordered := e.countedNodes_ordered
  last := e.getLast?_countedNodes
  nodup := by
    apply List.pairwise_map.mpr
    apply e.countedNodes_ordered.imp
    intro m n hbefore heq
    exact hbefore.ne (XPath.path_render_injective heq)

theorem unnamed?_of_subset {ws vs : List Sighting} (h : unnamed? ws = none) (hsub : vs ⊆ ws) :
    unnamed? vs = none := by
  simp only [unnamed?, Option.map_eq_none_iff, List.find?_eq_none] at h ⊢
  intro w hw
  exact h w (hsub hw)

/-- Where a main element is compiled, so are its compared children. -/
theorem compileNested_of_compileMain {main child : Element} {text : String} {s : Session}
    (h : (Session.compileMain main).run { restrictLength := true } = .ok text s)
    (hchild : child ∈ main.children) (hcompared : child.tag.isCompared = true) :
    ∃ text s', (Session.compileNested child).run { restrictLength := true } = .ok text s' ∧
      s'.lengths = child.content.lengthFacts 0 := by
  obtain ⟨hnamed, -⟩ := Session.compileMain_inv h
  have hsub : child.content.sightings 0 ⊆ main.content.rootSightings 0 := by
    intro w hw
    obtain ⟨index, hindex⟩ := List.mem_iff_getElem?.mp hchild
    have hmem : (child, index + 1) ∈ main.content.children.zipIdx (0 + 1) :=
      Element.mem_zipIdx_iff.mpr hindex
    exact (Content.mem_rootSightings_iff_child _ _ _).mpr
      ⟨child, index + 1, hmem, Or.inr ⟨hcompared, hw⟩⟩
  exact ⟨_, _, Session.compileNested_ok child true (unnamed?_of_subset hnamed hsub), rfl⟩

/-- **Child counts stand in post-order.**  Those of a main element are the lists of its
    compared children that have children, one after the other. -/
theorem lengths_in_postorder (e : Element) :
    (∀ text s, (Session.compileNested e).run { restrictLength := true } = .ok text s →
      ∃ nodes, CountsInPostorder (s.lengths.map LengthFact.render) e nodes) ∧
    ∀ text s, (Session.compileMain e).run { restrictLength := true } = .ok text s →
      ∃ lists : List (List LengthFact),
        List.Forall₂ (fun child facts => ∃ text s',
            (Session.compileNested child).run { restrictLength := true } = .ok text s' ∧
              s'.lengths = facts)
          (e.children.filter fun child => child.tag.isCompared && child.hasChildren) lists ∧
        s.lengths = lists.flatten := by
  constructor
  · intro text s h
    obtain ⟨-, -, -, hlengths⟩ := Session.compileNested_inv h
    rw [hlengths]
    exact ⟨e.countedNodes, countsInPostorder_countedNodes e⟩
  · intro text s h
    obtain ⟨-, hlengths⟩ := Session.compileMain_inv h
    refine ⟨(e.children.filter fun child => child.tag.isCompared && child.hasChildren).map
      fun child => child.content.lengthFacts 0, ?_, ?_⟩
    · rw [List.forall₂_map_right_iff, List.forall₂_same]
      intro child hmem
      obtain ⟨hchild, hkept⟩ := List.mem_filter.mp hmem
      rw [Bool.and_eq_true] at hkept
      exact compileNested_of_compileMain h hchild hkept.1
    · rw [hlengths, if_pos rfl, Content.rootLengthFacts_eq_flatMap, List.flatMap_def]
      rfl

/-- Counts at three depths, beside a wildcard and annotations. -/
def layered : Element where
  tag := { localName := "apply" }
  content :=
    .element { localName := "ci" } (.text "f" .nil) <|
    .element (wildcardTag "x") (.element { localName := "ci" } (.text "x" .nil) .nil) <|
    .element { localName := "apply" }
      (.element { localName := "plus" } .nil <|
        .element { localName := "apply" }
          (.element { localName := "cn" } (.text "1" .nil) <|
            .element { localName := "annotation" } (.text "one" .nil) .nil) .nil) <|
    .element { localName := "annotation-xml" }
      (.element { localName := "mi" } (.text "f" .nil) .nil) .nil

def layeredSession : Session where
  restrictLength := true
  occurrences := [⟨"x", [2]⟩]
  lengths := [⟨[1], 0⟩, ⟨[3, 2, 1], 0⟩, ⟨[3, 2], 2⟩, ⟨[3], 2⟩, ⟨[], 4⟩]

def layeredMainSession : Session where
  restrictLength := true
  occurrences := [⟨"x", [2]⟩]
  lengths := [⟨[], 0⟩, ⟨[2, 1], 0⟩, ⟨[2], 2⟩, ⟨[], 2⟩]

theorem layered_in_postorder :
    (∃ text, (Session.compileNested layered).run { restrictLength := true } =
        .ok text layeredSession) ∧
      (∃ nodes, CountsInPostorder (layeredSession.lengths.map LengthFact.render) layered nodes) ∧
      (∃ text, (Session.compileMain layered).run { restrictLength := true } =
        .ok text layeredMainSession) ∧
      ∃ lists : List (List LengthFact),
        List.Forall₂ (fun child facts => ∃ text s',
            (Session.compileNested child).run { restrictLength := true } = .ok text s' ∧
              s'.lengths = facts)
          (layered.children.filter fun child => child.tag.isCompared && child.hasChildren)
          lists ∧
        layeredMainSession.lengths = lists.flatten := by
  have h : (Session.compileNested layered).run { restrictLength := true } =
      .ok (layered.content.constraint 0).render layeredSession := by rfl
  have h' : (Session.compileMain layered).run { restrictLength := true } =
      .ok (RootCondition.renderAll layered.content.rootConditions) layeredMainSession := by rfl
  exact ⟨⟨_, h⟩, (lengths_in_postorder layered).1 _ _ h, ⟨_, h'⟩,
    (lengths_in_postorder layered).2 _ _ h'⟩

end FormulaQuery
