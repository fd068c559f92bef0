/-
  FormulaQuery/Proofs/NormalForm.lean
  ===================================
  **What a compilation keeps of an element.**  The normal form of an element
  consists of its compared children in order, each at its index, the number of
  its element children, and its wildcards at their indexes.  Prefixes,
  namespaces, attributes, the content of annotations and the place of texts
  among wildcards are not part of it.

  A compilation keeps exactly the normal form: two elements give the same
  constraint, child counts and wildcard table if and only if their normal forms
  are equal (`compileNested_keeps_normalForm`).  One direction reads the normal
  form back from the three results.  For the other one, the order in which
  wildcards are met has to follow from the normal form, where they are kept
  apart from the other children: it is the order of their paths
  (`sightings_ordered`).
-/
import FormulaQuery.Proofs.ReadQuery
import FormulaQuery.Proofs.Table
import Mathlib.Data.List.Sort

namespace FormulaQuery

open Text (trim)

/-! ### Normal forms -/

/-- The children of an element that are compared, in order: the first, then the rest. -/
inductive Kept where
  | nil
  | text (value : String) (rest : Kept)
  /-- An element without children. -/
  | empty (index : Nat) (name : String) (rest : Kept)
  /-- An element with children, and the three parts of its own normal form. -/
  | nested (index : Nat) (name : String) (kept : Kept) (count : Nat)
      (wildcards : List (Nat × Option String)) (rest : Kept)
  deriving DecidableEq, Repr

/-- What a compilation keeps of an element. -/
structure NormalForm where
  kept : Kept
  /-- How many element children there are, of whatever kind. -/
  count : Nat
  /-- The wildcards among the children: index and name. -/
  wildcards : List (Nat × Option String)
  deriving DecidableEq, Repr

namespace Content

/-- The wildcards directly in the content, with their indexes. -/
def ownWildcards : Content → (before : Nat) → List (Nat × Option String)
  | nil, _ => []
  | text _ rest, before => rest.ownWildcards before
  | element tag inner rest, before =>
    if tag.isWildcard then
      (before + 1, wildcardName? tag inner) :: rest.ownWildcards (before + 1)
    else rest.ownWildcards (before + 1)

/-- The children directly in the content that are compared, each with its normal form. -/
def kept : Content → (before : Nat) → Kept
  | nil, _ => .nil
  | text value rest, before => .text (trim value) (rest.kept before)
  | element tag inner rest, before =>
    if tag.isWildcard || tag.isAnnotation then rest.kept (before + 1)
    else if inner.isEmpty then .empty (before + 1) tag.localName (rest.kept (before + 1))
    else .nested (before + 1) tag.localName (inner.kept 0) inner.children.length
      (inner.ownWildcards 0) (rest.kept (before + 1))

end Content

def Element.normalForm (e : Element) : NormalForm :=
  ⟨e.content.kept 0, e.childCount, e.content.ownWildcards 0⟩

/-! ### Compiling normal forms -/

namespace Kept

def constraint : Kept → Constraint
  | nil => .nil
  | text value rest => .text value rest.constraint
  | empty index name rest => .named index name rest.constraint
  | nested index name inner _ _ rest => .nested index name inner.constraint rest.constraint

def lengthFacts : Kept → List LengthFact
  | nil => []
  | text _ rest => rest.lengthFacts
  | empty _ _ rest => rest.lengthFacts
  | nested index _ inner count _ rest =>
    (inner.lengthFacts ++ [LengthFact.mk [] count]).map (LengthFact.below [index]) ++
      rest.lengthFacts

/-- Wildcards at their indexes as sightings. -/
def own (ws : List (Nat × Option String)) : List Sighting := ws.map fun w => ⟨[w.1], w.2⟩

/-- The wildcards below the kept children, those of one element before those further down. -/
def sightings : Kept → List Sighting
  | nil => []
  | text _ rest => rest.sightings
  | empty _ _ rest => rest.sightings
  | nested index _ inner _ ws rest =>
    (own ws ++ inner.sightings).map (Sighting.below [index]) ++ rest.sightings

end Kept

namespace Content

theorem constraint_kept (c : Content) (before : Nat) :
    c.constraint before = (c.kept before).constraint := by
  induction c generalizing before with
  | nil => rfl
  | text value rest ih => simp only [constraint, kept, Kept.constraint, ih]
  | element tag inner rest ihi ihr =>
    simp only [constraint, kept]
    cases tag.isWildcard <;> cases tag.isAnnotation <;> cases inner.isEmpty <;>
      simp [Kept.constraint, ihi, ihr]

theorem lengthFacts_kept (c : Content) (before : Nat) :
    c.lengthFacts before =
      (c.kept before).lengthFacts ++ [⟨[], before + c.children.length⟩] := by
  induction c generalizing before with
  | nil => rfl
  | text value rest ih =>
    simp only [lengthFacts, kept, Kept.lengthFacts, children_text, ih]
  | element tag inner rest ihi ihr =>
    have hcount : before + 1 + rest.children.length =
        before + (element tag inner rest).children.length := by
      rw [children_element, List.length_cons]
      omega
    simp only [lengthFacts, kept, ihr, hcount]
    cases tag.isWildcard <;> cases tag.isAnnotation <;> cases inner.isEmpty <;>
      simp [Kept.lengthFacts, ihi]

theorem mem_sightings_kept (c : Content) (before : Nat) (w : Sighting) :
    w ∈ c.sightings before ↔
      w ∈ Kept.own (c.ownWildcards before) ∨ w ∈ (c.kept before).sightings := by
  induction c generalizing before w with
  | nil => simp [sightings, ownWildcards, kept, Kept.own, Kept.sightings]
  | text value rest ih => exact ih before w
  | element tag inner rest ihi ihr =>
    simp only [sightings, ownWildcards, kept]
    cases hw : tag.isWildcard with
    | true =>
      simp only [if_true, Bool.true_or, Kept.own, List.map_cons, List.mem_cons, ihr, or_assoc]
    | false =>
      cases ha : tag.isAnnotation with
      | true =>
        simp only [if_true, if_false, Bool.false_eq_true, Bool.or_true]
        exact ihr (before + 1) w
      | false =>
        cases he : inner.isEmpty with
        | true =>
          simp only [if_true, if_false, Bool.false_eq_true, Bool.or_self, sightings_of_isEmpty he,
            List.map_nil, List.nil_append, Kept.sightings]
          exact ihr (before + 1) w
        | false =>
          simp only [if_false, Bool.false_eq_true, Bool.or_self, Kept.sightings, List.mem_append,
            List.mem_map, ihi, ihr]
          rw [or_left_comm]

end Content

/-! ### Document order is the order of paths -/

/-- One wildcard is met before another: its path comes first in the dictionary order. -/
def Sighting.Before (w v : Sighting) : Prop := w.path < v.path

instance : Std.Irrefl Sighting.Before := ⟨fun w => List.lt_irrefl w.path⟩

instance : Std.Antisymm Sighting.Before := ⟨fun _ _ h h' => absurd h' (List.lt_asymm h)⟩

/-- Wildcards of one element are ordered by their indexes. -/
def IndexBefore (w v : Nat × Option String) : Prop := w.1 < v.1

instance : Std.Irrefl IndexBefore := ⟨fun w => Nat.lt_irrefl w.1⟩

instance : Std.Antisymm IndexBefore := ⟨fun _ _ h h' => absurd h' (Nat.lt_asymm h)⟩

/-- The path starts at a child behind `before`. -/
def Sighting.Behind (before : Nat) (w : Sighting) : Prop := ∃ k p, w.path = k :: p ∧ before < k

theorem Sighting.Behind.mono {before before' : Nat} {w : Sighting} (h : w.Behind before')
    (hle : before ≤ before') : w.Behind before := by
  obtain ⟨k, p, hpath, hlt⟩ := h
  exact ⟨k, p, hpath, Nat.lt_of_le_of_lt hle hlt⟩

/-- What starts at a child comes before everything that starts further behind. -/
theorem Sighting.before_of_behind {w v : Sighting} {k : Nat} {p : Path} (hw : w.path = k :: p)
    (hv : v.Behind k) : w.Before v := by
  obtain ⟨j, q, hpath, hlt⟩ := hv
  rw [Before, hw, hpath]
  exact List.Lex.rel hlt

namespace Content

theorem sightings_behind {c : Content} {before : Nat} {w : Sighting}
    (hw : w ∈ c.sightings before) : w.Behind before := by
  induction c generalizing before w with
  | nil => simp [sightings] at hw
  | text value rest ih => exact ih hw
  | element tag inner rest _ ihr =>
    have hrest : w ∈ rest.sightings (before + 1) → w.Behind before := fun h =>
      (ihr h).mono (Nat.le_succ before)
    simp only [sightings] at hw
    cases hwild : tag.isWildcard with
    | true =>
      simp only [hwild, if_true, List.mem_cons] at hw
      rcases hw with rfl | hw
      · exact ⟨before + 1, [], rfl, Nat.lt_succ_self before⟩
      · exact hrest hw
    | false =>
      cases ha : tag.isAnnotation with
      | true =>
        simp only [hwild, ha, if_true, if_false, Bool.false_eq_true] at hw
        exact hrest hw
      | false =>
        simp only [hwild, ha, if_false, Bool.false_eq_true, List.mem_append, List.mem_map] at hw
        rcases hw with ⟨v, -, rfl⟩ | hw
        · exact ⟨before + 1, v.path, rfl, Nat.lt_succ_self before⟩
        · exact hrest hw

/-- **Wildcards are met in the order of their paths.** -/
theorem sightings_ordered (c : Content) (before : Nat) :
    (c.sightings before).Pairwise Sighting.Before := by
  induction c generalizing before with
  | nil => exact .nil
  | text value rest ih => exact ih before
  | element tag inner rest ihi ihr =>
    simp only [sightings]
    cases tag.isWildcard with
    | true =>
      refine .cons ?_ (ihr _)
      intro v hv
      exact Sighting.before_of_behind rfl (sightings_behind hv)
    | false =>
      cases tag.isAnnotation with
      | true => exact ihr _
      | false =>
        refine List.pairwise_append.mpr ⟨?_, ihr _, ?_⟩
        · rw [List.pairwise_map]
          refine (ihi 0).imp ?_
          intro w v hwv
          exact List.Lex.cons hwv
        · intro w hw v hv
          obtain ⟨u, -, rfl⟩ := List.mem_map.mp hw
          exact Sighting.before_of_behind rfl (sightings_behind hv)

theorem ownWildcards_behind {c : Content} {before : Nat} {w : Nat × Option String}
    (hw : w ∈ c.ownWildcards before) : before < w.1 := by
  induction c generalizing before with
  | nil => simp [ownWildcards] at hw
  | text value rest ih => exact ih hw
  | element tag inner rest _ ihr =>
    have hrest : w ∈ rest.ownWildcards (before + 1) → before < w.1 := fun h =>
      Nat.lt_of_succ_lt (ihr h)
    simp only [ownWildcards] at hw
    cases hwild : tag.isWildcard with
    | true =>
      simp only [hwild, if_true, List.mem_cons] at hw
      rcases hw with rfl | hw
      · exact Nat.lt_succ_self before
      · exact hrest hw
    | false =>
      simp only [hwild, if_false, Bool.false_eq_true] at hw
      exact hrest hw

theorem ownWildcards_ordered (c : Content) (before : Nat) :
    (c.ownWildcards before).Pairwise IndexBefore := by
  induction c generalizing before with
  | nil => exact .nil
  | text value rest ih => exact ih before
  | element tag inner rest _ ihr =>
    simp only [ownWildcards]
    cases tag.isWildcard with
    | true => exact .cons (fun v hv => ownWildcards_behind hv) (ihr _)
    | false => exact ihr _

end Content

/-! ### Reading normal forms back -/

namespace Kept

/-- The indexes grow, at every depth and also those of the wildcards. -/
def Ordered : Kept → (before : Nat) → Prop
  | nil, _ => True
  | text _ rest, before => rest.Ordered before
  | empty index _ rest, before => before < index ∧ rest.Ordered index
  | nested index _ inner _ ws rest, before =>
    before < index ∧ inner.Ordered 0 ∧ ws.Pairwise IndexBefore ∧ rest.Ordered index

theorem Ordered.mono {k : Kept} {before before' : Nat} (h : k.Ordered before')
    (hle : before ≤ before') : k.Ordered before := by
  induction k with
  | nil => trivial
  | text value rest ih => exact ih h
  | empty index name rest _ => exact ⟨Nat.lt_of_le_of_lt hle h.1, h.2⟩
  | nested index name inner count ws rest _ _ => exact ⟨Nat.lt_of_le_of_lt hle h.1, h.2⟩

/-- Sightings below the kept children lead through one of them and further down. -/
theorem sightings_behind {k : Kept} {before : Nat} (h : k.Ordered before) {w : Sighting}
    (hw : w ∈ k.sightings) : w.Behind before ∧ 2 ≤ w.path.length := by
  induction k generalizing before w with
  | nil => simp [sightings] at hw
  | text value rest ih => exact ih h hw
  | empty index name rest ih =>
    obtain ⟨hbehind, hlength⟩ := ih h.2 hw
    exact ⟨hbehind.mono (Nat.le_of_lt h.1), hlength⟩
  | nested index name inner count ws rest ihi ihr =>
    obtain ⟨hlt, hinner, -, hrest⟩ := h
    rw [sightings, List.mem_append, List.mem_map] at hw
    rcases hw with ⟨v, hv, rfl⟩ | hw
    · refine ⟨⟨index, v.path, rfl, hlt⟩, ?_⟩
      have hpos : 1 ≤ v.path.length := by
        rcases List.mem_append.mp hv with hv | hv
        · obtain ⟨u, -, rfl⟩ := List.mem_map.mp hv
          exact Nat.le_refl 1
        · exact Nat.le_of_succ_le (ihi hinner hv).2
      simpa [Sighting.below] using hpos
    · obtain ⟨hbehind, hlength⟩ := ihr hrest hw
      exact ⟨hbehind.mono (Nat.le_of_lt hlt), hlength⟩

theorem below_injective (index : Nat) : Function.Injective (Sighting.below [index]) := by
  rintro ⟨p, n⟩ ⟨q, m⟩ h
  simpa [Sighting.below] using h

theorem mem_own {ws : List (Nat × Option String)} {index : Nat} {name : Option String} :
    ⟨[index], name⟩ ∈ own ws ↔ (index, name) ∈ ws := by
  simp [own]

theorem length_of_mem_own {ws : List (Nat × Option String)} {w : Sighting} (h : w ∈ own ws) :
    w.path.length = 1 := by
  obtain ⟨v, -, rfl⟩ := List.mem_map.mp h
  rfl

/-- The wildcards of an element and those further down are told apart by the length of
    their paths. -/
theorem own_of_sightings {k k' : Kept} {ws ws' : List (Nat × Option String)}
    (hk : k.Ordered 0) (hk' : k'.Ordered 0)
    (hws : ws.Pairwise IndexBefore) (hws' : ws'.Pairwise IndexBefore)
    (h : ∀ w, w ∈ own ws ∨ w ∈ k.sightings ↔ w ∈ own ws' ∨ w ∈ k'.sightings) :
    ws = ws' ∧ ∀ w, w ∈ k.sightings ↔ w ∈ k'.sightings := by
  have hlong : ∀ {j : Kept} {w : Sighting}, j.Ordered 0 → w ∈ j.sightings → w.path.length ≠ 1 := by
    intro j w hj hw heq
    have := (sightings_behind hj hw).2
    omega
  constructor
  · refine hws.eq_of_mem_iff hws' ?_
    rintro ⟨index, name⟩
    have hmem := h ⟨[index], name⟩
    simp only [mem_own] at hmem
    have hno : ∀ {j : Kept}, j.Ordered 0 → ¬ (⟨[index], name⟩ : Sighting) ∈ j.sightings := by
      intro j hj hw
      exact hlong hj hw rfl
    simpa [hno hk, hno hk'] using hmem
  · intro w
    constructor
    · intro hw
      exact ((h w).mp (Or.inr hw)).resolve_left fun hown =>
        hlong hk hw (length_of_mem_own hown)
    · intro hw
      exact ((h w).mpr (Or.inr hw)).resolve_left fun hown =>
        hlong hk' hw (length_of_mem_own hown)

/-- Sightings below one child and behind it are told apart by where their paths start. -/
theorem sightings_split {index : Nat} {as as' bs bs' : List Sighting}
    (hb : ∀ w ∈ bs, w.Behind index) (hb' : ∀ w ∈ bs', w.Behind index)
    (h : ∀ w, w ∈ as.map (Sighting.below [index]) ++ bs ↔
      w ∈ as'.map (Sighting.below [index]) ++ bs') :
    (∀ w, w ∈ as ↔ w ∈ as') ∧ ∀ w, w ∈ bs ↔ w ∈ bs' := by
  have hapart : ∀ {w : Sighting}, w.Behind index → ∀ as : List Sighting,
      w ∉ as.map (Sighting.below [index]) := by
    rintro w ⟨k, p, hpath, hlt⟩ as hw
    obtain ⟨v, -, rfl⟩ := List.mem_map.mp hw
    simp only [Sighting.below, List.singleton_append, List.cons.injEq] at hpath
    omega
  have hbelow : ∀ w : Sighting, ¬ (w.below [index]).Behind index := by
    rintro w ⟨k, p, hpath, hlt⟩
    simp only [Sighting.below, List.singleton_append, List.cons.injEq] at hpath
    omega
  constructor
  · intro w
    have hw := h (w.below [index])
    simp only [List.mem_append, List.mem_map_of_injective (below_injective index)] at hw
    have hno : w.below [index] ∉ bs := fun hmem => hbelow w (hb _ hmem)
    have hno' : w.below [index] ∉ bs' := fun hmem => hbelow w (hb' _ hmem)
    simpa [hno, hno'] using hw
  · intro w
    constructor
    · intro hw
      exact (List.mem_append.mp ((h w).mp (List.mem_append_right _ hw))).resolve_left
        (hapart (hb w hw) as')
    · intro hw
      exact (List.mem_append.mp ((h w).mpr (List.mem_append_right _ hw))).resolve_left
        (hapart (hb' w hw) as)

theorem fact_below_injective (index : Nat) :
    Function.Injective (LengthFact.below [index]) := by
  rintro ⟨p, n⟩ ⟨q, m⟩ h
  simpa [LengthFact.below] using h

/-- How many child counts there are follows from the constraint. -/
theorem length_lengthFacts {k k' : Kept} (h : k.constraint = k'.constraint) :
    k.lengthFacts.length = k'.lengthFacts.length := by
  induction k generalizing k' with
  | nil =>
    cases k' <;> simp [constraint] at h
    rfl
  | text value rest ih =>
    cases k' <;> simp [constraint] at h
    simpa only [lengthFacts] using ih h.2
  | empty index name rest ih =>
    cases k' <;> simp [constraint] at h
    simpa only [lengthFacts] using ih h.2.2
  | nested index name inner count ws rest ihi ihr =>
    cases k' <;> simp [constraint] at h
    simp [lengthFacts, ihi h.2.2.1, ihr h.2.2.2]

/-- **Kept children can be told from what they compile to.**  The induction is on the
    children; a nested child takes its own child counts and wildcards out of those of
    its parent, by their number and by where their paths start. -/
theorem eq_of_records {k k' : Kept} {before : Nat} (hk : k.Ordered before)
    (hk' : k'.Ordered before) (hconstraint : k.constraint = k'.constraint)
    (hfacts : k.lengthFacts = k'.lengthFacts)
    (hsightings : ∀ w, w ∈ k.sightings ↔ w ∈ k'.sightings) : k = k' := by
  induction k generalizing k' before with
  | nil =>
    cases k' <;> simp [constraint] at hconstraint
    rfl
  | text value rest ih =>
    cases k' <;> simp [constraint] at hconstraint
    obtain ⟨rfl, hrest⟩ := hconstraint
    simp only [Ordered, lengthFacts, sightings] at hk hk' hfacts hsightings
    rw [ih hk hk' hrest hfacts hsightings]
  | empty index name rest ih =>
    cases k' <;> simp [constraint] at hconstraint
    obtain ⟨rfl, rfl, hrest⟩ := hconstraint
    simp only [Ordered, lengthFacts, sightings] at hk hk' hfacts hsightings
    rw [ih hk.2 hk'.2 hrest hfacts hsightings]
  | nested index name inner count ws rest ihi ihr =>
    cases k' with
    | nested index' name' inner' count' ws' rest' =>
      simp only [constraint, Constraint.nested.injEq] at hconstraint
      obtain ⟨rfl, rfl, hinner, hrest⟩ := hconstraint
      obtain ⟨-, hordered, hws, hordered'⟩ := hk
      obtain ⟨-, horderedR, hwsR, horderedR'⟩ := hk'
      have hlength : (inner.lengthFacts ++ [LengthFact.mk [] count]).length =
          (inner'.lengthFacts ++ [LengthFact.mk [] count']).length := by
        simp [length_lengthFacts hinner]
      obtain ⟨hbelow, hfactsRest⟩ := List.append_inj hfacts (by simpa using hlength)
      have hown := List.map_injective_iff.mpr (fact_below_injective index) hbelow
      obtain ⟨hfactsInner, hcount⟩ := List.append_inj' hown rfl
      obtain rfl : count = count' := by simpa using hcount
      obtain ⟨hinside, hbehind⟩ := sightings_split
        (fun w hw => (sightings_behind hordered' hw).1)
        (fun w hw => (sightings_behind horderedR' hw).1) hsightings
      obtain ⟨rfl, hdeeper⟩ := own_of_sightings hordered horderedR hws hwsR fun w => by
        simpa only [List.mem_append] using hinside w
      rw [ihi hordered horderedR hinner hfactsInner hdeeper,
        ihr hordered' horderedR' hrest hfactsRest hbehind]
    | nil => simp [constraint] at hconstraint
    | text value rest' => simp [constraint] at hconstraint
    | empty index' name' rest' => simp [constraint] at hconstraint

end Kept

theorem Content.kept_ordered (c : Content) (before : Nat) : (c.kept before).Ordered before := by
  induction c generalizing before with
  | nil => trivial
  | text value rest ih => exact ih before
  | element tag inner rest ihi ihr =>
    have hlt := Nat.lt_succ_self before
    simp only [kept]
    cases tag.isWildcard || tag.isAnnotation with
    | true => exact (ihr _).mono (Nat.le_succ before)
    | false =>
      cases inner.isEmpty with
      | true => exact ⟨hlt, ihr _⟩
      | false => exact ⟨hlt, ihi 0, inner.ownWildcards_ordered 0, ihr _⟩

/-- Normal forms are equal exactly if the results of the walks over the contents are. -/
theorem normalForm_eq_iff {p q : Element} :
    p.normalForm = q.normalForm ↔
      p.content.constraint 0 = q.content.constraint 0 ∧
        p.content.lengthFacts 0 = q.content.lengthFacts 0 ∧
        ∀ w, w ∈ p.content.sightings 0 ↔ w ∈ q.content.sightings 0 := by
  simp only [Content.constraint_kept, Content.lengthFacts_kept, Content.mem_sightings_kept,
    Nat.zero_add]
  constructor
  · intro h
    simp only [Element.normalForm, NormalForm.mk.injEq] at h
    obtain ⟨hkept, hcount, hwildcards⟩ := h
    have hcount' : p.content.children.length = q.content.children.length := hcount
    simp only [hkept, hcount', hwildcards, implies_true, and_self]
  · rintro ⟨hconstraint, hfacts, hsightings⟩
    obtain ⟨hinner, hcount⟩ := List.append_inj' hfacts rfl
    have hcount' : p.childCount = q.childCount := by
      simpa [Element.childCount, Element.children] using hcount
    obtain ⟨hwildcards, hdeeper⟩ := Kept.own_of_sightings (p.content.kept_ordered 0)
      (q.content.kept_ordered 0) (p.content.ownWildcards_ordered 0)
      (q.content.ownWildcards_ordered 0) hsightings
    have hkept := Kept.eq_of_records (p.content.kept_ordered 0) (q.content.kept_ordered 0)
      hconstraint hinner hdeeper
    simp only [Element.normalForm, hkept, hcount', hwildcards]

/-! ### Compilations keep exactly the normal form -/

/-- A wildcard table with its paths as they are written. -/
def WildcardTable.written (t : WildcardTable) : List (String × List String) :=
  t.map fun entry => (entry.1, entry.2.map Path.render)

theorem WildcardTable.recorded_of_written_subset {t t' : WildcardTable}
    (h : t.written ⊆ t'.written) {name : String} {p : Path} (hp : t.Recorded name p) :
    t'.Recorded name p := by
  obtain ⟨paths, hmem, hp⟩ := hp
  have hwritten : (name, paths.map Path.render) ∈ t'.written :=
    h (List.mem_map.mpr ⟨(name, paths), hmem, rfl⟩)
  obtain ⟨entry, hentry, heq⟩ := List.mem_map.mp hwritten
  simp only [Prod.mk.injEq] at heq
  obtain ⟨rfl, hpaths⟩ := heq
  have hsame := List.map_injective_iff.mpr XPath.path_render_injective hpaths
  exact ⟨entry.2, hentry, hsame ▸ hp⟩

theorem sightings_subset_of_table {ws vs : List Sighting} (hnamed : unnamed? ws = none)
    (h : (WildcardTable.ofOccurrences (occurrencesOf ws)).written ⊆
      (WildcardTable.ofOccurrences (occurrencesOf vs)).written) {w : Sighting} (hw : w ∈ ws) :
    w ∈ vs := by
  obtain ⟨path, _⟩ := w
  obtain ⟨name, rfl⟩ := exists_name_of_unnamed? hnamed hw
  rw [← mem_occurrencesOf, ← WildcardTable.recorded_ofOccurrences] at hw ⊢
  exact WildcardTable.recorded_of_written_subset h hw

/-- The normal form can be read back from what is written. -/
theorem normalForm_of_written {p q : Element}
    (hnamedP : unnamed? (p.content.sightings 0) = none)
    (hnamedQ : unnamed? (q.content.sightings 0) = none)
    (htext : (p.content.constraint 0).render = (q.content.constraint 0).render)
    (hlengths : (p.content.lengthFacts 0).map LengthFact.render =
      (q.content.lengthFacts 0).map LengthFact.render)
    (htable : (WildcardTable.ofOccurrences (occurrencesOf (p.content.sightings 0))).written.Perm
      (WildcardTable.ofOccurrences (occurrencesOf (q.content.sightings 0))).written) :
    p.normalForm = q.normalForm := by
  refine normalForm_eq_iff.mpr ⟨Constraint.render_injective htext,
    List.map_injective_iff.mpr LengthFact.render_injective hlengths, ?_⟩
  intro w
  exact ⟨sightings_subset_of_table hnamedP htable.subset,
    sightings_subset_of_table hnamedQ htable.symm.subset⟩

/-- From equal normal forms the wildcards are met in the same order. -/
theorem walks_of_normalForm {p q : Element} (h : p.normalForm = q.normalForm) :
    p.content.constraint 0 = q.content.constraint 0 ∧
      p.content.lengthFacts 0 = q.content.lengthFacts 0 ∧
      p.content.sightings 0 = q.content.sightings 0 := by
  obtain ⟨hconstraint, hfacts, hsightings⟩ := normalForm_eq_iff.mp h
  exact ⟨hconstraint, hfacts,
    (p.content.sightings_ordered 0).eq_of_mem_iff (q.content.sightings_ordered 0) hsightings⟩

/-- **A compilation loses nothing but what it is meant to ignore.**  Two elements compile to
    the same constraint text, the same child counts and the same wildcard table exactly if
    their normal forms are equal; it makes no difference whether the names of the table are
    compared in their order or not. -/
theorem compileNested_keeps_normalForm {p q : Element} {textP textQ : String} {sP sQ : Session}
    (hp : (Session.compileNested p).run { restrictLength := true } = .ok textP sP)
    (hq : (Session.compileNested q).run { restrictLength := true } = .ok textQ sQ) :
    ((textP = textQ ∧ sP.lengths.map LengthFact.render = sQ.lengths.map LengthFact.render ∧
        sP.table.written = sQ.table.written) ↔ p.normalForm = q.normalForm) ∧
      ((textP = textQ ∧ sP.lengths.map LengthFact.render = sQ.lengths.map LengthFact.render ∧
        sP.table.written.Perm sQ.table.written) ↔ p.normalForm = q.normalForm) := by
  obtain ⟨hnamedP, rfl, hoccP, hlenP⟩ := Session.compileNested_inv hp
  obtain ⟨hnamedQ, rfl, hoccQ, hlenQ⟩ := Session.compileNested_inv hq
  simp only [Session.table, hoccP, hoccQ, hlenP, hlenQ, if_true]
  constructor
  · constructor
    · rintro ⟨htext, hlengths, htable⟩
      exact normalForm_of_written hnamedP hnamedQ htext hlengths (htable ▸ List.Perm.refl _)
    · intro h
      obtain ⟨hconstraint, hfacts, hsightings⟩ := walks_of_normalForm h
      rw [hconstraint, hfacts, hsightings]
      exact ⟨rfl, rfl, rfl⟩
  · constructor
    · rintro ⟨htext, hlengths, htable⟩
      exact normalForm_of_written hnamedP hnamedQ htext hlengths htable
    · intro h
      obtain ⟨hconstraint, hfacts, hsightings⟩ := walks_of_normalForm h
      rw [hconstraint, hfacts, hsightings]
      exact ⟨rfl, rfl, List.Perm.refl _⟩

/-- A text, a wildcard, an annotation and an identifier. -/
def noted : Element where
  tag := { localName := "apply" }
  content :=
    .text " it's " <|
    .element { localName := "qvar", qualifier := some "mws", attributes := [("name", "a")] } .nil <|
    .element { localName := "annotation" } (.text "first" .nil) <|
    .element { localName := "ci" } (.text "f" .nil) .nil

/-- The same with other names, another annotation, and the text behind the wildcard. -/
def notedAgain : Element where
  tag := { localName := "times", qualifier := some "m" }
  content :=
    .element { localName := "qvar", qualifier := some "mws" } (.text "a" .nil) <|
    .text "it's" <|
    .element { localName := "annotation-xml" } .nil <|
    .element { localName := "ci", qualifier := some "m" } (.text "f " .nil) .nil

def notedText : String :=
  "./text() = 'it''s' and *[3]/name() = 'ci' and *[3][./text() = 'f']"

def notedSession : Session where
  restrictLength := true
  occurrences := [⟨"a", [1]⟩]
  lengths := [⟨[3], 0⟩, ⟨[], 3⟩]

theorem noted_keeps_normalForm :
    (Session.compileNested noted).run { restrictLength := true } = .ok notedText notedSession ∧
    (Session.compileNested notedAgain).run { restrictLength := true } =
      .ok notedText notedSession ∧
    noted.normalForm = notedAgain.normalForm := by
  have h : (Session.compileNested noted).run { restrictLength := true } =
      .ok notedText notedSession := by rfl
  have h' : (Session.compileNested notedAgain).run { restrictLength := true } =
      .ok notedText notedSession := by rfl
  exact ⟨h, h', (compileNested_keeps_normalForm h h').1.mp ⟨rfl, rfl, rfl⟩⟩

end FormulaQuery
