/-
  FormulaQuery/Proofs/Places.lean
  ===============================
  **Places and document order.**  The place of an element in a tree is the list of
  the indexes that lead down to it.  Document order is the order of these lists:
  an element comes before what is inside of it, and what is inside of it before
  its later siblings.

  Formula trees and document trees are listed by one recursion each.  The lists
  hold every element at its place (`Element.mem_positions`, `Xml.Tree.mem_places`)
  and are in document order (`Element.positions_sorted`, `Xml.Tree.places_sorted`).
-/
import FormulaQuery.Proofs.Location
import Mathlib.Data.List.Sort

namespace FormulaQuery

/-! ### Lists of elements with their places -/

section Listing

variable {α : Type}

def InDocumentOrder (xs : List (List Nat × α)) : Prop := xs.Pairwise fun x y => x.1 < y.1

/-- The elements of a tree that is the child with the index `i`. -/
def putBelow (i : Nat) (xs : List (List Nat × α)) : List (List Nat × α) :=
  xs.map fun x => (i :: x.1, x.2)

/-- The place leads to `x` from some nodes, the first of which has the index `index`.  Nodes
    that are no elements count, but nothing is inside of them. -/
def LeadsTo (at? : α → List Nat → Option α) (nodes : List (Option α)) (index : Nat)
    (p : List Nat) (x : α) : Prop :=
  ∃ i q child, p = (index + i) :: q ∧ nodes[i]?.join = some child ∧ at? child q = some x

theorem leadsTo_cons {at? : α → List Nat → Option α} {node : Option α} {nodes : List (Option α)}
    {index : Nat} {p : List Nat} {x : α} :
    LeadsTo at? (node :: nodes) index p x ↔
      (∃ q child, p = index :: q ∧ node = some child ∧ at? child q = some x) ∨
        LeadsTo at? nodes (index + 1) p x := by
  constructor
  · rintro ⟨_ | i, q, child, rfl, hchild, hx⟩
    · exact Or.inl ⟨q, child, rfl, by simpa using hchild, hx⟩
    · exact Or.inr ⟨i, q, child, by rw [Nat.add_right_comm, Nat.add_assoc], hchild, hx⟩
  · rintro (⟨q, child, rfl, rfl, hx⟩ | ⟨i, q, child, rfl, hchild, hx⟩)
    · exact ⟨0, q, child, rfl, rfl, hx⟩
    · exact ⟨i + 1, q, child, by rw [Nat.add_right_comm, Nat.add_assoc], hchild, hx⟩

theorem not_leadsTo_nil {at? : α → List Nat → Option α} {index : Nat} {p : List Nat} {x : α} :
    ¬ LeadsTo at? [] index p x := by
  rintro ⟨i, q, child, -, hchild, -⟩
  simp at hchild

theorem mem_putBelow {i : Nat} {xs : List (List Nat × α)} {p : List Nat} {x : α} :
    (p, x) ∈ putBelow i xs ↔ ∃ q, p = i :: q ∧ (q, x) ∈ xs := by
  unfold putBelow
  rw [List.mem_map]
  constructor
  · rintro ⟨⟨q, y⟩, hmem, heq⟩
    obtain ⟨rfl, rfl⟩ := Prod.mk.inj heq
    exact ⟨q, rfl, hmem⟩
  · rintro ⟨q, rfl, hmem⟩
    exact ⟨(q, x), hmem, rfl⟩

/-- What is inside of a child comes before what is inside of a later one. -/
theorem InDocumentOrder.putBelow_append {i : Nat} {xs ys : List (List Nat × α)}
    (hxs : InDocumentOrder xs) (hys : InDocumentOrder ys)
    (hlater : ∀ y ∈ ys, ∃ j q, i < j ∧ y.1 = j :: q) :
    InDocumentOrder (putBelow i xs ++ ys) := by
  unfold InDocumentOrder
  rw [List.pairwise_append]
  refine ⟨?_, hys, ?_⟩
  · unfold putBelow
    rw [List.pairwise_map]
    apply hxs.imp
    intro x y hlt
    exact List.cons_lt_cons_self.mpr hlt
  · rintro ⟨p, x⟩ hx y hy
    obtain ⟨q, rfl, -⟩ := mem_putBelow.mp hx
    obtain ⟨j, q', hij, hy⟩ := hlater y hy
    rw [hy]
    exact List.cons_lt_cons_iff.mpr (Or.inl hij)

/-- The first member with a property, told by its place. -/
theorem InDocumentOrder.first_iff {xs : List (List Nat × α)} (hxs : InDocumentOrder xs)
    {x : List Nat × α} {P : List Nat × α → Prop} :
    (∃ before after, xs = before ++ x :: after ∧ ∀ y ∈ before, P y) ↔
      x ∈ xs ∧ ∀ y ∈ xs, y.1 < x.1 → P y := by
  constructor
  · rintro ⟨before, after, rfl, hbefore⟩
    obtain ⟨-, htail, -⟩ := List.pairwise_append.mp hxs
    refine ⟨by simp, ?_⟩
    intro y hy hlt
    rcases List.mem_append.mp hy with hy | hy
    · exact hbefore y hy
    · -- what stands behind `x` comes later
      rcases List.mem_cons.mp hy with rfl | hy
      · exact absurd hlt (List.lt_irrefl _)
      · have hgt := (List.pairwise_cons.mp htail).1 y hy
        exact absurd (List.lt_trans hlt hgt) (List.lt_irrefl _)
  · rintro ⟨hx, hall⟩
    obtain ⟨before, after, rfl⟩ := List.append_of_mem hx
    refine ⟨before, after, rfl, ?_⟩
    intro y hy
    have hlt := (List.pairwise_append.mp hxs).2.2 y hy x (by simp)
    exact hall y (List.mem_append_left _ hy) hlt

/-- A tree is listed by its root in front of what is inside. -/
theorem mem_root_iff {at? : α → List Nat → Option α} {nodes : List (Option α)} {root x : α}
    {inside : List (List Nat × α)} {p : List Nat} (hnil : at? root [] = some root)
    (hcons : ∀ i q, at? root (i :: q) = nodes[i]?.join.bind fun child => at? child q)
    (hinside : (p, x) ∈ inside ↔ LeadsTo at? nodes 0 p x) :
    (p, x) ∈ ([], root) :: inside ↔ at? root p = some x := by
  rw [List.mem_cons, hinside]
  cases p with
  | nil => simp [LeadsTo, hnil, eq_comm]
  | cons i p => simp [LeadsTo, hcons, Option.bind_eq_some_iff]

theorem InDocumentOrder.root_cons {at? : α → List Nat → Option α} {nodes : List (Option α)}
    {root : α} {inside : List (List Nat × α)} (h : InDocumentOrder inside)
    (hinside : ∀ p x, (p, x) ∈ inside ↔ LeadsTo at? nodes 0 p x) :
    InDocumentOrder (([], root) :: inside) := by
  refine List.pairwise_cons.mpr ⟨?_, h⟩
  rintro ⟨p, x⟩ hx
  obtain ⟨i, q, -, rfl, -⟩ := (hinside p x).mp hx
  exact List.nil_lt_cons _ _

end Listing

/-! ### Formula trees -/

/-- The nodes that stand directly in the content; `none` is a text. -/
def Content.nodes : Content → List (Option Element)
  | nil => []
  | text _ rest => none :: rest.nodes
  | element tag inner rest => some ⟨tag, inner⟩ :: rest.nodes

/-- The element at a position. -/
def Element.at? (e : Element) : Position → Option Element
  | [] => some e
  | i :: p => e.content.nodes[i]?.join.bind fun child => child.at? p

namespace Content

theorem positions_element (tag : Tag) (inner rest : Content) (index : Nat) :
    (element tag inner rest).positions index =
      putBelow index (⟨tag, inner⟩ : Element).positions ++ rest.positions (index + 1) := rfl

theorem mem_positions {c : Content} {index : Nat} {p : Position} {x : Element} :
    (p, x) ∈ c.positions index ↔ LeadsTo Element.at? c.nodes index p x := by
  induction c generalizing index p with
  | nil => simp [positions, nodes, not_leadsTo_nil]
  | text value rest ih => simp [positions, nodes, leadsTo_cons, ih]
  | element tag inner rest ihi ihr =>
    have hfirst : ∀ q, (q, x) ∈ (⟨tag, inner⟩ : Element).positions ↔
        (⟨tag, inner⟩ : Element).at? q = some x :=
      fun q => mem_root_iff rfl (fun _ _ => rfl) ihi
    simp [positions_element, mem_putBelow, hfirst, ihr, nodes, leadsTo_cons]

theorem positions_sorted (c : Content) (index : Nat) : InDocumentOrder (c.positions index) := by
  induction c generalizing index with
  | nil => exact List.Pairwise.nil
  | text value rest ih => exact ih (index + 1)
  | element tag inner rest ihi ihr =>
    have hfirst : InDocumentOrder (⟨tag, inner⟩ : Element).positions :=
      (ihi 0).root_cons fun _ _ => mem_positions
    rw [positions_element]
    apply hfirst.putBelow_append (ihr (index + 1))
    rintro ⟨p, x⟩ hx
    obtain ⟨i, q, -, rfl, -⟩ := mem_positions.mp hx
    exact ⟨_, q, by omega, rfl⟩

end Content

namespace Element

theorem mem_positions {e x : Element} {p : Position} :
    (p, x) ∈ e.positions ↔ e.at? p = some x :=
  mem_root_iff rfl (fun _ _ => rfl) Content.mem_positions

theorem positions_sorted (e : Element) : InDocumentOrder e.positions :=
  (e.content.positions_sorted 0).root_cons fun _ _ => Content.mem_positions

end Element

/-! ### Document trees -/

namespace Xml

/-- The elements at any depth with their places, in document order.  Only elements count for
    the indexes, and the first one has the index `index`. -/
def Markup.places : Markup → (index : Nat) → List (List Nat × Tree)
  | nil, _ => []
  | text _ rest, index => rest.places index
  | marker _ rest, index => rest.places index
  | element tag inner rest, index =>
    ([index], ⟨tag, inner⟩) :: (putBelow index (inner.places 0) ++ rest.places (index + 1))

def Tree.places (t : Tree) : List (List Nat × Tree) := ([], t) :: t.content.places 0

/-- The element at a place. -/
def Tree.at? (t : Tree) : List Nat → Option Tree
  | [] => some t
  | i :: p => t.content.children[i]?.bind fun child => child.at? p

theorem Tree.at?_cons (t : Tree) (i : Nat) (p : List Nat) :
    t.at? (i :: p) = (t.content.children.map some)[i]?.join.bind fun child => child.at? p := by
  rw [at?, List.getElem?_map]
  cases t.content.children[i]? <;> rfl

namespace Markup

theorem places_element (tag : StartTag) (inner rest : Markup) (index : Nat) :
    (element tag inner rest).places index =
      putBelow index (⟨tag, inner⟩ : Tree).places ++ rest.places (index + 1) := rfl

theorem mem_places {m : Markup} {index : Nat} {p : List Nat} {x : Tree} :
    (p, x) ∈ m.places index ↔ LeadsTo Tree.at? (m.children.map some) index p x := by
  induction m generalizing index p with
  | nil => simp [places, children, not_leadsTo_nil]
  | text value rest ih => exact ih
  | marker n rest ih => exact ih
  | element tag inner rest ihi ihr =>
    have hfirst : ∀ q, (q, x) ∈ (⟨tag, inner⟩ : Tree).places ↔
        (⟨tag, inner⟩ : Tree).at? q = some x :=
      fun q => mem_root_iff rfl (Tree.at?_cons _) ihi
    simp [places_element, mem_putBelow, hfirst, ihr, children, leadsTo_cons]

theorem places_sorted (m : Markup) (index : Nat) : InDocumentOrder (m.places index) := by
  induction m generalizing index with
  | nil => exact List.Pairwise.nil
  | text value rest ih => exact ih index
  | marker n rest ih => exact ih index
  | element tag inner rest ihi ihr =>
    have hfirst : InDocumentOrder (⟨tag, inner⟩ : Tree).places :=
      (ihi 0).root_cons fun _ _ => mem_places
    rw [places_element]
    apply hfirst.putBelow_append (ihr (index + 1))
    rintro ⟨p, x⟩ hx
    obtain ⟨i, q, -, rfl, -⟩ := mem_places.mp hx
    exact ⟨_, q, by omega, rfl⟩

theorem map_snd_places (m : Markup) (index : Nat) : (m.places index).map Prod.snd = m.elements := by
  induction m generalizing index with
  | nil => rfl
  | text value rest ih => exact ih index
  | marker n rest ih => exact ih index
  | element tag inner rest ihi ihr =>
    have hinner : (putBelow index (inner.places 0)).map Prod.snd = inner.elements := by
      rw [putBelow, List.map_map, ← ihi 0]
      rfl
    simp only [places, elements, List.map_cons, List.map_append, hinner, ihr]

end Markup

namespace Tree

theorem mem_places {t x : Tree} {p : List Nat} : (p, x) ∈ t.places ↔ t.at? p = some x :=
  mem_root_iff rfl t.at?_cons Markup.mem_places

theorem places_sorted (t : Tree) : InDocumentOrder t.places :=
  (t.content.places_sorted 0).root_cons fun _ _ => Markup.mem_places

theorem map_snd_places (t : Tree) : t.places.map Prod.snd = t.elements := by
  rw [places, List.map_cons, Markup.map_snd_places, elements]

end Tree

end Xml

end FormulaQuery
