/-
  FormulaQuery/Proofs/Descent.lean
  ================================
  **Element children and the nodes at paths.**  A query speaks about a candidate
  by its element children, counted from 1, and by the texts that stand directly
  in it.  This module gives these views of an element, and what a path leads to.

  The views are lists, so that a statement about all children of an element is
  a statement about all members or all places of a list.
-/
import FormulaQuery.Query.Session

namespace FormulaQuery

/-- Elements that are compared by name: neither wildcards nor annotations. -/
def Tag.isCompared (t : Tag) : Bool := !(t.isWildcard || t.isAnnotation)

namespace Content

/-- The elements that stand directly in the content. -/
def children : Content → List Element
  | nil => []
  | text _ rest => rest.children
  | element tag inner rest => ⟨tag, inner⟩ :: rest.children

/-- The texts that stand directly in the content. -/
def ownTexts : Content → List String
  | nil => []
  | text value rest => value :: rest.ownTexts
  | element _ _ rest => rest.ownTexts

@[simp] theorem children_nil : children nil = [] := rfl

@[simp] theorem children_text (value : String) (rest : Content) :
    (text value rest).children = rest.children := rfl

@[simp] theorem children_element (tag : Tag) (inner rest : Content) :
    (element tag inner rest).children = ⟨tag, inner⟩ :: rest.children := rfl

@[simp] theorem ownTexts_nil : ownTexts nil = [] := rfl

@[simp] theorem ownTexts_text (value : String) (rest : Content) :
    (text value rest).ownTexts = value :: rest.ownTexts := rfl

@[simp] theorem ownTexts_element (tag : Tag) (inner rest : Content) :
    (element tag inner rest).ownTexts = rest.ownTexts := rfl

theorem isEmpty_iff {c : Content} : c.isEmpty = true ↔ c = nil := by
  cases c <;> simp [isEmpty]

theorem firstElement?_eq_head? (c : Content) : c.firstElement? = c.children.head? := by
  induction c with
  | nil => rfl
  | text value rest ih => simpa only [firstElement?, children_text] using ih
  | element tag inner rest _ _ => rfl

end Content

namespace Element

def children (e : Element) : List Element := e.content.children

def ownTexts (e : Element) : List String := e.content.ownTexts

def childCount (e : Element) : Nat := e.children.length

/-- The element child with this index, counted from 1. -/
def child? (e : Element) : Nat → Option Element
  | 0 => none
  | index + 1 => e.children[index]?

/-- The node that a path leads to. -/
def descend? (e : Element) : Path → Option Element
  | [] => some e
  | index :: path => (e.child? index).bind fun child => child.descend? path

@[simp] theorem child?_zero (e : Element) : e.child? 0 = none := rfl

@[simp] theorem child?_succ (e : Element) (index : Nat) :
    e.child? (index + 1) = e.children[index]? := rfl

@[simp] theorem descend?_nil (e : Element) : e.descend? [] = some e := rfl

theorem descend?_cons (e : Element) (index : Nat) (path : Path) :
    e.descend? (index :: path) = (e.child? index).bind fun child => child.descend? path := rfl

theorem descend?_cons_of_child {e child : Element} {index : Nat}
    (h : e.child? index = some child) (path : Path) :
    e.descend? (index :: path) = child.descend? path := by
  rw [descend?_cons, h]
  rfl

theorem descend?_singleton (e : Element) (index : Nat) : e.descend? [index] = e.child? index := by
  rw [descend?_cons]
  cases e.child? index <;> rfl

theorem firstElement?_eq_child? (e : Element) : e.firstElement? = e.child? 1 := by
  rw [firstElement?, Content.firstElement?_eq_head?, List.head?_eq_getElem?]
  rfl

theorem firstElement?_eq_none_iff {e : Element} : e.firstElement? = none ↔ e.children = [] := by
  rw [firstElement?, Content.firstElement?_eq_head?, List.head?_eq_none_iff, children]

/-- The children of an element are exactly the places from 1 to their number. -/
theorem exists_child?_iff {e : Element} {index : Nat} :
    (∃ child, e.child? index = some child) ↔ 1 ≤ index ∧ index ≤ e.childCount := by
  cases index with
  | zero => simp
  | succ index =>
    rw [child?_succ]
    constructor
    · rintro ⟨child, hchild⟩
      have hlt := (List.getElem?_eq_some_iff.mp hchild).1
      exact ⟨Nat.succ_pos index, hlt⟩
    · rintro ⟨_, hle⟩
      exact ⟨_, List.getElem?_eq_getElem hle⟩

end Element

end FormulaQuery
