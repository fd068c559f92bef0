/-
  FormulaQuery/Proofs/Markers.lean
  ================================
  **Comments, instructions and references in a document.**  A document can be read
  with its markers or without them.  With them, the text around a marker is in
  pieces, and each piece is kept or dropped by itself; without them, the pieces are
  joined first.  The formula trees are parallel all the same
  (`Tree.toElement_withoutMarkers`): joined text is blank exactly if all its pieces
  are.

  So markers change nothing about the structure of a query
  (`markers_keep_structure`); only texts and the names of wildcards can differ.
-/
import FormulaQuery.Proofs.Parallel

namespace FormulaQuery

namespace Xml.Markup

/-! ### Texts in front of content -/

theorem consText_cases (value : String) (m : Markup) :
    (∃ next rest, m = text next rest ∧ consText value m = text (value ++ next) rest) ∨
      consText value m = text value m := by
  cases m with
  | text next rest => exact Or.inl ⟨next, rest, rfl, rfl⟩
  | nil => exact Or.inr rfl
  | marker n rest => exact Or.inr rfl
  | element tag inner rest => exact Or.inr rfl

theorem ownTexts_text (value : String) (rest : Markup) :
    (text value rest).toContent.ownTexts = [] ↔
      Text.isBlank value = true ∧ rest.toContent.ownTexts = [] := by
  rw [toContent]
  cases Text.isBlank value <;> simp

theorem parallel_text {c : Content} (value : String) (rest : Markup) :
    c.Parallel (text value rest).toContent ↔ c.Parallel rest.toContent := by
  rw [toContent]
  cases hvalue : Text.isBlank value with
  | true => rw [if_pos rfl]
  | false =>
    rw [if_neg Bool.false_ne_true]
    exact ⟨Content.Parallel.of_textRight, .textRight hvalue⟩

/-- A text put in front counts like one that stands there by itself: it is blank together with
    the text that it joins exactly if both are. -/
theorem ownTexts_consText (value : String) (m : Markup) :
    (consText value m).toContent.ownTexts = [] ↔
      Text.isBlank value = true ∧ m.toContent.ownTexts = [] := by
  rcases consText_cases value m with ⟨next, rest, rfl, hjoined⟩ | halone
  · rw [hjoined, ownTexts_text, ownTexts_text, Text.isBlank_append, Bool.and_eq_true, and_assoc]
  · rw [halone, ownTexts_text]

theorem parallel_consText {c : Content} (value : String) (m : Markup) :
    c.Parallel (consText value m).toContent ↔ c.Parallel m.toContent := by
  rcases consText_cases value m with ⟨next, rest, rfl, hjoined⟩ | halone
  · rw [hjoined, parallel_text, parallel_text]
  · rw [halone, parallel_text]

/-! ### Content with and without markers -/

theorem ownTexts_withoutMarkers (m : Markup) :
    m.toContent.ownTexts = [] ↔ m.withoutMarkers.toContent.ownTexts = [] := by
  induction m with
  | nil => exact Iff.rfl
  | text value rest ih => rw [withoutMarkers, ownTexts_consText, ownTexts_text, ih]
  | marker n rest ih => exact ih
  | element tag inner rest _ ih => exact ih

theorem toContent_withoutMarkers (m : Markup) :
    m.toContent.Parallel m.withoutMarkers.toContent := by
  induction m with
  | nil => exact .nil
  | text value rest ih =>
    rw [withoutMarkers, parallel_consText, toContent]
    cases hvalue : Text.isBlank value with
    | true =>
      rw [if_pos rfl]
      exact ih
    | false =>
      rw [if_neg Bool.false_ne_true]
      exact .textLeft hvalue ih
  | marker n rest ih => exact ih
  | element tag inner rest ihi ihr =>
    exact .element tag.toTag inner.ownTexts_withoutMarkers ihi ihr

theorem unfitName?_consText (value : String) (m : Markup) :
    (consText value m).unfitName? = m.unfitName? := by
  cases m <;> rfl

theorem unfitName?_withoutMarkers (m : Markup) : m.withoutMarkers.unfitName? = m.unfitName? := by
  induction m with
  | nil => rfl
  | text value rest ih => rw [withoutMarkers, unfitName?_consText, ih, unfitName?]
  | marker n rest ih => exact ih
  | element tag inner rest ihi ihr => rw [withoutMarkers, unfitName?, unfitName?, ihi, ihr]

end Xml.Markup

namespace Xml.Tree

/-- **The formula trees with and without markers are parallel.** -/
theorem toElement_withoutMarkers (t : Tree) : t.toElement.Parallel t.withoutMarkers.toElement :=
  ⟨rfl, t.content.ownTexts_withoutMarkers, t.content.toContent_withoutMarkers⟩

theorem unfitName?_withoutMarkers (t : Tree) : t.withoutMarkers.unfitName? = t.unfitName? := by
  rw [unfitName?, unfitName?, withoutMarkers, t.content.unfitName?_withoutMarkers]

end Xml.Tree

/-! ### Queries with and without markers -/

/-- Elements with the same tag and children with the same tags, and with something inside on
    both sides or on none. -/
structure Element.LooksLike (e e' : Element) : Prop where
  tag : e.tag = e'.tag
  childTags : e.children.map Element.tag = e'.children.map Element.tag
  hasChildren : e.hasChildren = e'.hasChildren

theorem Element.Parallel.looksLike {e e' : Element} (h : e.Parallel e') : e.LooksLike e' := by
  refine ⟨h.tag, ?_, h.hasChildren⟩
  rw [← List.forall₂_eq_eq_eq, List.forall₂_map_left_iff, List.forall₂_map_right_iff]
  exact h.children.imp fun _ _ hchild => hchild.tag

/-- **Markers keep the structure of a query.**  With and without the markers of a document, its
    formula tree has the same elements in document order, and none if a name is unfit on one
    side.  The main element is the same one of these elements; compiling it fails at the same
    path or meets wildcards at the same paths and records the same lengths; and the outcomes
    are of the same kind. -/
theorem markers_keep_structure (t : Xml.Tree) (config : Config) :
    t.withoutMarkers.unfitName? = t.unfitName? ∧
    List.Forall₂ Element.LooksLike t.toElement.elements t.withoutMarkers.toElement.elements ∧
    Option.Rel
      (fun l l' => l.convention = l'.convention ∧
        (∃ k : Nat, t.toElement.positions[k]? = some (l.position, l.element) ∧
          t.withoutMarkers.toElement.positions[k]? = some (l'.position, l'.element)) ∧
        (∀ restrictLength, (l.element.compile restrictLength).Parallel
          (l'.element.compile restrictLength)) ∧
        ParallelOutcome l.element l'.element config (generateQuery (some t.toElement) config)
          (generateQuery (some t.withoutMarkers.toElement) config))
      t.toElement.locate? t.withoutMarkers.toElement.locate? ∧
    (generateQuery (some t.toElement) config).map Option.isSome =
      (generateQuery (some t.withoutMarkers.toElement) config).map Option.isSome := by
  have hparallel := t.toElement_withoutMarkers
  have hlocated := hparallel.locate?
  refine ⟨t.unfitName?_withoutMarkers, hparallel.elements.imp fun _ _ h => h.looksLike, ?_⟩
  cases hleft : t.toElement.locate? with
  | none =>
    cases hright : t.withoutMarkers.toElement.locate? with
    | some l' =>
      rw [hleft, hright] at hlocated
      cases hlocated
    | none =>
      rw [generateQuery_of_locate?_none hleft, generateQuery_of_locate?_none hright]
      exact ⟨.none, rfl⟩
  | some l =>
    cases hright : t.withoutMarkers.toElement.locate? with
    | none =>
      rw [hleft, hright] at hlocated
      cases hlocated
    | some l' =>
      rw [hleft, hright] at hlocated
      cases hlocated with
      | some hfound =>
        obtain ⟨hconvention, hmain, hplace⟩ := hfound
        have houtcome := hmain.generate config
        rw [generateQuery_of_locate?_some hleft, generateQuery_of_locate?_some hright]
        exact ⟨.some ⟨hconvention, hplace, hmain.compile, houtcome⟩, houtcome.map_isSome⟩

end FormulaQuery
