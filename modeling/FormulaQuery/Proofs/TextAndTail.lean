/-
  FormulaQuery/Proofs/TextAndTail.lean
  ====================================
  **Texts and tails.**  In a document every text stands in one of two places: at
  the start of an element, or behind a node as its *tail*.  A marker has a tail as
  well, and the tail stays when the marker is left out.  Texts on both sides of a
  marker are then two texts next to each other.

  The formula tree of such a document has its elements in the same order and
  exactly those of its texts that are not blank
  (`formula_keeps_elements_and_texts`).  Where there is no marker, no two texts
  stand next to each other (`texts_apart`).  So it is in every formula that is read
  from bytes (`texts_apart_of_parseFormula`), because taking the markers out joins
  the texts around them (`Markup.withoutMarkers_eq_behind`).
-/
import FormulaQuery.Proofs.Places
import FormulaQuery.Proofs.StringLiteral
import FormulaQuery.Xml.Document
import Mathlib.Data.List.Chain

namespace FormulaQuery

namespace Xml

/-! ### Trees with tails -/

/-- The nodes inside an element, each with its tail. -/
inductive Tailed where
  | nil
  | marker (m : Marker) (tail : Option String) (rest : Tailed)
  | element (tag : StartTag) (text : Option String) (inner : Tailed) (tail : Option String)
    (rest : Tailed)
  deriving DecidableEq, Repr

/-- An element with the text at its start. -/
structure TailedTree where
  tag : StartTag
  text : Option String
  nodes : Tailed
  deriving DecidableEq, Repr

/-- The content behind a text, if there is one. -/
def Markup.behind : Option String → Markup → Markup
  | none, m => m
  | some value, m => .text value m

namespace Tailed

def toMarkup : Tailed → Markup
  | nil => .nil
  | marker m tail rest => .marker m (rest.toMarkup.behind tail)
  | element tag text inner tail rest =>
    .element tag (inner.toMarkup.behind text) (rest.toMarkup.behind tail)

/-- The texts and tails at any depth, in document order. -/
def chunks : Tailed → List String
  | nil => []
  | marker _ tail rest => tail.toList ++ rest.chunks
  | element _ text inner tail rest =>
    text.toList ++ (inner.chunks ++ (tail.toList ++ rest.chunks))

def children : Tailed → List TailedTree
  | nil => []
  | marker _ _ rest => rest.children
  | element tag text inner _ rest => ⟨tag, text, inner⟩ :: rest.children

/-- The elements at any depth, in document order. -/
def elements : Tailed → List TailedTree
  | nil => []
  | marker _ _ rest => rest.elements
  | element tag text inner _ rest => ⟨tag, text, inner⟩ :: (inner.elements ++ rest.elements)

def hasMarker : Tailed → Bool
  | nil => false
  | marker _ _ _ => true
  | element _ _ inner _ rest => inner.hasMarker || rest.hasMarker

end Tailed

namespace TailedTree

def toTree (t : TailedTree) : Tree := ⟨t.tag, t.nodes.toMarkup.behind t.text⟩

def chunks (t : TailedTree) : List String := t.text.toList ++ t.nodes.chunks

def children (t : TailedTree) : List TailedTree := t.nodes.children

def elements (t : TailedTree) : List TailedTree := t :: t.nodes.elements

end TailedTree

/-! ### A text in front -/

namespace Markup

variable (text : Option String) (m : Markup)

/-- A text is one more node in front, or nothing if it is blank. -/
theorem toContent_behind :
    ((m.behind text).toContent = m.toContent ∧
      text.toList.filter (fun chunk => !Text.isBlank chunk) = []) ∨
    ∃ value, (m.behind text).toContent = .text value m.toContent ∧
      text.toList.filter (fun chunk => !Text.isBlank chunk) = [value] := by
  cases text with
  | none => exact Or.inl ⟨rfl, rfl⟩
  | some value =>
    rw [behind, toContent, Option.toList_some, List.filter_singleton]
    cases Text.isBlank value with
    | true => exact Or.inl ⟨rfl, rfl⟩
    | false => exact Or.inr ⟨value, rfl, rfl⟩

theorem texts_behind :
    (m.behind text).toContent.texts =
      text.toList.filter (fun chunk => !Text.isBlank chunk) ++ m.toContent.texts := by
  rcases m.toContent_behind text with ⟨hcontent, htext⟩ | ⟨value, hcontent, htext⟩
  · rw [hcontent, htext, List.nil_append]
  · rw [hcontent, htext, Content.texts, List.singleton_append]

theorem elements_behind : (m.behind text).toContent.elements = m.toContent.elements := by
  rcases m.toContent_behind text with ⟨hcontent, -⟩ | ⟨value, hcontent, -⟩
  · rw [hcontent]
  · rw [hcontent, Content.elements]

theorem children_behind : (m.behind text).toContent.children = m.toContent.children := by
  rcases m.toContent_behind text with ⟨hcontent, -⟩ | ⟨value, hcontent, -⟩
  · rw [hcontent]
  · rw [hcontent, Content.children]

theorem unfitName?_behind : (m.behind text).unfitName? = m.unfitName? := by
  cases text <;> rfl

end Markup

/-! ### Elements, texts and names -/

namespace Tailed

theorem texts_toContent (n : Tailed) :
    n.toMarkup.toContent.texts = n.chunks.filter fun chunk => !Text.isBlank chunk := by
  induction n with
  | nil => rfl
  | marker m tail rest ih =>
    rw [toMarkup, Markup.toContent, Markup.texts_behind, ih, chunks, List.filter_append]
  | element tag text inner tail rest ihi ihr =>
    simp only [toMarkup, Markup.toContent, Content.texts, Markup.texts_behind, ihi, ihr, chunks,
      List.filter_append, List.append_assoc]

theorem children_toContent (n : Tailed) :
    n.toMarkup.toContent.children = n.children.map fun x => x.toTree.toElement := by
  induction n with
  | nil => rfl
  | marker m tail rest ih => rw [toMarkup, Markup.toContent, Markup.children_behind, ih, children]
  | element tag text inner tail rest _ ih =>
    rw [toMarkup, Markup.toContent, Content.children, Markup.children_behind, ih]
    rfl

theorem elements_toContent (n : Tailed) :
    n.toMarkup.toContent.elements = n.elements.map fun x => x.toTree.toElement := by
  induction n with
  | nil => rfl
  | marker m tail rest ih => rw [toMarkup, Markup.toContent, Markup.elements_behind, ih, elements]
  | element tag text inner tail rest ihi ihr =>
    rw [toMarkup, Markup.toContent, Content.elements, Markup.elements_behind,
      Markup.elements_behind, ihi, ihr, elements, List.map_cons, List.map_append]
    rfl

theorem unfitName?_toMarkup (n : Tailed) :
    n.toMarkup.unfitName? = none ↔ ∀ x ∈ n.elements, x.tag.unfitName? = none := by
  induction n with
  | nil => simp [toMarkup, Markup.unfitName?, elements]
  | marker m tail rest ih => rw [toMarkup, Markup.unfitName?, Markup.unfitName?_behind, ih, elements]
  | element tag text inner tail rest ihi ihr =>
    rw [toMarkup, Markup.unfitName?, Markup.unfitName?_behind, Markup.unfitName?_behind, elements,
      List.forall_mem_cons, List.forall_mem_append, ← ihi, ← ihr, Option.orElse_eq_none,
      Option.orElse_eq_none]
    exact and_left_comm

end Tailed

namespace TailedTree

variable (t : TailedTree)

theorem texts_toElement :
    t.toTree.toElement.texts = t.chunks.filter fun chunk => !Text.isBlank chunk := by
  change (Markup.behind t.text t.nodes.toMarkup).toContent.texts = _
  rw [Markup.texts_behind, Tailed.texts_toContent, chunks, List.filter_append]

theorem children_toElement :
    t.toTree.toElement.children = t.children.map fun x => x.toTree.toElement := by
  change (Markup.behind t.text t.nodes.toMarkup).toContent.children = _
  rw [Markup.children_behind, Tailed.children_toContent, children]

theorem elements_toElement :
    t.toTree.toElement.elements = t.elements.map fun x => x.toTree.toElement := by
  change t.toTree.toElement :: (Markup.behind t.text t.nodes.toMarkup).toContent.elements = _
  rw [Markup.elements_behind, Tailed.elements_toContent, elements, List.map_cons]

theorem unfitName?_toTree :
    t.toTree.unfitName? = none ↔ ∀ x ∈ t.elements, x.tag.unfitName? = none := by
  change (Markup.unfitName? (.behind t.text t.nodes.toMarkup) <|> t.tag.unfitName?) = none ↔ _
  rw [Markup.unfitName?_behind, Option.orElse_eq_none, Tailed.unfitName?_toMarkup, elements,
    List.forall_mem_cons, and_comm]

end TailedTree

theorem Tree.formula_ok_iff {t : Tree} {e : Element} :
    t.formula = .ok e ↔ t.unfitName? = none ∧ t.toElement = e := by
  unfold formula
  cases t.unfitName? <;> simp

/-! ### Texts next to each other -/

/-- No two texts stand next to each other. -/
def Spaced (nodes : List (Option Element)) : Prop :=
  nodes.IsChain fun x y => x.isSome = true ∨ y.isSome = true

/-- A text in front of an element is next to no other text. -/
theorem Markup.spaced_behind {m : Markup} (text : Option String) (h : Spaced m.toContent.nodes)
    (hfirst : ∀ x ∈ m.toContent.nodes.head?, x.isSome = true) :
    Spaced (m.behind text).toContent.nodes := by
  rcases m.toContent_behind text with ⟨hcontent, -⟩ | ⟨value, hcontent, -⟩
  · rw [hcontent]
    exact h
  · rw [hcontent, Content.nodes]
    apply List.IsChain.cons h
    intro x hx
    exact Or.inr (hfirst x hx)

theorem Tailed.spaced {n : Tailed} (h : n.hasMarker = false) :
    Spaced n.toMarkup.toContent.nodes ∧
      ∀ x ∈ n.toMarkup.toContent.nodes.head?, x.isSome = true := by
  induction n with
  | nil => exact ⟨List.isChain_nil, by simp [toMarkup, Markup.toContent, Content.nodes]⟩
  | marker m tail rest _ => cases h
  | element tag text inner tail rest _ ih =>
    rw [hasMarker, Bool.or_eq_false_iff] at h
    obtain ⟨hrest, hfirst⟩ := ih h.2
    rw [toMarkup, Markup.toContent, Content.nodes]
    refine ⟨List.IsChain.cons (Markup.spaced_behind tail hrest hfirst) ?_, ?_⟩
    · intro _ _
      exact Or.inl rfl
    · rintro x ⟨⟩
      rfl

theorem Tailed.hasMarker_of_mem {n : Tailed} {x : TailedTree} (hx : x ∈ n.elements)
    (h : n.hasMarker = false) : x.nodes.hasMarker = false := by
  induction n with
  | nil => cases hx
  | marker m tail rest _ => cases h
  | element tag text inner tail rest ihi ihr =>
    rw [hasMarker, Bool.or_eq_false_iff] at h
    rw [elements, List.mem_cons, List.mem_append] at hx
    rcases hx with rfl | hx | hx
    · exact h.1
    · exact ihi hx h.1
    · exact ihr hx h.2

/-- **Without markers, texts are apart.** -/
theorem TailedTree.texts_apart {t : TailedTree} (h : t.nodes.hasMarker = false) {x : Element}
    (hx : x ∈ t.toTree.toElement.elements) : Spaced x.content.nodes := by
  rw [elements_toElement, List.mem_map] at hx
  obtain ⟨y, hy, rfl⟩ := hx
  have hmarker : y.nodes.hasMarker = false := by
    rcases List.mem_cons.mp hy with rfl | hy
    · exact h
    · exact Tailed.hasMarker_of_mem hy h
  obtain ⟨hspaced, hfirst⟩ := Tailed.spaced hmarker
  exact Markup.spaced_behind y.text hspaced hfirst

/-- Taking the markers out leaves texts and tails, and elements only to have them. -/
theorem Markup.withoutMarkers_eq_behind (m : Markup) :
    ∃ (text : Option String) (n : Tailed), n.hasMarker = false ∧
      m.withoutMarkers = .behind text n.toMarkup := by
  induction m with
  | nil => exact ⟨none, .nil, rfl, rfl⟩
  | marker m rest ih => exact ih
  | element tag inner rest ihi ihr =>
    obtain ⟨text, n, hn, hinner⟩ := ihi
    obtain ⟨tail, n', hn', hrest⟩ := ihr
    refine ⟨none, .element tag text n tail n', ?_, ?_⟩
    · rw [Tailed.hasMarker, hn, hn']
      rfl
    · rw [withoutMarkers, hinner, hrest]
      rfl
  | text value rest ih =>
    obtain ⟨text, n, hn, hrest⟩ := ih
    rw [withoutMarkers, hrest]
    cases text with
    | some next => exact ⟨some (value ++ next), n, hn, rfl⟩
    | none =>
      refine ⟨some value, n, hn, ?_⟩
      -- no text starts the content that the value is put in front of
      cases n <;> rfl

theorem Tree.exists_tailed_withoutMarkers (t : Tree) :
    ∃ t' : TailedTree, t'.nodes.hasMarker = false ∧ t'.toTree = t.withoutMarkers := by
  obtain ⟨text, n, hn, hcontent⟩ := t.content.withoutMarkers_eq_behind
  exact ⟨⟨t.tag, text, n⟩, hn, by rw [TailedTree.toTree, withoutMarkers, hcontent]⟩

/-- In a formula that was read from bytes, texts are apart: the markers were taken out first. -/
theorem texts_apart_of_parseFormula {bytes : List UInt8} {e x : Element}
    (h : parseFormula bytes = .ok e) (hx : x ∈ e.elements) : Spaced x.content.nodes := by
  unfold parseFormula parsePlain at h
  cases hparse : parseTree .within bytes false with
  | none =>
    rw [hparse] at h
    cases h
  | some t =>
    rw [hparse] at h
    obtain ⟨-, rfl⟩ := Tree.formula_ok_iff.mp h
    obtain ⟨t', hmarker, ht'⟩ := t.exists_tailed_withoutMarkers
    rw [← ht'] at hx
    exact TailedTree.texts_apart hmarker hx

end Xml

/-! ### Comparisons with texts -/

theorem Content.texts_subset {c : Content} {e : Element} (he : e ∈ c.elements) :
    e.content.texts ⊆ c.texts := by
  induction c with
  | nil => cases he
  | text value rest ih => exact List.subset_cons_of_subset _ (ih he)
  | element tag inner rest ihi ihr =>
    rw [elements, List.mem_cons, List.mem_append] at he
    rw [texts]
    rcases he with rfl | he | he
    · exact List.subset_append_left _ _
    · exact List.subset_append_of_subset_left _ (ihi he)
    · exact List.subset_append_of_subset_right _ (ihr he)

theorem Element.texts_subset {d e : Element} (he : e ∈ d.elements) : e.texts ⊆ d.texts := by
  rcases List.mem_cons.mp he with rfl | he
  · exact List.Subset.refl _
  · exact Content.texts_subset he

theorem Content.text_of_compared {c : Content} {v : String} (h : (.text, v) ∈ c.compared) :
    ∃ value ∈ c.texts, Text.trim value = v := by
  induction c with
  | nil => cases h
  | text value rest ih =>
    rw [compared, List.mem_cons] at h
    rcases h with heq | h
    · cases heq
      exact ⟨value, List.mem_cons_self, rfl⟩
    · obtain ⟨value', hvalue, hv⟩ := ih h
      exact ⟨value', List.mem_cons_of_mem _ hvalue, hv⟩
  | element tag inner rest ihi ihr =>
    have hfound : (.text, v) ∈ inner.compared ∨ (.text, v) ∈ rest.compared := by
      rw [compared] at h
      split at h
      · exact Or.inr h
      · simpa using h
    rw [texts]
    rcases hfound with h | h
    · obtain ⟨value, hvalue, hv⟩ := ihi h
      exact ⟨value, List.mem_append_left _ hvalue, hv⟩
    · obtain ⟨value, hvalue, hv⟩ := ihr h
      exact ⟨value, List.mem_append_right _ hvalue, hv⟩

/-- What is compared in a main element is compared in it as a child as well. -/
theorem Content.rootCompared_subset (c : Content) : c.rootCompared ⊆ c.compared := by
  induction c with
  | nil => exact List.Subset.refl _
  | text value rest ih => exact List.cons_subset_cons _ ih
  | element tag inner rest _ ih =>
    rw [rootCompared, compared]
    split
    · exact ih
    · apply List.subset_cons_of_subset
      exact List.append_subset.mpr
        ⟨List.subset_append_left _ _, List.subset_append_of_subset_right _ ih⟩

theorem Element.text_of_compared {e : Element} {isMain : Bool} {v : String}
    (h : (.text, v) ∈ e.compared isMain) : ∃ value ∈ e.texts, Text.trim value = v := by
  apply Content.text_of_compared
  cases isMain with
  | true => exact e.content.rootCompared_subset h
  | false => exact h

/-- A literal stands for the empty text only if nothing is in it. -/
theorem StringLiteral.expandFrom_eq_nil {reference : Option (List Char)} {cs : List Char}
    (h : expandFrom reference cs = some []) : cs = [] := by
  induction cs generalizing reference with
  | nil => rfl
  | cons c cs ih =>
    cases reference with
    | none =>
      rw [expandFrom] at h
      split at h
      · -- an open reference at the end of the text is none at all
        rw [ih h] at h
        cases h
      · simp at h
    | some name =>
      rw [expandFrom] at h
      split at h
      · simp [Option.bind_eq_some_iff] at h
      · rw [ih h] at h
        cases h

theorem Compared.of_mem_expanded {compared cs : Compared} (h : compared.expanded = some cs)
    {c : Operand × String} (hc : c ∈ cs) :
    ∃ value, (c.1, value) ∈ compared ∧ StringLiteral.expand value.toList = some c.2.toList := by
  induction compared generalizing cs with
  | nil =>
    cases h
    cases hc
  | cons first compared ih =>
    rw [expanded_cons] at h
    obtain ⟨value, hvalue, hmap⟩ := Option.bind_eq_some_iff.mp h
    obtain ⟨rest, hrest, rfl⟩ := Option.map_eq_some_iff.mp hmap
    rcases List.mem_cons.mp hc with rfl | hc
    · exact ⟨first.2, List.mem_cons_self, by rw [hvalue, String.toList_ofList]⟩
    · obtain ⟨value', hmem, hvalue'⟩ := ih hrest hc
      exact ⟨value', List.mem_cons_of_mem _ hmem, hvalue'⟩

/-- Reading makes no comparison with the empty text out of another one. -/
theorem Compared.empty_not_mem_read {text : String} {compared cs : Compared} {operand : Operand}
    (h : Emitted text compared) (hempty : (operand, "") ∉ compared)
    (hread : read text.toList = some cs) : (operand, "") ∉ cs := by
  intro hmem
  rw [h.writes.read_eq] at hread
  obtain ⟨value, hvalue, hexpand⟩ := of_mem_expanded hread hmem
  have hnil : value = "" := by
    rw [← String.toList_eq_nil_iff]
    exact StringLiteral.expandFrom_eq_nil hexpand
  rw [hnil] at hvalue
  exact hempty hvalue

namespace Xml

/-! ### What a formula tree keeps -/

structure SameName (tag : StartTag) (tag' : Tag) : Prop where
  localName : tag'.localName = tag.localName
  qualifier : tag'.qualifier = tag.qualifier
  namespaceUri : tag'.namespaceUri = tag.namespaceUri

/-- The same name, and children with the same names in the same order. -/
structure SameElement (x : TailedTree) (e : Element) : Prop where
  name : SameName x.tag e.tag
  children : List.Forall₂ (fun y e' => SameName y.tag e'.tag) x.children e.children

theorem TailedTree.sameElement (x : TailedTree) : SameElement x x.toTree.toElement := by
  refine ⟨⟨rfl, rfl, rfl⟩, ?_⟩
  rw [children_toElement, List.forall₂_map_right_iff, List.forall₂_same]
  intro y _
  exact ⟨rfl, rfl, rfl⟩

/-- **A formula tree keeps the elements and the texts that are not blank.**  There is a formula
    tree exactly if every tag has fit names.  Its elements are those of the document, in the
    same order, with the same names and the same children.  Its texts are the texts and tails
    of the document, those of markers included, without the blank ones, and unchanged; so
    no text at any depth is blank.  Whatever element is compiled, nothing is compared with the
    empty text, neither as it is written nor as it is read.  And if the document has no
    markers, no two texts stand next to each other. -/
theorem TailedTree.formula_keeps_elements_and_texts (t : TailedTree) :
    ((∃ e, t.toTree.formula = .ok e) ↔ ∀ x ∈ t.elements, x.tag.unfitName? = none) ∧
    ∀ e, t.toTree.formula = .ok e →
      List.Forall₂ SameElement t.elements e.elements ∧
      e.texts = t.chunks.filter (fun chunk => !Text.isBlank chunk) ∧
      (∀ value ∈ e.texts, ∃ c ∈ value.toList, 0x20 < c.toNat) ∧
      (∀ main ∈ e.elements, ∀ (isMain : Bool) (s s' : Session) (text : String),
        (Session.compileAs isMain main).run s = .ok text s' →
          Compared.Emitted text (main.compared isMain) ∧ (.text, "") ∉ main.compared isMain ∧
          ∀ cs, Compared.read text.toList = some cs → (.text, "") ∉ cs) ∧
      (t.nodes.hasMarker = false → ∀ x ∈ e.elements, Spaced x.content.nodes) := by
  refine ⟨?_, ?_⟩
  · rw [← unfitName?_toTree]
    simp [Tree.formula_ok_iff]
  intro e he
  obtain ⟨-, rfl⟩ := Tree.formula_ok_iff.mp he
  have hvisible : ∀ value ∈ t.toTree.toElement.texts, Text.isBlank value = false := by
    intro value hvalue
    rw [texts_toElement, List.mem_filter] at hvalue
    simpa using hvalue.2
  refine ⟨?_, t.texts_toElement, ?_, ?_, ?_⟩
  · rw [elements_toElement, List.forall₂_map_right_iff, List.forall₂_same]
    intro x _
    exact x.sameElement
  · intro value hvalue
    simpa [Text.isBlank, Text.isLayout] using hvisible value hvalue
  · intro main hmain isMain s s' text hrun
    have hemitted := Session.emitted_compileAs hrun
    have hempty : (.text, "") ∉ main.compared isMain := by
      intro hmem
      obtain ⟨value, hvalue, htrim⟩ := Element.text_of_compared hmem
      have hblank := (Text.trim_eq_empty_iff value).mp htrim
      rw [hvisible value (Element.texts_subset hmain hvalue)] at hblank
      cases hblank
    exact ⟨hemitted, hempty, fun cs hread => Compared.empty_not_mem_read hemitted hempty hread⟩
  · intro hmarker x hx
    exact texts_apart hmarker hx

/-- Texts on both sides of a comment, tails of a reference and of an instruction, and a no-break
    space, which is not blank. -/
def scattered : TailedTree where
  tag := { localName := "apply", qualifier := some "m", namespaceUri := some "u" }
  text := some "a"
  nodes :=
    .marker (.comment "no") (some " b") <|
    .element { localName := "ci" } (some "\n") (.marker (.reference "x" "no") (some "c") .nil)
      (some "\u00a0") <|
    .marker (.instruction "no" "no") (some " \t") .nil

theorem scattered_keeps :
    scattered.toTree.formula = .ok scattered.toTree.toElement ∧
    scattered.toTree.toElement.texts = ["a", " b", "c", "\u00a0"] ∧
    (Session.compileAs false scattered.toTree.toElement).run { restrictLength := false } =
      .ok (scattered.toTree.toElement.content.constraint 0).render { restrictLength := false } ∧
    (.text, "") ∉ scattered.toTree.toElement.compared false := by
  have hformula : scattered.toTree.formula = .ok scattered.toTree.toElement := by rfl
  have hrun := Session.compileNested_ok scattered.toTree.toElement false rfl
  obtain ⟨-, htexts, -, hcompared, -⟩ :=
    (TailedTree.formula_keeps_elements_and_texts scattered).2 _ hformula
  have hchunks : scattered.chunks.filter (fun chunk => !Text.isBlank chunk) =
      ["a", " b", "c", "\u00a0"] := by decide
  exact ⟨hformula, htexts.trans hchunks, hrun,
    (hcompared _ List.mem_cons_self false _ _ _ hrun).2.1⟩

/-- An element whose prefix was not declared, which makes the colon a part of its name. -/
def coloned : TailedTree where
  tag := { localName := "a" }
  text := none
  nodes :=
    .element { localName := "p:b" } none .nil none <|
    .element { localName := "c", namespaceUri := some "rel" } none .nil none .nil

theorem coloned_has_no_formula : coloned.toTree.formula = .error (.unfitName "p:b") := rfl

end Xml

end FormulaQuery
