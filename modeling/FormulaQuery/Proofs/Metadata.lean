/-
  FormulaQuery/Proofs/Metadata.lean
  =================================
  **What a query does not depend on.**  Two documents are similar if they have the
  same shape, the same names and the same texts.  Of the attributes only two have to
  agree, each where it is read: the encoding of an annotation, which may mark the main
  element, and the name of a wildcard.  Namespaces and all other attributes are free.

  Similar contents are compiled by the same walk, in any session
  (`Content.Similar.constrain_eq`), so similar documents have the same query; and a
  document has the query of its main element (`query_ignores_metadata`).
-/
import FormulaQuery.Proofs.Location

namespace FormulaQuery

/-! ### Similar documents -/

/-- Tags with the same name, and with the same attributes as far as they are read. -/
structure Tag.Similar (t t' : Tag) : Prop where
  localName : t.localName = t'.localName
  qualifier : t.qualifier = t'.qualifier
  encoding : t.qualifiedName = "annotation-xml" → t.attribute? "encoding" = t'.attribute? "encoding"
  name : t.qualifiedName = "mws:qvar" → t.attribute? "name" = t'.attribute? "name"

/-- Contents of the same shape with the same texts and with similar tags. -/
inductive Content.Similar : Content → Content → Prop
  | nil : Similar .nil .nil
  | text (value : String) {rest rest' : Content} (hrest : Similar rest rest') :
      Similar (.text value rest) (.text value rest')
  | element {tag tag' : Tag} {inner inner' rest rest' : Content} (htag : tag.Similar tag')
      (hinner : Similar inner inner') (hrest : Similar rest rest') :
      Similar (.element tag inner rest) (.element tag' inner' rest')

structure Element.Similar (e e' : Element) : Prop where
  tag : e.tag.Similar e'.tag
  content : e.content.Similar e'.content

namespace Tag.Similar

variable {t t' : Tag}

theorem qualifiedName (h : t.Similar t') : t.qualifiedName = t'.qualifiedName := by
  rw [Tag.qualifiedName, Tag.qualifiedName, h.qualifier, h.localName]

theorem isWildcard (h : t.Similar t') : t.isWildcard = t'.isWildcard := by
  rw [Tag.isWildcard, Tag.isWildcard, h.qualifiedName]

theorem isAnnotation (h : t.Similar t') : t.isAnnotation = t'.isAnnotation := by
  rw [Tag.isAnnotation, Tag.isAnnotation, h.localName]

/-- The encoding is asked for only where it has to agree. -/
theorem marks (h : t.Similar t') (c : Convention) : c.marks t = c.marks t' := by
  cases c with
  | expression => rw [Convention.marks, Convention.marks, h.qualifiedName]
  | semantics => rw [Convention.marks, Convention.marks, h.localName]
  | math => rw [Convention.marks, Convention.marks, h.localName]
  | contentAnnotation =>
    rw [Convention.marks, Convention.marks, ← h.qualifiedName]
    by_cases hname : t.qualifiedName = "annotation-xml"
    · rw [h.encoding hname]
    · rw [beq_false_of_ne hname, Bool.false_and, Bool.false_and]

end Tag.Similar

/-! ### Similar contents are compiled alike -/

namespace Content.Similar

variable {c c' : Content}

theorem texts (h : c.Similar c') : c.texts = c'.texts := by
  induction h with
  | nil => rfl
  | text value _ ih => rw [Content.texts, Content.texts, ih]
  | element _ _ _ ihi ihr => rw [Content.texts, Content.texts, ihi, ihr]

theorem isEmpty (h : c.Similar c') : c.isEmpty = c'.isEmpty := by
  cases h <;> rfl

theorem wildcardName? {t t' : Tag} (htag : t.Similar t') (h : c.Similar c')
    (hwild : t.isWildcard = true) : wildcardName? t c = FormulaQuery.wildcardName? t' c' := by
  rw [FormulaQuery.wildcardName?, FormulaQuery.wildcardName?, h.texts, htag.name (beq_iff_eq.mp hwild)]

theorem recordWildcard_eq {t t' : Tag} (htag : t.Similar t') (h : c.Similar c')
    (hwild : t.isWildcard = true) (index : Nat) :
    Session.recordWildcard t c index = Session.recordWildcard t' c' index := by
  simp only [Session.recordWildcard, h.wildcardName? htag hwild]

/-- **The walk over similar contents is the same walk.** -/
theorem constrain_eq (h : c.Similar c') (before : Nat) :
    Session.constrain c before = Session.constrain c' before := by
  induction h generalizing before with
  | nil => rfl
  | text value _ ih => simp only [Session.constrain, ih]
  | @element tag tag' inner inner' rest rest' htag hinner _ ihi ihr =>
    simp only [Session.constrain, ← htag.isWildcard, ← htag.isAnnotation, ← hinner.isEmpty,
      ← htag.localName, ihi, ihr]
    cases hwild : tag.isWildcard with
    | true => simp only [if_true, hinner.recordWildcard_eq htag hwild]
    | false => simp only [Bool.false_eq_true, if_false]

theorem constrainRoot_eq (h : c.Similar c') (before : Nat) :
    Session.constrainRoot c before = Session.constrainRoot c' before := by
  induction h generalizing before with
  | nil => rfl
  | text value _ ih => simp only [Session.constrainRoot, ih]
  | @element tag tag' inner inner' rest rest' htag hinner _ _ ihr =>
    simp only [Session.constrainRoot, ← htag.isWildcard, ← htag.isAnnotation, ← hinner.isEmpty,
      hinner.constrain_eq, ihr]
    cases hwild : tag.isWildcard with
    | true => simp only [if_true, hinner.recordWildcard_eq htag hwild]
    | false => simp only [Bool.false_eq_true, if_false]

theorem firstElement? (h : c.Similar c') :
    Option.Rel Element.Similar c.firstElement? c'.firstElement? := by
  induction h with
  | nil => exact .none
  | text value _ ih => exact ih
  | element htag hinner _ _ _ => exact .some ⟨htag, hinner⟩

theorem positions (h : c.Similar c') (index : Nat) :
    List.Forall₂ (fun p q => p.1 = q.1 ∧ p.2.Similar q.2) (c.positions index)
      (c'.positions index) := by
  induction h generalizing index with
  | nil => exact .nil
  | text value _ ih => exact ih (index + 1)
  | element htag hinner _ ihi ihr =>
    refine .cons ⟨rfl, htag, hinner⟩ (List.rel_append ?_ (ihr (index + 1)))
    rw [List.forall₂_map_left_iff, List.forall₂_map_right_iff]
    refine (ihi 0).imp ?_
    rintro p q ⟨hposition, hsimilar⟩
    exact ⟨by rw [hposition], hsimilar⟩

end Content.Similar

namespace Element.Similar

variable {e e' : Element}

theorem compile_eq (h : e.Similar e') (restrictLength : Bool) :
    e.compile restrictLength = e'.compile restrictLength := by
  simp only [Element.compile, Session.compileMain, h.content.constrainRoot_eq]

theorem query_eq (h : e.Similar e') (c : Compilation) (config : Config) :
    c.query e config = c.query e' config := by
  have hfirst := h.content.firstElement?
  simp only [Compilation.query, Clauses.assemble, Element.firstElement?, Element.qualifiedName,
    h.tag.qualifiedName]
  generalize e.content.firstElement? = child, e'.content.firstElement? = child' at hfirst ⊢
  cases hfirst with
  | none => rfl
  | some hchild => simp only [hchild.tag.localName]

theorem generate_eq (h : e.Similar e') (config : Config) :
    (Generator.ofMain (some e) config).generate.2 =
      (Generator.ofMain (some e') config).generate.2 := by
  simp only [Generator.ofMain, Generator.generate, h.compile_eq, h.query_eq]
  cases (e'.compile config.restrictLength).outcome <;> rfl

theorem positions (h : e.Similar e') :
    List.Forall₂ (fun p q => p.1 = q.1 ∧ p.2.Similar q.2) e.positions e'.positions :=
  .cons ⟨rfl, h⟩ (h.content.positions 0)

/-- The main element is found at the same place, by the same convention. -/
theorem locate? (h : e.Similar e') :
    Option.Rel
      (fun l l' => l.convention = l'.convention ∧ l.position = l'.position ∧
        l.element.Similar l'.element)
      e.locate? e'.locate? := by
  have hlocated := Element.locate?_rel h.positions fun p q hpq => hpq.2.tag.marks
  generalize e.locate? = l, e'.locate? = l' at hlocated ⊢
  cases hlocated with
  | none => exact .none
  | some hl => exact .some ⟨hl.1, hl.2.1⟩

theorem generateQuery_eq (h : e.Similar e') (config : Config) :
    generateQuery (some e) config = generateQuery (some e') config := by
  have hlocated := h.locate?
  simp only [generateQuery, Generator.ofDocument, Option.bind_some, Element.main?]
  generalize e.locate? = l, e'.locate? = l' at hlocated ⊢
  cases hlocated with
  | none => rfl
  | some hl => exact hl.2.2.generate_eq config

end Element.Similar

/-! ### Documents and their main elements -/

theorem generateQuery_main? (d : Element) (config : Config) :
    generateQuery d.main? config = generateQuery (some d) config := by
  rw [generateQuery, generateQuery, Generator.ofDocument, Generator.ofDocument,
    Element.main?_main?, Option.bind_some]

/-- **A query depends neither on what surrounds the formula nor on metadata.**  The main element
    of a document is its own main element, and has the same query.  In a similar document the
    main element stands at the same place, and the outcome is the same: the same query, no
    query, or the same error. -/
theorem query_ignores_metadata (d : Element) (config : Config) :
    d.main?.bind Element.main? = d.main? ∧
    generateQuery d.main? config = generateQuery (some d) config ∧
    ∀ d' : Element, d.Similar d' →
      Option.Rel
        (fun l l' => l.convention = l'.convention ∧ l.position = l'.position ∧
          l.element.Similar l'.element)
        d.locate? d'.locate? ∧
      generateQuery (some d) config = generateQuery (some d') config := by
  refine ⟨d.main?_main?, generateQuery_main? d config, ?_⟩
  intro d' h
  exact ⟨h.locate?, h.generateQuery_eq config⟩

/-- A page with a formula in an annotation, the elements of which have these namespaces and
    attributes, beside those that are read. -/
def annotatedPage (namespaceUri : Option String) (attributes : List (String × String)) : Element where
  tag := { localName := "html", namespaceUri := namespaceUri, attributes := attributes }
  content :=
    .element { localName := "semantics", namespaceUri := namespaceUri, attributes := attributes }
      (.element
        { localName := "annotation-xml", namespaceUri := namespaceUri
          attributes := attributes ++ [("encoding", "MathML-Content")] }
        (.element { localName := "apply", namespaceUri := namespaceUri, attributes := attributes }
          (.element
            { localName := "qvar", qualifier := some "mws", namespaceUri := namespaceUri
              attributes := attributes ++ [("name", "x")] } .nil .nil) .nil) .nil) .nil

theorem annotatedPage_keeps_query :
    (annotatedPage none []).Similar (annotatedPage (some "urn:x") [("id", "m1"), ("class", "y")]) ∧
    generateQuery (some (annotatedPage (some "urn:x") [("id", "m1"), ("class", "y")]))
        { header := some "", footer := some "$x", emitWildcardMap := false } =
      .ok (some "for $x in $m//*:apply\n\nwhere\nfn:count($x/*) = 1\n\nreturn\n$x") := by
  have hsimilar : (annotatedPage none []).Similar
      (annotatedPage (some "urn:x") [("id", "m1"), ("class", "y")]) :=
    ⟨⟨rfl, rfl, by decide, by decide⟩,
      .element ⟨rfl, rfl, by decide, by decide⟩
        (.element ⟨rfl, rfl, by decide, by decide⟩
          (.element ⟨rfl, rfl, by decide, by decide⟩
            (.element ⟨rfl, rfl, by decide, by decide⟩ .nil .nil) .nil) .nil) .nil⟩
  have hsame := (query_ignores_metadata (annotatedPage none [])
    { header := some "", footer := some "$x", emitWildcardMap := false }).2.2 _ hsimilar
  exact ⟨hsimilar, hsame.2.symm⟩

end FormulaQuery
