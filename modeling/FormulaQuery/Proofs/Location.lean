/-
  FormulaQuery/Proofs/Location.lean
  =================================
  **Where the formula of a document is found.**  Two orders meet in the search for
  the main element: the order of the conventions, and document order.
  `locate?_eq_some_iff` says of an element that it is found exactly if it is the
  first one to follow its convention and nobody follows an earlier convention.

  So a main element is found again when it is searched itself (`locate?_locate?`).
  And a formula of a topic set, whose main element is taken without any search, has
  the query that its markup has as a document (`reader_agrees_with_document`), as
  long as no convention of a higher rank hides in it.

  `locate?_rel` compares the search in two documents whose elements correspond.
-/
import FormulaQuery.Proofs.Report
import FormulaQuery.Xml.Document

namespace FormulaQuery

/-! ### Elements below elements -/

namespace Content

theorem map_snd_positions (c : Content) (index : Nat) :
    (c.positions index).map Prod.snd = c.elements := by
  induction c generalizing index with
  | nil => rfl
  | text value rest ih => exact ih (index + 1)
  | element tag inner rest ihi ihr =>
    have hinner : ((inner.positions 0).map fun p => (index :: p.1, p.2)).map Prod.snd =
        inner.elements := by
      rw [List.map_map, ← ihi 0]
      rfl
    simp only [positions, elements, List.map_cons, List.map_append, hinner, ihr]

theorem elements_subset {c : Content} {e : Element} (he : e ∈ c.elements) :
    e.content.elements ⊆ c.elements := by
  intro x hx
  induction c with
  | nil => cases he
  | text value rest ih => exact ih he
  | element tag inner rest ihi ihr =>
    simp only [elements, List.mem_cons, List.mem_append] at he ⊢
    rcases he with rfl | he | he
    · exact Or.inr (Or.inl hx)
    · exact Or.inr (Or.inl (ihi he))
    · exact Or.inr (Or.inr (ihr he))

/-- The first child is the first element of the content in document order. -/
theorem positions_of_firstElement? {c : Content} {e : Element} (h : c.firstElement? = some e)
    (index : Nat) : ∃ p after, c.positions index = (p, e) :: after := by
  induction c generalizing index with
  | nil => cases h
  | text value rest ih => exact ih h (index + 1)
  | element tag inner rest _ _ =>
    cases h
    exact ⟨[index], _, rfl⟩

end Content

namespace Element

theorem map_snd_positions (e : Element) : e.positions.map Prod.snd = e.elements := by
  rw [positions, List.map_cons, Content.map_snd_positions, elements]

theorem elements_subset {d e : Element} (he : e ∈ d.elements) : e.elements ⊆ d.elements := by
  intro x hx
  rcases List.mem_cons.mp he with rfl | he
  · exact hx
  · rcases List.mem_cons.mp hx with rfl | hx
    · exact List.mem_cons_of_mem _ he
    · exact List.mem_cons_of_mem _ (Content.elements_subset he hx)

end Element

/-! ### What is found -/

/-- The conventions that are tried before this one. -/
def Convention.earlier (c : Convention) : List Convention := all.takeWhile (· ≠ c)

theorem Convention.all_eq_earlier (c : Convention) : ∃ later, all = c.earlier ++ c :: later := by
  cases c
  · exact ⟨_, rfl⟩
  · exact ⟨_, rfl⟩
  · exact ⟨_, rfl⟩
  · exact ⟨_, rfl⟩

namespace Element

variable {d : Element} {l : Located} {c : Convention}

theorem marked?_eq_none_iff : d.marked? c = none ↔ ∀ e ∈ d.elements, c.marks e.tag = false := by
  rw [marked?, Option.map_eq_none_iff, List.find?_eq_none, ← map_snd_positions]
  simp only [List.forall_mem_map, Bool.not_eq_true]

theorem marked?_eq_some_iff :
    d.marked? c = some l ↔ l.convention = c ∧ c.marks l.element.tag = true ∧
      ∃ before after, d.positions = before ++ (l.position, l.element) :: after ∧
        ∀ p ∈ before, c.marks p.2.tag = false := by
  obtain ⟨convention, position, element⟩ := l
  simp only [marked?, Option.map_eq_some_iff, List.find?_eq_some_iff_append, Located.mk.injEq,
    Bool.not_eq_true']
  constructor
  · rintro ⟨p, ⟨hmarks, hplace⟩, rfl, rfl, rfl⟩
    exact ⟨rfl, hmarks, hplace⟩
  · rintro ⟨rfl, hmarks, hplace⟩
    exact ⟨(position, element), ⟨hmarks, hplace⟩, rfl, rfl, rfl⟩

/-- **What is found** is the first element in document order that follows its convention,
    and no element at all follows a convention of a higher rank. -/
theorem locate?_eq_some_iff :
    d.locate? = some l ↔ l.convention.marks l.element.tag = true ∧
      (∃ before after, d.positions = before ++ (l.position, l.element) :: after ∧
        ∀ p ∈ before, l.convention.marks p.2.tag = false) ∧
      ∀ c ∈ l.convention.earlier, ∀ e ∈ d.elements, c.marks e.tag = false := by
  rw [locate?, List.findSome?_eq_some_iff]
  constructor
  · rintro ⟨earlier, c, later, hall, hmarked, hnone⟩
    obtain ⟨rfl, hmarks, hplace⟩ := marked?_eq_some_iff.mp hmarked
    refine ⟨hmarks, hplace, ?_⟩
    intro c hc
    have hmem : c ∈ earlier := by
      rw [Convention.earlier, hall, List.takeWhile_append] at hc
      split at hc
      · simpa using hc
      · exact List.takeWhile_subset _ hc
    exact marked?_eq_none_iff.mp (hnone c hmem)
  · rintro ⟨hmarks, hplace, hearlier⟩
    obtain ⟨later, hall⟩ := l.convention.all_eq_earlier
    refine ⟨l.convention.earlier, l.convention, later, hall, ?_, ?_⟩
    · exact marked?_eq_some_iff.mpr ⟨rfl, hmarks, hplace⟩
    · intro c hc
      exact marked?_eq_none_iff.mpr (hearlier c hc)

/-- An element that follows a convention itself is found, unless something inside follows
    a convention of a higher rank. -/
theorem locate?_of_marks (hmarks : c.marks d.tag = true)
    (hearlier : ∀ c' ∈ c.earlier, ∀ e ∈ d.elements, c'.marks e.tag = false) :
    d.locate? = some ⟨c, [], d⟩ :=
  locate?_eq_some_iff.mpr ⟨hmarks, ⟨[], _, rfl, by simp⟩, hearlier⟩

/-- **What is found is found again**, right at the top: nothing of a higher rank can lie
    inside of it, because it would lie inside of the document. -/
theorem locate?_locate? (h : d.locate? = some l) :
    l.element.locate? = some ⟨l.convention, [], l.element⟩ := by
  obtain ⟨hmarks, ⟨before, after, hplace, -⟩, hearlier⟩ := locate?_eq_some_iff.mp h
  have hmem : l.element ∈ d.elements := by
    rw [← map_snd_positions, hplace]
    simp
  refine locate?_of_marks hmarks ?_
  intro c hc e he
  exact hearlier c hc e (elements_subset hmem he)

theorem main?_main? (d : Element) : d.main?.bind main? = d.main? := by
  cases h : d.locate? with
  | none => simp only [main?, h, Option.map_none, Option.bind_none]
  | some l => simp only [main?, h, Option.map_some, Option.bind_some, locate?_locate? h]

end Element

/-! ### Documents whose elements correspond -/

/-- Searches that judge corresponding members alike find corresponding members, at the same
    place. -/
theorem find?_rel {α β : Type} {R : α → β → Prop} {p : α → Bool} {q : β → Bool} {xs : List α}
    {ys : List β} (h : List.Forall₂ R xs ys) (hpq : ∀ x y, R x y → p x = q y) :
    Option.Rel (fun x y => R x y ∧ ∃ k : Nat, xs[k]? = some x ∧ ys[k]? = some y)
      (xs.find? p) (ys.find? q) := by
  induction h with
  | nil => exact .none
  | @cons x y xs ys hxy _ ih =>
    cases hx : p x with
    | true =>
      rw [List.find?_cons_of_pos hx, List.find?_cons_of_pos (by rw [← hpq x y hxy, hx])]
      exact .some ⟨hxy, 0, rfl, rfl⟩
    | false =>
      rw [List.find?_cons_of_neg (by simp [hx]),
        List.find?_cons_of_neg (by simp [← hpq x y hxy, hx])]
      generalize xs.find? p = found, ys.find? q = found' at ih ⊢
      cases ih with
      | none => exact .none
      | some hfound =>
        obtain ⟨hxy', k, hxk, hyk⟩ := hfound
        exact .some ⟨hxy', k + 1, hxk, hyk⟩

/-- **The search goes the same way in two documents** whose elements correspond in document
    order, if corresponding elements follow the same conventions. -/
theorem Element.locate?_rel {R : Position × Element → Position × Element → Prop} {d d' : Element}
    (h : List.Forall₂ R d.positions d'.positions)
    (hmarks : ∀ p q, R p q → ∀ c : Convention, c.marks p.2.tag = c.marks q.2.tag) :
    Option.Rel
      (fun l l' => l.convention = l'.convention ∧ R (l.position, l.element) (l'.position, l'.element) ∧
        ∃ k : Nat, d.positions[k]? = some (l.position, l.element) ∧
          d'.positions[k]? = some (l'.position, l'.element))
      d.locate? d'.locate? := by
  rw [locate?, locate?]
  induction Convention.all with
  | nil => exact .none
  | cons c cs ih =>
    have hfound := find?_rel h fun p q hpq => hmarks p q hpq c
    simp only [List.findSome?_cons, marked?]
    generalize (d.positions.find? fun p => c.marks p.2.tag) = found,
      (d'.positions.find? fun p => c.marks p.2.tag) = found' at hfound ⊢
    cases hfound with
    | none => exact ih
    | some hfound => exact .some ⟨rfl, hfound⟩

/-! ### Formulas of topic sets -/

/-- Below an element that is no `semantics` itself, the first child is found if it is one and
    nothing of a higher rank lies anywhere. -/
theorem Element.main?_of_firstElement? {math main : Element}
    (hself : Convention.semantics.marks math.tag = false) (hfirst : math.firstElement? = some main)
    (hmain : Convention.semantics.marks main.tag = true)
    (hrank : ∀ e ∈ math.elements, Convention.expression.marks e.tag = false ∧
      Convention.contentAnnotation.marks e.tag = false) :
    math.main? = some main := by
  obtain ⟨p, after, hpositions⟩ := Content.positions_of_firstElement? hfirst 0
  have hlocate : math.locate? = some ⟨.semantics, p, main⟩ := by
    refine locate?_eq_some_iff.mpr ⟨hmain, ⟨[([], math)], after, ?_, ?_⟩, ?_⟩
    · rw [positions, hpositions]
      rfl
    · intro q hq
      rw [List.mem_singleton.mp hq]
      exact hself
    · intro c hc e he
      have hc : c = Convention.expression ∨ c = Convention.contentAnnotation := by
        simpa [Convention.earlier, Convention.all, List.takeWhile] using hc
      rcases hc with rfl | rfl
      · exact (hrank e he).1
      · exact (hrank e he).2
  rw [main?, hlocate]
  rfl

theorem generateQuery_of_main? {d main : Element} (h : d.main? = some main) (config : Config) :
    generateQuery (some d) config = (Generator.ofMain (some main) config).generate.2 := by
  rw [generateQuery, Generator.ofDocument, Option.bind_some, h, Generator.ofMain]

namespace Xml.Tree

/-- The formula of an element whose markup gives a formula tree. -/
theorem toFormula_eq {t markup : Tree} {id : String} {math : Element}
    (hid : t.attribute? "id" = some id) (hmarkup : t.content.children.head? = some markup)
    (hmath : markup.formula = .ok math) :
    t.toFormula = { id := some id, math := some math } := by
  rw [formula] at hmath
  cases hfit : markup.unfitName? with
  | some name => simp [hfit] at hmath
  | none =>
    have htree : markup.toElement = math := by simpa [hfit] using hmath
    simp [toFormula, hid, hmarkup, hfit, htree]

end Xml.Tree

namespace TopicReader

theorem mem_visits {r : TopicReader} {topic formula : Xml.Tree}
    (htopic : topic ∈ r.source.document.elements) (hkind : topic.isTopicPart "topic" = true)
    (hformula : formula ∈ topic.formulaTrees) : ⟨topic.topicNum, formula.toFormula⟩ ∈ r.visits := by
  rw [visits, List.mem_flatMap]
  refine ⟨topic.toTopic, ?_, ?_⟩
  · rw [topics, Xml.Tree.topics]
    exact List.mem_map_of_mem (List.mem_filter.mpr ⟨htopic, hkind⟩)
  · rw [Topic.visits, Xml.Tree.toTopic]
    exact List.mem_map_of_mem (List.mem_map_of_mem hformula)

theorem mem_patterns_of_compile {r : TopicReader} {v : Visit} {p : Pattern} (hv : v ∈ r.visits)
    (hcompile : v.compile r.config = .ok (some p)) {rep : Report} (hrep : r.report? = .ok rep) :
    p ∈ rep.patterns := by
  obtain ⟨-, rfl⟩ := report?_ok_iff.mp hrep
  rw [report_eq_record]
  refine List.mem_filterMap.mpr ⟨v, hv, ?_⟩
  rw [Visit.pattern?, hcompile]

theorem mem_errors_of_compile {r : TopicReader} {v : Visit} {e : TopicError} (hv : v ∈ r.visits)
    (hcompile : v.compile r.config = .error e) {rep : Report} (hrep : r.report? = .ok rep) :
    ⟨v.num, v.formula.id, e.message⟩ ∈ rep.errors := by
  obtain ⟨-, rfl⟩ := report?_ok_iff.mp hrep
  rw [report_eq_record]
  refine List.mem_filterMap.mpr ⟨v, hv, ?_⟩
  rw [Visit.complaint?, Visit.failure?, hcompile, Option.map_some]

/-- **A formula of a topic set has the query that its markup has as a document.**  The markup is
    no `semantics` element, but its first child is one, and no element of it follows one of
    the two conventions of a higher rank.  Then both ways give the same query, or fail for
    the same reason; and this is what a report says about the formula. -/
theorem reader_agrees_with_document (r : TopicReader) {topic formula markup : Xml.Tree}
    {num id : String} {math main : Element}
    (htopic : topic ∈ r.source.document.elements) (hkind : topic.isTopicPart "topic" = true)
    (hformula : formula ∈ topic.formulaTrees) (hnum : topic.topicNum = some num)
    (hid : formula.attribute? "id" = some id)
    (hmarkup : formula.content.children.head? = some markup) (hmath : markup.formula = .ok math)
    (hself : Convention.semantics.marks math.tag = false) (hfirst : math.firstElement? = some main)
    (hmain : Convention.semantics.marks main.tag = true)
    (hrank : ∀ e ∈ math.elements, Convention.expression.marks e.tag = false ∧
      Convention.contentAnnotation.marks e.tag = false) :
    (∃ query, generateQuery (some math) r.config = .ok (some query) ∧
      formula.toFormula.compile num r.config = .ok (some ⟨num, id, query, math⟩) ∧
      ∀ rep, r.report? = .ok rep → ⟨num, id, query, math⟩ ∈ rep.patterns) ∨
    (∃ e, generateQuery (some math) r.config = .error e ∧
      formula.toFormula.compile num r.config = .error (.query e) ∧
      ∀ rep, r.report? = .ok rep → ⟨some num, some id, e.message⟩ ∈ rep.errors) := by
  have hvisit := mem_visits htopic hkind hformula
  have hparts := Xml.Tree.toFormula_eq hid hmarkup hmath
  have hlocated := Element.main?_of_firstElement? hself hfirst hmain hrank
  rw [hnum, hparts] at hvisit
  rw [generateQuery_of_main? hlocated, hparts]
  cases hquery : (Generator.ofMain (some main) r.config).generate.2 with
  | error e =>
    have hcompile : Formula.compile { id := some id, math := some math } num r.config =
        .error (.query e) := by
      simp only [Formula.compile, hfirst, hquery]
    refine Or.inr ⟨e, rfl, hcompile, ?_⟩
    intro rep hrep
    exact mem_errors_of_compile hvisit hcompile hrep
  | ok answer =>
    cases answer with
    | none => exact absurd hquery (Generator.generate_ne_none rfl)
    | some query =>
      have hcompile : Formula.compile { id := some id, math := some math } num r.config =
          .ok (some ⟨num, id, query, math⟩) := by
        simp only [Formula.compile, hfirst, hquery]
      refine Or.inl ⟨query, rfl, hcompile, ?_⟩
      intro rep hrep
      exact mem_patterns_of_compile hvisit hcompile hrep

/-- An identifier with its presentation beside it, and a second `semantics` element behind.
    Neither of the elements named `semantics` that lie further on is the main element. -/
def presentedMarkup : Xml.Markup :=
  .element { localName := "math" }
    (.text " " <|
    .element { localName := "semantics", qualifier := some "m" }
      (.element { localName := "ci" } (.text "x" .nil) <|
      .element
        { localName := "annotation-xml"
          attributes := [(⟨none, "encoding"⟩, "MathML-Presentation")] }
        (.element { localName := "semantics" } .nil .nil) .nil) <|
    .element { localName := "semantics" } .nil .nil) .nil

def presentedFormula : Xml.Tree where
  tag :=
    { localName := "formula", namespaceUri := some topicNamespace
      attributes := [(⟨none, "id"⟩, "e")] }
  content := presentedMarkup

def presentedTopic : Xml.Tree where
  tag := { localName := "topic", namespaceUri := some topicNamespace }
  content :=
    part "num" (.text "1" .nil) (part "query" (formulaPart (some "e") presentedMarkup .nil) .nil)

theorem presentedFormula_agrees :
    ∃ math query, presentedFormula.toFormula.math = some math ∧
      generateQuery (some math) { header := some "", footer := some "$x" } = .ok (some query) ∧
      presentedFormula.toFormula.compile "1" { header := some "", footer := some "$x" } =
        .ok (some ⟨"1", "e", query, math⟩) := by
  have htopic : presentedTopic ∈
      (oneTopic (formulaPart (some "e") presentedMarkup .nil)).source.document.elements := by
    decide +kernel
  have hformula : presentedFormula ∈ presentedTopic.formulaTrees := by decide +kernel
  have hagrees := reader_agrees_with_document _ htopic rfl hformula rfl rfl rfl rfl
    (by decide +kernel) rfl (by decide +kernel) (by decide +kernel)
  rcases hagrees with ⟨query, hquery, hcompile, -⟩ | ⟨e, he, -⟩
  · exact ⟨_, query, rfl, hquery, hcompile⟩
  · cases he

end TopicReader

end FormulaQuery
