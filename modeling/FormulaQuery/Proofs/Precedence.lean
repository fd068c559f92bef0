/-
  FormulaQuery/Proofs/Precedence.lean
  ===================================
  **Which element is the main one.**  The search for the main element goes through
  the whole document once for each convention.  Here its result is described by
  places alone: where an element stands (`Element.at?`), which conventions it
  follows (`Convention.Suits`) and how these rank.

  `located_by_precedence` says when an element at a position is found, when nothing
  is found, and that rank comes before document order: however deep or late an
  element stands, one of a lower rank never wins against it.
-/
import FormulaQuery.Proofs.Places

namespace FormulaQuery

namespace Tag

def IsUnprefixed (t : Tag) : Prop := t.qualifier = none ∨ t.qualifier = some ""

/-- A written name without colon belongs to a tag without prefix. -/
theorem qualifiedName_eq_iff {t : Tag} {name : String} (hname : ':' ∉ name.toList) :
    t.qualifiedName = name ↔ t.IsUnprefixed ∧ t.localName = name := by
  unfold qualifiedName IsUnprefixed
  cases t.qualifier with
  | none => simp
  | some q =>
    by_cases hq : q = ""
    · simp [hq]
    · have hne : q ++ ":" ++ t.localName ≠ name := by
        rintro rfl
        apply hname
        simp
      simp [hq, hne]

end Tag

namespace Convention

/-- What a convention asks of an element. -/
def Suits : Convention → Element → Prop
  | expression, e => e.qualifiedName = "mws:expr"
  | contentAnnotation, e =>
    e.tag.IsUnprefixed ∧ e.tag.localName = "annotation-xml" ∧
      e.attribute? "encoding" = some "MathML-Content"
  | semantics, e => e.tag.localName = "semantics"
  | math, e => e.tag.localName = "math"

/-- How many conventions are tried before. -/
def rank : Convention → Nat
  | expression => 0
  | contentAnnotation => 1
  | semantics => 2
  | math => 3

theorem marks_iff {c : Convention} {e : Element} : c.marks e.tag = true ↔ c.Suits e := by
  cases c with
  | expression => exact beq_iff_eq
  | contentAnnotation =>
    rw [marks, Bool.and_eq_true, beq_iff_eq, beq_iff_eq, Tag.qualifiedName_eq_iff (by decide),
      and_assoc]
    rfl
  | semantics => exact beq_iff_eq
  | math => exact beq_iff_eq

theorem mem_earlier_iff {c c' : Convention} : c' ∈ c.earlier ↔ c'.rank < c.rank := by
  cases c <;> cases c' <;> decide

end Convention

namespace Element

variable {d : Element}

theorem forall_elements_iff {P : Element → Prop} :
    (∀ e ∈ d.elements, P e) ↔ ∀ q e, d.at? q = some e → P e := by
  rw [← map_snd_positions, List.forall_mem_map]
  constructor
  · intro h q e he
    exact h (q, e) (mem_positions.mpr he)
  · rintro h ⟨q, e⟩ he
    exact h q e (mem_positions.mp he)

/-- What is found, by positions. -/
theorem locate?_iff_at? {c : Convention} {p : Position} {r : Element} :
    d.locate? = some ⟨c, p, r⟩ ↔
      d.at? p = some r ∧ c.Suits r ∧ (∀ q e, d.at? q = some e → q < p → ¬ c.Suits e) ∧
        ∀ c' : Convention, c'.rank < c.rank → ∀ q e, d.at? q = some e → ¬ c'.Suits e := by
  have hfirst := d.positions_sorted.first_iff (x := (p, r)) (P := fun y => c.marks y.2.tag = false)
  have hearlier : (∀ c' ∈ c.earlier, ∀ e ∈ d.elements, c'.marks e.tag = false) ↔
      ∀ c' : Convention, c'.rank < c.rank → ∀ q e, d.at? q = some e → ¬ c'.Suits e := by
    simp only [Convention.mem_earlier_iff, forall_elements_iff, ← Convention.marks_iff,
      Bool.not_eq_true]
  have hbefore : (∀ y ∈ d.positions, y.1 < p → c.marks y.2.tag = false) ↔
      ∀ q e, d.at? q = some e → q < p → ¬ c.Suits e := by
    simp only [Prod.forall, mem_positions, ← Convention.marks_iff, Bool.not_eq_true]
  rw [locate?_eq_some_iff, hfirst, hearlier, hbefore, mem_positions, Convention.marks_iff]
  constructor
  · rintro ⟨hsuits, ⟨hat, hbefore⟩, hearlier⟩
    exact ⟨hat, hsuits, hbefore, hearlier⟩
  · rintro ⟨hat, hsuits, hbefore, hearlier⟩
    exact ⟨hsuits, ⟨hat, hbefore⟩, hearlier⟩

theorem locate?_eq_none_iff :
    d.locate? = none ↔ ∀ q e, d.at? q = some e → ∀ c : Convention, ¬ c.Suits e := by
  unfold locate?
  rw [List.findSome?_eq_none_iff]
  have hall : ∀ c : Convention, c ∈ Convention.all := by
    intro c
    cases c <;> decide
  constructor
  · intro h q e he c hsuits
    have hnone := marked?_eq_none_iff.mp (h c (hall c))
    rw [forall_elements_iff] at hnone
    have hmarks := hnone q e he
    rw [Convention.marks_iff.mpr hsuits] at hmarks
    cases hmarks
  · intro h c _
    rw [marked?_eq_none_iff, forall_elements_iff]
    intro q e he
    rw [← Bool.not_eq_true, Convention.marks_iff]
    exact h q e he c

end Element

/-- **The main element is chosen by rank first and by document order second.**  An element is
    found at a position exactly if it stands there and follows a convention that nothing before
    it follows, while nothing in the whole document follows one of a higher rank; nothing is
    found exactly if no element follows any convention.  So an element that follows a
    convention, wherever it stands, keeps all conventions of a lower rank from deciding. -/
theorem located_by_precedence (d : Element) :
    (∀ p r, (∃ c, d.locate? = some ⟨c, p, r⟩) ↔
      ∃ c : Convention, d.at? p = some r ∧ c.Suits r ∧
        (∀ q e, d.at? q = some e → q < p → ¬ c.Suits e) ∧
        ∀ c' : Convention, c'.rank < c.rank → ∀ q e, d.at? q = some e → ¬ c'.Suits e) ∧
    (d.locate? = none ↔ ∀ q e, d.at? q = some e → ∀ c : Convention, ¬ c.Suits e) ∧
    ∀ q e, d.at? q = some e → ∀ c : Convention, c.Suits e →
      ∃ l, d.locate? = some l ∧ l.convention.Suits l.element ∧ l.convention.rank ≤ c.rank := by
  refine ⟨?_, Element.locate?_eq_none_iff, ?_⟩
  · intro p r
    exact exists_congr fun c => Element.locate?_iff_at?
  · intro q e he c hsuits
    cases hlocate : d.locate? with
    | none => exact absurd hsuits (Element.locate?_eq_none_iff.mp hlocate q e he c)
    | some l =>
      obtain ⟨-, hl, -, hearlier⟩ := Element.locate?_iff_at?.mp hlocate
      refine ⟨l, rfl, hl, ?_⟩
      by_contra hrank
      exact hearlier c (Nat.lt_of_not_le hrank) q e he hsuits

end FormulaQuery
