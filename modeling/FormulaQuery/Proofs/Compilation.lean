/-
  FormulaQuery/Proofs/Compilation.lean
  ====================================
  **What a compilation comes to.**  `Session.compileNested_ok` and
  `Session.compileNested_error` say what the compilation of an element gives in a
  session of its own, `Element.compile_ok` and `Element.compile_error` the same of
  a main element, and the lemmas on `Generator.generate` what a generator does
  with it.
-/
import FormulaQuery.Proofs.Walk
import FormulaQuery.Query.Generator

namespace FormulaQuery

namespace Session

/-- The constraint of an element in a session of its own, if every wildcard has a name. -/
theorem compileNested_ok (e : Element) (restrictLength : Bool)
    (h : unnamed? (e.content.sightings 0) = none) :
    (compileNested e).run { restrictLength := restrictLength } =
      .ok (e.content.constraint 0).render
        { restrictLength := restrictLength
          occurrences := occurrencesOf (e.content.sightings 0)
          lengths := if restrictLength then e.content.lengthFacts 0 else [] } := by
  simp only [compileNested, EStateM.run_bind, constrain_ok _ _ _ h, EStateM.run_pure, record,
    Occurrence.below_nil, LengthFact.below_nil, List.map_id, List.nil_append]

theorem compileNested_error (e : Element) (restrictLength : Bool) {p : Path}
    (h : unnamed? (e.content.sightings 0) = some p) :
    ∃ s', (compileNested e).run { restrictLength := restrictLength } = .error ⟨p⟩ s' := by
  obtain ⟨s', hs'⟩ := constrain_error _ _ { restrictLength := restrictLength } h
  exact ⟨s', by simp only [compileNested, EStateM.run_bind, hs', List.nil_append]⟩

/-- What is left by a successful compilation of an element. -/
theorem compileNested_inv {e : Element} {restrictLength : Bool} {text : String} {s : Session}
    (h : (compileNested e).run { restrictLength := restrictLength } = .ok text s) :
    unnamed? (e.content.sightings 0) = none ∧ text = (e.content.constraint 0).render ∧
      s.occurrences = occurrencesOf (e.content.sightings 0) ∧
      s.lengths = if restrictLength then e.content.lengthFacts 0 else [] := by
  cases hnamed : unnamed? (e.content.sightings 0) with
  | some p =>
    obtain ⟨s', hs'⟩ := compileNested_error e restrictLength hnamed
    rw [hs'] at h
    cases h
  | none =>
    rw [compileNested_ok e restrictLength hnamed] at h
    cases h
    exact ⟨rfl, rfl, rfl, rfl⟩

/-- What is left by a successful compilation of a main element. -/
theorem compileMain_inv {e : Element} {restrictLength : Bool} {text : String} {s : Session}
    (h : (compileMain e).run { restrictLength := restrictLength } = .ok text s) :
    unnamed? (e.content.rootSightings 0) = none ∧
      s.lengths = if restrictLength then e.content.rootLengthFacts else [] := by
  simp only [compileMain, EStateM.run_bind] at h
  cases hnamed : unnamed? (e.content.rootSightings 0) with
  | some p =>
    obtain ⟨s', hs'⟩ := constrainRoot_error _ _ { restrictLength := restrictLength } hnamed
    rw [hs'] at h
    cases h
  | none =>
    rw [constrainRoot_ok _ _ _ hnamed] at h
    cases h
    simp only [record, LengthFact.below_nil, List.map_id, List.nil_append, and_self]

end Session

/-! ### Compilations -/

namespace Element

def wildcards (main : Element) : List Sighting := main.content.rootSightings 0

/-- The wildcard table of a main element: the paths of its wildcards, grouped by name. -/
def wildcardTable (main : Element) : WildcardTable :=
  WildcardTable.ofOccurrences (occurrencesOf main.wildcards)

/-- The compilation of a main element whose wildcards all have names. -/
theorem compile_ok (main : Element) (restrictLength : Bool)
    (h : unnamed? main.wildcards = none) :
    main.compile restrictLength =
      ⟨occurrencesOf main.wildcards,
        .ok (RootCondition.renderAll main.content.rootConditions,
          if restrictLength then main.content.rootLengthFacts else [])⟩ := by
  simp only [compile, Session.compileMain, EStateM.run_bind, Session.constrainRoot_ok _ _ _ h,
    EStateM.run_pure, Session.record, Occurrence.below_nil, LengthFact.below_nil, List.map_id,
    List.nil_append, wildcards]

theorem compile_error (main : Element) (restrictLength : Bool) {p : Path}
    (h : unnamed? main.wildcards = some p) :
    (main.compile restrictLength).outcome = .error ⟨p⟩ := by
  obtain ⟨s', hs'⟩ :=
    Session.constrainRoot_error _ _ { restrictLength := restrictLength } h
  simp only [compile, Session.compileMain, EStateM.run_bind, hs', List.nil_append]

def clauses (main : Element) (config : Config) : Clauses where
  fixed := RootCondition.renderAll main.content.rootConditions
  lengths := Text.join "\n and "
    ((if config.restrictLength then main.content.rootLengthFacts else []).map LengthFact.render)
  equalities := main.wildcardTable.equalities
  map := if config.emitWildcardMap then main.wildcardTable.binding else ""
  header := config.resolvedHeader
  footer := config.resolvedFooter

end Element

namespace Generator

variable {g : Generator} {main : Element}

theorem generate_of_none (hmain : g.main = none) : g.generate = (g, .ok none) := by
  simp only [generate, hmain]

theorem generate_of_named (hmain : g.main = some main) (h : unnamed? main.wildcards = none) :
    g.generate = ({ g with wildcards := main.wildcardTable },
      ((main.clauses g.config).assemble main).map some) := by
  simp only [generate, hmain, Element.compile_ok main _ h]
  rfl

theorem generate_of_unnamed (hmain : g.main = some main) {p : Path}
    (h : unnamed? main.wildcards = some p) :
    g.generate = (g, .error (.unnamedWildcard p)) := by
  simp only [generate, hmain, Element.compile_error main _ h, Compilation.query]
  rfl

theorem generate_of_child (hmain : g.main = some main) (hnamed : unnamed? main.wildcards = none)
    {child : Element} (hfirst : main.firstElement? = some child) :
    g.generate.2 = .ok (some ((main.clauses g.config).query child.tag.localName)) := by
  simp [generate_of_named hmain hnamed, Clauses.assemble, hfirst, Except.map]

theorem generate_ne_none (hmain : g.main = some main) : g.generate.2 ≠ .ok none := by
  cases hnamed : unnamed? main.wildcards with
  | some p => simp [generate_of_unnamed hmain hnamed]
  | none =>
    cases hfirst : main.firstElement? with
    | none => simp [generate_of_named hmain hnamed, Clauses.assemble, hfirst, Except.map]
    | some child => simp [generate_of_child hmain hnamed hfirst]

/-- **When there is a query.**  All wildcards have names, there is an element child to
    search for, and the query is made of the clauses of the main element. -/
theorem generate_eq_query {query : String} (hmain : g.main = some main)
    (hquery : g.generate.2 = .ok (some query)) :
    unnamed? main.wildcards = none ∧
      ∃ child, main.firstElement? = some child ∧
        query = (main.clauses g.config).query child.tag.localName := by
  cases h : unnamed? main.wildcards with
  | some p => simp [generate_of_unnamed hmain h] at hquery
  | none =>
    rw [generate_of_named hmain h] at hquery
    refine ⟨rfl, ?_⟩
    cases hfirst : main.firstElement? with
    | none => simp [Clauses.assemble, hfirst, Except.map] at hquery
    | some child =>
      refine ⟨child, rfl, ?_⟩
      simpa [Clauses.assemble, hfirst, Except.map] using hquery.symm

end Generator

end FormulaQuery
