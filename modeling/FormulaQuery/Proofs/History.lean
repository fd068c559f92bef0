/-
  FormulaQuery/Proofs/History.lean
  ================================
  **A generator does not remember.**  Queries are generated, main elements
  exchanged and options assigned in any order, with failures among them.  What
  a generator answers then depends on its main element and its options alone,
  and the options are the initial ones with the accepted assignments made in
  order (`run_forgets_history`).

  The wildcard table is written in the middle of a generation and kept when a
  wildcard without a name is met.  What keeps it from going stale is the
  invariant `Settled`: a table that is not empty belongs to the current main
  element, and all wildcards of that element have names.  So no later
  generation for it meets one without a name, whatever the options are.
-/
import FormulaQuery.Proofs.Compilation

namespace FormulaQuery

/-- What can be done with a generator. -/
inductive Action where
  | generate
  | setMain (main : Option Element)
  | setOption (field : Field) (v : Value)

namespace Generator

/-- The generator after an action, whether it succeeds or not. -/
def step (g : Generator) : Action → Generator
  | .generate => g.generate.1
  | .setMain main => g.setMain main
  | .setOption field v => (g.setOption field v).1

def run (g : Generator) (actions : List Action) : Generator := actions.foldl step g

end Generator

/-! ### Current main element and accepted assignments -/

/-- The main element after some actions: the last one that was set. -/
def mainAfter (main : Option Element) : List Action → Option Element
  | [] => main
  | .setMain main' :: actions => mainAfter main' actions
  | .generate :: actions => mainAfter main actions
  | .setOption _ _ :: actions => mainAfter main actions

/-- Whether an option takes a value; the other options do not matter. -/
def Field.takes (field : Field) (v : Value) : Bool := (Config.set {} field v).isOk

/-- The assignments among some actions whose values are taken. -/
def accepted : List Action → List (Field × Value)
  | [] => []
  | .setOption field v :: actions =>
    if field.takes v then (field, v) :: accepted actions else accepted actions
  | .generate :: actions => accepted actions
  | .setMain _ :: actions => accepted actions

theorem isOk_map {ε α β : Type} (f : α → β) (x : Except ε α) : (x.map f).isOk = x.isOk := by
  cases x with
  | error e => rfl
  | ok a => rfl

theorem Config.isOk_set (c : Config) (field : Field) (v : Value) :
    (c.set field v).isOk = field.takes v := by
  cases field <;> exact (isOk_map _ _).trans (isOk_map _ _).symm

namespace Generator

/-! ### One assignment -/

theorem setOption_of_takes (g : Generator) {field : Field} {v : Value}
    (h : field.takes v = true) :
    ∃ config, g.config.set field v = .ok config ∧
      (g.setOption field v).1 = { g with config := config } := by
  have hok := g.config.isOk_set field v
  cases hset : g.config.set field v with
  | error r =>
    rw [hset, h] at hok
    cases hok
  | ok config => exact ⟨config, rfl, by simp only [setOption, hset]⟩

theorem setOption_of_refused (g : Generator) {field : Field} {v : Value}
    (h : field.takes v = false) : (g.setOption field v).1 = g := by
  have hok := g.config.isOk_set field v
  cases hset : g.config.set field v with
  | error r => simp only [setOption, hset]
  | ok config =>
    rw [hset, h] at hok
    cases hok

theorem setOption_frame (g : Generator) (field : Field) (v : Value) :
    (g.setOption field v).1.main = g.main ∧ (g.setOption field v).1.wildcards = g.wildcards := by
  cases h : field.takes v with
  | true =>
    obtain ⟨config, -, hset⟩ := g.setOption_of_takes h
    rw [hset]
    exact ⟨rfl, rfl⟩
  | false =>
    rw [g.setOption_of_refused h]
    exact ⟨rfl, rfl⟩

/-! ### One generation -/

theorem generate_frame (g : Generator) :
    g.generate.1.main = g.main ∧ g.generate.1.config = g.config := by
  cases hmain : g.main with
  | none => simp [generate_of_none hmain, hmain]
  | some main =>
    cases hnamed : unnamed? main.wildcards with
    | some p => simp [generate_of_unnamed hmain hnamed, hmain]
    | none => simp [generate_of_named hmain hnamed, hmain]

/-- The answer depends on the main element and the options alone. -/
theorem generate_of_same {g g' : Generator} (hmain : g.main = g'.main)
    (hconfig : g.config = g'.config) : g.generate.2 = g'.generate.2 := by
  cases h : g'.main with
  | none => rw [generate_of_none (hmain.trans h), generate_of_none h]
  | some main =>
    cases hnamed : unnamed? main.wildcards with
    | some p => rw [generate_of_unnamed (hmain.trans h) hnamed, generate_of_unnamed h hnamed]
    | none => rw [generate_of_named (hmain.trans h) hnamed, generate_of_named h hnamed, hconfig]

/-! ### The wildcard table -/

/-- The table is empty, or it is that of the main element, and all wildcards of the main
    element have names. -/
def Settled (g : Generator) : Prop :=
  g.wildcards = [] ∨
    ∃ main, g.main = some main ∧ unnamed? main.wildcards = none ∧
      g.wildcards = main.wildcardTable

theorem settled_generate {g : Generator} (h : g.Settled) : g.generate.1.Settled := by
  cases hmain : g.main with
  | none => simpa [generate_of_none hmain] using h
  | some main =>
    cases hnamed : unnamed? main.wildcards with
    | some p => simpa [generate_of_unnamed hmain hnamed] using h
    | none =>
      rw [generate_of_named hmain hnamed]
      exact Or.inr ⟨main, hmain, hnamed, rfl⟩

theorem settled_step {g : Generator} (h : g.Settled) (a : Action) : (g.step a).Settled := by
  cases a with
  | generate => exact settled_generate h
  | setMain main => exact Or.inl rfl
  | setOption field v =>
    obtain ⟨hmain, hwildcards⟩ := g.setOption_frame field v
    rw [Settled, step, hmain, hwildcards]
    exact h

theorem settled_run {g : Generator} (h : g.Settled) (actions : List Action) :
    (g.run actions).Settled := by
  induction actions generalizing g with
  | nil => exact h
  | cons a actions ih => exact ih (settled_step h a)

end Generator

theorem Content.rootSightings_of_children {c : Content} (h : c.children = []) (before : Nat) :
    c.rootSightings before = [] := by
  induction c with
  | nil => rfl
  | text value rest ih => exact ih h
  | element tag inner rest _ _ => cases h

namespace Generator

/-- After a failed generation the table is empty. -/
theorem wildcards_of_error {g : Generator} (hsettled : g.Settled) {e : QueryError}
    (herror : g.generate.2 = .error e) : g.generate.1.wildcards = [] := by
  cases hmain : g.main with
  | none => simp [generate_of_none hmain] at herror
  | some main =>
    cases hnamed : unnamed? main.wildcards with
    | some p =>
      -- the table is kept, but it can only be empty
      rw [generate_of_unnamed hmain hnamed]
      rcases hsettled with hempty | ⟨main', hmain', hnamed', -⟩
      · exact hempty
      · obtain rfl : main = main' := Option.some.inj (hmain.symm.trans hmain')
        rw [hnamed] at hnamed'
        cases hnamed'
    | none =>
      -- the table is new, and the main element has no child that it could come from
      rw [generate_of_named hmain hnamed] at herror ⊢
      cases hfirst : main.firstElement? with
      | some child => simp [Clauses.assemble, hfirst, Except.map] at herror
      | none =>
        rw [Element.firstElement?, Content.firstElement?_eq_head?, List.head?_eq_none_iff] at hfirst
        simp [Element.wildcardTable, Element.wildcards, Content.rootSightings_of_children hfirst,
          occurrencesOf, WildcardTable.ofOccurrences]

/-! ### Histories -/

theorem run_main (g : Generator) (actions : List Action) :
    (g.run actions).main = mainAfter g.main actions := by
  induction actions generalizing g with
  | nil => rfl
  | cons a actions ih =>
    refine (ih (g.step a)).trans ?_
    cases a with
    | generate => rw [mainAfter, step, (generate_frame g).1]
    | setMain main => rfl
    | setOption field v => rw [mainAfter, step, (g.setOption_frame field v).1]

theorem run_config (g : Generator) (actions : List Action) :
    (accepted actions).foldlM (fun c a => c.set a.1 a.2) g.config = .ok (g.run actions).config := by
  induction actions generalizing g with
  | nil => rfl
  | cons a actions ih =>
    have hrun := ih (g.step a)
    cases a with
    | generate =>
      rw [step, (generate_frame g).2] at hrun
      exact hrun
    | setMain main => exact hrun
    | setOption field v =>
      cases htakes : field.takes v with
      | true =>
        obtain ⟨config, hset, hstep⟩ := g.setOption_of_takes htakes
        rw [step, hstep] at hrun
        have haccepted : accepted (.setOption field v :: actions) =
            (field, v) :: accepted actions := by simp only [accepted, htakes, if_true]
        rw [haccepted, List.foldlM_cons, hset, run, List.foldl_cons, step, hstep]
        exact hrun
      | false =>
        have hstep := g.setOption_of_refused htakes
        rw [step, hstep] at hrun
        have haccepted : accepted (.setOption field v :: actions) = accepted actions := by
          simp only [accepted, htakes, Bool.false_eq_true, if_false]
        rw [haccepted, run, List.foldl_cons, step, hstep]
        exact hrun

/-- **A generator does not remember.**  After any actions on a new generator:
    its options are the initial ones with the accepted assignments made in order; a
    generation answers like a new generator for the current main element with these
    options; the table is empty or that of the current main element; and a generation
    that fails leaves the table empty. -/
theorem run_forgets_history {g₀ g : Generator} {c : Config} {actions : List Action}
    (hnew : (∃ document, g₀ = ofDocument document c) ∨ ∃ main, g₀ = ofMain main c)
    (hrun : g₀.run actions = g) :
    (accepted actions).foldlM (fun c a => c.set a.1 a.2) c = .ok g.config ∧
    g.generate.2 = (ofMain (mainAfter g₀.main actions) g.config).generate.2 ∧
    (g.wildcards = [] ∨ ∃ main, mainAfter g₀.main actions = some main ∧
      ∀ restrictLength, (main.compile restrictLength).table = g.wildcards) ∧
    (∀ e, g.generate.2 = .error e → g.generate.1.wildcards = []) := by
  have hinitial : g₀.config = c ∧ g₀.wildcards = [] := by
    rcases hnew with ⟨document, rfl⟩ | ⟨main, rfl⟩
    · exact ⟨rfl, rfl⟩
    · exact ⟨rfl, rfl⟩
  obtain ⟨rfl, hempty⟩ := hinitial
  have hsettled : g.Settled := hrun ▸ settled_run (Or.inl hempty) actions
  have hmain : g.main = mainAfter g₀.main actions := hrun ▸ run_main g₀ actions
  refine ⟨hrun ▸ run_config g₀ actions, generate_of_same hmain rfl, ?_, ?_⟩
  · rcases hsettled with hwildcards | ⟨main, hcurrent, hnamed, hwildcards⟩
    · exact Or.inl hwildcards
    · refine Or.inr ⟨main, hmain.symm.trans hcurrent, ?_⟩
      intro restrictLength
      rw [hwildcards, Element.compile_ok main restrictLength hnamed]
      rfl
  · intro e herror
    exact wildcards_of_error hsettled herror

/-- A formula with one wildcard; its name is an attribute, if it has one. -/
def oneWildcard (attributes : List (String × String)) : Element where
  tag := { localName := "expr", qualifier := some "mws" }
  content := .element { localName := "apply" }
    (.element { localName := "qvar", qualifier := some "mws", attributes := attributes } .nil .nil)
    .nil

/-- Generations for two main elements, the second one with a wildcard that has no name,
    and assignments between them, of which the second one is refused. -/
def busyHistory : List Action :=
  [.generate, .setOption .restrictLength (.text "no"), .generate,
    .setOption .emitWildcardMap (.text "maybe"), .setMain (some (oneWildcard [])), .generate]

theorem busyHistory_forgotten :
    (accepted busyHistory).foldlM (fun c a => c.set a.1 a.2) ({} : Config) =
      .ok { restrictLength := false } ∧
    ((ofMain (some (oneWildcard [("name", "x")])) {}).run busyHistory).generate.2 =
      .error (.unnamedWildcard [1]) ∧
    ((ofMain (some (oneWildcard [("name", "x")])) {}).run busyHistory).generate.1.wildcards = [] := by
  have herror : ((ofMain (some (oneWildcard [("name", "x")])) {}).run busyHistory).generate.2 =
      .error (.unnamedWildcard [1]) := by rfl
  have hconfig : ((ofMain (some (oneWildcard [("name", "x")])) {}).run busyHistory).config =
      { restrictLength := false } := by decide +kernel
  obtain ⟨hoptions, -, -, hempty⟩ := run_forgets_history
    (Or.inr ⟨some (oneWildcard [("name", "x")]), rfl⟩)
    (rfl : (ofMain (some (oneWildcard [("name", "x")])) {}).run busyHistory = _)
  exact ⟨hconfig ▸ hoptions, herror, hempty _ herror⟩

end Generator

end FormulaQuery
