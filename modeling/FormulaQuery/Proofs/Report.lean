/-
  FormulaQuery/Proofs/Report.lean
  ===============================
  **What a report says.**  A report goes through the formulas of a topic set and
  puts each of them in one of three classes: it fails, it has no expression, or
  it is compiled.  `Visit.compile_cases` says once what the compilation of a
  formula can come to, and `foldl_add` what a report makes of any sequence of
  formulas, so a report is an exact partition of them
  (`report_partitions_formulas`).

  Markup with a name that no formula tree can have is an obstacle.  It is not
  reported as a failure: it ends the report, and what was found out about all
  other formulas is lost with it (`report?_error_iff`).

  The status tells only failures from the rest.  That a report is partial says that
  something was compiled unless all formulas of the rest were skipped
  (`partial_status_tells`).
-/
import FormulaQuery.Proofs.Compilation
import FormulaQuery.Topics.Reader
import Mathlib.Data.List.Forall2

namespace FormulaQuery

/-! ### Three classes of formulas -/

inductive FormulaClass where
  | failed
  | skipped
  | compiled
  deriving DecidableEq, Repr

namespace Visit

variable {config : Config} {v : Visit}

/-- The number of the topic, the identifier or the markup is missing, or the main element
    has no query. -/
def Fails (config : Config) (v : Visit) : Prop :=
  v.num = none ∨ v.formula.id = none ∨ v.formula.math = none ∨
    ∃ main ∈ v.formula.math.bind Element.firstElement?,
      (Generator.ofMain (some main) config).generate.2.isOk = false

/-- Whether a formula is in a class.  Only what does not fail can be skipped, and only what
    is not skipped either is compiled. -/
def BelongsTo (config : Config) (v : Visit) : FormulaClass → Prop
  | .failed => v.Fails config
  | .skipped => ¬ v.Fails config ∧ ∃ math ∈ v.formula.math, math.children = []
  | .compiled => ¬ v.Fails config ∧ ¬ ∃ math ∈ v.formula.math, math.children = []

instance : Decidable (v.Fails config) := inferInstanceAs (Decidable (_ ∨ _ ∨ _ ∨ _))

instance (c : FormulaClass) : Decidable (v.BelongsTo config c) :=
  match c with
  | .failed => inferInstanceAs (Decidable (v.Fails config))
  | .skipped => inferInstanceAs (Decidable (_ ∧ _))
  | .compiled => inferInstanceAs (Decidable (_ ∧ _))

theorem exists_unique_class (config : Config) (v : Visit) : ∃! c, v.BelongsTo config c := by
  by_cases hfails : v.Fails config
  · refine ⟨.failed, hfails, ?_⟩
    rintro (_ | _ | _) h
    · rfl
    · exact absurd hfails h.1
    · exact absurd hfails h.1
  · by_cases hempty : ∃ math ∈ v.formula.math, math.children = []
    · refine ⟨.skipped, ⟨hfails, hempty⟩, ?_⟩
      rintro (_ | _ | _) h
      · exact absurd h hfails
      · rfl
      · exact absurd hempty h.2
    · refine ⟨.compiled, ⟨hfails, hempty⟩, ?_⟩
      rintro (_ | _ | _) h
      · exact absurd h hfails
      · exact absurd h.2 hempty
      · rfl

theorem BelongsTo.iff_eq {c : FormulaClass} (h : v.BelongsTo config c) (c' : FormulaClass) :
    v.BelongsTo config c' ↔ c' = c := by
  constructor
  · intro h'
    exact (exists_unique_class config v).unique h' h
  · rintro rfl
    exact h

/-- The pattern has the number, the identifier and the markup of the formula, and the query
    that a new generator has for its main element. -/
def Writes (config : Config) (v : Visit) (p : Pattern) : Prop :=
  v.num = some p.num ∧ v.formula.id = some p.formulaId ∧ v.formula.math = some p.math ∧
    ∃ main, p.math.firstElement? = some main ∧
      (Generator.ofMain (some main) config).generate.2 = .ok (some p.query)

/-- The error has the number and the identifier of the formula, as far as there are any, and
    the reason why it cannot be compiled. -/
def Reports (config : Config) (v : Visit) (e : FormulaError) : Prop :=
  e.num = v.num ∧ e.formulaId = v.formula.id ∧
    ∃ reason, v.compile config = .error reason ∧ e.message = reason.message

/-- Nothing is missing, but the markup has a name that no formula tree can have. -/
def IsObstacle (v : Visit) : Prop :=
  v.num ≠ none ∧ v.formula.id ≠ none ∧ v.formula.math ≠ none ∧ v.formula.unfitName ≠ none

/-- **What the compilation of a formula comes to**, if it is no obstacle: one of three
    results, each for its own class. -/
theorem compile_cases (config : Config) {v : Visit} (hfit : ¬ v.IsObstacle) :
    (v.BelongsTo config .failed ∧ ∃ e, v.compile config = .error e ∧ e.isObstacle = false) ∨
    (v.BelongsTo config .skipped ∧ v.compile config = .ok none) ∨
    (v.BelongsTo config .compiled ∧ ∃ p, v.compile config = .ok (some p) ∧ v.Writes config p) := by
  -- the cases follow the order of the checks: number, identifier, markup, query
  obtain ⟨_ | num, _ | id, math, unfitName⟩ := v
  · exact Or.inl ⟨Or.inl rfl, _, rfl, rfl⟩
  · exact Or.inl ⟨Or.inl rfl, _, rfl, rfl⟩
  · exact Or.inl ⟨Or.inr (Or.inl rfl), _, rfl, rfl⟩
  cases math with
  | none => exact Or.inl ⟨Or.inr (Or.inr (Or.inl rfl)), _, rfl, rfl⟩
  | some math =>
    obtain rfl : unfitName = none := by simpa [IsObstacle] using hfit
    cases hfirst : math.firstElement? with
    | none =>
      have hchildren := Element.firstElement?_eq_none_iff.mp hfirst
      refine Or.inr (Or.inl ⟨⟨by simp [Fails, hfirst], math, rfl, hchildren⟩, ?_⟩)
      simp [compile, Formula.compile, hfirst, Generator.generate, Generator.ofMain]
    | some main =>
      cases hquery : (Generator.ofMain (some main) config).generate.2 with
      | error e =>
        have hfails : (Generator.ofMain (some main) config).generate.2.isOk = false := by
          rw [hquery]
          rfl
        refine Or.inl ⟨Or.inr (Or.inr (Or.inr ⟨main, hfirst, hfails⟩)), .query e, ?_, rfl⟩
        simp only [compile, Formula.compile, hfirst, hquery]
      | ok answer =>
        cases answer with
        -- only a generator without main element answers without a query
        | none => exact absurd hquery (Generator.generate_ne_none rfl)
        | some query =>
          refine Or.inr (Or.inr ⟨⟨?_, ?_⟩, ⟨num, id, query, math⟩, ?_, rfl, rfl, rfl, main, hfirst,
            hquery⟩)
          · simp [Fails, hfirst, hquery, Except.isOk, Except.toBool]
          · rintro ⟨math', hmath, h⟩
            obtain rfl : math = math' := Option.some.inj hmath
            rw [Element.firstElement?_eq_none_iff.mpr h] at hfirst
            cases hfirst
          · simp only [compile, Formula.compile, hfirst, hquery]

theorem compile_of_obstacle (config : Config) {v : Visit} (h : v.IsObstacle) :
    ∃ name, v.compile config = .error (.unfitName name) := by
  obtain ⟨hnum, hid, hmath, hname⟩ := h
  obtain ⟨num, hnum⟩ := Option.ne_none_iff_exists'.mp hnum
  obtain ⟨id, hid⟩ := Option.ne_none_iff_exists'.mp hid
  obtain ⟨math, hmath⟩ := Option.ne_none_iff_exists'.mp hmath
  obtain ⟨name, hname⟩ := Option.ne_none_iff_exists'.mp hname
  exact ⟨name, by simp only [compile, hnum, Formula.compile, hid, hmath, hname]⟩

theorem obstacle?_eq_none_iff (config : Config) (v : Visit) :
    v.obstacle? config = none ↔ ¬ v.IsObstacle := by
  constructor
  · intro hnone h
    obtain ⟨name, hcompile⟩ := compile_of_obstacle config h
    simp [obstacle?, hcompile, TopicError.isObstacle] at hnone
  · intro hfit
    rcases compile_cases config hfit with ⟨-, e, hcompile, he⟩ | ⟨-, hcompile⟩ | ⟨-, p, hcompile, -⟩
    · simp [obstacle?, hcompile, he]
    · simp [obstacle?, hcompile]
    · simp [obstacle?, hcompile]

/-! ### What a visit adds to a report -/

def pattern? (config : Config) (v : Visit) : Option Pattern :=
  match v.compile config with
  | .ok p => p
  | .error _ => none

def failure? (config : Config) (v : Visit) : Option TopicError :=
  match v.compile config with
  | .ok _ => none
  | .error e => some e

def complaint? (config : Config) (v : Visit) : Option FormulaError :=
  (v.failure? config).map fun e => ⟨v.num, v.formula.id, e.message⟩

def isSkipped (config : Config) (v : Visit) : Bool :=
  match v.compile config with
  | .ok none => true
  | .ok (some _) => false
  | .error _ => false

theorem pattern?_of_compiled (hfit : ¬ v.IsObstacle) (h : v.BelongsTo config .compiled) :
    ∃ p, v.pattern? config = some p ∧ v.Writes config p := by
  rcases compile_cases config hfit with ⟨hclass, -⟩ | ⟨hclass, -⟩ | ⟨-, p, hcompile, hwrites⟩
  · cases (hclass.iff_eq _).mp h
  · cases (hclass.iff_eq _).mp h
  · exact ⟨p, by rw [pattern?, hcompile], hwrites⟩

theorem pattern?_of_not_compiled (hfit : ¬ v.IsObstacle) (h : ¬ v.BelongsTo config .compiled) :
    v.pattern? config = none := by
  rcases compile_cases config hfit with ⟨-, e, hcompile, -⟩ | ⟨-, hcompile⟩ | ⟨hclass, -⟩
  · rw [pattern?, hcompile]
  · rw [pattern?, hcompile]
  · exact absurd hclass h

theorem complaint?_of_failed (hfit : ¬ v.IsObstacle) (h : v.BelongsTo config .failed) :
    ∃ e, v.complaint? config = some e ∧ v.Reports config e := by
  rcases compile_cases config hfit with ⟨-, e, hcompile, -⟩ | ⟨hclass, -⟩ | ⟨hclass, -⟩
  · exact ⟨_, by rw [complaint?, failure?, hcompile, Option.map_some], rfl, rfl, e, hcompile, rfl⟩
  · cases (hclass.iff_eq _).mp h
  · cases (hclass.iff_eq _).mp h

theorem complaint?_of_not_failed (hfit : ¬ v.IsObstacle) (h : ¬ v.BelongsTo config .failed) :
    v.complaint? config = none := by
  rcases compile_cases config hfit with ⟨hclass, -⟩ | ⟨-, hcompile⟩ | ⟨-, p, hcompile, -⟩
  · exact absurd hclass h
  · rw [complaint?, failure?, hcompile, Option.map_none]
  · rw [complaint?, failure?, hcompile, Option.map_none]

theorem isSkipped_iff (hfit : ¬ v.IsObstacle) :
    v.isSkipped config = true ↔ v.BelongsTo config .skipped := by
  rcases compile_cases config hfit with
    ⟨hclass, e, hcompile, -⟩ | ⟨hclass, hcompile⟩ | ⟨hclass, p, hcompile, -⟩
  · simp [isSkipped, hcompile, hclass.iff_eq]
  · simp [isSkipped, hcompile, hclass.iff_eq]
  · simp [isSkipped, hcompile, hclass.iff_eq]

end Visit

namespace Report

/-- The report with what some visits add to it. -/
def record (config : Config) (r : Report) (vs : List Visit) : Report :=
  { r with
    total := r.total + vs.length
    compiled := r.compiled + (vs.filterMap (Visit.pattern? config)).length
    skipped := r.skipped + vs.countP (Visit.isSkipped config)
    failed := r.failed + (vs.filterMap (Visit.complaint? config)).length
    patterns := r.patterns ++ vs.filterMap (Visit.pattern? config)
    errors := r.errors ++ vs.filterMap (Visit.complaint? config) }

theorem record_append (config : Config) (r : Report) (vs ws : List Visit) :
    r.record config (vs ++ ws) = (r.record config vs).record config ws := by
  simp only [record, List.filterMap_append, List.length_append, List.countP_append,
    List.append_assoc, Nat.add_assoc, Int.natCast_add, Int.add_assoc]

/-- One visit adds to one of the three counts. -/
theorem add_eq_record (config : Config) (r : Report) (v : Visit) :
    r.add config v = r.record config [v] := by
  cases hcompile : v.compile config with
  | error e =>
    simp [add, record, setTotal, addError, Visit.pattern?, Visit.complaint?, Visit.failure?,
      Visit.isSkipped, hcompile]
  | ok p =>
    cases p with
    | none =>
      simp [add, record, setTotal, addSkipped, Visit.pattern?, Visit.complaint?, Visit.failure?,
        Visit.isSkipped, hcompile]
    | some p =>
      simp [add, record, setTotal, addPattern, Visit.pattern?, Visit.complaint?, Visit.failure?,
        Visit.isSkipped, hcompile]

/-- **A report records its visits.** -/
theorem foldl_add (config : Config) (r : Report) (vs : List Visit) :
    vs.foldl (Report.add config) r = r.record config vs := by
  induction vs generalizing r with
  | nil => simp [record]
  | cons v vs ih => rw [List.foldl_cons, ih, add_eq_record, ← record_append, List.singleton_append]

/-- Every formula is counted once, and the lists are as long as their counts say. -/
def Balanced (r : Report) : Prop :=
  r.total = r.compiled + r.skipped + r.failed ∧ r.compiled = r.patterns.length ∧
    r.failed = r.errors.length

theorem Balanced.add {r : Report} (h : r.Balanced) (config : Config) (v : Visit) :
    (r.add config v).Balanced := by
  obtain ⟨htotal, hcompiled, hfailed⟩ := h
  cases hcompile : v.compile config with
  | error e =>
    simp only [Balanced, Report.add, hcompile, setTotal, addError, List.length_append,
      List.length_singleton]
    omega
  | ok p =>
    cases p with
    | none =>
      simp only [Balanced, Report.add, hcompile, setTotal, addSkipped]
      omega
    | some p =>
      simp only [Balanced, Report.add, hcompile, setTotal, addPattern, List.length_append,
        List.length_singleton]
      omega

theorem Balanced.foldl_add {r : Report} (h : r.Balanced) (config : Config) (vs : List Visit) :
    (vs.foldl (Report.add config) r).Balanced := by
  induction vs generalizing r with
  | nil => exact h
  | cons v vs ih => exact ih (h.add config v)

end Report

theorem forall₂_filter_filterMap {α β : Type} {p : α → Bool} {f : α → Option β} {R : α → β → Prop}
    {xs : List α} (hsome : ∀ x ∈ xs, p x = true → ∃ y, f x = some y ∧ R x y)
    (hnone : ∀ x ∈ xs, p x = false → f x = none) :
    List.Forall₂ R (xs.filter p) (xs.filterMap f) := by
  induction xs with
  | nil => exact .nil
  | cons x xs ih =>
    rw [List.forall_mem_cons] at hsome hnone
    have hrest := ih hsome.2 hnone.2
    cases hx : p x with
    | true =>
      obtain ⟨y, hy, hxy⟩ := hsome.1 hx
      rw [List.filter_cons_of_pos hx, List.filterMap_cons_some hy]
      exact .cons hxy hrest
    | false =>
      rw [List.filter_cons_of_neg (by simp [hx]), List.filterMap_cons_none (hnone.1 hx)]
      exact hrest

namespace TopicReader

def inClass (r : TopicReader) (c : FormulaClass) : List Visit :=
  r.visits.filter fun v => v.BelongsTo r.config c

theorem report_eq_record (r : TopicReader) :
    r.report = (({} : Report).record r.config r.visits).updateStatus := by
  rw [report, Report.foldl_add]

theorem obstacle?_eq_none_iff (r : TopicReader) :
    r.obstacle? = none ↔ ∀ v ∈ r.visits, ¬ v.IsObstacle := by
  simp only [obstacle?, List.findSome?_eq_none_iff, Visit.obstacle?_eq_none_iff]

theorem report?_ok_iff {r : TopicReader} {rep : Report} :
    r.report? = .ok rep ↔ (∀ v ∈ r.visits, ¬ v.IsObstacle) ∧ r.report = rep := by
  rw [← obstacle?_eq_none_iff, report?]
  cases r.obstacle? with
  | none => simp
  | some e => simp

/-- **There is no report exactly if some formula is an obstacle.** -/
theorem report?_error_iff {r : TopicReader} :
    (∃ e, r.report? = .error e) ↔ ∃ v ∈ r.visits, v.IsObstacle := by
  have hnone := r.obstacle?_eq_none_iff
  rw [report?]
  cases hobstacle : r.obstacle? with
  | none =>
    have hfit := hnone.mp hobstacle
    constructor
    · rintro ⟨e, h⟩
      cases h
    · rintro ⟨v, hv, h⟩
      exact absurd h (hfit v hv)
  | some e =>
    have hexists : ∃ v ∈ r.visits, v.IsObstacle := by
      simpa [hobstacle] using hnone
    exact ⟨fun _ => hexists, fun _ => ⟨e, rfl⟩⟩

theorem status_report (r : TopicReader) :
    r.report.status = Report.statusOf r.report.failed r.report.total := rfl

theorem balanced_report (r : TopicReader) : r.report.Balanced :=
  Report.Balanced.foldl_add ⟨rfl, rfl, rfl⟩ r.config r.visits

theorem patterns_report {r : TopicReader} (hfit : ∀ v ∈ r.visits, ¬ v.IsObstacle) :
    List.Forall₂ (Visit.Writes r.config) (r.inClass .compiled) r.report.patterns := by
  rw [report_eq_record]
  refine forall₂_filter_filterMap ?_ ?_
  · intro v hv hclass
    exact Visit.pattern?_of_compiled (hfit v hv) (of_decide_eq_true hclass)
  · intro v hv hclass
    exact Visit.pattern?_of_not_compiled (hfit v hv) (of_decide_eq_false hclass)

theorem errors_report {r : TopicReader} (hfit : ∀ v ∈ r.visits, ¬ v.IsObstacle) :
    List.Forall₂ (Visit.Reports r.config) (r.inClass .failed) r.report.errors := by
  rw [report_eq_record]
  refine forall₂_filter_filterMap ?_ ?_
  · intro v hv hclass
    exact Visit.complaint?_of_failed (hfit v hv) (of_decide_eq_true hclass)
  · intro v hv hclass
    exact Visit.complaint?_of_not_failed (hfit v hv) (of_decide_eq_false hclass)

theorem skipped_report {r : TopicReader} (hfit : ∀ v ∈ r.visits, ¬ v.IsObstacle) :
    r.report.skipped = (r.inClass .skipped).length := by
  have hcount : r.report.skipped = r.visits.countP (Visit.isSkipped r.config) := by
    rw [report_eq_record]
    exact Nat.zero_add _
  rw [hcount, inClass, ← List.countP_eq_length_filter]
  refine List.countP_congr ?_
  intro v hv
  rw [Visit.isSkipped_iff (hfit v hv), decide_eq_true_iff]

end TopicReader

theorem Report.statusOf_iff {failed : Nat} {total : Int} (hle : failed ≤ total) :
    (statusOf failed total = .success ↔ failed = 0) ∧
    (statusOf failed total = .failed ↔ failed = total ∧ 0 < total) ∧
    (statusOf failed total = .partly ↔ failed ≠ 0 ∧ failed ≠ total) := by
  by_cases hzero : failed = 0
  · simp only [statusOf, if_pos hzero, reduceCtorEq, true_iff, false_iff]
    omega
  · by_cases hlt : (failed : Int) < total
    · simp only [statusOf, Int.ofNat_eq_natCast, if_neg hzero, if_pos hlt, reduceCtorEq, true_iff,
        false_iff]
      omega
    · simp only [statusOf, Int.ofNat_eq_natCast, if_neg hzero, if_neg hlt, reduceCtorEq, true_iff,
        false_iff]
      omega

namespace TopicReader

/-- **A report is an exact partition of the formulas.**  There is one unless some formula is
    an obstacle.  Then each formula is in exactly one class; the patterns are those of the
    compiled formulas and the errors those of the failed ones, both in the order of the
    visits; the counts say how many there are of each; and the status follows from how many
    failed. -/
theorem report_partitions_formulas (r : TopicReader) :
    ((∃ e, r.report? = .error e) ↔ ∃ v ∈ r.visits, v.IsObstacle) ∧
    ∀ rep, r.report? = .ok rep →
      (∀ v ∈ r.visits, ∃! c, v.BelongsTo r.config c) ∧
      List.Forall₂ (Visit.Writes r.config) (r.inClass .compiled) rep.patterns ∧
      List.Forall₂ (Visit.Reports r.config) (r.inClass .failed) rep.errors ∧
      rep.total = r.visits.length ∧
      rep.total = rep.compiled + rep.skipped + rep.failed ∧
      rep.compiled = rep.patterns.length ∧
      rep.skipped = (r.inClass .skipped).length ∧
      rep.failed = rep.errors.length ∧
      (rep.status = .success ↔ rep.failed = 0) ∧
      (rep.status = .failed ↔ rep.failed = rep.total ∧ 0 < rep.total) ∧
      (rep.status = .partly ↔ rep.failed ≠ 0 ∧ rep.failed ≠ rep.total) := by
  refine ⟨report?_error_iff, ?_⟩
  intro rep hrep
  obtain ⟨hfit, rfl⟩ := report?_ok_iff.mp hrep
  obtain ⟨htotal, hcompiled, hfailed⟩ := r.balanced_report
  have hvisits : r.report.total = r.visits.length := by
    rw [report_eq_record]
    exact Int.zero_add _
  have hle : (r.report.failed : Int) ≤ r.report.total := by omega
  exact ⟨fun v _ => v.exists_unique_class r.config, patterns_report hfit, errors_report hfit,
    hvisits, htotal, hcompiled, skipped_report hfit, hfailed, Report.statusOf_iff hle⟩

/-- An element of a topic set, in front of others. -/
def part (name : String) (content rest : Xml.Markup)
    (attributes : List (Xml.ExpandedName × String) := []) : Xml.Markup :=
  .element { localName := name, namespaceUri := some topicNamespace, attributes := attributes }
    content rest

def formulaPart (id : Option String) (math rest : Xml.Markup) : Xml.Markup :=
  part "formula" math rest (id.toList.map fun value => (⟨none, "id"⟩, value))

def oneTopic (formulas : Xml.Markup) : TopicReader where
  source :=
    { document :=
        { tag := { localName := "topics", namespaceUri := some topicNamespace }
          content :=
            part "topic" (part "num" (.text "1" .nil) (part "query" formulas .nil)) .nil } }
  config := { header := some "", footer := some "$x" }

def identifierMarkup : Xml.Markup :=
  .element { localName := "math" }
    (.element { localName := "semantics" } (.element { localName := "ci" } .nil .nil) .nil) .nil

/-- A formula of each class: one is compiled, one has no expression, one no identifier. -/
def mixedTopic : TopicReader :=
  oneTopic (formulaPart (some "e") identifierMarkup
    (formulaPart (some "f") (.element { localName := "math" } .nil .nil)
      (formulaPart none .nil .nil)))

theorem mixedTopic_partition :
    mixedTopic.report? = .ok mixedTopic.report ∧ mixedTopic.report.status = .partly ∧
    List.Forall₂ (Visit.Writes mixedTopic.config) (mixedTopic.inClass .compiled)
      [⟨"1", "e", "for $x in $m//*:ci\n\n\nreturn\n$x",
        ⟨{ localName := "math" }, .element { localName := "semantics" }
          (.element { localName := "ci" } .nil .nil) .nil⟩⟩] := by
  have hreport : mixedTopic.report? = .ok mixedTopic.report := by rfl
  obtain ⟨-, hpatterns, -, -, -, -, -, -, -, -, hpartly⟩ :=
    (report_partitions_formulas mixedTopic).2 _ hreport
  exact ⟨hreport, hpartly.mpr (by decide +kernel), hpatterns⟩

/-- A topic whose second formula has markup with an undeclared prefix. -/
def spoiledTopic (first : Xml.Markup → Xml.Markup) : TopicReader :=
  oneTopic (first (formulaPart (some "f") (.element { localName := "p:math" } .nil .nil) .nil))

/-- The first formula is compiled, but there is no report that has it. -/
theorem compiled_formula_without_report :
    (spoiledTopic (formulaPart (some "e") identifierMarkup)).inClass .compiled ≠ [] ∧
    (spoiledTopic (formulaPart (some "e") identifierMarkup)).report? =
      .error (.unfitName "p:math") := by
  constructor
  · decide +kernel
  · rfl

/-! ### What the status leaves open -/

theorem patterns_report_eq_nil_iff {r : TopicReader} (hfit : ∀ v ∈ r.visits, ¬ v.IsObstacle) :
    r.report.patterns = [] ↔ r.inClass .compiled = [] := by
  rw [← List.length_eq_zero_iff, ← (patterns_report hfit).length_eq, List.length_eq_zero_iff]

theorem errors_report_eq_nil_iff {r : TopicReader} (hfit : ∀ v ∈ r.visits, ¬ v.IsObstacle) :
    r.report.errors = [] ↔ r.inClass .failed = [] := by
  rw [← List.length_eq_zero_iff, ← (errors_report hfit).length_eq, List.length_eq_zero_iff]

theorem skipped_report_eq_zero_iff {r : TopicReader} (hfit : ∀ v ∈ r.visits, ¬ v.IsObstacle) :
    r.report.skipped = 0 ↔ r.inClass .skipped = [] := by
  rw [skipped_report hfit, List.length_eq_zero_iff]

/-- The status tells failures from the rest, and a skipped formula is part of the rest. -/
theorem status_report_eq_partly_iff (r : TopicReader) :
    r.report.status = .partly ↔
      r.report.errors ≠ [] ∧ (r.report.patterns ≠ [] ∨ r.report.skipped ≠ 0) := by
  obtain ⟨htotal, hcompiled, hfailed⟩ := r.balanced_report
  have hle : (r.report.failed : Int) ≤ r.report.total := by omega
  rw [status_report, (Report.statusOf_iff hle).2.2, ← List.length_pos_iff, ← List.length_pos_iff]
  omega

/-- **What a partial status tells.**  It is given exactly if some formulas fail and some do not,
    be they compiled or only skipped.  So it tells that some formulas are compiled for all
    topic sets but those where some formulas fail and all others are skipped. -/
theorem partial_status_tells {r : TopicReader} {rep : Report} (hrep : r.report? = .ok rep) :
    (rep.status = .partly ↔
      r.inClass .failed ≠ [] ∧ (r.inClass .compiled ≠ [] ∨ r.inClass .skipped ≠ [])) ∧
    ((rep.status = .partly → rep.errors ≠ [] ∧ rep.patterns ≠ []) ↔
      ¬ (r.inClass .failed ≠ [] ∧ r.inClass .compiled = [] ∧ r.inClass .skipped ≠ [])) := by
  obtain ⟨hfit, rfl⟩ := report?_ok_iff.mp hrep
  have hstatus := r.status_report_eq_partly_iff
  rw [Ne, Ne, Ne, errors_report_eq_nil_iff hfit, patterns_report_eq_nil_iff hfit,
    skipped_report_eq_zero_iff hfit] at hstatus
  refine ⟨hstatus, ?_⟩
  rw [hstatus, Ne, Ne, errors_report_eq_nil_iff hfit, patterns_report_eq_nil_iff hfit]
  constructor
  · rintro htells ⟨hfailed, hnone, hskipped⟩
    exact (htells ⟨hfailed, Or.inr hskipped⟩).2 hnone
  · rintro hnot ⟨hfailed, hothers⟩
    refine ⟨hfailed, fun hnone => hnot ⟨hfailed, hnone, ?_⟩⟩
    exact hothers.resolve_left fun hcompiled => hcompiled hnone

/-- A formula without identifier, and one without expression. -/
def fruitlessTopic : TopicReader :=
  oneTopic (formulaPart none .nil
    (formulaPart (some "f") (.element { localName := "math" } .nil .nil) .nil))

theorem fruitlessTopic_status :
    fruitlessTopic.report? = .ok fruitlessTopic.report ∧
    ¬ (fruitlessTopic.report.status = .partly →
      fruitlessTopic.report.errors ≠ [] ∧ fruitlessTopic.report.patterns ≠ []) := by
  have hreport : fruitlessTopic.report? = .ok fruitlessTopic.report := by rfl
  refine ⟨hreport, ?_⟩
  rw [(partial_status_tells hreport).2, not_not]
  decide +kernel

/-- The status says that others were compiled, but there is no pattern. -/
theorem partial_without_patterns :
    fruitlessTopic.report?.toOption.map (fun rep => (rep.status, rep.patterns)) =
      some (.partly, []) := rfl

end TopicReader

end FormulaQuery
