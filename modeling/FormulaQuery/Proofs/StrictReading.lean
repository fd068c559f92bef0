/-
  FormulaQuery/Proofs/StrictReading.lean
  ======================================
  **Strict reading of a topic set.**  Strict reading goes through topics and
  formulas with a loop of its own and ends at the first failure.  It is the
  search for the first failure among the same visits that a report goes through
  (`topicPatterns_eq_strictly`), so the two agree
  (`strict_reading_agrees_with_report`).

  There are two places where they could part.  A topic without number fails in
  strict reading even if it has no formula, and is then not visited by a report.
  And an obstacle behind the first failure ends the report, but is never met by
  strict reading.
-/
import FormulaQuery.Proofs.Report

namespace FormulaQuery

/-- The patterns of some visits, or the first failure among them. -/
def strictly (config : Config) (vs : List Visit) : Except TopicError (List Pattern) :=
  match vs.findSome? (Visit.failure? config) with
  | some e => .error e
  | none => .ok (vs.filterMap (Visit.pattern? config))

theorem strictly_cons (config : Config) (v : Visit) (vs : List Visit) :
    strictly config (v :: vs) = do
      let p ← v.compile config
      return p.toList ++ (← strictly config vs) := by
  cases hcompile : v.compile config with
  | error e =>
    simp only [strictly, List.findSome?_cons, Visit.failure?, hcompile]
    rfl
  | ok p =>
    have hfailure : v.failure? config = none := by rw [Visit.failure?, hcompile]
    have hpattern : (v :: vs).filterMap (Visit.pattern? config) =
        p.toList ++ vs.filterMap (Visit.pattern? config) := by
      cases p <;> simp [Visit.pattern?, hcompile]
    rw [strictly, strictly, List.findSome?_cons, hfailure, hpattern]
    cases vs.findSome? (Visit.failure? config) with
    | none => rfl
    | some e => rfl

theorem strictly_append (config : Config) (vs ws : List Visit) :
    strictly config (vs ++ ws) = do
      let ps ← strictly config vs
      return ps ++ (← strictly config ws) := by
  rw [strictly, strictly, strictly, List.findSome?_append, List.filterMap_append]
  cases vs.findSome? (Visit.failure? config) with
  | some e => rfl
  | none =>
    cases ws.findSome? (Visit.failure? config) with
    | some e => rfl
    | none => rfl

namespace TopicReader

theorem formulaPatterns_eq_strictly (config : Config) (num : String) (fs : List Formula) :
    formulaPatterns config num fs = strictly config (fs.map (Visit.mk (some num))) := by
  induction fs with
  | nil => rfl
  | cons f fs ih => rw [formulaPatterns, ih, List.map_cons, strictly_cons, Visit.compile]

/-- **Strict reading ends at the first failure among the visits**, if a topic without number
    is visited at all. -/
theorem topicPatterns_eq_strictly (config : Config) {ts : List Topic}
    (hvisited : ∀ t ∈ ts, t.num = none → t.formulas ≠ []) :
    topicPatterns config ts = strictly config (ts.flatMap Topic.visits) := by
  induction ts with
  | nil => rfl
  | cons t ts ih =>
    rw [List.forall_mem_cons] at hvisited
    obtain ⟨num, formulas⟩ := t
    rw [List.flatMap_cons, topicPatterns, ih hvisited.2]
    cases num with
    | some num =>
      simp only [strictly_append, formulaPatterns_eq_strictly]
      rfl
    | none =>
      -- the first formula of the topic fails for the number of the topic
      cases formulas with
      | nil => exact absurd rfl (hvisited.1 rfl)
      | cons f fs =>
        rw [Topic.visits, List.map_cons, List.cons_append, strictly_cons]
        rfl

theorem topicPatterns_of_missing_num (config : Config) {ts : List Topic}
    (hmissing : ∃ t ∈ ts, t.num = none) : ∃ e, topicPatterns config ts = .error e := by
  induction ts with
  | nil => simp at hmissing
  | cons t ts ih =>
    obtain ⟨num, formulas⟩ := t
    cases num with
    | none => exact ⟨_, rfl⟩
    | some num =>
      have hrest : ∃ t ∈ ts, t.num = none := by simpa using hmissing
      obtain ⟨e, he⟩ := ih hrest
      cases hformulas : formulaPatterns config num formulas with
      | error e' => exact ⟨e', by simp only [topicPatterns, hformulas]; rfl⟩
      | ok ps => exact ⟨e, by simp only [topicPatterns, hformulas, he]; rfl⟩

theorem patterns_eq_strictly {r : TopicReader}
    (hvisited : ∀ t ∈ r.topics, t.num = none → t.formulas ≠ []) :
    r.patterns = strictly r.config r.visits :=
  topicPatterns_eq_strictly r.config hvisited

theorem errors_eq_complaints (r : TopicReader) :
    r.report.errors = r.visits.filterMap (Visit.complaint? r.config) := by
  rw [report_eq_record]
  rfl

theorem head?_errors_message (r : TopicReader) :
    r.report.errors.head?.map FormulaError.message =
      (r.visits.findSome? (Visit.failure? r.config)).map TopicError.message := by
  rw [errors_eq_complaints, List.head?_filterMap, List.map_findSome?, List.map_findSome?]
  congr 1
  funext v
  simp only [Function.comp_apply, Visit.complaint?, Option.map_map]
  rfl

theorem errors_eq_nil_iff (r : TopicReader) :
    r.report.errors = [] ↔ r.visits.findSome? (Visit.failure? r.config) = none := by
  simp only [errors_eq_complaints, List.filterMap_eq_nil_iff, Visit.complaint?,
    Option.map_eq_none_iff, List.findSome?_eq_none_iff]

theorem patterns_ok_iff {r : TopicReader} {ps : List Pattern} :
    r.patterns = .ok ps ↔
      (∀ t ∈ r.topics, t.num ≠ none) ∧ r.report.errors = [] ∧ r.report.patterns = ps := by
  have hrecorded : r.report.patterns = r.visits.filterMap (Visit.pattern? r.config) := by
    rw [report_eq_record]
    rfl
  by_cases hmissing : ∃ t ∈ r.topics, t.num = none
  · obtain ⟨e, he⟩ := topicPatterns_of_missing_num r.config hmissing
    constructor
    · intro h
      rw [patterns, he] at h
      cases h
    · rintro ⟨hall, -⟩
      obtain ⟨t, ht, hnum⟩ := hmissing
      exact absurd hnum (hall t ht)
  · have hall : ∀ t ∈ r.topics, t.num ≠ none := fun t ht hnum => hmissing ⟨t, ht, hnum⟩
    rw [patterns_eq_strictly fun t ht hnum => absurd hnum (hall t ht), errors_eq_nil_iff, hrecorded,
      strictly]
    cases r.visits.findSome? (Visit.failure? r.config) with
    | none =>
      constructor
      · intro h
        exact ⟨hall, rfl, Except.ok.inj h⟩
      · rintro ⟨-, -, rfl⟩
        rfl
    | some e => simp

/-- What fails in a strict reading is an error of the report, if there is one. -/
theorem errors_ne_nil_iff (r : TopicReader) :
    r.report.errors ≠ [] ↔
      (∃ e, r.report? = .error e) ∨ ∃ rep, r.report? = .ok rep ∧ rep.errors ≠ [] := by
  cases hreport : r.report? with
  | ok rep =>
    obtain ⟨-, rfl⟩ := report?_ok_iff.mp hreport
    simp
  | error e =>
    obtain ⟨v, hv, hobstacle⟩ := report?_error_iff.mp ⟨e, hreport⟩
    obtain ⟨name, hcompile⟩ := Visit.compile_of_obstacle r.config hobstacle
    have hfailure : v.failure? r.config = some (.unfitName name) := by rw [Visit.failure?, hcompile]
    -- an obstacle is an error of the fold as well; it is `report?` that refuses the result
    have hne : r.report.errors ≠ [] := by
      rw [Ne, errors_eq_nil_iff, List.findSome?_eq_none_iff]
      intro hall
      rw [hall v hv] at hfailure
      cases hfailure
    simp [hne]

/-- **Strict reading and report agree.**  Strict reading fails exactly if some topic has no
    number, or there is no report, or the report has an error.  If strict reading succeeds,
    there is a report without errors that says so and has the same patterns.  And if every
    topic without number has a formula, strict reading fails for the reason that the first
    error of the report gives. -/
theorem strict_reading_agrees_with_report (r : TopicReader) :
    ((∃ e, r.patterns = .error e) ↔
      (∃ t ∈ r.topics, t.num = none) ∨ (∃ e, r.report? = .error e) ∨
        ∃ rep, r.report? = .ok rep ∧ rep.errors ≠ []) ∧
    (∀ ps, r.patterns = .ok ps →
      ∃ rep, r.report? = .ok rep ∧ rep.errors = [] ∧ rep.status = .success ∧ rep.patterns = ps) ∧
    ((∀ t ∈ r.topics, t.num = none → t.formulas ≠ []) →
      ∀ e rep, r.patterns = .error e → r.report? = .ok rep →
        rep.errors.head?.map FormulaError.message = some e.message) := by
  refine ⟨?_, ?_, ?_⟩
  · rw [← errors_ne_nil_iff]
    have hok := @patterns_ok_iff r
    cases hpatterns : r.patterns with
    | ok ps =>
      obtain ⟨hall, hnil, -⟩ := hok.mp hpatterns
      simpa [hnil] using hall
    | error e =>
      simp only [Except.error.injEq, exists_eq', true_iff]
      by_contra hnot
      obtain ⟨hnums, herrors⟩ := not_or.mp hnot
      have hsuccess := hok.mpr ⟨fun t ht hnum => hnums ⟨t, ht, hnum⟩, not_not.mp herrors, rfl⟩
      rw [hpatterns] at hsuccess
      cases hsuccess
  · intro ps hps
    obtain ⟨-, hnil, hpatterns⟩ := patterns_ok_iff.mp hps
    have hreport : r.report? = .ok r.report := by
      cases hreport : r.report? with
      | ok rep => rw [(report?_ok_iff.mp hreport).2]
      | error e => exact absurd hnil (r.errors_ne_nil_iff.mpr (Or.inl ⟨e, hreport⟩))
    refine ⟨r.report, hreport, hnil, ?_, hpatterns⟩
    rw [status_report, Report.statusOf, r.balanced_report.2.2, hnil]
    rfl
  · intro hvisited e rep hpatterns hreport
    obtain ⟨-, rfl⟩ := report?_ok_iff.mp hreport
    rw [patterns_eq_strictly hvisited, strictly] at hpatterns
    rw [head?_errors_message]
    cases hfirst : r.visits.findSome? (Visit.failure? r.config) with
    | none =>
      rw [hfirst] at hpatterns
      cases hpatterns
    | some e' =>
      rw [hfirst] at hpatterns
      cases hpatterns
      rfl

theorem mixedTopic_agrees :
    mixedTopic.patterns = .error (.missingId "1") ∧
    mixedTopic.report? = .ok mixedTopic.report ∧
    mixedTopic.report.errors.head?.map FormulaError.message =
      some "Formula without id in topic 1" := by
  have hpatterns : mixedTopic.patterns = .error (.missingId "1") := by rfl
  have hreport : mixedTopic.report? = .ok mixedTopic.report := by rfl
  have hvisited : ∀ t ∈ mixedTopic.topics, t.num = none → t.formulas ≠ [] := by decide +kernel
  exact ⟨hpatterns, hreport,
    (strict_reading_agrees_with_report mixedTopic).2.2 hvisited _ _ hpatterns hreport⟩

/-- Strict reading fails at the first formula, but there is no report that says so: the
    second formula ended it, for another reason. -/
theorem failure_without_report :
    (spoiledTopic (formulaPart none .nil)).patterns = .error (.missingId "1") ∧
    (spoiledTopic (formulaPart none .nil)).report? = .error (.unfitName "p:math") :=
  ⟨rfl, rfl⟩

end TopicReader

end FormulaQuery
