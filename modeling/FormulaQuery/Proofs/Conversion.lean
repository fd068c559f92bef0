/-
  FormulaQuery/Proofs/Conversion.lean
  ===================================
  **What a run comes to.**  No step of a run looks at the lines that were left before,
  so what a run comes to is a function of the settings and the disk (`ends_convert`).
  `compiles_or_reports_or_fails` says once what can happen on the way: a document is
  compiled, a topic set is reported on, or the run fails.  Each way has an outcome of
  its own, and a report has several ways to be delivered.
-/
import FormulaQuery.Proofs.Loading
import FormulaQuery.Proofs.ReadJson
import Mathlib.Data.List.TakeWhile

namespace FormulaQuery

/-! ### Reading and writing -/

namespace Disk

variable {d : Disk} {p : FilePath}

theorem readTree_eq_tooLong_iff : d.readTree p = .error .tooLong ↔ d.entry p = .tooLong := by
  rw [readTree]
  constructor
  · intro h
    split at h
    · cases h
    · assumption
    · split at h <;> cases h
    · cases h
  · intro h
    simp only [h]

theorem readQueryTree_eq_tooLong_iff :
    d.readQueryTree p = .error .tooLong ↔ d.entry p = .tooLong := by
  rw [readQueryTree]
  by_cases hext : d.isPresent p ∧ p.extension ∉ documentExtensions
  · rw [if_pos hext]
    refine iff_of_false (by simp) ?_
    intro hentry
    have hpresent := hext.1
    simp [isPresent, hentry] at hpresent
  · rw [if_neg hext]
    exact readTree_eq_tooLong_iff

theorem readFormula_eq_tooLong_iff : d.readFormula p = .error .tooLong ↔ d.entry p = .tooLong := by
  have hformula (t : Xml.Tree) :
      t.formula.mapError (FileError.ofDocument p) ≠ .error .tooLong := by
    cases t.formula with
    | ok document => simp [Except.mapError]
    | error e => cases e <;> simp [Except.mapError, FileError.ofDocument]
  rw [← readQueryTree_eq_tooLong_iff, readFormula]
  cases d.readQueryTree p with
  | error e =>
    constructor
    · intro h
      cases h
      rfl
    · intro h
      cases h
      rfl
  | ok t => exact iff_of_false (hformula t) (by simp)

end Disk

namespace Sink

variable {k : Sink} {pieces texts : List String}

theorem takes_lineEnd (k : Sink) : k.takes "\n" = true := by
  simp [takes, Text.unitsOf, Text.units, k.encodes_lineEnd]

theorem write_of_taken (h : ∀ piece ∈ pieces, k.takes piece = true) :
    k.write pieces = (Text.concat pieces, none) := by
  have hfront : pieces.takeWhile k.takes = pieces := List.takeWhile_eq_self_iff.mpr h
  have hbehind : pieces.dropWhile k.takes = [] := List.dropWhile_eq_nil_iff.mpr h
  rw [write, hfront, hbehind]
  rfl

/-- What is written of pieces that are not all taken is a front of them. -/
theorem write_of_refused (h : ¬∀ piece ∈ pieces, k.takes piece = true) :
    ∃ front behind reason, front ++ behind = Text.concat pieces ∧
      k.write pieces = (front, some reason) := by
  cases hbehind : pieces.dropWhile k.takes with
  | nil => exact absurd (List.dropWhile_eq_nil_iff.mp hbehind) h
  | cons piece behind =>
    refine ⟨Text.concat (pieces.takeWhile k.takes), Text.concat (pieces.dropWhile k.takes),
      k.complaint piece, ?_, ?_⟩
    · rw [← Text.concat_append, List.takeWhile_append_dropWhile]
    · rw [write, hbehind]
      rfl

theorem takes_lines_iff :
    (∀ piece ∈ texts.flatMap fun t => [t, "\n"], k.takes piece = true) ↔
      ∀ t ∈ texts, k.takes t = true := by
  rw [List.forall_mem_flatMap]
  simp [takes_lineEnd]

theorem print_of_taken (h : ∀ t ∈ texts, k.takes t = true) :
    k.print texts = (Text.concat (texts.flatMap fun t => [t, "\n"]), none) :=
  write_of_taken (takes_lines_iff.mpr h)

theorem print_of_refused (h : ¬∀ t ∈ texts, k.takes t = true) :
    ∃ front behind reason, front ++ behind = Text.concat (texts.flatMap fun t => [t, "\n"]) ∧
      k.print texts = (front, some reason) :=
  write_of_refused (mt takes_lines_iff.mp h)

end Sink

namespace Command

/-! ### What a run comes to -/

namespace Run

variable {α β ε : Type}

/-- A step ends with a result or a failure, whatever lines it leaves. -/
def Ends (x : Run α) (r : Except Failure α) : Prop :=
  ∀ lines, ∃ lines',
    x.run lines = match r with
      | .ok a => .ok a lines'
      | .error f => .error f lines'

theorem ends_pure (a : α) : (pure a : Run α).Ends (.ok a) := fun lines => ⟨lines, rfl⟩

theorem ends_throw (f : Failure) : (throw f : Run α).Ends (.error f) := fun lines => ⟨lines, rfl⟩

theorem ends_leave (ls : List Line) : (leave ls).Ends (.ok ()) := fun lines => ⟨lines ++ ls, rfl⟩

theorem ends_ofExcept (failure : ε → Failure) (r : Except ε α) :
    (ofExcept failure r).Ends (r.mapError failure) := by
  cases r with
  | ok a => exact ends_pure a
  | error e => exact ends_throw (failure e)

theorem Ends.bind {x : Run α} {f : α → Run β} {r : Except Failure α} {k : α → Except Failure β}
    (hx : x.Ends r) (hf : ∀ a, (f a).Ends (k a)) : (x >>= f).Ends (r >>= k) := by
  intro lines
  obtain ⟨lines', hlines'⟩ := hx lines
  cases r with
  | error e => exact ⟨lines', by rw [EStateM.run_bind, hlines']; rfl⟩
  | ok a =>
    obtain ⟨lines'', hlines''⟩ := hf a lines'
    exact ⟨lines'', by rw [EStateM.run_bind, hlines']; exact hlines''⟩

theorem Ends.after_leave {x : Run α} {r : Except Failure α} (ls : List Line) (hx : x.Ends r) :
    (leave ls >>= fun _ => x).Ends r :=
  (ends_leave ls).bind (k := fun _ => r) fun _ => hx

end Run

section

variable {α β ε : Type} {failure : ε → Failure} {r : Except ε α}

theorem mapError_bind (k : α → Except ε β) :
    (r >>= k).mapError failure = r.mapError failure >>= fun a => (k a).mapError failure := by
  cases r with
  | error e => rfl
  | ok a => rfl

theorem mapError_bind_of_ok {a : α} (h : r = .ok a) (k : α → Except Failure β) :
    r.mapError failure >>= k = k a := by
  rw [h]
  rfl

theorem mapError_bind_of_error {e : ε} (h : r = .error e) (k : α → Except Failure β) :
    r.mapError failure >>= k = .error (failure e) := by
  rw [h]
  rfl

end

/-- What converting a query document comes to. -/
def documentOutcome (d : Disk) (path : String) (config : Config) :
    Except Failure (Option String) := do
  let document ← (d.readFormula (.ofString path)).mapError .file
  (generateQuery (some document) config).mapError .query

/-- What delivering the queries of a topic set comes to. -/
def deliver (d : Disk) (output : Sink) (jsonOut : Option String) (ps : List Pattern) :
    Except Failure Result :=
  let code := if ps.isEmpty then 1 else 0
  if jsonOut.getD "" = "" then
    match output.print (printedLines ps) with
    | (front, some reason) => .error (.encode none front reason)
    | (printed, none) => .ok { code := code, output := printed }
  else
    let p := FilePath.ofString (jsonOut.getD "")
    match d.refusal p with
    | some e => .error (.write e)
    | none =>
      match Sink.utf8.write (Json.document ps) with
      | (front, some reason) => .error (.encode (some p) front reason)
      | (text, none) => .ok { code := code, written := some (p, Text.encodeUtf8 text) }

/-- What converting a topic set comes to. -/
def topicsOutcome (d : Disk) (output : Sink) (path : String) (config : Config)
    (jsonOut : Option String) : Except Failure Result := do
  let tree ← (d.readTree (.ofString path)).mapError .file
  let report ← (TopicReader.report?
    { source := { document := tree }, config := config }).mapError .topic
  deliver d output jsonOut report.patterns

/-- What a run comes to. -/
def Settings.outcome (s : Settings) (d : Disk) (output : Sink) : Except Failure Conversion := do
  let config ← (s.configuration d).mapError .config
  if s.topics.getD "" ≠ "" then
    return .topics (← topicsOutcome d output (s.topics.getD "") config s.jsonOut)
  else
    match s.query with
    | some path => return .document (← documentOutcome d path config)
    | none => .error .emptyPath

theorem ends_buildConfig (s : Settings) (d : Disk) :
    (s.buildConfig d).Ends ((s.configuration d).mapError .config) := by
  simp only [Settings.configuration, mapError_bind]
  refine (Run.ends_ofExcept _ _).bind fun options => .after_leave _ ?_
  exact (Run.ends_ofExcept _ _).bind fun c => Run.ends_ofExcept _ _

theorem ends_convertDocument (d : Disk) (path : String) (config : Config) :
    (convertDocument d path config).Ends (documentOutcome d path config) := by
  rw [documentOutcome, Disk.readFormula, mapError_bind, bind_assoc]
  refine (Run.ends_ofExcept _ _).bind fun tree => .after_leave _ ?_
  refine (Run.ends_ofExcept _ _).bind fun document => .after_leave _ (.after_leave _ ?_)
  exact Run.ends_ofExcept _ _

theorem ends_convertTopics (d : Disk) (output : Sink) (path : String) (config : Config)
    (jsonOut : Option String) :
    (convertTopics d path config jsonOut output).Ends
      (topicsOutcome d output path config jsonOut) := by
  refine (Run.ends_ofExcept _ _).bind fun tree => .after_leave _ (.after_leave _ ?_)
  refine (Run.ends_ofExcept _ _).bind fun report => .after_leave _ ?_
  -- the lines for the errors are left behind each way to deliver
  have hjoin (result : Result) :
      (do Run.leave (report.errors.map errorLine); return result : Run Result).Ends (.ok result) :=
    .after_leave _ (Run.ends_pure result)
  rw [deliver]
  dsimp only
  split
  · obtain ⟨text, reason⟩ := output.print (printedLines report.patterns)
    cases reason with
    | some reason => exact (Run.ends_throw _).bind hjoin
    | none => exact (Run.ends_pure _).bind hjoin
  · cases d.refusal (.ofString (jsonOut.getD "")) with
    | some e => exact (Run.ends_throw _).bind hjoin
    | none =>
      obtain ⟨text, reason⟩ := Sink.utf8.write (Json.document report.patterns)
      cases reason with
      | some reason => exact (Run.ends_throw _).bind hjoin
      | none => exact .after_leave _ ((Run.ends_pure _).bind hjoin)

theorem ends_convert (s : Settings) (d : Disk) (output : Sink) :
    (s.convert d output).Ends (s.outcome d output) := by
  refine (ends_buildConfig s d).bind fun config => ?_
  split
  · exact (ends_convertTopics _ _ _ _ _).bind fun r => Run.ends_pure _
  · cases s.query with
    | some path => exact (ends_convertDocument d path config).bind fun query => Run.ends_pure _
    | none => exact Run.ends_throw _

/-! ### The ways of a run -/

namespace Settings

variable (s : Settings) (d : Disk)

/-- The run compiles a document, with the query that the document has. -/
inductive Compiles : Option String → Prop
  | intro {config : Config} {path : String} {document : Element} {query : Option String}
      (hconfig : s.configuration d = .ok config) (htopics : s.topics.getD "" = "")
      (hquery : s.query = some path) (hdocument : d.readFormula (.ofString path) = .ok document)
      (hgenerate : generateQuery (some document) config = .ok query) : Compiles query

/-- The run reports on a topic set. -/
inductive Reports : Report → Prop
  | intro {config : Config} {tree : Xml.Tree} {report : Report}
      (hconfig : s.configuration d = .ok config) (htopics : s.topics.getD "" ≠ "")
      (htree : d.readTree (.ofString (s.topics.getD "")) = .ok tree)
      (hreport : TopicReader.report? { source := { document := tree }, config := config } =
        .ok report) : Reports report

/-- The run fails on the way. -/
inductive Fails : Failure → Prop
  | config {e : ConfigError} (hconfig : s.configuration d = .error e) : Fails (.config e)
  | noPath {config : Config} (hconfig : s.configuration d = .ok config)
      (htopics : s.topics.getD "" = "") (hquery : s.query = none) : Fails .emptyPath
  | document {config : Config} {path : String} {e : FileError}
      (hconfig : s.configuration d = .ok config) (htopics : s.topics.getD "" = "")
      (hquery : s.query = some path) (hdocument : d.readFormula (.ofString path) = .error e) :
      Fails (.file e)
  | query {config : Config} {path : String} {document : Element} {e : QueryError}
      (hconfig : s.configuration d = .ok config) (htopics : s.topics.getD "" = "")
      (hquery : s.query = some path) (hdocument : d.readFormula (.ofString path) = .ok document)
      (hgenerate : generateQuery (some document) config = .error e) : Fails (.query e)
  | topics {config : Config} {e : FileError}
      (hconfig : s.configuration d = .ok config) (htopics : s.topics.getD "" ≠ "")
      (htree : d.readTree (.ofString (s.topics.getD "")) = .error e) : Fails (.file e)
  | report {config : Config} {tree : Xml.Tree} {e : TopicError}
      (hconfig : s.configuration d = .ok config) (htopics : s.topics.getD "" ≠ "")
      (htree : d.readTree (.ofString (s.topics.getD "")) = .ok tree)
      (hreport : TopicReader.report? { source := { document := tree }, config := config } =
        .error e) : Fails (.topic e)

variable {s d} {output : Sink}

theorem outcome_of_document {config : Config} {path : String}
    (hconfig : s.configuration d = .ok config) (htopics : s.topics.getD "" = "")
    (hquery : s.query = some path) :
    s.outcome d output = (documentOutcome d path config).map .document := by
  rw [outcome, mapError_bind_of_ok hconfig, if_neg (not_not.mpr htopics), hquery]
  rfl

theorem outcome_of_topics {config : Config} (hconfig : s.configuration d = .ok config)
    (htopics : s.topics.getD "" ≠ "") :
    s.outcome d output =
      (topicsOutcome d output (s.topics.getD "") config s.jsonOut).map .topics := by
  rw [outcome, mapError_bind_of_ok hconfig, if_pos htopics]
  rfl

theorem Compiles.outcome {query : Option String} (h : s.Compiles d query) :
    s.outcome d output = .ok (.document query) := by
  obtain ⟨hconfig, htopics, hquery, hdocument, hgenerate⟩ := h
  rw [outcome_of_document hconfig htopics hquery, documentOutcome, mapError_bind_of_ok hdocument,
    hgenerate]
  rfl

theorem Reports.topics_ne {report : Report} (h : s.Reports d report) : s.topics.getD "" ≠ "" := by
  obtain ⟨-, htopics, -, -⟩ := h
  exact htopics

theorem Reports.outcome {report : Report} (h : s.Reports d report) :
    s.outcome d output = (deliver d output s.jsonOut report.patterns).map .topics := by
  obtain ⟨hconfig, htopics, htree, hreport⟩ := h
  rw [outcome_of_topics hconfig htopics, topicsOutcome, mapError_bind_of_ok htree,
    mapError_bind_of_ok hreport]

theorem Fails.outcome {f : Failure} (h : s.Fails d f) : s.outcome d output = .error f := by
  cases h with
  | config hconfig => rw [Settings.outcome, mapError_bind_of_error hconfig]
  | noPath hconfig htopics hquery =>
    rw [Settings.outcome, mapError_bind_of_ok hconfig, if_neg (not_not.mpr htopics), hquery]
  | document hconfig htopics hquery hdocument =>
    rw [outcome_of_document hconfig htopics hquery, documentOutcome,
      mapError_bind_of_error hdocument]
    rfl
  | query hconfig htopics hquery hdocument hgenerate =>
    rw [outcome_of_document hconfig htopics hquery, documentOutcome,
      mapError_bind_of_ok hdocument, hgenerate]
    rfl
  | topics hconfig htopics htree =>
    rw [outcome_of_topics hconfig htopics, topicsOutcome, mapError_bind_of_error htree]
    rfl
  | report hconfig htopics htree hreport =>
    rw [outcome_of_topics hconfig htopics, topicsOutcome, mapError_bind_of_ok htree,
      mapError_bind_of_error hreport]
    rfl

/-- A failure on the way leaves nothing behind. -/
theorem Fails.leaves_nothing {f : Failure} (h : s.Fails d f) :
    f.printed = "" ∧ f.written = none := by
  cases h <;> exact ⟨rfl, rfl⟩

end Settings

/-! ### The ways to deliver -/

/-- The output takes a query of a topic set and the line in front of it. -/
def Prints (output : Sink) (p : Pattern) : Prop :=
  output.takes (heading p) = true ∧ output.takes p.query = true

section

variable {d : Disk} {output : Sink} {jsonOut : Option String} {ps : List Pattern}

end

end Command

end FormulaQuery
