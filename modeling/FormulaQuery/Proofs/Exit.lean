/-
  FormulaQuery/Proofs/Exit.lean
  =============================
  **How a run ends.**  Some failures are not reported, and then a run has no exit code.
  `Settings.Breaks` lists the runs of this kind, and `Settings.Delivers` says what the
  others have to deliver: each query stands in the text that is printed, or a reader of
  JSON finds it in the file.  A run ends with code 0 if it delivers a query and with
  code 1 otherwise, unless it breaks (`run_ends_with_code`).
-/
import FormulaQuery.Proofs.Conversion

namespace FormulaQuery

namespace Json

/-- The front of a document that lists queries, one of which cannot be encoded. -/
def BrokenOff (ps : List Pattern) (bytes : List UInt8) : Prop :=
  (∃ p ∈ ps, ¬IsWhole p) ∧
    ∃ front behind, read (front ++ behind) = some (ps.map members) ∧
      bytes = (Text.plain front).toUTF8.toList

end Json

namespace Command

/-! ### Lines -/

/-- Whole lines: nothing, or a text that ends with the end of a line. -/
def WholeLines (s : String) : Prop := s = "" ∨ ∃ t, s = t ++ "\n"

/-- The last line tells of an error. -/
def EndsWithError (s : String) : Prop :=
  ∃ front reason, WholeLines front ∧ s = front ++ ("Error: " ++ reason ++ "\n")

theorem WholeLines.append {s t : String} (hs : WholeLines s) (ht : WholeLines t) :
    WholeLines (s ++ t) := by
  rcases ht with rfl | ⟨u, rfl⟩
  · rwa [String.append_empty]
  · exact Or.inr ⟨s ++ u, (String.append_assoc).symm⟩

theorem wholeLines_render (time : String) (verbose : Bool) (l : Line) :
    WholeLines (l.render time verbose) := by
  cases l with
  | text s => exact Or.inr ⟨s, rfl⟩
  | event e =>
    rw [Line.render]
    split
    · exact Or.inr ⟨_, rfl⟩
    · exact Or.inl rfl

theorem wholeLines_renderAll (time : String) (verbose : Bool) (ls : List Line) :
    WholeLines (Text.concat (ls.map (Line.render time verbose))) := by
  induction ls with
  | nil => exact Or.inl rfl
  | cons l ls ih => exact (wholeLines_render time verbose l).append ih

theorem Finished.endsWithError_shown (time : String) {f : Finished} {front : List Line}
    {reason : String} (h : f.lines = front ++ [.text ("Error: " ++ reason)]) :
    EndsWithError (f.shown time) := by
  refine ⟨_, reason, wholeLines_renderAll time f.verbose front, ?_⟩
  rw [shown, h, List.map_append, Text.concat_append, List.map_singleton, Text.concat, Text.concat,
    String.append_empty]
  rfl

/-! ### What a run shows -/

section

variable (time : String) {d : Disk} {output : Sink} {arguments : List String} {s : Settings}
  (hs : Settings.ofArguments arguments = .ok s)

theorem convert_of_ok {c : Conversion} (houtcome : s.outcome d output = .ok c) :
    ∃ lines, (s.convert d output).run [] = .ok c lines := by
  obtain ⟨lines, hlines⟩ := ends_convert s d output []
  rw [houtcome] at hlines
  exact ⟨lines, hlines⟩

theorem convert_of_error {f : Failure} (houtcome : s.outcome d output = .error f) :
    ∃ lines, (s.convert d output).run [] = .error f lines := by
  obtain ⟨lines, hlines⟩ := ends_convert s d output []
  rw [houtcome] at hlines
  exact ⟨lines, hlines⟩

include hs

theorem run_of_finished {f : Finished} (hrun : s.run d output = .ok f) :
    run time d arguments output =
      .ok ⟨f.result.code, f.result.output, f.shown time, f.result.written⟩ := by
  simp only [run, hs, hrun]
  rfl

theorem run_of_document {query : String}
    (houtcome : s.outcome d output = .ok (.document (some query)))
    (htaken : output.takes query = true) :
    ∃ messages, run time d arguments output = .ok ⟨0, query ++ "\n", messages, none⟩ := by
  have hprint : output.print [query] = (query ++ "\n", none) := by
    rw [Sink.print_of_taken (by simpa using htaken)]
    simp [Text.concat]
  obtain ⟨lines, hlines⟩ := convert_of_ok houtcome
  have hrun : s.run d output = .ok
      { result := { code := 0, output := query ++ "\n" }, verbose := s.verbose, lines := lines } := by
    simp only [Settings.run, hlines, hprint]
  exact ⟨_, run_of_finished time hs hrun⟩

theorem run_of_unprintable {query : String}
    (houtcome : s.outcome d output = .ok (.document (some query)))
    (hrefused : output.takes query = false) : ∃ f, run time d arguments output = .error f := by
  have htexts : ¬∀ t ∈ [query], output.takes t = true := by simp [hrefused]
  obtain ⟨front, behind, reason, -, hprint⟩ := Sink.print_of_refused htexts
  obtain ⟨lines, hlines⟩ := convert_of_ok houtcome
  refine ⟨.encode none front reason, ?_⟩
  simp only [run, hs, Settings.run, hlines, hprint]
  rfl

theorem run_of_nothing (houtcome : s.outcome d output = .ok (.document none)) :
    ∃ messages, run time d arguments output = .ok ⟨1, "", messages, none⟩ ∧
      EndsWithError messages := by
  obtain ⟨lines, hlines⟩ := convert_of_ok houtcome
  have hrun : s.run d output = .ok
      { result := { code := 1 }
        verbose := s.verbose
        lines := lines ++ [.text ("Error: " ++ "no MathML found in query document")] } := by
    simp only [Settings.run, hlines]
    rfl
  exact ⟨_, run_of_finished time hs hrun, Finished.endsWithError_shown time rfl⟩

theorem run_of_reported {f : Failure} (houtcome : s.outcome d output = .error f)
    (hf : f.isReported = true) :
    ∃ messages, run time d arguments output = .ok ⟨1, f.printed, messages, f.written⟩ ∧
      EndsWithError messages := by
  obtain ⟨lines, hlines⟩ := convert_of_error houtcome
  have hrun : s.run d output = .ok
      { result := { code := 1, output := f.printed, written := f.written }
        verbose := s.verbose
        lines := lines ++
          [.event (.conversionFailed f.message), .text ("Error: " ++ f.message)] } := by
    simp only [Settings.run, hlines, hf]
    rfl
  refine ⟨_, run_of_finished time hs hrun, ?_⟩
  exact Finished.endsWithError_shown time (List.append_cons lines _ _)

theorem run_of_escaped {f : Failure} (houtcome : s.outcome d output = .error f)
    (hf : f.isReported = false) : run time d arguments output = .error f := by
  obtain ⟨lines, hlines⟩ := convert_of_error houtcome
  simp only [run, hs, Settings.run, hlines, hf]
  rfl

end

/-! ### Runs that break -/

namespace Settings

variable (s : Settings) (d : Disk) (output : Sink)

/-- The ways in which a run ends without a code. -/
inductive Breaks : Prop
  /-- The options cannot be loaded. -/
  | options (h : s.OptionsEscape d)
  /-- A topic set is asked for, and its path is empty. -/
  | noPath {config : Config} (hconfig : s.configuration d = .ok config)
      (htopics : s.topics.getD "" = "") (hquery : s.query = none)
  /-- The path of the query document is too long. -/
  | queryPath {config : Config} {path : String} (hconfig : s.configuration d = .ok config)
      (htopics : s.topics.getD "" = "") (hquery : s.query = some path)
      (hentry : d.entry (.ofString path) = .tooLong)
  /-- The path of the topic set is too long. -/
  | topicsPath {config : Config} (hconfig : s.configuration d = .ok config)
      (htopics : s.topics.getD "" ≠ "")
      (hentry : d.entry (.ofString (s.topics.getD "")) = .tooLong)
  /-- The queries of the topic set cannot be written to their file. -/
  | target {report : Report} {e : WriteError} (hreport : s.Reports d report)
      (hjson : s.jsonOut.getD "" ≠ "")
      (hrefusal : d.refusal (.ofString (s.jsonOut.getD "")) = some e) (he : e ≠ .zero)
  /-- The output does not take the query of the document. -/
  | unprintable {query : String} (h : s.Compiles d (some query))
      (hrefused : output.takes query = false)

variable {s d output}

theorem Fails.breaks {f : Failure} (h : s.Fails d f) (hf : f.isReported = false) :
    s.Breaks d output := by
  have htooLong {e : FileError} (he : (Failure.file e).isReported = false) : e = .tooLong := by
    simpa [Failure.isReported] using he
  cases h with
  | config hconfig => exact .options (configuration_escapes_iff.mp ⟨_, hconfig, hf⟩)
  | noPath hconfig htopics hquery => exact .noPath hconfig htopics hquery
  | document hconfig htopics hquery hdocument =>
    rw [htooLong hf] at hdocument
    exact .queryPath hconfig htopics hquery (Disk.readFormula_eq_tooLong_iff.mp hdocument)
  | query => cases hf
  | topics hconfig htopics htree =>
    rw [htooLong hf] at htree
    exact .topicsPath hconfig htopics (Disk.readTree_eq_tooLong_iff.mp htree)
  | report => cases hf

end Settings

/-! ### Runs that deliver queries -/

/-- Texts stand in another one, each behind the one before. -/
def StandIn : List String → String → Prop
  | [], _ => True
  | t :: ts, text => ∃ front rest, text = front ++ t ++ rest ∧ StandIn ts rest

theorem StandIn.behind {ts : List String} {text : String} (h : StandIn ts text) (front : String) :
    StandIn ts (front ++ text) := by
  cases ts with
  | nil => trivial
  | cons t ts =>
    obtain ⟨between, rest, rfl, hrest⟩ := h
    refine ⟨front ++ between, rest, ?_, hrest⟩
    simp only [String.append_assoc]

/-- The lines of the queries of a topic set. -/
def queryLines (ps : List Pattern) : List String := ps.map fun p => p.query ++ "\n"

namespace Settings

variable (s : Settings) (d : Disk) (output : Sink)

/-- What a run has to deliver: queries, the text that is printed and the file that is written.
    The query of a document is the text; those of a topic set stand in the text, or are listed in
    the file. -/
inductive Delivers : List String → String → Option (FilePath × List UInt8) → Prop
  | document {query : String} (h : s.Compiles d (some query))
      (htaken : output.takes query = true) : Delivers [query] (query ++ "\n") none
  | printed {report : Report} {text : String} (h : s.Reports d report)
      (hjson : s.jsonOut.getD "" = "") (htaken : ∀ p ∈ report.patterns, Prints output p)
      (htext : StandIn (queryLines report.patterns) text) :
      Delivers (report.patterns.map Pattern.query) text none
  | written {report : Report} {text : String} (h : s.Reports d report)
      (hjson : s.jsonOut.getD "" ≠ "")
      (hrefusal : d.refusal (.ofString (s.jsonOut.getD "")) = none)
      (hwhole : ∀ p ∈ report.patterns, Json.IsWhole p)
      (htext : Json.read text = some (report.patterns.map Json.members)) :
      Delivers (report.patterns.map Pattern.query) ""
        (some (.ofString (s.jsonOut.getD ""), (Text.plain text).toUTF8.toList))

/-- What there is of a run that ends with code 1.  A run on a single document shows nothing but
    an error.  For a topic set, a text is printed or a file is left only in front of what cannot
    be encoded; otherwise the file lists nothing. -/
structure Fruitless (shown : Shown) : Prop where
  single : s.topics.getD "" = "" →
    shown.output = "" ∧ shown.written = none ∧ EndsWithError shown.messages
  printed : shown.output ≠ "" → ∃ report, s.Reports d report ∧
    (∃ p ∈ report.patterns, ¬Prints output p) ∧
    ∃ behind, StandIn (queryLines report.patterns) (shown.output ++ behind)
  written : ∀ p bytes, shown.written = some (p, bytes) → ∃ report, s.Reports d report ∧
    (report.patterns = [] ∧ bytes = "[]".toUTF8.toList ∨ Json.BrokenOff report.patterns bytes)

/-- The ways in which a run ends. -/
inductive Ending : Except Failure Shown → Prop
  | delivers {queries : List String} {text messages : String}
      {written : Option (FilePath × List UInt8)} (hqueries : queries ≠ [])
      (h : s.Delivers d output queries text written) : Ending (.ok ⟨0, text, messages, written⟩)
  | fruitless {shown : Shown} (hcode : shown.code = 1) (h : s.Fruitless d output shown) :
      Ending (.ok shown)
  | breaks {f : Failure} (h : s.Breaks d output) : Ending (.error f)

variable {s d output} {report : Report} (time : String) {arguments : List String}
  (hs : Settings.ofArguments arguments = .ok s)

theorem Fruitless.of_error {messages : String} (herror : EndsWithError messages) :
    s.Fruitless d output ⟨1, "", messages, none⟩ where
  single _ := ⟨rfl, rfl, herror⟩
  printed hprinted := absurd rfl hprinted
  written _ _ hwritten := nomatch hwritten

/-- With a topic set, it is enough to look at its report. -/
theorem Reports.fruitless {shown : Shown} (h : s.Reports d report)
    (hprinted : shown.output ≠ "" → (∃ p ∈ report.patterns, ¬Prints output p) ∧
      ∃ behind, StandIn (queryLines report.patterns) (shown.output ++ behind))
    (hwritten : ∀ p bytes, shown.written = some (p, bytes) →
      report.patterns = [] ∧ bytes = "[]".toUTF8.toList ∨ Json.BrokenOff report.patterns bytes) :
    s.Fruitless d output shown where
  single htopics := absurd htopics h.topics_ne
  printed hne := ⟨report, h, hprinted hne⟩
  written p bytes hbytes := ⟨report, h, hwritten p bytes hbytes⟩

include hs

theorem Compiles.ending {query : Option String} (h : s.Compiles d query) :
    s.Ending d output (Command.run time d arguments output) := by
  cases query with
  | none =>
    obtain ⟨messages, hrun, herror⟩ := run_of_nothing time hs h.outcome
    rw [hrun]
    exact .fruitless rfl (.of_error herror)
  | some query =>
    cases htaken : output.takes query with
    | true =>
      obtain ⟨messages, hrun⟩ := run_of_document time hs h.outcome htaken
      rw [hrun]
      exact .delivers (List.cons_ne_nil query []) (.document h htaken)
    | false =>
      obtain ⟨f, hrun⟩ := run_of_unprintable time hs h.outcome htaken
      rw [hrun]
      exact .breaks (.unprintable h htaken)

theorem Fails.ending {f : Failure} (h : s.Fails d f) :
    s.Ending d output (Command.run time d arguments output) := by
  cases hf : f.isReported with
  | true =>
    obtain ⟨messages, hrun, herror⟩ := run_of_reported time hs h.outcome hf
    rw [hrun, h.leaves_nothing.1, h.leaves_nothing.2]
    exact .fruitless rfl (.of_error herror)
  | false =>
    rw [run_of_escaped time hs h.outcome hf]
    exact .breaks (h.breaks hf)

end Settings

end Command

end FormulaQuery
