/-
  FormulaQuery/Proofs/Overrides.lean
  ==================================
  **Options on the command line.**  A run reads a set of options, builds a configuration
  from it, and then assigns the options that the command line gives, one after the
  other.  `overrides_edit_option_set` says that this comes to the same as putting the
  options into the set first and building the configuration once, and more generally
  that building and assigning agree on every mapping of options to values: on whether
  the values are taken, on what they give, and on which of them are refused.
-/
import FormulaQuery.Proofs.Assignment
import FormulaQuery.Proofs.Conversion
import FormulaQuery.Proofs.Dialects
import Mathlib.Data.List.Nodup

namespace FormulaQuery

namespace Config

variable {entries order : List (Field × Value)} {c : Config}

/-! ### Sets of options -/

/-- The values of options, as a set of options has them. -/
def optionSet (entries : List (Field × Value)) : List (Value × Value) :=
  entries.map fun e => (.text e.1.name, e.2)

/-- A set of options with a value in place of the one under a name. -/
def put (name : String) (v : Value) (options : List (Value × Value)) : List (Value × Value) :=
  options.filter (fun o => !o.1.equals (.text name)) ++ [(.text name, v)]

def putGiven (name : String) (given : Option Value) (options : List (Value × Value)) :
    List (Value × Value) :=
  match given with
  | some v => put name v options
  | none => options

theorem put_optionSet (f : Field) (v : Value) (entries : List (Field × Value)) :
    put f.name v (optionSet entries) = optionSet (entries.filter (·.1 ≠ f) ++ [(f, v)]) := by
  have hkept (e : Field × Value) :
      (!(Value.text e.1.name).equals (.text f.name)) = decide (e.1 ≠ f) := by
    rw [Bool.eq_iff_iff, decide_eq_true_iff]
    simp [Value.equals, name_injective.eq_iff]
  rw [put, optionSet, optionSet, List.map_append, List.filter_map]
  congr 3
  funext e
  exact hkept e

/-- Values that are put in place one after the other are there in the end, if no two of them are
    for one option. -/
theorem foldl_put_optionSet {overrides : List (Field × Value)}
    (hnodup : (overrides.map Prod.fst).Nodup) (entries : List (Field × Value)) :
    overrides.foldl (fun options o => put o.1.name o.2 options) (optionSet entries) =
      optionSet (entries.filter (fun e => e.1 ∉ overrides.map Prod.fst) ++ overrides) := by
  induction overrides generalizing entries with
  | nil => simp
  | cons o overrides ih =>
    rw [List.map_cons, List.nodup_cons] at hnodup
    have hkept : (entries.filter (·.1 ≠ o.1) ++ [o]).filter (·.1 ∉ overrides.map Prod.fst) =
        entries.filter (·.1 ∉ (o :: overrides).map Prod.fst) ++ [o] := by
      rw [List.filter_append, List.filter_filter, List.filter_singleton, decide_eq_true hnodup.1,
        cond_true]
      congr 2
      funext e
      rw [Bool.eq_iff_iff, Bool.and_eq_true, decide_eq_true_iff, decide_eq_true_iff,
        decide_eq_true_iff, List.map_cons, List.mem_cons, not_or]
      exact and_comm
    rw [List.foldl_cons, put_optionSet, ih hnodup.2, hkept, List.append_assoc,
      List.singleton_append]

theorem optionSet_eq_map_named (entries : List (Field × Value)) :
    optionSet entries = (named entries).map fun o => (.text o.1, o.2) := by
  rw [named, List.map_map]
  rfl

theorem ofOptions_optionSet_eq_ok_iff :
    ofOptions (.mapping (optionSet entries)) = .ok c ↔ assignAll {} entries = .ok c := by
  have hnamed := namedValues_eq_ok_iff.mpr (optionSet_eq_map_named entries)
  rw [ofOptions_eq_ok_iff, ← construct_eq_ok_iff]
  constructor
  · rintro ⟨o, ho, hconstruct⟩
    have hsame := namedValues_eq_ok_iff.mpr (Value.mapping.inj ho)
    rw [hnamed] at hsame
    rw [Except.ok.inj hsame]
    exact hconstruct
  · intro h
    exact ⟨named entries, congrArg _ (optionSet_eq_map_named entries), h⟩

theorem exists_optionSet_of_ofOptions {v : Value} (h : ofOptions v = .ok c) :
    ∃ entries, v = .mapping (optionSet entries) := by
  obtain ⟨o, rfl, hconstruct⟩ := ofOptions_eq_ok_iff.mp h
  obtain ⟨entries, rfl⟩ := exists_named_of_construct hconstruct
  exact ⟨entries, congrArg _ (optionSet_eq_map_named entries).symm⟩

/-! ### Building and assigning -/

variable {target : String → Target} (htarget : ∀ f, target f.name = .option f)

include htarget

theorem construct_iff_assignAll (hperm : order.Perm entries)
    (hnodup : (entries.map Prod.fst).Nodup) :
    construct (named entries) = .ok c ↔
      ∃ d, (Draft.ofConfig {}).assignAll target order = .ok d ∧
        ∀ f, d.get f = .ok (c.get f) := by
  have horder : (order.map Prod.fst).Nodup := (hperm.map Prod.fst).nodup_iff.mpr hnodup
  rw [construct_eq_ok_iff]
  constructor
  · intro h
    obtain ⟨d, hd, hholds⟩ := Draft.assignAll_of_ok htarget (Draft.holds_ofConfig {})
      (assignAll_perm hperm.symm hnodup h)
    exact ⟨d, hd, hholds.get⟩
  · rintro ⟨d, hd, hget⟩
    obtain ⟨c', hc', hholds⟩ := Draft.exists_of_assignAll htarget (Draft.holds_ofConfig {}) hd
    have hsame : c' = c := by
      apply ext_get
      intro f
      have hboth := hholds.get f
      rw [hget f] at hboth
      exact (Except.ok.inj hboth).symm
    rw [← hsame]
    exact assignAll_perm hperm horder hc'

theorem exists_construct_iff :
    (∃ c, construct (named entries) = .ok c) ↔
      ∀ e ∈ entries, ∃ d, (Draft.ofConfig {}).assign target e.1.name e.2 = .ok d := by
  simp only [construct_eq_ok_iff, exists_assignAll_iff]
  refine forall₂_congr fun e _ => ?_
  rw [Draft.assign_name htarget (Draft.holds_ofConfig {})]
  cases e.1.accept e.2 <;> simp

theorem mem_faults_iff {faults : List Fault} (h : construct (named entries) = .error faults)
    (fault : Fault) :
    fault ∈ faults ↔
      ∃ e ∈ entries, (Draft.ofConfig {}).assign target e.1.name e.2 = .error (.refused fault) := by
  obtain ⟨rfl, -⟩ := construct_eq_error_iff.mp h
  rw [mem_refusals]
  refine exists_congr fun e => and_congr_right fun _ => ?_
  rw [Draft.assign_name htarget (Draft.holds_ofConfig {})]
  cases e.1.accept e.2 with
  | ok w => simp
  | error r => simp [eq_comm]

omit htarget

/-- No option is reported twice. -/
theorem faults_nodup {faults : List Fault} (hnodup : (entries.map Prod.fst).Nodup)
    (h : construct (named entries) = .error faults) : (faults.map Fault.option).Nodup := by
  obtain ⟨rfl, -⟩ := construct_eq_error_iff.mp h
  have hnames : (entries.map fun e => e.1.name).Nodup := by
    have hmap := hnodup.map name_injective
    rw [List.map_map] at hmap
    exact hmap
  exact hnames.sublist (refusals_options_sublist entries)

end Config

namespace Command

theorem Run.Ends.unique {α : Type} {x : Run α} {r r' : Except Failure α} (h : x.Ends r)
    (h' : x.Ends r') : r = r' := by
  obtain ⟨lines, hlines⟩ := h []
  obtain ⟨lines', hlines'⟩ := h' []
  rw [hlines] at hlines'
  cases r <;> cases r' <;> simp_all

namespace Settings

variable {s : Settings} {d : Disk} {c c' : Config}

/-! ### Overriding -/

/-- A set of options with the options of the command line in place: the texts that are given, and
    "no" for each of the two that can be switched off. -/
def edited (s : Settings) (options : List (Value × Value)) : List (Value × Value) :=
  let off (given : Bool) : Option Value := if given then some (.bool false) else none
  let options := Config.putGiven "namespace" s.declaration options
  let options := Config.putGiven "path_to_root" s.pathToRoot options
  let options := Config.putGiven "return_format" s.returnFormat options
  let options := Config.putGiven "restrict_length" (off s.noRestrictLength) options
  Config.putGiven "emit_wildcard_map" (off s.noWildcardMap) options

/-- What is given for the options that are texts is a text. -/
def GivesTexts (s : Settings) : Prop :=
  ∀ v, v ∈ s.declaration ∨ v ∈ s.pathToRoot ∨ v ∈ s.returnFormat → ∃ t, v = .text t

theorem override_eq_ok_iff : s.override c = .ok c' ↔ c.assignAll s.overrides = .ok c' := by
  rw [override]
  generalize s.overrides = overrides
  induction overrides generalizing c with
  | nil =>
    simp [Config.assignAll, pure, Except.pure]
  | cons o overrides ih =>
    rw [List.foldlM_cons, bind_eq_ok_iff, Config.assignAll_cons_eq_ok_iff]
    refine exists_congr fun c₁ => and_congr ?_ ih
    cases c.set o.1 o.2 <;> simp [Except.mapError]

theorem overrides_nodup (s : Settings) : (s.overrides.map Prod.fst).Nodup := by
  have hgiven (f : Field) (given : Option Value) :
      ((given.toList.map (f, ·)).map Prod.fst).Sublist [f] := by
    cases given <;> simp
  have hoff (f : Field) (given : Bool) :
      ((if given then [(f, Value.bool false)] else []).map Prod.fst).Sublist [f] := by
    cases given <;> simp
  have hall : (s.overrides.map Prod.fst).Sublist
      [.declaration, .pathToRoot, .returnFormat, .restrictLength, .emitWildcardMap] := by
    simp only [overrides, List.map_append]
    exact ((((hgiven _ _).append (hgiven _ _)).append (hgiven _ _)).append (hoff _ _)).append
      (hoff _ _)
  exact List.Nodup.sublist hall (by decide)

/-- The options of the command line are the values that are assigned, each under its name. -/
theorem edited_eq_foldl (s : Settings) (options : List (Value × Value)) :
    s.edited options =
      s.overrides.foldl (fun options o => Config.put o.1.name o.2 options) options := by
  have hgiven (f : Field) (given : Option Value) (options : List (Value × Value)) :
      (given.toList.map (f, ·)).foldl (fun options o => Config.put o.1.name o.2 options) options =
        Config.putGiven f.name given options := by
    cases given <;> rfl
  have hoff (f : Field) (given : Bool) (options : List (Value × Value)) :
      (if given then [(f, Value.bool false)] else []).foldl
          (fun options o => Config.put o.1.name o.2 options) options =
        Config.putGiven f.name (if given then some (.bool false) else none) options := by
    cases given <;> rfl
  simp only [overrides, List.foldl_append, hgiven, hoff]
  rfl

theorem accept_of_givesTexts (h : s.GivesTexts) {o : Field × Value} (ho : o ∈ s.overrides) :
    ∃ w, o.1.accept o.2 = .ok w := by
  have htext {f : Field} {given : Option Value} (hgiven : ∀ v ∈ given, ∃ t, v = .text t)
      (hf : ∀ t, ∃ w, f.accept (.text t) = .ok w) (ho : o ∈ given.toList.map (f, ·)) :
      ∃ w, o.1.accept o.2 = .ok w := by
    obtain ⟨v, hv, rfl⟩ := List.mem_map.mp ho
    obtain ⟨t, rfl⟩ := hgiven v (Option.mem_toList.mp hv)
    exact hf t
  have hoff {f : Field} {given : Bool} (hf : ∃ w, f.accept (.bool false) = .ok w)
      (ho : o ∈ if given then [(f, Value.bool false)] else []) : ∃ w, o.1.accept o.2 = .ok w := by
    cases given with
    | false => cases ho
    | true =>
      rw [List.mem_singleton.mp ho]
      exact hf
  simp only [overrides, List.mem_append] at ho
  rcases ho with (((ho | ho) | ho) | ho) | ho
  · exact htext (fun v hv => h v (Or.inl hv)) (fun t => ⟨.text t, rfl⟩) ho
  · exact htext (fun v hv => h v (Or.inr (Or.inl hv))) (fun t => ⟨.text t, rfl⟩) ho
  · exact htext (fun v hv => h v (Or.inr (Or.inr hv))) (fun t => ⟨.text t, rfl⟩) ho
  · exact hoff ⟨.bool false, rfl⟩ ho
  · exact hoff ⟨.bool false, rfl⟩ ho

theorem buildConfig_ends_iff :
    (s.buildConfig d).Ends (.ok c) ↔ s.configuration d = .ok c := by
  have hends := ends_buildConfig s d
  constructor
  · intro h
    have hsame := hends.unique h
    cases hc : s.configuration d with
    | error e =>
      rw [hc] at hsame
      cases hsame
    | ok c₁ =>
      rw [hc] at hsame
      cases hsame
      rfl
  · intro h
    rw [h] at hends
    exact hends

section

variable {entries : List (Value × Value)}
  (hchosen : (s.chooseOptions d).2 = .ok (.mapping entries))
  (hloads : Config.ofOptions (.mapping entries) = .ok c)

include hchosen hloads

theorem buildConfig_ends_iff_assignAll :
    (s.buildConfig d).Ends (.ok c') ↔ c.assignAll s.overrides = .ok c' := by
  have hconfiguration : s.configuration d = s.override c := by
    simp only [configuration, hchosen, hloads, bind, Except.bind]
  rw [buildConfig_ends_iff, hconfiguration, override_eq_ok_iff]

theorem buildConfig_ends_iff_edited :
    (s.buildConfig d).Ends (.ok c') ↔
      Config.ofOptions (.mapping (s.edited entries)) = .ok c' := by
  rw [buildConfig_ends_iff_assignAll hchosen hloads]
  obtain ⟨before, hbefore⟩ := Config.exists_optionSet_of_ofOptions hloads
  cases hbefore
  rw [edited_eq_foldl, Config.foldl_put_optionSet s.overrides_nodup,
    Config.ofOptions_optionSet_eq_ok_iff]
  exact Config.assignAll_over (Config.ofOptions_optionSet_eq_ok_iff.mp hloads)

theorem exists_buildConfig_of_givesTexts (htexts : s.GivesTexts) :
    ∃ c', (s.buildConfig d).Ends (.ok c') := by
  simp only [buildConfig_ends_iff_assignAll hchosen hloads]
  exact Config.exists_assignAll_iff.mpr fun o ho => accept_of_givesTexts htexts ho

end

end Settings

/-- If a set of options gives a configuration, a run goes by that of the set with the options of
    the command line in place, and it has one if these are texts.  For any values of different
    options, a configuration is built from them exactly if each can be assigned to the usual one; it
    is then what all assignments give, in any order; and otherwise the values that are refused are
    those that cannot be assigned, each reported once. -/
theorem overrides_edit_option_set :
    (∀ (s : Settings) (d : Disk) (entries : List (Value × Value)) (c : Config),
      (s.chooseOptions d).2 = .ok (.mapping entries) →
      Config.ofOptions (.mapping entries) = .ok c →
        (∀ c', (s.buildConfig d).Ends (.ok c') ↔
          Config.ofOptions (.mapping (s.edited entries)) = .ok c') ∧
        (s.GivesTexts → ∃ c', (s.buildConfig d).Ends (.ok c'))) ∧
    ∀ target : String → Target, (∀ f : Field, target f.name = .option f) →
      ∀ entries : List (Field × Value), (entries.map Prod.fst).Nodup →
        ((∃ c, Config.construct (Config.named entries) = .ok c) ↔
          ∀ e ∈ entries, ∃ d, (Draft.ofConfig {}).assign target e.1.name e.2 = .ok d) ∧
        (∀ order : List (Field × Value), order.Perm entries → ∀ c,
          Config.construct (Config.named entries) = .ok c ↔
            ∃ d, (Draft.ofConfig {}).assignAll target order = .ok d ∧
              ∀ f, d.get f = .ok (c.get f)) ∧
        ∀ faults, Config.construct (Config.named entries) = .error faults →
          (faults.map Fault.option).Nodup ∧
          ∀ fault, fault ∈ faults ↔ ∃ e ∈ entries,
            (Draft.ofConfig {}).assign target e.1.name e.2 = .error (.refused fault) := by
  constructor
  · intro s d entries c hchosen hloads
    exact ⟨fun c' => Settings.buildConfig_ends_iff_edited hchosen hloads,
      Settings.exists_buildConfig_of_givesTexts hchosen hloads⟩
  · intro target htarget entries hnodup
    refine ⟨Config.exists_construct_iff htarget, ?_, ?_⟩
    · intro order hperm c
      exact Config.construct_iff_assignAll htarget hperm hnodup
    · intro faults hfaults
      exact ⟨Config.faults_nodup hnodup hfaults, Config.mem_faults_iff htarget hfaults⟩

/-- Settings that replace the options of a packaged dialect. -/
def plainSettings : Settings :=
  { query := some "q.xml", dialect := some "plain", declaration := some (.text "n")
    pathToRoot := some (.text "p"), returnFormat := some (.text "")
    noRestrictLength := true, noWildcardMap := true }

/-- The options of that dialect. -/
def plainOptions : List (Value × Value) :=
  [(.text "namespace", .text ""), (.text "path_to_root", .text "//*:root"),
    (.text "return_format", .text "<hit>\x7b$x\x7d</hit>")]

/-- Names of options, and others that stand for nothing. -/
def optionTarget (name : String) : Target := ((Field.ofName? name).map .option).getD (.unknown name)

theorem plainSettings_edit :
    Settings.ofArguments ["q.xml", "--dialect", "plain", "--namespace", "n", "--path-to-root", "p",
      "--return-format", "", "--no-restrict-length", "--no-qvar-map"] = .ok plainSettings ∧
    (plainSettings.buildConfig (Folder.disk ⟨[]⟩)).Ends
      (.ok ⟨"n", "p", "", none, none, false, false⟩) ∧
    ∃ e ∈ [(Field.restrictLength, Value.text "maybe"), (.header, .null), (.footer, .int 3)],
      (Draft.ofConfig {}).assign optionTarget e.1.name e.2 =
        .error (.refused ⟨"footer", .notText⟩) := by
  refine ⟨rfl, ?_, ?_⟩
  · have hchosen : (plainSettings.chooseOptions (Folder.disk ⟨[]⟩)).2 =
        .ok (.mapping plainOptions) := by
      simp [plainSettings, plainOptions, Settings.chooseOptions, Settings.chooseOptions.packaged,
        Config.chooseOptions, Config.packagedDialects, Config.orEmpty, Config.pick, Value.lookup,
        Value.equals, Value.within, Value.isTruthy, Value.isKey, bind, Except.bind, pure,
        Except.pure]
    have hloads : Config.ofOptions (.mapping plainOptions) =
        .ok ⟨"", "//*:root", "<hit>\x7b$x\x7d</hit>", none, none, true, true⟩ := by
      decide +kernel
    exact ((overrides_edit_option_set.1 _ _ _ _ hchosen hloads).1 _).mpr (by decide +kernel)
  · have htarget (f : Field) : optionTarget f.name = .option f := by cases f <;> decide
    have hfaults := (overrides_edit_option_set.2 optionTarget htarget
      [(.restrictLength, .text "maybe"), (.header, .null), (.footer, .int 3)] (by decide)).2.2
      [⟨"restrict_length", .unreadableBool⟩, ⟨"footer", .notText⟩] (by decide +kernel)
    exact (hfaults.2 _).mp (by decide)

end Command

end FormulaQuery
