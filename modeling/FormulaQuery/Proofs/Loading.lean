/-
  FormulaQuery/Proofs/Loading.lean
  ================================
  **What can go wrong before a run has its options.**  Options come from a packaged
  dialect or from a file in which anything may stand, and the command line changes
  some of them.  Most of what goes wrong on the way is reported.  The rest escapes,
  and `configuration_escapes_iff` lists it: the file is a folder or its path is too
  long, it cannot be read as a document, the choice of a dialect meets a value of a
  kind that cannot be chosen from, or what is chosen is not a set of options.

  The packaged dialects and the options of the command line never escape.
-/
import FormulaQuery.Command.Run
import Mathlib.Data.List.Basic
import Mathlib.Tactic.Common

namespace FormulaQuery

/-! ### Sets of options -/

namespace Config

/-- A set of options is a mapping whose keys are texts. -/
def IsOptionSet (v : Value) : Prop :=
  ∃ entries, v = .mapping entries ∧ ∀ entry ∈ entries, entry.1.text?.isSome

theorem namedValues_of_texts {entries : List (Value × Value)}
    (h : ∀ entry ∈ entries, entry.1.text?.isSome) : ∃ named, namedValues entries = .ok named := by
  induction entries with
  | nil => exact ⟨[], rfl⟩
  | cons entry entries ih =>
    obtain ⟨hkey, hrest⟩ := List.forall_mem_cons.mp h
    obtain ⟨named, hnamed⟩ := ih hrest
    obtain ⟨key, value⟩ := entry
    cases key with
    | text name =>
      refine ⟨(name, value) :: named, ?_⟩
      rw [namedValues, hnamed]
      rfl
    | _ => cases hkey

theorem namedValues_of_not_texts {entries : List (Value × Value)}
    (h : ¬∀ entry ∈ entries, entry.1.text?.isSome) : namedValues entries = .error .wrongKind := by
  induction entries with
  | nil => simp at h
  | cons entry entries ih =>
    obtain ⟨key, value⟩ := entry
    cases key with
    | text name =>
      have hrest : ¬∀ entry ∈ entries, entry.1.text?.isSome :=
        fun hall => h (List.forall_mem_cons.mpr ⟨rfl, hall⟩)
      rw [namedValues, ih hrest]
      rfl
    | _ => rfl

theorem ofOptions_of_isOptionSet {v : Value} {e : ConfigError} (h : IsOptionSet v)
    (he : ofOptions v = .error e) : ∃ faults, e = .invalid faults := by
  obtain ⟨entries, rfl, htexts⟩ := h
  obtain ⟨named, hnamed⟩ := namedValues_of_texts htexts
  have hconstruct : ofOptions (.mapping entries) = (construct named).mapError .invalid := by
    rw [ofOptions, hnamed]
    rfl
  rw [hconstruct] at he
  cases hfaults : construct named with
  | ok c =>
    rw [hfaults] at he
    cases he
  | error faults =>
    rw [hfaults] at he
    cases he
    exact ⟨faults, rfl⟩

theorem ofOptions_of_not_isOptionSet {v : Value} (h : ¬IsOptionSet v) :
    ofOptions v = .error .wrongKind := by
  cases v with
  | mapping entries =>
    have htexts : ¬∀ entry ∈ entries, entry.1.text?.isSome :=
      fun hall => h ⟨entries, rfl, hall⟩
    rw [ofOptions, namedValues_of_not_texts htexts]
    rfl
  | _ => rfl

/-! ### Choosing a set of options -/

/-- What a choice of options ends with if there is none: a value of the wrong kind, a number out
    of range, or a failure that is reported. -/
def IsChoiceError (e : ConfigError) : Prop :=
  e = .wrongKind ∨ e = .outOfRange ∨ (Command.Failure.config e).isReported = true

/-- A choice that fails in one of these ways only. -/
def IsChoice (r : Except ConfigError Value) : Prop := ∀ e, r = .error e → IsChoiceError e

theorem IsChoice.ok (v : Value) : IsChoice (.ok v) := by
  intro e h
  cases h

theorem IsChoice.error {e : ConfigError} (he : IsChoiceError e) : IsChoice (.error e) := by
  intro e' h
  cases h
  exact he

theorem IsChoice.wrongKind : IsChoice (.error .wrongKind) := .error (Or.inl rfl)

theorem IsChoice.unknown (name : Value) (available : List Value) :
    IsChoice (.error (unknown name available)) := by
  rw [Config.unknown]
  split
  · exact .error (Or.inr (Or.inr rfl))
  · split
    · exact .error (Or.inr (Or.inr rfl))
    · exact .wrongKind

theorem IsChoice.map {r : Except ConfigError Value} (h : IsChoice r) (f : Value → Value) :
    IsChoice (do return f (← r)) := by
  cases r with
  | ok v => exact .ok (f v)
  | error e => exact .error (h e rfl)

theorem isChoice_itemAt (items : List Value) (n : Int) : IsChoice (itemAt items n) := by
  have houtside : IsChoice (.error .outOfRange) := .error (Or.inr (Or.inl rfl))
  simp only [itemAt]
  generalize (if n < 0 then n + Int.ofNat items.length else n) = index
  split
  · exact houtside
  · split
    · exact .ok _
    · exact houtside

theorem isChoice_byteAt (bs : List UInt8) (n : Int) : IsChoice (byteAt bs n) := by
  rw [byteAt]
  split
  · exact .error (Or.inr (Or.inr rfl))
  · split
    · exact isChoice_itemAt _ n
    · exact .wrongKind

theorem isChoice_pick (dialects name : Value) : IsChoice (pick dialects name) := by
  unfold pick
  split
  · split
    · split
      · exact .ok _
      · exact .unknown _ _
    · exact .wrongKind
  · split
    · split
      · exact isChoice_itemAt _ _
      · exact isChoice_itemAt _ _
      · exact .wrongKind
    · exact .unknown _ _
  · split
    · exact .wrongKind
    · split
      · exact .wrongKind
      · exact .unknown _ _
  · split
    · exact isChoice_byteAt _ _
    · exact isChoice_byteAt _ _
    · exact .wrongKind
  · split
    · split
      · exact .wrongKind
      · exact .unknown _ _
    · exact .wrongKind
  · exact .wrongKind

theorem isChoice_chooseOptions (path : String) (document : Value) (dialect : Option String) :
    IsChoice (chooseOptions path document dialect) := by
  have habsent (v : Value) :
      IsChoice (if dialect.isSome then .error (.noDialects path) else .ok v) := by
    split
    · exact .error (Or.inr (Or.inr rfl))
    · exact .ok v
  rw [chooseOptions]
  cases orEmpty document with
  | mapping entries =>
    dsimp only
    split
    · exact (isChoice_pick _ _).map fun entry => orEmpty (entry.within _)
    · exact habsent _
  | list items =>
    dsimp only
    split
    · exact .wrongKind
    · exact habsent _
  | set members =>
    dsimp only
    split
    · exact .wrongKind
    · exact habsent _
  | text s =>
    dsimp only
    split
    · exact .wrongKind
    · exact habsent _
  | _ => exact .wrongKind

theorem orEmpty_mapping (entries : List (Value × Value)) :
    orEmpty (.mapping entries) = .mapping entries := by
  cases entries with
  | nil => rfl
  | cons entry entries => rfl

theorem exists_mem_of_lookup {key v : Value} {entries : List (Value × Value)}
    (h : Value.lookup key entries = some v) : ∃ k, (k, v) ∈ entries := by
  induction entries with
  | nil => cases h
  | cons entry entries ih =>
    obtain ⟨k, v'⟩ := entry
    rw [Value.lookup] at h
    split at h
    · cases h
      exact ⟨k, List.mem_cons_self⟩
    · obtain ⟨k', hk'⟩ := ih h
      exact ⟨k', List.mem_cons_of_mem _ hk'⟩

/-- A dialect that is asked for by its name is found among the entries, or refused by name. -/
theorem pick_text {entries : List (Value × Value)} {names : List String}
    (hnames : allTexts? (entries.map Prod.fst) = some names) (name : String) :
    (∃ k v, (k, v) ∈ entries ∧ pick (.mapping entries) (.text name) = .ok v) ∨
      pick (.mapping entries) (.text name) = .error (.unknownDialect name (sortNames names)) := by
  cases hlookup : Value.lookup (.text name) entries with
  | some v =>
    obtain ⟨k, hk⟩ := exists_mem_of_lookup hlookup
    refine Or.inl ⟨k, v, hk, ?_⟩
    simp only [pick, Value.isKey, if_true, hlookup]
  | none =>
    refine Or.inr ?_
    simp only [pick, Value.isKey, if_true, hlookup, unknown, hnames]
    rfl

/-- A packaged dialect has a set of options, and any other is refused by name. -/
theorem chooseOptions_packaged (name : String) :
    (∃ v, chooseOptions packagedPath packagedDialects (some name) = .ok v ∧ IsOptionSet v) ∨
      ∃ name' names, chooseOptions packagedPath packagedDialects (some name) =
        .error (.unknownDialect name' names) := by
  obtain ⟨sets, names, hsets, hnames, hoptions⟩ : ∃ sets names,
      packagedDialects = .mapping
        [(.text "default", .text "db2"), (.text "dialects", .mapping sets)] ∧
      allTexts? (sets.map Prod.fst) = some names ∧ ∀ entry ∈ sets, IsOptionSet entry.2 := by
    refine ⟨_, _, rfl, rfl, ?_⟩
    simp only [IsOptionSet, List.forall_mem_cons]
    simp [Value.text?, -Prod.forall]
  have hdialects : Value.lookup (.text "dialects")
      [(.text "default", .text "db2"), (.text "dialects", .mapping sets)] =
        some (.mapping sets) := by simp [Value.lookup, Value.equals]
  have hdefault : Value.lookup (.text "default")
      [(.text "default", .text "db2"), (.text "dialects", .mapping sets)] =
        some (.text "db2") := by simp [Value.lookup, Value.equals]
  obtain ⟨around, hchoose⟩ : ∃ around,
      chooseOptions packagedPath packagedDialects (some name) = do
        let entry ← pick (.mapping sets) (.text (if name = "" then "db2" else name))
        return orEmpty (entry.within around) := by
    rw [hsets, chooseOptions, orEmpty_mapping]
    simp only [hdialects, hdefault, Value.within, orEmpty_mapping, Option.getD_some]
    split <;> exact ⟨_, rfl⟩
  rw [hchoose]
  rcases pick_text hnames (if name = "" then "db2" else name) with ⟨k, v, hv, hpick⟩ | hpick
  · refine Or.inl ⟨orEmpty (v.within around), by rw [hpick]; rfl, ?_⟩
    obtain ⟨entries, rfl, hkeys⟩ := hoptions (k, v) hv
    exact ⟨entries, orEmpty_mapping entries, hkeys⟩
  · exact Or.inr ⟨_, sortNames names, by rw [hpick]; rfl⟩

end Config

theorem bind_eq_error_iff {ε α β : Type} {r : Except ε α} {k : α → Except ε β} {e : ε} :
    r >>= k = .error e ↔ r = .error e ∨ ∃ a, r = .ok a ∧ k a = .error e := by
  cases r with
  | error e' =>
    have hbind : (Except.error e' >>= k) = .error e' := rfl
    simp [hbind]
  | ok a =>
    have hbind : (Except.ok a >>= k) = k a := rfl
    simp [hbind]

theorem bind_eq_ok_iff {ε α β : Type} {r : Except ε α} {k : α → Except ε β} {b : β} :
    r >>= k = .ok b ↔ ∃ a, r = .ok a ∧ k a = .ok b := by
  cases r with
  | error e =>
    have hbind : (Except.error e >>= k) = .error e := rfl
    simp [hbind]
  | ok a =>
    have hbind : (Except.ok a >>= k) = k a := rfl
    simp [hbind]

theorem Disk.readOptions_eq (d : Disk) (p : FilePath) (dialect : Option String) :
    d.readOptions p dialect =
      match d.entry p with
      | .missing => .error (.missingFile p.render)
      | .folder => .error .directory
      | .tooLong => .error .tooLong
      | .file bytes =>
        match Yaml.readBytes bytes with
        | .ok v => Config.chooseOptions p.render v dialect
        | .error e => .error (ConfigError.ofDocument e) := by
  rw [readOptions, readValue]
  cases d.entry p with
  | file bytes =>
    dsimp only
    cases Yaml.readBytes bytes <;> rfl
  | _ => rfl

namespace Command

/-! ### The configuration of a run -/

namespace Settings

variable (s : Settings) (d : Disk)

/-- The configuration that a run goes by. -/
def configuration : Except ConfigError Config := do
  let options ← (s.chooseOptions d).2
  let c ← Config.ofOptions options
  s.override c

/-- The file that options are read from, if there is one. -/
def optionFile? : Option FilePath := (s.config.filter (· ≠ "")).map FilePath.ofString

variable {s d}

theorem chooseOptions_of_file {p : FilePath} (h : s.optionFile? = some p) :
    (s.chooseOptions d).2 = d.readOptions p s.dialect := by
  rw [optionFile?] at h
  unfold chooseOptions
  split <;> simp_all

theorem chooseOptions_of_no_file (h : s.optionFile? = none) :
    ∃ name, (s.chooseOptions d).2 =
      Config.chooseOptions Config.packagedPath Config.packagedDialects (some name) := by
  have hpackaged : ∃ name, (chooseOptions.packaged s).2 =
      Config.chooseOptions Config.packagedPath Config.packagedDialects (some name) := by
    rw [chooseOptions.packaged]
    dsimp only
    split <;> exact ⟨_, rfl⟩
  rw [optionFile?] at h
  unfold chooseOptions
  split
  · exact hpackaged
  · exact hpackaged
  · simp_all

theorem override_error {c : Config} {e : ConfigError} (h : s.override c = .error e) :
    ∃ faults, e = .invalid faults := by
  rw [override] at h
  generalize s.overrides = os at h
  induction os generalizing c with
  | nil => cases h
  | cons o os ih =>
    rw [List.foldlM_cons] at h
    cases hset : c.set o.1 o.2 with
    | error r =>
      rw [hset] at h
      cases h
      exact ⟨_, rfl⟩
    | ok c' =>
      rw [hset] at h
      exact ih h

variable (s d) in
/-- The ways in which the options of a run escape; all of them need an option file. -/
inductive OptionsEscape : Prop
  /-- The file is a folder. -/
  | folder {p : FilePath} (hfile : s.optionFile? = some p) (hentry : d.entry p = .folder)
  /-- The path is too long. -/
  | tooLong {p : FilePath} (hfile : s.optionFile? = some p) (hentry : d.entry p = .tooLong)
  /-- The file is not a document, or a text in it is no value of its kind. -/
  | document {p : FilePath} {bytes : List UInt8} {e : Yaml.Error}
      (hfile : s.optionFile? = some p) (hentry : d.entry p = .file bytes)
      (hread : Yaml.readBytes bytes = .error e)
      (he : e ∈ [.malformed, .wrongKind, .emptyText, .notAMoment, .hugeNumber])
  /-- No set of options can be chosen from the document. -/
  | choice {p : FilePath} {bytes : List UInt8} {v : Value} {e : ConfigError}
      (hfile : s.optionFile? = some p) (hentry : d.entry p = .file bytes)
      (hread : Yaml.readBytes bytes = .ok v)
      (hchoice : Config.chooseOptions p.render v s.dialect = .error e)
      (he : e = .wrongKind ∨ e = .outOfRange)
  /-- What is chosen is not a set of options. -/
  | options {p : FilePath} {bytes : List UInt8} {v options : Value}
      (hfile : s.optionFile? = some p) (hentry : d.entry p = .file bytes)
      (hread : Yaml.readBytes bytes = .ok v)
      (hchoice : Config.chooseOptions p.render v s.dialect = .ok options)
      (hoptions : ¬Config.IsOptionSet options)

theorem isReported_ofDocument (e : Yaml.Error) :
    (Failure.config (ConfigError.ofDocument e)).isReported = false ↔
      e ∈ [.malformed, .wrongKind, .emptyText, .notAMoment, .hugeNumber] := by
  cases e <;> simp [ConfigError.ofDocument, Failure.isReported]

/-- Behind the choice, only what is not a set of options escapes: values that an option does not
    take are reported, be they from the file or from the command line. -/
theorem configuration_escapes_iff_chosen :
    (∃ e, s.configuration d = .error e ∧ (Failure.config e).isReported = false) ↔
      (∃ e, (s.chooseOptions d).2 = .error e ∧ (Failure.config e).isReported = false) ∨
        ∃ options, (s.chooseOptions d).2 = .ok options ∧ ¬Config.IsOptionSet options := by
  constructor
  · rintro ⟨e, he, hescape⟩
    rcases bind_eq_error_iff.mp he with he | ⟨options, hchosen, he⟩
    · exact Or.inl ⟨e, he, hescape⟩
    · refine Or.inr ⟨options, hchosen, ?_⟩
      intro hoptions
      have hinvalid : ∃ faults, e = .invalid faults := by
        rcases bind_eq_error_iff.mp he with he | ⟨c, -, he⟩
        · exact Config.ofOptions_of_isOptionSet hoptions he
        · exact override_error he
      obtain ⟨faults, rfl⟩ := hinvalid
      cases hescape
  · rintro (⟨e, he, hescape⟩ | ⟨options, hchosen, hoptions⟩)
    · exact ⟨e, bind_eq_error_iff.mpr (Or.inl he), hescape⟩
    · refine ⟨.wrongKind, bind_eq_error_iff.mpr (Or.inr ⟨options, hchosen, ?_⟩), rfl⟩
      exact bind_eq_error_iff.mpr (Or.inl (Config.ofOptions_of_not_isOptionSet hoptions))

/-- **When the options of a run escape.** -/
theorem configuration_escapes_iff :
    (∃ e, s.configuration d = .error e ∧ (Failure.config e).isReported = false) ↔
      s.OptionsEscape d := by
  rw [configuration_escapes_iff_chosen]
  constructor
  · intro h
    cases hfile : s.optionFile? with
    | none =>
      obtain ⟨name, hname⟩ := chooseOptions_of_no_file (d := d) hfile
      rw [hname] at h
      rcases Config.chooseOptions_packaged name with ⟨v, hv, hset⟩ | ⟨name', names, herror⟩
      · simp [hv, hset] at h
      · simp [herror, Failure.isReported] at h
    | some p =>
      rw [chooseOptions_of_file hfile, Disk.readOptions_eq] at h
      cases hentry : d.entry p with
      | missing => simp [hentry, Failure.isReported] at h
      | folder => exact .folder hfile hentry
      | tooLong => exact .tooLong hfile hentry
      | file bytes =>
        cases hread : Yaml.readBytes bytes with
        | error e =>
          simp only [hentry, hread, Except.error.injEq, exists_eq_left', reduceCtorEq, false_and,
            exists_false, or_false] at h
          exact .document hfile hentry hread ((isReported_ofDocument e).mp h)
        | ok v =>
          simp only [hentry, hread] at h
          rcases h with ⟨e, he, hescape⟩ | ⟨options, hchoice, hoptions⟩
          · refine .choice hfile hentry hread he ?_
            rcases Config.isChoice_chooseOptions _ _ _ e he with hkind | hrange | hreported
            · exact Or.inl hkind
            · exact Or.inr hrange
            · rw [hescape] at hreported
              cases hreported
          · exact .options hfile hentry hread hchoice hoptions
  · intro h
    have hchosen {p : FilePath} (hfile : s.optionFile? = some p) :=
      (chooseOptions_of_file (d := d) hfile).trans (d.readOptions_eq p s.dialect)
    cases h with
    | folder hfile hentry => exact Or.inl ⟨.directory, by rw [hchosen hfile, hentry], rfl⟩
    | tooLong hfile hentry => exact Or.inl ⟨.tooLong, by rw [hchosen hfile, hentry], rfl⟩
    | @document p bytes e hfile hentry hread he =>
      refine Or.inl ⟨ConfigError.ofDocument e, ?_, (isReported_ofDocument e).mpr he⟩
      simp only [hchosen hfile, hentry, hread]
    | @choice p bytes v e hfile hentry hread hchoice he =>
      refine Or.inl ⟨e, by simp only [hchosen hfile, hentry, hread, hchoice], ?_⟩
      rcases he with rfl | rfl <;> rfl
    | @options p bytes v options hfile hentry hread hchoice hoptions =>
      exact Or.inr ⟨options, by simp only [hchosen hfile, hentry, hread, hchoice], hoptions⟩

end Settings

end Command

end FormulaQuery
