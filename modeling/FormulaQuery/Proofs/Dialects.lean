/-
  FormulaQuery/Proofs/Dialects.lean
  =================================
  **Whose options a document gives.**  An option file may hold a value of any kind,
  at the top and under each of its keys.  `dialect_decides_options` says for which
  files a dialect gives a configuration, and which one: that of the dialect's own
  entry, whatever else stands in the file.

  A dialect that is asked for has to be the name of an entry in a mapping.  The
  default of a file is any value, though, and if it is a number it also picks an item
  of a list (`Config.PicksByNumber`), which is not a dialect at all
  (`numbered_default_picks_item`).
-/
import FormulaQuery.Proofs.Loading

namespace FormulaQuery

/-! ### Places in a document -/

namespace Value

/-- The value under a key of the first of some mappings inside each other, the innermost first. -/
def under (key : Value) : List Value → Option Value
  | .mapping entries :: around => (lookup key entries).map (within (.mapping entries :: around))
  | _ => none

/-- The number that a value is if it tells a place in a list. -/
def index? : Value → Option Int
  | int n => some n
  | bool b => some (if b then 1 else 0)
  | _ => none

theorem exists_mapping_of_under {key v w : Value} {around : List Value}
    (h : under key (v :: around) = some w) :
    ∃ entries found, v = .mapping entries ∧ lookup key entries = some found ∧
      w = found.within (v :: around) := by
  cases v with
  | mapping entries =>
    obtain ⟨found, hfound, rfl⟩ := Option.map_eq_some_iff.mp h
    exact ⟨entries, found, rfl, hfound, rfl⟩
  | _ => cases h

end Value

namespace Config

/-! ### Options from an entry -/

/-- An entry gives a configuration: the usual one if it counts as nothing, and otherwise that of its
    options, which are under texts. -/
def Gives (entry : Value) (c : Config) : Prop :=
  (entry.isTruthy = false ∧ c = {}) ∨
    ∃ named : List (String × Value),
      entry = .mapping (named.map fun o => (.text o.1, o.2)) ∧ construct named = .ok c

theorem namedValues_eq_ok_iff {entries : List (Value × Value)} {named : List (String × Value)} :
    namedValues entries = .ok named ↔ entries = named.map fun o => (.text o.1, o.2) := by
  induction entries generalizing named with
  | nil =>
    cases named with
    | nil => simp [namedValues]
    | cons o named => simp [namedValues]
  | cons entry entries ih =>
    obtain ⟨key, v⟩ := entry
    cases key with
    | text name =>
      rw [namedValues]
      constructor
      · intro h
        cases hrest : namedValues entries with
        | error e =>
          rw [hrest] at h
          cases h
        | ok rest =>
          rw [hrest] at h
          cases h
          rw [List.map_cons, ← ih.mp hrest]
      · intro h
        cases named with
        | nil => cases h
        | cons o named =>
          obtain ⟨⟨rfl, rfl⟩, hrest⟩ : (name = o.1 ∧ v = o.2) ∧
              entries = named.map fun o => (.text o.1, o.2) := by simpa using h
          rw [ih.mpr hrest]
          rfl
    | _ =>
      cases named with
      | nil => simp [namedValues]
      | cons o named => simp [namedValues]

theorem ofOptions_eq_ok_iff {v : Value} {c : Config} :
    ofOptions v = .ok c ↔ ∃ named : List (String × Value),
      v = .mapping (named.map fun o => (.text o.1, o.2)) ∧ construct named = .ok c := by
  cases v with
  | mapping entries =>
    have hfaults (named : List (String × Value)) :
        (construct named).mapError ConfigError.invalid = .ok c ↔ construct named = .ok c := by
      cases construct named <;> simp [Except.mapError]
    simp only [ofOptions, bind_eq_ok_iff, namedValues_eq_ok_iff, hfaults, Value.mapping.injEq]
  | _ => simp [ofOptions]

theorem ofOptions_orEmpty_eq_ok_iff {v : Value} {c : Config} :
    ofOptions (orEmpty v) = .ok c ↔ Gives v c := by
  rw [Gives, ← ofOptions_eq_ok_iff, orEmpty]
  cases htruthy : v.isTruthy with
  | true => simp
  | false =>
    have hempty : ofOptions (.mapping []) = .ok {} := rfl
    rw [if_neg Bool.false_ne_true, hempty]
    constructor
    · intro h
      cases h
      exact Or.inl ⟨rfl, rfl⟩
    · rintro (⟨-, rfl⟩ | h)
      · rfl
      · -- of the values that count as nothing, only the empty mapping is a set of options
        cases v with
        | mapping entries =>
          cases entries with
          | nil => exact h
          | cons entry entries => cases htruthy
        | _ => cases h

/-! ### Picking an entry -/

/-- A number picks an item of a list, or of a sequence of bytes, in which it stands itself. -/
def PicksByNumber (dialects name entry : Value) : Prop :=
  ∃ n, name.index? = some n ∧
    ((∃ items, dialects = .list items ∧ items.any name.equals = true ∧
        itemAt items n = .ok entry) ∨
      ∃ bs, dialects = .bytes bs ∧ byteAt bs n = .ok entry)

theorem pick_eq_ok_iff {dialects name entry : Value} :
    pick dialects name = .ok entry ↔
      (∃ sets, dialects = .mapping sets ∧ name.isKey = true ∧
        Value.lookup name sets = some entry) ∨ PicksByNumber dialects name entry := by
  cases dialects with
  | mapping sets =>
    have hnumber : ¬PicksByNumber (.mapping sets) name entry := by
      rintro ⟨n, -, ⟨items, hitems, -⟩ | ⟨bs, hbs, -⟩⟩
      · cases hitems
      · cases hbs
    simp only [hnumber, or_false, Value.mapping.injEq, exists_eq_left', pick]
    cases name.isKey with
    | false => simp
    | true => cases Value.lookup name sets <;> simp
  | list items =>
    have hnumber : PicksByNumber (.list items) name entry ↔
        ∃ n, name.index? = some n ∧ items.any name.equals = true ∧ itemAt items n = .ok entry := by
      simp [PicksByNumber]
    simp only [hnumber, pick, reduceCtorEq, false_and, exists_false, false_or]
    cases items.any name.equals with
    | false => simp
    | true => cases name <;> simp [Value.index?]
  | bytes bs =>
    have hnumber : PicksByNumber (.bytes bs) name entry ↔
        ∃ n, name.index? = some n ∧ byteAt bs n = .ok entry := by
      simp [PicksByNumber]
    simp only [hnumber, pick, reduceCtorEq, false_and, exists_false, false_or]
    cases name <;> simp [Value.index?]
  | set members =>
    have hpick : ∃ e, pick (.set members) name = .error e := by
      simp only [pick]
      split
      · exact ⟨_, rfl⟩
      · split <;> exact ⟨_, rfl⟩
    obtain ⟨e, he⟩ := hpick
    simp [he, PicksByNumber]
  | text s =>
    have hpick : ∃ e, pick (.text s) name = .error e := by
      simp only [pick]
      split
      · split <;> exact ⟨_, rfl⟩
      · exact ⟨_, rfl⟩
    obtain ⟨e, he⟩ := hpick
    simp [he, PicksByNumber]
  | _ => simp [pick, PicksByNumber]

/-- Nothing can be picked from a value that counts as nothing. -/
theorem pick_orEmpty_eq_ok_iff {dialects name entry : Value} :
    pick (orEmpty dialects) name = .ok entry ↔
      (∃ sets, dialects = .mapping sets ∧ name.isKey = true ∧
        Value.lookup name sets = some entry) ∨ PicksByNumber dialects name entry := by
  rw [← pick_eq_ok_iff, orEmpty]
  cases htruthy : dialects.isTruthy with
  | true => rfl
  | false =>
    have hnone : pick (.mapping []) name ≠ .ok entry := by
      simp [pick_eq_ok_iff, PicksByNumber, Value.lookup]
    refine iff_of_false hnone ?_
    rw [pick_eq_ok_iff]
    rintro (⟨sets, rfl, -, hlookup⟩ | ⟨n, -, ⟨items, rfl, hmem, -⟩ | ⟨bs, rfl, hbyte⟩⟩)
    · cases sets with
      | nil => cases hlookup
      | cons set sets => cases htruthy
    · cases items with
      | nil => cases hmem
      | cons item items => cases htruthy
    · cases bs with
      | nil =>
        rw [byteAt] at hbyte
        split at hbyte
        · cases hbyte
        · cases hbyte
      | cons b bs => cases htruthy

/-! ### Documents with and without dialects -/

/-- The default of a document, null if there is none. -/
def fallback (v : Value) : Value := (Value.under (.text "default") [v]).getD .null

/-- The name that a document is searched for. -/
def sought (v : Value) : Option String → Value
  | some name => if name = "" then fallback v else .text name
  | none => fallback v

theorem chooseOptions_of_dialects (path : String) {v dialects : Value}
    (h : Value.under (.text "dialects") [v] = some dialects) (asked : Option String) :
    chooseOptions path v asked = do
      let entry ← pick (orEmpty dialects) (sought v asked)
      return orEmpty (entry.within [dialects, v]) := by
  obtain ⟨entries, found, rfl, hfound, rfl⟩ := Value.exists_mapping_of_under h
  have hfallback : ((Value.lookup (.text "default") entries).getD .null).within
      [.mapping entries] = fallback (.mapping entries) := by
    unfold fallback Value.under
    dsimp only
    cases Value.lookup (.text "default") entries <;> rfl
  simp only [chooseOptions, orEmpty_mapping, hfound, hfallback]
  cases asked <;> rfl

theorem chooseOptions_of_no_dialects (path : String) {v : Value}
    (hkind : v.isTruthy = false ∨ v.isMapping = true)
    (h : Value.under (.text "dialects") [v] = none) (asked : Option String) :
    chooseOptions path v asked =
      if asked.isSome then .error (.noDialects path) else .ok (orEmpty v) := by
  obtain ⟨entries, hentries, hlookup⟩ : ∃ entries, orEmpty v = .mapping entries ∧
      Value.lookup (.text "dialects") entries = none := by
    rcases hkind with hfalsy | hmapping
    · refine ⟨[], ?_, rfl⟩
      rw [orEmpty, hfalsy, if_neg Bool.false_ne_true]
    · cases v with
      | mapping entries => exact ⟨entries, orEmpty_mapping entries, Option.map_eq_none_iff.mp h⟩
      | _ => cases hmapping
  simp only [chooseOptions, hentries, hlookup]

/-- A document that gives options to a name has dialects. -/
theorem exists_dialects_of_asked {path name : String} {v options : Value}
    (h : chooseOptions path v (some name) = .ok options) :
    ∃ dialects, Value.under (.text "dialects") [v] = some dialects := by
  cases hunder : Value.under (.text "dialects") [v] with
  | some dialects => exact ⟨dialects, rfl⟩
  | none =>
    exfalso
    by_cases hkind : v.isTruthy = false ∨ v.isMapping = true
    · rw [chooseOptions_of_no_dialects path hkind hunder] at h
      cases h
    · rw [not_or, Bool.not_eq_false, Bool.not_eq_true] at hkind
      have hself : orEmpty v = v := by rw [orEmpty, hkind.1, if_pos rfl]
      rw [chooseOptions, hself] at h
      cases v with
      | mapping entries => cases hkind.2
      | list items =>
        dsimp only at h
        split at h <;> cases h
      | set members =>
        dsimp only at h
        split at h <;> cases h
      | text s =>
        dsimp only at h
        split at h <;> cases h
      | _ => cases h

/-- The configuration of a document with dialects is that of the entry which the name picks. -/
theorem ofDocument_eq_ok_iff (path : String) {v dialects : Value}
    (h : Value.under (.text "dialects") [v] = some dialects) (asked : Option String) (c : Config) :
    ofDocument path v asked = .ok c ↔
      (∃ sets entry, dialects = .mapping sets ∧ (sought v asked).isKey = true ∧
        Value.under (sought v asked) [.mapping sets, v] = some entry ∧ Gives entry c) ∨
      ∃ entry, PicksByNumber dialects (sought v asked) entry ∧
        Gives (entry.within [dialects, v]) c := by
  have hentry : ofDocument path v asked = .ok c ↔
      ∃ entry, pick (orEmpty dialects) (sought v asked) = .ok entry ∧
        Gives (entry.within [dialects, v]) c := by
    simp only [ofDocument, chooseOptions_of_dialects path h, bind_eq_ok_iff,
      ← ofOptions_orEmpty_eq_ok_iff]
    constructor
    · rintro ⟨options, ⟨entry, hpick, hoptions⟩, hc⟩
      cases hoptions
      exact ⟨entry, hpick, hc⟩
    · rintro ⟨entry, hpick, hc⟩
      exact ⟨_, ⟨entry, hpick, rfl⟩, hc⟩
  rw [hentry]
  constructor
  · rintro ⟨entry, hpick, hc⟩
    rcases pick_orEmpty_eq_ok_iff.mp hpick with ⟨sets, rfl, hkey, hlookup⟩ | hnumber
    · refine Or.inl ⟨sets, _, rfl, hkey, ?_, hc⟩
      rw [Value.under, hlookup, Option.map_some]
    · exact Or.inr ⟨entry, hnumber, hc⟩
  · rintro (⟨sets, entry, rfl, hkey, hunder, hc⟩ | ⟨entry, hnumber, hc⟩)
    · obtain ⟨found, hfound, rfl⟩ := Option.map_eq_some_iff.mp hunder
      exact ⟨found, pick_orEmpty_eq_ok_iff.mpr (Or.inl ⟨sets, rfl, hkey, hfound⟩), hc⟩
    · exact ⟨entry, pick_orEmpty_eq_ok_iff.mpr (Or.inr hnumber), hc⟩

theorem not_picksByNumber_text (dialects : Value) (name : String) (entry : Value) :
    ¬PicksByNumber dialects (.text name) entry := by
  rintro ⟨n, hn, -⟩
  cases hn

end Config

/-! ### Option files -/

namespace Disk

variable {d : Disk} {p : FilePath}

theorem readConfig_of_value {v : Value} (h : d.readValue p = .ok v) (asked : Option String) :
    d.readConfig p asked = Config.ofDocument p.render v asked := by
  rw [readConfig, readOptions, h]
  rfl

theorem exists_value_of_readConfig {asked : Option String} {c : Config}
    (h : d.readConfig p asked = .ok c) : ∃ v, d.readValue p = .ok v := by
  obtain ⟨options, hoptions, -⟩ := bind_eq_ok_iff.mp h
  obtain ⟨v, hv, -⟩ := bind_eq_ok_iff.mp hoptions
  exact ⟨v, hv⟩

end Disk

/-- **A dialect decides which options there are.**  If a dialect is asked for by a name that is not
    empty, a file gives a configuration exactly if it holds a mapping of dialects with an entry of
    this name, and then it is that of the entry.  Without a name, a file with dialects gives that of
    the entry under its default; but if the default is a number, it may pick an item of a list
    instead.  A file without dialects gives its own options if none is asked for, and else none. -/
theorem dialect_decides_options (d : Disk) (p : FilePath) :
    (∀ name, name ≠ "" → ∀ c, d.readConfig p (some name) = .ok c ↔
      ∃ v sets entry, d.readValue p = .ok v ∧
        Value.under (.text "dialects") [v] = some (.mapping sets) ∧
        Value.under (.text name) [.mapping sets, v] = some entry ∧ Config.Gives entry c) ∧
    (∀ v dialects, d.readValue p = .ok v → Value.under (.text "dialects") [v] = some dialects →
      ∀ asked, asked = none ∨ asked = some "" → ∀ c, d.readConfig p asked = .ok c ↔
        (∃ sets entry, dialects = .mapping sets ∧ (Config.fallback v).isKey = true ∧
          Value.under (Config.fallback v) [.mapping sets, v] = some entry ∧
          Config.Gives entry c) ∨
        ∃ entry, Config.PicksByNumber dialects (Config.fallback v) entry ∧
          Config.Gives (entry.within [dialects, v]) c) ∧
    ∀ v, d.readValue p = .ok v → v.isTruthy = false ∨ v.isMapping = true →
      Value.under (.text "dialects") [v] = none →
      d.readConfig p none = Config.ofOptions (Config.orEmpty v) ∧
      ∀ name, d.readConfig p (some name) = .error (.noDialects p.render) := by
  refine ⟨?_, ?_, ?_⟩
  · intro name hname c
    have hsought (v : Value) : Config.sought v (some name) = .text name := if_neg hname
    constructor
    · intro h
      obtain ⟨v, hv⟩ := Disk.exists_value_of_readConfig h
      rw [Disk.readConfig_of_value hv] at h
      obtain ⟨options, hchoose, -⟩ := bind_eq_ok_iff.mp h
      obtain ⟨dialects, hdialects⟩ := Config.exists_dialects_of_asked hchoose
      rw [Config.ofDocument_eq_ok_iff _ hdialects, hsought] at h
      rcases h with ⟨sets, entry, rfl, -, hentry, hc⟩ | ⟨entry, hnumber, -⟩
      · exact ⟨v, sets, entry, hv, hdialects, hentry, hc⟩
      · exact absurd hnumber (Config.not_picksByNumber_text _ _ _)
    · rintro ⟨v, sets, entry, hv, hdialects, hentry, hc⟩
      rw [Disk.readConfig_of_value hv, Config.ofDocument_eq_ok_iff _ hdialects, hsought]
      exact Or.inl ⟨sets, entry, rfl, rfl, hentry, hc⟩
  · intro v dialects hv hdialects asked hasked c
    have hsought : Config.sought v asked = Config.fallback v := by
      rcases hasked with rfl | rfl <;> rfl
    rw [Disk.readConfig_of_value hv, Config.ofDocument_eq_ok_iff _ hdialects, hsought]
  · intro v hv hkind hdialects
    have hchoose := Config.chooseOptions_of_no_dialects p.render hkind hdialects
    refine ⟨?_, fun name => ?_⟩
    · rw [Disk.readConfig_of_value hv, Config.ofDocument, hchoose]
      rfl
    · rw [Disk.readConfig_of_value hv, Config.ofDocument, hchoose]
      rfl

/-- A file with two dialects and an option beside them, and a file whose default is the number of an
    item. -/
def optionFolder : Folder :=
  let bytes (s : String) : List UInt8 := s.toList.map fun c => c.toNat.toUInt8
  ⟨[(["c.yaml"], bytes "default: b\nheader: no\ndialects: \x7ba: , b: \x7bheader: h\x7d\x7d\n"),
    (["n.yaml"], bytes "dialects: [0]\ndefault: 0\n")]⟩

theorem optionFolder_dialects :
    optionFolder.disk.readConfig (.ofString "c.yaml") (some "a") = .ok {} ∧
    optionFolder.disk.readConfig (.ofString "c.yaml") none = .ok { header := some "h" } ∧
    ∃ v sets entry, optionFolder.disk.readValue (.ofString "c.yaml") = .ok v ∧
      Value.under (.text "dialects") [v] = some (.mapping sets) ∧
      Value.under (.text "a") [.mapping sets, v] = some entry ∧ Config.Gives entry {} := by
  have hasked : optionFolder.disk.readConfig (.ofString "c.yaml") (some "a") = .ok {} := by
    decide +kernel
  have hdefault : optionFolder.disk.readConfig (.ofString "c.yaml") none =
      .ok { header := some "h" } := by decide +kernel
  exact ⟨hasked, hdefault,
    ((dialect_decides_options _ (.ofString "c.yaml")).1 "a" (by decide) {}).mp hasked⟩

/-- A list stands in place of the dialects, and still there is a configuration. -/
theorem numbered_default_picks_item :
    optionFolder.disk.readConfig (.ofString "n.yaml") none = .ok {} ∧
    (optionFolder.disk.readValue (.ofString "n.yaml")).toOption.bind (fun v =>
      (Value.under (.text "dialects") [v]).map Value.isMapping) = some false :=
  ⟨by decide +kernel, by decide +kernel⟩

end FormulaQuery
