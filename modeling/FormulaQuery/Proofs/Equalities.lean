/-
  FormulaQuery/Proofs/Equalities.lean
  ===================================
  **Wildcards of one name match equal nodes.**  A session runs any number of
  compilations, and some of them may stop at a wildcard without a name.  What it
  has recorded then is what the compilations met, each seen from the path where
  the one before it left the session (`runAll_occurrences`).

  The equalities of its table compare the first occurrence of a name with each
  later one.  `equalities_state_same_name` says what their text is and that they
  state neither more nor less than this: occurrences of one name have the same
  value.
-/
import FormulaQuery.Proofs.ReadQuery
import FormulaQuery.Proofs.Translation
import Mathlib.Data.List.Nodup

namespace FormulaQuery

open Text (join)

namespace Session

/-! ### Sessions after some compilations -/

/-- An element that is compiled, as a main element or not. -/
structure Call where
  isMain : Bool
  element : Element

/-- The session after a compilation, whether it gives a text or stops. -/
def step (s : Session) (call : Call) : Session :=
  match (compileAs call.isMain call.element).run s with
  | .ok _ s' => s'
  | .error _ s' => s'

def runAll (s : Session) (calls : List Call) : Session := calls.foldl step s

namespace Call

/-- The wildcards on the way of a compilation. -/
def sightings (call : Call) : List Sighting :=
  if call.isMain then call.element.content.rootSightings 0 else call.element.content.sightings 0

/-- The wildcards that a compilation records: those in front of the first one without a name. -/
def recorded (call : Call) : List Occurrence :=
  occurrencesOf (call.sightings.takeWhile fun w => w.name.isSome)

/-- Where a compilation that starts at `p` leaves the session. -/
def leavesAt (call : Call) (p : Path) : Path :=
  match unnamed? call.sightings with
  | none => p
  | some q => (p ++ q).dropLast

theorem sightings_eq (call : Call) :
    call.sightings = sightingsOf (recordsAs call.isMain call.element) := by
  obtain ⟨isMain, element⟩ := call
  cases isMain with
  | true => exact (Content.sightingsOf_rootRecords _ 0).symm
  | false => exact (Content.sightingsOf_records _ 0).symm

end Call

/-- What some compilations record, one after another, when the first one starts at `p`. -/
def met : Path → List Call → List Occurrence
  | _, [] => []
  | p, call :: calls => call.recorded.map (Occurrence.below p) ++ met (call.leavesAt p) calls

theorem takeWhile_of_goesOn {rs : List Record} (h : ∀ r ∈ rs, r.GoesOn) (ws : List Sighting) :
    (sightingsOf rs ++ ws).takeWhile (fun w => w.name.isSome) =
      sightingsOf rs ++ ws.takeWhile fun w => w.name.isSome := by
  apply List.takeWhile_append_of_pos
  intro w hw
  obtain ⟨name, hname⟩ := exists_name_of_unnamed? (unnamed?_of_goesOn h) hw
  rw [hname, Option.isSome_some]

/-- A compilation adds what it records behind the records of the session. -/
theorem step_recorded (s : Session) (call : Call) :
    (s.step call).occurrences = s.occurrences ++ call.recorded.map (Occurrence.below s.path) ∧
      (s.step call).path = call.leavesAt s.path := by
  obtain ⟨text, hreplay⟩ := compileAs_eq_replay call.isMain call.element
  rw [step, hreplay, Call.recorded, Call.leavesAt, call.sightings_eq]
  rcases goesOn_or_stops (recordsAs call.isMain call.element) with
    hall | ⟨made, p, left, hrecords, hmade⟩
  · have hfront := takeWhile_of_goesOn hall []
    rw [List.append_nil, List.takeWhile_nil, List.append_nil] at hfront
    rw [run_replay_of_goesOn hall, hfront, unnamed?_of_goesOn hall]
    exact ⟨rfl, rfl⟩
  · have hfront := takeWhile_of_goesOn hmade (⟨p, none⟩ :: sightingsOf left)
    rw [List.takeWhile_cons_of_neg (by simp), List.append_nil] at hfront
    rw [hrecords, run_replay_of_stops hmade, unnamed?_of_stops hmade, sightingsOf_append,
      sightingsOf_cons_wildcard, hfront]
    exact ⟨rfl, rfl⟩

/-- **A session has recorded what its compilations met.** -/
theorem runAll_occurrences (s : Session) (calls : List Call) :
    (s.runAll calls).occurrences = s.occurrences ++ met s.path calls := by
  induction calls generalizing s with
  | nil => exact (List.append_nil _).symm
  | cons call calls ih =>
    obtain ⟨hrecorded, hpath⟩ := s.step_recorded call
    have hrest := ih (s.step call)
    rw [hrecorded, hpath, List.append_assoc] at hrest
    exact hrest

end Session

/-! ### Equations -/

/-- The first path with each later one. -/
def equated : List Path → List (Path × Path)
  | [] => []
  | first :: others => others.map fun other => (first, other)

def equationText (e : Path × Path) : String := "$x" ++ e.1.render ++ " = $x" ++ e.2.render

/-- The equations of the names that occur more than once, in the order in which the names
    first occur. -/
def equations (os : List Occurrence) : List (List (Path × Path)) :=
  ((os.map Occurrence.name).eraseDups.filter fun name => 2 ≤ (pathsNamed os name).length).map
    fun name => equated (pathsNamed os name)

theorem equated_eq_nil_iff (paths : List Path) : equated paths = [] ↔ paths.length < 2 := by
  match paths with
  | [] => simp [equated]
  | [p] => simp [equated]
  | p :: q :: paths => simp [equated]

theorem length_equated {paths : List Path} (h : paths ≠ []) :
    (equated paths).length + 1 = paths.length := by
  cases paths with
  | nil => exact absurd rfl h
  | cons first others => simp [equated]

/-- All values are equal exactly if each one equals the first. -/
theorem equated_hold_iff {α : Type*} (value : Path → α) (paths : List Path) :
    (∀ e ∈ equated paths, value e.1 = value e.2) ↔
      ∀ p ∈ paths, ∀ q ∈ paths, value p = value q := by
  cases paths with
  | nil => simp [equated]
  | cons first others =>
    simp only [equated, List.forall_mem_map]
    constructor
    · intro h p hp q hq
      have hfirst : ∀ r ∈ first :: others, value first = value r := by
        intro r hr
        rcases List.mem_cons.mp hr with rfl | hr
        · rfl
        · exact h r hr
      exact (hfirst p hp).symm.trans (hfirst q hq)
    · intro h other hother
      exact h first List.mem_cons_self other (List.mem_cons_of_mem _ hother)

theorem pathsNamed_ne_nil {os : List Occurrence} {name : String}
    (h : name ∈ (os.map Occurrence.name).eraseDups) : pathsNamed os name ≠ [] := by
  obtain ⟨o, ho, rfl⟩ := List.mem_map.mp (List.mem_eraseDups.mp h)
  exact List.ne_nil_of_mem (mem_pathsNamed.mpr ho)

theorem length_pathsNamed (os : List Occurrence) (name : String) :
    (pathsNamed os name).length = (os.map Occurrence.name).count name := by
  rw [pathsNamed, List.length_map, List.count, List.countP_map, List.countP_eq_length_filter]
  congr 1

/-- The equations of the names that occur once are none, so they may be put in. -/
theorem flatten_equations (os : List Occurrence) :
    (equations os).flatten =
      (os.map Occurrence.name).eraseDups.flatMap fun name => equated (pathsNamed os name) := by
  rw [equations, ← List.flatMap_def]
  induction (os.map Occurrence.name).eraseDups with
  | nil => rfl
  | cons name names ih =>
    rw [List.flatMap_cons, ← ih]
    by_cases h : 2 ≤ (pathsNamed os name).length
    · rw [List.filter_cons_of_pos (by simpa using h), List.flatMap_cons]
    · rw [List.filter_cons_of_neg (by simpa using h),
        (equated_eq_nil_iff _).mpr (Nat.lt_of_not_le h), List.nil_append]

theorem flatten_equations_eq_nil_iff (os : List Occurrence) :
    (equations os).flatten = [] ↔ (os.map Occurrence.name).Nodup := by
  rw [flatten_equations, List.flatMap_eq_nil_iff, List.nodup_iff_count_le_one]
  simp only [equated_eq_nil_iff, length_pathsNamed, List.mem_eraseDups]
  constructor
  · intro h name
    by_cases hmem : name ∈ os.map Occurrence.name
    · exact Nat.le_of_lt_succ (h name hmem)
    · rw [List.count_eq_zero_of_not_mem hmem]
      exact Nat.zero_le 1
  · intro h name _
    exact Nat.lt_succ_of_le (h name)

/-- Each name has one equation less than occurrences. -/
theorem length_flatten_equations (os : List Occurrence) :
    (equations os).flatten.length + (os.map Occurrence.name).eraseDups.length = os.length := by
  have hpaths : ((os.map Occurrence.name).eraseDups.flatMap (pathsNamed os)).length = os.length := by
    have hperm := (WildcardTable.ofOccurrences_perm os).length_eq
    rw [WildcardTable.ofOccurrences_eq_grouped, WildcardTable.grouped, List.flatMap_map,
      List.length_map] at hperm
    exact hperm
  have hnames : ∀ names : List String, (∀ name ∈ names, pathsNamed os name ≠ []) →
      (names.flatMap fun name => equated (pathsNamed os name)).length + names.length =
        (names.flatMap (pathsNamed os)).length := by
    intro names hne
    induction names with
    | nil => rfl
    | cons name names ih =>
      obtain ⟨hname, hnames⟩ := List.forall_mem_cons.mp hne
      have hlength := length_equated hname
      have hrest := ih hnames
      simp only [List.flatMap_cons, List.length_append, List.length_cons]
      omega
  rw [flatten_equations, hnames _ fun name hname => pathsNamed_ne_nil hname, hpaths]

theorem flatten_equations_hold_iff {α : Type*} (value : Path → α) (os : List Occurrence) :
    (∀ e ∈ (equations os).flatten, value e.1 = value e.2) ↔
      ∀ o ∈ os, ∀ o' ∈ os, o.name = o'.name → value o.path = value o'.path := by
  simp only [flatten_equations, List.mem_flatMap, List.mem_eraseDups]
  constructor
  · intro h o ho o' ho' hname
    refine (equated_hold_iff value (pathsNamed os o.name)).mp ?_ o.path ?_ o'.path ?_
    · intro e he
      exact h e ⟨o.name, List.mem_map.mpr ⟨o, ho, rfl⟩, he⟩
    · exact mem_pathsNamed.mpr ho
    · rw [hname]
      exact mem_pathsNamed.mpr ho'
  · rintro h e ⟨name, -, he⟩
    refine (equated_hold_iff value (pathsNamed os name)).mpr ?_ e he
    intro p hp q hq
    exact h ⟨name, p⟩ (mem_pathsNamed.mp hp) ⟨name, q⟩ (mem_pathsNamed.mp hq) rfl

/-! ### The text of the equalities -/

namespace WildcardTable

universe u

theorem pairs_eq_map (paths : List Path) : pairs paths = (equated paths).map equationText := by
  cases paths with
  | nil => rfl
  | cons first others =>
    simp only [pairs, equated, List.map_map]
    apply List.map_congr_left
    intro other _
    simp only [Function.comp_apply, equationText, node, String.append_assoc]
    apply String.toList_injective
    simp

theorem groups_grouped (os : List Occurrence) :
    groups (grouped os) =
      (equations os).map fun group => join " and " (group.map equationText) := by
  rw [groups, grouped, equations]
  induction (os.map Occurrence.name).eraseDups with
  | nil => rfl
  | cons name names ih =>
    have hempty : (pairs (pathsNamed os name)).isEmpty = decide ((pathsNamed os name).length < 2) := by
      rw [pairs_eq_map, List.isEmpty_map, Bool.eq_iff_iff, List.isEmpty_iff, decide_eq_true_iff]
      exact equated_eq_nil_iff _
    simp only [List.map_cons, List.filterMap_cons, hempty, ih, List.filter_cons]
    by_cases h : 2 ≤ (pathsNamed os name).length
    · simp [h, Nat.not_lt.mpr h, pairs_eq_map]
    · simp [h, Nat.lt_of_not_le h]

theorem comparisons_grouped (os : List Occurrence) :
    comparisons (grouped os) =
      (equations os).flatten.map fun e => XPath.Comparison.same e.1 e.2 := by
  rw [flatten_equations, comparisons, grouped, List.flatMap_map, List.map_flatMap]
  congr 1
  funext name
  cases pathsNamed os name with
  | nil => rfl
  | cons first others => simp only [star, equated, List.map_map, Function.comp_def]

/-- The table of the occurrences `os` and its equalities: what they are, how many they are,
    and what they state. -/
structure EquatesNames (t : WildcardTable) (os : List Occurrence) : Prop where
  table : t = (os.map Occurrence.name).eraseDups.map fun name => (name, pathsNamed os name)
  nonempty : ∀ entry ∈ t, entry.2 ≠ []
  text : t.equalities =
    join "\n and " ((equations os).map fun group => join " and " (group.map equationText))
  read : ∀ rest, XPath.Ends rest → t.equalities ≠ "" →
    XPath.comparisons (t.equalities.toList.length + 1) (t.equalities.toList ++ rest) =
      some ((equations os).flatten.map fun e => .same e.1 e.2, rest)
  number : (equations os).flatten.length + t.length = os.length
  empty_iff : t.equalities = "" ↔ (os.map Occurrence.name).Nodup
  hold_iff : ∀ {α : Type u} (value : Path → α),
    (∀ e ∈ (equations os).flatten, value e.1 = value e.2) ↔
      ∀ o ∈ os, ∀ o' ∈ os, o.name = o'.name → value o.path = value o'.path

theorem equatesNames_ofOccurrences (os : List Occurrence) : (ofOccurrences os).EquatesNames os := by
  have hwritten := equalities_written (grouped os)
  rw [comparisons_grouped] at hwritten
  rw [ofOccurrences_eq_grouped]
  constructor
  case table => rfl
  case nonempty =>
    intro entry hentry
    obtain ⟨name, hname, rfl⟩ := List.mem_map.mp hentry
    exact pathsNamed_ne_nil hname
  case text => rw [equalities, groups_grouped]
  case read =>
    intro rest hrest hne
    rcases hwritten with ⟨-, hempty⟩ | hwritten
    · exact absurd hempty hne
    · exact XPath.comparisons_written hwritten hrest (Nat.lt_succ_self _)
  case number =>
    rw [grouped, List.length_map]
    exact length_flatten_equations os
  case empty_iff =>
    rw [← flatten_equations_eq_nil_iff]
    rcases hwritten with ⟨hnone, hempty⟩ | hwritten
    · exact iff_of_true hempty (List.map_eq_nil_iff.mp hnone)
    · refine iff_of_false hwritten.ne_empty ?_
      intro hnone
      rw [hnone] at hwritten
      cases hwritten
  case hold_iff =>
    intro α value
    exact flatten_equations_hold_iff value os

end WildcardTable

/-- **The equalities state that wildcards of one name have the same value**, in a session
    after any compilations, those that stopped included. -/
theorem Session.equalities_state_same_name (restrictLength : Bool) (calls : List Call) :
    (runAll { restrictLength := restrictLength } calls).table.EquatesNames (met [] calls) := by
  rw [table, runAll_occurrences, List.nil_append]
  exact WildcardTable.equatesNames_ofOccurrences _

-- the first compilation stops below its second child, and the next one goes on from there
example :
    let wildcard (name : String) : Content → Content :=
      .element { localName := "qvar", qualifier := some "mws", attributes := [("name", name)] } .nil
    let sum (content : Content) : Element := ⟨{ localName := "apply" }, content⟩
    let s := Session.runAll { restrictLength := true }
      [⟨false, sum (wildcard "x" (.element (sum .nil).tag (wildcard "x" (wildcard "" .nil)) .nil))⟩,
        ⟨false, sum (wildcard "y" (wildcard "x" .nil))⟩]
    s.table = [("x", [[1], [2, 1], [2, 2]]), ("y", [[2, 1]])] ∧
      s.table.equalities = "$x/*[1] = $x/*[2]/*[1] and $x/*[1] = $x/*[2]/*[2]" := by
  decide +kernel

end FormulaQuery
