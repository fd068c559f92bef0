/-
  FormulaQuery/Proofs/Walk.lean
  =============================
  **The walk of a session.**  A session is a machine with a path that grows and
  shrinks.  Here its results are said without the machine, by recursion over the
  content: the constraint, the child counts and the wildcards that are met, each
  wildcard with its path and with its name if it has one.

  A walk makes its records one after the other and stops at the first wildcard
  without a name.  So it is the replay of a list of records
  (`constrain_eq_replay`, `constrainRoot_eq_replay`), and a replay has two cases:
  all records are made, or those in front of the first unnamed wildcard
  (`run_replay_of_goesOn`, `run_replay_of_stops`).  `constrain_ok`,
  `constrain_error`, `constrainRoot_ok` and `constrainRoot_error` are these cases
  for the two walks, from any session.  Which case it is depends on the names of
  the wildcards alone.
-/
import FormulaQuery.Proofs.Descent

namespace FormulaQuery

open Text (trim)

/-! ### Records below a path -/

/-- A wildcard that a walk meets: where it stands, and its name if it has one. -/
structure Sighting where
  path : Path
  name : Option String
  deriving DecidableEq, Repr

/-- The sighting as seen from further up. -/
def Sighting.below (p : Path) (w : Sighting) : Sighting := ⟨p ++ w.path, w.name⟩

/-- What is recorded of a wildcard; without a name, nothing. -/
def Sighting.occurrence? (w : Sighting) : Option Occurrence :=
  w.name.map fun name => ⟨name, w.path⟩

def Occurrence.below (p : Path) (o : Occurrence) : Occurrence := ⟨o.name, p ++ o.path⟩

def LengthFact.below (p : Path) (f : LengthFact) : LengthFact := ⟨p ++ f.path, f.count⟩

@[simp] theorem Occurrence.below_nil : Occurrence.below [] = id := rfl

@[simp] theorem LengthFact.below_nil : LengthFact.below [] = id := rfl

theorem Occurrence.below_below (p q : Path) :
    Occurrence.below p ∘ Occurrence.below q = Occurrence.below (p ++ q) := by
  funext o
  simp only [Function.comp_apply, Occurrence.below, List.append_assoc]

theorem LengthFact.below_below (p q : Path) :
    LengthFact.below p ∘ LengthFact.below q = LengthFact.below (p ++ q) := by
  funext f
  simp only [Function.comp_apply, LengthFact.below, List.append_assoc]

/-- What a walk records: a wildcard where it meets one, the child count of an element
    where it leaves it. -/
inductive Record where
  | wildcard (w : Sighting)
  | length (f : LengthFact)
  deriving DecidableEq, Repr

namespace Record

def below (p : Path) : Record → Record
  | wildcard w => wildcard (w.below p)
  | length f => length (f.below p)

def wildcard? : Record → Option Sighting
  | wildcard w => some w
  | length _ => none

def length? : Record → Option LengthFact
  | wildcard _ => none
  | length f => some f

/-- A walk goes on behind this record: it is not a wildcard without a name. -/
def GoesOn : Record → Prop
  | wildcard w => w.name ≠ none
  | length _ => True

theorem wildcard?_below (p : Path) (r : Record) :
    (r.below p).wildcard? = r.wildcard?.map (Sighting.below p) := by
  cases r <;> rfl

theorem length?_below (p : Path) (r : Record) :
    (r.below p).length? = r.length?.map (LengthFact.below p) := by
  cases r <;> rfl

end Record

/-! ### The results of a walk over content -/

namespace Content

/-- The constraint that content puts on a candidate. -/
def constraint : Content → (before : Nat) → Constraint
  | nil, _ => .nil
  | text value rest, before => .text (trim value) (rest.constraint before)
  | element tag inner rest, before =>
    if tag.isWildcard then rest.constraint (before + 1)
    else if tag.isAnnotation then rest.constraint (before + 1)
    else if inner.isEmpty then .named (before + 1) tag.localName (rest.constraint (before + 1))
    else .nested (before + 1) tag.localName (inner.constraint 0) (rest.constraint (before + 1))

/-- The child counts, the innermost first. -/
def lengthFacts : Content → (before : Nat) → List LengthFact
  | nil, before => [⟨[], before⟩]
  | text _ rest, before => rest.lengthFacts before
  | element tag inner rest, before =>
    if tag.isWildcard || tag.isAnnotation || inner.isEmpty then rest.lengthFacts (before + 1)
    else (inner.lengthFacts 0).map (LengthFact.below [before + 1]) ++ rest.lengthFacts (before + 1)

/-- The wildcards in document order, none of them inside a wildcard or an annotation. -/
def sightings : Content → (before : Nat) → List Sighting
  | nil, _ => []
  | text _ rest, before => rest.sightings before
  | element tag inner rest, before =>
    if tag.isWildcard then ⟨[before + 1], wildcardName? tag inner⟩ :: rest.sightings (before + 1)
    else if tag.isAnnotation then rest.sightings (before + 1)
    else (inner.sightings 0).map (Sighting.below [before + 1]) ++ rest.sightings (before + 1)

/-- The conditions that the content of a main element puts on a candidate. -/
def rootConditions : Content → List RootCondition
  | nil => []
  | text value rest => .text (trim value) :: rest.rootConditions
  | element tag inner rest =>
    if tag.isWildcard || tag.isAnnotation then rest.rootConditions
    else .child (inner.constraint 0) :: rest.rootConditions

/-- The child counts recorded for the content of a main element; the paths start
    at its children. -/
def rootLengthFacts : Content → List LengthFact
  | nil => []
  | text _ rest => rest.rootLengthFacts
  | element tag inner rest =>
    if tag.isWildcard || tag.isAnnotation || inner.isEmpty then rest.rootLengthFacts
    else inner.lengthFacts 0 ++ rest.rootLengthFacts

/-- The wildcards met in the content of a main element.  A wildcard directly in it
    is found at its own index; below another child the path starts at that child. -/
def rootSightings : Content → (before : Nat) → List Sighting
  | nil, _ => []
  | text _ rest, before => rest.rootSightings before
  | element tag inner rest, before =>
    if tag.isWildcard then
      ⟨[before + 1], wildcardName? tag inner⟩ :: rest.rootSightings (before + 1)
    else if tag.isAnnotation then rest.rootSightings (before + 1)
    else inner.sightings 0 ++ rest.rootSightings (before + 1)

/-- Everything that a walk over content records, in the order of the walk. -/
def records : Content → (before : Nat) → List Record
  | nil, before => [.length ⟨[], before⟩]
  | text _ rest, before => rest.records before
  | element tag inner rest, before =>
    if tag.isWildcard then
      .wildcard ⟨[before + 1], wildcardName? tag inner⟩ :: rest.records (before + 1)
    else if tag.isAnnotation || inner.isEmpty then rest.records (before + 1)
    else (inner.records 0).map (Record.below [before + 1]) ++ rest.records (before + 1)

/-- Everything that a walk over the content of a main element records. -/
def rootRecords : Content → (before : Nat) → List Record
  | nil, _ => []
  | text _ rest, before => rest.rootRecords before
  | element tag inner rest, before =>
    if tag.isWildcard then
      .wildcard ⟨[before + 1], wildcardName? tag inner⟩ :: rest.rootRecords (before + 1)
    else if tag.isAnnotation || inner.isEmpty then rest.rootRecords (before + 1)
    else inner.records 0 ++ rest.rootRecords (before + 1)

theorem sightings_of_isEmpty {c : Content} (h : c.isEmpty = true) (before : Nat) :
    c.sightings before = [] := by
  rw [isEmpty_iff.mp h]
  rfl

theorem constraint_of_isEmpty {c : Content} (h : c.isEmpty = true) (before : Nat) :
    c.constraint before = .nil := by
  rw [isEmpty_iff.mp h]
  rfl

end Content

/-- The occurrences of the wildcards that have names. -/
def occurrencesOf (ws : List Sighting) : List Occurrence := ws.filterMap Sighting.occurrence?

/-- The path of the first wildcard without a name. -/
def unnamed? (ws : List Sighting) : Option Path :=
  (ws.find? fun w => w.name.isNone).map Sighting.path

@[simp] theorem occurrencesOf_nil : occurrencesOf [] = [] := rfl

theorem unnamed?_append (ws vs : List Sighting) :
    unnamed? (ws ++ vs) = (unnamed? ws).or (unnamed? vs) := by
  simp only [unnamed?, List.find?_append, Option.map_or]

@[simp] theorem unnamed?_cons_none (path : Path) (ws : List Sighting) :
    unnamed? (⟨path, none⟩ :: ws) = some path := by
  simp [unnamed?]

theorem exists_name_of_unnamed? {ws : List Sighting} (h : unnamed? ws = none) {w : Sighting}
    (hw : w ∈ ws) : ∃ name, w.name = some name := by
  simp only [unnamed?, Option.map_eq_none_iff, List.find?_eq_none] at h
  have hsome := h w hw
  cases hname : w.name with
  | none => simp [hname] at hsome
  | some name => exact ⟨name, rfl⟩

/-- The wildcards among records. -/
def sightingsOf (rs : List Record) : List Sighting := rs.filterMap Record.wildcard?

/-- The child counts among records. -/
def lengthsOf (rs : List Record) : List LengthFact := rs.filterMap Record.length?

theorem sightingsOf_cons_wildcard (w : Sighting) (rs : List Record) :
    sightingsOf (.wildcard w :: rs) = w :: sightingsOf rs := rfl

theorem lengthsOf_cons_wildcard (w : Sighting) (rs : List Record) :
    lengthsOf (.wildcard w :: rs) = lengthsOf rs := rfl

theorem sightingsOf_append (rs rs' : List Record) :
    sightingsOf (rs ++ rs') = sightingsOf rs ++ sightingsOf rs' := by
  simp only [sightingsOf, List.filterMap_append]

theorem lengthsOf_append (rs rs' : List Record) :
    lengthsOf (rs ++ rs') = lengthsOf rs ++ lengthsOf rs' := by
  simp only [lengthsOf, List.filterMap_append]

theorem sightingsOf_map_below (p : Path) (rs : List Record) :
    sightingsOf (rs.map (Record.below p)) = (sightingsOf rs).map (Sighting.below p) := by
  simp only [sightingsOf, List.filterMap_map, List.map_filterMap]
  congr 1
  funext r
  exact r.wildcard?_below p

theorem lengthsOf_map_below (p : Path) (rs : List Record) :
    lengthsOf (rs.map (Record.below p)) = (lengthsOf rs).map (LengthFact.below p) := by
  simp only [lengthsOf, List.filterMap_map, List.map_filterMap]
  congr 1
  funext r
  exact r.length?_below p

/-- A walk makes all of the records, or stops at the first wildcard without a name. -/
theorem goesOn_or_stops (rs : List Record) :
    (∀ r ∈ rs, r.GoesOn) ∨
      ∃ made p left, rs = made ++ .wildcard ⟨p, none⟩ :: left ∧ ∀ r ∈ made, r.GoesOn := by
  induction rs with
  | nil => exact Or.inl (by simp)
  | cons r rs ih =>
    by_cases hr : r.GoesOn
    · rcases ih with hall | ⟨made, p, left, rfl, hmade⟩
      · exact Or.inl (List.forall_mem_cons.mpr ⟨hr, hall⟩)
      · exact Or.inr ⟨r :: made, p, left, rfl, List.forall_mem_cons.mpr ⟨hr, hmade⟩⟩
    · cases r with
      | length f => exact absurd trivial hr
      | wildcard w =>
        obtain ⟨p, name⟩ := w
        obtain rfl : name = none := Decidable.not_not.mp hr
        exact Or.inr ⟨[], p, rs, rfl, by simp⟩

theorem unnamed?_of_goesOn {rs : List Record} (h : ∀ r ∈ rs, r.GoesOn) :
    unnamed? (sightingsOf rs) = none := by
  simp only [unnamed?, Option.map_eq_none_iff, List.find?_eq_none]
  intro w hw
  obtain ⟨r, hr, hsome⟩ := List.mem_filterMap.mp hw
  cases r with
  | length f => cases hsome
  | wildcard v =>
    obtain rfl : v = w := Option.some.inj hsome
    have hname : v.name ≠ none := h _ hr
    simpa using hname

theorem unnamed?_of_stops {made left : List Record} {p : Path} (h : ∀ r ∈ made, r.GoesOn) :
    unnamed? (sightingsOf (made ++ .wildcard ⟨p, none⟩ :: left)) = some p := by
  rw [sightingsOf_append, unnamed?_append, unnamed?_of_goesOn h, Option.none_or,
    sightingsOf_cons_wildcard, unnamed?_cons_none]

namespace Content

theorem sightingsOf_records (c : Content) (before : Nat) :
    sightingsOf (c.records before) = c.sightings before := by
  induction c generalizing before with
  | nil => rfl
  | text value rest ih => exact ih before
  | element tag inner rest ihi ihr =>
    have hrest := ihr (before + 1)
    rw [records, sightings]
    cases hw : tag.isWildcard with
    | true => simpa [sightingsOf_cons_wildcard] using hrest
    | false =>
      cases ha : tag.isAnnotation with
      | true => simpa using hrest
      | false =>
        cases he : inner.isEmpty with
        | true => simpa [sightings_of_isEmpty he] using hrest
        | false => simp [sightingsOf_append, sightingsOf_map_below, ihi, hrest]

theorem lengthsOf_records (c : Content) (before : Nat) :
    lengthsOf (c.records before) = c.lengthFacts before := by
  induction c generalizing before with
  | nil => rfl
  | text value rest ih => exact ih before
  | element tag inner rest ihi ihr =>
    have hrest := ihr (before + 1)
    rw [records, lengthFacts]
    cases hw : tag.isWildcard with
    | true => simpa [lengthsOf_cons_wildcard] using hrest
    | false =>
      cases hskip : tag.isAnnotation || inner.isEmpty with
      | true => simpa [hskip] using hrest
      | false => simp [hskip, lengthsOf_append, lengthsOf_map_below, ihi, hrest]

theorem sightingsOf_rootRecords (c : Content) (before : Nat) :
    sightingsOf (c.rootRecords before) = c.rootSightings before := by
  induction c generalizing before with
  | nil => rfl
  | text value rest ih => exact ih before
  | element tag inner rest _ ihr =>
    have hrest := ihr (before + 1)
    rw [rootRecords, rootSightings]
    cases hw : tag.isWildcard with
    | true => simpa [sightingsOf_cons_wildcard] using hrest
    | false =>
      cases ha : tag.isAnnotation with
      | true => simpa using hrest
      | false =>
        cases he : inner.isEmpty with
        | true => simpa [sightings_of_isEmpty he] using hrest
        | false => simp [sightingsOf_append, sightingsOf_records, hrest]

theorem lengthsOf_rootRecords (c : Content) (before : Nat) :
    lengthsOf (c.rootRecords before) = c.rootLengthFacts := by
  induction c generalizing before with
  | nil => rfl
  | text value rest ih => exact ih before
  | element tag inner rest _ ihr =>
    have hrest := ihr (before + 1)
    rw [rootRecords, rootLengthFacts]
    cases hw : tag.isWildcard with
    | true => simpa [lengthsOf_cons_wildcard] using hrest
    | false =>
      cases hskip : tag.isAnnotation || inner.isEmpty with
      | true => simpa [hskip] using hrest
      | false => simp [hskip, lengthsOf_append, lengthsOf_records, hrest]

end Content

/-! ### Walks of a session -/

namespace Session

/-- The session with more records, their paths seen from where it stands. -/
def record (s : Session) (os : List Occurrence) (fs : List LengthFact) : Session :=
  { s with
    occurrences := s.occurrences ++ os.map (Occurrence.below s.path)
    lengths := s.lengths ++ if s.restrictLength then fs.map (LengthFact.below s.path) else [] }

def entered (s : Session) (index : Nat) : Session := { s with path := s.path ++ [index] }

@[simp] theorem record_nil (s : Session) : s.record [] [] = s := by
  simp [record]

theorem record_record (s : Session) (os os' : List Occurrence) (fs fs' : List LengthFact) :
    (s.record os fs).record os' fs' = s.record (os ++ os') (fs ++ fs') := by
  cases hr : s.restrictLength <;> simp [record, hr]

theorem recordLength_run (s : Session) (count : Nat) :
    (recordLength count).run s = .ok () (s.record [] [⟨[], count⟩]) := by
  obtain ⟨restrictLength, path, occurrences, lengths⟩ := s
  cases restrictLength <;> simp [recordLength, record, LengthFact.below]

theorem recordWildcard_run_some (s : Session) {tag : Tag} {inner : Content} {name : String}
    (hname : wildcardName? tag inner = some name) (index : Nat) :
    (recordWildcard tag inner index).run s = .ok () (s.record [⟨name, [index]⟩] []) := by
  obtain ⟨restrictLength, path, occurrences, lengths⟩ := s
  cases restrictLength <;> simp [recordWildcard, hname, record, Occurrence.below]

theorem recordWildcard_run_none (s : Session) {tag : Tag} {inner : Content}
    (hname : wildcardName? tag inner = none) (index : Nat) :
    (recordWildcard tag inner index).run s = .error ⟨s.path ++ [index]⟩ s := by
  simp only [recordWildcard, hname, EStateM.run_bind, EStateM.run_get]
  rfl

/-- Stops at the wildcard with this path; the session stays at its parent. -/
def stop (p : Path) : Compile Unit := do
  let s ← get
  set { s with path := (s.path ++ p).dropLast }
  throw ⟨s.path ++ p⟩

/-- Makes the records in their order. -/
def replay : List Record → Compile Unit
  | [] => pure ()
  | .length f :: rs => do
    modify fun s => s.record [] [f]
    replay rs
  | .wildcard ⟨p, some name⟩ :: rs => do
    modify fun s => s.record [⟨name, p⟩] []
    replay rs
  | .wildcard ⟨p, none⟩ :: _ => stop p

theorem replay_append (rs rs' : List Record) :
    replay (rs ++ rs') = replay rs >>= fun _ => replay rs' := by
  fun_induction replay rs with
  | case1 => simp only [List.nil_append, pure_bind]
  | case2 f rs ih => simp only [List.cons_append, replay, ih, bind_assoc]
  | case3 p name rs ih => simp only [List.cons_append, replay, ih, bind_assoc]
  | case4 p rs =>
    simp only [List.cons_append, replay]
    rfl

theorem recordLength_eq_replay (count : Nat) :
    recordLength count = replay [.length ⟨[], count⟩] := by
  funext s
  exact recordLength_run s count

theorem recordWildcard_eq_replay (tag : Tag) (inner : Content) (index : Nat) :
    recordWildcard tag inner index = replay [.wildcard ⟨[index], wildcardName? tag inner⟩] := by
  funext s
  cases hname : wildcardName? tag inner with
  | some name => exact recordWildcard_run_some s hname index
  | none =>
    have hstay : { s with path := (s.path ++ [index]).dropLast } = s := by
      simp only [List.dropLast_concat]
    change (recordWildcard tag inner index).run s =
      .error ⟨s.path ++ [index]⟩ { s with path := (s.path ++ [index]).dropLast }
    rw [recordWildcard_run_none s hname, hstay]

section Within

variable {α : Type} (index : Nat) (k : Compile α)

theorem enter_leave : (enter index >>= fun _ => leave >>= fun _ => k) = k := by
  funext s
  have hs : { s.entered index with path := (s.entered index).path.dropLast } = s := by
    simp only [entered, List.dropLast_concat]
  exact congrArg k hs

theorem enter_record (os : List Occurrence) (fs : List LengthFact) :
    (enter index >>= fun _ => (modify fun s => s.record os fs) >>= fun _ => k) =
      (modify fun s => s.record (os.map (Occurrence.below [index]))
        (fs.map (LengthFact.below [index]))) >>= fun _ => enter index >>= fun _ => k := by
  funext s
  have hs : (s.entered index).record os fs =
      (s.record (os.map (Occurrence.below [index])) (fs.map (LengthFact.below [index]))).entered
        index := by
    simp only [record, entered, List.map_map, Occurrence.below_below, LengthFact.below_below]
    rfl
  exact congrArg k hs

theorem enter_stop (p : Path) :
    (enter index >>= fun _ => stop p >>= fun _ => k) = stop (index :: p) >>= fun _ => k := by
  funext s
  have hpath : s.path ++ [index] ++ p = s.path ++ index :: p := by
    rw [List.append_assoc, List.singleton_append]
  change EStateM.Result.error (UnnamedWildcard.mk (s.path ++ [index] ++ p))
    { s with path := (s.path ++ [index] ++ p).dropLast } = _
  rw [hpath]
  rfl

/-- Records made below a child are records of the parent, one step further down. -/
theorem replay_within (rs : List Record) :
    (enter index >>= fun _ => replay rs >>= fun _ => leave >>= fun _ => k) =
      replay (rs.map (Record.below [index])) >>= fun _ => k := by
  fun_induction replay rs with
  | case1 => simp only [pure_bind, enter_leave, List.map_nil, replay]
  | case2 f rs ih =>
    simp only [bind_assoc, enter_record, List.map_cons, List.map_nil, Record.below, replay, ih]
  | case3 p name rs ih =>
    simp only [bind_assoc, enter_record, List.map_cons, List.map_nil, Record.below, Sighting.below,
      Occurrence.below, replay, ih]
  | case4 p rs =>
    rw [List.map_cons, Record.below, Sighting.below, replay]
    exact enter_stop index _ p

end Within

/-- **A walk replays its records**, and then has the constraint. -/
theorem constrain_eq_replay (c : Content) (before : Nat) :
    constrain c before = replay (c.records before) >>= fun _ => pure (c.constraint before) := by
  induction c generalizing before with
  | nil => simp only [constrain, Content.records, Content.constraint, recordLength_eq_replay]
  | text value rest ih =>
    simp only [constrain, Content.records, Content.constraint, ih, bind_assoc, pure_bind]
  | element tag inner rest ihi ihr =>
    simp only [constrain, Content.records, Content.constraint]
    cases hw : tag.isWildcard with
    | true =>
      have hcons := replay_append [.wildcard ⟨[before + 1], wildcardName? tag inner⟩]
        (rest.records (before + 1))
      rw [List.singleton_append] at hcons
      simp only [if_true, recordWildcard_eq_replay, ihr, hcons, bind_assoc]
    | false =>
      cases ha : tag.isAnnotation with
      | true => simp only [if_true, if_false, Bool.false_eq_true, Bool.true_or, ihr]
      | false =>
        cases he : inner.isEmpty with
        | true =>
          simp only [if_true, if_false, Bool.false_eq_true, Bool.or_true, ihr, bind_assoc,
            pure_bind]
        | false =>
          simp only [if_false, Bool.false_eq_true, Bool.or_self, ihi, ihr, bind_assoc, pure_bind,
            replay_append, replay_within]

theorem constrainRoot_eq_replay (c : Content) (before : Nat) :
    constrainRoot c before = replay (c.rootRecords before) >>= fun _ => pure c.rootConditions := by
  induction c generalizing before with
  | nil => simp only [constrainRoot, Content.rootRecords, Content.rootConditions, replay, pure_bind]
  | text value rest ih =>
    simp only [constrainRoot, Content.rootRecords, Content.rootConditions, ih, bind_assoc,
      pure_bind]
  | element tag inner rest _ ihr =>
    simp only [constrainRoot, Content.rootRecords, Content.rootConditions]
    cases hw : tag.isWildcard with
    | true =>
      have hcons := replay_append [.wildcard ⟨[before + 1], wildcardName? tag inner⟩]
        (rest.rootRecords (before + 1))
      rw [List.singleton_append] at hcons
      simp only [if_true, Bool.true_or, recordWildcard_eq_replay, ihr, hcons, bind_assoc]
    | false =>
      cases ha : tag.isAnnotation with
      | true =>
        simp only [if_true, if_false, Bool.false_eq_true, Bool.or_true, Bool.true_or, ihr]
      | false =>
        cases he : inner.isEmpty with
        | true =>
          simp only [if_true, if_false, Bool.false_eq_true, Bool.or_true, Bool.or_self, ihr,
            bind_assoc, pure_bind, Content.constraint_of_isEmpty he]
        | false =>
          simp only [if_false, Bool.false_eq_true, Bool.or_self, constrain_eq_replay, ihr,
            bind_assoc, pure_bind, replay_append]

/-- The session with all of these records. -/
def recordAll (s : Session) (rs : List Record) : Session :=
  s.record (occurrencesOf (sightingsOf rs)) (lengthsOf rs)

theorem recordAll_cons_length (s : Session) (f : LengthFact) (rs : List Record) :
    s.recordAll (.length f :: rs) = (s.record [] [f]).recordAll rs := by
  rw [recordAll, recordAll, record_record]
  rfl

theorem recordAll_cons_wildcard (s : Session) (p : Path) (name : String) (rs : List Record) :
    s.recordAll (.wildcard ⟨p, some name⟩ :: rs) = (s.record [⟨name, p⟩] []).recordAll rs := by
  rw [recordAll, recordAll, record_record]
  rfl

variable {α : Type} {rs made left : List Record} {p : Path}

theorem run_replay_of_goesOn (h : ∀ r ∈ rs, r.GoesOn) (k : Compile α) (s : Session) :
    (replay rs >>= fun _ => k).run s = k.run (s.recordAll rs) := by
  fun_induction replay rs generalizing s with
  | case1 => rw [pure_bind, recordAll, sightingsOf, lengthsOf, List.filterMap_nil,
      List.filterMap_nil, occurrencesOf_nil, record_nil]
  | case2 f rs ih =>
    rw [recordAll_cons_length, bind_assoc]
    exact ih (fun r hr => h r (List.mem_cons_of_mem _ hr)) _
  | case3 p name rs ih =>
    rw [recordAll_cons_wildcard, bind_assoc]
    exact ih (fun r hr => h r (List.mem_cons_of_mem _ hr)) _
  | case4 p rs => exact absurd rfl (h _ List.mem_cons_self)

theorem run_replay_of_stops (h : ∀ r ∈ made, r.GoesOn) (k : Compile α) (s : Session) :
    (replay (made ++ .wildcard ⟨p, none⟩ :: left) >>= fun _ => k).run s =
      .error ⟨s.path ++ p⟩ { s.recordAll made with path := (s.path ++ p).dropLast } := by
  rw [replay_append, bind_assoc, run_replay_of_goesOn h]
  rfl

/-- The session behind the replay is determined by the wildcards and the child counts. -/
theorem run_replay_of_named (h : unnamed? (sightingsOf rs) = none) (k : Compile α) (s : Session) :
    (replay rs >>= fun _ => k).run s =
      k.run (s.record (occurrencesOf (sightingsOf rs)) (lengthsOf rs)) := by
  rcases goesOn_or_stops rs with hall | ⟨made, p, left, rfl, hmade⟩
  · exact run_replay_of_goesOn hall k s
  · rw [unnamed?_of_stops hmade] at h
    cases h

theorem run_replay_of_unnamed (h : unnamed? (sightingsOf rs) = some p) (k : Compile α)
    (s : Session) : ∃ s', (replay rs >>= fun _ => k).run s = .error ⟨s.path ++ p⟩ s' := by
  rcases goesOn_or_stops rs with hall | ⟨made, q, left, rfl, hmade⟩
  · rw [unnamed?_of_goesOn hall] at h
    cases h
  · rw [unnamed?_of_stops hmade, Option.some.injEq] at h
    subst h
    exact ⟨_, run_replay_of_stops hmade k s⟩

/-- **A walk without unnamed wildcards** gives the constraint, and records the wildcards
    and the child counts below the path where it started. -/
theorem constrain_ok (c : Content) (before : Nat) (s : Session)
    (h : unnamed? (c.sightings before) = none) :
    (constrain c before).run s =
      .ok (c.constraint before)
        (s.record (occurrencesOf (c.sightings before)) (c.lengthFacts before)) := by
  rw [← c.sightingsOf_records before] at h ⊢
  rw [constrain_eq_replay, run_replay_of_named h, c.lengthsOf_records before]
  rfl

/-- **A walk stops at the first unnamed wildcard** and reports its path. -/
theorem constrain_error (c : Content) (before : Nat) (s : Session) {p : Path}
    (h : unnamed? (c.sightings before) = some p) :
    ∃ s', (constrain c before).run s = .error ⟨s.path ++ p⟩ s' := by
  rw [← c.sightingsOf_records before] at h
  rw [constrain_eq_replay]
  exact run_replay_of_unnamed h _ s

theorem constrainRoot_ok (c : Content) (before : Nat) (s : Session)
    (h : unnamed? (c.rootSightings before) = none) :
    (constrainRoot c before).run s =
      .ok c.rootConditions
        (s.record (occurrencesOf (c.rootSightings before)) c.rootLengthFacts) := by
  rw [← c.sightingsOf_rootRecords before] at h ⊢
  rw [constrainRoot_eq_replay, run_replay_of_named h, c.lengthsOf_rootRecords before]
  rfl

theorem constrainRoot_error (c : Content) (before : Nat) (s : Session) {p : Path}
    (h : unnamed? (c.rootSightings before) = some p) :
    ∃ s', (constrainRoot c before).run s = .error ⟨s.path ++ p⟩ s' := by
  rw [← c.sightingsOf_rootRecords before] at h
  rw [constrainRoot_eq_replay]
  exact run_replay_of_unnamed h _ s

end Session

end FormulaQuery
