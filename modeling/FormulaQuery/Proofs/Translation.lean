/-
  FormulaQuery/Proofs/Translation.lean
  ====================================
  **Sessions that are used again.**  A session may hold a path and the records of
  earlier compilations, also of one that stopped half-way.  What a compilation
  does there is what it does in a new session, seen from the path: the outcome and
  the text are the same, and the new records stand behind the old ones, with the
  path in front of each (`compile_translates`).

  The reason is that a walk is the replay of records that do not depend on the
  session.  A compilation that stops has made exactly the records in front of the
  unnamed wildcard, and leaves the session at the parent of that wildcard.
-/
import FormulaQuery.Proofs.Table

namespace FormulaQuery

/-! ### Paths in entries -/

/-- The text with `inserted` behind the first place where `mark` stands. -/
def Text.insertBehind (mark inserted : List Char) : List Char → List Char
  | [] => []
  | c :: cs =>
    if mark.isPrefixOf (c :: cs) then mark ++ inserted ++ (c :: cs).drop mark.length
    else c :: insertBehind mark inserted cs

theorem Text.insertBehind_count (inserted tail : List Char) :
    insertBehind "$x".toList inserted ("fn:count($x".toList ++ tail) =
      "fn:count($x".toList ++ (inserted ++ tail) := rfl

namespace LengthFact

def entryBelow (p : Path) (entry : String) : String :=
  String.ofList (Text.insertBehind "$x".toList p.render.toList entry.toList)

theorem render_below (p : Path) (f : LengthFact) :
    (f.below p).render = entryBelow p f.render := by
  apply String.toList_injective
  simp only [entryBelow, render, below, Path.render_append, String.toList_ofList,
    String.toList_append, List.append_assoc, Text.insertBehind_count]

end LengthFact

/-! ### Sessions that are extended -/

namespace Session

/-- The last session has the records of the first one, and behind them those of the second
    one as seen from the path of the first one. -/
structure Extends (s fresh s' : Session) : Prop where
  restrictLength : s'.restrictLength = s.restrictLength
  lengths : s'.lengths = s.lengths ++ fresh.lengths.map (LengthFact.below s.path)
  entries : s'.lengths.map LengthFact.render =
    s.lengths.map LengthFact.render ++
      (fresh.lengths.map LengthFact.render).map (LengthFact.entryBelow s.path)
  table : s'.table = s.table.merge (fresh.table.below s.path)

/-- A session in which exactly these records were made. -/
structure Holds (s : Session) (rs : List Record) : Prop where
  table : s.table = WildcardTable.ofOccurrences (occurrencesOf (sightingsOf rs))
  lengths : s.lengths = if s.restrictLength then lengthsOf rs else []

/-- How a compilation with the records `rs` ends in a new session, and how it ends in `s`. -/
inductive Translated (s : Session) (rs : List Record) :
    (new used : EStateM.Result UnnamedWildcard Session String) → Prop
  | ok {text : String} {fresh s' : Session} (hrs : ∀ r ∈ rs, r.GoesOn) (hfresh : fresh.Holds rs)
      (hextends : s.Extends fresh s') (hpath : s'.path = s.path) :
      Translated s rs (.ok text fresh) (.ok text s')
  | error {p : Path} {made left : List Record} {fresh s' : Session}
      (hrs : rs = made ++ .wildcard ⟨p, none⟩ :: left) (hmade : ∀ r ∈ made, r.GoesOn)
      (hfresh : fresh.Holds made) (hextends : s.Extends fresh s')
      (hpath : s'.path = (s.path ++ p).dropLast) :
      Translated s rs (.error ⟨p⟩ fresh) (.error ⟨s.path ++ p⟩ s')

theorem Extends.moved {s fresh s' : Session} (h : s.Extends fresh s') (p q : Path) :
    s.Extends { fresh with path := p } { s' with path := q } :=
  ⟨h.restrictLength, h.lengths, h.entries, h.table⟩

theorem extends_recordAll (s : Session) (rs : List Record) :
    s.Extends (recordAll { restrictLength := s.restrictLength } rs) (s.recordAll rs) := by
  have hlengths : (s.recordAll rs).lengths = s.lengths ++
      (recordAll { restrictLength := s.restrictLength } rs).lengths.map
        (LengthFact.below s.path) := by
    cases hr : s.restrictLength with
    | true => simp [recordAll, record, hr]
    | false => simp [recordAll, record, hr]
  have hentries : LengthFact.render ∘ LengthFact.below s.path =
      LengthFact.entryBelow s.path ∘ LengthFact.render := funext (LengthFact.render_below s.path)
  refine ⟨rfl, hlengths, ?_, ?_⟩
  · rw [hlengths, List.map_append, List.map_map, List.map_map, hentries]
  · simp only [table, recordAll, record, WildcardTable.ofOccurrences_append,
      WildcardTable.ofOccurrences_map_below, Occurrence.below_nil, List.map_id, List.nil_append]

theorem holds_recordAll (restrictLength : Bool) (rs : List Record) (p : Path) :
    Holds { recordAll { restrictLength := restrictLength } rs with path := p } rs := by
  constructor
  · simp only [table, recordAll, record, Occurrence.below_nil, List.map_id, List.nil_append]
  · simp only [recordAll, record, LengthFact.below_nil, List.map_id, List.nil_append]

theorem replay_translates (s : Session) (rs : List Record) (text : String) :
    s.Translated rs
      ((replay rs >>= fun _ => pure text).run { restrictLength := s.restrictLength })
      ((replay rs >>= fun _ => pure text).run s) := by
  rcases goesOn_or_stops rs with hall | ⟨made, p, left, rfl, hmade⟩
  · rw [run_replay_of_goesOn hall, run_replay_of_goesOn hall]
    exact .ok hall (holds_recordAll _ rs []) (s.extends_recordAll rs) rfl
  · rw [run_replay_of_stops hmade, run_replay_of_stops hmade]
    exact .error rfl hmade (holds_recordAll _ made _) ((s.extends_recordAll made).moved _ _) rfl

/-! ### Compilations in a session -/

/-- The compilation of an element, as a main element or not. -/
def compileAs (isMain : Bool) (e : Element) : Compile String :=
  if isMain then compileMain e else compileNested e

def recordsAs (isMain : Bool) (e : Element) : List Record :=
  if isMain then e.content.rootRecords 0 else e.content.records 0

theorem compileAs_eq_replay (isMain : Bool) (e : Element) :
    ∃ text : String, compileAs isMain e = replay (recordsAs isMain e) >>= fun _ => pure text := by
  cases isMain with
  | true =>
    refine ⟨RootCondition.renderAll e.content.rootConditions, ?_⟩
    simp only [compileAs, compileMain, recordsAs, if_true, constrainRoot_eq_replay, bind_assoc,
      pure_bind]
  | false =>
    refine ⟨(e.content.constraint 0).render, ?_⟩
    simp only [compileAs, compileNested, recordsAs, if_false, Bool.false_eq_true,
      constrain_eq_replay, bind_assoc, pure_bind]

/-- **A session that is used again behaves like a new one.**  A compilation succeeds in it
    exactly if it succeeds in a new session, with the same text.  The table and the child
    counts are extended by those of the new session, with the path of the session in front,
    also where the compilation stops; then they are those in front of the unnamed wildcard. -/
theorem compile_translates (s : Session) (isMain : Bool) (e : Element) :
    s.Translated (recordsAs isMain e)
      ((compileAs isMain e).run { restrictLength := s.restrictLength })
      ((compileAs isMain e).run s) := by
  obtain ⟨text, hreplay⟩ := compileAs_eq_replay isMain e
  rw [hreplay]
  exact s.replay_translates (recordsAs isMain e) text

end Session

end FormulaQuery
