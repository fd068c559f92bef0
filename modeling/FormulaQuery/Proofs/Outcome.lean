/-
  FormulaQuery/Proofs/Outcome.lean
  ================================
  **What a generation comes to.**  A generation gives a query, nothing, or one of
  two errors.  Which of them it is can be read off the main element: whether it
  has an element child, and whether some wildcard that a compilation sees has no
  name (`generate_outcome`).

  Two things have to be said about the error for a wildcard.  It is the first one
  in document order, which is the dictionary order of paths from the main element
  (`unnamed?_eq_some_iff`).  And its path is reported without the first step,
  because the session does not enter a path for the children of the main element;
  only a wildcard that is such a child itself keeps its step
  (`rootSightings_eq_map`).
-/
import FormulaQuery.Proofs.History
import FormulaQuery.Proofs.NormalForm
import FormulaQuery.Proofs.Paths
import Mathlib.Data.List.TakeWhile

namespace FormulaQuery

/-! ### Wildcards without names -/

theorem Text.trimChars_eq_nil_iff (cs : List Char) :
    trimChars cs = [] ↔ ∀ c ∈ cs, isLayout c = true := by
  rw [trimChars, List.reverse_eq_nil_iff, List.dropWhile_eq_nil_iff]
  constructor
  · intro hinner
    cases hdrop : cs.dropWhile isLayout with
    | nil => exact List.dropWhile_eq_nil_iff.mp hdrop
    | cons c rest =>
      -- the first character left over is no layout, but has to be
      have hc : isLayout c = true := hinner c (by simp [hdrop])
      have hhead := List.head?_dropWhile_not isLayout cs
      rw [hdrop] at hhead
      simp [hc] at hhead
  · intro hall c hc
    exact hall c (List.dropWhile_subset isLayout (List.mem_reverse.mp hc))

theorem Text.trim_eq_empty_iff (s : String) : trim s = "" ↔ isBlank s = true := by
  rw [trim, String.ofList_eq_empty_iff, trimChars_eq_nil_iff, isBlank, List.all_eq_true]

/-- All text inside is layout, and the `name` attribute is missing or empty. -/
def Element.IsUnnamed (w : Element) : Prop :=
  Text.isBlank w.textContent = true ∧ ∀ name, w.attribute? "name" = some name → name = ""

theorem wildcardName?_eq_none_iff (w : Element) :
    wildcardName? w.tag w.content = none ↔ w.IsUnnamed := by
  have hblank := Text.trim_eq_empty_iff w.textContent
  rw [Element.IsUnnamed, ← hblank]
  simp only [wildcardName?, Element.textContent, Element.texts, Element.attribute?]
  by_cases hempty : Text.trim (Text.concat w.content.texts) = ""
  · rw [if_pos hempty]
    cases hname : w.tag.attribute? "name" with
    | none => simp [hempty]
    | some name => by_cases h : name = "" <;> simp [hempty, h]
  · simp [hempty]

namespace Element

/-- The wildcard is at this path from the main element, and no element on the way to it is
    a wildcard or an annotation. -/
def Shows (main : Element) (q : Path) (w : Element) : Prop :=
  w.tag.isWildcard = true ∧
    ∃ p v index, Reaches main p v ∧ v.child? index = some w ∧ q = p ++ [index]

theorem mem_sightings_iff_shows {main : Element} {q : Path} {name : Option String} :
    ⟨q, name⟩ ∈ main.content.sightings 0 ↔
      ∃ w, main.Shows q w ∧ wildcardName? w.tag w.content = name := by
  rw [mem_sightings]
  constructor
  · rintro ⟨p, v, index, w, hreach, hchild, ⟨hwild, hname⟩, hq⟩
    exact ⟨w, ⟨hwild, p, v, index, hreach, hchild, hq⟩, hname⟩
  · rintro ⟨w, ⟨hwild, p, v, index, hreach, hchild, hq⟩, hname⟩
    exact ⟨p, v, index, w, hreach, hchild, ⟨hwild, hname⟩, hq⟩

theorem mem_sightings_none_iff {main : Element} {q : Path} :
    ⟨q, none⟩ ∈ main.content.sightings 0 ↔ ∃ w, main.Shows q w ∧ w.IsUnnamed := by
  simp only [mem_sightings_iff_shows, wildcardName?_eq_none_iff]

/-- The path of the first wildcard without a name that a compilation sees, in document
    order: the dictionary order of the paths from the main element. -/
def FirstUnnamed (main : Element) (q : Path) : Prop :=
  (∃ w, main.Shows q w ∧ w.IsUnnamed) ∧
    ∀ q' w', main.Shows q' w' → w'.IsUnnamed → q' = q ∨ q < q'

end Element

/-! ### The first of them -/

/-- In a list that is ordered by paths, the first wildcard without a name is the one with
    the least path. -/
theorem unnamed?_eq_some_iff {ws : List Sighting} (hordered : ws.Pairwise Sighting.Before)
    {p : Path} :
    unnamed? ws = some p ↔ ⟨p, none⟩ ∈ ws ∧ ∀ q, ⟨q, none⟩ ∈ ws → q = p ∨ p < q := by
  have hfirst : ∀ {p : Path}, unnamed? ws = some p →
      ⟨p, none⟩ ∈ ws ∧ ∀ q, ⟨q, none⟩ ∈ ws → q = p ∨ p < q := by
    intro p h
    obtain ⟨⟨path, name⟩, hfind, rfl⟩ := Option.map_eq_some_iff.mp h
    obtain ⟨hnone, before, after, rfl, hbefore⟩ := List.find?_eq_some_iff_append.mp hfind
    obtain rfl : name = none := by simpa using hnone
    refine ⟨by simp, ?_⟩
    intro q hq
    rcases List.mem_append.mp hq with hq | hq
    · exact absurd (hbefore _ hq) (by simp)
    · rcases List.mem_cons.mp hq with heq | hq
      · exact Or.inl (congrArg Sighting.path heq)
      · have htail := (List.pairwise_append.mp hordered).2.1
        exact Or.inr ((List.pairwise_cons.mp htail).1 _ hq)
  constructor
  · exact hfirst
  · rintro ⟨hmem, hleast⟩
    cases hfound : unnamed? ws with
    | none =>
      obtain ⟨name, hname⟩ := exists_name_of_unnamed? hfound hmem
      cases hname
    | some p' =>
      obtain ⟨hmem', hleast'⟩ := hfirst hfound
      rcases hleast' p hmem with rfl | hlt
      · rfl
      · rcases hleast p' hmem' with rfl | hlt'
        · rfl
        · exact absurd hlt' (List.lt_asymm hlt)

/-! ### Reported paths -/

/-- A path from the main element as it is reported: without its first step, unless that is
    the only one. -/
def Path.reported : Path → Path
  | [index] => [index]
  | path => path.tail

def Sighting.reported (w : Sighting) : Sighting := ⟨w.path.reported, w.name⟩

/-- What the walk over a main element meets is what the walk over any element meets, with
    the paths as they are reported. -/
theorem Content.rootSightings_eq_map (c : Content) (before : Nat) :
    c.rootSightings before = (c.sightings before).map Sighting.reported := by
  induction c generalizing before with
  | nil => rfl
  | text value rest ih => exact ih before
  | element tag inner rest _ ih =>
    -- below a child every path has a further step, so the step to the child goes
    have hinner : ((inner.sightings 0).map (Sighting.below [before + 1])).map Sighting.reported =
        inner.sightings 0 := by
      rw [List.map_map]
      refine (List.map_congr_left ?_).trans (List.map_id _)
      rintro ⟨path, name⟩ hw
      obtain ⟨k, p, rfl, -⟩ := sightings_behind hw
      rfl
    simp only [rootSightings, sightings, ih]
    cases tag.isWildcard with
    | true => simp only [if_true, List.map_cons, Sighting.reported, Path.reported]
    | false =>
      cases tag.isAnnotation with
      | true => simp only [Bool.false_eq_true, if_false, if_true]
      | false => simp only [Bool.false_eq_true, if_false, List.map_append, hinner]

theorem unnamed?_map_reported (ws : List Sighting) :
    unnamed? (ws.map Sighting.reported) = (unnamed? ws).map Path.reported := by
  simp only [unnamed?, List.find?_map, Option.map_map]
  rfl

namespace Element

theorem unnamed?_wildcards (main : Element) :
    unnamed? main.wildcards = (unnamed? (main.content.sightings 0)).map Path.reported := by
  rw [wildcards, Content.rootSightings_eq_map, unnamed?_map_reported]

theorem firstUnnamed_iff {main : Element} {q : Path} :
    main.FirstUnnamed q ↔ unnamed? (main.content.sightings 0) = some q := by
  simp only [unnamed?_eq_some_iff (main.content.sightings_ordered 0), mem_sightings_none_iff,
    FirstUnnamed, forall_exists_index, and_imp]

theorem unnamed?_wildcards_eq_some_iff {main : Element} {p : Path} :
    unnamed? main.wildcards = some p ↔ ∃ q, main.FirstUnnamed q ∧ q.reported = p := by
  simp only [unnamed?_wildcards, Option.map_eq_some_iff, firstUnnamed_iff]

theorem exists_unnamed?_wildcards_iff {main : Element} :
    (∃ p, unnamed? main.wildcards = some p) ↔ ∃ q w, main.Shows q w ∧ w.IsUnnamed := by
  simp only [unnamed?_wildcards, Option.map_eq_some_iff, ← mem_sightings_none_iff]
  constructor
  · rintro ⟨-, q, hq, -⟩
    exact ⟨q, ((unnamed?_eq_some_iff (main.content.sightings_ordered 0)).mp hq).1⟩
  · rintro ⟨q, hmem⟩
    cases hfound : unnamed? (main.content.sightings 0) with
    | none =>
      obtain ⟨name, hname⟩ := exists_name_of_unnamed? hfound hmem
      cases hname
    | some p => exact ⟨_, p, rfl, rfl⟩

end Element

/-! ### The four outcomes -/

namespace Generator

variable {g : Generator} {main : Element}

/-- Without element children there is no wildcard either, so only one error is possible. -/
theorem generate_of_childless (hmain : g.main = some main) (h : main.children = []) :
    g.generate.2 = .error (.emptyExpression main.qualifiedName) := by
  have hnamed : unnamed? main.wildcards = none := by
    rw [Element.wildcards, Content.rootSightings_of_children h]
    rfl
  have hfirst : main.firstElement? = none := Element.firstElement?_eq_none_iff.mpr h
  simp [generate_of_named hmain hnamed, Clauses.assemble, hfirst, Except.map]

theorem children_ne_nil_of_unnamed? {p : Path} (h : unnamed? main.wildcards = some p) :
    main.children ≠ [] := by
  intro hnil
  rw [Element.wildcards, Content.rootSightings_of_children hnil] at h
  cases h

/-- **What a generation comes to.**  There is nothing to give exactly if there is no main
    element.  Otherwise the generation fails at a wildcard exactly if some wildcard that a
    compilation sees has no name, and it reports the path of the first one; it fails for
    want of an expression exactly if there is no element child; and in all other cases
    there is a query. -/
theorem generate_outcome (g : Generator) :
    (g.generate.2 = .ok none ↔ g.main = none) ∧
    ∀ main, g.main = some main →
      ((∃ p, g.generate.2 = .error (.unnamedWildcard p)) ↔
        ∃ q w, main.Shows q w ∧ w.IsUnnamed) ∧
      (∀ p, g.generate.2 = .error (.unnamedWildcard p) ↔
        ∃ q, main.FirstUnnamed q ∧ q.reported = p) ∧
      ((∃ name, g.generate.2 = .error (.emptyExpression name)) ↔ main.children = []) ∧
      ((∃ query, g.generate.2 = .ok (some query)) ↔
        main.children ≠ [] ∧ ¬ ∃ q w, main.Shows q w ∧ w.IsUnnamed) := by
  constructor
  · cases hmain : g.main with
    | none => simp [generate_of_none hmain]
    | some main => simp [generate_ne_none hmain]
  · intro main hmain
    simp only [← Element.exists_unnamed?_wildcards_iff, ← Element.unnamed?_wildcards_eq_some_iff]
    cases hnamed : unnamed? main.wildcards with
    | some p =>
      have hchildren := children_ne_nil_of_unnamed? hnamed
      simp [generate_of_unnamed hmain hnamed, hchildren]
    | none =>
      by_cases hchildren : main.children = []
      · simp [generate_of_childless hmain hchildren, hchildren]
      · obtain ⟨child, hfirst⟩ : ∃ child, main.firstElement? = some child :=
          Option.ne_none_iff_exists'.mp fun h =>
            hchildren (Element.firstElement?_eq_none_iff.mp h)
        simp [generate_of_child hmain hnamed hfirst, hchildren]

/-- Wildcards without names: one inside an annotation, one inside a wildcard that has a name,
    one that is seen, and one directly in the main element, further behind. -/
def crowded : Element where
  tag := { localName := "expr", qualifier := some "mws" }
  content :=
    .element { localName := "apply" }
      (.element { localName := "annotation" }
        (.element { localName := "qvar", qualifier := some "mws" } .nil .nil) <|
      .element { localName := "qvar", qualifier := some "mws", attributes := [("name", "x")] }
        (.element { localName := "qvar", qualifier := some "mws" } .nil .nil) <|
      .element { localName := "apply" }
        (.element { localName := "qvar", qualifier := some "mws", attributes := [("name", "")] }
          (.text " " .nil) .nil) .nil) <|
    .element { localName := "qvar", qualifier := some "mws" } .nil .nil

theorem crowded_outcome :
    crowded.FirstUnnamed [1, 3, 1] ∧
    (ofMain (some crowded) {}).generate.2 = .error (.unnamedWildcard [3, 1]) := by
  have hfirst : crowded.FirstUnnamed [1, 3, 1] := Element.firstUnnamed_iff.mpr rfl
  have houtcome := (generate_outcome (ofMain (some crowded) {})).2 crowded rfl
  exact ⟨hfirst, (houtcome.2.1 [3, 1]).mpr ⟨[1, 3, 1], hfirst, rfl⟩⟩

end Generator

end FormulaQuery
