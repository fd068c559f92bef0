/-
  FormulaQuery/Proofs/Options.lean
  ================================
  **What options can change.**  The texts of a query come from its main element;
  options choose which of them are written and what stands around them.  So two
  generations for one main element with different options either fail with the
  same error or give two queries that are written from the same texts, and they
  leave the same wildcard table (`options_choose_among_texts`).

  The option on lengths is read in the middle of the walk over the formula, next
  to the records of paths and wildcards.  That it touches nothing else is
  `Element.compile_ok`, where it stands in front of the child counts only.
-/
import FormulaQuery.Proofs.Outcome

namespace FormulaQuery

/-- The texts that a main element gives to its query. -/
structure QueryTexts where
  /-- The `for` clause with the exact-match constraint. -/
  binding : String
  lengths : String
  equalities : String
  map : String
  deriving DecidableEq, Repr

namespace QueryTexts

/-- A `where` clause for the conditions that are not empty. -/
def asking (conditions : List String) : String :=
  match conditions.filter (· ≠ "") with
  | [] => ""
  | asked => "\nwhere\n" ++ Text.join "\n and " asked

/-- The query that is written from the texts with some options. -/
def write (t : QueryTexts) (c : Config) : String :=
  c.resolvedHeader ++ t.binding ++
    asking [if c.restrictLength then t.lengths else "", t.equalities] ++
    (if c.emitWildcardMap ∧ t.map ≠ "" then "\n" ++ t.map else "") ++
    "\n\nreturn\n" ++ c.resolvedFooter

end QueryTexts

theorem Clauses.whereClause_eq_asking (c : Clauses) :
    c.whereClause = QueryTexts.asking [c.lengths, c.equalities] := by
  by_cases hlengths : c.lengths = ""
  · by_cases hequalities : c.equalities = ""
    · simp [whereClause, QueryTexts.asking, hlengths, hequalities]
    · simp [whereClause, QueryTexts.asking, hlengths, hequalities, Text.join]
  · by_cases hequalities : c.equalities = ""
    · simp [whereClause, QueryTexts.asking, hlengths, hequalities, Text.join]
    · simp [whereClause, QueryTexts.asking, hlengths, hequalities, Text.join, String.append_assoc]

namespace Element

/-- The texts of the query of a main element; without an element child there are none. -/
def queryTexts? (main : Element) : Option QueryTexts :=
  main.firstElement?.map fun child =>
    { binding := "for $x in $m//*:" ++ child.tag.localName ++ "\n" ++
        RootCondition.renderAll main.content.rootConditions
      lengths := Text.join "\n and " (main.content.rootLengthFacts.map LengthFact.render)
      equalities := main.wildcardTable.equalities
      map := main.wildcardTable.binding }

theorem query_clauses {main child : Element} (hfirst : main.firstElement? = some child)
    (c : Config) :
    ∃ texts, main.queryTexts? = some texts ∧
      (main.clauses c).query child.tag.localName = texts.write c := by
  refine ⟨_, by rw [queryTexts?, hfirst, Option.map_some], ?_⟩
  rw [Clauses.query, Clauses.whereClause_eq_asking, QueryTexts.write]
  have hlengths : (main.clauses c).lengths = if c.restrictLength then
      Text.join "\n and " (main.content.rootLengthFacts.map LengthFact.render) else "" := by
    cases hrestrict : c.restrictLength <;> simp [clauses, hrestrict, Text.join]
  have hmap : (main.clauses c).mapClause =
      if c.emitWildcardMap ∧ main.wildcardTable.binding ≠ "" then
        "\n" ++ main.wildcardTable.binding else "" := by
    cases hemit : c.emitWildcardMap <;> simp [Clauses.mapClause, clauses, hemit]
  rw [hlengths, hmap]
  simp only [clauses, String.append_assoc]

end Element

/-- Without lengths, a query is written as if there were none in the texts. -/
theorem QueryTexts.write_without_lengths (t : QueryTexts) (c : Config) :
    t.write { c with restrictLength := false } =
      ({ t with lengths := "" } : QueryTexts).write c := by
  simp only [write, Bool.false_eq_true, if_false, ite_self]
  rfl

/-- What a generation comes to before any option is looked at. -/
def outline : Option Element → Except QueryError (Option QueryTexts)
  | none => .ok none
  | some main =>
    match unnamed? main.wildcards, main.queryTexts? with
    | some p, _ => .error (.unnamedWildcard p)
    | none, none => .error (.emptyExpression main.qualifiedName)
    | none, some texts => .ok (some texts)

namespace Generator

def withConfig (g : Generator) (c : Config) : Generator := { g with config := c }

@[simp] theorem withConfig_main (g : Generator) (c : Config) : (g.withConfig c).main = g.main := rfl

@[simp] theorem withConfig_config (g : Generator) (c : Config) : (g.withConfig c).config = c := rfl

/-- **Options are looked at last.**  The outcome is decided by the main element, and the
    options only write the query from the texts. -/
theorem generate_eq_outline (g : Generator) :
    g.generate.2 = (outline g.main).map (Option.map (·.write g.config)) := by
  cases hmain : g.main with
  | none => rw [generate_of_none hmain, outline]; rfl
  | some main =>
    cases hnamed : unnamed? main.wildcards with
    -- whether there is a child is not asked any more: the walk comes before the assembly
    | some p => rw [generate_of_unnamed hmain hnamed, outline, hnamed]; rfl
    | none =>
      cases hfirst : main.firstElement? with
      | none =>
        have htexts : main.queryTexts? = none := by rw [Element.queryTexts?, hfirst]; rfl
        rw [generate_of_named hmain hnamed, outline, hnamed, htexts, Clauses.assemble, hfirst]
        rfl
      | some child =>
        obtain ⟨texts, htexts, hquery⟩ := Element.query_clauses hfirst g.config
        rw [generate_of_child hmain hnamed hfirst, outline, hnamed, htexts, hquery]
        rfl

theorem generate_wildcards (g : Generator) :
    g.generate.1.wildcards =
      match g.main with
      | none => g.wildcards
      | some main =>
        if unnamed? main.wildcards = none then main.wildcardTable else g.wildcards := by
  cases hmain : g.main with
  | none => rw [generate_of_none hmain]
  | some main =>
    cases hnamed : unnamed? main.wildcards with
    | some p => simp [generate_of_unnamed hmain hnamed, hnamed]
    | none => simp [generate_of_named hmain hnamed, hnamed]

/-- **Options choose among the texts of the main element.**  With any two options a
    generation has the same kind of outcome, an error included, and leaves the same wildcard
    table.  If there is a query, both queries are written from the same texts; and without
    lengths, the query is written from the texts less the lengths. -/
theorem options_choose_among_texts (g : Generator) (c₁ c₂ : Config) :
    (g.withConfig c₁).generate.2.map Option.isSome =
      (g.withConfig c₂).generate.2.map Option.isSome ∧
    (g.withConfig c₁).generate.1.wildcards = (g.withConfig c₂).generate.1.wildcards ∧
    ∀ main query, g.main = some main → (g.withConfig c₁).generate.2 = .ok (some query) →
      ∃ texts, main.queryTexts? = some texts ∧ query = texts.write c₁ ∧
        (g.withConfig c₂).generate.2 = .ok (some (texts.write c₂)) ∧
        (g.withConfig { c₁ with restrictLength := false }).generate.2 =
          .ok (some (({ texts with lengths := "" } : QueryTexts).write c₁)) := by
  refine ⟨?_, ?_, ?_⟩
  · simp only [generate_eq_outline, withConfig_main, withConfig_config]
    cases outline g.main with
    | error e => rfl
    | ok texts => cases texts <;> rfl
  · rw [generate_wildcards, generate_wildcards]
    rfl
  · intro main query hmain hquery
    simp only [generate_eq_outline, withConfig_main, withConfig_config, hmain, outline] at hquery ⊢
    cases hnamed : unnamed? main.wildcards with
    | some p => simp [hnamed, Except.map] at hquery
    | none =>
      cases htexts : main.queryTexts? with
      | none => simp [hnamed, htexts, Except.map] at hquery
      | some texts =>
        have hwritten : query = texts.write c₁ := by
          simpa [hnamed, htexts, Except.map] using hquery.symm
        refine ⟨texts, rfl, hwritten, rfl, ?_⟩
        rw [← QueryTexts.write_without_lengths]
        rfl

/-- The sum of a wildcard with itself. -/
def doubled : Element where
  tag := { localName := "expr", qualifier := some "mws" }
  content :=
    .element { localName := "apply" }
      (.element { localName := "plus" } .nil <|
      .element { localName := "qvar", qualifier := some "mws" } (.text "x" .nil) <|
      .element { localName := "qvar", qualifier := some "mws" } (.text "x" .nil) .nil) .nil

def plainOptions : Config := { header := some "", footer := some "$x", emitWildcardMap := false }

theorem doubled_without_lengths :
    ((ofMain (some doubled) {}).withConfig plainOptions).generate.2 =
      .ok (some ("for $x in $m//*:apply\n[*[1]/name() = 'plus']\nwhere\n" ++
        "fn:count($x/*) = 3\n and $x/*[2] = $x/*[3]\n\nreturn\n$x")) ∧
    ((ofMain (some doubled) {}).withConfig
        { plainOptions with restrictLength := false }).generate.2 =
      .ok (some ("for $x in $m//*:apply\n[*[1]/name() = 'plus']\nwhere\n" ++
        "$x/*[2] = $x/*[3]\n\nreturn\n$x")) := by
  have hquery : ((ofMain (some doubled) {}).withConfig plainOptions).generate.2 =
      .ok (some ("for $x in $m//*:apply\n[*[1]/name() = 'plus']\nwhere\n" ++
        "fn:count($x/*) = 3\n and $x/*[2] = $x/*[3]\n\nreturn\n$x")) := by rfl
  obtain ⟨texts, htexts, -, -, hwithout⟩ :=
    (options_choose_among_texts (ofMain (some doubled) {}) plainOptions {}).2.2 doubled _ rfl hquery
  obtain rfl : _ = texts := Option.some.inj htexts
  exact ⟨hquery, hwithout⟩

end Generator

end FormulaQuery
