/-
  FormulaQuery/Proofs/MapClause.lean
  ==================================
  **What the map clause tells about the wildcards.**  The clause that binds `$q`
  writes each name between double quotes, as it stands, and the paths of its
  occurrences behind it.  Paths can be read back from such a text, but a name may
  hold the quotes and all that follows them.

  So the clause determines the table as long as no name holds the text that stands
  behind each name, `" : (data($x` (`eq_of_binding_eq`).  Without that it does not: the
  clause of two or more names is also the clause of one long name (`binding_joined`),
  and there is a formula with a wildcard of that name (`Element.exists_same_binding`).
  `map_clause_determines_table` puts the two together.
-/
import FormulaQuery.Proofs.Visible

namespace FormulaQuery

open Text (join)

/-! ### Texts that end at a mark -/

section Mark

variable {c : Char} {w n m s t : List Char}

/-- A mark whose first character does not come again in it has no other mark starting
    inside it. -/
theorem eq_nil_of_mark (hc : c ∉ w) (hn : ¬ c :: w <:+: n)
    (h : c :: w ++ s = n ++ (c :: w ++ t)) : n = [] := by
  cases n with
  | nil => rfl
  | cons d n =>
    exfalso
    rw [List.cons_append, List.cons_append, List.cons.injEq] at h
    obtain ⟨rfl, h⟩ := h
    rcases List.append_eq_append_iff.mp h with ⟨r, rfl, -⟩ | ⟨r, rfl, hr⟩
    · exact hn ⟨[], r, by simp⟩
    · cases r with
      | nil => exact hn ⟨[], [], by simp⟩
      | cons d r =>
        rw [List.cons_append, List.cons_append, List.cons.injEq] at hr
        exact hc (by simp [hr.1])

/-- A text is known by the mark behind it, if it does not hold the mark; of the other text
    this need not be known if the mark does not come again. -/
theorem cancel_mark (hc : c ∉ w) (hn : ¬ c :: w <:+: n) (hm : ¬ c :: w <:+: m ∨ c ∉ s)
    (h : n ++ (c :: w ++ s) = m ++ (c :: w ++ t)) : n = m ∧ s = t := by
  rcases List.append_eq_append_iff.mp h with ⟨r, rfl, hr⟩ | ⟨r, rfl, hr⟩
  · have hnil : r = [] := by
      rcases hm with hm | hs
      · exact eq_nil_of_mark hc (fun hin => hm (List.infix_append_of_infix_right hin)) hr
      · cases r with
        | nil => rfl
        | cons d r =>
          rw [List.cons_append, List.cons_append, List.cons.injEq] at hr
          have hmem : c ∈ w ++ s := by simp [hr.2]
          rcases List.mem_append.mp hmem with hw | hs'
          · exact absurd hw hc
          · exact absurd hs' hs
    subst hnil
    exact ⟨(List.append_nil n).symm, List.append_cancel_left hr⟩
  · have hnil : r = [] := eq_nil_of_mark hc (fun hin => hn (List.infix_append_of_infix_right hin)) hr
    subst hnil
    exact ⟨List.append_nil m, (List.append_cancel_left hr).symm⟩

end Mark

theorem Path.quote_notMem_render (p : Path) : '"' ∉ p.render.toList := by
  induction p with
  | nil => simp [Path.render, Text.concat]
  | cons k p ih =>
    have hnumber : '"' ∉ (toString k).toList := fun h => XPath.ne_of_mem_toString h rfl rfl
    have hrender : Path.render (k :: p) = Path.step k ++ Path.render p := rfl
    rw [hrender]
    simp only [Path.step, String.toList_append, List.mem_append, not_or]
    exact ⟨⟨⟨by decide, hnumber⟩, by decide⟩, ih⟩

theorem Path.render_cancel {p q : Path} {s t : List Char}
    (h : p.render.toList ++ ("/@".toList ++ s) = q.render.toList ++ ("/@".toList ++ t)) :
    p = q ∧ s = t := by
  have hread := XPath.node_render p (s := "/@".toList ++ s) rfl
  have hread' := XPath.node_render q (s := "/@".toList ++ t) rfl
  rw [WildcardTable.node, String.toList_append, List.append_assoc, h, ← List.append_assoc,
    ← String.toList_append, ← WildcardTable.node, hread', Option.some.injEq, Prod.mk.injEq] at hread
  exact ⟨hread.1.symm, (List.append_cancel_left hread.2).symm⟩

namespace WildcardTable

/-! ### Reading the clause -/

/-- The text behind a name: its closing quote and the start of its first path. -/
def nameEnd : String := "\" : (data($x"

/-- No name holds the text that ends a name. -/
def CleanNames (t : WildcardTable) : Prop := ∀ entry ∈ t, ¬ nameEnd.toList <:+: entry.1.toList

/-- The identifiers behind the first one, each with its comma. -/
def laterIdentifiers (paths : List Path) : String :=
  Text.concat (paths.map fun p => ",data($x" ++ p.render ++ "/@xml-id)")

theorem laterIdentifiers_cons (p : Path) (paths : List Path) (s : List Char) :
    (laterIdentifiers (p :: paths)).toList ++ s =
      ",data($x".toList ++ (p.render.toList ++ ("/@".toList ++ ("xml-id)".toList ++
        ((laterIdentifiers paths).toList ++ s)))) := by
  simp [laterIdentifiers, Text.concat]

theorem quote_notMem_laterIdentifiers (paths : List Path) :
    '"' ∉ (laterIdentifiers paths).toList := by
  induction paths with
  | nil => simp [laterIdentifiers, Text.concat]
  | cons p paths ih =>
    have hcons := laterIdentifiers_cons p paths []
    rw [List.append_nil, List.append_nil] at hcons
    rw [hcons]
    simp only [List.mem_append, not_or]
    exact ⟨by decide, p.quote_notMem_render, by decide, by decide, ih⟩

theorem laterIdentifiers_cancel {ps qs : List Path} {s t : List Char}
    (h : (laterIdentifiers ps).toList ++ ')' :: s = (laterIdentifiers qs).toList ++ ')' :: t) :
    ps = qs ∧ s = t := by
  have hnil : ∀ s : List Char, (laterIdentifiers []).toList ++ s = s := fun _ => rfl
  have hcomma : ∀ u v : List Char, ')' :: u ≠ ",data($x".toList ++ v := by
    intro u v heq
    simp at heq
  induction ps generalizing qs with
  | nil =>
    cases qs with
    | nil => exact ⟨rfl, (List.cons.inj h).2⟩
    | cons q qs =>
      rw [hnil, laterIdentifiers_cons] at h
      exact absurd h (hcomma _ _)
  | cons p ps ih =>
    cases qs with
    | nil =>
      rw [hnil, laterIdentifiers_cons] at h
      exact absurd h.symm (hcomma _ _)
    | cons q qs =>
      rw [laterIdentifiers_cons, laterIdentifiers_cons] at h
      obtain ⟨hpath, hlater⟩ := Path.render_cancel (List.append_cancel_left h)
      obtain ⟨hpaths, hrest⟩ := ih (List.append_cancel_left hlater)
      exact ⟨by rw [hpath, hpaths], hrest⟩

theorem join_identifiers (p : Path) (paths : List Path) :
    join "," (identifiers (p :: paths)) =
      "data(" ++ node p ++ "/@xml:id)" ++ laterIdentifiers paths := by
  rw [identifiers]
  generalize "data(" ++ node p ++ "/@xml:id)" = first
  induction paths generalizing first with
  | nil => simp [join, laterIdentifiers, Text.concat]
  | cons q paths ih =>
    have hcomma : "," ++ ("data(" ++ node q ++ "/@xml-id)") = ",data($x" ++ q.render ++ "/@xml-id)" := by
      apply String.toList_injective
      simp [node]
    have hcons : laterIdentifiers (q :: paths) =
        ",data($x" ++ q.render ++ "/@xml-id)" ++ laterIdentifiers paths := rfl
    rw [List.map_cons, join, ih, hcons, ← hcomma]
    simp only [String.append_assoc]

theorem mapEntry_toList (name : String) (p : Path) (paths : List Path) :
    (mapEntry (name, p :: paths)).toList =
      '"' :: (name.toList ++ (nameEnd.toList ++ (p.render.toList ++ ("/@".toList ++
        ("xml:id)".toList ++ ((laterIdentifiers paths).toList ++ [')'])))))) := by
  rw [mapEntry, join_identifiers]
  simp [nameEnd, node]

/-- An entry can be read back from its text, if its name is clean, and if the name of the
    other entry is clean or no quote comes behind this one. -/
theorem mapEntry_cancel {entry entry' : String × List Path} {s t : List Char}
    (hne : entry.2 ≠ []) (hne' : entry'.2 ≠ [])
    (hclean : ¬ nameEnd.toList <:+: entry.1.toList)
    (hother : ¬ nameEnd.toList <:+: entry'.1.toList ∨ '"' ∉ s)
    (h : (mapEntry entry).toList ++ s = (mapEntry entry').toList ++ t) : entry = entry' ∧ s = t := by
  obtain ⟨name, paths⟩ := entry
  obtain ⟨name', paths'⟩ := entry'
  obtain ⟨p, ps, rfl⟩ := List.exists_cons_of_ne_nil hne
  obtain ⟨q, qs, rfl⟩ := List.exists_cons_of_ne_nil hne'
  simp only [mapEntry_toList, List.cons_append, List.append_assoc, List.cons.injEq, true_and,
    List.nil_append] at h
  have hbehind : '"' ∉ s → '"' ∉ p.render.toList ++ ("/@".toList ++ ("xml:id)".toList ++
      ((laterIdentifiers ps).toList ++ ')' :: s))) := by
    intro hs
    simp only [List.mem_append, List.mem_cons, not_or]
    exact ⟨p.quote_notMem_render, by decide, by decide, quote_notMem_laterIdentifiers ps,
      by decide, hs⟩
  obtain ⟨hname, hafter⟩ := cancel_mark (by decide) hclean (hother.imp_right hbehind) h
  obtain ⟨hfirst, hlater⟩ := Path.render_cancel hafter
  obtain ⟨hothers, hrest⟩ := laterIdentifiers_cancel (List.append_cancel_left hlater)
  have hpaths : p :: ps = q :: qs := by rw [hfirst, hothers]
  exact ⟨Prod.ext (String.toList_injective hname) hpaths, hrest⟩

theorem eq_of_entries_eq {t u : WildcardTable} (hclean : t.CleanNames)
    (hother : u.CleanNames ∨ t.length ≤ 1)
    (hne : ∀ entry ∈ t, entry.2 ≠ []) (hne' : ∀ entry ∈ u, entry.2 ≠ [])
    (ht : t ≠ []) (hu : u ≠ [])
    (h : (join "," (t.map mapEntry)).toList ++ ['\x7d'] =
      (join "," (u.map mapEntry)).toList ++ ['\x7d']) : t = u := by
  induction t generalizing u with
  | nil => exact absurd rfl ht
  | cons entry t ih =>
    cases u with
    | nil => exact absurd rfl hu
    | cons entry' u =>
      obtain ⟨hentry, hcleans⟩ := List.forall_mem_cons.mp hclean
      obtain ⟨hpaths, hnes⟩ := List.forall_mem_cons.mp hne
      obtain ⟨hpaths', hnes'⟩ := List.forall_mem_cons.mp hne'
      simp only [List.map_cons, Text.join_cons, String.toList_append, List.append_assoc] at h
      have hlast : t.length ≤ 0 → t = [] := fun hlen => List.eq_nil_of_length_eq_zero (by omega)
      obtain ⟨hsame, hrest⟩ : entry = entry' ∧ _ := by
        refine mapEntry_cancel hpaths hpaths' hentry ?_ h
        rcases hother with hclean' | hone
        · exact Or.inl (hclean' _ List.mem_cons_self)
        · right
          rw [hlast (by simpa using hone)]
          decide
      have hothers : CleanNames u ∨ t.length ≤ 1 := by
        rcases hother with hclean' | hone
        · exact Or.inl (List.forall_mem_cons.mp hclean').2
        · rw [List.length_cons] at hone
          exact Or.inr (by omega)
      -- behind an entry stands the brace, or a comma and further entries
      by_cases ht : t = []
      · subst ht
        by_cases hu : u = []
        · rw [hsame, hu]
        · simp [hu] at hrest
      · by_cases hu : u = []
        · simp [ht, hu] at hrest
        · simp only [List.map_eq_nil_iff, ht, hu, if_false, String.toList_append,
            List.append_assoc] at hrest
          have htail : t = u :=
            ih hcleans hothers hnes hnes' ht hu (List.append_cancel_left hrest)
          rw [hsame, htail]

/-- **The clause determines the table** if its names are clean, among tables with clean names
    or, for one name, among all tables. -/
theorem eq_of_binding_eq {t u : WildcardTable} (hclean : t.CleanNames)
    (hother : u.CleanNames ∨ t.length ≤ 1)
    (hne : ∀ entry ∈ t, entry.2 ≠ []) (hne' : ∀ entry ∈ u, entry.2 ≠ [])
    (h : t.binding = u.binding) : t = u := by
  by_cases ht : t = []
  · subst ht
    by_cases hu : u = []
    · exact hu.symm
    · simp [binding, hu] at h
  · by_cases hu : u = []
    · simp [binding, ht, hu] at h
    · have hchars := congrArg String.toList h
      simp only [binding, List.isEmpty_iff, ht, hu, if_false, String.toList_append,
        List.append_assoc] at hchars
      exact eq_of_entries_eq hclean hother hne hne' ht hu (List.append_cancel_left hchars)

/-! ### One name for many -/

/-- A name that holds all entries of a table, and behind them another name. -/
def joinedName (t : WildcardTable) (name : String) : String :=
  String.ofList (join "," (t.map mapEntry)).toList.tail ++ ",\"" ++ name

theorem binding_joined {t : WildcardTable} (ht : t ≠ []) (name : String) (paths : List Path) :
    binding (t ++ [(name, paths)]) = binding [(t.joinedName name, paths)] := by
  have hjoin : ∀ (s : String) (texts : List String), texts ≠ [] →
      join "," (texts ++ [s]) = join "," texts ++ "," ++ s := by
    intro s texts hne
    induction texts with
    | nil => exact absurd rfl hne
    | cons text texts ih =>
      cases texts with
      | nil => rfl
      | cons text' texts =>
        have hrest := ih (List.cons_ne_nil _ _)
        simp only [List.cons_append, join, String.append_assoc] at hrest ⊢
        rw [hrest]
  -- the quote that opens the first name of the table opens the long name
  obtain ⟨rest, hrest⟩ : ∃ rest, (join "," (t.map mapEntry)).toList = '"' :: rest := by
    cases t with
    | nil => exact absurd rfl ht
    | cons entry t =>
      rw [List.map_cons, Text.join_cons, mapEntry]
      exact ⟨_, by simp [String.toList_append]; rfl⟩
  have hentries : (join "," ((t ++ [(name, paths)]).map mapEntry)).toList =
      (mapEntry (t.joinedName name, paths)).toList := by
    rw [List.map_append, List.map_singleton, hjoin _ _ (by simpa using ht)]
    simp [mapEntry, joinedName, hrest]
  have hlists : (t ++ [(name, paths)]).isEmpty = false := by simp
  rw [binding, hlists, binding]
  simp only [List.isEmpty_cons, Bool.false_eq_true, if_false, List.map_singleton]
  rw [String.toList_injective hentries]
  rfl

theorem ofOccurrences_one_name (name : String) {paths : List Path} (h : paths ≠ []) :
    ofOccurrences (paths.map (Occurrence.mk name)) = [(name, paths)] := by
  have hfold : ∀ (before after : List Path),
      (after.map (Occurrence.mk name)).foldl add [(name, before)] = [(name, before ++ after)] := by
    intro before after
    induction after generalizing before with
    | nil => rw [List.map_nil, List.foldl_nil, List.append_nil]
    | cons p after ih =>
      rw [List.map_cons, List.foldl_cons, add, if_pos rfl, ih, List.append_assoc,
        List.singleton_append]
  obtain ⟨p, paths, rfl⟩ := List.exists_cons_of_ne_nil h
  exact hfold [p] paths

theorem paths_ne_nil_of_mem_ofOccurrences {os : List Occurrence} :
    ∀ entry ∈ ofOccurrences os, entry.2 ≠ [] := by
  intro entry hentry
  obtain ⟨o, -, -, hpath⟩ := exists_mem_of_mem_ofOccurrences hentry
  exact List.ne_nil_of_mem hpath

end WildcardTable

/-! ### A formula with the one name -/

/-- Wildcards of one name under another name; all other wildcards become annotations, which
    keep the place of a child and are not compared. -/
def Content.renamed (old new : String) : Content → Content
  | .nil => .nil
  | .text value rest => .text value (rest.renamed old new)
  | .element tag inner rest =>
    if tag.isWildcard then
      if wildcardName? tag inner = some old then
        .element (wildcardTag new) .nil (rest.renamed old new)
      else .element { localName := "annotation" } .nil (rest.renamed old new)
    else .element tag (inner.renamed old new) (rest.renamed old new)

def Sighting.renamed? (old new : String) (w : Sighting) : Option Sighting :=
  if w.name = some old then some ⟨w.path, some new⟩ else none

theorem Content.sightings_renamed (old : String) {new : String} (hnew : new ≠ "") (c : Content)
    (before : Nat) :
    (c.renamed old new).sightings before =
      (c.sightings before).filterMap (Sighting.renamed? old new) := by
  induction c generalizing before with
  | nil => rfl
  | text value rest ih => exact ih before
  | element tag inner rest ihinner ih =>
    have hbelow : ∀ p : Path, (Sighting.renamed? old new) ∘ Sighting.below p =
        Option.map (Sighting.below p) ∘ Sighting.renamed? old new := by
      intro p
      funext w
      by_cases hname : w.name = some old <;> simp [Sighting.renamed?, Sighting.below, hname]
    have hwild : (wildcardTag new).isWildcard = true := rfl
    have hgiven : wildcardName? (wildcardTag new) .nil = some new := by
      have hblank : Text.trim (Text.concat (texts .nil)) = "" := rfl
      have hname : (wildcardTag new).attribute? "name" = some new := rfl
      simp only [wildcardName?, hblank, hname, hnew, if_true, if_false]
    rw [renamed, sightings]
    by_cases htag : tag.isWildcard = true
    · rw [if_pos htag, if_pos htag]
      by_cases hname : wildcardName? tag inner = some old
      · rw [if_pos hname, sightings, if_pos hwild, hgiven, ih]
        simp [Sighting.renamed?, hname]
      · rw [if_neg hname, sightings, ih]
        simp [Sighting.renamed?, hname, Tag.isWildcard, Tag.qualifiedName, Tag.isAnnotation]
    · rw [if_neg htag, if_neg htag, sightings, if_neg htag]
      by_cases hann : tag.isAnnotation = true
      · rw [if_pos hann, if_pos hann, ih]
      · rw [if_neg hann, if_neg hann, ih, ihinner, List.filterMap_append, List.filterMap_map, hbelow,
          List.map_filterMap]
        rfl

theorem occurrencesOf_renamed (old new : String) (ws : List Sighting) :
    occurrencesOf (ws.filterMap (Sighting.renamed? old new)) =
      (pathsNamed (occurrencesOf ws) old).map (Occurrence.mk new) := by
  induction ws with
  | nil => rfl
  | cons w ws ih =>
    obtain ⟨path, name⟩ := w
    cases name with
    | none => exact ih
    | some name =>
      have hcons : occurrencesOf (⟨path, some name⟩ :: ws) = ⟨name, path⟩ :: occurrencesOf ws := rfl
      by_cases hname : name = old
      · have hkept : Sighting.renamed? old new ⟨path, some name⟩ = some ⟨path, some new⟩ := by
          rw [Sighting.renamed?, hname, if_pos rfl]
        rw [hcons, List.filterMap_cons_some hkept, pathsNamed, List.filter_cons_of_pos (by simpa)]
        exact congrArg _ ih
      · have hdropped : Sighting.renamed? old new ⟨path, some name⟩ = none := by
          rw [Sighting.renamed?, if_neg (by simpa)]
        rw [hcons, List.filterMap_cons_none hdropped, pathsNamed, List.filter_cons_of_neg (by simpa)]
        exact ih

namespace Element

def renamed (old new : String) (main : Element) : Element :=
  ⟨main.tag, main.content.renamed old new⟩

theorem wildcards_renamed (old : String) {new : String} (hnew : new ≠ "") (main : Element) :
    (main.renamed old new).wildcards = main.wildcards.filterMap (Sighting.renamed? old new) := by
  have hreported : Sighting.renamed? old new ∘ Sighting.reported =
      Option.map Sighting.reported ∘ Sighting.renamed? old new := by
    funext w
    by_cases hname : w.name = some old <;> simp [Sighting.renamed?, Sighting.reported, hname]
  rw [wildcards, renamed, Content.rootSightings_eq_map, Content.sightings_renamed old hnew, wildcards,
    Content.rootSightings_eq_map, List.filterMap_map, hreported, List.map_filterMap]
  rfl

theorem wildcardTable_renamed {old new : String} {paths : List Path} (hnew : new ≠ "")
    (main : Element) (h : (old, paths) ∈ main.wildcardTable) :
    (main.renamed old new).wildcardTable = [(new, paths)] := by
  have hpaths : paths = pathsNamed (occurrencesOf main.wildcards) old := by
    rw [wildcardTable, WildcardTable.ofOccurrences_eq_grouped, WildcardTable.grouped] at h
    obtain ⟨name, -, hentry⟩ := List.mem_map.mp h
    obtain ⟨rfl, rfl⟩ := Prod.mk.inj hentry
    rfl
  have hne : paths ≠ [] := WildcardTable.paths_ne_nil_of_mem_ofOccurrences _ h
  rw [wildcardTable, wildcards_renamed old hnew, occurrencesOf_renamed, ← hpaths,
    WildcardTable.ofOccurrences_one_name new hne]

theorem unnamed?_renamed (old : String) {new : String} (hnew : new ≠ "") (main : Element) :
    unnamed? (main.renamed old new).wildcards = none := by
  rw [wildcards_renamed old hnew, unnamed?, Option.map_eq_none_iff, List.find?_eq_none]
  intro w hw
  obtain ⟨v, -, hv⟩ := List.mem_filterMap.mp hw
  by_cases hname : v.name = some old
  · obtain rfl : ⟨v.path, some new⟩ = w := by simpa [Sighting.renamed?, hname] using hv
    simp
  · simp [Sighting.renamed?, hname] at hv

/-- The compilation of the main element comes to an end. -/
def Compiles (main : Element) (restrictLength : Bool) : Prop :=
  ∃ compiled, (main.compile restrictLength).outcome = .ok compiled

theorem compiles_iff {main : Element} {restrictLength : Bool} :
    main.Compiles restrictLength ↔ unnamed? main.wildcards = none := by
  cases hnamed : unnamed? main.wildcards with
  | none => simp [Compiles, compile_ok main restrictLength hnamed]
  | some p => simp [Compiles, compile_error main restrictLength hnamed]

theorem table_compile {main : Element} {restrictLength : Bool}
    (h : main.Compiles restrictLength) :
    (main.compile restrictLength).table = main.wildcardTable := by
  rw [Compilation.table, compile_ok main restrictLength (compiles_iff.mp h), wildcardTable]

/-- **The clause of several names is the clause of one.** -/
theorem exists_same_binding (main : Element) (h : 2 ≤ main.wildcardTable.length) :
    ∃ other : Element, unnamed? other.wildcards = none ∧
      other.wildcardTable.length = 1 ∧ other.wildcardTable.binding = main.wildcardTable.binding := by
  rcases List.eq_nil_or_concat' main.wildcardTable with hnil | ⟨front, ⟨name, paths⟩, htable⟩
  · simp [hnil] at h
  · have hfront : front ≠ [] := by
      rintro rfl
      simp [htable] at h
    have hnew : WildcardTable.joinedName front name ≠ "" := by
      simp [WildcardTable.joinedName]
    have hmem : (name, paths) ∈ main.wildcardTable := by simp [htable]
    have hother := main.wildcardTable_renamed hnew hmem
    refine ⟨main.renamed name (WildcardTable.joinedName front name),
      main.unnamed?_renamed name hnew, ?_, ?_⟩
    · rw [hother, List.length_singleton]
    · rw [hother, htable, WildcardTable.binding_joined hfront]

end Element

/-- **What the map clause tells.**  Among tables with clean names it tells the table, and the
    clause of at most one clean name is the clause of no other table.  But whenever there are
    two names or more, whatever they are, some other formula has another table and the same
    clause: there a wildcard has the name that holds all entries but the last. -/
theorem map_clause_determines_table (main : Element) (restrictLength : Bool)
    (hcompiles : main.Compiles restrictLength) :
    ((main.compile restrictLength).table.CleanNames →
      ∀ (other : Element) (restrictLength' : Bool), other.Compiles restrictLength' →
        (other.compile restrictLength').table.CleanNames ∨
          (main.compile restrictLength).table.length ≤ 1 →
        ((other.compile restrictLength').table.binding =
            (main.compile restrictLength).table.binding ↔
          (other.compile restrictLength').table = (main.compile restrictLength).table)) ∧
    (2 ≤ (main.compile restrictLength).table.length →
      ∃ other : Element, ∀ restrictLength' : Bool, other.Compiles restrictLength' ∧
        (other.compile restrictLength').table ≠ (main.compile restrictLength).table ∧
        (other.compile restrictLength').table.binding =
          (main.compile restrictLength).table.binding) := by
  have hpaths : ∀ e : Element, ∀ entry ∈ e.wildcardTable, entry.2 ≠ [] := fun _ =>
    WildcardTable.paths_ne_nil_of_mem_ofOccurrences
  rw [Element.table_compile hcompiles]
  constructor
  · intro hclean other restrictLength' hother hcase
    rw [Element.table_compile hother] at hcase ⊢
    constructor
    · intro hsame
      exact (WildcardTable.eq_of_binding_eq hclean hcase (hpaths main) (hpaths other)
        hsame.symm).symm
    · intro hsame
      rw [hsame]
  · intro hmany
    obtain ⟨other, hnamed, hone, hbinding⟩ := main.exists_same_binding hmany
    refine ⟨other, fun restrictLength' => ?_⟩
    have hother : other.Compiles restrictLength' := Element.compiles_iff.mpr hnamed
    rw [Element.table_compile hother]
    refine ⟨hother, ?_, hbinding⟩
    intro hsame
    rw [hsame] at hone
    omega

/-- Names with quotes in them, and with the start of the text that ends a name. -/
def quotedNames : Element where
  tag := { localName := "expr", qualifier := some "mws" }
  content :=
    .element { localName := "apply" }
      (.element (wildcardTag "a\"") .nil <|
        .element (wildcardTag "b\" : (\"data($x") .nil <|
        .element (wildcardTag "a\"") .nil .nil) .nil

theorem quotedNames_map_clause :
    quotedNames.Compiles true ∧ (quotedNames.compile true).table.CleanNames ∧
    (∀ (other : Element) (restrictLength : Bool), other.Compiles restrictLength →
      (other.compile restrictLength).table.CleanNames →
      ((other.compile restrictLength).table.binding = (quotedNames.compile true).table.binding ↔
        (other.compile restrictLength).table = (quotedNames.compile true).table)) ∧
    ∃ other : Element, other.Compiles true ∧
      (other.compile true).table ≠ (quotedNames.compile true).table ∧
      (other.compile true).table.binding = (quotedNames.compile true).table.binding := by
  have hcompiles : quotedNames.Compiles true := Element.compiles_iff.mpr rfl
  have hclean : (quotedNames.compile true).table.CleanNames := by
    simp only [WildcardTable.CleanNames]
    decide +kernel
  obtain ⟨htells, htwin⟩ := map_clause_determines_table quotedNames true hcompiles
  obtain ⟨other, hother⟩ := htwin (by decide +kernel)
  refine ⟨hcompiles, hclean, ?_, other, hother true⟩
  intro other restrictLength hother hclean'
  exact htells hclean other restrictLength hother (Or.inl hclean')

/-- The formulas `apply(ci, q)`, where `q` is one wildcard with a long name, and
    `apply(x, y)` with two wildcards. -/
def longName : Element where
  tag := { localName := "expr", qualifier := some "mws" }
  content :=
    .element { localName := "apply" }
      (.element { localName := "ci" } .nil <|
        .element { localName := "qvar", qualifier := some "mws" }
          (.text "x\" : (data($x/*[1]/@xml:id)),\"y" .nil) .nil) .nil

@[inherit_doc longName]
def twoNames : Element where
  tag := { localName := "expr", qualifier := some "mws" }
  content :=
    .element { localName := "apply" }
      (.element { localName := "qvar", qualifier := some "mws" } (.text "x" .nil) <|
        .element { localName := "qvar", qualifier := some "mws" } (.text "y" .nil) .nil) .nil

theorem longName_same_map_clause :
    longName.Compiles false ∧ twoNames.Compiles false ∧
    (longName.compile false).table ≠ (twoNames.compile false).table ∧
    (longName.compile false).table.binding = (twoNames.compile false).table.binding := by
  refine ⟨Element.compiles_iff.mpr ?_, Element.compiles_iff.mpr rfl, ?_, ?_⟩
  · decide +kernel
  · decide +kernel
  · decide +kernel

end FormulaQuery
