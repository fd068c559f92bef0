/-
  FormulaQuery/Proofs/AttributeNames.lean
  =======================================
  **The names that attributes get.**  In a formula tree an attribute has a prefix in
  place of its namespace.  It is the first one in scope that stands for the
  namespace, which may differ from the one that is written in the document: prefixes
  are declared at any depth, nearer declarations hide outer ones, and one namespace
  may have several prefixes.

  `StartTag.WellNamed` says what the namespaces of a well-formed document are like.
  There no attribute is taken for another one: the name that it gets is expanded to
  the name that it has (`attribute_names_expand_back`).
-/
import FormulaQuery.Proofs.Lookup
import FormulaQuery.Xml.Document
import Mathlib.Data.List.Nodup
import Mathlib.Data.List.TakeDrop
import Mathlib.Data.List.TakeWhile
import Mathlib.Data.Option.Basic

namespace FormulaQuery

namespace Xml

/-! ### Declarations around an element -/

/-- The namespaces that a start tag declares: under prefixes, and under `none` for names without
    prefix. -/
abbrev Declarations := List (Option String × String)

/-- The prefixes among declarations. -/
def Declarations.own (level : Declarations) : List (String × String) :=
  level.filterMap fun d => d.1.map fun p => (p, d.2)

/-- A namespace is not empty, and has no closing brace, which is no character of a URI. -/
def IsUri (uri : String) : Prop := uri ≠ "" ∧ Char.ofNat 0x7D ∉ uri.toList

instance (uri : String) : Decidable (IsUri uri) := inferInstanceAs (Decidable (_ ∧ _))

/-- What a start tag may declare. -/
structure Declarations.Sound (level : Declarations) : Prop where
  distinct : (level.map Prod.fst).Nodup
  names : ∀ d ∈ level.own, isNcName d.1.toList = true
  xml_bound : ∀ d ∈ level.own, d.1 = "xml" → d.2 = xmlNamespace
  uris : ∀ d ∈ level.own, IsUri d.2

namespace Scope

/-- The scope inside start tags with the given declarations, the outermost first. -/
def inside (levels : List Declarations) : Scope := levels.foldl enter {}

/-- What holds of a scope without declarations, and of every scope behind one more start tag, holds
    inside any start tags. -/
theorem inside_induction {P : Scope → Prop} (levels : List Declarations) (hempty : P {})
    (henter : ∀ s, P s → ∀ level ∈ levels, P (s.enter level)) : P (inside levels) := by
  have hfold : ∀ (rest : List Declarations) (s : Scope), rest ⊆ levels → P s →
      P (rest.foldl enter s) := by
    intro rest
    induction rest with
    | nil => exact fun s _ hs => hs
    | cons level rest ih =>
      intro s hsub hs
      obtain ⟨hlevel, hrest⟩ := List.cons_subset.mp hsub
      exact ih (s.enter level) hrest (henter s hs level hlevel)
  exact hfold levels {} (List.Subset.refl levels) hempty

variable {s : Scope} {level : Declarations} {levels : List Declarations}

theorem lookup_own (p : String) : level.own.lookup p = level.lookup (some p) := by
  induction level with
  | nil => rfl
  | cons d level ih =>
    obtain ⟨q, uri⟩ := d
    cases q with
    | none => simpa [Declarations.own, List.lookup_cons] using ih
    | some q =>
      have hown : Declarations.own ((some q, uri) :: level) = (q, uri) :: Declarations.own level :=
        rfl
      rw [hown, List.lookup_cons, List.lookup_cons, ih]
      rfl

theorem own_nodup (h : (level.map Prod.fst).Nodup) : (level.own.map Prod.fst).Nodup := by
  have hsome : (level.own.map Prod.fst).map some = (level.map Prod.fst).filter Option.isSome := by
    induction level with
    | nil => rfl
    | cons d level ih =>
      obtain ⟨q, uri⟩ := d
      have hrest := ih (List.nodup_cons.mp h).2
      cases q with
      | none => simpa [Declarations.own] using hrest
      | some q => simpa [Declarations.own] using hrest
  apply List.Nodup.of_map some
  rw [hsome]
  exact h.filter _

/-- What is left of the outer prefixes behind a start tag. -/
theorem mem_outer {d : String × String} :
    (d ∈ s.prefixes.filter fun d => !(level.own.map Prod.fst).contains d.1) ↔
      d ∈ s.prefixes ∧ d.1 ∉ level.own.map Prod.fst := by
  rw [List.mem_filter, Bool.not_eq_true', List.contains_eq_mem, decide_eq_false_iff_not]

theorem enter_prefixes (s : Scope) (level : Declarations) :
    (s.enter level).prefixes =
      level.own ++ s.prefixes.filter fun d => !(level.own.map Prod.fst).contains d.1 := rfl

/-- A prefix stands for what its nearest declaration says. -/
theorem lookup_prefixes (levels : List Declarations) (p : String) :
    (inside levels).prefixes.lookup p = (inside levels).visible.lookup (some p) := by
  apply inside_induction (P := fun s => s.prefixes.lookup p = s.visible.lookup (some p)) levels rfl
  intro s hs level _
  have hvisible : (s.enter level).visible = level ++ s.visible := rfl
  rw [enter_prefixes, hvisible, List.lookup_append, List.lookup_append, lookup_own, ← hs]
  cases hlookup : level.lookup (some p) with
  | some uri => rfl
  | none =>
    -- the tag does not declare the prefix, so it does not hide it
    have hfree : p ∉ level.own.map Prod.fst := by
      rw [← lookup_own, List.lookup_eq_none_iff] at hlookup
      intro hp
      obtain ⟨d, hd, rfl⟩ := List.mem_map.mp hp
      simpa using hlookup d hd
    rw [Option.none_or, Option.none_or]
    exact lookup_filter (fun q => !(level.own.map Prod.fst).contains q) (by simpa using hfree)

theorem prefixes_nodup (h : ∀ level ∈ levels, level.Sound) :
    ((inside levels).prefixes.map Prod.fst).Nodup := by
  apply inside_induction (P := fun s => (s.prefixes.map Prod.fst).Nodup) levels List.nodup_nil
  intro s hs level hlevel
  rw [enter_prefixes, List.map_append]
  apply (own_nodup (h level hlevel).distinct).append
  · exact hs.sublist (List.Sublist.map _ List.filter_sublist)
  · intro p hown hrest
    obtain ⟨d, hd, rfl⟩ := List.mem_map.mp hrest
    exact (mem_outer.mp hd).2 hown

theorem exists_level_of_mem {d : String × String} (h : d ∈ (inside levels).prefixes) :
    ∃ level ∈ levels, d ∈ level.own := by
  revert h
  apply inside_induction (P := fun s => d ∈ s.prefixes → ∃ level ∈ levels, d ∈ level.own) levels
  · intro h
    cases h
  · intro s hs level hlevel h
    rw [enter_prefixes, List.mem_append] at h
    rcases h with hown | houter
    · exact ⟨level, hlevel, hown⟩
    · exact hs (mem_outer.mp houter).1

/-- A prefix in scope is `xml` or declared by a start tag. -/
theorem uri?_cases {p uri : String} (h : (inside levels).uri? p = some uri) :
    uri = xmlNamespace ∨ (p, uri) ∈ (inside levels).prefixes := by
  unfold uri? at h
  split at h
  · cases h
    exact Or.inl rfl
  · rw [← lookup_prefixes] at h
    obtain ⟨l₁, l₂, hsplit, -⟩ := List.lookup_eq_some_iff.mp h
    rw [hsplit]
    exact Or.inr (by simp)

theorem uri?_of_mem (h : ∀ level ∈ levels, level.Sound) {p uri : String}
    (hp : (p, uri) ∈ (inside levels).prefixes) : (inside levels).uri? p = some uri := by
  unfold uri?
  by_cases hxml : p = "xml"
  · subst hxml
    obtain ⟨level, hlevel, hmem⟩ := exists_level_of_mem hp
    have huri : uri = xmlNamespace := (h level hlevel).xml_bound _ hmem rfl
    rw [if_pos rfl, huri]
  · rw [if_neg hxml, ← lookup_prefixes]
    exact lookup_of_mem (prefixes_nodup h) hp

end Scope

/-! ### Names with and without prefix -/

theorem isNcNameChar_of_mem {cs : List Char} (h : isNcName cs = true) {c : Char} (hc : c ∈ cs) :
    isNcNameChar c = true := by
  cases cs with
  | nil => cases h
  | cons d rest =>
    rw [isNcName, Bool.and_eq_true] at h
    rcases List.mem_cons.mp hc with rfl | hc
    · simp [isNcNameChar, h.1]
    · exact List.all_eq_true.mp h.2 c hc

theorem ne_colon_of_isNcName {cs : List Char} (h : isNcName cs = true) :
    ∀ c ∈ cs, (c != ':') = true := by
  intro c hc
  rw [bne_iff_ne]
  rintro rfl
  have hcolon : isNcNameChar ':' = false := by decide
  rw [isNcNameChar_of_mem h hc] at hcolon
  cases hcolon

namespace QName

theorem ofString_of_isNcName {s : String} (h : isNcName s.toList = true) :
    ofString s = ⟨none, s⟩ := by
  have hrest : s.toList.dropWhile (· != ':') = [] :=
    List.dropWhile_eq_nil_iff.mpr (ne_colon_of_isNcName h)
  rw [ofString, List.span_eq_takeWhile_dropWhile, hrest]
  cases s.toList.takeWhile (· != ':') <;> rfl

theorem ofString_prefixed {p : String} (h : isNcName p.toList = true) (n : String) :
    ofString (p ++ ":" ++ n) = ⟨some p, n⟩ := by
  have hcolon := ne_colon_of_isNcName h
  have htext : (p ++ ":" ++ n).toList = p.toList ++ ':' :: n.toList := by simp
  have hfront : (p.toList ++ ':' :: n.toList).takeWhile (· != ':') = p.toList := by
    rw [List.takeWhile_append_of_pos hcolon]
    simp
  have hrest : (p.toList ++ ':' :: n.toList).dropWhile (· != ':') = ':' :: n.toList := by
    rw [List.dropWhile_append_of_pos hcolon]
    simp
  rw [ofString, htext, List.span_eq_takeWhile_dropWhile, hfront, hrest]
  cases hp : p.toList with
  | nil =>
    rw [hp] at h
    cases h
  | cons c cs =>
    dsimp only
    rw [← hp, String.ofList_toList, String.ofList_toList]

end QName

/-! ### Attributes of a well-formed element -/

/-- An element as a well-formed document has it, inside start tags with the given declarations, of
    which its own are the last: its attributes have distinct names, and the prefixes that are
    written there are in scope. -/
structure StartTag.WellNamed (levels : List Declarations) (t : StartTag) : Prop where
  sound : ∀ level ∈ levels, level.Sound
  scope : t.scope = (Scope.inside levels).prefixes
  fit : ExpandedName.unfit? ⟨t.namespaceUri, t.localName⟩ = none
  distinct : (t.attributes.map Prod.fst).Nodup
  names : ∀ a ∈ t.attributes, isNcName a.1.localName.toList = true
  bound : ∀ a ∈ t.attributes, ∀ uri, a.1.namespaceUri = some uri →
    ∃ p, (Scope.inside levels).uri? p = some uri

namespace StartTag.WellNamed

variable {levels : List Declarations} {t : StartTag}

theorem isUri (h : t.WellNamed levels) {a : ExpandedName × String} (ha : a ∈ t.attributes)
    {uri : String} (huri : a.1.namespaceUri = some uri) : IsUri uri := by
  obtain ⟨p, hp⟩ := h.bound a ha uri huri
  rcases Scope.uri?_cases hp with rfl | hmem
  · exact ⟨by decide, by decide⟩
  · obtain ⟨level, hlevel, hdeclared⟩ := Scope.exists_level_of_mem hmem
    exact (h.sound level hlevel).uris _ hdeclared

/-- The prefix that takes the place of a namespace stands for it. -/
theorem exists_prefix (h : t.WellNamed levels) {a : ExpandedName × String}
    (ha : a ∈ t.attributes) {uri : String} (huri : a.1.namespaceUri = some uri) :
    ∃ p, isNcName p.toList = true ∧ (Scope.inside levels).uri? p = some uri ∧
      t.attributeName a.1 = p ++ ":" ++ a.1.localName := by
  unfold attributeName
  rw [huri]
  dsimp only
  by_cases hxml : uri = xmlNamespace
  · subst hxml
    exact ⟨"xml", by decide, rfl, if_pos rfl⟩
  · rw [if_neg hxml, if_neg (h.isUri ha huri).1, h.scope]
    -- the written prefix is in scope, so the search does not fail
    obtain ⟨p, hp⟩ := h.bound a ha uri huri
    have hmem : (p, uri) ∈ (Scope.inside levels).prefixes :=
      (Scope.uri?_cases hp).resolve_left hxml
    have hprefix {q : String} (hq : (q, uri) ∈ (Scope.inside levels).prefixes) :
        isNcName q.toList = true := by
      obtain ⟨level, hlevel, hdeclared⟩ := Scope.exists_level_of_mem hq
      exact (h.sound level hlevel).names _ hdeclared
    cases hfind : (Scope.inside levels).prefixes.find? fun d => d.2 == uri && d.1 != "" with
    | none =>
      have hne : p ≠ "" := by
        rintro rfl
        cases hprefix hmem
      have hnone := List.find?_eq_none.mp hfind (p, uri) hmem
      simp [hne] at hnone
    | some d =>
      have hd := List.find?_some hfind
      rw [Bool.and_eq_true, beq_iff_eq] at hd
      obtain ⟨q, uri'⟩ := d
      obtain ⟨rfl, -⟩ := hd
      have hq := List.mem_of_find?_eq_some hfind
      exact ⟨q, hprefix hq, Scope.uri?_of_mem h.sound hq, rfl⟩

theorem expand_attributeName (h : t.WellNamed levels) {a : ExpandedName × String}
    (ha : a ∈ t.attributes) :
    (Scope.inside levels).attributeName? (QName.ofString (t.attributeName a.1)) = some a.1 := by
  obtain ⟨⟨uri, name⟩, value⟩ := a
  cases uri with
  | none =>
    have hname : t.attributeName ⟨none, name⟩ = name := rfl
    rw [hname, QName.ofString_of_isNcName (h.names _ ha)]
    rfl
  | some uri =>
    obtain ⟨p, hp, huri, hname⟩ := h.exists_prefix ha rfl
    rw [hname, QName.ofString_prefixed hp, Scope.attributeName?]
    dsimp only
    rw [huri]
    rfl

theorem attributeNames_nodup (h : t.WellNamed levels) :
    (t.attributes.map fun a => t.attributeName a.1).Nodup := by
  -- expanding the names gives back those of the attributes, which are distinct
  apply List.Nodup.of_map fun name => (Scope.inside levels).attributeName? (QName.ofString name)
  have hexpand : (t.attributes.map fun a => t.attributeName a.1).map
      (fun name => (Scope.inside levels).attributeName? (QName.ofString name)) =
        (t.attributes.map Prod.fst).map some := by
    rw [List.map_map, List.map_map]
    exact List.map_congr_left fun a ha => h.expand_attributeName ha
  rw [hexpand]
  exact h.distinct.map (Option.some_injective _)

end StartTag.WellNamed

/-! ### The tag of the formula tree -/

theorem putAttribute_of_new {attributes : List (String × String)} {a : String × String}
    (h : a.1 ∉ attributes.map Prod.fst) : Tag.putAttribute attributes a = attributes ++ [a] := by
  induction attributes with
  | nil => rfl
  | cons b rest ih =>
    rw [List.map_cons, List.mem_cons, not_or] at h
    rw [Tag.putAttribute, if_neg (Ne.symm h.1), ih h.2, List.cons_append]

/-- Attributes with distinct names are put behind each other. -/
theorem foldl_putAttribute (before behind : List (String × String))
    (h : ((before ++ behind).map Prod.fst).Nodup) :
    behind.foldl Tag.putAttribute before = before ++ behind := by
  induction behind generalizing before with
  | nil => exact (List.append_nil before).symm
  | cons a rest ih =>
    have hsplit : before ++ a :: rest = (before ++ [a]) ++ rest := by simp
    have hnew : a.1 ∉ before.map Prod.fst := by
      rw [List.map_append, List.map_cons, List.nodup_append] at h
      exact fun ha => h.2.2 a.1 ha a.1 List.mem_cons_self rfl
    rw [List.foldl_cons, putAttribute_of_new hnew, hsplit]
    apply ih
    rw [← hsplit]
    exact h

namespace StartTag.WellNamed

variable {levels : List Declarations} {t : StartTag}

theorem attributes_toTag (h : t.WellNamed levels) :
    t.toTag.attributes = t.attributes.map fun a => (t.attributeName a.1, a.2) := by
  apply foldl_putAttribute []
  rw [List.nil_append, List.map_map]
  exact h.attributeNames_nodup

theorem attribute?_toTag (h : t.WellNamed levels) {a : ExpandedName × String}
    (ha : a ∈ t.attributes) : t.toTag.attribute? (t.attributeName a.1) = some a.2 := by
  rw [Tag.attribute?, h.attributes_toTag]
  apply lookup_of_mem
  · rw [List.map_map]
    exact h.attributeNames_nodup
  · exact List.mem_map.mpr ⟨a, ha, rfl⟩

/-! ### Elements that have a formula tree -/

theorem unfit?_attribute (h : t.WellNamed levels) {a : ExpandedName × String}
    (ha : a ∈ t.attributes) : a.1.unfit? = none := by
  have hpart : a.1.localPart = a.1.localName := by
    unfold ExpandedName.localPart
    cases huri : a.1.namespaceUri with
    | none => rfl
    | some uri =>
      have hbrace : uri.toList.dropWhile (· != Char.ofNat 0x7D) = [] := by
        apply List.dropWhile_eq_nil_iff.mpr
        intro c hc
        rw [bne_iff_ne]
        rintro rfl
        exact (h.isUri ha huri).2 hc
      dsimp only
      rw [hbrace]
  rw [ExpandedName.unfit?, hpart, h.names a ha, if_pos rfl]

theorem unfitName? (h : t.WellNamed levels) : t.unfitName? = none := by
  rw [StartTag.unfitName?, List.findSome?_eq_none_iff]
  intro n hn
  rcases List.mem_cons.mp hn with rfl | hn
  · exact h.fit
  · obtain ⟨a, ha, rfl⟩ := List.mem_map.mp hn
    exact h.unfit?_attribute ha

end StartTag.WellNamed

theorem Markup.unfitName?_eq_none {m : Markup} (h : ∀ u ∈ m.elements, u.tag.unfitName? = none) :
    m.unfitName? = none := by
  induction m with
  | nil => rfl
  | text value rest ih => exact ih h
  | marker m rest ih => exact ih h
  | element tag children rest ihc ihr =>
    rw [elements, List.forall_mem_cons, List.forall_mem_append] at h
    rw [unfitName?, ihc h.2.1, h.1, ihr h.2.2]
    rfl

/-- **No attribute is lost or taken for another one.**  Take an element of a well-formed document,
    with any declarations around it, and let the elements in it be well formed as well.  The name
    that an attribute gets, expanded with the namespaces in scope, is the attribute's own name.  So
    no two attributes get the same name, the element has a formula tree with as many attributes,
    and each of them is found there under its name. -/
theorem attribute_names_expand_back {levels : List Declarations} {t : StartTag}
    (h : t.WellNamed levels) (content : Markup)
    (hcontent : ∀ u ∈ content.elements, ∃ inner, u.tag.WellNamed (levels ++ inner)) :
    (∀ a ∈ t.attributes,
      (Scope.inside levels).attributeName? (QName.ofString (t.attributeName a.1)) = some a.1) ∧
    (t.attributes.map fun a => t.attributeName a.1).Nodup ∧
    ∃ e, Tree.formula ⟨t, content⟩ = .ok e ∧
      e.tag.attributes.length = t.attributes.length ∧
      ∀ a ∈ t.attributes, e.attribute? (t.attributeName a.1) = some a.2 := by
  refine ⟨fun a ha => h.expand_attributeName ha, h.attributeNames_nodup, ?_⟩
  have hinner : content.unfitName? = none := by
    apply Markup.unfitName?_eq_none
    intro u hu
    obtain ⟨inner, hwell⟩ := hcontent u hu
    exact hwell.unfitName?
  have hfit : Tree.unfitName? ⟨t, content⟩ = none := by
    rw [Tree.unfitName?, hinner, h.unfitName?]
    rfl
  refine ⟨Tree.toElement ⟨t, content⟩, ?_, ?_, fun a ha => h.attribute?_toTag ha⟩
  · unfold Tree.formula
    rw [hfit]
  · rw [Tree.toElement, h.attributes_toTag, List.length_map]

/-- An element that gives the outer prefix `a` another namespace, for which `b` stands already, and
    a new prefix `c` to the old namespace. -/
def redeclared : StartTag where
  localName := "ci"
  attributes :=
    [(⟨some "urn:2", "x"⟩, "by b"), (⟨some "urn:1", "x"⟩, "by c"), (⟨none, "x"⟩, "plain"),
     (⟨some xmlNamespace, "x"⟩, "by xml")]
  scope := [("a", "urn:2"), ("c", "urn:1"), ("b", "urn:2")]

theorem redeclared_names_expand_back :
    redeclared.attributes.map (fun a => redeclared.attributeName a.1) =
      ["a:x", "c:x", "x", "xml:x"] ∧
    (Scope.inside [[(some "a", "urn:1"), (some "b", "urn:2")],
      [(some "a", "urn:2"), (none, "urn:1"), (some "c", "urn:1")]]).attributeName? ⟨some "a", "x"⟩ =
        some ⟨some "urn:2", "x"⟩ ∧
    ∃ e, Tree.formula ⟨redeclared, .text "y" .nil⟩ = .ok e ∧ e.tag.attributes.length = 4 ∧
      e.attribute? "a:x" = some "by b" := by
  have hwell : redeclared.WellNamed
      [[(some "a", "urn:1"), (some "b", "urn:2")],
        [(some "a", "urn:2"), (none, "urn:1"), (some "c", "urn:1")]] := by
    refine ⟨?_, rfl, by decide, by decide, by decide, ?_⟩
    · intro level hlevel
      rcases List.mem_pair.mp hlevel with rfl | rfl
      · exact ⟨by decide, by decide, by decide, by decide⟩
      · exact ⟨by decide, by decide, by decide, by decide⟩
    · intro a ha uri huri
      simp only [redeclared, List.mem_cons, List.not_mem_nil, or_false] at ha
      rcases ha with rfl | rfl | rfl | rfl
      · exact ⟨"b", huri⟩
      · exact ⟨"c", huri⟩
      · cases huri
      · exact ⟨"xml", huri⟩
  obtain ⟨hexpand, -, e, hformula, hlength, hvalue⟩ :=
    attribute_names_expand_back hwell (.text "y" .nil) (by simp [Markup.elements])
  exact ⟨by decide, hexpand _ List.mem_cons_self, e, hformula, hlength,
    hvalue _ List.mem_cons_self⟩

end Xml

end FormulaQuery
