/-
  FormulaQuery/Proofs/Parallel.lean
  =================================
  **Contents that differ in their texts only.**  Two contents are parallel if they
  have the same elements and their texts are cut differently: where one has texts
  directly inside an element, the other has too, but not as many and not the same.

  A walk over parallel contents takes the same steps.  Each step of a session has a
  statement about two sessions that differ in the names of their wildcards only, and
  `constrain_parallel` and `constrainRoot_parallel` put them together.  In the end the
  two compilations have the same outcome, the same paths and the same lengths, and
  their constraints differ in the conditions on texts (`Element.Parallel.compile`).
-/
import FormulaQuery.Proofs.Location
import FormulaQuery.Proofs.Outcome

namespace FormulaQuery

/-! ### Parallel contents -/

namespace Content

/-- The same elements with the same tags, and texts that are not blank.  Inside each element
    there are texts on both sides or on none. -/
inductive Parallel : Content → Content → Prop
  | nil : Parallel .nil .nil
  | textLeft {value : String} {c c' : Content} (hvalue : Text.isBlank value = false)
      (h : Parallel c c') : Parallel (.text value c) c'
  | textRight {value : String} {c c' : Content} (hvalue : Text.isBlank value = false)
      (h : Parallel c c') : Parallel c (.text value c')
  | element (tag : Tag) {inner inner' rest rest' : Content}
      (htexts : inner.ownTexts = [] ↔ inner'.ownTexts = []) (hinner : Parallel inner inner')
      (hrest : Parallel rest rest') :
      Parallel (.element tag inner rest) (.element tag inner' rest')

theorem isEmpty_iff_views {c : Content} : c.isEmpty = true ↔ c.ownTexts = [] ∧ c.children = [] := by
  cases c <;> simp [isEmpty]

theorem ownTexts_subset (c : Content) : c.ownTexts ⊆ c.texts := by
  induction c with
  | nil => exact List.Subset.refl _
  | text value rest ih => exact List.cons_subset_cons value ih
  | element tag inner rest _ ih => exact List.subset_append_of_subset_right _ ih

theorem ownTexts_eq_nil_of_texts {c : Content} (h : c.texts = []) : c.ownTexts = [] :=
  List.subset_nil.mp (h ▸ c.ownTexts_subset)

end Content

/-- Parallel elements. -/
structure Element.Parallel (e e' : Element) : Prop where
  tag : e.tag = e'.tag
  ownTexts : e.ownTexts = [] ↔ e'.ownTexts = []
  content : e.content.Parallel e'.content

theorem Text.isBlank_append (s t : String) : isBlank (s ++ t) = (isBlank s && isBlank t) := by
  simp only [isBlank, String.toList_append, List.all_append]

theorem Text.isBlank_concat (ss : List String) : isBlank (concat ss) = ss.all isBlank := by
  induction ss with
  | nil => rfl
  | cons s ss ih => rw [concat, isBlank_append, ih, List.all_cons]

namespace Content.Parallel

variable {c c' : Content}

theorem symm (h : c.Parallel c') : c'.Parallel c := by
  induction h with
  | nil => exact .nil
  | textLeft hvalue _ ih => exact .textRight hvalue ih
  | textRight hvalue _ ih => exact .textLeft hvalue ih
  | element tag htexts _ _ ihi ihr => exact .element tag htexts.symm ihi ihr

theorem of_textRight {value : String} (h : c.Parallel (.text value c')) : c.Parallel c' := by
  generalize hright : Content.text value c' = right at h
  induction h with
  | nil => cases hright
  | textLeft hvalue _ ih => exact .textLeft hvalue (ih hright)
  | textRight _ h _ =>
    cases hright
    exact h
  | element _ _ _ _ _ _ => cases hright

theorem children (h : c.Parallel c') : List.Forall₂ Element.Parallel c.children c'.children := by
  induction h with
  | nil => exact .nil
  | textLeft _ _ ih => exact ih
  | textRight _ _ ih => exact ih
  | element tag htexts hinner _ _ ihr => exact .cons ⟨rfl, htexts, hinner⟩ ihr

/-- The elements correspond in document order; the positions may differ, as texts count. -/
theorem positions (h : c.Parallel c') (index index' : Nat) :
    List.Forall₂ (fun p q => p.2.Parallel q.2) (c.positions index) (c'.positions index') := by
  induction h generalizing index index' with
  | nil => exact .nil
  | textLeft _ _ ih => exact ih (index + 1) index'
  | textRight _ _ ih => exact ih index (index' + 1)
  | element tag htexts hinner _ ihi ihr =>
    refine .cons ⟨rfl, htexts, hinner⟩ (List.rel_append ?_ (ihr (index + 1) (index' + 1)))
    rw [List.forall₂_map_left_iff, List.forall₂_map_right_iff]
    exact ihi 0 0

theorem not_isBlank (h : c.Parallel c') : ∀ value ∈ c.texts, Text.isBlank value = false := by
  induction h with
  | nil => simp [texts]
  | textLeft hvalue _ ih => exact List.forall_mem_cons.mpr ⟨hvalue, ih⟩
  | textRight _ _ ih => exact ih
  | element tag _ _ _ ihi ihr => exact List.forall_mem_append.mpr ⟨ihi, ihr⟩

/-- Whether there is text at any depth is the same on both sides. -/
theorem texts_eq_nil_iff (h : c.Parallel c') (hown : c.ownTexts = [] ↔ c'.ownTexts = []) :
    c.texts = [] ↔ c'.texts = [] := by
  induction h with
  | nil => exact Iff.rfl
  | @textLeft value c c' _ _ _ =>
    -- the text of the left side is its own, so the right side has one of its own
    have hown' : c'.ownTexts ≠ [] := fun h => by simpa using hown.mpr h
    simp only [texts, reduceCtorEq, false_iff]
    exact fun h => hown' (ownTexts_eq_nil_of_texts h)
  | @textRight value c c' _ _ _ =>
    have hown' : c.ownTexts ≠ [] := fun h => by simpa using hown.mp h
    simp only [texts, reduceCtorEq, iff_false]
    exact fun h => hown' (ownTexts_eq_nil_of_texts h)
  | element tag htexts _ _ ihi ihr =>
    simp only [texts, List.append_eq_nil_iff, ihi htexts, ihr hown]

theorem isEmpty (h : c.Parallel c') (hown : c.ownTexts = [] ↔ c'.ownTexts = []) :
    c.isEmpty = c'.isEmpty := by
  have hchildren : c.children = [] ↔ c'.children = [] := by
    rw [← List.length_eq_zero_iff, ← List.length_eq_zero_iff, h.children.length_eq]
  rw [Bool.eq_iff_iff, isEmpty_iff_views, isEmpty_iff_views, hown, hchildren]

theorem isBlank_concat (h : c.Parallel c') :
    Text.isBlank (Text.concat c.texts) = true ↔ c.texts = [] := by
  rw [Text.isBlank_concat, List.all_eq_true]
  constructor
  · intro hall
    refine List.eq_nil_iff_forall_not_mem.mpr ?_
    intro value hvalue
    have hblank := hall value hvalue
    rw [h.not_isBlank value hvalue] at hblank
    cases hblank
  · intro hnil value hvalue
    rw [hnil] at hvalue
    cases hvalue

end Content.Parallel

namespace Element.Parallel

variable {e e' : Element}

theorem children (h : e.Parallel e') : List.Forall₂ Element.Parallel e.children e'.children :=
  h.content.children

theorem positions (h : e.Parallel e') :
    List.Forall₂ (fun p q => p.2.Parallel q.2) e.positions e'.positions :=
  .cons h (h.content.positions 0 0)

theorem elements (h : e.Parallel e') : List.Forall₂ Element.Parallel e.elements e'.elements := by
  rw [← Element.map_snd_positions, ← Element.map_snd_positions, List.forall₂_map_left_iff,
    List.forall₂_map_right_iff]
  exact h.positions

theorem hasChildren (h : e.Parallel e') : e.hasChildren = e'.hasChildren := by
  rw [Element.hasChildren, Element.hasChildren, h.content.isEmpty h.ownTexts]

theorem firstElement? (h : e.Parallel e') :
    Option.Rel Element.Parallel e.firstElement? e'.firstElement? := by
  have hchildren := h.children
  rw [Element.firstElement?, Element.firstElement?, Content.firstElement?_eq_head?,
    Content.firstElement?_eq_head?]
  rw [Element.children, Element.children] at hchildren
  generalize e.content.children = es, e'.content.children = es' at hchildren ⊢
  cases hchildren with
  | nil => exact .none
  | cons hchild _ => exact .some hchild

/-- A wildcard has a name on both sides or on none. -/
theorem wildcardName?_isNone (h : e.Parallel e') :
    wildcardName? e.tag e.content = none ↔ wildcardName? e'.tag e'.content = none := by
  have hblank : Text.isBlank e.textContent = true ↔ Text.isBlank e'.textContent = true := by
    rw [textContent, textContent, texts, texts, h.content.isBlank_concat,
      h.content.symm.isBlank_concat, h.content.texts_eq_nil_iff h.ownTexts]
  rw [wildcardName?_eq_none_iff, wildcardName?_eq_none_iff, IsUnnamed, IsUnnamed, hblank, attribute?,
    attribute?, h.tag]

end Element.Parallel

/-! ### Steps of two sessions -/

/-- Sessions that differ in the names of the wildcards only. -/
structure Session.Parallel (s s' : Session) : Prop where
  restrictLength : s.restrictLength = s'.restrictLength
  path : s.path = s'.path
  lengths : s.lengths = s'.lengths
  paths : s.occurrences.map Occurrence.path = s'.occurrences.map Occurrence.path

/-- Both runs come to an end with corresponding results, or both fail at the same path; the
    sessions that they leave correspond. -/
inductive Session.Ends {α : Type} (R : α → α → Prop) :
    EStateM.Result UnnamedWildcard Session α → EStateM.Result UnnamedWildcard Session α → Prop
  | ok {a a' : α} {s s' : Session} (hresult : R a a') (hleft : s.Parallel s') :
      Ends R (.ok a s) (.ok a' s')
  | error (e : UnnamedWildcard) {s s' : Session} (hleft : s.Parallel s') :
      Ends R (.error e s) (.error e s')

/-- Parts of a compilation that correspond: they do from any two sessions that correspond. -/
def Compile.Parallel {α : Type} (R : α → α → Prop) (x x' : Compile α) : Prop :=
  ∀ s s' : Session, s.Parallel s' → Session.Ends R (x.run s) (x'.run s')

namespace Compile.Parallel

variable {α β : Type} {R : α → α → Prop} {S : β → β → Prop} {x x' : Compile α}

theorem pure {a a' : α} (h : R a a') : Parallel R (Pure.pure a) (Pure.pure a') := by
  intro s s' hs
  exact .ok h hs

theorem bind {f f' : α → Compile β} (hx : Parallel R x x')
    (hf : ∀ a a', R a a' → Parallel S (f a) (f' a')) : Parallel S (x >>= f) (x' >>= f') := by
  intro s s' hs
  have hends := hx s s' hs
  simp only [EStateM.run_bind]
  generalize x.run s = r, x'.run s' = r' at hends ⊢
  cases hends with
  | ok hresult hleft => exact hf _ _ hresult _ _ hleft
  | error e hleft => exact .error e hleft

/-- What is done with a result on the left alone may be left out if it makes no difference. -/
theorem bind_pure_left {f : α → α} (hx : Parallel R x x') (hf : ∀ a a', R a a' → R (f a) a') :
    Parallel R (x >>= fun a => Pure.pure (f a)) x' := by
  rw [← bind_pure x']
  exact bind hx fun a a' h => pure (hf a a' h)

theorem bind_pure_right {f : α → α} (hx : Parallel R x x') (hf : ∀ a a', R a a' → R a (f a')) :
    Parallel R x (x' >>= fun a => Pure.pure (f a)) := by
  rw [← bind_pure x]
  exact bind hx fun a a' h => pure (hf a a' h)

end Compile.Parallel

namespace Session

theorem enter_parallel (index : Nat) :
    Compile.Parallel (fun _ _ => True) (enter index) (enter index) := by
  intro s s' hs
  exact .ok trivial ⟨hs.restrictLength, congrArg (· ++ [index]) hs.path, hs.lengths, hs.paths⟩

theorem leave_parallel : Compile.Parallel (fun _ _ => True) leave leave := by
  intro s s' hs
  exact .ok trivial ⟨hs.restrictLength, congrArg List.dropLast hs.path, hs.lengths, hs.paths⟩

theorem recordLength_parallel (count : Nat) :
    Compile.Parallel (fun _ _ => True) (recordLength count) (recordLength count) := by
  intro s s' hs
  rw [recordLength_run, recordLength_run]
  refine .ok trivial ⟨hs.restrictLength, hs.path, ?_, ?_⟩
  · simp only [record, hs.lengths, hs.restrictLength, hs.path]
  · simpa only [record, List.map_nil, List.append_nil] using hs.paths

/-- The names under which a wildcard is recorded may differ, the paths do not. -/
theorem recordWildcard_parallel {e e' : Element} (h : e.Parallel e') (index : Nat) :
    Compile.Parallel (fun _ _ => True) (recordWildcard e.tag e.content index)
      (recordWildcard e'.tag e'.content index) := by
  intro s s' hs
  have hname := h.wildcardName?_isNone
  cases hleft : wildcardName? e.tag e.content with
  | none =>
    rw [recordWildcard_run_none s hleft, recordWildcard_run_none s' (hname.mp hleft), hs.path]
    exact .error _ hs
  | some name =>
    obtain ⟨name', hright⟩ : ∃ name', wildcardName? e'.tag e'.content = some name' := by
      refine Option.ne_none_iff_exists'.mp ?_
      intro hright
      rw [hname.mpr hright] at hleft
      cases hleft
    rw [recordWildcard_run_some s hleft, recordWildcard_run_some s' hright]
    refine .ok trivial ⟨hs.restrictLength, hs.path, ?_, ?_⟩
    · simpa only [record, List.map_nil, ite_self, List.append_nil] using hs.lengths
    · simp only [record, List.map_append, List.map_cons, List.map_nil, Occurrence.below, hs.paths,
        hs.path]

end Session

/-! ### Walks of two sessions -/

/-- The conditions on elements alone. -/
def Constraint.withoutTexts : Constraint → Constraint
  | nil => nil
  | text _ rest => rest.withoutTexts
  | named index name rest => named index name rest.withoutTexts
  | nested index name inner rest => nested index name inner.withoutTexts rest.withoutTexts

/-- A condition on a child of the main element, without the texts below it. -/
def RootCondition.withoutTexts? : RootCondition → Option RootCondition
  | text _ => none
  | child inner => some (child inner.withoutTexts)

/-- Constraints with the same conditions on elements. -/
def Constraint.SameElements (k k' : Constraint) : Prop := k.withoutTexts = k'.withoutTexts

def RootCondition.SameElements (ks ks' : List RootCondition) : Prop :=
  ks.filterMap withoutTexts? = ks'.filterMap withoutTexts?

namespace Session

/-- **The walks over parallel contents are parallel.** -/
theorem constrain_parallel {c c' : Content} (h : c.Parallel c') (before : Nat) :
    Compile.Parallel Constraint.SameElements (constrain c before) (constrain c' before) := by
  induction h generalizing before with
  | nil =>
    exact (recordLength_parallel before).bind fun _ _ _ => .pure rfl
  | textLeft _ _ ih => exact (ih before).bind_pure_left fun _ _ hk => hk
  | textRight _ _ ih => exact (ih before).bind_pure_right fun _ _ hk => hk
  | @element tag inner inner' rest rest' htexts hinner _ ihi ihr =>
    have hchild : Element.Parallel ⟨tag, inner⟩ ⟨tag, inner'⟩ := ⟨rfl, htexts, hinner⟩
    simp only [constrain, hinner.isEmpty htexts]
    cases tag.isWildcard with
    | true =>
      simp only [if_true]
      exact (recordWildcard_parallel hchild (before + 1)).bind fun _ _ _ => ihr (before + 1)
    | false =>
      cases tag.isAnnotation with
      | true =>
        simp only [Bool.false_eq_true, if_false, if_true]
        exact ihr (before + 1)
      | false =>
        simp only [Bool.false_eq_true, if_false]
        cases inner'.isEmpty with
        | true =>
          simp only [if_true]
          refine (ihr (before + 1)).bind fun k k' hk => .pure ?_
          exact congrArg (Constraint.named (before + 1) tag.localName) hk
        | false =>
          simp only [Bool.false_eq_true, if_false]
          refine (enter_parallel (before + 1)).bind fun _ _ _ => ?_
          refine (ihi 0).bind fun i i' hi => ?_
          refine leave_parallel.bind fun _ _ _ => ?_
          refine (ihr (before + 1)).bind fun k k' hk => .pure ?_
          exact congrArg₂ (Constraint.nested (before + 1) tag.localName) hi hk

theorem constrainRoot_parallel {c c' : Content} (h : c.Parallel c') (before : Nat) :
    Compile.Parallel RootCondition.SameElements (constrainRoot c before)
      (constrainRoot c' before) := by
  induction h generalizing before with
  | nil => exact .pure rfl
  | textLeft _ _ ih => exact (ih before).bind_pure_left fun _ _ hk => hk
  | textRight _ _ ih => exact (ih before).bind_pure_right fun _ _ hk => hk
  | @element tag inner inner' rest rest' htexts hinner _ _ ihr =>
    have hchild : Element.Parallel ⟨tag, inner⟩ ⟨tag, inner'⟩ := ⟨rfl, htexts, hinner⟩
    simp only [constrainRoot, hinner.isEmpty htexts]
    cases tag.isWildcard with
    | true =>
      simp only [if_true]
      exact (recordWildcard_parallel hchild (before + 1)).bind fun _ _ _ => ihr (before + 1)
    | false =>
      cases tag.isAnnotation with
      | true =>
        simp only [Bool.false_eq_true, if_false, if_true]
        exact ihr (before + 1)
      | false =>
        have hbehind : ∀ i i' : Constraint, i.SameElements i' →
            Compile.Parallel RootCondition.SameElements
              (constrainRoot rest (before + 1) >>= fun ks => pure (.child i :: ks))
              (constrainRoot rest' (before + 1) >>= fun ks => pure (.child i' :: ks)) := by
          intro i i' hi
          refine (ihr (before + 1)).bind fun ks ks' hks => .pure ?_
          have hhead : (RootCondition.child i).withoutTexts? =
              (RootCondition.child i').withoutTexts? :=
            congrArg (fun k => some (RootCondition.child k)) hi
          rw [RootCondition.SameElements, List.filterMap_cons, List.filterMap_cons, hhead, hks]
        simp only [Bool.false_eq_true, if_false]
        cases inner'.isEmpty with
        | true =>
          simp only [if_true]
          have hnil : Constraint.nil.SameElements .nil := rfl
          exact (Compile.Parallel.pure hnil).bind hbehind
        | false =>
          simp only [Bool.false_eq_true, if_false]
          exact (constrain_parallel hinner 0).bind hbehind

end Session

/-! ### Two compilations -/

/-- Constraints, as they are written, that differ in conditions on texts only. -/
def SameConditions (fixed fixed' : String) : Prop :=
  ∃ ks ks', fixed = RootCondition.renderAll ks ∧ fixed' = RootCondition.renderAll ks' ∧
    RootCondition.SameElements ks ks'

/-- Compilations that meet wildcards at the same paths, and that fail at the same path or
    record the same lengths beside constraints that differ in conditions on texts only. -/
structure Compilation.Parallel (k k' : Compilation) : Prop where
  paths : k.occurrences.map Occurrence.path = k'.occurrences.map Occurrence.path
  lengths : k.outcome.map Prod.snd = k'.outcome.map Prod.snd
  fixed : ∀ fixed fixed' lengths lengths', k.outcome = .ok (fixed, lengths) →
    k'.outcome = .ok (fixed', lengths') → SameConditions fixed fixed'

/-- Clauses that differ in conditions on texts and in what is said about wildcards. -/
structure Clauses.Parallel (k k' : Clauses) : Prop where
  header : k.header = k'.header
  fixed : SameConditions k.fixed k'.fixed
  lengths : k.lengths = k'.lengths
  footer : k.footer = k'.footer

/-- Outcomes for two main elements: the same error, or the queries that are put together from
    their clauses and look for elements of the same name. -/
inductive ParallelOutcome (e e' : Element) (config : Config) :
    Except QueryError (Option String) → Except QueryError (Option String) → Prop
  | error (reason : QueryError) : ParallelOutcome e e' config (.error reason) (.error reason)
  | query {child child' : Element} (hchild : e.firstElement? = some child)
      (hchild' : e'.firstElement? = some child')
      (hname : child.tag.localName = child'.tag.localName)
      (hclauses : (e.clauses config).Parallel (e'.clauses config)) :
      ParallelOutcome e e' config (.ok (some ((e.clauses config).query child.tag.localName)))
        (.ok (some ((e'.clauses config).query child'.tag.localName)))

namespace Element.Parallel

variable {e e' : Element}

theorem compile (h : e.Parallel e') (restrictLength : Bool) :
    (e.compile restrictLength).Parallel (e'.compile restrictLength) := by
  have hends := Session.constrainRoot_parallel h.content 0 { restrictLength := restrictLength }
    { restrictLength := restrictLength } ⟨rfl, rfl, rfl, rfl⟩
  simp only [Element.compile, Session.compileMain, EStateM.run_bind]
  generalize (Session.constrainRoot e.content 0).run { restrictLength := restrictLength } = r,
    (Session.constrainRoot e'.content 0).run { restrictLength := restrictLength } = r' at hends ⊢
  cases hends with
  | error e hleft =>
    refine ⟨hleft.paths, rfl, ?_⟩
    rintro _ _ _ _ ⟨⟩
  | @ok ks ks' s s' hks hleft =>
    refine ⟨hleft.paths, congrArg Except.ok hleft.lengths, ?_⟩
    rintro _ _ _ _ ⟨⟩ ⟨⟩
    exact ⟨ks, ks', rfl, rfl, hks⟩

/-- The walk over the main element fails on both sides at the same path, or on none. -/
theorem unnamed?_wildcards (h : e.Parallel e') :
    unnamed? e.wildcards = unnamed? e'.wildcards := by
  have hlengths := (h.compile true).lengths
  cases hleft : unnamed? e.wildcards with
  | some p =>
    rw [Element.compile_error e true hleft] at hlengths
    cases hright : unnamed? e'.wildcards with
    | some p' =>
      rw [Element.compile_error e' true hright] at hlengths
      cases hlengths
      rfl
    | none =>
      rw [Element.compile_ok e' true hright] at hlengths
      cases hlengths
  | none =>
    rw [Element.compile_ok e true hleft] at hlengths
    cases hright : unnamed? e'.wildcards with
    | some p' =>
      rw [Element.compile_error e' true hright] at hlengths
      cases hlengths
    | none => rfl

theorem clauses (h : e.Parallel e') (config : Config) (hnamed : unnamed? e.wildcards = none) :
    (e.clauses config).Parallel (e'.clauses config) := by
  have hnamed' : unnamed? e'.wildcards = none := by rw [← h.unnamed?_wildcards, hnamed]
  have hcompile := h.compile config.restrictLength
  rw [Element.compile_ok e _ hnamed, Element.compile_ok e' _ hnamed'] at hcompile
  refine ⟨rfl, hcompile.fixed _ _ _ _ rfl rfl, ?_, rfl⟩
  have hlengths := Except.ok.inj hcompile.lengths
  exact congrArg (fun facts => Text.join "\n and " (facts.map LengthFact.render)) hlengths

/-- **Parallel main elements have outcomes of the same kind**, and queries that differ in
    conditions on texts and in what is said about wildcards only. -/
theorem generate (h : e.Parallel e') (config : Config) :
    ParallelOutcome e e' config (Generator.ofMain (some e) config).generate.2
      (Generator.ofMain (some e') config).generate.2 := by
  have hunnamed := h.unnamed?_wildcards
  have hfirst := h.firstElement?
  cases hnamed : unnamed? e.wildcards with
  | some p =>
    rw [Generator.generate_of_unnamed rfl hnamed,
      Generator.generate_of_unnamed rfl (hunnamed ▸ hnamed)]
    exact .error _
  | none =>
    have hnamed' : unnamed? e'.wildcards = none := hunnamed ▸ hnamed
    cases hchild : e.firstElement? with
    | none =>
      cases hchild' : e'.firstElement? with
      | some child' => rw [hchild, hchild'] at hfirst; cases hfirst
      | none =>
        rw [Generator.generate_of_childless rfl (Element.firstElement?_eq_none_iff.mp hchild),
          Generator.generate_of_childless rfl (Element.firstElement?_eq_none_iff.mp hchild'),
          Element.qualifiedName, Element.qualifiedName, h.tag]
        exact .error _
    | some child =>
      cases hchild' : e'.firstElement? with
      | none => rw [hchild, hchild'] at hfirst; cases hfirst
      | some child' =>
        obtain htag : child.tag = child'.tag := by
          rw [hchild, hchild'] at hfirst
          cases hfirst with
          | some hparallel => exact hparallel.tag
        rw [Generator.generate_of_child rfl hnamed hchild,
          Generator.generate_of_child rfl hnamed' hchild']
        exact .query hchild hchild' (by rw [htag]) (h.clauses config hnamed)

/-! ### Two documents -/

/-- The main element of one document corresponds to that of the other. -/
theorem locate? (h : e.Parallel e') :
    Option.Rel
      (fun l l' => l.convention = l'.convention ∧ l.element.Parallel l'.element ∧
        ∃ k : Nat, e.positions[k]? = some (l.position, l.element) ∧
          e'.positions[k]? = some (l'.position, l'.element))
      e.locate? e'.locate? := by
  refine Element.locate?_rel h.positions ?_
  intro p q hpq c
  rw [hpq.tag]

end Element.Parallel

theorem ParallelOutcome.map_isSome {e e' : Element} {config : Config}
    {r r' : Except QueryError (Option String)} (h : ParallelOutcome e e' config r r') :
    r.map Option.isSome = r'.map Option.isSome := by
  cases h with
  | error reason => rfl
  | query _ _ _ _ => rfl

theorem generateQuery_of_locate?_none {d : Element} (h : d.locate? = none) (config : Config) :
    generateQuery (some d) config = .ok none := by
  rw [generateQuery, Generator.ofDocument, Option.bind_some, Element.main?, h]
  rfl

theorem generateQuery_of_locate?_some {d : Element} {l : Located} (h : d.locate? = some l)
    (config : Config) :
    generateQuery (some d) config = (Generator.ofMain (some l.element) config).generate.2 := by
  refine generateQuery_of_main? ?_ config
  rw [Element.main?, h, Option.map_some]

end FormulaQuery
