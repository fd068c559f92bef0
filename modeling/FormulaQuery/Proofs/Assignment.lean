/-
  FormulaQuery/Proofs/Assignment.lean
  ===================================
  **Options one by one and all at once.**  A configuration is built from named values,
  or its options are assigned one after the other.  Whether an option takes a value
  does not depend on the others, and an assignment leaves the others as they are, so
  assignments to different options can be made in any order (`assignAll_perm`).

  A configuration is built from values exactly if all of them can be assigned, and
  otherwise each value that is refused is reported (`construct_eq_ok_iff`,
  `construct_eq_error_iff`).  The same holds of assignments to a draft, which keeps
  its values under their names (`Draft.assign_of_ok`, `Draft.assign_of_error`).
-/
import FormulaQuery.Config.Draft
import FormulaQuery.Proofs.Loading
import FormulaQuery.Proofs.Lookup
import Mathlib.Data.List.Perm.Basic

namespace FormulaQuery

namespace Config

/-! ### One assignment -/

theorem ext_get {c c' : Config} (h : ∀ f, c.get f = c'.get f) : c = c' := by
  have htext {x y : Option String}
      (hxy : (x.map Value.text).getD .null = (y.map Value.text).getD .null) : x = y := by
    cases x <;> cases y <;> simp_all
  have hdeclaration := Value.text.inj (h .declaration)
  have hpath := Value.text.inj (h .pathToRoot)
  have hreturn := Value.text.inj (h .returnFormat)
  have hheader := htext (h .header)
  have hfooter := htext (h .footer)
  have hlength := Value.bool.inj (h .restrictLength)
  have hmap := Value.bool.inj (h .emitWildcardMap)
  cases c
  cases c'
  simp_all

/-- What an assignment does: the option gets the value as it is kept, and the others stay as they
    are; or the value is refused.  It is the same for all configurations. -/
inductive Writes (f : Field) (v : Value) : Prop
  | takes {w : Value} (haccept : f.accept v = .ok w)
      (hset : ∀ c : Config, ∃ c', c.set f v = .ok c' ∧ c'.get f = w ∧
        ∀ g, g ≠ f → c'.get g = c.get g)
  | refuses {r : Refusal} (haccept : f.accept v = .error r)
      (hset : ∀ c : Config, c.set f v = .error r)

theorem Writes.of_map {f : Field} {v : Value} {α : Type} (read : Except Refusal α)
    (update : Config → α → Config) (hset : ∀ c : Config, c.set f v = read.map (update c))
    (hself : ∀ c a, (update c a).get f = (update {} a).get f)
    (hother : ∀ c a g, g ≠ f → (update c a).get g = c.get g) : Writes f v := by
  cases read with
  | error r =>
    have haccept : f.accept v = .error r := by
      rw [Field.accept, hset]
      rfl
    exact .refuses haccept hset
  | ok a =>
    have haccept : f.accept v = .ok ((update {} a).get f) := by
      rw [Field.accept, hset]
      rfl
    exact .takes haccept fun c => ⟨update c a, hset c, hself c a, hother c a⟩

theorem writes (f : Field) (v : Value) : Writes f v := by
  cases f
  case' declaration =>
    refine .of_map (readText v) (fun c s => { c with declaration := s }) (fun _ => rfl)
      (fun _ _ => rfl) ?_
  case' pathToRoot =>
    refine .of_map (readText v) (fun c s => { c with pathToRoot := s }) (fun _ => rfl)
      (fun _ _ => rfl) ?_
  case' returnFormat =>
    refine .of_map (readText v) (fun c s => { c with returnFormat := s }) (fun _ => rfl)
      (fun _ _ => rfl) ?_
  case' header =>
    refine .of_map (readOptionalText v) (fun c s => { c with header := s }) (fun _ => rfl)
      (fun _ _ => rfl) ?_
  case' footer =>
    refine .of_map (readOptionalText v) (fun c s => { c with footer := s }) (fun _ => rfl)
      (fun _ _ => rfl) ?_
  case' restrictLength =>
    refine .of_map (readBool v) (fun c b => { c with restrictLength := b }) (fun _ => rfl)
      (fun _ _ => rfl) ?_
  case' emitWildcardMap =>
    refine .of_map (readBool v) (fun c b => { c with emitWildcardMap := b }) (fun _ => rfl)
      (fun _ _ => rfl) ?_
  all_goals
    intro c a g hg
    cases g <;> first | rfl | exact absurd rfl hg

variable {c c' : Config} {f : Field} {v : Value}

theorem set_eq_ok_iff :
    c.set f v = .ok c' ↔
      f.accept v = .ok (c'.get f) ∧ ∀ g, g ≠ f → c'.get g = c.get g := by
  cases writes f v with
  | refuses haccept hset => simp [haccept, hset]
  | @takes w haccept hset =>
    obtain ⟨c₁, hc₁, hself, hothers⟩ := hset c
    rw [hc₁, haccept]
    constructor
    · intro h
      cases h
      exact ⟨by rw [hself], hothers⟩
    · rintro ⟨hvalue, hkept⟩
      cases hvalue
      have hsame : c₁ = c' := by
        apply ext_get
        intro g
        by_cases hg : g = f
        · rw [hg, hself]
        · rw [hothers g hg, hkept g hg]
      rw [hsame]

theorem set_eq_error_iff {r : Refusal} : c.set f v = .error r ↔ f.accept v = .error r := by
  cases writes f v with
  | refuses haccept hset => rw [haccept, hset]; simp
  | takes haccept hset =>
    obtain ⟨c₁, hc₁, -, -⟩ := hset c
    simp [hc₁, haccept]

theorem exists_set_of_accept {w : Value} (h : f.accept v = .ok w) (c : Config) :
    ∃ c', c.set f v = .ok c' := by
  cases writes f v with
  | refuses haccept hset =>
    rw [h] at haccept
    cases haccept
  | takes haccept hset =>
    obtain ⟨c₁, hc₁, -, -⟩ := hset c
    exact ⟨c₁, hc₁⟩

/-- Assignments to different options can change places. -/
theorem set_comm {c₁ : Config} {g : Field} {w : Value} (hne : f ≠ g) (hf : c.set f v = .ok c₁)
    (hg : c₁.set g w = .ok c') : ∃ c₂, c.set g w = .ok c₂ ∧ c₂.set f v = .ok c' := by
  obtain ⟨hacceptF, hkeptF⟩ := set_eq_ok_iff.mp hf
  obtain ⟨hacceptG, hkeptG⟩ := set_eq_ok_iff.mp hg
  obtain ⟨c₂, hc₂⟩ := exists_set_of_accept hacceptG c
  obtain ⟨haccept, hkept⟩ := set_eq_ok_iff.mp hc₂
  refine ⟨c₂, hc₂, set_eq_ok_iff.mpr ⟨?_, ?_⟩⟩
  · rw [hkeptG f hne]
    exact hacceptF
  · intro k hk
    by_cases hkg : k = g
    · subst hkg
      rw [hacceptG] at haccept
      exact Except.ok.inj haccept
    · rw [hkeptG k hkg, hkeptF k hk, hkept k hkg]

/-! ### Several assignments -/

/-- Assigns values to options, one after the other, up to the first one that is refused. -/
def assignAll (c : Config) (entries : List (Field × Value)) : Except Refusal Config :=
  entries.foldlM (fun c e => c.set e.1 e.2) c

variable {entries order : List (Field × Value)}

theorem assignAll_cons_eq_ok_iff {e : Field × Value} :
    c.assignAll (e :: entries) = .ok c' ↔
      ∃ c₁, c.set e.1 e.2 = .ok c₁ ∧ c₁.assignAll entries = .ok c' := by
  rw [assignAll, List.foldlM_cons]
  exact bind_eq_ok_iff

theorem exists_assignAll_iff :
    (∃ c', c.assignAll entries = .ok c') ↔ ∀ e ∈ entries, ∃ w, e.1.accept e.2 = .ok w := by
  induction entries generalizing c with
  | nil => simp [assignAll, pure, Except.pure]
  | cons e entries ih =>
    rw [List.forall_mem_cons]
    constructor
    · rintro ⟨c', h⟩
      obtain ⟨c₁, hc₁, h⟩ := assignAll_cons_eq_ok_iff.mp h
      exact ⟨⟨_, (set_eq_ok_iff.mp hc₁).1⟩, ih.mp ⟨c', h⟩⟩
    · rintro ⟨⟨w, hw⟩, hrest⟩
      obtain ⟨c₁, hc₁⟩ := exists_set_of_accept hw c
      obtain ⟨c', h⟩ := (ih (c := c₁)).mpr hrest
      exact ⟨c', assignAll_cons_eq_ok_iff.mpr ⟨c₁, hc₁, h⟩⟩

/-- Two assignments of one value leave an option alike if it is the one assigned to, or was alike
    before. -/
theorem get_set_congr {d c₁ d₁ : Config} {g : Field} (hc : c.set f v = .ok c₁)
    (hd : d.set f v = .ok d₁) (h : g = f ∨ c.get g = d.get g) : c₁.get g = d₁.get g := by
  obtain ⟨hacceptC, hkeptC⟩ := set_eq_ok_iff.mp hc
  obtain ⟨hacceptD, hkeptD⟩ := set_eq_ok_iff.mp hd
  by_cases hg : g = f
  · rw [hacceptC] at hacceptD
    rw [hg, Except.ok.inj hacceptD]
  · rw [hkeptC g hg, hkeptD g hg]
    exact h.resolve_left hg

/-- What options were before does not matter if they are assigned to. -/
theorem assignAll_congr {d : Config} (hagree : ∀ f, f ∈ entries.map Prod.fst ∨ c.get f = d.get f)
    (h : c.assignAll entries = .ok c') : d.assignAll entries = .ok c' := by
  induction entries generalizing c d with
  | nil =>
    have hsame : c = d := ext_get fun f => (hagree f).resolve_left List.not_mem_nil
    rw [← hsame]
    exact h
  | cons e entries ih =>
    obtain ⟨c₁, hc₁, hrest⟩ := assignAll_cons_eq_ok_iff.mp h
    obtain ⟨d₁, hd₁⟩ := exists_set_of_accept (set_eq_ok_iff.mp hc₁).1 d
    refine assignAll_cons_eq_ok_iff.mpr ⟨d₁, hd₁, ih (fun f => ?_) hrest⟩
    rcases hagree f with hmem | hsame
    · rcases List.mem_cons.mp hmem with rfl | hmem
      · exact Or.inr (get_set_congr hc₁ hd₁ (Or.inl rfl))
      · exact Or.inl hmem
    · exact Or.inr (get_set_congr hc₁ hd₁ (Or.inr hsame))

/-- Assignments to some options can be left out without an effect on the others. -/
theorem get_assignAll_filter {d d' : Config} {left : List Field}
    (hagree : ∀ f, f ∈ left ∨ c.get f = d.get f) (hc : c.assignAll entries = .ok c')
    (hd : d.assignAll (entries.filter fun e => e.1 ∉ left) = .ok d') (f : Field) :
    f ∈ left ∨ c'.get f = d'.get f := by
  induction entries generalizing c d with
  | nil =>
    cases hc
    cases hd
    exact hagree f
  | cons e entries ih =>
    obtain ⟨c₁, hc₁, hrest⟩ := assignAll_cons_eq_ok_iff.mp hc
    by_cases hleft : e.1 ∈ left
    · rw [List.filter_cons_of_neg (by simp [hleft])] at hd
      refine ih (fun g => ?_) hrest hd
      by_cases hg : g = e.1
      · exact Or.inl (hg ▸ hleft)
      · rw [(set_eq_ok_iff.mp hc₁).2 g hg]
        exact hagree g
    · rw [List.filter_cons_of_pos (by simp [hleft])] at hd
      obtain ⟨d₁, hd₁, hd⟩ := assignAll_cons_eq_ok_iff.mp hd
      exact ih (fun g => (hagree g).imp_right fun h => get_set_congr hc₁ hd₁ (Or.inr h)) hrest hd

theorem assignAll_append_eq_ok_iff {more : List (Field × Value)} :
    c.assignAll (entries ++ more) = .ok c' ↔
      ∃ c₁, c.assignAll entries = .ok c₁ ∧ c₁.assignAll more = .ok c' := by
  rw [assignAll, List.foldlM_append]
  exact bind_eq_ok_iff

/-- To assign over what was assigned before is to leave out what is replaced. -/
theorem assignAll_over {more : List (Field × Value)} {c₂ : Config}
    (h : c.assignAll entries = .ok c') :
    c'.assignAll more = .ok c₂ ↔
      c.assignAll (entries.filter (fun e => e.1 ∉ more.map Prod.fst) ++ more) = .ok c₂ := by
  have haccepted := exists_assignAll_iff.mp ⟨c', h⟩
  obtain ⟨c₁, hc₁⟩ : ∃ c₁, c.assignAll (entries.filter fun e => e.1 ∉ more.map Prod.fst) = .ok c₁ :=
    exists_assignAll_iff.mpr fun e he => haccepted e (List.mem_of_mem_filter he)
  have hagree := get_assignAll_filter (fun _ => Or.inr rfl) h hc₁
  rw [assignAll_append_eq_ok_iff]
  constructor
  · intro hmore
    exact ⟨c₁, hc₁, assignAll_congr hagree hmore⟩
  · rintro ⟨c₃, hc₃, hmore⟩
    rw [hc₁] at hc₃
    cases hc₃
    exact assignAll_congr (fun f => (hagree f).imp_right Eq.symm) hmore

/-- The order of assignments to different options does not matter. -/
theorem assignAll_perm (hperm : entries.Perm order) (hnodup : (entries.map Prod.fst).Nodup)
    (h : c.assignAll entries = .ok c') : c.assignAll order = .ok c' := by
  induction hperm generalizing c with
  | nil => exact h
  | cons e _ ih =>
    obtain ⟨c₁, hc₁, hrest⟩ := assignAll_cons_eq_ok_iff.mp h
    exact assignAll_cons_eq_ok_iff.mpr ⟨c₁, hc₁, ih (List.nodup_cons.mp hnodup).2 hrest⟩
  | swap e e' rest =>
    obtain ⟨c₁, hc₁, h₁⟩ := assignAll_cons_eq_ok_iff.mp h
    obtain ⟨c₂, hc₂, h₂⟩ := assignAll_cons_eq_ok_iff.mp h₁
    have hne : e'.1 ≠ e.1 := by
      intro heq
      simp [heq] at hnodup
    obtain ⟨c₃, hc₃, hc₂'⟩ := set_comm hne hc₁ hc₂
    exact assignAll_cons_eq_ok_iff.mpr ⟨c₃, hc₃, assignAll_cons_eq_ok_iff.mpr ⟨c₂, hc₂', h₂⟩⟩
  | trans hfirst _ ih₁ ih₂ =>
    exact ih₂ ((hfirst.map Prod.fst).nodup_iff.mp hnodup) (ih₁ hnodup h)

/-! ### Construction -/

/-- The values of options under their names. -/
def named (entries : List (Field × Value)) : List (String × Value) :=
  entries.map fun e => (e.1.name, e.2)

/-- The faults of the values that are refused. -/
def refusals (entries : List (Field × Value)) : List Fault :=
  entries.filterMap fun e =>
    match e.1.accept e.2 with
    | .ok _ => none
    | .error r => some ⟨e.1.name, r⟩

theorem mem_refusals {fault : Fault} :
    fault ∈ refusals entries ↔
      ∃ e ∈ entries, ∃ r, e.1.accept e.2 = .error r ∧ fault = ⟨e.1.name, r⟩ := by
  rw [refusals, List.mem_filterMap]
  refine exists_congr fun e => and_congr_right fun _ => ?_
  cases e.1.accept e.2 with
  | ok w => simp
  | error r => simp [eq_comm]

theorem refusals_eq_nil_iff :
    refusals entries = [] ↔ ∀ e ∈ entries, ∃ w, e.1.accept e.2 = .ok w := by
  rw [refusals, List.filterMap_eq_nil_iff]
  refine forall₂_congr fun e _ => ?_
  cases e.1.accept e.2 <;> simp

theorem refusals_options_sublist (entries : List (Field × Value)) :
    ((refusals entries).map Fault.option).Sublist (entries.map fun e => e.1.name) := by
  induction entries with
  | nil => exact List.Sublist.refl _
  | cons e entries ih =>
    rw [refusals, List.filterMap_cons]
    cases e.1.accept e.2 with
    | ok w => exact ih.cons _
    | error r => exact ih.cons_cons _

theorem ofName?_name (f : Field) : Field.ofName? f.name = some f := by
  cases f <;> decide

theorem name_of_ofName? {s : String} (h : Field.ofName? s = some f) : f.name = s := by
  simpa using List.find?_some h

theorem name_injective : Function.Injective Field.name := by
  intro f g h
  have hfound := ofName?_name f
  rw [h, ofName?_name] at hfound
  exact (Option.some.inj hfound).symm

theorem take_of_ok (h : c.set f v = .ok c') (faults : List Fault) :
    take (c, faults) (f.name, v) = (c', faults) := by
  simp only [take, ofName?_name, h]

theorem take_of_error {r : Refusal} (h : c.set f v = .error r) (faults : List Fault) :
    take (c, faults) (f.name, v) = (c, faults ++ [⟨f.name, r⟩]) := by
  simp only [take, ofName?_name, h]

theorem foldl_take_snd (c : Config) (faults : List Fault) :
    ((named entries).foldl take (c, faults)).2 = faults ++ refusals entries := by
  induction entries generalizing c faults with
  | nil => exact (List.append_nil faults).symm
  | cons e entries ih =>
    have hnamed : named (e :: entries) = (e.1.name, e.2) :: named entries := rfl
    rw [hnamed, List.foldl_cons]
    cases hset : c.set e.1 e.2 with
    | ok c' =>
      have hrefusals : refusals (e :: entries) = refusals entries := by
        simp [refusals, (set_eq_ok_iff.mp hset).1]
      rw [take_of_ok hset, ih, hrefusals]
    | error r =>
      have hrefusals : refusals (e :: entries) = ⟨e.1.name, r⟩ :: refusals entries := by
        simp [refusals, set_eq_error_iff.mp hset]
      rw [take_of_error hset, ih, hrefusals, List.append_assoc, List.singleton_append]

theorem foldl_take_of_assignAll (h : c.assignAll entries = .ok c') (faults : List Fault) :
    (named entries).foldl take (c, faults) = (c', faults) := by
  induction entries generalizing c with
  | nil =>
    cases h
    rfl
  | cons e entries ih =>
    obtain ⟨c₁, hc₁, hrest⟩ := assignAll_cons_eq_ok_iff.mp h
    have hnamed : named (e :: entries) = (e.1.name, e.2) :: named entries := rfl
    rw [hnamed, List.foldl_cons, take_of_ok hc₁]
    exact ih hrest

theorem holdsHalf_name (f : Field) : Text.holdsHalf f.name = false := by
  cases f <;> decide

theorem construct_named (entries : List (Field × Value)) :
    construct (named entries) =
      match (named entries).foldl take ({}, []) with
      | (c, []) => .ok c
      | (_, faults) => .error faults := by
  have hwhole : ((named entries).any fun e => Text.holdsHalf e.1) = false := by
    rw [List.any_eq_false]
    intro o ho
    obtain ⟨e, -, rfl⟩ := List.mem_map.mp ho
    simp [holdsHalf_name]
  rw [construct, hwhole]
  exact if_neg Bool.false_ne_true

theorem exists_named_of_foldl_take {o : List (String × Value)} {state : Config × List Fault}
    (h : (o.foldl take state).2 = []) : state.2 = [] ∧ ∃ entries, o = named entries := by
  induction o generalizing state with
  | nil => exact ⟨h, [], rfl⟩
  | cons e o ih =>
    obtain ⟨hfaults, entries, rfl⟩ := ih h
    rw [take] at hfaults
    cases hfield : Field.ofName? e.1 with
    | none => simp [hfield] at hfaults
    | some f =>
      have hname : e :: named entries = named ((f, e.2) :: entries) := by
        rw [named, named, List.map_cons, name_of_ofName? hfield]
      refine ⟨?_, _, hname⟩
      cases hset : state.1.set f e.2 with
      | ok c => simpa [hfield, hset] using hfaults
      | error r => simp [hfield, hset] at hfaults

/-- A configuration can only be built from values that are under the names of options. -/
theorem exists_named_of_construct {o : List (String × Value)} (h : construct o = .ok c) :
    ∃ entries, o = named entries := by
  have hnone : (o.foldl take ({}, [])).2 = [] := by
    rw [construct] at h
    split at h
    · cases h
    · split at h
      · next heq => rw [heq]
      · cases h
  exact (exists_named_of_foldl_take hnone).2

theorem construct_of_assignAll (h : assignAll {} entries = .ok c) :
    construct (named entries) = .ok c := by
  rw [construct_named, foldl_take_of_assignAll h]

theorem construct_of_refusals (h : refusals entries ≠ []) :
    construct (named entries) = .error (refusals entries) := by
  have hfaults : ((named entries).foldl take ({}, [])).2 = refusals entries := foldl_take_snd {} []
  rw [construct_named]
  rw [← hfaults] at h ⊢
  split
  · next heq =>
    rw [heq] at h
    exact absurd rfl h
  · next heq => rw [heq]

theorem construct_eq_ok_iff :
    construct (named entries) = .ok c ↔ assignAll {} entries = .ok c := by
  constructor
  · intro h
    by_cases hr : refusals entries = []
    · obtain ⟨c', hc'⟩ := exists_assignAll_iff.mpr (refusals_eq_nil_iff.mp hr)
      rw [construct_of_assignAll hc'] at h
      cases h
      exact hc'
    · rw [construct_of_refusals hr] at h
      cases h
  · exact construct_of_assignAll

theorem construct_eq_error_iff {faults : List Fault} :
    construct (named entries) = .error faults ↔ faults = refusals entries ∧ faults ≠ [] := by
  by_cases hr : refusals entries = []
  · obtain ⟨c', hc'⟩ := exists_assignAll_iff.mpr (refusals_eq_nil_iff.mp hr)
    rw [construct_of_assignAll hc']
    simp_all
  · rw [construct_of_refusals hr]
    grind

end Config

/-! ### Drafts -/

namespace Draft

variable {target : String → Target} {d d' : Draft} {c c' : Config} {f : Field} {v : Value}
  {entries : List (Field × Value)}

/-- A draft has the options of a configuration, and none of its own parts has been replaced. -/
structure Holds (d : Draft) (c : Config) : Prop where
  options : ∀ f, d.values.lookup (.option f) = some (c.get f)
  checker : d.values.lookup .checker = none
  routes : d.values.lookup .routes = none
  additions : d.additions = .null
  record : d.hasRecord = true

theorem holds_ofConfig (c : Config) : (ofConfig c).Holds c where
  options f := by cases f <;> rfl
  checker := rfl
  routes := rfl
  additions := rfl
  record := rfl

theorem Holds.get (h : d.Holds c) (f : Field) : d.get f = .ok (c.get f) := by
  rw [Draft.get, h.options]

theorem lookup_put (values : List (Target × Value)) (t t' : Target) (v : Value) :
    (put values t v).lookup t' = if t' = t then some v else values.lookup t' := by
  rw [put, List.lookup_append]
  by_cases ht : t' = t
  · have hnone : (values.filter fun e => e.1 != t).lookup t = none := by
      rw [List.lookup_eq_none_iff]
      intro e he
      have hne : e.1 ≠ t := by simpa using (List.mem_filter.mp he).2
      exact bne_iff_ne.mpr hne.symm
    rw [if_pos ht, ht, hnone, List.lookup_cons_self, Option.none_or]
  · have hskip : (t' == t) = false := beq_eq_false_iff_ne.mpr ht
    rw [if_neg ht, List.lookup_cons, hskip, List.lookup_nil, Option.or_none]
    exact lookup_filter (· != t) (bne_iff_ne.mpr ht)

theorem holds_store (hd : d.Holds c) (hset : c.set f v = .ok c') :
    (d.store target f (c'.get f)).Holds c' := by
  have hvalues : (d.store target f (c'.get f)).values = put d.values (.option f) (c'.get f) := by
    rw [store, hd.additions]
    rfl
  obtain ⟨-, hkept⟩ := Config.set_eq_ok_iff.mp hset
  constructor
  · intro g
    rw [hvalues, lookup_put]
    by_cases hg : g = f
    · rw [hg, if_pos rfl]
    · rw [if_neg (by simpa using hg), hd.options, hkept g hg]
  · rw [hvalues, lookup_put, if_neg (by simp), hd.checker]
  · rw [hvalues, lookup_put, if_neg (by simp), hd.routes]
  · rfl
  · exact hd.record

theorem assign_name (htarget : ∀ f, target f.name = .option f) (hd : d.Holds c) (f : Field)
    (v : Value) :
    d.assign target f.name v =
      match f.accept v with
      | .error r => .error (.refused ⟨f.name, r⟩)
      | .ok w => .ok (d.store target f w) := by
  have hblocked : d.blocked? target (.option f) = none := by rw [blocked?, hd.routes]
  have hchecked : d.assignChecked target f.name v =
      match f.accept v with
      | .error r => .error (.refused ⟨f.name, r⟩)
      | .ok w => .ok (d.store target f w) := by
    rw [assignChecked, hd.checker, hd.additions, Config.ofName?_name, hd.record]
    rfl
  simp only [assign, htarget, hblocked, hchecked]

theorem assign_of_ok (htarget : ∀ f, target f.name = .option f) (hd : d.Holds c)
    (hset : c.set f v = .ok c') : ∃ d', d.assign target f.name v = .ok d' ∧ d'.Holds c' := by
  refine ⟨d.store target f (c'.get f), ?_, holds_store hd hset⟩
  rw [assign_name htarget hd, (Config.set_eq_ok_iff.mp hset).1]

theorem assign_of_error (htarget : ∀ f, target f.name = .option f) (hd : d.Holds c) {r : Refusal}
    (hset : c.set f v = .error r) : d.assign target f.name v = .error (.refused ⟨f.name, r⟩) := by
  rw [assign_name htarget hd, Config.set_eq_error_iff.mp hset]

/-- Assigns values to options by their names, one after the other, up to the first one that is
    refused. -/
def assignAll (target : String → Target) (d : Draft) (entries : List (Field × Value)) :
    Except DraftError Draft :=
  entries.foldlM (fun d e => d.assign target e.1.name e.2) d

theorem assignAll_cons_eq_ok_iff {e : Field × Value} :
    d.assignAll target (e :: entries) = .ok d' ↔
      ∃ d₁, d.assign target e.1.name e.2 = .ok d₁ ∧ d₁.assignAll target entries = .ok d' := by
  rw [assignAll, List.foldlM_cons]
  exact bind_eq_ok_iff

theorem assignAll_of_ok (htarget : ∀ f, target f.name = .option f) (hd : d.Holds c)
    (h : c.assignAll entries = .ok c') :
    ∃ d', d.assignAll target entries = .ok d' ∧ d'.Holds c' := by
  induction entries generalizing d c with
  | nil =>
    cases h
    exact ⟨d, rfl, hd⟩
  | cons e entries ih =>
    obtain ⟨c₁, hc₁, hrest⟩ := Config.assignAll_cons_eq_ok_iff.mp h
    obtain ⟨d₁, hd₁, hholds⟩ := assign_of_ok htarget hd hc₁
    obtain ⟨d', hd', hholds'⟩ := ih hholds hrest
    exact ⟨d', assignAll_cons_eq_ok_iff.mpr ⟨d₁, hd₁, hd'⟩, hholds'⟩

theorem exists_of_assignAll (htarget : ∀ f, target f.name = .option f) (hd : d.Holds c)
    (h : d.assignAll target entries = .ok d') :
    ∃ c', c.assignAll entries = .ok c' ∧ d'.Holds c' := by
  induction entries generalizing d c with
  | nil =>
    cases h
    exact ⟨c, rfl, hd⟩
  | cons e entries ih =>
    obtain ⟨d₁, hd₁, hrest⟩ := assignAll_cons_eq_ok_iff.mp h
    cases hset : c.set e.1 e.2 with
    | error r =>
      rw [assign_of_error htarget hd hset] at hd₁
      cases hd₁
    | ok c₁ =>
      obtain ⟨d₂, hd₂, hholds⟩ := assign_of_ok htarget hd hset
      rw [hd₁] at hd₂
      cases hd₂
      obtain ⟨c', hc', hholds'⟩ := ih hholds hrest
      exact ⟨c', Config.assignAll_cons_eq_ok_iff.mpr ⟨c₁, hset, hc'⟩, hholds'⟩

end Draft

end FormulaQuery
