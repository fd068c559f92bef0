/-
  FormulaQuery/Proofs/Grammar.lean
  ================================
  **The grammar of constraint texts.**  The text of a constraint is empty or a
  sentence: one or more items with ` and ` between them.  An item is about a text
  or about an element child, and the conditions on a child stand in brackets
  behind it.  Names and texts stand there as literals, so it does not matter what
  characters they consist of.

  The grammar is indexed by the element that a sentence is about.  The indexes of
  the items of one level increase and are indexes of children of that element.
  `compileNested_in_grammar` says that a compilation writes a sentence, in any
  session, and when it writes nothing.  It also says, of the characters outside the
  literals and not through the grammar, that no ` and ` and no bracket stands there
  for nothing.
-/
import FormulaQuery.Proofs.ReadConstraint
import Mathlib.Data.List.Chain

namespace FormulaQuery

open Text (join quote apostrophe doubleApostrophes)

/-! ### Literals -/

/-- Every apostrophe stands there twice. -/
inductive Text.Doubled : List Char → Prop
  | nil : Doubled []
  | plain {c : Char} {cs : List Char} (hc : c ≠ apostrophe) (h : Doubled cs) : Doubled (c :: cs)
  | pair {cs : List Char} (h : Doubled cs) : Doubled (apostrophe :: apostrophe :: cs)

theorem Text.doubled_doubleApostrophes (cs : List Char) : Doubled (doubleApostrophes cs) := by
  induction cs with
  | nil => exact .nil
  | cons c cs ih =>
    rw [doubleApostrophes]
    by_cases h : c = apostrophe
    · rw [if_pos h]
      exact .pair ih
    · rw [if_neg h]
      exact .plain h ih

def Text.IsLiteral (s : String) : Prop :=
  ∃ body, Doubled body ∧ s.toList = apostrophe :: (body ++ [apostrophe])

theorem Text.isLiteral_quote (s : String) : IsLiteral (quote s) :=
  ⟨_, doubled_doubleApostrophes s.toList, by rw [quote, String.toList_ofList]⟩

/-! ### Items and levels -/

namespace Grammar

open Text (IsLiteral)

mutual

/-- One item about an element; one about a child goes with the index of the child. -/
inductive Item : Element → Option Nat → String → Prop
  | text {e : Element} {lit : String} (hlit : IsLiteral lit) : Item e none ("./text() = " ++ lit)
  | named {e : Element} {k : Nat} {lit : String} (hlit : IsLiteral lit) :
      Item e (some k) ("*[" ++ toString k ++ "]/name() = " ++ lit)
  | opened {e : Element} {k : Nat} {lit : String} (hlit : IsLiteral lit) :
      Item e (some k) ("*[" ++ toString k ++ "]/name() = " ++ lit ++ " and *[" ++ toString k ++ "]")
  | nested {e child : Element} {k : Nat} {lit : String} {items : List (Option Nat × String)}
      (hlit : IsLiteral lit) (hchild : e.child? k = some child) (hinner : Level child items) :
      Item e (some k) ("*[" ++ toString k ++ "]/name() = " ++ lit ++ " and *[" ++ toString k ++
        "][" ++ join " and " (items.map Prod.snd) ++ "]")

/-- The items of one level. -/
inductive Level : Element → List (Option Nat × String) → Prop
  | mk {e : Element} {items : List (Option Nat × String)} (hne : items ≠ [])
      (hitems : ∀ item ∈ items, Item e item.1 item.2)
      (hincreasing : (items.filterMap Prod.fst).Pairwise (· < ·))
      (hbounds : ∀ k ∈ items.filterMap Prod.fst, 1 ≤ k ∧ k ≤ e.childCount) : Level e items

end

def Sentence (e : Element) (text : String) : Prop :=
  ∃ items, Level e items ∧ text = join " and " (items.map Prod.snd)

/-! ### Outside the literals -/

/-- What stands outside the literals of a text, and the apostrophes that open them.  A
    doubled apostrophe counts as the end of a literal and the start of the next. -/
def outside : (inside : Bool) → List Char → List Char
  | _, [] => []
  | false, c :: cs => c :: outside (c == apostrophe) cs
  | true, c :: cs => outside (c != apostrophe) cs

/-- No ` and ` without something on both sides, and no brackets without something inside. -/
structure Tidy (cs : List Char) : Prop where
  leading : ¬ " and ".toList <+: cs
  trailing : ¬ " and ".toList <:+ cs
  doubled : ¬ " and  and ".toList <:+: cs
  opening : ¬ "[ and ".toList <:+: cs
  closing : ¬ " and ]".toList <:+: cs
  brackets : ¬ "[]".toList <:+: cs

theorem tidy_nil : Tidy [] := by
  constructor <;> decide

/-- A blank or an opening bracket has something behind it. -/
def Links (a b : Char) : Prop := a = ' ' ∨ a = '[' → b ≠ ' ' ∧ b ≠ ']'

instance : DecidableRel Links := fun a b =>
  inferInstanceAs (Decidable (a = ' ' ∨ a = '[' → b ≠ ' ' ∧ b ≠ ']'))

/-- Characters that link to whatever stands in front of them and behind them. -/
structure Solid (cs : List Char) : Prop where
  ne_nil : cs ≠ []
  head : ∀ c ∈ cs.head?, c ≠ ' ' ∧ c ≠ ']'
  last : ∀ c ∈ cs.getLast?, c ≠ ' ' ∧ c ≠ '['
  chain : cs.IsChain Links

namespace Solid

variable {cs ds : List Char}

theorem chain_append (hcs : Solid cs) (hds : ds.IsChain Links) : (cs ++ ds).IsChain Links := by
  refine List.isChain_append.mpr ⟨hcs.chain, hds, ?_⟩
  intro a ha b _ hblank
  obtain ⟨hne, hne'⟩ := hcs.last a ha
  exact absurd hblank (not_or.mpr ⟨hne, hne'⟩)

theorem append_chain (hcs : cs.IsChain Links) (hds : Solid ds) : (cs ++ ds).IsChain Links := by
  refine List.isChain_append.mpr ⟨hcs, hds.chain, ?_⟩
  intro a _ b hb _
  exact hds.head b hb

theorem head_append (hcs : Solid cs) (ds : List Char) :
    ∀ c ∈ (cs ++ ds).head?, c ≠ ' ' ∧ c ≠ ']' := by
  rw [List.head?_append_of_ne_nil _ hcs.ne_nil]
  exact hcs.head

theorem last_append (hds : Solid ds) (cs : List Char) :
    ∀ c ∈ (cs ++ ds).getLast?, c ≠ ' ' ∧ c ≠ '[' := by
  rw [List.getLast?_append_of_ne_nil _ hds.ne_nil]
  exact hds.last

theorem tidy (h : Solid cs) : Tidy cs := by
  have hinfix : ∀ part : List Char, ¬ part.IsChain Links → ¬ part <:+: cs := by
    intro part hpart hin
    apply hpart
    exact List.IsChain.infix h.chain hin
  refine ⟨?_, ?_, hinfix _ (by decide), hinfix _ (by decide), hinfix _ (by decide),
    hinfix _ (by decide)⟩
  · rintro ⟨rest, rfl⟩
    exact (h.head ' ' rfl).1 rfl
  · rintro ⟨front, rfl⟩
    exact (h.last ' ' (by simp)).1 rfl

end Solid

/-- The literals of a text are closed, and what stands outside them is solid. -/
def Closed (s : String) : Prop :=
  ∃ cs, Solid cs ∧ ∀ rest, outside false (s.toList ++ rest) = cs ++ outside false rest

theorem outside_plain {cs : List Char} (h : apostrophe ∉ cs) (rest : List Char) :
    outside false (cs ++ rest) = cs ++ outside false rest := by
  induction cs with
  | nil => rfl
  | cons c cs ih =>
    obtain ⟨hc, hcs⟩ := not_or.mp (mt List.mem_cons.mpr h)
    have hplain : (c == apostrophe) = false := beq_eq_false_iff_ne.mpr (Ne.symm hc)
    rw [List.cons_append, outside, hplain, ih hcs, List.cons_append]

theorem outside_doubled {body : List Char} (h : Text.Doubled body) :
    ∃ n, ∀ rest, outside true (body ++ apostrophe :: rest) =
      List.replicate n apostrophe ++ outside false rest := by
  induction h with
  | nil => exact ⟨0, fun rest => rfl⟩
  | plain hc _ ih =>
    obtain ⟨n, hn⟩ := ih
    refine ⟨n, fun rest => ?_⟩
    rw [List.cons_append, outside, bne_iff_ne.mpr hc, hn]
  | pair _ ih =>
    -- the first apostrophe ends the literal, and the second one opens it again
    obtain ⟨n, hn⟩ := ih
    refine ⟨n + 1, fun rest => ?_⟩
    have hreopened : ∀ cs, outside true (apostrophe :: apostrophe :: cs) =
        apostrophe :: outside true cs := fun _ => rfl
    rw [List.cons_append, List.cons_append, hreopened, hn, List.replicate_succ, List.cons_append]

theorem closed_literal {lit : String} (h : IsLiteral lit) : Closed lit := by
  obtain ⟨body, hbody, hlit⟩ := h
  obtain ⟨n, hn⟩ := outside_doubled hbody
  refine ⟨List.replicate (n + 1) apostrophe, ⟨List.cons_ne_nil _ _, ?_, ?_, ?_⟩, fun rest => ?_⟩
  · rintro c ⟨⟩
    decide
  · intro c hc
    obtain rfl := List.eq_of_mem_replicate (List.mem_of_getLast? hc)
    decide
  · exact List.isChain_replicate_of_rel _ (by decide)
  · have hopen : lit.toList ++ rest = apostrophe :: (body ++ apostrophe :: rest) := by simp [hlit]
    rw [hopen, outside, beq_self_eq_true, hn, List.replicate_succ, List.cons_append]

theorem closed_number (k : Nat) : Closed (toString k) := by
  have htext : (toString k).toList = Nat.toDigits 10 k := by simp
  have hdigit : ∀ c ∈ Nat.toDigits 10 k, c.isDigit = true := fun c hc =>
    Nat.isDigit_of_mem_toDigits (by decide) (by decide) hc
  have hplain : ∀ d : Char, d.isDigit = false → ∀ c ∈ Nat.toDigits 10 k, c ≠ d := by
    rintro d hd c hc rfl
    exact absurd (hdigit c hc) (by rw [hd]; decide)
  refine ⟨Nat.toDigits 10 k, ⟨Nat.toDigits_ne_nil, ?_, ?_, ?_⟩, fun rest => ?_⟩
  · intro c hc
    have hmem := List.mem_of_head? hc
    exact ⟨hplain ' ' rfl c hmem, hplain ']' rfl c hmem⟩
  · intro c hc
    have hmem := List.mem_of_getLast? hc
    exact ⟨hplain ' ' rfl c hmem, hplain '[' rfl c hmem⟩
  · refine (List.pairwise_of_forall_mem_list ?_).isChain
    intro a _ b hb _
    exact ⟨hplain ' ' rfl b hb, hplain ']' rfl b hb⟩
  · rw [htext]
    exact outside_plain (fun h => hplain apostrophe rfl _ h rfl) rest

namespace Closed

variable {s t : String}

theorem behind (ht : Closed t) {w : String} (hplain : apostrophe ∉ w.toList)
    (hchain : w.toList.IsChain Links) {c : Char} (hhead : w.toList.head? = some c)
    (hc : c ≠ ' ' ∧ c ≠ ']') : Closed (w ++ t) := by
  obtain ⟨cs, hcs, hout⟩ := ht
  have hw : w.toList ≠ [] := List.ne_nil_of_mem (List.mem_of_head? hhead)
  refine ⟨w.toList ++ cs, ⟨?_, ?_, hcs.last_append _, hcs.append_chain hchain⟩, fun rest => ?_⟩
  · exact List.append_ne_nil_of_left_ne_nil hw cs
  · rw [List.head?_append_of_ne_nil _ hw, hhead]
    rintro d ⟨⟩
    exact hc
  · rw [String.toList_append, List.append_assoc, outside_plain hplain, hout, List.append_assoc]

theorem between (hs : Closed s) (ht : Closed t) {w : String} (hplain : apostrophe ∉ w.toList)
    (hchain : w.toList.IsChain Links) : Closed (s ++ w ++ t) := by
  obtain ⟨cs, hcs, hs⟩ := hs
  obtain ⟨ds, hds, ht⟩ := ht
  refine ⟨cs ++ (w.toList ++ ds), ⟨?_, hcs.head_append _, ?_, ?_⟩, fun rest => ?_⟩
  · exact List.append_ne_nil_of_left_ne_nil hcs.ne_nil _
  · rw [← List.append_assoc]
    exact hds.last_append _
  · exact hcs.chain_append (hds.append_chain hchain)
  · simp only [String.toList_append, List.append_assoc]
    rw [hs, outside_plain hplain, ht]

theorem bracket (hs : Closed s) : Closed (s ++ "]") := by
  obtain ⟨cs, hcs, hout⟩ := hs
  refine ⟨cs ++ [']'], ⟨?_, hcs.head_append _, ?_, hcs.chain_append (by decide)⟩, fun rest => ?_⟩
  · exact List.append_ne_nil_of_left_ne_nil hcs.ne_nil _
  · intro c hc
    obtain rfl : ']' = c := by simpa using hc
    decide
  · rw [String.toList_append, List.append_assoc, hout, outside_plain (by decide),
      List.append_assoc]
    rfl

theorem tidy (h : Closed s) : Tidy (outside false s.toList) := by
  obtain ⟨cs, hcs, hout⟩ := h
  have hall := hout []
  rw [List.append_nil, outside, List.append_nil] at hall
  rw [hall]
  exact hcs.tidy

end Closed

theorem closed_join {texts : List String} (hne : texts ≠ []) (h : ∀ s ∈ texts, Closed s) :
    Closed (join " and " texts) := by
  induction texts with
  | nil => exact absurd rfl hne
  | cons s rest ih =>
    obtain ⟨hs, hrest⟩ := List.forall_mem_cons.mp h
    cases rest with
    | nil => exact hs
    | cons t rest => exact hs.between (ih (List.cons_ne_nil t rest) hrest) (by decide) (by decide)

theorem closed_name (k : Nat) {lit : String} (h : IsLiteral lit) :
    Closed ("*[" ++ toString k ++ "]/name() = " ++ lit) :=
  ((closed_number k).behind (by decide) (by decide) rfl (by decide)).between
    (closed_literal h) (by decide) (by decide)

mutual

theorem Item.closed {e : Element} {k : Option Nat} {s : String} : Item e k s → Closed s
  | .text hlit => (closed_literal hlit).behind (by decide) (by decide) rfl (by decide)
  | .named hlit => closed_name _ hlit
  | .opened hlit =>
    ((closed_name _ hlit).between (closed_number _) (by decide) (by decide)).bracket
  | .nested hlit _ hinner =>
    (((closed_name _ hlit).between (closed_number _) (by decide) (by decide)).between
      hinner.closed (by decide) (by decide)).bracket

theorem Level.closed {e : Element} {items : List (Option Nat × String)} :
    Level e items → Closed (join " and " (items.map Prod.snd))
  | .mk hne hitems _ _ => by
    refine closed_join (mt List.map_eq_nil_iff.mp hne) ?_
    intro s hs
    obtain ⟨item, hitem, rfl⟩ := List.mem_map.mp hs
    exact (hitems item hitem).closed

end

theorem Sentence.tidy {e : Element} {text : String} (h : Sentence e text) :
    Tidy (outside false text.toList) := by
  obtain ⟨items, hitems, rfl⟩ := h
  exact hitems.closed.tidy

/-! ### Items behind some of the children -/

/-- Items about what stands in an element behind `before` of its element children. -/
structure Tail (before : Nat) (e : Element) (items : List (Option Nat × String)) : Prop where
  forms : ∀ item ∈ items, Item e item.1 item.2
  increasing : (items.filterMap Prod.fst).Pairwise (· < ·)
  bounds : ∀ k ∈ items.filterMap Prod.fst, before < k ∧ k ≤ e.childCount

namespace Tail

variable {before : Nat} {e : Element} {items : List (Option Nat × String)} {s : String}

theorem empty (before : Nat) (e : Element) : Tail before e [] := by
  refine ⟨?_, List.Pairwise.nil, ?_⟩
  · intro item hitem
    cases hitem
  · intro k hk
    cases hk

theorem skip (h : Tail (before + 1) e items) : Tail before e items := by
  refine ⟨h.forms, h.increasing, ?_⟩
  intro k hk
  obtain ⟨hlt, hle⟩ := h.bounds k hk
  exact ⟨Nat.lt_of_succ_lt hlt, hle⟩

theorem text (h : Tail before e items) (hs : Item e none s) : Tail before e ((none, s) :: items) :=
  ⟨List.forall_mem_cons.mpr ⟨hs, h.forms⟩, h.increasing, h.bounds⟩

theorem child (h : Tail (before + 1) e items) (hs : Item e (some (before + 1)) s)
    (hle : before + 1 ≤ e.childCount) : Tail before e ((some (before + 1), s) :: items) := by
  have hindexes : ((some (before + 1), s) :: items).filterMap Prod.fst =
      (before + 1) :: items.filterMap Prod.fst := rfl
  refine ⟨List.forall_mem_cons.mpr ⟨hs, h.forms⟩, ?_, ?_⟩
  · rw [hindexes, List.pairwise_cons]
    refine ⟨?_, h.increasing⟩
    intro k hk
    exact (h.bounds k hk).1
  · rw [hindexes, List.forall_mem_cons]
    exact ⟨⟨Nat.lt_succ_self before, hle⟩, h.skip.bounds⟩

theorem level (h : Tail 0 e items) (hne : items ≠ []) : Level e items :=
  ⟨hne, h.forms, h.increasing, h.bounds⟩

end Tail

end Grammar

/-! ### The items of a constraint -/

namespace Constraint

open Grammar

/-- The written conditions, each with the index of the child it is about. -/
def items : Constraint → List (Option Nat × String)
  | nil => []
  | text value rest => (none, textIs value) :: rest.items
  | named index name rest => (some index, nameIs index name) :: rest.items
  | nested index name inner rest =>
    (some index, nameIs index name ++ " and *[" ++ toString index ++ "]" ++
      bracket inner.render) :: rest.items

theorem render_eq_join (c : Constraint) : c.render = join " and " (c.items.map Prod.snd) := by
  have hitems : c.items.map Prod.snd = c.conditions := by
    induction c with
    | nil => rfl
    | text value rest ih => rw [items, List.map_cons, ih, conditions]
    | named index name rest ih => rw [items, List.map_cons, ih, conditions]
    | nested index name inner rest _ ih =>
      rw [items, List.map_cons, ih, conditions]
      rfl
  rw [hitems]
  rfl

theorem items_ne_nil {c : Constraint} (h : c ≠ nil) : c.items ≠ [] := by
  cases c with
  | nil => exact absurd rfl h
  | text value rest => exact List.cons_ne_nil _ _
  | named index name rest => exact List.cons_ne_nil _ _
  | nested index name inner rest => exact List.cons_ne_nil _ _

/-- A child with the conditions on what is inside. -/
theorem item_nested {e child : Element} {index : Nat} (hchild : e.child? index = some child)
    (name : String) {inner : Constraint} (hinner : Tail 0 child inner.items) :
    Item e (some index)
      (nameIs index name ++ " and *[" ++ toString index ++ "]" ++ bracket inner.render) := by
  have hlit := Text.isLiteral_quote name
  by_cases h : inner = nil
  · subst h
    have hempty : bracket nil.render = "" := rfl
    rw [hempty, String.append_empty]
    exact .opened hlit
  · have hbrackets : ∀ s t : String, s ++ "]" ++ ("[" ++ t ++ "]") = s ++ "][" ++ t ++ "]" := by
      intro s t
      apply String.toList_injective
      simp [String.toList_append]
    rw [bracket_render_of_ne_nil h, render_eq_join, hbrackets]
    exact .nested hlit hchild (hinner.level (items_ne_nil h))

end Constraint

namespace Content

open Grammar

/-- `c` is what is left of the content of `e` behind `before` element children. -/
theorem tail_constraint (c : Content) {e : Element} {before : Nat}
    (hrest : e.children.drop before = c.children) :
    Tail before e (c.constraint before).items := by
  induction c generalizing e before with
  | nil => exact Tail.empty before e
  | text value rest ih => exact (ih hrest).text (.text (Text.isLiteral_quote _))
  | element tag inner rest ihi ihr =>
    rw [children_element] at hrest
    have hchild : e.child? (before + 1) = some ⟨tag, inner⟩ := by
      rw [Element.child?_succ, ← List.head?_drop, hrest, List.head?_cons]
    have hle : before + 1 ≤ e.childCount :=
      (Element.exists_child?_iff.mp ⟨_, hchild⟩).2
    have hbehind : e.children.drop (before + 1) = rest.children := by
      rw [← List.tail_drop, hrest, List.tail_cons]
    have htail := ihr hbehind
    rw [constraint]
    cases hw : tag.isWildcard with
    | true => exact htail.skip
    | false =>
      cases ha : tag.isAnnotation with
      | true => exact htail.skip
      | false =>
        cases he : inner.isEmpty with
        | true => exact htail.child (.named (Text.isLiteral_quote _)) hle
        | false =>
          exact htail.child (Constraint.item_nested hchild tag.localName (ihi rfl)) hle

theorem constraint_eq_nil_iff (c : Content) (before : Nat) :
    c.constraint before = .nil ↔ c.ownTexts = [] ∧
      ∀ child ∈ c.children, child.tag.isWildcard = true ∨ child.tag.isAnnotation = true := by
  induction c generalizing before with
  | nil => simp [constraint]
  | text value rest ih => simp [constraint]
  | element tag inner rest _ ih =>
    rw [constraint, children_element, List.forall_mem_cons, ownTexts_element]
    cases hw : tag.isWildcard with
    | true => simpa using ih (before + 1)
    | false =>
      cases ha : tag.isAnnotation with
      | true => simpa using ih (before + 1)
      | false => cases inner.isEmpty <;> simp

end Content

/-! ### The text of a compilation -/

theorem Session.compileNested_text {e : Element} {s s' : Session} {text : String}
    (h : (compileNested e).run s = .ok text s') : text = (e.content.constraint 0).render := by
  simp only [compileNested, EStateM.run_bind] at h
  cases hnamed : unnamed? (e.content.sightings 0) with
  | some p =>
    obtain ⟨s'', hs''⟩ := constrain_error _ _ s hnamed
    rw [hs''] at h
    cases h
  | none =>
    rw [constrain_ok _ _ _ hnamed] at h
    cases h
    rfl

open Grammar

/-- **A compilation writes a sentence**, or nothing if there is nothing to compare. -/
theorem compileNested_in_grammar {e : Element} {s s' : Session} {text : String}
    (h : (Session.compileNested e).run s = .ok text s') :
    (text = "" ∨ Sentence e text) ∧
      (text = "" ↔ e.ownTexts = [] ∧
        ∀ child ∈ e.children, child.tag.isWildcard = true ∨ child.tag.isAnnotation = true) ∧
      Tidy (outside false text.toList) := by
  obtain rfl := Session.compileNested_text h
  have hnil := e.content.constraint_eq_nil_iff 0
  by_cases hc : e.content.constraint 0 = .nil
  · have hempty : (e.content.constraint 0).render = "" := by rw [hc, Constraint.render_nil]
    rw [hempty]
    exact ⟨Or.inl rfl, iff_of_true rfl (hnil.mp hc), tidy_nil⟩
  · have hsentence : Sentence e (e.content.constraint 0).render :=
      ⟨_, (e.content.tail_constraint rfl).level (Constraint.items_ne_nil hc),
        Constraint.render_eq_join _⟩
    exact ⟨Or.inr hsentence,
      iff_of_false (Constraint.render_ne_empty hc) (fun hskipped => hc (hnil.mpr hskipped)),
      hsentence.tidy⟩

/-- Texts with the characters of the grammar, and children of all kinds. -/
def tricky : Element where
  tag := { localName := "apply" }
  content :=
    .text " it's ] and [ " <|
    .element { localName := "qvar", qualifier := some "mws" } (.text "x" .nil) <|
    .element { localName := "plus" } .nil <|
    .element { localName := "apply" } (.element { localName := "annotation" } .nil .nil) <|
    .element { localName := "annotation-xml" } (.text "x" .nil) <|
    .element { localName := "ci" } (.text " and " <| .element { localName := "sep" } .nil .nil) .nil

def trickyText : String :=
  "./text() = 'it''s ] and [' and *[2]/name() = 'plus' and *[3]/name() = 'apply' and *[3]" ++
    " and *[5]/name() = 'ci' and *[5][./text() = 'and' and *[1]/name() = 'sep']"

/-- A session that stopped on an earlier formula. -/
def stoppedSession : Session where
  restrictLength := true
  path := [4, 2]
  occurrences := [⟨"x", [1]⟩]
  lengths := [⟨[3], 1⟩]

theorem tricky_in_grammar :
    ∃ s', (Session.compileNested tricky).run stoppedSession = .ok trickyText s' ∧
      Sentence tricky trickyText ∧
      ¬ (tricky.ownTexts = [] ∧ ∀ child ∈ tricky.children,
        child.tag.isWildcard = true ∨ child.tag.isAnnotation = true) ∧
      Tidy (outside false trickyText.toList) := by
  have htext : (tricky.content.constraint 0).render = trickyText := by decide +kernel
  have h : (Session.compileNested tricky).run stoppedSession =
      .ok (tricky.content.constraint 0).render
        (stoppedSession.recordAll (tricky.content.records 0)) := by rfl
  rw [htext] at h
  have hne : trickyText ≠ "" := by decide
  obtain ⟨hsentence, hempty, htidy⟩ := compileNested_in_grammar h
  exact ⟨_, h, hsentence.resolve_left hne, fun hskipped => hne (hempty.mpr hskipped), htidy⟩

end FormulaQuery
