/-
  FormulaQuery/Proofs/Visits.lean
  ===============================
  **The way of a reader through a topic set.**  What a reader looks for is said by
  three location paths: `//t:topic`, `./t:query/t:formula` and `./t:num`.  Here
  they are evaluated on the nodes of a document: a step selects, from any nodes,
  all nodes of the document on its axis that have its name, in document order.

  `Tree.tour` puts the first two together to the sequence of formulas that a reader
  is to visit, each with its topic.  `formulas_visited_once` says that this is the
  sequence of visits, and that it meets every formula once, wherever in the
  document the reader starts.
-/
import FormulaQuery.Proofs.Places
import FormulaQuery.Proofs.StrictReading

namespace FormulaQuery

namespace Xml

/-! ### Location paths -/

/-- A node of a document, by the way that leads down to it: `[]` is the document itself, `[0]`
    its root element.  Texts and markers have no names and nothing below them, so a path that
    ends with a name neither selects them nor passes through them. -/
abbrev Node := List Nat

namespace Tree

def element? (d : Tree) : Node → Option Tree
  | [] => none
  | 0 :: p => d.at? p
  | (_ + 1) :: _ => none

def nodes (d : Tree) : List Node := [] :: d.places.map fun x => 0 :: x.1

def isPartAt (d : Tree) (name : String) (n : Node) : Bool :=
  (d.element? n).any (isTopicPart · name)

end Tree

inductive Axis where
  | self
  | child
  | descendantOrSelf
  deriving DecidableEq, Repr

def Axis.leads : Axis → Node → Node → Bool
  | self, n, m => m == n
  | child, n, m => m != [] && m.dropLast == n
  | descendantOrSelf, n, m => n.isPrefixOf m

/-- A step to elements of topic sets with a name, or to any nodes. -/
structure Step where
  axis : Axis
  name : Option String := none

def Step.admits (s : Step) (d : Tree) (n : Node) : Bool := s.name.all (d.isPartAt · n)

def Step.select (s : Step) (d : Tree) (ns : List Node) : List Node :=
  d.nodes.filter fun m => s.admits d m && ns.any (s.axis.leads · m)

structure LocationPath where
  isAbsolute : Bool := false
  steps : List Step

/-- The nodes that a path selects, in document order.  An absolute path starts at the document,
    any other one at the given node. -/
def LocationPath.select (path : LocationPath) (d : Tree) (start : Node) : List Node :=
  path.steps.foldl (fun ns s => s.select d ns) [if path.isAbsolute then [] else start]

/-- The path `//t:topic`. -/
def topicPath : LocationPath where
  isAbsolute := true
  steps := [{ axis := .descendantOrSelf }, { axis := .child, name := some "topic" }]

/-- The path `./t:query/t:formula`. -/
def formulaPath : LocationPath where
  steps := [{ axis := .self }, { axis := .child, name := some "query" },
    { axis := .child, name := some "formula" }]

/-- The path `./t:num`. -/
def numPath : LocationPath where
  steps := [{ axis := .self }, { axis := .child, name := some "num" }]

namespace Tree

/-- The text of the first of some nodes, as `string()` gives it. -/
def stringOf (d : Tree) (ns : List Node) : String :=
  ((ns.head?.bind d.element?).map fun t => t.content.stringValue).getD ""

/-- The number of a topic: the text of `./t:num` without white space around, if there is any. -/
def numAt (d : Tree) (topic : Node) : Option String :=
  let num := Text.strip (d.stringOf (numPath.select d topic))
  if num = "" then none else some num

/-- The topics and formulas that a reader is to visit that starts at a node. -/
def tour (d : Tree) (start : Node) : List (Node × Node) :=
  (topicPath.select d start).flatMap fun topic =>
    (formulaPath.select d topic).map fun formula => (topic, formula)

/-- The formula is one whose parent is a query whose parent is the topic. -/
def HasFormula (d : Tree) (topic formula : Node) : Prop :=
  ∃ i j, formula = topic ++ [i, j] ∧ d.isPartAt "topic" topic = true ∧
    d.isPartAt "query" (topic ++ [i]) = true ∧ d.isPartAt "formula" formula = true

end Tree

/-! ### What paths select -/

theorem Axis.child_leads_iff {n m : Node} : child.leads n m = true ↔ ∃ i, m = n ++ [i] := by
  unfold leads
  rw [Bool.and_eq_true, bne_iff_ne, beq_iff_eq]
  constructor
  · rintro ⟨hne, rfl⟩
    exact ⟨m.getLast hne, (List.dropLast_append_getLast hne).symm⟩
  · rintro ⟨i, rfl⟩
    simp

/-- What is below comes in the order of what it is below, unless that is nested. -/
theorem Node.append_lt_append {p q : Node} (hlt : p < q) (hapart : ¬ p <+: q) (x y : List Nat) :
    p ++ x < q ++ y := by
  induction p generalizing q with
  | nil => exact absurd (List.nil_prefix) hapart
  | cons i p ih =>
    cases q with
    | nil => exact absurd hlt (List.not_lt_nil _)
    | cons j q =>
      rw [List.cons_append, List.cons_append, List.cons_lt_cons_iff]
      rcases List.cons_lt_cons_iff.mp hlt with hij | ⟨rfl, hpq⟩
      · exact Or.inl hij
      · refine Or.inr ⟨rfl, ih hpq ?_⟩
        intro hprefix
        exact hapart ((List.prefix_cons_inj i).mpr hprefix)

namespace Tree

variable {d : Tree}

theorem at?_append (t : Tree) (p q : List Nat) :
    t.at? (p ++ q) = (t.at? p).bind fun s => s.at? q := by
  induction p generalizing t with
  | nil => rfl
  | cons i p ih =>
    rw [List.cons_append, at?, at?, Option.bind_assoc]
    congr 1
    funext child
    exact ih child

theorem element?_append {n : Node} {t : Tree} (h : d.element? n = some t) (q : List Nat) :
    d.element? (n ++ q) = t.at? q := by
  match n, h with
  | 0 :: p, h =>
    have hp : d.at? p = some t := h
    rw [List.cons_append, element?, at?_append, hp, Option.bind_some]

theorem mem_nodes {n : Node} : n ∈ d.nodes ↔ n = [] ∨ ∃ t, d.element? n = some t := by
  unfold nodes
  rw [List.mem_cons, List.mem_map]
  match n with
  | [] => simp
  | 0 :: p => simp [element?, ← mem_places]
  | (i + 1) :: p => simp [element?]

theorem nodes_sorted (d : Tree) : d.nodes.Pairwise (· < ·) := by
  unfold nodes
  rw [List.pairwise_cons, List.pairwise_map]
  refine ⟨?_, ?_⟩
  · intro n hn
    obtain ⟨x, -, rfl⟩ := List.mem_map.mp hn
    exact List.nil_lt_cons _ _
  · apply d.places_sorted.imp
    intro x y hlt
    exact List.cons_lt_cons_self.mpr hlt

theorem isPartAt_iff {name : String} {n : Node} :
    d.isPartAt name n = true ↔ ∃ t, d.element? n = some t ∧ t.isTopicPart name = true := by
  unfold isPartAt
  cases d.element? n <;> simp

theorem mem_nodes_of_isPartAt {name : String} {n : Node} (h : d.isPartAt name n = true) :
    n ∈ d.nodes := by
  obtain ⟨t, ht, -⟩ := isPartAt_iff.mp h
  exact mem_nodes.mpr (Or.inr ⟨t, ht⟩)

/-- The parent of a node is a node. -/
theorem mem_nodes_of_append {n : Node} {i : Nat} (h : n ++ [i] ∈ d.nodes) : n ∈ d.nodes := by
  rw [mem_nodes] at h ⊢
  rcases h with h | ⟨t, ht⟩
  · simp at h
  · match n, ht with
    | [], _ => exact Or.inl rfl
    | 0 :: p, ht =>
      have hp : d.at? (p ++ [i]) = some t := ht
      rw [at?_append, Option.bind_eq_some_iff] at hp
      obtain ⟨s, hs, -⟩ := hp
      exact Or.inr ⟨s, hs⟩

end Tree

variable {d : Tree}

theorem Step.select_sorted (s : Step) (d : Tree) (ns : List Node) :
    (s.select d ns).Pairwise (· < ·) :=
  d.nodes_sorted.filter _

theorem Step.mem_select {s : Step} {ns : List Node} {m : Node} :
    m ∈ s.select d ns ↔
      m ∈ d.nodes ∧ s.admits d m = true ∧ ∃ n ∈ ns, s.axis.leads n m = true := by
  unfold select
  rw [List.mem_filter, Bool.and_eq_true, List.any_eq_true]

/-- A step to the children with a name. -/
theorem Step.mem_select_child {name : String} {ns : List Node} {m : Node} :
    m ∈ ({ axis := .child, name := some name } : Step).select d ns ↔
      d.isPartAt name m = true ∧ ∃ n ∈ ns, ∃ i, m = n ++ [i] := by
  simp only [mem_select, Axis.child_leads_iff]
  constructor
  · rintro ⟨-, hname, hparent⟩
    exact ⟨hname, hparent⟩
  · rintro ⟨hname, hparent⟩
    exact ⟨Tree.mem_nodes_of_isPartAt hname, hname, hparent⟩

/-- From nodes that are not inside each other, the children come one family after the other. -/
theorem Step.select_child_flatMap {name : String} {ns : List Node}
    (h : ns.Pairwise fun n m => n < m ∧ ¬ n <+: m) :
    ({ axis := .child, name := some name } : Step).select d ns =
      ns.flatMap fun n => ({ axis := .child, name := some name } : Step).select d [n] := by
  apply (select_sorted _ _ _).eq_of_mem_iff
  · rw [List.pairwise_flatMap]
    refine ⟨fun n _ => select_sorted _ _ _, ?_⟩
    apply h.imp
    rintro n n' ⟨hlt, hapart⟩ m hm m' hm'
    simp only [mem_select_child, List.mem_singleton, exists_eq_left] at hm hm'
    obtain ⟨-, i, rfl⟩ := hm
    obtain ⟨-, i', rfl⟩ := hm'
    exact Node.append_lt_append hlt hapart _ _
  · intro m
    simp only [List.mem_flatMap, mem_select_child, List.mem_singleton, exists_eq_left]
    constructor
    · rintro ⟨hname, n, hn, i, rfl⟩
      exact ⟨n, hn, hname, i, rfl⟩
    · rintro ⟨n, hn, hname, i, rfl⟩
      exact ⟨hname, n, hn, i, rfl⟩

theorem Step.select_self {n : Node} (h : n ∈ d.nodes) :
    ({ axis := .self } : Step).select d [n] = [n] := by
  apply (select_sorted _ _ _).eq_of_mem_iff (List.pairwise_singleton _ n)
  intro m
  rw [mem_select]
  constructor
  · rintro ⟨-, -, n', hn', hleads⟩
    rw [List.mem_singleton] at hn'
    have hm : m = n' := beq_iff_eq.mp hleads
    rw [hm, hn', List.mem_singleton]
  · intro hm
    rw [List.mem_singleton] at hm
    rw [hm]
    exact ⟨h, rfl, n, List.mem_singleton_self n, beq_self_eq_true n⟩

theorem LocationPath.select_sorted (path : LocationPath) (d : Tree) (start : Node) :
    (path.select d start).Pairwise (· < ·) := by
  have hsteps : ∀ (steps : List Step) (ns : List Node), ns.Pairwise (· < ·) →
      (steps.foldl (fun ns s => s.select d ns) ns).Pairwise (· < ·) := by
    intro steps
    induction steps with
    | nil => exact fun _ h => h
    | cons s steps ih => exact fun ns _ => ih _ (s.select_sorted d ns)
  exact hsteps path.steps _ (List.pairwise_singleton _ _)

theorem topicPath_select (d : Tree) (start : Node) :
    topicPath.select d start = Step.select { axis := .child, name := some "topic" } d
      (Step.select { axis := .descendantOrSelf } d [[]]) := rfl

theorem formulaPath_select {topic : Node} (htopic : topic ∈ d.nodes) :
    formulaPath.select d topic = Step.select { axis := .child, name := some "formula" } d
      (Step.select { axis := .child, name := some "query" } d [topic]) := by
  rw [← Step.select_self htopic]
  rfl

theorem numPath_select {topic : Node} (htopic : topic ∈ d.nodes) :
    numPath.select d topic = Step.select { axis := .child, name := some "num" } d [topic] := by
  rw [← Step.select_self htopic]
  rfl

/-- All topics are selected, from wherever the path starts. -/
theorem mem_topicPath_select {start m : Node} :
    m ∈ topicPath.select d start ↔ d.isPartAt "topic" m = true := by
  rw [topicPath_select, Step.mem_select_child]
  constructor
  · rintro ⟨hname, -⟩
    exact hname
  · intro hname
    refine ⟨hname, ?_⟩
    -- a topic is not the document itself, so it has a parent
    have hne : m ≠ [] := by
      rintro rfl
      cases hname
    have hsplit : m.dropLast ++ [m.getLast hne] = m := List.dropLast_append_getLast hne
    have hparent : m.dropLast ∈ d.nodes := by
      apply Tree.mem_nodes_of_append (i := m.getLast hne)
      rw [hsplit]
      exact Tree.mem_nodes_of_isPartAt hname
    refine ⟨m.dropLast, ?_, m.getLast hne, hsplit.symm⟩
    exact Step.mem_select.mpr ⟨hparent, rfl, [], List.mem_singleton_self _, rfl⟩

theorem mem_formulaPath_select {topic m : Node} (htopic : topic ∈ d.nodes) :
    m ∈ formulaPath.select d topic ↔
      ∃ i j, m = topic ++ [i, j] ∧ d.isPartAt "query" (topic ++ [i]) = true ∧
        d.isPartAt "formula" m = true := by
  rw [formulaPath_select htopic, Step.mem_select_child]
  constructor
  · rintro ⟨hformula, query, hquery, j, rfl⟩
    obtain ⟨hname, n, hn, i, rfl⟩ := Step.mem_select_child.mp hquery
    obtain rfl : n = topic := List.mem_singleton.mp hn
    exact ⟨i, j, by simp, hname, hformula⟩
  · rintro ⟨i, j, rfl, hquery, hformula⟩
    refine ⟨hformula, topic ++ [i], ?_, j, by simp⟩
    exact Step.mem_select_child.mpr ⟨hquery, topic, List.mem_singleton_self _, i, rfl⟩

namespace Tree

/-! ### The tour -/

theorem mem_tour {start topic formula : Node} :
    (topic, formula) ∈ d.tour start ↔ d.HasFormula topic formula := by
  unfold tour
  simp only [List.mem_flatMap, List.mem_map, Prod.mk.injEq, mem_topicPath_select]
  constructor
  · rintro ⟨t, htopic, f, hformula, rfl, rfl⟩
    obtain ⟨i, j, hplace, hquery, hname⟩ :=
      (mem_formulaPath_select (mem_nodes_of_isPartAt htopic)).mp hformula
    exact ⟨i, j, hplace, htopic, hquery, hname⟩
  · rintro ⟨i, j, hplace, htopic, hquery, hname⟩
    refine ⟨topic, htopic, formula, ?_, rfl, rfl⟩
    exact (mem_formulaPath_select (mem_nodes_of_isPartAt htopic)).mpr ⟨i, j, hplace, hquery, hname⟩

/-- A formula belongs to one topic. -/
theorem HasFormula.topic_eq {topic topic' formula : Node} (h : d.HasFormula topic formula)
    (h' : d.HasFormula topic' formula) : topic = topic' := by
  obtain ⟨i, j, hplace, -⟩ := h
  obtain ⟨i', j', hplace', -⟩ := h'
  exact (List.append_inj' (hplace.symm.trans hplace') rfl).1

theorem map_snd_tour (d : Tree) (start : Node) :
    (d.tour start).map Prod.snd = (topicPath.select d start).flatMap (formulaPath.select d) := by
  unfold tour
  simp only [List.map_flatMap, List.map_map, Function.comp_def, List.map_id']

theorem hasFormula_of_mem {start topic formula : Node} (htopic : topic ∈ topicPath.select d start)
    (hformula : formula ∈ formulaPath.select d topic) : d.HasFormula topic formula :=
  mem_tour.mp (List.mem_flatMap.mpr ⟨topic, htopic, List.mem_map_of_mem hformula⟩)

theorem tour_formulas_nodup (d : Tree) (start : Node) : ((d.tour start).map Prod.snd).Nodup := by
  rw [map_snd_tour, List.nodup_flatMap]
  constructor
  · intro topic _
    apply (formulaPath.select_sorted d topic).imp
    rintro n m hlt rfl
    exact List.lt_irrefl _ hlt
  · apply (topicPath.select_sorted d start).imp_of_mem
    intro topic topic' htopic htopic' hlt formula hformula hformula'
    have heq := (hasFormula_of_mem htopic hformula).topic_eq (hasFormula_of_mem htopic' hformula')
    exact List.lt_irrefl _ (heq ▸ hlt)

/-- No topic is inside another one. -/
def TopicsApart (d : Tree) : Prop :=
  ∀ topic topic', d.isPartAt "topic" topic = true → d.isPartAt "topic" topic' = true →
    topic <+: topic' → topic = topic'

theorem tour_formulas_sorted (hapart : d.TopicsApart) (start : Node) :
    ((d.tour start).map Prod.snd).Pairwise (· < ·) := by
  rw [map_snd_tour, List.pairwise_flatMap]
  constructor
  · intro topic _
    exact formulaPath.select_sorted d topic
  · apply (topicPath.select_sorted d start).imp_of_mem
    intro topic topic' htopic htopic' hlt formula hformula formula' hformula'
    obtain ⟨i, j, rfl, hname, -⟩ := hasFormula_of_mem htopic hformula
    obtain ⟨i', j', rfl, hname', -⟩ := hasFormula_of_mem htopic' hformula'
    apply Node.append_lt_append hlt
    intro hprefix
    have heq := hapart topic topic' hname hname' hprefix
    exact List.lt_irrefl _ (heq ▸ hlt)

/-! ### The tour and the visits of a reader -/

/-- The children with a name, each with its index. -/
def parts (t : Tree) (name : String) : List (Tree × Nat) :=
  t.content.children.zipIdx.filter fun c => c.1.isTopicPart name

theorem map_fst_parts (t : Tree) (name : String) :
    (t.parts name).map Prod.fst = t.topicParts name := by
  unfold parts topicParts
  conv_rhs => rw [← List.zipIdx_map_fst 0 t.content.children]
  rw [List.filter_map]
  rfl

theorem mem_parts {t c : Tree} {name : String} {i : Nat} :
    (c, i) ∈ t.parts name ↔ t.at? [i] = some c ∧ c.isTopicPart name = true := by
  have hat : t.at? [i] = t.content.children[i]? := by
    rw [at?]
    cases t.content.children[i]? <;> rfl
  unfold parts
  rw [List.mem_filter, List.mem_zipIdx_iff_getElem?, hat]

theorem parts_sorted (t : Tree) (name : String) :
    (t.parts name).Pairwise fun c c' => c.2 < c'.2 := by
  apply List.Pairwise.filter
  rw [← List.pairwise_map, List.zipIdx_map_snd]
  exact List.pairwise_lt_range'

theorem append_lt_append_left {x y : List Nat} (n : Node) (hlt : x < y) : n ++ x < n ++ y := by
  induction n with
  | nil => exact hlt
  | cons i n ih => exact List.cons_lt_cons_self.mpr ih

variable {n : Node} {t : Tree}

theorem isPartAt_append_iff (h : d.element? n = some t) {name : String} {i : Nat} :
    d.isPartAt name (n ++ [i]) = true ↔ ∃ c, (c, i) ∈ t.parts name := by
  simp only [isPartAt_iff, element?_append h, mem_parts]

theorem select_child_eq (h : d.element? n = some t) (name : String) :
    Step.select { axis := .child, name := some name } d [n] =
      (t.parts name).map fun c => n ++ [c.2] := by
  apply (Step.select_sorted _ _ _).eq_of_mem_iff
  · rw [List.pairwise_map]
    apply (t.parts_sorted name).imp
    intro c c' hlt
    exact append_lt_append_left n (List.cons_lt_cons_iff.mpr (Or.inl hlt))
  · intro m
    rw [Step.mem_select_child, List.mem_map]
    constructor
    · rintro ⟨hname, n', hn', i, rfl⟩
      obtain rfl : n' = n := List.mem_singleton.mp hn'
      obtain ⟨c, hc⟩ := (isPartAt_append_iff h).mp hname
      exact ⟨(c, i), hc, rfl⟩
    · rintro ⟨⟨c, i⟩, hc, rfl⟩
      exact ⟨(isPartAt_append_iff h).mpr ⟨c, hc⟩, n, List.mem_singleton_self n, i, rfl⟩

theorem formulaPath_select_eq (h : d.element? n = some t) :
    formulaPath.select d n = (t.parts "query").flatMap fun q =>
      (q.1.parts "formula").map fun f => n ++ [q.2, f.2] := by
  have hapart : ((t.parts "query").map fun q => n ++ [q.2]).Pairwise fun m m' =>
      m < m' ∧ ¬ m <+: m' := by
    rw [List.pairwise_map]
    apply (t.parts_sorted "query").imp
    intro q q' hlt
    refine ⟨append_lt_append_left n (List.cons_lt_cons_iff.mpr (Or.inl hlt)), ?_⟩
    intro hprefix
    have heq : [q.2] = [q'.2] := ((List.prefix_append_right_inj n).mp hprefix).eq_of_length rfl
    have hidx : q.2 = q'.2 := List.head_eq_of_cons_eq heq
    omega
  rw [formulaPath_select (mem_nodes.mpr (Or.inr ⟨t, h⟩)), select_child_eq h,
    Step.select_child_flatMap hapart, List.flatMap_map]
  apply List.flatMap_congr
  rintro ⟨q, i⟩ hq
  have hquery : d.element? (n ++ [i]) = some q := by
    rw [element?_append h]
    exact (mem_parts.mp hq).1
  rw [select_child_eq hquery]
  simp

/-- The visit of a formula in a topic, if there is one. -/
def visitAt? (d : Tree) (stop : Node × Node) : Option Visit :=
  (d.element? stop.2).map fun f => ⟨d.numAt stop.1, f.toFormula⟩

theorem numAt_eq (h : d.element? n = some t) : d.numAt n = t.topicNum := by
  have hfirst : (numPath.select d n).head?.bind d.element? = (t.topicParts "num").head? := by
    rw [numPath_select (mem_nodes.mpr (Or.inr ⟨t, h⟩)), select_child_eq h, ← map_fst_parts,
      List.head?_map, List.head?_map]
    cases hhead : (t.parts "num").head? with
    | none => rfl
    | some c =>
      have hc := (mem_parts.mp (List.mem_of_head? hhead)).1
      rw [Option.map_some, Option.bind_some, element?_append h, hc, Option.map_some]
  unfold numAt stringOf topicNum
  rw [hfirst]
  cases t.topicParts "num" with
  | nil => decide
  | cons num _ => rfl

/-- At a topic, the tour makes the visits of the topic. -/
theorem map_visitAt?_formulas (h : d.element? n = some t) :
    (formulaPath.select d n).map (fun f => d.visitAt? (n, f)) = t.toTopic.visits.map some := by
  have hvisits : t.toTopic.visits.map some = (t.parts "query").flatMap fun q =>
      (q.1.parts "formula").map fun f => some (Visit.mk t.topicNum f.1.toFormula) := by
    simp only [Topic.visits, toTopic, formulaTrees, ← map_fst_parts, List.flatMap_map,
      List.map_flatMap, List.map_map, Function.comp_def]
  rw [formulaPath_select_eq h, List.map_flatMap, hvisits]
  apply List.flatMap_congr
  rintro ⟨q, i⟩ hq
  rw [List.map_map]
  apply List.map_congr_left
  rintro ⟨f, j⟩ hf
  have hformula : d.element? (n ++ [i, j]) = some f := by
    rw [element?_append h, show [i, j] = [i] ++ [j] from rfl, at?_append, (mem_parts.mp hq).1,
      Option.bind_some, (mem_parts.mp hf).1]
  simp only [Function.comp_apply, visitAt?, hformula, Option.map_some, numAt_eq h]

theorem topicPath_select_eq (d : Tree) (start : Node) :
    topicPath.select d start =
      (d.places.filter fun x => x.2.isTopicPart "topic").map fun x => 0 :: x.1 := by
  apply (topicPath.select_sorted d start).eq_of_mem_iff
  · rw [List.pairwise_map]
    apply (d.places_sorted.filter _).imp
    intro x y hlt
    exact List.cons_lt_cons_self.mpr hlt
  · intro m
    simp only [mem_topicPath_select, isPartAt_iff, List.mem_map, List.mem_filter, Prod.exists,
      mem_places]
    constructor
    · rintro ⟨t, ht, hname⟩
      match m, ht with
      | 0 :: p, ht => exact ⟨p, t, ⟨ht, hname⟩, rfl⟩
    · rintro ⟨p, t, ⟨ht, hname⟩, rfl⟩
      exact ⟨t, ht, hname⟩

theorem map_visitAt?_tour (d : Tree) (start : Node) :
    (d.tour start).map d.visitAt? = (d.topics.flatMap Topic.visits).map some := by
  have htopics : d.topics = (d.places.filter fun x => x.2.isTopicPart "topic").map fun x =>
      x.2.toTopic := by
    rw [topics, ← map_snd_places, List.filter_map, List.map_map]
    rfl
  unfold tour
  rw [topicPath_select_eq, htopics, List.flatMap_map, List.flatMap_map, List.map_flatMap,
    List.map_flatMap]
  apply List.flatMap_congr
  rintro ⟨p, t⟩ hx
  have ht : d.element? (0 :: p) = some t := mem_places.mp (List.mem_of_mem_filter hx)
  rw [← map_visitAt?_formulas ht, List.map_map]
  rfl

end Tree

end Xml

namespace TopicReader

/-- The node that a reader is handed over. -/
def start (r : TopicReader) : Xml.Node := 0 :: r.source.indexes

/-- The same document, handed over as another element. -/
def startingAt (r : TopicReader) (indexes : List Nat) : TopicReader :=
  { r with source := { r.source with indexes := indexes } }

theorem total_report (r : TopicReader) : r.report.total = r.visits.length := by
  rw [report_eq_record]
  exact Int.zero_add _

/-- **Every formula is visited once, wherever the reader starts.**  The visits are those of the
    tour that the location paths of the reader prescribe from the node that it is handed over:
    a report counts its formulas, and a strict reading that succeeds has their patterns in its
    order.  The tour meets the formulas of queries of topics, each with its own topic and each
    once; it is the same from every other node, and so is what the reader answers; and if no
    topic is inside another one, it goes in document order. -/
theorem formulas_visited_once (r : TopicReader) :
    r.visits.map some = (r.source.document.tour r.start).map r.source.document.visitAt? ∧
    (∀ rep, r.report? = .ok rep → rep.total = (r.source.document.tour r.start).length) ∧
    (∀ ps, r.patterns = .ok ps → ps = r.visits.filterMap (Visit.pattern? r.config)) ∧
    (∀ topic formula, (topic, formula) ∈ r.source.document.tour r.start ↔
      r.source.document.HasFormula topic formula) ∧
    ((r.source.document.tour r.start).map Prod.snd).Nodup ∧
    (∀ indexes, r.source.document.tour (r.startingAt indexes).start =
        r.source.document.tour r.start ∧
      (r.startingAt indexes).visits = r.visits ∧ (r.startingAt indexes).report? = r.report? ∧
      (r.startingAt indexes).patterns = r.patterns) ∧
    (r.source.document.TopicsApart →
      ((r.source.document.tour r.start).map Prod.snd).Pairwise (· < ·)) := by
  have hvisits : r.visits.map some =
      (r.source.document.tour r.start).map r.source.document.visitAt? := by
    rw [Xml.Tree.map_visitAt?_tour]
    rfl
  refine ⟨hvisits, ?_, ?_, fun _ _ => Xml.Tree.mem_tour, Xml.Tree.tour_formulas_nodup _ _,
    fun _ => ⟨rfl, rfl, rfl, rfl⟩, fun hapart => Xml.Tree.tour_formulas_sorted hapart _⟩
  · intro rep hrep
    obtain ⟨-, rfl⟩ := report?_ok_iff.mp hrep
    have hlength := congrArg List.length hvisits
    rw [List.length_map, List.length_map] at hlength
    rw [total_report, hlength]
  · intro ps hps
    obtain ⟨-, -, rfl⟩ := patterns_ok_iff.mp hps
    rw [report_eq_record]
    rfl

/-- Two topics with a formula each, the second one with two queries. -/
def twoTopics : TopicReader where
  source :=
    { document :=
        { tag := { localName := "topics", namespaceUri := some topicNamespace }
          content :=
            part "topic" (part "num" (.text "1" .nil)
              (part "query" (formulaPart (some "e") identifierMarkup .nil) .nil)) <|
            part "topic" (part "query" .nil
              (part "query" (formulaPart (some "f") identifierMarkup .nil) .nil)) .nil }
      indexes := [1, 0] }
  config := { header := some "", footer := some "$x" }

theorem twoTopics_in_document_order :
    twoTopics.source.document.TopicsApart ∧
    (twoTopics.source.document.tour twoTopics.start).map Prod.snd = [[0, 0, 1, 0], [0, 1, 1, 0]] ∧
    ((twoTopics.source.document.tour twoTopics.start).map Prod.snd).Pairwise (· < ·) := by
  have htopics : Xml.topicPath.select twoTopics.source.document [] = [[0, 0], [0, 1]] := by
    decide +kernel
  have hnodes : ∀ topic ∈ [[0, 0], [0, 1]], ∀ topic' ∈ [[0, 0], [0, 1]],
      topic <+: topic' → topic = topic' := by
    decide
  have hapart : twoTopics.source.document.TopicsApart := by
    intro topic topic' htopic htopic'
    rw [← @Xml.mem_topicPath_select _ [], htopics] at htopic htopic'
    exact hnodes topic htopic topic' htopic'
  exact ⟨hapart, by decide +kernel, (formulas_visited_once twoTopics).2.2.2.2.2.2 hapart⟩

/-- A topic inside of a formula is visited after the topic around it. -/
def nestedTopics : TopicReader :=
  oneTopic (formulaPart (some "e")
    (part "topic" (part "query" (formulaPart (some "g") identifierMarkup .nil) .nil) .nil)
    (formulaPart (some "f") identifierMarkup .nil))

example : (nestedTopics.source.document.tour nestedTopics.start).map Prod.snd =
    [[0, 0, 1, 0], [0, 0, 1, 1], [0, 0, 1, 0, 0, 0, 0]] := by
  decide +kernel

end TopicReader

end FormulaQuery
