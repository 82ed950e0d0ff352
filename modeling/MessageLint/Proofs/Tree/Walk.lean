import Mathlib.Data.List.Nodup
import Mathlib.Data.List.Perm.Subperm
import MessageLint.Proofs.Tree.Links
import MessageLint.Tree.Walk

/-!
# MessageLint — the pass is the recursive walk

The pass over a tree works through a list of tasks. Here it is compared with a walk that is plain
recursion: enter a node, walk its children in order, leave the node.

* `walkTasks?_walk` — with a walk at hand, the pass makes its events, one for each step, and then
  goes on with the tasks that were waiting behind.
* `walkTasks?_eq_none` — a pass that has to enter a node that is its own child never ends.
* `exists_walk` — every node that is not its own parent has a walk.
* `Walk.mem_iff`, `Walk.nodup`, `Walk.exit_after` — what a walk meets, how often, and in which order.
* `passEnds_iff`, `walk?_of_walk` — the pass from the root ends unless the root is its own parent,
  and it then makes the events of the walk within the steps that it allows itself.
-/

namespace MessageLint

namespace Tree

/-- The events of walking a list of nodes one after the other: a node is entered, its children are
walked in their order, and it is left. A derivation is finite, so there is none for a node that
lies below itself. -/
inductive Walk (t : Tree) : List NodeId → List Event → Prop where
  | nil : Walk t [] []
  | cons {id : NodeId} {rest : List NodeId} {inner after : List Event} (hId : id < t.size)
      (hInner : Walk t (t.children id) inner) (hAfter : Walk t rest after) :
      Walk t (id :: rest) (⟨.enter, id⟩ :: (inner ++ ⟨.exit, id⟩ :: after))

/-- Some number of steps suffices for the pass from the root. -/
def PassEnds (t : Tree) : Prop :=
  ∃ steps, (t.walkTasks? steps (t.root?.toList.map (Event.mk .enter))).isSome

variable {t : Tree} {id a b n x : NodeId} {ns ms : List NodeId} {events more : List Event}

theorem root?_of_size_pos (h : 0 < t.size) : t.root? = some 0 := by
  simp [root?, Nat.ne_of_gt h]

theorem root?_of_size_zero (h : t.size = 0) : t.root? = none := by
  simp [root?, h]

/-! ## The pass follows a walk -/

/-- One step of the pass: entering a node. -/
theorem walkTasks?_enter (hId : id < t.size) (fuel : Nat) (tasks : List Event) :
    t.walkTasks? (fuel + 1) (⟨.enter, id⟩ :: tasks) =
      (t.walkTasks? fuel ((t.children id).map (Event.mk .enter) ++ ⟨.exit, id⟩ :: tasks)).map
        (⟨.enter, id⟩ :: ·) := by
  obtain ⟨node, hNode⟩ := Option.isSome_iff_exists.mp (isSome_get?_iff.mpr hId)
  simp only [walkTasks?, hNode, children_of_get? hNode]

/-- One step of the pass: leaving a node. -/
theorem walkTasks?_exit (hId : id < t.size) (fuel : Nat) (tasks : List Event) :
    t.walkTasks? (fuel + 1) (⟨.exit, id⟩ :: tasks) =
      (t.walkTasks? fuel tasks).map (⟨.exit, id⟩ :: ·) := by
  obtain ⟨node, hNode⟩ := Option.isSome_iff_exists.mp (isSome_get?_iff.mpr hId)
  simp only [walkTasks?, hNode]

/-- With a walk of the nodes that are to be entered next, the pass makes the events of the walk, one
for each step, and is then left with the tasks behind them. -/
theorem walkTasks?_walk (h : t.Walk ns events) (fuel : Nat) (tasks : List Event) :
    t.walkTasks? (fuel + events.length) (ns.map (Event.mk .enter) ++ tasks) =
      (t.walkTasks? fuel tasks).map (events ++ ·) := by
  induction h generalizing fuel tasks with
  | nil => simp
  | @cons id rest inner after hId _ _ ihInner ihAfter =>
    -- one step to enter, one to leave, and those of the two walks inside and behind
    have hFuel : fuel + (⟨.enter, id⟩ :: (inner ++ ⟨.exit, id⟩ :: after) : List Event).length =
        (fuel + after.length + 1 + inner.length) + 1 := by
      simp only [List.length_cons, List.length_append]
      omega
    rw [hFuel, List.map_cons, List.cons_append, walkTasks?_enter hId, ihInner,
      walkTasks?_exit hId, ihAfter]
    simp [Option.map_map, Function.comp_def]

/-- A pass that has to enter a node listed among its own children never comes to an end: the task is
replaced by one that is just the same. -/
theorem walkTasks?_eq_none (hSelf : id ∈ t.children id) :
    ∀ (fuel : Nat) (tasks : List Event), ⟨.enter, id⟩ ∈ tasks → t.walkTasks? fuel tasks = none
  | _, [], hMem => absurd hMem List.not_mem_nil
  | 0, _ :: _, _ => rfl
  | fuel + 1, ⟨phase, m⟩ :: rest, hMem => by
    have ih := walkTasks?_eq_none hSelf fuel
    rcases List.mem_cons.mp hMem with hHead | hRest
    · -- the node itself is entered, and comes up again among its children
      obtain ⟨rfl, rfl⟩ := Event.mk.inj hHead
      cases hNode : t.get? id with
      | none => simp [children, hNode] at hSelf
      | some node =>
        rw [children_of_get? hNode] at hSelf
        simp only [walkTasks?, hNode, Option.map_eq_none_iff]
        exact ih _ (List.mem_append_left _ (List.mem_map_of_mem hSelf))
    · -- whatever is done first, the task is still waiting afterwards
      cases hNode : t.get? m with
      | none =>
        simp only [walkTasks?, hNode]
        exact ih rest hRest
      | some node =>
        cases phase with
        | exit =>
          simp only [walkTasks?, hNode, Option.map_eq_none_iff]
          exact ih rest hRest
        | enter =>
          simp only [walkTasks?, hNode, Option.map_eq_none_iff]
          exact ih _ (List.mem_append_right _ (List.mem_cons_of_mem _ hRest))

/-! ## Walks exist and are unique -/

theorem Walk.append (hns : t.Walk ns events) (hms : t.Walk ms more) :
    t.Walk (ns ++ ms) (events ++ more) := by
  induction hns with
  | nil => exact hms
  | cons hId hInner _ _ ih => simpa using Walk.cons hId hInner ih

theorem Walk.unique (h : t.Walk ns events) (h' : t.Walk ns more) : events = more := by
  induction h generalizing more with
  | nil =>
    cases h'
    rfl
  | cons _ _ _ ihInner ihAfter =>
    cases h' with
    | cons _ hInner' hAfter' => rw [ihInner hInner', ihAfter hAfter']

/-- Walks of single nodes make up the walk of a list. -/
theorem exists_walk_of_forall (h : ∀ n ∈ ns, ∃ events, t.Walk [n] events) :
    ∃ events, t.Walk ns events := by
  induction ns with
  | nil => exact ⟨[], .nil⟩
  | cons n ns ih =>
    obtain ⟨first, hFirst⟩ := h n List.mem_cons_self
    obtain ⟨others, hOthers⟩ := ih fun m hm => h m (List.mem_cons_of_mem _ hm)
    exact ⟨first ++ others, hFirst.append hOthers⟩

/-- Every node that is not its own parent has a walk. Its children come later and are not their own
parents either, so the recursion runs towards the end of the tree. -/
theorem exists_walk (hl : t.Linked) {id : NodeId} (hId : id < t.size)
    (hSelf : t.parent? id ≠ some id) : ∃ events, t.Walk [id] events := by
  have hInner : ∃ inner, t.Walk (t.children id) inner := by
    apply exists_walk_of_forall
    intro c hc
    -- the measure: a child stands nearer to the end of the tree
    have hLt := hl.lt_of_mem hSelf hc
    have hSize := hl.lt_size_of_mem hc
    exact exists_walk hl hSize (hl.parent?_ne_self_of_mem hSelf hc)
  obtain ⟨inner, hInner⟩ := hInner
  exact ⟨_, .cons hId hInner .nil⟩
termination_by t.size - id
decreasing_by exact Nat.sub_lt_sub_left hId hLt

/-! ## What a walk meets -/

/-- A walk meets the nodes it starts from and all that lie below them, in both phases. -/
theorem Walk.mem_iff (h : t.Walk ns events) (phase : Phase) :
    ⟨phase, x⟩ ∈ events ↔ ∃ n ∈ ns, t.Descends n x := by
  induction h with
  | nil => simp
  | @cons id rest inner after _ _ _ ihInner ihAfter =>
    have hHead : t.Descends id x ↔ x = id ∨ ∃ c ∈ t.children id, t.Descends c x := descends_iff
    simp only [List.mem_cons, List.mem_append, ihInner, ihAfter, Event.mk.injEq, or_and_right,
      exists_or, exists_eq_left, hHead]
    cases phase with
    | enter => simp [or_assoc]
    | exit => simp [or_assoc, or_left_comm]

/-- Nodes of which none is above another, and none is its own parent. -/
structure Apart (t : Tree) (ns : List NodeId) : Prop where
  not_descends : ns.Pairwise fun a b => ¬ t.Descends a b ∧ ¬ t.Descends b a
  not_self : ∀ n ∈ ns, t.parent? n ≠ some n

theorem Apart.singleton (h : t.parent? n ≠ some n) : t.Apart [n] where
  not_descends := List.pairwise_singleton _ _
  not_self := by simpa using h

theorem Apart.tail (h : t.Apart (n :: ns)) : t.Apart ns where
  not_descends := (List.pairwise_cons.mp h.not_descends).2
  not_self := fun m hm => h.not_self m (List.mem_cons_of_mem _ hm)

theorem Apart.children (hl : t.Linked) (h : t.parent? n ≠ some n) : t.Apart (t.children n) where
  not_descends := by
    refine (hl.increasing n).imp_of_mem ?_
    intro a b ha hb hab
    have hne : a ≠ b := Nat.ne_of_lt hab
    exact ⟨not_descends_of_siblings hl h ha hb hne, not_descends_of_siblings hl h hb ha hne.symm⟩
  not_self := fun c hc => hl.parent?_ne_self_of_mem h hc

/-- What lies below the first of some nodes apart is not met in the walk of the others. -/
theorem Apart.not_met (hl : t.Linked) (h : t.Apart (n :: ns)) (hn : t.Descends n x)
    (hWalk : t.Walk ns events) (phase : Phase) : ⟨phase, x⟩ ∉ events := by
  rw [hWalk.mem_iff]
  rintro ⟨m, hm, hx⟩
  have hPair := (List.pairwise_cons.mp h.not_descends).1 m hm
  rcases descends_comparable hl hn hx with hDown | hDown
  · exact hPair.1 hDown
  · exact hPair.2 hDown

/-- The walk of a node's children does not meet the node. -/
theorem Apart.not_met_inside (hl : t.Linked) (h : t.Apart (n :: ns))
    (hWalk : t.Walk (t.children n) events) (phase : Phase) : ⟨phase, n⟩ ∉ events := by
  rw [hWalk.mem_iff]
  intro hBelow
  exact Nat.lt_irrefl n (below_lt hl (h.not_self n List.mem_cons_self) hBelow)

/-- No event of a walk comes twice. -/
theorem Walk.nodup (h : t.Walk ns events) (hl : t.Linked) (hApart : t.Apart ns) :
    events.Nodup := by
  induction h with
  | nil => exact List.nodup_nil
  | @cons id rest inner after _ hInner hAfter ihInner ihAfter =>
    have hInnerNodup := ihInner (.children hl (hApart.not_self id List.mem_cons_self))
    have hAfterNodup := ihAfter hApart.tail
    have hInside := hApart.not_met_inside hl hInner
    have hOutside := hApart.not_met hl (.refl t id) hAfter
    rw [List.nodup_cons, List.nodup_append]
    refine ⟨?_, hInnerNodup, ?_, ?_⟩
    · -- the node is entered first, and met neither inside nor behind
      simp [hInside, hOutside]
    · exact List.nodup_cons.mpr ⟨hOutside _, hAfterNodup⟩
    · -- what is met inside lies below the node, so it is not met behind
      rintro ⟨phase, x⟩ hx f hf rfl
      have hBelow : t.Below id x := (hInner.mem_iff phase).mp hx
      rcases List.mem_cons.mp hf with hEq | hf'
      · obtain ⟨rfl, rfl⟩ := Event.mk.inj hEq
        exact hInside _ hx
      · exact hApart.not_met hl hBelow.descends hAfter phase hf'

/-- Once a node has been left, nothing below it is met any more. -/
theorem Walk.exit_after (h : t.Walk ns events) (hl : t.Linked) (hApart : t.Apart ns) :
    events.Pairwise fun e f => e.phase = .exit → ¬ t.Below e.node f.node := by
  induction h with
  | nil => exact List.Pairwise.nil
  | @cons id rest inner after _ hInner hAfter ihInner ihAfter =>
    have hSelf := hApart.not_self id List.mem_cons_self
    have hInnerOk := ihInner (.children hl hSelf)
    have hAfterOk := ihAfter hApart.tail
    rw [List.pairwise_cons, List.pairwise_append, List.pairwise_cons]
    refine ⟨?_, hInnerOk, ⟨?_, hAfterOk⟩, ?_⟩
    · -- the first event enters
      intro _ _ hPhase
      cases hPhase
    · -- after the node itself has been left, nodes apart from it follow
      rintro ⟨phase, y⟩ hy - hBelow
      exact hApart.not_met hl hBelow.descends hAfter phase hy
    · -- a node left inside has below it neither the node itself nor anything behind
      rintro ⟨_, x⟩ hx ⟨phase, y⟩ hy - hBelow
      have hIdx : t.Below id x := (hInner.mem_iff _).mp hx
      have hLater : id < y := Nat.lt_of_lt_of_le (below_lt hl hSelf hIdx)
        (descends_le hl hBelow.descends)
      rcases List.mem_cons.mp hy with hEq | hy'
      · obtain ⟨-, rfl⟩ := Event.mk.inj hEq
        exact Nat.lt_irrefl y hLater
      · exact hApart.not_met hl (hIdx.descends.trans hBelow.descends) hAfter phase hy'

/-- A walk has at most two events for each node of the tree. -/
theorem Walk.length_le (h : t.Walk ns events) (hNodup : events.Nodup) :
    events.length ≤ 2 * t.size := by
  -- without repetitions, the events fit into the list of all events of the tree
  have hMet : events ⊆ (List.range t.size).flatMap fun id => [⟨.enter, id⟩, ⟨.exit, id⟩] := by
    clear hNodup
    induction h with
    | nil => simp
    | @cons id rest inner after hId _ _ ihInner ihAfter =>
      rintro ⟨phase, x⟩ hx
      simp only [List.mem_cons, List.mem_append, Event.mk.injEq] at hx
      rcases hx with ⟨rfl, rfl⟩ | hx | ⟨rfl, rfl⟩ | hx
      · simpa using hId
      · exact ihInner hx
      · simpa using hId
      · exact ihAfter hx
  have hLength := (List.subperm_of_subset hNodup hMet).length_le
  rw [List.length_flatMap] at hLength
  simpa [Nat.mul_comm] using hLength

/-- The walk does not depend on payloads. -/
theorem walk_setPayload (id : NodeId) (payload : Payload) :
    (t.setPayload id payload).Walk ns events ↔ t.Walk ns events := by
  constructor
  · intro h
    induction h with
    | nil => exact .nil
    | cons hId _ _ ihInner ihAfter =>
      rw [children_setPayload] at ihInner
      exact .cons (by simpa using hId) ihInner ihAfter
  · intro h
    induction h with
    | nil => exact .nil
    | cons hId _ _ ihInner ihAfter =>
      rw [← children_setPayload id payload] at ihInner
      exact .cons (by simpa using hId) ihInner ihAfter

/-! ## The pass from the root -/

theorem apart_root (h0 : t.parent? 0 ≠ some 0) : t.Apart t.root?.toList := by
  rcases Nat.eq_zero_or_pos t.size with hSize | hSize
  · rw [root?_of_size_zero hSize]
    exact ⟨List.Pairwise.nil, by simp⟩
  · rw [root?_of_size_pos hSize]
    exact .singleton h0

theorem exists_rootWalk (hl : t.Linked) (h0 : t.parent? 0 ≠ some 0) :
    ∃ events, t.Walk t.root?.toList events := by
  rcases Nat.eq_zero_or_pos t.size with hSize | hSize
  · rw [root?_of_size_zero hSize]
    exact ⟨[], .nil⟩
  · rw [root?_of_size_pos hSize]
    exact exists_walk hl hSize h0

theorem Walk.mem_root_iff (h : t.Walk t.root?.toList events) (phase : Phase) :
    ⟨phase, x⟩ ∈ events ↔ t.Reachable x := by
  rw [h.mem_iff]
  simp [Reachable]

/-- The steps that the pass allows itself are enough for the walk from the root. -/
theorem walk?_of_walk (hl : t.Linked) (h0 : t.parent? 0 ≠ some 0)
    (h : t.Walk t.root?.toList events) : t.walk? = some events := by
  -- a pass that ends meets each node twice, so the allowance is never used up
  have hLength := h.length_le (h.nodup hl (apart_root h0))
  have hPass : t.walkTasks? (2 * t.size + 1) (t.root?.toList.map (Event.mk .enter)) =
      some events := by
    have hRun := walkTasks?_walk h (2 * t.size + 1 - events.length) []
    rw [Nat.sub_add_cancel (by omega), List.append_nil] at hRun
    simpa [walkTasks?] using hRun
  unfold walk?
  cases hRoot : t.root? with
  | none => simpa [hRoot, walkTasks?] using hPass
  | some root => simpa [hRoot] using hPass

/-- A root that is its own parent is registered as its own child. -/
theorem root_mem_children (hl : t.Linked) (h0 : t.parent? 0 = some 0) : 0 ∈ t.children 0 :=
  hl.mem_children_iff.mpr ⟨h0, Nat.le_refl 0⟩

theorem walk?_eq_none (hl : t.Linked) (h0 : t.parent? 0 = some 0) : t.walk? = none := by
  rw [walk?, root?_of_size_pos (lt_size_of_parent? h0)]
  exact walkTasks?_eq_none (root_mem_children hl h0) _ _ List.mem_cons_self

theorem passEnds_iff (hl : t.Linked) : t.PassEnds ↔ t.parent? 0 ≠ some 0 := by
  constructor
  · rintro ⟨steps, hSteps⟩ h0
    have hNone := walkTasks?_eq_none (root_mem_children hl h0) steps [⟨.enter, 0⟩]
      List.mem_cons_self
    simp [root?_of_size_pos (lt_size_of_parent? h0), hNone] at hSteps
  · intro h0
    obtain ⟨events, hWalk⟩ := exists_rootWalk hl h0
    have hRun := walkTasks?_walk hWalk 0 []
    rw [List.append_nil] at hRun
    exact ⟨_, by rw [hRun]; rfl⟩

end Tree

end MessageLint
