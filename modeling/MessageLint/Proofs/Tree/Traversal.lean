import MessageLint.Proofs.Tree.Walk

/-!
# MessageLint — what visitors are called for

The pass looks up in its routes whom an event calls. Here the calls are stated outright: an event
calls every visitor that subscribes to its kind and phase, in the order of the visitors, and once
for each time the pair is listed.

* `dispatch_eq` — going through the routes makes these calls.
* `traverse?_recursive_walk` — the pass over a tree ends unless the root is its own parent, and it
  then makes the calls of the recursive walk.
* `traverse?_one` — a visitor with a single subscription is asked about the reachable nodes of its
  kind, in pre-order or in post-order.
-/

namespace MessageLint

/-! ## Whom an event calls -/

section Calls

variable {α : Type}

/-- The visitors to call for a kind and a phase: in their order, each as often as it lists the
pair. -/
def subscribers (visitors : List (Visitor α)) (kind : Kind) (phase : Phase) : List (Visitor α) :=
  visitors.flatMap fun v => List.replicate (v.subscriptions.count (kind, phase)) v

/-- The calls that events make, in order. -/
def Tree.callbacks (t : Tree) (visitors : List (Visitor α)) (events : List Event) :
    List (Visitor α × Event) :=
  events.flatMap fun e =>
    ((t.kind? e.node).elim [] fun kind => subscribers visitors kind e.phase).map (·, e)

/-- The entries that one visitor makes for a kind and a phase. -/
theorem filter_entries (subscriptions : List (Kind × Phase)) (index : Nat) (key : Kind × Phase) :
    ((subscriptions.map (·, index)).filter (·.1 == key)).map (·.2) =
      List.replicate (subscriptions.count key) index := by
  rw [List.filter_map, List.map_map, List.count_eq_length_filter, List.eq_replicate_iff]
  constructor
  · simp [Function.comp_def]
  · simp

/-- The routes hold, for a kind and a phase, the index of each visitor as often as it lists the
pair. -/
theorem called_ofVisitors (visitors : List (Visitor α)) (kind : Kind) (phase : Phase) :
    (Routes.ofVisitors visitors).called kind phase =
      visitors.zipIdx.flatMap fun (v, index) =>
        List.replicate (v.subscriptions.count (kind, phase)) index := by
  rw [Routes.called, Routes.ofVisitors, List.filter_flatMap, List.map_flatMap]
  simp only [filter_entries]

/-- Going through the routes of some visitors calls the subscribers. -/
theorem flatMap_called (visitors : List (Visitor α)) (kind : Kind) (phase : Phase)
    (respond : Visitor α → List α) :
    ((Routes.ofVisitors visitors).called kind phase).flatMap (fun index =>
        match visitors[index]? with
        | none => []
        | some visitor => respond visitor) =
      (subscribers visitors kind phase).flatMap respond := by
  rw [called_ofVisitors, List.flatMap_assoc, subscribers, List.flatMap_assoc]
  -- an index in the routes always leads back to the visitor that made the entry
  have hIndex : ∀ entry ∈ visitors.zipIdx, visitors[entry.2]? = some entry.1 := by
    rintro ⟨v, index⟩ hEntry
    exact List.mem_zipIdx_iff_getElem?.mp hEntry
  conv_rhs => rw [← List.zipIdx_map_fst 0 visitors, List.flatMap_map]
  refine List.flatMap_congr fun entry hEntry => ?_
  simp only [List.flatMap_replicate, hIndex entry hEntry]

/-- An event calls its subscribers. -/
theorem Tree.dispatch_eq (t : Tree) (visitors : List (Visitor α)) (e : Event) :
    t.dispatch visitors (.ofVisitors visitors) e =
      ((t.kind? e.node).elim [] fun kind => subscribers visitors kind e.phase).flatMap
        (·.respond e.phase e.node) := by
  unfold Tree.dispatch
  cases t.kind? e.node with
  | none => rfl
  | some kind => exact flatMap_called visitors kind e.phase (·.respond e.phase e.node)

/-- Without visitors an event yields nothing. -/
theorem Tree.dispatch_nil (t : Tree) (e : Event) :
    t.dispatch ([] : List (Visitor α)) (.ofVisitors ([] : List (Visitor α))) e = [] := by
  rw [t.dispatch_eq]
  cases t.kind? e.node <;> rfl

/-- Visitors side by side do not disturb each other. -/
theorem Tree.dispatch_append (t : Tree) (vs ws : List (Visitor α)) (e : Event) :
    t.dispatch (vs ++ ws) (.ofVisitors (vs ++ ws)) e =
      t.dispatch vs (.ofVisitors vs) e ++ t.dispatch ws (.ofVisitors ws) e := by
  rw [t.dispatch_eq, t.dispatch_eq, t.dispatch_eq]
  cases t.kind? e.node with
  | none => rfl
  | some kind => simp [subscribers]

theorem Tree.flatMap_dispatch (t : Tree) (visitors : List (Visitor α)) (events : List Event) :
    events.flatMap (t.dispatch visitors (.ofVisitors visitors)) =
      (t.callbacks visitors events).flatMap fun (v, e) => v.respond e.phase e.node := by
  rw [Tree.callbacks, List.flatMap_assoc]
  refine List.flatMap_congr fun e _ => ?_
  rw [t.dispatch_eq, List.flatMap_map]

end Calls

/-! ## The pass as a whole -/

namespace Tree

variable {t : Tree} {events : List Event} {id : NodeId}

/-- With a walk from the root, the pass yields what the calls of the walk yield. -/
theorem traverse?_of_walk (hl : t.Linked) (h0 : t.parent? 0 ≠ some 0)
    (h : t.Walk t.root?.toList events) {α : Type} (visitors : List (Visitor α)) :
    t.traverse? visitors =
      some ((t.callbacks visitors events).flatMap fun (v, e) => v.respond e.phase e.node) := by
  rw [traverse?, walk?_of_walk hl h0 h, Option.map_some, flatMap_dispatch]

/-- The nodes that events of one phase meet, in order: in pre-order those that are entered, in
post-order those that are left. -/
def met (phase : Phase) (events : List Event) : List NodeId :=
  (events.filter (·.phase = phase)).map (·.node)

theorem mem_met {phase : Phase} : id ∈ met phase events ↔ ⟨phase, id⟩ ∈ events := by
  simp only [met, List.mem_map, List.mem_filter, decide_eq_true_eq]
  constructor
  · rintro ⟨⟨_, _⟩, ⟨hMem, rfl⟩, rfl⟩
    exact hMem
  · intro hMem
    exact ⟨_, ⟨hMem, rfl⟩, rfl⟩

theorem nodup_met (h : events.Nodup) (phase : Phase) : (met phase events).Nodup := by
  refine List.Nodup.map_on ?_ (h.filter _)
  rintro ⟨p, x⟩ hx ⟨q, y⟩ hy hxy
  have hp := (List.mem_filter.mp hx).2
  have hq := (List.mem_filter.mp hy).2
  simp only [decide_eq_true_eq] at hp hq hxy
  rw [hp, hq, hxy]

/-- What a visitor that subscribes to one kind in one phase yields for an event. -/
theorem dispatch_one {α : Type} {v : Visitor α} {kind : Kind} {phase : Phase}
    (hv : v.subscriptions = [(kind, phase)]) (e : Event) :
    t.dispatch [v] (.ofVisitors [v]) e =
      if e.phase = phase ∧ t.kind? e.node = some kind then v.respond phase e.node else [] := by
  rw [t.dispatch_eq]
  cases hKind : t.kind? e.node with
  | none => simp
  | some k =>
    by_cases hKey : e.phase = phase ∧ k = kind
    · -- the one subscription is for this event
      obtain ⟨rfl, rfl⟩ := hKey
      simp [subscribers, hv]
    · have hCount : [(kind, phase)].count (k, e.phase) = 0 := by
        rw [List.count_eq_zero, List.mem_singleton, Prod.mk.injEq]
        exact fun h => hKey h.symm
      simp [subscribers, hv, hCount, hKey]

/-- Such a visitor is asked about the nodes of its kind, in the order of its phase. -/
theorem traverse?_one (hl : t.Linked) (h0 : t.parent? 0 ≠ some 0)
    (h : t.Walk t.root?.toList events) {α : Type} {v : Visitor α} (kind : Kind) (phase : Phase)
    (hv : v.subscriptions = [(kind, phase)]) :
    t.traverse? [v] =
      some (((met phase events).filter (t.kind? · = some kind)).flatMap (v.respond phase)) := by
  rw [traverse?, walk?_of_walk hl h0 h, Option.map_some, Option.some.injEq]
  clear h
  induction events with
  | nil => rfl
  | cons e events ih =>
    rw [List.flatMap_cons, ih, dispatch_one hv]
    by_cases hPhase : e.phase = phase
    · by_cases hKind : t.kind? e.node = some kind <;> simp [met, hPhase, hKind]
    · simp [met, hPhase]

/-- The pass over a tree ends exactly if the tree is empty or its root is not its own parent, and
the pass with visitors has an answer in just these cases. It then makes the calls of the one
recursive walk from the root. The walk meets each reachable node once in each phase, no other node,
and nothing below a node once that has been left. -/
theorem traverse?_recursive_walk (ht : t.Built) {α : Type} (visitors : List (Visitor α)) :
    (t.PassEnds ↔ t.size = 0 ∨ t.parent? 0 ≠ some 0) ∧
    ((t.traverse? visitors).isSome ↔ t.PassEnds) ∧
    (t.PassEnds → ∃ events,
      (∀ es, t.Walk t.root?.toList es ↔ es = events) ∧
      t.traverse? visitors =
        some ((t.callbacks visitors events).flatMap fun (v, e) => v.respond e.phase e.node) ∧
      (∀ id, t.Reachable id → ∀ phase, events.count ⟨phase, id⟩ = 1) ∧
      (∀ id, ¬ t.Reachable id → ∀ phase, events.count ⟨phase, id⟩ = 0) ∧
      events.Pairwise fun e f => e.phase = .exit → ¬ t.Below e.node f.node) := by
  have hl := ht.linked
  refine ⟨?_, ?_, ?_⟩
  · rw [passEnds_iff hl]
    constructor
    · exact Or.inr
    · rintro (hSize | h0)
      · -- an empty tree has no parent links
        intro h0
        have hPos := lt_size_of_parent? h0
        rw [hSize] at hPos
        exact Nat.not_lt_zero _ hPos
      · exact h0
  · rw [passEnds_iff hl]
    by_cases h0 : t.parent? 0 = some 0
    · simp [traverse?, walk?_eq_none hl h0, h0]
    · obtain ⟨events, hWalk⟩ := exists_rootWalk hl h0
      simp [traverse?_of_walk hl h0 hWalk, h0]
  · intro hEnds
    have h0 := (passEnds_iff hl).mp hEnds
    obtain ⟨events, hWalk⟩ := exists_rootWalk hl h0
    have hNodup := hWalk.nodup hl (apart_root h0)
    refine ⟨events, ?_, traverse?_of_walk hl h0 hWalk visitors, ?_, ?_,
      hWalk.exit_after hl (apart_root h0)⟩
    · intro es
      constructor
      · exact fun hOther => hOther.unique hWalk
      · rintro rfl
        exact hWalk
    · intro id hReach phase
      exact List.count_eq_one_of_mem hNodup ((hWalk.mem_root_iff phase).mpr hReach)
    · intro id hReach phase
      rw [List.count_eq_zero, hWalk.mem_root_iff]
      exact hReach

/-- A tree with one node below the root and three that hang nowhere: under a parent that does not
exist, under themselves, and under a later node. -/
def strayNodes : Tree :=
  ((((empty.push .program none ⟨1, 1⟩).push .member (some 0) ⟨1, 1⟩).push .member (some 9)
    ⟨1, 2⟩).push .member (some 3) ⟨1, 3⟩).push .member (some 5) ⟨1, 4⟩

theorem strayNodes_built : strayNodes.Built :=
  .push (.push (.push (.push (.push .empty _ _ _) _ _ _) _ _ _) _ _ _) _ _ _

/-- The pass over stray nodes ends, and the pass over a root that is its own parent does not. -/
theorem pass_over_stray_nodes :
    strayNodes.Built ∧ strayNodes.PassEnds ∧
      (strayNodes.traverse? [(⟨[(.member, .exit), (.member, .exit)], fun _ id => [id]⟩ :
        Visitor NodeId)]).isSome ∧
      ¬ (empty.push .program (some 0) ⟨1, 1⟩).PassEnds := by
  have hStray := traverse?_recursive_walk strayNodes_built
    [(⟨[(.member, .exit), (.member, .exit)], fun _ id => [id]⟩ : Visitor NodeId)]
  have hSelf := traverse?_recursive_walk (.push .empty .program (some 0) ⟨1, 1⟩)
    ([] : List (Visitor NodeId))
  have hEnds : strayNodes.PassEnds := hStray.1.mpr (Or.inr (by decide))
  refine ⟨strayNodes_built, hEnds, hStray.2.1.mpr hEnds, ?_⟩
  rw [hSelf.1]
  decide

end Tree

end MessageLint
