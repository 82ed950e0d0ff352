import MessageLint.Proofs.Source.Pieces
import MessageLint.Proofs.Tree.Traversal

/-!
# MessageLint — the tree of a program shows its pieces

A visit with its stack of open nodes is compared with the list of pieces: `Adds` says what a visit of
any part of a program does to a tree in the making. Visits one after the other (`Adds.trans`), a
single node (`Adds.leaf`) and a node with something inside (`Adds.close`) keep it up, and so it holds
of every construct by induction over the outline (`visitExpr_adds` and its companions). In
particular the first node that is added while an expression is visited is its own node, which is
what links are found by (`Adds.capture_eq`).

* `Outline.build_adds` — the visit of a whole program adds all its pieces.
* `toTree_faithful` — nodes are numbered in pre-order, each shows its piece, and all links are right.
-/

namespace MessageLint

/-! ## Walks that other nodes do not matter to -/

namespace Tree

variable {t t' : Tree} {id q : NodeId} {ns : List NodeId} {events inner after : List Event}

theorem met_append (phase : Phase) (events more : List Event) :
    met phase (events ++ more) = met phase events ++ met phase more := by
  simp [met]

/-- In pre-order a node comes before what is inside it, and that before what follows. -/
theorem met_enter_node (id : NodeId) (inner after : List Event) :
    met .enter (⟨.enter, id⟩ :: (inner ++ ⟨.exit, id⟩ :: after)) =
      id :: (met .enter inner ++ met .enter after) := by
  simp [met]

theorem children_eq_of_get?_eq (h : t'.get? q = t.get? q) : t'.children q = t.children q := by
  rw [children, children, h]

theorem lt_size_of_get? {node : Node} (h : t.get? q = some node) : q < t.size :=
  isSome_get?_iff.mp (by rw [h]; rfl)

/-- A walk stays the walk in every tree in which the nodes it enters are the same. -/
theorem Walk.congr (h : t.Walk ns events)
    (hSame : ∀ q ∈ met .enter events, t'.get? q = t.get? q) : t'.Walk ns events := by
  induction h with
  | nil => exact .nil
  | @cons id rest inner after hId _ _ ihInner ihAfter =>
    rw [met_enter_node] at hSame
    have hHere := hSame id List.mem_cons_self
    have hId' : id < t'.size := by
      rw [← isSome_get?_iff, hHere]
      exact isSome_get?_iff.mpr hId
    have hInner' := ihInner fun q hq =>
      hSame q (List.mem_cons_of_mem _ (List.mem_append_left _ hq))
    have hAfter' := ihAfter fun q hq =>
      hSame q (List.mem_cons_of_mem _ (List.mem_append_right _ hq))
    rw [← children_eq_of_get?_eq hHere] at hInner'
    exact .cons hId' hInner' hAfter'

end Tree

namespace Source

namespace Builder

/-- The innermost open node exists. -/
def Ready (b : Builder) : Prop := ∀ p : Nat, b.opened.head? = some p → p < b.tree.size

variable {b : Builder}

theorem Ready.head_ne_size (h : b.Ready) : b.opened.head? ≠ some b.tree.size :=
  fun hOpen => Nat.lt_irrefl _ (h _ hOpen)

@[simp] theorem opened_openNode (payload : Payload) (position : Position) :
    (b.openNode payload position).2.opened = b.tree.size :: b.opened := rfl

@[simp] theorem size_openNode (payload : Payload) (position : Position) :
    (b.openNode payload position).2.tree.size = b.tree.size + 1 := by
  simp [openNode, Tree.add]

theorem ready_openNode (payload : Payload) (position : Position) :
    (b.openNode payload position).2.Ready := by
  intro p hp
  obtain rfl : b.tree.size = p := by simpa using hp
  simp

end Builder

/-- What a visit adds to a tree in the making: nodes that show some pieces, numbered in the order of
the pieces, with the topmost hanging below the innermost open node. `tops` are the topmost pieces
and `roots` their nodes. All nodes that were opened meanwhile have been closed again, and nothing
else has changed. -/
structure Adds (locate : Nat → Position) (b b' : Builder) (tops pieces : List Piece)
    (roots : List NodeId) : Prop where
  opened : b'.opened = b.opened
  size : b'.tree.size = b.tree.size + pieces.length
  /-- Nodes that were there keep all they had, and the innermost open one gets the roots as its last
  children. -/
  old : ∀ q < b.tree.size, b'.tree.get? q = (b.tree.get? q).map fun n =>
    if b.opened.head? = some q then { n with children := n.children ++ roots } else n
  /-- The roots hang below the innermost open node, and the other new nodes below earlier ones. -/
  outer : ∀ q, b.tree.size ≤ q → q < b'.tree.size →
    (q ∈ roots ∧ b'.tree.parent? q = b.opened.head?) ∨
      ∃ p : Nat, b'.tree.parent? q = some p ∧ b.tree.size ≤ p ∧ p < q
  built : b.tree.Built → b'.tree.Built
  /-- Walking the roots meets the new nodes in the order of their numbers. -/
  walk : ∃ events, b'.tree.Walk roots events ∧
    Tree.met .enter events = List.range' b.tree.size pieces.length
  tops : ∀ prior : List Piece, prior.length = b.tree.size → Numbers (prior ++ pieces) roots tops
  shown : ∀ prior : List Piece, prior.length = b.tree.size →
    ∀ k piece, pieces[k]? = some piece → ∃ node, b'.tree.get? (b.tree.size + k) = some node ∧
      piece.ShownBy locate (prior ++ pieces) node

namespace Adds

variable {locate : Nat → Position} {b b' b'' : Builder} {tops tops' pieces pieces' : List Piece}
  {roots roots' : List NodeId}

/-! ## Visits one after the other -/

theorem refl (locate : Nat → Position) (b : Builder) : Adds locate b b [] [] [] where
  opened := rfl
  size := rfl
  old := by
    intro q _
    cases b.tree.get? q <;> simp
  outer := by
    intro q hq hLt
    omega
  built := id
  walk := ⟨[], .nil, rfl⟩
  tops := fun _ _ => rfl
  shown := by
    intro _ _ k piece hk
    simp at hk

theorem ready (h : Adds locate b b' tops pieces roots) (hb : b.Ready) : b'.Ready := by
  intro p hp
  rw [h.opened] at hp
  have hLt := hb p hp
  have hSize := h.size
  omega

/-- Only the innermost open node is touched. -/
theorem get?_of_lt (h : Adds locate b b' tops pieces roots) {q : NodeId} (hq : q < b.tree.size)
    (hHead : b.opened.head? ≠ some q) : b'.tree.get? q = b.tree.get? q := by
  rw [h.old q hq]
  simp [hHead]

theorem trans (hb : b.Ready) (h : Adds locate b b' tops pieces roots)
    (h' : Adds locate b' b'' tops' pieces' roots') :
    Adds locate b b'' (tops ++ tops') (pieces ++ pieces') (roots ++ roots') := by
  have hSize := h.size
  have hSize' := h'.size
  -- what the first visit adds is closed when the second begins
  have hKept : ∀ q, b.tree.size ≤ q → q < b'.tree.size → b''.tree.get? q = b'.tree.get? q := by
    intro q hq hLt
    apply h'.get?_of_lt hLt
    rw [h.opened]
    intro hHead
    have hOpen := hb q hHead
    omega
  refine ⟨h'.opened.trans h.opened, ?_, ?_, ?_, fun ht => h'.built (h.built ht), ?_, ?_, ?_⟩
  · rw [hSize', hSize, List.length_append]
    omega
  · intro q hq
    rw [h'.old q (by omega), h.old q hq, h.opened, Option.map_map]
    congr 1
    funext n
    by_cases hHead : b.opened.head? = some q
    · simp [hHead]
    · simp [hHead]
  · intro q hq hLt
    rcases Nat.lt_or_ge q b'.tree.size with hFirst | hSecond
    · have hParent : b''.tree.parent? q = b'.tree.parent? q := by
        rw [Tree.parent?, Tree.parent?, hKept q hq hFirst]
      rw [hParent]
      rcases h.outer q hq hFirst with ⟨hRoot, hHead⟩ | hInside
      · exact Or.inl ⟨List.mem_append_left _ hRoot, hHead⟩
      · exact Or.inr hInside
    · rcases h'.outer q hSecond hLt with ⟨hRoot, hHead⟩ | ⟨p, hParent, hp, hpq⟩
      · exact Or.inl ⟨List.mem_append_right _ hRoot, hHead.trans (by rw [h.opened])⟩
      · exact Or.inr ⟨p, hParent, by omega, hpq⟩
  · obtain ⟨events, hWalk, hMet⟩ := h.walk
    obtain ⟨events', hWalk', hMet'⟩ := h'.walk
    have hSame : ∀ q ∈ Tree.met .enter events, b''.tree.get? q = b'.tree.get? q := by
      intro q hq
      rw [hMet, List.mem_range'_1] at hq
      exact hKept q hq.1 (by omega)
    refine ⟨events ++ events', (hWalk.congr hSame).append hWalk', ?_⟩
    rw [Tree.met_append, hMet, hMet', hSize, List.length_append, List.range'_append_1]
  · intro prior hPrior
    have hFirst := (h.tops prior hPrior).extend pieces'
    have hSecond := h'.tops (prior ++ pieces) (by rw [List.length_append, hPrior, hSize])
    rw [← List.append_assoc]
    exact hFirst.append hSecond
  · intro prior hPrior k piece hk
    rw [← List.append_assoc]
    rcases Nat.lt_or_ge k pieces.length with hFirst | hSecond
    · rw [List.getElem?_append_left hFirst] at hk
      obtain ⟨node, hNode, hShown⟩ := h.shown prior hPrior k piece hk
      refine ⟨node, ?_, hShown.extend pieces'⟩
      rw [hKept _ (by omega) (by omega), hNode]
    · rw [List.getElem?_append_right hSecond] at hk
      obtain ⟨node, hNode, hShown⟩ := h'.shown (prior ++ pieces)
        (by rw [List.length_append, hPrior, hSize]) (k - pieces.length) piece hk
      have hIndex : b.tree.size + k = b'.tree.size + (k - pieces.length) := by omega
      exact ⟨node, by rw [hIndex, hNode], hShown⟩

/-! ## Single nodes -/

theorem leaf (hb : b.Ready) (piece : Piece) {payload : Payload} (hInner : piece.inner = [])
    (hFits : piece.Fits (fun _ _ => False) payload) :
    Adds locate b (b.leaf payload (locate piece.place)) [piece] [piece] [b.tree.size] := by
  -- the new node hangs below another one, so it has no children
  have hNew : (b.leaf payload (locate piece.place)).tree.get? b.tree.size =
      some ⟨payload, b.opened.head?, [], locate piece.place⟩ := by
    simp [Builder.leaf, Tree.add, Tree.get?_push, hb.head_ne_size]
  refine ⟨rfl, by simp [Builder.leaf, Tree.add], ?_, ?_, fun ht => .push ht _ _ _, ?_, ?_, ?_⟩
  · intro q hq
    simp only [Builder.leaf, Tree.add, Tree.get?_push, Nat.ne_of_lt hq, if_false]
  · intro q hq hLt
    obtain rfl : q = b.tree.size := by
      simp [Builder.leaf, Tree.add] at hLt
      omega
    exact Or.inl ⟨List.mem_singleton_self _, Tree.parent?_of_get? hNew⟩
  · have hWalk : (b.leaf payload (locate piece.place)).tree.Walk
        ((b.leaf payload (locate piece.place)).tree.children b.tree.size) [] := by
      rw [Tree.children_of_get? hNew]
      exact .nil
    exact ⟨_, .cons (Tree.lt_size_of_get? hNew) hWalk .nil, rfl⟩
  · intro prior hPrior
    rw [← hPrior]
    exact .singleton prior piece []
  · intro prior _ k piece' hk
    obtain ⟨rfl, rfl⟩ : k = 0 ∧ piece = piece' := by
      cases k with
      | zero => simpa using hk
      | succ k => simp at hk
    refine ⟨_, hNew, rfl, ?_, hFits.mono fun _ _ hFalse => hFalse.elim⟩
    rw [hInner]
    exact .nil _

/-- A node that is opened, filled and closed. -/
theorem close (hb : b.Ready) (piece : Piece) {opening payload : Payload} {visited : Builder}
    (h : Adds locate (b.openNode opening (locate piece.place)).2 visited piece.inner pieces roots)
    (hFits : ∀ prior : List Piece, prior.length = b.tree.size + 1 →
      piece.Fits (fun ids ps => ids.Sublist roots ∧ Numbers (prior ++ pieces) ids ps) payload) :
    Adds locate b (visited.closeNode b.tree.size payload) [piece] (piece :: pieces)
      [b.tree.size] := by
  have hOpened := h.opened
  have hSize := h.size
  rw [Builder.opened_openNode] at hOpened
  rw [Builder.size_openNode] at hSize
  -- the visit inside has given the node its children, and closing it gives it its payload
  have hNode : (visited.closeNode b.tree.size payload).tree.get? b.tree.size =
      some ⟨payload, b.opened.head?, roots, locate piece.place⟩ := by
    simp only [Builder.closeNode, Tree.get?_setPayload, if_true]
    rw [h.old b.tree.size (by simp)]
    simp [Builder.openNode, Tree.add, Tree.get?_push, hb.head_ne_size]
  have hOther : ∀ q, q ≠ b.tree.size →
      (visited.closeNode b.tree.size payload).tree.get? q = visited.tree.get? q := by
    intro q hq
    simp only [Builder.closeNode, Tree.get?_setPayload, hq, if_false]
  refine ⟨?_, ?_, ?_, ?_, fun ht => .setPayload (h.built (.push ht _ _ _)) _ _, ?_, ?_, ?_⟩
  · rw [Builder.closeNode, hOpened, List.tail_cons]
  · simp only [Builder.closeNode, Tree.size_setPayload, hSize, List.length_cons]
    omega
  · intro q hq
    have hne : q ≠ b.tree.size := Nat.ne_of_lt hq
    have hLt : q < (b.openNode opening (locate piece.place)).2.tree.size := by
      rw [Builder.size_openNode]
      omega
    rw [hOther q hne, h.get?_of_lt hLt (by simpa using hne.symm)]
    simp only [Builder.openNode, Tree.add, Tree.get?_push, hne, if_false]
  · intro q hq hLt
    by_cases hq' : q = b.tree.size
    · subst hq'
      exact Or.inl ⟨List.mem_singleton_self _, Tree.parent?_of_get? hNode⟩
    · -- everything else hangs below the node, directly or not
      rw [Tree.parent?, hOther q hq', ← Tree.parent?]
      simp only [Builder.closeNode, Tree.size_setPayload] at hLt
      rcases h.outer q (by rw [Builder.size_openNode]; omega) hLt with ⟨-, hTop⟩ | ⟨p, hp, hLe, hpq⟩
      · exact Or.inr ⟨b.tree.size, hTop, Nat.le_refl _, by omega⟩
      · rw [Builder.size_openNode] at hLe
        exact Or.inr ⟨p, hp, by omega, hpq⟩
  · obtain ⟨events, hWalk, hMet⟩ := h.walk
    have hInner : (visited.closeNode b.tree.size payload).tree.Walk
        ((visited.closeNode b.tree.size payload).tree.children b.tree.size) events := by
      rw [Tree.children_of_get? hNode]
      exact (Tree.walk_setPayload b.tree.size payload).mpr hWalk
    refine ⟨_, .cons (Tree.lt_size_of_get? hNode) hInner .nil, ?_⟩
    rw [Tree.met_enter_node, hMet, Builder.size_openNode, List.length_cons, List.range'_succ]
    simp [Tree.met]
  · intro prior hPrior
    rw [← hPrior]
    exact .singleton prior piece pieces
  · intro prior hPrior k piece' hk
    -- for what is inside, the node is one more piece that came before
    have hPrior' : (prior ++ [piece]).length = b.tree.size + 1 := by simp [hPrior]
    have hAll : prior ++ piece :: pieces = prior ++ [piece] ++ pieces := by simp
    rw [hAll]
    cases k with
    | zero =>
      obtain rfl : piece = piece' := by simpa using hk
      exact ⟨_, hNode, rfl, h.tops (prior ++ [piece]) (by rw [hPrior', Builder.size_openNode]),
        hFits _ hPrior'⟩
    | succ k =>
      obtain ⟨node, hGet, hShown⟩ := h.shown (prior ++ [piece])
        (by rw [hPrior', Builder.size_openNode]) k piece' (by simpa using hk)
      refine ⟨node, ?_, hShown⟩
      have hIndex : b.tree.size + (k + 1) = b.tree.size + 1 + k := by omega
      rw [hIndex, hOther _ (by omega), ← hGet, Builder.size_openNode]

theorem grows (h : Adds locate b b' tops pieces [b.tree.size]) : b.tree.size < b'.tree.size := by
  obtain ⟨_, hWalk, -⟩ := h.walk
  cases hWalk with
  | cons hId _ _ => exact hId

/-- A visit whose first node is its only root has that node captured. -/
theorem capture_eq (visit : Builder → Builder)
    (h : Adds locate b (visit b) tops pieces [b.tree.size]) :
    b.capture visit = (visit b, some b.tree.size) := by
  simp [Builder.capture, h.grows]

end Adds

/-! ## Visits that yield nodes -/

/-- A visit that also yields nodes: those of the pieces `named`, which are among the topmost. -/
def Captures (locate : Nat → Position) (b b' : Builder) (tops pieces : List Piece)
    (ids : List NodeId) (named : List Piece) : Prop :=
  ∃ roots, Adds locate b b' tops pieces roots ∧ ids.Sublist roots ∧
    ∀ prior : List Piece, prior.length = b.tree.size → Numbers (prior ++ pieces) ids named

section Captures

variable {locate : Nat → Position} {b b' b'' : Builder}
  {tops tops' pieces pieces' named named' : List Piece} {roots ids ids' : List NodeId}

theorem Adds.captures (h : Adds locate b b' tops pieces roots) :
    Captures locate b b' tops pieces roots tops :=
  ⟨roots, h, List.Sublist.refl _, h.tops⟩

theorem Adds.captures_nothing (h : Adds locate b b' tops pieces roots) :
    Captures locate b b' tops pieces [] [] :=
  ⟨roots, h, List.nil_sublist _, fun _ _ => .nil _⟩

namespace Captures

theorem refl (locate : Nat → Position) (b : Builder) : Captures locate b b [] [] [] [] :=
  (Adds.refl locate b).captures

theorem ready (h : Captures locate b b' tops pieces ids named) (hb : b.Ready) : b'.Ready := by
  obtain ⟨_, hAdds, -⟩ := h
  exact hAdds.ready hb

theorem trans (hb : b.Ready) (h : Captures locate b b' tops pieces ids named)
    (h' : Captures locate b' b'' tops' pieces' ids' named') :
    Captures locate b b'' (tops ++ tops') (pieces ++ pieces') (ids ++ ids') (named ++ named') := by
  obtain ⟨roots, hAdds, hSublist, hNumbers⟩ := h
  obtain ⟨roots', hAdds', hSublist', hNumbers'⟩ := h'
  refine ⟨roots ++ roots', hAdds.trans hb hAdds', hSublist.append hSublist', ?_⟩
  intro prior hPrior
  rw [← List.append_assoc]
  have hPrior' : (prior ++ pieces).length = b'.tree.size := by
    rw [List.length_append, hPrior, hAdds.size]
  exact ((hNumbers prior hPrior).extend pieces').append (hNumbers' _ hPrior')

/-- A visit that may yield a node yields one exactly if there is a piece to name. -/
theorem isSome_eq {id : Option NodeId} {e : Option Expr}
    (h : Captures locate b b' tops pieces id.toList (e.toList.map Expr.piece)) :
    id.isSome = e.isSome := by
  obtain ⟨_, -, -, hNumbers⟩ := h
  -- the numbers do not depend on what the earlier pieces are
  have hLength := (hNumbers (List.replicate b.tree.size (.inlineText 0 ""))
    List.length_replicate).length_eq
  cases id <;> cases e <;> simp_all

/-- A node whose payload is made from the nodes that the visit inside it yields. -/
theorem close (hb : b.Ready) (piece : Piece) {opening payload : Payload} {visited : Builder}
    (h : Captures locate (b.openNode opening (locate piece.place)).2 visited piece.inner pieces ids
      named)
    (hFits : ∀ Linked : List NodeId → List Piece → Prop, Linked ids named →
      piece.Fits Linked payload) :
    Adds locate b (visited.closeNode b.tree.size payload) [piece] (piece :: pieces)
      [b.tree.size] := by
  obtain ⟨roots, hAdds, hSublist, hNumbers⟩ := h
  refine hAdds.close hb piece fun prior hPrior => hFits _ ⟨hSublist, hNumbers prior ?_⟩
  rw [hPrior, Builder.size_openNode]

end Captures

theorem Adds.template (hb : b.Ready) (start : Nat) (quasis : List (Option String))
    {holes : List Expr} {visit : Builder → Builder × List NodeId}
    (h : ∀ b : Builder, b.Ready → Captures locate b (visit b).1 (holes.map Expr.piece) pieces
      (visit b).2 (holes.map Expr.piece)) :
    Adds locate b (b.template quasis (locate start) visit) [.template start quasis holes]
      (.template start quasis holes :: pieces) [b.tree.size] :=
  (h _ (Builder.ready_openNode _ _)).close hb (.template start quasis holes)
    fun _ hLinked => ⟨_, rfl, hLinked⟩

theorem Adds.braces (hb : b.Ready) (start : Nat) {inner : Option Expr}
    {visit : Builder → Builder × Option NodeId}
    (h : ∀ b : Builder, b.Ready → Captures locate b (visit b).1 (inner.toList.map Expr.piece)
      pieces (visit b).2.toList (inner.toList.map Expr.piece)) :
    Adds locate b (b.braces (locate start) visit) [.braces start inner]
      (.braces start inner :: pieces) [b.tree.size] :=
  (h _ (Builder.ready_openNode _ _)).close hb (.braces start inner)
    fun _ hLinked => ⟨_, rfl, hLinked⟩

end Captures

/-! ## Every visit adds the pieces of what it visits -/

section Visits

variable (locate : Nat → Position)

mutual

theorem visitExpr_adds (e : Expr) (b : Builder) (hb : b.Ready) :
    Adds locate b (visitExpr locate e b) [e.piece] e.pieces [b.tree.size] := by
  cases e with
  | identifier start name =>
    rw [visitExpr, Expr.pieces]
    exact .leaf hb (.identifier start name) rfl rfl
  | paren _ inner =>
    rw [visitExpr, Expr.pieces]
    exact visitExpr_adds inner b hb
  | string start value =>
    rw [visitExpr, Expr.pieces]
    exact .leaf hb (.string start value) rfl rfl
  | template start quasis holes =>
    rw [visitExpr, Expr.pieces]
    exact .template hb start quasis fun b hb => captureExprs_captures holes b hb
  | tagged start tag quotedAt quasis holes =>
    have hReady := b.ready_openNode (.taggedTemplate none none) (locate start)
    have hTag := visitExpr_adds tag _ hReady
    have hQuoted := Adds.template (hTag.ready hReady) quotedAt quasis
      fun b hb => captureExprs_captures holes b hb
    rw [visitExpr, Expr.pieces, Builder.within]
    simp only [hTag.capture_eq, hQuoted.capture_eq
      fun b => b.template quasis (locate quotedAt) (captureExprs locate holes)]
    exact (hTag.captures.trans hReady hQuoted.captures).close hb
      (.tagged start tag quotedAt quasis holes) fun _ hLinked => ⟨_, _, rfl, hLinked⟩
  | call start callee es =>
    have hReady := b.ready_openNode (.call none []) (locate start)
    have hCallee := captureExpr?_captures callee _ hReady
    have hArguments := captureExprs_captures es _ (hCallee.ready hReady)
    rw [visitExpr, Expr.pieces]
    exact (hCallee.trans hReady hArguments).close hb (.call start callee es)
      fun _ hLinked => ⟨_, _, rfl, hCallee.isSome_eq, hLinked⟩
  | member start parts =>
    rw [visitExpr, Expr.pieces]
    exact (visitParts_captures parts _ (b.ready_openNode _ _)).close hb (.member start parts)
      fun _ _ => rfl
  | element start name attributes children =>
    have hReady := b.ready_openNode (.jsxElement name []) (locate start)
    have hAttributes := captureAttributes_captures attributes _ hReady
    have hChildren := visitParts_captures children _ (hAttributes.ready hReady)
    have hInside := hAttributes.trans hReady hChildren
    rw [List.append_nil, List.append_nil] at hInside
    rw [visitExpr, Expr.pieces]
    exact hInside.close hb (.element start name attributes children)
      fun _ hLinked => ⟨_, rfl, hLinked⟩
  | other start label parts =>
    rw [visitExpr, Expr.pieces]
    exact (visitParts_captures parts _ (b.ready_openNode _ _)).close hb (.other start label parts)
      fun _ _ => rfl

theorem captureExpr?_captures (e : Option Expr) (b : Builder) (hb : b.Ready) :
    Captures locate b (captureExpr? locate e b).1 (e.toList.map Expr.piece) (expr?Pieces e)
      (captureExpr? locate e b).2.toList (e.toList.map Expr.piece) := by
  cases e with
  | none => exact .refl locate b
  | some e =>
    have hExpr := visitExpr_adds e b hb
    rw [captureExpr?, expr?Pieces, hExpr.capture_eq]
    exact hExpr.captures

theorem captureExprs_captures (es : List Expr) (b : Builder) (hb : b.Ready) :
    Captures locate b (captureExprs locate es b).1 (es.map Expr.piece) (exprsPieces es)
      (captureExprs locate es b).2 (es.map Expr.piece) := by
  cases es with
  | nil => exact .refl locate b
  | cons e es =>
    have hFirst := visitExpr_adds e b hb
    have hRest := captureExprs_captures es _ (hFirst.ready hb)
    simp only [captureExprs, exprsPieces, hFirst.capture_eq]
    exact hFirst.captures.trans hb hRest

theorem visitPart_adds (p : Part) (b : Builder) (hb : b.Ready) :
    Adds locate b (visitPart locate p b) [p.piece] p.pieces [b.tree.size] := by
  cases p with
  | expr e =>
    rw [visitPart, Part.pieces]
    exact visitExpr_adds e b hb
  | inlineText start value =>
    rw [visitPart, Part.pieces]
    exact .leaf hb (.inlineText start value) rfl rfl
  | braces start inner =>
    rw [visitPart, Part.pieces]
    exact .braces hb start fun b hb => captureExpr?_captures inner b hb

theorem visitParts_captures (ps : List Part) (b : Builder) (hb : b.Ready) :
    Captures locate b (visitParts locate ps b) (ps.map Part.piece) (partsPieces ps) [] [] := by
  cases ps with
  | nil => exact .refl locate b
  | cons p ps =>
    have hFirst := visitPart_adds p b hb
    rw [visitParts, partsPieces]
    exact hFirst.captures_nothing.trans hb (visitParts_captures ps _ (hFirst.ready hb))

theorem captureAttributes_captures (attributes : List Attribute) (b : Builder) (hb : b.Ready) :
    Captures locate b (captureAttributes locate attributes b).1 (attributes.map Attribute.piece)
      (attributesPieces attributes) (captureAttributes locate attributes b).2
      ((attributes.filter (·.isNamed)).map Attribute.piece) := by
  cases attributes with
  | nil => exact .refl locate b
  | cons first rest =>
    cases first with
    | spread e =>
      have hFirst := visitExpr_adds e b hb
      rw [captureAttributes, attributesPieces]
      exact hFirst.captures_nothing.trans hb
        (captureAttributes_captures rest _ (hFirst.ready hb))
    | named start name value =>
      have hValue := captureValue_captures value _
        (b.ready_openNode (.jsxAttribute name none) (locate start))
      have hNamed := hValue.close hb (.namedAttribute start name value)
        fun _ hLinked => ⟨_, rfl, hLinked⟩
      have hRest := captureAttributes_captures rest _ (hNamed.ready hb)
      rw [captureAttributes, attributesPieces, hNamed.capture_eq fun b =>
        b.within (.jsxAttribute name none) (locate start) fun b =>
          let (b, valueId) := captureValue locate value b
          (b, .jsxAttribute name valueId)]
      exact hNamed.captures.trans hb hRest

theorem captureValue_captures (value : AttributeValue) (b : Builder) (hb : b.Ready) :
    Captures locate b (captureValue locate value b).1 value.inner value.pieces
      (captureValue locate value b).2.toList value.piece?.toList := by
  cases value with
  | absent => exact .refl locate b
  | expr e =>
    have hExpr := visitExpr_adds e b hb
    rw [captureValue, AttributeValue.pieces, hExpr.capture_eq]
    exact hExpr.captures
  | braces start inner =>
    have hBraces := Adds.braces hb start fun b hb => captureExpr?_captures inner b hb
    rw [captureValue, AttributeValue.pieces,
      hBraces.capture_eq fun b => b.braces (locate start) (captureExpr? locate inner)]
    exact hBraces.captures
  | fragment children =>
    rw [captureValue, AttributeValue.pieces]
    exact visitParts_captures children b hb

end

end Visits

/-! ## The whole program -/

section Program

variable (locate : Nat → Position) (o : Outline)

theorem Outline.build_adds :
    Adds locate {} (o.build locate) [.program o.start o.parts] o.pieces [0] := by
  have hReady : ({} : Builder).Ready := by
    intro p hp
    cases hp
  exact (visitParts_captures locate o.parts _ (Builder.ready_openNode _ _)).close hReady
    (.program o.start o.parts) fun _ _ => rfl

theorem Outline.toTree_built : (o.toTree locate).Built := (o.build_adds locate).built .empty

theorem Outline.size_toTree : (o.toTree locate).size = o.pieces.length := by
  have hSize := (o.build_adds locate).size
  rwa [show ({} : Builder).tree.size = 0 from rfl, Nat.zero_add] at hSize

/-- The node with a number shows the piece with that number. -/
theorem Outline.shown {id : NodeId} {piece : Piece} (h : o.pieces[id]? = some piece) :
    ∃ node, (o.toTree locate).get? id = some node ∧ piece.ShownBy locate o.pieces node := by
  have hShown := (o.build_adds locate).shown [] rfl id piece h
  rwa [show ({} : Builder).tree.size = 0 from rfl, Nat.zero_add] at hShown

/-- And every node has such a piece. -/
theorem Outline.shown_of_get? {id : NodeId} {node : Node}
    (h : (o.toTree locate).get? id = some node) :
    ∃ piece, o.pieces[id]? = some piece ∧ piece.ShownBy locate o.pieces node := by
  have hLt : id < o.pieces.length := by
    rw [← o.size_toTree locate]
    exact Tree.lt_size_of_get? h
  obtain ⟨node', hNode', hShown⟩ := o.shown locate (List.getElem?_eq_getElem hLt)
  obtain rfl := Option.some.inj (h.symm.trans hNode')
  exact ⟨_, List.getElem?_eq_getElem hLt, hShown⟩

end Program

/-- A tree is that of a program. Its nodes are numbered as the pieces of the program are listed. -/
structure Faithful (locate : Nat → Position) (o : Outline) (t : Tree) : Prop where
  root : t.payload? 0 = some .program ∧ t.parent? 0 = none
  parent_lt : ∀ id, 0 < id → id < t.size → ∃ p < id, t.parent? id = some p
  /-- The walk from the root meets every node, in the order of the numbers. -/
  preorder : ∃ events, t.walk? = some events ∧ t.Walk [0] events ∧
    Tree.met .enter events = List.range t.size
  links : ∀ id payload, t.payload? id = some payload →
    (∀ link ∈ payload.links, link ∈ t.children id) ∧ payload.links.Pairwise (· < ·)
  /-- Each node shows the piece with its number: the `k`-th link is the node of the `k`-th
  expression, without parentheses. -/
  shown : t.size = o.pieces.length ∧ ∀ id piece, o.pieces[id]? = some piece →
    ∃ node, t.get? id = some node ∧ piece.ShownBy locate o.pieces node
  /-- A template has one link for each interpolation. -/
  templates : ∀ id quasis ids, t.payload? id = some (.template quasis ids) →
    ∃ start holes, o.pieces[id]? = some (.template start quasis holes) ∧
      ids.length = holes.length ∧
      (quasis.length = holes.length + 1 → quasis.length = ids.length + 1)
  /-- A template with a tag has both links, and the second leads to a template. -/
  taggedTemplates : ∀ id tag quoted, t.payload? id = some (.taggedTemplate tag quoted) →
    ∃ tagId quotedId, tag = some tagId ∧ quoted = some quotedId ∧
      t.kind? quotedId = some .template

/-- The tree of every program is faithful to it, and in the end no node is left open. -/
theorem toTree_faithful (locate : Nat → Position) (o : Outline) :
    (o.build locate).opened = [] ∧ Faithful locate o (o.toTree locate) := by
  have hAdds := o.build_adds locate
  have hLinked := (o.toTree_built locate).linked
  -- the root is the only node below no open one
  obtain ⟨root, hRoot, hProgram⟩ :=
    o.shown locate (show o.pieces[0]? = some (.program o.start o.parts) from rfl)
  have hParent : (o.toTree locate).parent? 0 = none := by
    rcases hAdds.outer 0 (Nat.le_refl 0) hAdds.grows with ⟨-, hHead⟩ | ⟨p, -, -, hp⟩
    · exact hHead
    · exact absurd hp (Nat.not_lt_zero p)
  have hSelf : (o.toTree locate).parent? 0 ≠ some 0 := by simp [hParent]
  refine ⟨hAdds.opened, ⟨?_, hParent⟩, ?_, ?_, ?_, ⟨o.size_toTree locate, ?_⟩, ?_, ?_⟩
  · rw [Tree.payload?, hRoot, Option.map_some]
    exact congrArg some hProgram.payload
  · intro id hId hLt
    rcases hAdds.outer id (Nat.zero_le id) hLt with ⟨hMem, -⟩ | ⟨p, hp, -, hLess⟩
    · rw [List.mem_singleton] at hMem
      omega
    · exact ⟨p, hLess, hp⟩
  · obtain ⟨events, hWalk, hMet⟩ := hAdds.walk
    have hRootWalk : (o.toTree locate).Walk (o.toTree locate).root?.toList events := by
      rw [Tree.root?_of_size_pos (Tree.lt_size_of_get? hRoot)]
      exact hWalk
    refine ⟨events, Tree.walk?_of_walk hLinked hSelf hRootWalk, hWalk, ?_⟩
    rw [hMet, o.size_toTree locate, List.range_eq_range']
    rfl
  · intro id payload hPayload
    obtain ⟨node, hNode, rfl⟩ := Option.map_eq_some_iff.mp hPayload
    obtain ⟨piece, -, hShown⟩ := o.shown_of_get? locate hNode
    obtain ⟨_, hSublist, -⟩ := hShown.payload.links ⟨List.nil_sublist _, .nil _⟩
    rw [← Tree.children_of_get? hNode] at hSublist
    exact ⟨hSublist.subset, (hLinked.increasing id).sublist hSublist⟩
  · intro id piece hPiece
    exact o.shown locate hPiece
  · intro id quasis ids hPayload
    obtain ⟨node, hNode, hTemplate⟩ := Option.map_eq_some_iff.mp hPayload
    obtain ⟨piece, hPiece, hShown⟩ := o.shown_of_get? locate hNode
    obtain ⟨start, holes, rfl, -, hNumbers⟩ := Piece.Fits.of_template (hTemplate ▸ hShown.payload)
    have hLength : ids.length = holes.length := by simpa using hNumbers.length_eq
    exact ⟨start, holes, hPiece, hLength, fun hQuasis => hQuasis.trans (by rw [hLength])⟩
  · intro id tag quoted hPayload
    obtain ⟨node, hNode, hTagged⟩ := Option.map_eq_some_iff.mp hPayload
    obtain ⟨piece, -, hShown⟩ := o.shown_of_get? locate hNode
    obtain ⟨tagId, quotedId, tagExpr, quotedAt, quasis, holes, rfl, rfl, -, hNumbers⟩ :=
      Piece.Fits.of_taggedTemplate (hTagged ▸ hShown.payload)
    -- the second link has the number of the template
    have hQuoted : o.pieces[quotedId]? = some (.template quotedAt quasis holes) := by
      simpa using (List.cons.inj (List.cons.inj hNumbers).2).1
    obtain ⟨inner, hInner, hTemplate⟩ := o.shown locate hQuoted
    obtain ⟨ids, hIds, -⟩ := hTemplate.payload
    refine ⟨tagId, quotedId, rfl, rfl, ?_⟩
    rw [Tree.kind?, Tree.payload?, hInner, Option.map_some, Option.map_some, hIds]
    rfl

-- parentheses around an interpolation are no node, and the link leads to what is inside them
example : ((⟨0, [.expr (.tagged 0 (.identifier 0 "t") 1 [some "", some ""]
    [.paren 4 (.identifier 5 "a")])]⟩ : Outline).toTree fun _ => {}).payload? 3 =
      some (.template [some "", some ""] [4]) := by decide

end Source

end MessageLint
