import Mathlib.Data.List.Induction
import Mathlib.Data.List.Nodup
import MessageLint.Proofs.Tree.Links

/-!
# MessageLint — the links of a tree, by the edits that made it

A tree is made from the empty one by edits: a node is appended under any parent, be it one that does
not exist, comes later or is the node itself, or the payload of any id is replaced. What hangs where
is settled by the parents that the nodes were appended under, and by nothing else.

* `size_ofEdits`, `parent?_ofEdits` — the nodes are those that were appended, each with the parent
  it was appended under; no later edit changes that.
* `Linked.mem_children_of_cycle` — the child links form no cycle but that of a node that is its own
  parent.
* `appends_add`, `replaces_setPayload` — what one edit changes, and what it leaves as it is.
* `links_of_edits` — all of this for the tree that any edits make.
-/

namespace MessageLint.Tree

/-- One change to a tree. -/
inductive Edit where
  | push (payload : Payload) (parent : Option NodeId) (position : Position)
  | setPayload (id : NodeId) (payload : Payload)
deriving DecidableEq, Repr

namespace Edit

/-- The tree after the edit. -/
def apply (t : Tree) : Edit → Tree
  | push payload parent position => t.push payload parent position
  | setPayload id payload => t.setPayload id payload

/-- The parent that a node is appended under, if one is appended. -/
def given? : Edit → Option (Option NodeId)
  | push _ parent _ => some parent
  | setPayload .. => none

end Edit

/-- The tree that edits make from the empty one. -/
def ofEdits (edits : List Edit) : Tree := edits.foldl Edit.apply Tree.empty

/-- The parents that nodes are appended under, in order. -/
def givenParents (edits : List Edit) : List (Option NodeId) := edits.filterMap Edit.given?

variable {t : Tree} {a b : NodeId}

/-! ## Sequences of edits -/

theorem ofEdits_concat (edits : List Edit) (e : Edit) :
    ofEdits (edits ++ [e]) = e.apply (ofEdits edits) := by
  rw [ofEdits, List.foldl_append]
  rfl

theorem givenParents_concat (edits : List Edit) (e : Edit) :
    givenParents (edits ++ [e]) = givenParents edits ++ e.given?.toList := by
  rw [givenParents, List.filterMap_append]
  cases e <;> rfl

/-- Edits make exactly the trees that can be built. -/
theorem built_iff_ofEdits : t.Built ↔ ∃ edits, t = ofEdits edits := by
  constructor
  · intro h
    induction h with
    | empty => exact ⟨[], rfl⟩
    | push _ payload parent position ih =>
      obtain ⟨edits, rfl⟩ := ih
      exact ⟨_, (ofEdits_concat edits (.push payload parent position)).symm⟩
    | setPayload _ id payload ih =>
      obtain ⟨edits, rfl⟩ := ih
      exact ⟨_, (ofEdits_concat edits (.setPayload id payload)).symm⟩
  · rintro ⟨edits, rfl⟩
    induction edits using List.reverseRecOn with
    | nil => exact .empty
    | append_singleton edits e ih =>
      rw [ofEdits_concat]
      cases e with
      | push payload parent position => exact ih.push payload parent position
      | setPayload id payload => exact ih.setPayload id payload

theorem size_ofEdits (edits : List Edit) : (ofEdits edits).size = (givenParents edits).length := by
  induction edits using List.reverseRecOn with
  | nil => rfl
  | append_singleton edits e ih =>
    rw [ofEdits_concat, givenParents_concat, List.length_append, ← ih]
    cases e with
    | push payload parent position => exact size_push payload parent position
    | setPayload id payload => exact size_setPayload id payload

/-- A node keeps the parent link that it was appended with. -/
theorem parent?_ofEdits (edits : List Edit) (c : NodeId) :
    (ofEdits edits).parent? c = ((givenParents edits)[c]?).join := by
  induction edits using List.reverseRecOn with
  | nil => rfl
  | append_singleton edits e ih =>
    rw [ofEdits_concat, givenParents_concat]
    cases e with
    | setPayload id payload =>
      rw [Edit.apply, parent?_setPayload, ih, Edit.given?, Option.toList_none, List.append_nil]
    | push payload parent position =>
      -- an older node, the new one, or an id that is still free
      rw [Edit.apply, parent?_push, size_ofEdits, ih]
      rcases Nat.lt_trichotomy c (givenParents edits).length with hc | rfl | hc
      · rw [if_neg (Nat.ne_of_lt hc), List.getElem?_append_left hc]
      · simp [Edit.given?]
      · -- neither list goes that far
        rw [if_neg (Nat.ne_of_gt hc), List.getElem?_eq_none (Nat.le_of_lt hc),
          List.getElem?_eq_none (by simpa [Edit.given?] using Nat.succ_le_of_lt hc)]

/-! ## Cycles -/

/-- A way along child links never leads back, unless it has stayed at a node that is its own
parent. -/
theorem Linked.mem_children_of_cycle (h : t.Linked)
    (hCycle : Relation.TransGen (fun p c => c ∈ t.children p) a a) : a ∈ t.children a := by
  obtain ⟨c, hc, hBack⟩ := Relation.TransGen.head'_iff.mp hCycle
  have hSame : c = a := Nat.le_antisymm (descends_le h hBack) (h.le_of_mem hc)
  rwa [hSame] at hc

/-- Without these, every way along child links leads to later nodes. -/
theorem lt_of_transGen
    (h : Relation.TransGen (fun p c => c ∈ t.children p ∧ p < c) a b) : a < b := by
  induction h with
  | single hStep => exact hStep.2
  | tail _ hStep ih => exact Nat.lt_trans ih hStep.2

/-! ## What one edit changes -/

/-- What comes of appending a node: its id is the old size, it stands last among the children of its
parent if that exists, and no other node has changed. -/
structure Appends (t : Tree) (added : NodeId × Tree) (payload : Payload) (parent : Option NodeId)
    (position : Position) : Prop where
  id_eq : added.1 = t.size
  size_eq : added.2.size = t.size + 1
  /-- The new node has no children, but for itself if it is its own parent. -/
  new : added.2.get? added.1 =
    some ⟨payload, parent, if parent = some t.size then [t.size] else [], position⟩
  above : ∀ q < t.size, parent = some q →
    added.2.get? q = (t.get? q).map fun n => { n with children := n.children ++ [added.1] }
  others : ∀ q < t.size, parent ≠ some q → added.2.get? q = t.get? q

theorem appends_add (t : Tree) (payload : Payload) (parent : Option NodeId) (position : Position) :
    t.Appends (t.add payload parent position) payload parent position where
  id_eq := rfl
  size_eq := size_push payload parent position
  new := by
    rw [add, get?_push, if_pos rfl, Option.map_some]
    split <;> rfl
  above := by
    intro q hq hParent
    simp only [add, get?_push, if_neg (Nat.ne_of_lt hq), if_pos hParent]
  others := by
    intro q hq hParent
    simp only [add, get?_push, if_neg (Nat.ne_of_lt hq), if_neg hParent, Option.map_id']

/-- What comes of replacing a payload: the node has it, and nothing else has changed; without such a
node the tree is the same. -/
structure Replaces (t t' : Tree) (id : NodeId) (payload : Payload) : Prop where
  size_eq : t'.size = t.size
  node : t'.get? id = (t.get? id).map ({ · with payload })
  others : ∀ q, q ≠ id → t'.get? q = t.get? q
  unknown : t.size ≤ id → t' = t

theorem setPayload_of_size_le {id : NodeId} (h : t.size ≤ id) (payload : Payload) :
    t.setPayload id payload = t := by
  have hNodes : ∀ q : NodeId, (t.setPayload id payload).nodes[q]? = t.nodes[q]? := by
    intro q
    have hNode : (t.setPayload id payload).get? q = t.get? q := by
      rw [get?_setPayload]
      split
      · rename_i hq
        rw [hq, get?_eq_none_of_size_le h, Option.map_none]
      · rfl
    exact hNode
  show Tree.mk _ = Tree.mk _
  rw [Tree.mk.injEq]
  exact Array.ext_getElem? hNodes

theorem replaces_setPayload (t : Tree) (id : NodeId) (payload : Payload) :
    t.Replaces (t.setPayload id payload) id payload where
  size_eq := size_setPayload id payload
  node := by rw [get?_setPayload, if_pos rfl]
  others q hq := by rw [get?_setPayload, if_neg hq]
  unknown h := setPayload_of_size_le h payload

/-! ## The law -/

/-- How the links of a tree follow from the parents that its nodes were appended under. -/
structure LinkedAsGiven (t : Tree) (given : List (Option NodeId)) : Prop where
  size_eq : t.size = given.length
  parent?_eq : ∀ c, t.parent? c = (given[c]?).join
  mem_children_iff : ∀ p c,
    c ∈ t.children p ↔ p < t.size ∧ c < t.size ∧ t.parent? c = some p ∧ p ≤ c
  once : ∀ p c, c ∈ t.children p → (t.children p).count c = 1
  only : ∀ p q c, c ∈ t.children p → c ∈ t.children q → p = q
  increasing : ∀ p, (t.children p).Pairwise (· < ·)
  /-- Only a node that was appended under itself is its own child. -/
  own_iff : ∀ c, c ∈ t.children c ↔ given[c]? = some (some c)
  acyclic : ∀ a, ¬ Relation.TransGen (fun p c => c ∈ t.children p ∧ p < c) a a
  /-- The other cycles are nodes that are their own children. -/
  cycles : ∀ a, Relation.TransGen (fun p c => c ∈ t.children p) a a → a ∈ t.children a

theorem linkedAsGiven_ofEdits (edits : List Edit) :
    (ofEdits edits).LinkedAsGiven (givenParents edits) := by
  have hLinked : (ofEdits edits).Linked := (built_iff_ofEdits.mpr ⟨edits, rfl⟩).linked
  refine ⟨size_ofEdits edits, parent?_ofEdits edits, ?_, ?_, fun p q c => hLinked.parent_unique,
    hLinked.increasing, ?_, fun a hCycle => Nat.lt_irrefl a (lt_of_transGen hCycle),
    fun a => hLinked.mem_children_of_cycle⟩
  · intro p c
    rw [hLinked.mem_children_iff]
    constructor
    · -- the child has a parent link, so it exists, and its parent comes no later
      rintro ⟨hParent, hLe⟩
      have hc := lt_size_of_parent? hParent
      exact ⟨Nat.lt_of_le_of_lt hLe hc, hc, hParent, hLe⟩
    · rintro ⟨-, -, hParent, hLe⟩
      exact ⟨hParent, hLe⟩
  · intro p c hc
    exact List.count_eq_one_of_mem ((hLinked.increasing p).imp Nat.ne_of_lt) hc
  · intro c
    rw [hLinked.mem_children_iff, parent?_ofEdits]
    simp [Option.join_eq_some_iff]

/-- Whatever edits make a tree, a node is among the children of another exactly if it was appended
under it and not before it, and there it stands once, behind the older ones. Appending one more node
gives it the old size as its id and changes nothing else but the children of its parent; replacing a
payload changes nothing but that. -/
theorem links_of_edits (edits : List Edit) :
    (ofEdits edits).LinkedAsGiven (givenParents edits) ∧
    (∀ payload parent position, (ofEdits edits).Appends
      ((ofEdits edits).add payload parent position) payload parent position) ∧
    ∀ id payload,
      (ofEdits edits).Replaces ((ofEdits edits).setPayload id payload) id payload :=
  ⟨linkedAsGiven_ofEdits edits, appends_add _, replaces_setPayload _⟩

/-- A node under one that comes later, one under the first, one under itself, one under a node that
never comes; and a payload for a node that does not exist. -/
def strayEdits : List Edit := [
  .push .program (some 1) ⟨1, 1⟩,
  .push .member (some 0) ⟨1, 2⟩,
  .push .member (some 2) ⟨1, 3⟩,
  .push .member (some 9) ⟨1, 4⟩,
  .setPayload 9 .program]

/-- Two of these nodes are children: the second of the first, and the third of itself. -/
theorem strayEdits_linked :
    (ofEdits strayEdits).LinkedAsGiven [some 1, some 0, some 2, some 9] ∧
    (List.range 4).map (ofEdits strayEdits).children = [[1], [], [2], []] ∧
    (ofEdits strayEdits).setPayload 9 .member = ofEdits strayEdits ∧
    ((ofEdits strayEdits).add .member (some 0) ⟨2, 1⟩).1 = 4 ∧
    ((ofEdits strayEdits).add .member (some 0) ⟨2, 1⟩).2.get? 0 =
      some ⟨.program, some 1, [1, 4], ⟨1, 1⟩⟩ := by
  obtain ⟨hLinked, hAppends, hReplaces⟩ := links_of_edits strayEdits
  have hAdded := hAppends .member (some 0) ⟨2, 1⟩
  refine ⟨hLinked, by decide, (hReplaces 9 .member).unknown (by decide), hAdded.id_eq, ?_⟩
  rw [hAdded.above 0 (by decide) rfl]
  decide

end MessageLint.Tree
