import Mathlib.Logic.Relation
import MessageLint.Tree.Basic

/-!
# MessageLint — parent and child links

Trees are made by appending nodes and replacing payloads, and nothing keeps a caller from giving a
node a parent that does not exist, comes later, or is the node itself. This module says what such
trees have in common all the same: `Linked` is an invariant of both operations, and from it the
child links form a forest apart from the nodes that are their own parents.

Main results:

* `Built.linked` — a node is a child of `p` exactly if its parent link is `p` and `p` does not come
  after it; children are listed in increasing order.
* `descends_comparable` — two nodes above the same node are above one another.
* `not_descends_of_siblings` — no child of a node is above another child of it.
-/

namespace MessageLint.Tree

/-- A tree made from the empty one by appending nodes and replacing payloads, with any arguments. -/
inductive Built : Tree → Prop where
  | empty : Built Tree.empty
  | push {t : Tree} (ht : Built t) (payload : Payload) (parent : Option NodeId)
      (position : Position) : Built (t.push payload parent position)
  | setPayload {t : Tree} (ht : Built t) (id : NodeId) (payload : Payload) :
      Built (t.setPayload id payload)

/-- The children of a node; one that does not exist has none. -/
def children (t : Tree) (id : NodeId) : List NodeId := ((t.get? id).map (·.children)).getD []

variable {t : Tree} {id p q c a b x : NodeId}

/-! ## Look-ups after an operation -/

theorem isSome_get?_iff : (t.get? id).isSome ↔ id < t.size := by
  simp [get?, size]

theorem get?_eq_none_of_size_le (h : t.size ≤ id) : t.get? id = none := by
  simpa [get?, size] using h

theorem parent?_of_get? {node : Node} (h : t.get? id = some node) :
    t.parent? id = node.parent := by
  simp [parent?, h]

theorem children_of_get? {node : Node} (h : t.get? id = some node) :
    t.children id = node.children := by
  simp [children, h]

theorem kind?_of_payload? {payload : Payload} (h : t.payload? id = some payload) :
    t.kind? id = some payload.kind := by
  simp [kind?, h]

theorem identifierName?_eq_some_iff {name : String} :
    t.identifierName? id = some name ↔ t.payload? id = some (.identifier name) := by
  unfold identifierName?
  split <;> simp_all

/-- Only a text between tags is of that kind. -/
theorem kind?_eq_jsxText_iff :
    t.kind? id = some .jsxText ↔ ∃ value, t.payload? id = some (.jsxText value) := by
  rw [kind?, Option.map_eq_some_iff]
  constructor
  · rintro ⟨payload, hPayload, hKind⟩
    cases payload <;> cases hKind
    exact ⟨_, hPayload⟩
  · rintro ⟨value, hPayload⟩
    exact ⟨_, hPayload, rfl⟩

/-- Only nodes of the tree have a parent link. -/
theorem lt_size_of_parent? (h : t.parent? c = some p) : c < t.size := by
  rw [← isSome_get?_iff]
  cases hc : t.get? c with
  | none => simp [parent?, hc] at h
  | some node => rfl

@[simp] theorem size_push (payload : Payload) (parent : Option NodeId) (position : Position) :
    (t.push payload parent position).size = t.size + 1 := by
  cases parent <;> simp [push, addChild, size]

@[simp] theorem size_setPayload (id : NodeId) (payload : Payload) :
    (t.setPayload id payload).size = t.size := by
  simp [setPayload, size]

/-- Appending a node adds it, registers it with its parent, and leaves all else as it is. -/
theorem get?_push (payload : Payload) (parent : Option NodeId) (position : Position) :
    (t.push payload parent position).get? q =
      ((if q = t.size then some ⟨payload, parent, [], position⟩ else t.get? q).map fun n =>
        if parent = some q then { n with children := n.children ++ [t.size] } else n) := by
  have hAppended : (t.nodes.push ⟨payload, parent, [], position⟩)[q]? =
      if q = t.size then some ⟨payload, parent, [], position⟩ else t.get? q :=
    Array.getElem?_push
  cases parent with
  | none => simpa [push, get?] using hAppended
  | some p =>
    simp only [push, addChild, get?, Array.getElem?_modify, hAppended, Option.some.injEq]
    split <;> simp

theorem get?_setPayload (id : NodeId) (payload : Payload) :
    (t.setPayload id payload).get? q =
      if q = id then (t.get? q).map ({ · with payload }) else t.get? q := by
  simp [setPayload, get?, Array.getElem?_modify, eq_comm]

@[simp] theorem parent?_push (payload : Payload) (parent : Option NodeId) (position : Position) :
    (t.push payload parent position).parent? q =
      if q = t.size then parent else t.parent? q := by
  simp only [parent?, get?_push]
  by_cases hq : q = t.size
  · simp only [hq, if_true, Option.map_some, Option.bind_some]
    split <;> rfl
  · simp only [hq, if_false]
    cases t.get? q with
    | none => rfl
    | some node =>
      simp only [Option.map_some, Option.bind_some]
      split <;> rfl

theorem children_push (payload : Payload) (parent : Option NodeId) (position : Position) :
    (t.push payload parent position).children q =
      if parent = some q ∧ q ≤ t.size then t.children q ++ [t.size] else t.children q := by
  simp only [children, get?_push]
  rcases Nat.lt_trichotomy q t.size with hq | rfl | hq
  · -- an older node may get the new one as its last child
    have hSome := isSome_get?_iff.mpr hq
    obtain ⟨node, hNode⟩ := Option.isSome_iff_exists.mp hSome
    simp only [Nat.ne_of_lt hq, if_false, hNode, Option.map_some, Option.getD_some,
      Nat.le_of_lt hq, and_true]
    split <;> rfl
  · -- the new node itself starts without children, unless it is its own parent
    rw [get?_eq_none_of_size_le (Nat.le_refl _)]
    simp only [if_true, Option.map_some, Option.getD_some, Nat.le_refl, and_true, Option.map_none,
      Option.getD_none]
    split <;> rfl
  · -- beyond the new node there is nothing to register with
    simp [Nat.ne_of_gt hq, Nat.not_le_of_gt hq, get?_eq_none_of_size_le (Nat.le_of_lt hq)]

@[simp] theorem parent?_setPayload (id : NodeId) (payload : Payload) :
    (t.setPayload id payload).parent? q = t.parent? q := by
  simp only [parent?, get?_setPayload]
  split <;> cases t.get? q <;> rfl

@[simp] theorem children_setPayload (id : NodeId) (payload : Payload) :
    (t.setPayload id payload).children q = t.children q := by
  simp only [children, get?_setPayload]
  split <;> cases t.get? q <;> rfl

/-! ## The invariant of the links -/

/-- What the links of a tree keep through every operation. A node whose parent comes later was never
registered with it, so a link outward need not be answered by a link inward. -/
structure Linked (t : Tree) : Prop where
  mem_children_iff : ∀ {p c : NodeId}, c ∈ t.children p ↔ t.parent? c = some p ∧ p ≤ c
  increasing : ∀ p : NodeId, (t.children p).Pairwise (· < ·)

theorem linked_empty : Linked Tree.empty where
  mem_children_iff := by simp [children, parent?, get?, Tree.empty]
  increasing := by simp [children, get?, Tree.empty]

/-- Appending keeps the invariant: the new node is the greatest, so it may stand last. -/
theorem Linked.push (h : t.Linked) (payload : Payload) (parent : Option NodeId)
    (position : Position) : (t.push payload parent position).Linked where
  mem_children_iff := by
    intro p c
    -- the new node was a child of nobody, for it had no parent link
    have hNew : t.size ∉ t.children p := by
      rw [h.mem_children_iff]
      rintro ⟨hParent, -⟩
      exact Nat.lt_irrefl _ (lt_size_of_parent? hParent)
    rw [children_push, parent?_push]
    by_cases hc : c = t.size
    · -- the new node: registered exactly if its parent exists by now
      subst hc
      split <;> simp_all
    · rw [if_neg hc, ← h.mem_children_iff]
      split <;> simp [hc]
  increasing := by
    intro p
    rw [children_push]
    split
    · -- all older nodes come before the new one
      rw [List.pairwise_append]
      refine ⟨h.increasing p, List.pairwise_singleton _ _, ?_⟩
      intro c hc d hd
      rw [List.mem_singleton] at hd
      subst hd
      exact lt_size_of_parent? (h.mem_children_iff.mp hc).1
    · exact h.increasing p

theorem Linked.setPayload (h : t.Linked) (id : NodeId) (payload : Payload) :
    (t.setPayload id payload).Linked where
  mem_children_iff := by
    intro p c
    rw [children_setPayload, parent?_setPayload, h.mem_children_iff]
  increasing := by
    intro p
    rw [children_setPayload]
    exact h.increasing p

/-- The links of every tree that the operations can make. -/
theorem Built.linked (h : t.Built) : t.Linked := by
  induction h with
  | empty => exact linked_empty
  | push _ payload parent position ih => exact ih.push payload parent position
  | setPayload _ id payload ih => exact ih.setPayload id payload

namespace Linked

theorem parent?_of_mem (h : t.Linked) (hc : c ∈ t.children p) : t.parent? c = some p :=
  (h.mem_children_iff.mp hc).1

theorem le_of_mem (h : t.Linked) (hc : c ∈ t.children p) : p ≤ c :=
  (h.mem_children_iff.mp hc).2

theorem lt_size_of_mem (h : t.Linked) (hc : c ∈ t.children p) : c < t.size :=
  lt_size_of_parent? (h.parent?_of_mem hc)

theorem parent_unique (h : t.Linked) (hp : c ∈ t.children p) (hq : c ∈ t.children q) : p = q :=
  Option.some.inj ((h.parent?_of_mem hp).symm.trans (h.parent?_of_mem hq))

/-- A child of a node that is not its own parent comes after it. -/
theorem lt_of_mem (h : t.Linked) (hp : t.parent? p ≠ some p) (hc : c ∈ t.children p) : p < c := by
  refine Nat.lt_of_le_of_ne (h.le_of_mem hc) ?_
  rintro rfl
  exact hp (h.parent?_of_mem hc)

/-- A child of another node is not its own parent. -/
theorem parent?_ne_self_of_mem (h : t.Linked) (hp : t.parent? p ≠ some p)
    (hc : c ∈ t.children p) : t.parent? c ≠ some c := by
  rw [h.parent?_of_mem hc, Ne, Option.some.injEq]
  exact Nat.ne_of_lt (h.lt_of_mem hp hc)

end Linked

/-! ## Descent along child links -/

/-- The second node is the first or lies below it. -/
def Descends (t : Tree) : NodeId → NodeId → Prop :=
  Relation.ReflTransGen fun p c => c ∈ t.children p

/-- The second node lies strictly below the first. -/
def Below (t : Tree) (a b : NodeId) : Prop := ∃ c ∈ t.children a, t.Descends c b

/-- The pass can come to the node: it is the root or lies below it. -/
def Reachable (t : Tree) (id : NodeId) : Prop := ∃ root, t.root? = some root ∧ t.Descends root id

theorem Descends.refl (t : Tree) (a : NodeId) : t.Descends a a := Relation.ReflTransGen.refl

theorem Below.descends (h : t.Below a b) : t.Descends a b := by
  obtain ⟨c, hc, hDown⟩ := h
  exact Relation.ReflTransGen.head hc hDown

theorem descends_iff : t.Descends a b ↔ b = a ∨ t.Below a b := by
  rw [Descends, Relation.ReflTransGen.cases_head_iff, eq_comm]
  rfl

/-- Descent never goes to an earlier node. -/
theorem descends_le (h : t.Linked) (hDown : t.Descends a b) : a ≤ b := by
  induction hDown with
  | refl => exact Nat.le_refl _
  | tail _ hc ih => exact Nat.le_trans ih (h.le_of_mem hc)

theorem below_lt (h : t.Linked) (ha : t.parent? a ≠ some a) (hBelow : t.Below a b) : a < b := by
  obtain ⟨c, hc, hDown⟩ := hBelow
  exact Nat.lt_of_lt_of_le (h.lt_of_mem ha hc) (descends_le h hDown)

/-- Whoever lies above a node other than itself lies above its parent. -/
theorem descends_parent (h : t.Linked) (hDown : t.Descends a b) (hne : a ≠ b)
    (hb : b ∈ t.children p) : t.Descends a p := by
  cases hDown with
  | refl => exact absurd rfl hne
  | tail hUp hLast => rwa [← h.parent_unique hLast hb]

/-- The nodes above one node are above one another. -/
theorem descends_comparable (h : t.Linked) (ha : t.Descends a x) (hb : t.Descends b x) :
    t.Descends a b ∨ t.Descends b a := by
  -- on the way from `a` down to the common node; a step is taken back as long as `b` is not reached
  induction ha with
  | refl => exact Or.inr hb
  | @tail y z hUp hc ih =>
    by_cases hbz : b = z
    · subst hbz
      exact Or.inl (hUp.tail hc)
    · exact ih (descends_parent h hb hbz hc)

/-- Siblings are not above one another: the way down to a child leads through its parent. -/
theorem not_descends_of_siblings (h : t.Linked) (hp : t.parent? p ≠ some p)
    (ha : a ∈ t.children p) (hb : b ∈ t.children p) (hne : a ≠ b) : ¬ t.Descends a b := by
  intro hDown
  have hUp := descends_parent h hDown hne hb
  exact Nat.not_le_of_gt (h.lt_of_mem hp ha) (descends_le h hUp)

/-! ## What replacing a payload leaves as it is -/

theorem payload?_setPayload (id : NodeId) (payload : Payload) :
    (t.setPayload id payload).payload? q =
      if q = id then (t.payload? q).map fun _ => payload else t.payload? q := by
  simp only [payload?, get?_setPayload]
  split <;> cases t.get? q <;> rfl

@[simp] theorem isSome_get?_setPayload (id : NodeId) (payload : Payload) :
    ((t.setPayload id payload).get? q).isSome = (t.get? q).isSome := by
  rw [get?_setPayload]
  split <;> simp

@[simp] theorem position_setPayload (id : NodeId) (payload : Payload) :
    (t.setPayload id payload).position q = t.position q := by
  simp only [position, get?_setPayload]
  split <;> cases t.get? q <;> rfl

@[simp] theorem root?_setPayload (id : NodeId) (payload : Payload) :
    (t.setPayload id payload).root? = t.root? := by
  simp [root?]

section SameKind

variable {old new : Payload}

/-- Putting one payload in the place of another of its kind changes no payload of other kinds. -/
theorem payload?_setPayload_iff (hx : t.payload? x = some old) (hNew : new.kind = old.kind)
    {payload : Payload} (hKind : payload.kind ≠ old.kind) :
    (t.setPayload x new).payload? q = some payload ↔ t.payload? q = some payload := by
  rw [payload?_setPayload]
  split
  · -- at the replaced node there is a payload of that kind on either side
    subst q
    rw [hx]
    constructor
    · rintro ⟨rfl⟩
      exact absurd hNew hKind
    · rintro ⟨rfl⟩
      exact absurd rfl hKind
  · rfl

theorem kind?_setPayload (hx : t.payload? x = some old) (hNew : new.kind = old.kind) :
    (t.setPayload x new).kind? q = t.kind? q := by
  simp only [kind?, payload?_setPayload]
  split
  · subst q
    simp [hx, hNew]
  · rfl

end SameKind

end MessageLint.Tree
