import Mathlib.Data.Finset.Card
import MessageLint.Proofs.Tree.Links
import MessageLint.Tree.Ancestors

/-!
# MessageLint — the limit on ancestor walks loses nothing

Ancestor queries follow parent links for at most as many steps as the tree has nodes. `enclosing?`
is the same chain without a limit; it is infinite where parent links form a cycle. The two agree on
every question about which nodes the chain meets: a node it meets at all is met within the limit,
because up to the first meeting no node comes twice (`exists_enclosing?_lt_size`).

* `ancestors_eq` — the limited chain is the beginning of the chain without limit.
* `mem_ancestors_iff` — both meet the same nodes.
* `nearestOfKind?_eq_some_iff` — the nearest node of a kind is the first of the chain without limit.
* `ChainEnds.getElem?_ancestors` — where the chain comes to an end, the ancestors are all of it.
* `ancestor_queries_unlimited` — no query on enclosing nodes notices the limit.
-/

namespace MessageLint.Tree

/-- The node that the parent link of a node leads to, if it leads to a node. -/
def outer? (t : Tree) (id : NodeId) : Option NodeId :=
  (t.parent? id).filter fun p => (t.get? p).isSome

/-- The chain of enclosing nodes without a limit: its `k`-th member, nearest first. It ends where a
node has no parent link or one that leads nowhere. -/
def enclosing? (t : Tree) (id : NodeId) : Nat → Option NodeId
  | 0 => t.outer? id
  | k + 1 => (t.enclosing? id k).bind t.outer?

variable {t : Tree} {id a : NodeId} {i j k : Nat}

/-! ## Steps along the chain -/

theorem lt_size_of_outer? (h : t.outer? id = some a) : a < t.size := by
  rw [outer?, Option.filter_eq_some_iff] at h
  exact isSome_get?_iff.mp h.2

/-- A parent link that leads to a node is the beginning of the chain. -/
theorem enclosing?_zero {payload : Payload} (h : t.parent? id = some a)
    (ha : t.payload? a = some payload) : t.enclosing? id 0 = some a := by
  obtain ⟨node, hNode, -⟩ := Option.map_eq_some_iff.mp ha
  simp [enclosing?, outer?, h, hNode]

theorem lt_size_of_enclosing? (h : t.enclosing? id k = some a) : a < t.size := by
  cases k with
  | zero => exact lt_size_of_outer? h
  | succ k =>
    obtain ⟨b, -, hOuter⟩ := Option.bind_eq_some_iff.mp h
    exact lt_size_of_outer? hOuter

/-- Beyond its first member, the chain of a node is the chain of that member. -/
theorem enclosing?_succ (id : NodeId) (k : Nat) :
    t.enclosing? id (k + 1) = (t.outer? id).bind (t.enclosing? · k) := by
  induction k with
  | zero => rfl
  | succ k ih =>
    rw [enclosing?, ih, Option.bind_assoc]
    rfl

/-- A chain that has come to the same node twice goes on in the same way. -/
theorem enclosing?_add (h : t.enclosing? id i = t.enclosing? id j) (k : Nat) :
    t.enclosing? id (i + k) = t.enclosing? id (j + k) := by
  induction k with
  | zero => exact h
  | succ k ih => rw [← Nat.add_assoc, ← Nat.add_assoc, enclosing?, enclosing?, ih]

/-- The chain has no gaps. -/
theorem isSome_enclosing?_of_le (h : (t.enclosing? id k).isSome) (hi : i ≤ k) :
    (t.enclosing? id i).isSome := by
  induction k, hi using Nat.le_induction with
  | base => exact h
  | succ k _ ih =>
    apply ih
    cases hk : t.enclosing? id k with
    | none => simp [enclosing?, hk] at h
    | some b => rfl

/-- Where it has ended, it stays so. -/
theorem enclosing?_eq_none_of_le (h : t.enclosing? id i = none) (hi : i ≤ k) :
    t.enclosing? id k = none := by
  by_contra hSome
  have hEarlier := isSome_enclosing?_of_le (Option.isSome_iff_ne_none.mpr hSome) hi
  rw [h] at hEarlier
  cases hEarlier

/-- The chain does not depend on payloads. -/
@[simp] theorem enclosing?_setPayload (x : NodeId) (payload : Payload) :
    (t.setPayload x payload).enclosing? id k = t.enclosing? id k := by
  have hOuter : (t.setPayload x payload).outer? = t.outer? := by
    funext n
    simp [outer?]
  induction k with
  | zero => exact congrFun hOuter id
  | succ k ih => rw [enclosing?, enclosing?, ih, hOuter]

/-! ## The first meeting comes within the limit -/

/-- Up to the first meeting with a node, the chain meets no node twice: coming back to one would
have brought the meeting about earlier. -/
theorem enclosing?_ne_of_first (hFirst : ∀ m < k, t.enclosing? id m ≠ t.enclosing? id k)
    (hij : i < j) (hj : j ≤ k) : t.enclosing? id i ≠ t.enclosing? id j := by
  intro hEq
  have hShift := enclosing?_add hEq (k - j)
  rw [Nat.add_sub_cancel' hj] at hShift
  exact hFirst (i + (k - j)) (by omega) hShift

theorem lt_size_of_first (hk : t.enclosing? id k = some a)
    (hFirst : ∀ m < k, t.enclosing? id m ≠ t.enclosing? id k) : k < t.size := by
  -- the members of the chain up to this one, as a map from their places into the tree
  let node : Nat → NodeId := fun m => (t.enclosing? id m).getD 0
  have hNode : ∀ m ≤ k, t.enclosing? id m = some (node m) := by
    intro m hm
    obtain ⟨b, hb⟩ := Option.isSome_iff_exists.mp
      (isSome_enclosing?_of_le (by rw [hk]; rfl) hm)
    simp [node, hb]
  have hMaps : Set.MapsTo node (Finset.range (k + 1)) (Finset.range t.size) := by
    intro m hm
    have hm' : m ≤ k := by simpa [Nat.lt_succ_iff] using hm
    simpa using lt_size_of_enclosing? (hNode m hm')
  have hInj : Set.InjOn node (Finset.range (k + 1)) := by
    intro m hm n hn hmn
    have hm' : m ≤ k := by simpa [Nat.lt_succ_iff] using hm
    have hn' : n ≤ k := by simpa [Nat.lt_succ_iff] using hn
    have hEq : t.enclosing? id m = t.enclosing? id n := by rw [hNode m hm', hNode n hn', hmn]
    rcases Nat.lt_trichotomy m n with hlt | heq | hgt
    · exact absurd hEq (enclosing?_ne_of_first hFirst hlt hn')
    · exact heq
    · exact absurd hEq.symm (enclosing?_ne_of_first hFirst hgt hm')
  -- it is one to one, so there are no more places than nodes
  have hCard := Finset.card_le_card_of_injOn node hMaps hInj
  rwa [Finset.card_range, Finset.card_range] at hCard

/-- Whatever the chain meets, it meets within as many steps as there are nodes. -/
theorem exists_enclosing?_lt_size (h : t.enclosing? id k = some a) :
    ∃ j ≤ k, j < t.size ∧ t.enclosing? id j = some a := by
  induction k using Nat.strong_induction_on with
  | h k ih =>
    by_cases hFirst : ∀ m < k, t.enclosing? id m ≠ t.enclosing? id k
    · exact ⟨k, Nat.le_refl k, lt_size_of_first h hFirst, h⟩
    · -- met before: the earlier meeting will do
      push Not at hFirst
      obtain ⟨m, hm, hEq⟩ := hFirst
      obtain ⟨j, hj, hSize, hMet⟩ := ih m hm (hEq.trans h)
      exact ⟨j, by omega, hSize, hMet⟩

/-! ## The limited chain -/

theorem chainFrom_eq (limit : Nat) (id : NodeId) :
    t.chainFrom limit (t.parent? id) = (List.range limit).filterMap (t.enclosing? id) := by
  induction limit generalizing id with
  | zero => rfl
  | succ limit ih =>
    rw [List.range_succ_eq_map, List.filterMap_cons, List.filterMap_map]
    have hTail : t.enclosing? id ∘ Nat.succ =
        fun k => (t.outer? id).bind (t.enclosing? · k) := by
      funext k
      exact enclosing?_succ id k
    rw [hTail, enclosing?]
    cases hParent : t.parent? id with
    | none => simp [chainFrom, outer?, hParent]
    | some p =>
      cases hNode : t.get? p with
      | none =>
        -- a link that leads nowhere ends both
        have hOuter : t.outer? id = none := by simp [outer?, hParent, hNode]
        simp [chainFrom, hNode, hOuter]
      | some node =>
        have hOuter : t.outer? id = some p := by simp [outer?, hParent, hNode]
        simp only [chainFrom, hNode, hOuter, Option.bind_some]
        rw [← parent?_of_get? hNode, ih p]

/-- The ancestors are the members of the chain up to the limit. -/
theorem ancestors_eq (t : Tree) (id : NodeId) :
    t.ancestors id = (List.range t.size).filterMap (t.enclosing? id) :=
  chainFrom_eq t.size id

@[simp] theorem ancestors_setPayload (x : NodeId) (payload : Payload) :
    (t.setPayload x payload).ancestors id = t.ancestors id := by
  rw [ancestors_eq, ancestors_eq, size_setPayload]
  exact List.filterMap_congr fun k _ => enclosing?_setPayload x payload

/-- The limited chain meets every node that the chain without limit meets. -/
theorem mem_ancestors_iff : a ∈ t.ancestors id ↔ ∃ k, t.enclosing? id k = some a := by
  rw [ancestors_eq, List.mem_filterMap]
  constructor
  · rintro ⟨k, -, hk⟩
    exact ⟨k, hk⟩
  · rintro ⟨k, hk⟩
    obtain ⟨j, -, hj, hMet⟩ := exists_enclosing?_lt_size hk
    exact ⟨j, List.mem_range.mpr hj, hMet⟩

/-- The nearest enclosing node of a kind is the first of that kind on the chain without limit. -/
theorem nearestOfKind?_eq_some_iff {kind : Kind} :
    t.nearestOfKind? id kind = some a ↔
      ∃ k, t.enclosing? id k = some a ∧ t.kind? a = some kind ∧
        ∀ j < k, ∀ b, t.enclosing? id j = some b → t.kind? b ≠ some kind := by
  rw [nearestOfKind?, ancestors_eq, List.find?_filterMap]
  simp only [Option.bind_eq_some_iff, List.find?_range_eq_some]
  constructor
  · rintro ⟨k, ⟨hKind, -, hBefore⟩, hk⟩
    refine ⟨k, hk, by simpa [hk] using hKind, ?_⟩
    intro j hj b hb
    simpa [hb] using hBefore j hj
  · rintro ⟨k, hk, hKind, hBefore⟩
    obtain ⟨j, hj, hSize, hMet⟩ := exists_enclosing?_lt_size hk
    -- the first meeting cannot come before the `k`-th member, which is the first of its kind
    have hjk : j = k := by
      by_contra hne
      exact hBefore j (by omega) a hMet hKind
    subst hjk
    refine ⟨j, ⟨by simp [hk, hKind], List.mem_range.mpr hSize, ?_⟩, hk⟩
    intro i hi
    cases hb : t.enclosing? id i with
    | none => rfl
    | some b => simpa [hb] using hBefore i hi b hb

theorem nearestOfKind?_eq_none_iff {kind : Kind} :
    t.nearestOfKind? id kind = none ↔
      ∀ k a, t.enclosing? id k = some a → t.kind? a ≠ some kind := by
  rw [nearestOfKind?, List.find?_eq_none]
  simp only [mem_ancestors_iff, beq_iff_eq]
  constructor
  · intro h k a hk
    exact h a ⟨k, hk⟩
  · rintro h a ⟨k, hk⟩
    exact h k a hk

theorem elementName?_eq_some_iff {name : String} :
    t.elementName? id = some name ↔
      ∃ attributes, t.payload? id = some (.jsxElement (some name) attributes) := by
  unfold elementName?
  split
  · rename_i tag attributes h
    simp [h]
  · rename_i h
    simp_all

theorem isInside_iff {name : String} :
    t.isInside id name = true ↔
      ∃ k a attributes, t.enclosing? id k = some a ∧
        t.payload? a = some (.jsxElement (some name) attributes) := by
  rw [isInside, List.any_eq_true]
  simp only [mem_ancestors_iff, beq_iff_eq, elementName?_eq_some_iff]
  constructor
  · rintro ⟨a, ⟨k, hk⟩, attributes, hElement⟩
    exact ⟨k, a, attributes, hk, hElement⟩
  · rintro ⟨k, a, attributes, hk, hElement⟩
    exact ⟨a, ⟨k, hk⟩, attributes, hElement⟩

/-! ## Chains that come to an end -/

/-- The chain of enclosing nodes comes to an end. -/
def ChainEnds (t : Tree) (id : NodeId) : Prop := ∃ n, t.enclosing? id n = none

/-- A chain that comes back to a node goes round for ever. -/
theorem isSome_enclosing?_of_repeat (hij : i < j)
    (hEq : t.enclosing? id i = t.enclosing? id j) (hj : (t.enclosing? id j).isSome) (n : Nat) :
    (t.enclosing? id n).isSome := by
  induction n using Nat.strong_induction_on with
  | h n ih =>
    rcases Nat.le_total n j with hn | hn
    · exact isSome_enclosing?_of_le hj hn
    · -- one round back, the chain was at the same node
      have hBack := enclosing?_add hEq (n - j)
      rw [Nat.add_sub_cancel' hn] at hBack
      rw [← hBack]
      exact ih _ (by omega)

/-- A chain that comes to an end meets each of its nodes once. -/
theorem ChainEnds.ne_of_lt (h : t.ChainEnds id) (hij : i < j) (hj : (t.enclosing? id j).isSome) :
    t.enclosing? id i ≠ t.enclosing? id j := by
  intro hEq
  obtain ⟨n, hn⟩ := h
  have hSome := isSome_enclosing?_of_repeat hij hEq hj n
  rw [hn] at hSome
  cases hSome

/-- So it ends within the limit. -/
theorem ChainEnds.enclosing?_size (h : t.ChainEnds id) : t.enclosing? id t.size = none := by
  cases hSize : t.enclosing? id t.size with
  | none => rfl
  | some a =>
    obtain ⟨j, -, hj, hMet⟩ := exists_enclosing?_lt_size hSize
    exact absurd (hMet.trans hSize.symm) (h.ne_of_lt hj (by rw [hSize]; rfl))

/-- A limit at which the chain is over by itself cuts off nothing. -/
theorem getElem?_chainFrom {limit : Nat} (hEnd : t.enclosing? id limit = none) (k : Nat) :
    (t.chainFrom limit (t.parent? id))[k]? = t.enclosing? id k := by
  -- along the chain: each member takes one step off the limit
  induction limit generalizing id k with
  | zero => simp [chainFrom, enclosing?_eq_none_of_le hEnd (Nat.zero_le k)]
  | succ limit ih =>
    cases hOuter : t.outer? id with
    | none =>
      have hNone : ∀ m, t.enclosing? id m = none := fun m =>
        enclosing?_eq_none_of_le (i := 0) hOuter (Nat.zero_le m)
      rw [chainFrom_eq, hNone]
      simp [hNone]
    | some p =>
      rw [enclosing?_succ, hOuter, Option.bind_some] at hEnd
      obtain ⟨hParent, hGet⟩ := Option.filter_eq_some_iff.mp hOuter
      obtain ⟨node, hNode⟩ := Option.isSome_iff_exists.mp hGet
      have hStep : t.chainFrom (limit + 1) (t.parent? id) = p :: t.chainFrom limit (t.parent? p) := by
        simp only [hParent, chainFrom, hNode, parent?_of_get? hNode]
      rw [hStep]
      cases k with
      | zero => exact hOuter.symm
      | succ k =>
        rw [List.getElem?_cons_succ, ih hEnd, enclosing?_succ, hOuter, Option.bind_some]

/-- Where the chain comes to an end, the ancestors are the chain, member by member. -/
theorem ChainEnds.getElem?_ancestors (h : t.ChainEnds id) (k : Nat) :
    (t.ancestors id)[k]? = t.enclosing? id k :=
  getElem?_chainFrom h.enclosing?_size k

theorem ChainEnds.nodup_ancestors (h : t.ChainEnds id) : (t.ancestors id).Nodup := by
  rw [List.nodup_iff_getElem?_ne_getElem?]
  intro i j hij hj
  rw [h.getElem?_ancestors, h.getElem?_ancestors]
  apply h.ne_of_lt hij
  rw [← h.getElem?_ancestors, List.getElem?_eq_getElem hj]
  rfl

/-! ## The queries -/

/-- The limit never changes an answer, whatever the parent links. The nearest enclosing node of a
kind is the first on the chain without limit, and there is none exactly if the chain, finite or not,
has no node of that kind. A node is inside an element of a name exactly if such an element is on the
chain. A chain that comes to an end is listed in full, nearest first and without repetition. -/
theorem ancestor_queries_unlimited (t : Tree) (id : NodeId) :
    (∀ kind a, t.nearestOfKind? id kind = some a ↔
      ∃ k, t.enclosing? id k = some a ∧ t.kind? a = some kind ∧
        ∀ j < k, ∀ b, t.enclosing? id j = some b → t.kind? b ≠ some kind) ∧
    (∀ kind, t.nearestOfKind? id kind = none ↔
      ∀ k a, t.enclosing? id k = some a → t.kind? a ≠ some kind) ∧
    (∀ name, t.isInside id name = true ↔
      ∃ k a attributes, t.enclosing? id k = some a ∧
        t.payload? a = some (.jsxElement (some name) attributes)) ∧
    (t.ChainEnds id →
      (∀ k, (t.ancestors id)[k]? = t.enclosing? id k) ∧ (t.ancestors id).Nodup) := by
  refine ⟨?_, ?_, ?_, ?_⟩
  · intro kind a
    exact nearestOfKind?_eq_some_iff
  · intro kind
    exact nearestOfKind?_eq_none_iff
  · intro name
    exact isInside_iff
  · intro hEnds
    exact ⟨hEnds.getElem?_ancestors, hEnds.nodup_ancestors⟩

/-- Two nodes that are each other's parents, and a text below a node whose parent does not exist. -/
def parentLoop : Tree :=
  (((empty.push .program (some 1) ⟨1, 1⟩).push (.jsxElement (some "Trans") []) (some 0)
    ⟨1, 1⟩).push .member (some 9) ⟨1, 2⟩).push (.jsxText "Hi") (some 2) ⟨1, 3⟩

/-- In a loop the last node within the limit is found; beside it a chain ends at a missing node. -/
theorem parentLoop_queries :
    parentLoop.nearestOfKind? 0 .program = some 0 ∧ parentLoop.isInside 0 "Trans" = true ∧
      parentLoop.ChainEnds 3 ∧ (parentLoop.ancestors 3)[0]? = some 2 ∧
      (parentLoop.ancestors 3).Nodup := by
  have hLoop := ancestor_queries_unlimited parentLoop 0
  have hEnding := ancestor_queries_unlimited parentLoop 3
  have hEnds : parentLoop.ChainEnds 3 := ⟨1, by decide⟩
  have hChain := hEnding.2.2.2 hEnds
  refine ⟨?_, ?_, hEnds, ?_, hChain.2⟩
  · rw [hLoop.1]
    refine ⟨1, by decide, by decide, ?_⟩
    intro j hj b hb
    obtain rfl : j = 0 := by omega
    obtain rfl : 1 = b := Option.some.inj ((show parentLoop.enclosing? 0 0 = some 1 by
      decide).symm.trans hb)
    decide
  · rw [hLoop.2.2.1]
    exact ⟨0, 1, [], by decide, by decide⟩
  · rw [hChain.1]
    decide

end MessageLint.Tree
