import MessageLint.Proofs.Check.MessageExpression
import MessageLint.Proofs.Source.Build

/-!
# MessageLint — what the verdict on a template depends on

The verdict on a template looks at few nodes, and `Consulted` lists them: the template, its
expressions, the callees of those that are calls, the enclosing nodes out to the first tagged
template, and the tag of that one. Two trees that agree there give the same verdict, whatever else
they hold and wherever their links lead.

* `nearestOfKind?_congr`, `classifyExpression_congr`, `isMessageTemplate_congr` — the look-ups of
  the rule, each with the nodes it reads.
* `decideTemplate_congr` — the verdict, with the nodes it reads.
* `Elsewhere.not_consulted` — in a tree with the links of a program, nothing outside the nearest
  tagged template, nothing in the arguments of a call and nothing in a sibling is read.
* `toTree_orderly` — the trees of programs have such links.
* `decideTemplate_setPayload` — replacing the payload of a node that is not read changes nothing.
-/

namespace MessageLint

/-! ## Look-ups in two trees -/

namespace Tree

variable {t t' : Tree} {id : NodeId}

/-- The search for the nearest node of a kind reads the chain out to the first such node. -/
theorem nearestOfKind?_congr {kind : Kind} (hChain : ∀ k, t'.enclosing? id k = t.enclosing? id k)
    (hKind : ∀ k a, t.enclosing? id k = some a →
      (∀ j < k, ∀ b, t.enclosing? id j = some b → t.kind? b ≠ some kind) →
      t'.kind? a = t.kind? a) :
    t'.nearestOfKind? id kind = t.nearestOfKind? id kind := by
  cases hNear : t.nearestOfKind? id kind with
  | none =>
    -- no node of the kind is met, so the whole chain is read
    have hNone := nearestOfKind?_eq_none_iff.mp hNear
    rw [nearestOfKind?_eq_none_iff]
    intro k a hk
    rw [hChain] at hk
    rw [hKind k a hk fun j _ b hb => hNone j b hb]
    exact hNone k a hk
  | some tagged =>
    obtain ⟨k, hk, hHere, hBefore⟩ := nearestOfKind?_eq_some_iff.mp hNear
    rw [nearestOfKind?_eq_some_iff]
    refine ⟨k, (hChain k).trans hk, (hKind k tagged hk hBefore).trans hHere, ?_⟩
    intro j hj b hb
    rw [hChain] at hb
    rw [hKind j b hb fun i hi c hc => hBefore i (Nat.lt_trans hi hj) c hc]
    exact hBefore j hj b hb

theorem kind?_congr (h : t'.payload? id = t.payload? id) : t'.kind? id = t.kind? id := by
  rw [kind?, kind?, h]

theorem identifierName?_congr (h : t'.payload? id = t.payload? id) :
    t'.identifierName? id = t.identifierName? id := by
  rw [identifierName?, identifierName?, h]

/-- Whether a tagged template is a message is read off the node and its tag. -/
theorem isMessageTemplate_congr (h : t'.payload? id = t.payload? id)
    (hTag : ∀ tag quoted, t.payload? id = some (.taggedTemplate (some tag) quoted) →
      t'.payload? tag = t.payload? tag) :
    t'.isMessageTemplate id = t.isMessageTemplate id := by
  unfold isMessageTemplate
  rw [h]
  split
  · rename_i tag quoted hPayload
    rw [identifierName?_congr (hTag tag quoted hPayload)]
  · rfl

end Tree

namespace Check

variable {t t' : Tree} {id e x : NodeId}

/-- The class of an expression is read off the node and, if it is a call, its callee. -/
theorem classifyExpression_congr (h : t'.payload? e = t.payload? e)
    (hCallee : ∀ callee arguments, t.payload? e = some (.call (some callee) arguments) →
      t'.payload? callee = t.payload? callee) :
    classifyExpression t' e = classifyExpression t e := by
  have hName : t'.calleeName? e = t.calleeName? e := by
    unfold Tree.calleeName?
    rw [h]
    split
    · rename_i callee arguments hCall
      exact Tree.identifierName?_congr (hCallee callee arguments hCall)
    · rfl
  have hChoice : t'.isChoiceCall e = t.isChoiceCall e := by
    rw [Tree.isChoiceCall, Tree.isChoiceCall, hName]
  rw [classifyExpression, classifyExpression, h, hChoice]

/-! ## The nodes that are read -/

/-- None of the first `k` enclosing nodes is a tagged template. -/
def UntaggedBefore (t : Tree) (id : NodeId) (k : Nat) : Prop :=
  ∀ j < k, ∀ b, t.enclosing? id j = some b → t.kind? b ≠ some .taggedTemplate

/-- The nodes that the verdict on a template can depend on. The enclosing nodes count out to the
nearest tagged template, which is one of them, and all of them if there is none. -/
inductive Consulted (t : Tree) (id : NodeId) : NodeId → Prop where
  | self : Consulted t id id
  | expression {quasis : List (Option String)} {expressions : List NodeId} {e : NodeId}
      (hTemplate : t.payload? id = some (.template quasis expressions)) (he : e ∈ expressions) :
      Consulted t id e
  | callee {quasis : List (Option String)} {expressions arguments : List NodeId}
      {e callee : NodeId} (hTemplate : t.payload? id = some (.template quasis expressions))
      (he : e ∈ expressions) (hCall : t.payload? e = some (.call (some callee) arguments)) :
      Consulted t id callee
  | enclosing {k : Nat} {a : NodeId} (ha : t.enclosing? id k = some a)
      (hFirst : UntaggedBefore t id k) : Consulted t id a
  | tag {k : Nat} {tagged tag : NodeId} {quoted : Option NodeId}
      (hTagged : t.enclosing? id k = some tagged) (hFirst : UntaggedBefore t id k)
      (hPayload : t.payload? tagged = some (.taggedTemplate (some tag) quoted)) :
      Consulted t id tag

/-- Two trees in which a template has the same enclosing nodes and in which the consulted nodes have
the same payloads give the same verdict on it. -/
theorem decideTemplate_congr (hChain : ∀ k, t'.enclosing? id k = t.enclosing? id k)
    (h : ∀ x, Consulted t id x → t'.payload? x = t.payload? x) :
    decideTemplate t' id = decideTemplate t id := by
  have hNear : t'.nearestOfKind? id .taggedTemplate = t.nearestOfKind? id .taggedTemplate :=
    Tree.nearestOfKind?_congr hChain fun k a ha hFirst =>
      Tree.kind?_congr (h a (.enclosing ha hFirst))
  unfold decideTemplate
  rw [h id .self, hNear]
  split
  · rename_i quasis expressions hTemplate
    -- the expressions are classified alike
    have hAny : (expressions.any fun e => classifyExpression t' e == .forbidden) =
        expressions.any fun e => classifyExpression t e == .forbidden := by
      rw [Bool.eq_iff_iff, List.any_eq_true, List.any_eq_true]
      refine exists_congr fun e => and_congr_right fun he => ?_
      rw [classifyExpression_congr (h e (.expression hTemplate he)) fun callee arguments hCall =>
        h callee (.callee hTemplate he hCall)]
    rw [hAny]
    -- and the nearest tagged template has the same tag
    cases hTagged : t.nearestOfKind? id .taggedTemplate with
    | none => rfl
    | some tagged =>
      obtain ⟨k, hk, -, hFirst⟩ := Tree.nearestOfKind?_eq_some_iff.mp hTagged
      have hMessage : t'.isMessageTemplate tagged = t.isMessageTemplate tagged :=
        Tree.isMessageTemplate_congr (h tagged (.enclosing hk hFirst)) fun tag quoted hPayload =>
          h tag (.tag hk hFirst hPayload)
      simp only [hMessage]
  · rfl

end Check

/-! ## Trees with the links of a program -/

namespace Tree

/-- The links of a tree that was made from a program: a parent comes before its children, and the
links of a payload lead to children of its node, in their order. -/
structure Orderly (t : Tree) : Prop where
  outward : ∀ {id p : NodeId}, t.parent? id = some p → p < id
  inward : ∀ {id : NodeId} {payload : Payload}, t.payload? id = some payload →
    ∀ link ∈ payload.links, link ∈ t.children id
  increasing : ∀ {id : NodeId} {payload : Payload}, t.payload? id = some payload →
    payload.links.Pairwise (· < ·)

variable {t : Tree} {id a b p c : NodeId} {i j k : Nat}

namespace Orderly

theorem lt_of_mem (ho : t.Orderly) (hl : t.Linked) (hc : c ∈ t.children p) : p < c :=
  ho.outward (hl.parent?_of_mem hc)

theorem parent?_ne_self (ho : t.Orderly) (id : NodeId) : t.parent? id ≠ some id :=
  fun h => Nat.lt_irrefl id (ho.outward h)

/-- Every parent link that leads somewhere is answered by a child link. -/
theorem mem_children_of_outer? (ho : t.Orderly) (hl : t.Linked) (h : t.outer? id = some p) :
    id ∈ t.children p := by
  rw [outer?, Option.filter_eq_some_iff] at h
  exact hl.mem_children_iff.mpr ⟨h.1, Nat.le_of_lt (ho.outward h.1)⟩

/-- Of two enclosing nodes the outer one is above the inner one. -/
theorem descends_of_le (ho : t.Orderly) (hl : t.Linked) (hi : t.enclosing? id i = some a)
    (hj : t.enclosing? id j = some b) (hij : i ≤ j) : t.Descends b a := by
  induction j, hij using Nat.le_induction generalizing b with
  | base =>
    obtain rfl : a = b := Option.some.inj (hi.symm.trans hj)
    exact .refl t a
  | succ j _ ih =>
    obtain ⟨c, hc, hOuter⟩ := Option.bind_eq_some_iff.mp hj
    exact .head (ho.mem_children_of_outer? hl hOuter) (ih hc)

/-- An enclosing node has the node below it. -/
theorem below_of_enclosing? (ho : t.Orderly) (hl : t.Linked) (h : t.enclosing? id k = some a) :
    t.Below a id := by
  cases hOuter : t.enclosing? id 0 with
  | none =>
    rw [enclosing?_eq_none_of_le hOuter (Nat.zero_le k)] at h
    cases h
  | some p =>
    have hChild : id ∈ t.children p := ho.mem_children_of_outer? hl hOuter
    have hDown : t.Descends a p := ho.descends_of_le hl hOuter h (Nat.zero_le k)
    -- the first step down from the outer node leads to the next one on the chain, or to the node
    rcases descends_iff.mp hDown with rfl | ⟨c, hc, hRest⟩
    · exact ⟨id, hChild, .refl t id⟩
    · exact ⟨c, hc, hRest.tail hChild⟩

end Orderly

end Tree

namespace Check

variable {t : Tree} {id x : NodeId}

/-- Places beside what the verdict on a template is about: outside its nearest tagged template, in
an argument of a call that it embeds, and in a node beside it. The tag of a tagged template stands
beside its template, and is the one such node that counts. -/
inductive Elsewhere (t : Tree) (id x : NodeId) : Prop where
  | outside {tagged : NodeId} (hTagged : t.nearestOfKind? id .taggedTemplate = some tagged)
      (hx : ¬ t.Descends tagged x)
  | argument {quasis : List (Option String)} {expressions arguments : List NodeId}
      {callee : Option NodeId} {e a : NodeId}
      (hTemplate : t.payload? id = some (.template quasis expressions)) (he : e ∈ expressions)
      (hCall : t.payload? e = some (.call callee arguments)) (ha : a ∈ arguments)
      (hx : t.Descends a x)
  | sibling {p s : NodeId} (hId : id ∈ t.children p) (hs : s ∈ t.children p) (hne : s ≠ id)
      (hx : t.Descends s x)
      (hTag : x = s → ∀ quoted, t.payload? p ≠ some (.taggedTemplate (some x) quoted))

/-- Where a consulted node stands: in the template, around it out to the nearest tagged template, or
as the tag of that one. -/
theorem Consulted.place (ho : t.Orderly) (h : Consulted t id x) :
    t.Descends id x ∨ (∃ k, t.enclosing? id k = some x ∧ UntaggedBefore t id k) ∨
      ∃ k tagged quoted, t.enclosing? id k = some tagged ∧ UntaggedBefore t id k ∧
        t.payload? tagged = some (.taggedTemplate (some x) quoted) ∧ x ∈ t.children tagged := by
  cases h with
  | self => exact Or.inl (.refl t id)
  | expression hTemplate he => exact Or.inl (.single (ho.inward hTemplate x he))
  | @callee _ expressions _ e _ hTemplate he hCall =>
    have hExpression : e ∈ t.children id := ho.inward hTemplate e he
    have hCallee : x ∈ t.children e := ho.inward hCall x (by simp [Payload.links])
    exact Or.inl (.head hExpression (.single hCallee))
  | @enclosing k _ ha hFirst => exact Or.inr (Or.inl ⟨k, ha, hFirst⟩)
  | @tag k tagged _ quoted hTagged hFirst hPayload =>
    have hChild : x ∈ t.children tagged := ho.inward hPayload x (by simp [Payload.links])
    exact Or.inr (Or.inr ⟨k, tagged, quoted, hTagged, hFirst, hPayload, hChild⟩)

section Orderly

variable (hl : t.Linked) (ho : t.Orderly)

include hl ho

/-- Whatever is consulted is the nearest tagged template or lies below it. -/
theorem Consulted.descends_of_nearest {tagged : NodeId} (h : Consulted t id x)
    (hTagged : t.nearestOfKind? id .taggedTemplate = some tagged) : t.Descends tagged x := by
  obtain ⟨k, hk, hKind, hBefore⟩ := Tree.nearestOfKind?_eq_some_iff.mp hTagged
  -- no consulted enclosing node lies beyond the nearest tagged template
  have hWithin : ∀ i, UntaggedBefore t id i → i ≤ k := by
    intro i hFirst
    by_contra hLater
    exact hFirst k (Nat.lt_of_not_le hLater) tagged hk hKind
  rcases h.place ho with hDown | ⟨i, hi, hFirst⟩ | ⟨i, other, quoted, hi, hFirst, hPayload, hChild⟩
  · have hAbove : t.Descends tagged id := (ho.below_of_enclosing? hl hk).descends
    exact hAbove.trans hDown
  · exact ho.descends_of_le hl hi hk (hWithin i hFirst)
  · -- the tag belongs to the nearest tagged template itself
    have hSame : i = k := by
      refine Nat.le_antisymm (hWithin i hFirst) ?_
      by_contra hEarlier
      exact hBefore i (Nat.lt_of_not_le hEarlier) other hi (Tree.kind?_of_payload? hPayload)
    subst hSame
    obtain rfl : other = tagged := Option.some.inj (hi.symm.trans hk)
    exact .single hChild

/-- Nothing in the arguments of an embedded call is consulted: only its callee hangs as high. -/
theorem not_consulted_of_argument {quasis : List (Option String)}
    {expressions arguments : List NodeId} {callee : Option NodeId} {e a : NodeId}
    (hTemplate : t.payload? id = some (.template quasis expressions)) (he : e ∈ expressions)
    (hCall : t.payload? e = some (.call callee arguments)) (ha : a ∈ arguments)
    (hx : t.Descends a x) : ¬ Consulted t id x := by
  have hExpression : e ∈ t.children id := ho.inward hTemplate e he
  have hArgument : a ∈ t.children e := ho.inward hCall a (List.mem_append_right _ ha)
  have hIdLt : id < e := ho.lt_of_mem hl hExpression
  have hLt : id < a := Nat.lt_trans hIdLt (ho.lt_of_mem hl hArgument)
  have hLe : a ≤ x := Tree.descends_le hl hx
  -- a node with `a` above it is `a` itself or has `a` above its parent
  have hUp : ∀ {y p : NodeId}, t.Descends a y → y ∈ t.children p →
      p = e ∧ y = a ∨ t.Descends a p := by
    intro y p hy hp
    by_cases hEq : a = y
    · subst hEq
      exact Or.inl ⟨hl.parent_unique hp hArgument, rfl⟩
    · exact Or.inr (Tree.descends_parent hl hy hEq hp)
  -- so `a` is above no expression of the template
  have hNone : ∀ y ∈ t.children id, ¬ t.Descends a y := by
    intro y hy hDown
    rcases hUp hDown hy with ⟨hEq, -⟩ | hAbove
    · exact Nat.ne_of_lt hIdLt hEq
    · exact Nat.not_le_of_gt hLt (Tree.descends_le hl hAbove)
  intro hConsulted
  cases hConsulted with
  | self => exact Nat.not_le_of_gt hLt hLe
  | expression hTemplate' he' => exact hNone x (ho.inward hTemplate' x he') hx
  | @callee _ _ others e' _ hTemplate' he' hCall' =>
    have hCallee : x ∈ t.children e' := ho.inward hCall' x (by simp [Payload.links])
    rcases hUp hx hCallee with ⟨rfl, rfl⟩ | hAbove
    · -- the callee of the call comes before its arguments
      have hSame := Payload.call.inj (Option.some.inj (hCall.symm.trans hCall'))
      have hOrder : (x :: others).Pairwise (· < ·) := ho.increasing hCall'
      have hAmong : x ∈ others := hSame.2 ▸ ha
      exact Nat.lt_irrefl x ((List.pairwise_cons.mp hOrder).1 x hAmong)
    · exact hNone e' (ho.inward hTemplate' e' he') hAbove
  | enclosing hEnclosing _ =>
    have hBefore : x < id :=
      Tree.below_lt hl (ho.parent?_ne_self x) (ho.below_of_enclosing? hl hEnclosing)
    exact Nat.not_le_of_gt (Nat.lt_trans hBefore hLt) hLe
  | @tag _ tagged _ _ hTagged _ hPayload =>
    have hChild : x ∈ t.children tagged := ho.inward hPayload x (by simp [Payload.links])
    have hBefore : tagged < id :=
      Tree.below_lt hl (ho.parent?_ne_self tagged) (ho.below_of_enclosing? hl hTagged)
    rcases hUp hx hChild with ⟨hEq, -⟩ | hAbove
    · exact Nat.ne_of_lt (Nat.lt_trans hBefore hIdLt) hEq
    · exact Nat.not_le_of_gt (Nat.lt_trans hBefore hLt) (Tree.descends_le hl hAbove)

/-- Nothing in a node beside the template is consulted, but the tag where that is the node. -/
theorem not_consulted_of_sibling {p s : NodeId} (hId : id ∈ t.children p) (hs : s ∈ t.children p)
    (hne : s ≠ id) (hx : t.Descends s x)
    (hTag : x = s → ∀ quoted, t.payload? p ≠ some (.taggedTemplate (some x) quoted)) :
    ¬ Consulted t id x := by
  have hRoot : t.parent? p ≠ some p := ho.parent?_ne_self p
  have hApart : ¬ t.Descends s id := Tree.not_descends_of_siblings hl hRoot hs hId hne
  have hApart' : ¬ t.Descends id s := Tree.not_descends_of_siblings hl hRoot hId hs hne.symm
  intro hConsulted
  rcases hConsulted.place ho with hDown | ⟨k, hk, -⟩ | ⟨k, tagged, quoted, hk, -, hPayload, hChild⟩
  · -- a common node below both would put one above the other
    rcases Tree.descends_comparable hl hx hDown with hAbove | hAbove
    · exact hApart hAbove
    · exact hApart' hAbove
  · exact hApart (hx.trans (ho.below_of_enclosing? hl hk).descends)
  · by_cases hEq : x = s
    · have hParent : tagged = p := hl.parent_unique hChild (hEq ▸ hs)
      exact hTag hEq quoted (hParent ▸ hPayload)
    · have hAbove : t.Descends s tagged := Tree.descends_parent hl hx (Ne.symm hEq) hChild
      exact hApart (hAbove.trans (ho.below_of_enclosing? hl hk).descends)

/-- In a tree with the links of a program, no node elsewhere is consulted. -/
theorem Elsewhere.not_consulted (h : Elsewhere t id x) : ¬ Consulted t id x := by
  cases h with
  | outside hTagged hx =>
    intro hConsulted
    exact hx (hConsulted.descends_of_nearest hl ho hTagged)
  | argument hTemplate he hCall ha hx =>
    exact not_consulted_of_argument hl ho hTemplate he hCall ha hx
  | sibling hId hs hne hx hTag => exact not_consulted_of_sibling hl ho hId hs hne hx hTag

end Orderly

end Check

/-! ## The trees of programs -/

namespace Source

/-- The tree of every program has orderly links. -/
theorem Outline.toTree_orderly (locate : Nat → Position) (o : Outline) :
    (o.toTree locate).Orderly := by
  have hAdds := o.build_adds locate
  have hLinked := (o.toTree_built locate).linked
  -- the links of a node are among its children, in their order
  have hLinks : ∀ {id : NodeId} {payload : Payload},
      (o.toTree locate).payload? id = some payload →
        payload.links.Sublist ((o.toTree locate).children id) := by
    intro id payload hPayload
    obtain ⟨node, hNode, rfl⟩ := Option.map_eq_some_iff.mp hPayload
    obtain ⟨piece, -, hShown⟩ := o.shown_of_get? locate hNode
    obtain ⟨_, hSublist, -⟩ := hShown.payload.links ⟨List.nil_sublist _, .nil _⟩
    rwa [← Tree.children_of_get? hNode] at hSublist
  refine ⟨?_, ?_, ?_⟩
  · intro id p hParent
    have hLt : id < (o.toTree locate).size := Tree.lt_size_of_parent? hParent
    -- the root hangs nowhere, and every other node below an earlier one
    rcases hAdds.outer id (Nat.zero_le id) hLt with ⟨-, hHead⟩ | ⟨q, hq, -, hLess⟩
    · rw [show (o.build locate).tree.parent? id = some p from hParent] at hHead
      cases hHead
    · obtain rfl : q = p := Option.some.inj (hq.symm.trans hParent)
      exact hLess
  · intro id payload hPayload link hLink
    exact (hLinks hPayload).subset hLink
  · intro id payload hPayload
    exact (hLinked.increasing id).sublist (hLinks hPayload)

end Source

/-! ## The verdict -/

namespace Check

/-- Replacing the payload of a node that is not consulted leaves the verdict on a template as it is,
in every tree and wherever its links lead. In a tree with the links of a program this covers all
nodes outside the nearest tagged template, in the arguments of embedded calls and in the siblings of
the template. -/
theorem decideTemplate_setPayload (t : Tree) (id x : NodeId) (payload : Payload) :
    (¬ Consulted t id x → decideTemplate (t.setPayload x payload) id = decideTemplate t id) ∧
    (t.Built → t.Orderly → Elsewhere t id x →
      decideTemplate (t.setPayload x payload) id = decideTemplate t id) := by
  have hKept : ¬ Consulted t id x →
      decideTemplate (t.setPayload x payload) id = decideTemplate t id := by
    intro hx
    refine decideTemplate_congr (fun k => Tree.enclosing?_setPayload x payload) ?_
    intro y hy
    have hne : y ≠ x := by
      rintro rfl
      exact hx hy
    rw [Tree.payload?_setPayload, if_neg hne]
  refine ⟨hKept, ?_⟩
  intro ht ho hElsewhere
  exact hKept (hElsewhere.not_consulted ht.linked ho)

/-- A name, and beside it a message that embeds a choice and a member access:
``x; t`${plural(a.b)} ${c.d}` ``. -/
def choiceInMessage : Tree :=
  (⟨0, [.expr (.identifier 0 "x"), .expr (.tagged 3 (.identifier 3 "t") 4
    [some "", some " ", some ""] [
      .call 7 (some (.identifier 7 "plural")) [.member 14 [.expr (.identifier 14 "a")]],
      .member 22 [.expr (.identifier 22 "c")]])]⟩ : Source.Outline).toTree fun _ => {}

/-- Neither the name outside the message nor the argument of the choice can clear the template, not
even as a tagged template or a forbidden call; another tag or another expression can. -/
theorem choiceInMessage_verdict :
    choiceInMessage.Built ∧ choiceInMessage.Orderly ∧ Elsewhere choiceInMessage 4 1 ∧
      ¬ Consulted choiceInMessage 4 7 ∧
      decideTemplate choiceInMessage 4 = .violation ∧
      decideTemplate (choiceInMessage.setPayload 1 (.taggedTemplate (some 1) (some 4))) 4 =
        .violation ∧
      decideTemplate (choiceInMessage.setPayload 7 (.call none [8])) 4 = .violation ∧
      decideTemplate (choiceInMessage.setPayload 3 (.identifier "css")) 4 = .notAMessage ∧
      decideTemplate (choiceInMessage.setPayload 9 (.identifier "c")) 4 = .clean := by
  have ht : choiceInMessage.Built := Source.Outline.toTree_built _ _
  have ho : choiceInMessage.Orderly := Source.Outline.toTree_orderly _ _
  have hTagged : choiceInMessage.nearestOfKind? 4 .taggedTemplate = some 2 := by decide
  have hOutside : Elsewhere choiceInMessage 4 1 := by
    refine .outside hTagged ?_
    intro hDown
    exact absurd (Tree.descends_le ht.linked hDown) (by decide)
  have hTemplate : choiceInMessage.payload? 4 =
      some (.template [some "", some " ", some ""] [5, 9]) := by decide
  have hCall : choiceInMessage.payload? 5 = some (.call (some 6) [7]) := by decide
  have hArgument : ¬ Consulted choiceInMessage 4 7 :=
    not_consulted_of_argument ht.linked ho hTemplate (by decide) hCall (by decide) (.refl _ 7)
  have hVerdict : decideTemplate choiceInMessage 4 = .violation := by decide
  have hFirst := (decideTemplate_setPayload choiceInMessage 4 1
    (.taggedTemplate (some 1) (some 4))).2 ht ho hOutside
  have hSecond := (decideTemplate_setPayload choiceInMessage 4 7 (.call none [8])).1 hArgument
  exact ⟨ht, ho, hOutside, hArgument, hVerdict, hFirst.trans hVerdict, hSecond.trans hVerdict,
    by decide, by decide⟩

end Check

end MessageLint
