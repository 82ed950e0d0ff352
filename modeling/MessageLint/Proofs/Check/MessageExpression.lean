import MessageLint.Check.MessageExpression
import MessageLint.Proofs.Tree.Ancestors
import MessageLint.Proofs.Tree.Traversal

/-!
# MessageLint — which templates the expression rule reports

The rule is stated here without its loops: `FaultyTemplate` says of a template that it embeds a
forbidden expression and that the first tagged template around it, on the chain of enclosing nodes
without limit, has the tag of a message.

* `classifyExpression_eq_forbidden_iff`, `isMessageTemplate_iff` — the look-ups of the rule, on trees
  whose links need not lead anywhere.
* `decideTemplate_eq_violation_iff` — the verdict is the stated predicate.
* `messageExpression_reports` — the rule reports the reachable faulty templates, in post-order, each
  once, whatever the number of their forbidden expressions.
-/

namespace MessageLint.Check

variable {t : Tree} {id e x : NodeId}

/-! ## The rule without its loops -/

/-- Neither a plain variable nor a plural or select call. A link that leads nowhere is neither. -/
def Forbidden (t : Tree) (e : NodeId) : Prop :=
  (¬ ∃ name, t.payload? e = some (.identifier name)) ∧
  ¬ ∃ callee arguments name, t.payload? e = some (.call (some callee) arguments) ∧
    t.payload? callee = some (.identifier name) ∧ name ∈ ["plural", "select", "selectOrdinal"]

/-- Going outward without limit, one meets a tagged template, and the first has the tag of a
message. -/
def InMessage (t : Tree) (id : NodeId) : Prop :=
  ∃ k tagged, t.enclosing? id k = some tagged ∧
    (∀ j < k, ∀ b, t.enclosing? id j = some b → t.kind? b ≠ some .taggedTemplate) ∧
    ∃ tag quoted name, t.payload? tagged = some (.taggedTemplate (some tag) quoted) ∧
      t.payload? tag = some (.identifier name) ∧ name ∈ ["t", "msg", "defineMessage"]

/-- A template in a message that embeds a forbidden expression. -/
def FaultyTemplate (t : Tree) (id : NodeId) : Prop :=
  ∃ quasis expressions, t.payload? id = some (.template quasis expressions) ∧
    (∃ e ∈ expressions, Forbidden t e) ∧ InMessage t id

/-! ## Look-ups of the rule -/

theorem calleeName?_eq_some_iff {name : String} :
    t.calleeName? id = some name ↔ ∃ callee arguments,
      t.payload? id = some (.call (some callee) arguments) ∧
        t.payload? callee = some (.identifier name) := by
  unfold Tree.calleeName?
  split
  · rename_i callee arguments h
    simp [h, Tree.identifierName?_eq_some_iff]
  · rename_i h
    simp_all

theorem isChoiceCall_iff :
    t.isChoiceCall id = true ↔ ∃ callee arguments name,
      t.payload? id = some (.call (some callee) arguments) ∧
        t.payload? callee = some (.identifier name) ∧
        name ∈ ["plural", "select", "selectOrdinal"] := by
  have hName : t.isChoiceCall id = true ↔
      ∃ name, t.calleeName? id = some name ∧ name ∈ Markup.choiceCalls := by
    unfold Tree.isChoiceCall
    cases t.calleeName? id <;> simp
  rw [hName]
  simp only [calleeName?_eq_some_iff, Markup.choiceCalls]
  constructor
  · rintro ⟨name, ⟨callee, arguments, hCall, hCallee⟩, hMem⟩
    exact ⟨callee, arguments, name, hCall, hCallee, hMem⟩
  · rintro ⟨callee, arguments, name, hCall, hCallee, hMem⟩
    exact ⟨name, ⟨callee, arguments, hCall, hCallee⟩, hMem⟩

theorem classifyExpression_eq_forbidden_iff :
    classifyExpression t e = .forbidden ↔ Forbidden t e := by
  rw [Forbidden, ← isChoiceCall_iff]
  unfold classifyExpression
  split
  · simp_all
  · split <;> simp_all
  · -- neither a name nor a call: forbidden on both sides
    rename_i hIdentifier hCall
    have hNoCall : ¬ t.isChoiceCall e = true := by
      rw [isChoiceCall_iff]
      rintro ⟨callee, arguments, _, hPayload, -⟩
      exact hCall _ _ hPayload
    exact iff_of_true rfl ⟨fun ⟨name, h⟩ => hIdentifier name h, hNoCall⟩

theorem isMessageTemplate_iff :
    t.isMessageTemplate id = true ↔ ∃ tag quoted name,
      t.payload? id = some (.taggedTemplate (some tag) quoted) ∧
        t.payload? tag = some (.identifier name) ∧ name ∈ ["t", "msg", "defineMessage"] := by
  unfold Tree.isMessageTemplate
  split
  · rename_i tag quoted h
    have hTag : ((t.identifierName? tag).map (Markup.messageTags.contains ·)).getD false = true ↔
        ∃ name, t.payload? tag = some (.identifier name) ∧ name ∈ Markup.messageTags := by
      simp only [← Tree.identifierName?_eq_some_iff]
      cases t.identifierName? tag <;> simp
    rw [hTag]
    simp [h, Markup.messageTags]
  · rename_i h
    simp_all

/-! ## The verdict -/

/-- The nearest tagged template decides, and the limit on the search for it loses nothing. -/
theorem inMessage_iff :
    InMessage t id ↔
      ∃ tagged, t.nearestOfKind? id .taggedTemplate = some tagged ∧ t.isMessageTemplate tagged := by
  simp only [InMessage, ← isMessageTemplate_iff, Tree.nearestOfKind?_eq_some_iff]
  constructor
  · rintro ⟨k, tagged, hk, hBefore, hMessage⟩
    obtain ⟨tag, quoted, _, hPayload, -⟩ := isMessageTemplate_iff.mp hMessage
    exact ⟨tagged, ⟨k, hk, Tree.kind?_of_payload? hPayload, hBefore⟩, hMessage⟩
  · rintro ⟨tagged, ⟨k, hk, -, hBefore⟩, hMessage⟩
    exact ⟨k, tagged, hk, hBefore, hMessage⟩

theorem decideTemplate_eq_violation_iff :
    decideTemplate t id = .violation ↔ FaultyTemplate t id := by
  simp only [FaultyTemplate, inMessage_iff, ← classifyExpression_eq_forbidden_iff]
  unfold decideTemplate
  split
  · rename_i quasis expressions h
    by_cases hAny : ∃ e ∈ expressions, classifyExpression t e = .forbidden
    · -- only now the enclosing nodes are looked at
      have hAny' : (expressions.any fun e => classifyExpression t e == .forbidden) = true := by
        simpa using hAny
      rw [if_pos hAny']
      cases hNear : t.nearestOfKind? id .taggedTemplate with
      | none => simp
      | some tagged =>
        simp only [h]
        split <;> simp_all
    · have hAny' : ¬ (expressions.any fun e => classifyExpression t e == .forbidden) = true := by
        simpa using hAny
      rw [if_neg hAny']
      simp_all
  · rename_i h
    simp_all

/-! ## Other payloads in place of a payload -/

section Replaced

variable {old new : Payload}

/-- What an expression is does not depend on nodes that are neither names nor calls. -/
theorem forbidden_replaced (hx : t.payload? x = some old) (hNew : new.kind = old.kind)
    (hName : old.kind ≠ .identifier) (hCall : old.kind ≠ .call) :
    Forbidden (t.setPayload x new) e ↔ Forbidden t e := by
  have hIdentifiers : ∀ id name, (t.setPayload x new).payload? id = some (.identifier name) ↔
      t.payload? id = some (.identifier name) :=
    fun id name => Tree.payload?_setPayload_iff hx hNew hName.symm
  have hCalls : ∀ id callee arguments,
      (t.setPayload x new).payload? id = some (.call callee arguments) ↔
        t.payload? id = some (.call callee arguments) :=
    fun id callee arguments => Tree.payload?_setPayload_iff hx hNew hCall.symm
  simp only [Forbidden, hIdentifiers, hCalls]

/-- Nor does it matter for being in a message what is neither a name nor a tagged template. -/
theorem inMessage_replaced (hx : t.payload? x = some old) (hNew : new.kind = old.kind)
    (hName : old.kind ≠ .identifier) (hTagged : old.kind ≠ .taggedTemplate) :
    InMessage (t.setPayload x new) id ↔ InMessage t id := by
  have hIdentifiers : ∀ id name, (t.setPayload x new).payload? id = some (.identifier name) ↔
      t.payload? id = some (.identifier name) :=
    fun id name => Tree.payload?_setPayload_iff hx hNew hName.symm
  have hTemplates : ∀ id tag quoted,
      (t.setPayload x new).payload? id = some (.taggedTemplate tag quoted) ↔
        t.payload? id = some (.taggedTemplate tag quoted) :=
    fun id tag quoted => Tree.payload?_setPayload_iff hx hNew hTagged.symm
  simp only [InMessage, Tree.enclosing?_setPayload, Tree.kind?_setPayload hx hNew, hTemplates,
    hIdentifiers]

variable {quasis quasis' : List (Option String)} {expressions expressions' : List NodeId}

/-- As long as some expression of the template is forbidden before and after, the same templates are
faulty. -/
theorem faultyTemplate_replaced (hx : t.payload? x = some (.template quasis expressions))
    (hOld : ∃ e ∈ expressions, Forbidden t e) (hNew : ∃ e ∈ expressions', Forbidden t e) :
    FaultyTemplate (t.setPayload x (.template quasis' expressions')) id ↔ FaultyTemplate t id := by
  have hForbidden : ∀ e, Forbidden (t.setPayload x (.template quasis' expressions')) e ↔
      Forbidden t e :=
    fun e => forbidden_replaced hx rfl (by simp [Payload.kind]) (by simp [Payload.kind])
  have hMessage : InMessage (t.setPayload x (.template quasis' expressions')) id ↔
      InMessage t id :=
    inMessage_replaced hx rfl (by simp [Payload.kind]) (by simp [Payload.kind])
  simp only [FaultyTemplate, hForbidden, hMessage, Tree.payload?_setPayload]
  by_cases hId : id = x
  · subst hId
    simp [hx, hOld, hNew]
  · simp [hId]

end Replaced

/-! ## What is reported -/

/-- The pass with the rule alone reports, in post-order, the templates with a violation. -/
theorem traverse?_messageExpression {events : List Event} (hl : t.Linked)
    (h0 : t.parent? 0 ≠ some 0) (h : t.Walk t.root?.toList events) :
    t.traverse? [messageExpression t] =
      some (((Tree.met .exit events).filter (decideTemplate t · = .violation)).map
        (t.report · .disallowedExpression)) := by
  rw [Tree.traverse?_one hl h0 h .template .exit rfl, Option.some.injEq]
  induction Tree.met .exit events with
  | nil => rfl
  | cons id ids ih =>
    by_cases hFault : decideTemplate t id = .violation
    · obtain ⟨quasis, expressions, hPayload, -⟩ := decideTemplate_eq_violation_iff.mp hFault
      have hKind : t.kind? id = some .template := Tree.kind?_of_payload? hPayload
      simpa [hKind, hFault, messageExpression] using ih
    · by_cases hKind : t.kind? id = some .template
      · simpa [hKind, hFault, messageExpression] using ih
      · simpa [hKind, hFault] using ih

/-- Over a tree whose root is not its own parent, the rule reports the reachable faulty templates:
each once, in the order in which the recursive walk leaves them, at its stored position, and
nothing else. Exchanging the expressions of a template for others, of which at least one is forbidden
as before, changes nothing. -/
theorem messageExpression_reports (ht : t.Built) (h0 : t.parent? 0 ≠ some 0) :
    ∃ (events : List Event) (templates : List NodeId),
      t.Walk t.root?.toList events ∧
      t.traverse? [messageExpression t] =
        some (templates.map fun id => ⟨id, t.position id, .disallowedExpression⟩) ∧
      templates.Sublist (Tree.met .exit events) ∧ templates.Nodup ∧
      (∀ id, id ∈ templates ↔ t.Reachable id ∧ FaultyTemplate t id) ∧
      (∀ id ∈ templates, ∃ node, t.get? id = some node ∧ t.position id = node.position) ∧
      ∀ x quasis expressions quasis' expressions',
        t.payload? x = some (.template quasis expressions) →
        (∃ e ∈ expressions, Forbidden t e) → (∃ e ∈ expressions', Forbidden t e) →
        (t.setPayload x (.template quasis' expressions')).traverse?
            [messageExpression (t.setPayload x (.template quasis' expressions'))] =
          t.traverse? [messageExpression t] := by
  have hl := ht.linked
  obtain ⟨events, hWalk⟩ := Tree.exists_rootWalk hl h0
  have hNodup := Tree.nodup_met (hWalk.nodup hl (Tree.apart_root h0)) .exit
  refine ⟨events, (Tree.met .exit events).filter (decideTemplate t · = .violation), hWalk,
    traverse?_messageExpression hl h0 hWalk, List.filter_sublist, hNodup.filter _, ?_, ?_, ?_⟩
  · intro id
    simp [Tree.mem_met, hWalk.mem_root_iff, decideTemplate_eq_violation_iff]
  · intro id hMem
    have hFault := (List.mem_filter.mp hMem).2
    simp only [decide_eq_true_eq, decideTemplate_eq_violation_iff] at hFault
    obtain ⟨quasis, expressions, hPayload, -⟩ := hFault
    obtain ⟨node, hNode, -⟩ := Option.map_eq_some_iff.mp hPayload
    exact ⟨node, hNode, by simp [Tree.position, hNode]⟩
  · intro x quasis expressions quasis' expressions' hx hOld hNew
    -- both trees have the same walk, and the same verdict at each node of it
    have hWalk' := (Tree.walk_setPayload x (.template quasis' expressions')).mpr hWalk
    rw [← Tree.root?_setPayload x (.template quasis' expressions')] at hWalk'
    have hSame : (Tree.met .exit events).filter
          (decideTemplate (t.setPayload x (.template quasis' expressions')) · = .violation) =
        (Tree.met .exit events).filter (decideTemplate t · = .violation) := by
      refine List.filter_congr fun id _ => ?_
      rw [decide_eq_decide, decideTemplate_eq_violation_iff, decideTemplate_eq_violation_iff]
      exact faultyTemplate_replaced hx hOld hNew
    rw [traverse?_messageExpression hl h0 hWalk,
      traverse?_messageExpression (hl.setPayload x _) (by simpa using h0) hWalk', hSame]
    simp [Tree.report]

/-- A template with the expression `a.b`, inside a template tagged `t`. -/
def messageWithMember : Tree :=
  (((((Tree.empty.push .program none ⟨1, 1⟩).push (.taggedTemplate (some 2) (some 3)) (some 0)
    ⟨1, 1⟩).push (.identifier "t") (some 1) ⟨1, 1⟩).push (.template [none, none] [4]) (some 1)
    ⟨1, 2⟩).push .member (some 3) ⟨1, 5⟩)

theorem messageWithMember_built : messageWithMember.Built :=
  .push (.push (.push (.push (.push .empty _ _ _) _ _ _) _ _ _) _ _ _) _ _ _

/-- The template of a message with a member access is reported. -/
theorem messageWithMember_reported :
    messageWithMember.Built ∧ messageWithMember.parent? 0 ≠ some 0 ∧
      ∃ templates : List NodeId, 3 ∈ templates ∧ templates.Nodup ∧
        messageWithMember.traverse? [messageExpression messageWithMember] =
          some (templates.map fun id =>
            ⟨id, messageWithMember.position id, .disallowedExpression⟩) := by
  have h0 : messageWithMember.parent? 0 ≠ some 0 := by decide
  obtain ⟨_, templates, _, hReport, _, hNodup, hMem, _⟩ :=
    messageExpression_reports messageWithMember_built h0
  refine ⟨messageWithMember_built, h0, templates, (hMem 3).mpr ⟨?_, ?_⟩, hNodup, hReport⟩
  · refine ⟨0, by decide, ?_⟩
    exact .tail (.tail .refl (show 1 ∈ messageWithMember.children 0 by decide))
      (show 3 ∈ messageWithMember.children 1 by decide)
  · rw [← decideTemplate_eq_violation_iff]
    decide

end MessageLint.Check
