import MessageLint.Proofs.Check.MessageExpression
import MessageLint.Proofs.Check.Selection

/-!
# MessageLint — making an element a translation component

Two runs are compared: one over a tree, one over the same tree in which an element has been renamed
to the component that makes its content a message. The element can be anything to the other nodes:
it can enclose them, own an attribute, be the value of an attribute or an interpolation, and the two
rules on text tell by different look-ups whether a node is inside a message.

* `isTranslation_translated`, `elementName?_translated` — the look-ups that notice the new name.
* `textFault?_translated`, `attributeFault?_translated` — a fault goes exactly if its node is inside
  the element.
* `faultyTemplate_translated` — the rule on templates does not notice the element.
* `traverse?_translated` — the same for a whole run of the three rules.
-/

namespace MessageLint

namespace Tree

/-- The tree with an element renamed to the component that makes its content a message. -/
def translated (t : Tree) (e : NodeId) (attributes : List NodeId) : Tree :=
  t.setPayload e (.jsxElement (some "Trans") attributes)

section Translated

variable {t : Tree} {e q id : NodeId} {name : Option String} {attributes : List NodeId}

theorem payload?_translated_self (he : t.payload? e = some (.jsxElement name attributes)) :
    (t.translated e attributes).payload? e = some (.jsxElement (some "Trans") attributes) := by
  simp [translated, payload?_setPayload, he]

theorem payload?_translated_of_ne (hq : q ≠ e) :
    (t.translated e attributes).payload? q = t.payload? q := by
  simp [translated, payload?_setPayload, hq]

/-- Payloads of other kinds are where they were. -/
theorem payload?_translated_iff (he : t.payload? e = some (.jsxElement name attributes))
    {payload : Payload} (hKind : payload.kind ≠ .jsxElement) :
    (t.translated e attributes).payload? q = some payload ↔ t.payload? q = some payload := by
  unfold translated
  refine payload?_setPayload_iff he ?_ hKind
  rfl

theorem elementName?_translated (he : t.payload? e = some (.jsxElement name attributes)) :
    (t.translated e attributes).elementName? q =
      if q = e then some "Trans" else t.elementName? q := by
  unfold elementName?
  split_ifs with hq
  · rw [hq, payload?_translated_self he]
  · rw [payload?_translated_of_ne hq]

theorem literalText_translated (he : t.payload? e = some (.jsxElement name attributes)) :
    (t.translated e attributes).literalText q = t.literalText q := by
  unfold literalText
  by_cases hq : q = e
  · -- an element has no text, whatever it is called
    rw [hq, payload?_translated_self he, he]
  · rw [payload?_translated_of_ne hq]

theorem attributeNames_translated (he : t.payload? e = some (.jsxElement name attributes)) :
    (t.translated e attributes).attributeNames q = t.attributeNames q := by
  unfold attributeNames
  by_cases hq : q = e
  · rw [hq, payload?_translated_self he, he]
    refine List.filterMap_congr fun link _ => ?_
    -- the element is no attribute, so a link to it has no name before or after
    by_cases hLink : link = e
    · rw [hLink, payload?_translated_self he, he]
    · rw [payload?_translated_of_ne hLink]
  · rw [payload?_translated_of_ne hq]
    split
    · refine List.filterMap_congr fun link _ => ?_
      by_cases hLink : link = e
      · rw [hLink, payload?_translated_self he, he]
      · rw [payload?_translated_of_ne hLink]
    · rfl

theorem isTranslation_translated (he : t.payload? e = some (.jsxElement name attributes)) :
    (t.translated e attributes).isTranslation q = (q == e || t.isTranslation q) := by
  unfold isTranslation
  rw [elementName?_translated he, attributeNames_translated he]
  by_cases hq : q = e
  · simp [hq, Markup.isMessageTag, Markup.transComponent]
  · simp [hq]

theorem ancestors_translated (id : NodeId) :
    (t.translated e attributes).ancestors id = t.ancestors id :=
  ancestors_setPayload e _

theorem any_beq_or (p : NodeId → Bool) (ids : List NodeId) :
    (ids.any fun q => q == e || p q) = (decide (e ∈ ids) || ids.any p) := by
  rw [Bool.eq_iff_iff]
  simp only [List.any_eq_true, Bool.or_eq_true, beq_iff_eq, decide_eq_true_eq]
  constructor
  · rintro ⟨q, hq, rfl | hp⟩
    · exact .inl hq
    · exact .inr ⟨q, hq, hp⟩
  · rintro (he | ⟨q, hq, hp⟩)
    · exact ⟨e, he, .inl rfl⟩
    · exact ⟨q, hq, .inr hp⟩

theorem any_isTranslation_translated (he : t.payload? e = some (.jsxElement name attributes)) :
    ((t.translated e attributes).ancestors id).any (t.translated e attributes).isTranslation =
      (decide (e ∈ t.ancestors id) || (t.ancestors id).any t.isTranslation) := by
  rw [ancestors_translated, ← any_beq_or]
  congr 1
  funext q
  exact isTranslation_translated he

theorem isInside_translated (he : t.payload? e = some (.jsxElement name attributes)) :
    (t.translated e attributes).isInside id Markup.transComponent =
      (decide (e ∈ t.ancestors id) || t.isInside id Markup.transComponent) := by
  unfold isInside
  rw [ancestors_translated, ← any_beq_or]
  congr 1
  funext q
  rw [elementName?_translated he]
  by_cases hq : q = e
  · simp [hq, Markup.transComponent]
  · simp [hq]

/-- A node whose parent link leads to an element is inside it. -/
theorem mem_ancestors_of_parent? {payload : Payload} (he : t.payload? e = some payload)
    (h : t.parent? id = some e) : e ∈ t.ancestors id :=
  mem_ancestors_iff.mpr ⟨0, enclosing?_zero h he⟩

/-- Outside the element, the parent of a node has the name it had. -/
theorem bind_elementName?_translated (he : t.payload? e = some (.jsxElement name attributes))
    (hOutside : e ∉ t.ancestors id) :
    (t.parent? id).bind (t.translated e attributes).elementName? =
      (t.parent? id).bind t.elementName? := by
  cases hParent : t.parent? id with
  | none => rfl
  | some p =>
    have hp : p ≠ e := by
      rintro rfl
      exact hOutside (mem_ancestors_of_parent? he hParent)
    rw [Option.bind_some, Option.bind_some, elementName?_translated he, if_neg hp]

end Translated

end Tree

namespace Check

variable {t : Tree} {e id : NodeId} {name : Option String} {attributes : List NodeId}

/-! ## The faults of one node -/

theorem textFault?_translated (he : t.payload? e = some (.jsxElement name attributes))
    (ignored : List String) :
    textFault? (t.translated e attributes) ignored id =
      if e ∈ t.ancestors id then none else textFault? t ignored id := by
  unfold textFault?
  rw [Tree.literalText_translated he, Tree.any_isTranslation_translated he]
  by_cases hInside : e ∈ t.ancestors id
  · -- whatever else is asked, the element is among the ancestors
    simp [hInside]
  · have hParent : (t.translated e attributes).parent? id = t.parent? id :=
      Tree.parent?_setPayload e _
    have hRaw : isRawText (t.translated e attributes) id = isRawText t id := by
      unfold isRawText
      rw [hParent, Tree.bind_elementName?_translated he hInside]
    simp [hInside, hRaw]

theorem attributeText?_translated (he : t.payload? e = some (.jsxElement name attributes))
    (ignored : List String) (label : String) (value : NodeId) :
    attributeText? (t.translated e attributes) ignored label value =
      attributeText? t ignored label value := by
  -- an element is no literal, neither as the value nor in braces
  have hLiteral : attributeLiteral? (t.translated e attributes) value =
      attributeLiteral? t value := by
    unfold attributeLiteral?
    by_cases hValue : value = e
    · rw [hValue, Tree.payload?_translated_self he, he]
    · rw [Tree.payload?_translated_of_ne hValue]
      split
      · rfl
      · rename_i inner _
        by_cases hInner : inner = e
        · rw [hInner, Tree.payload?_translated_self he, he]
        · rw [Tree.payload?_translated_of_ne hInner]
      · rfl
  unfold attributeText?
  simp only [hLiteral, Tree.literalText_translated he]

theorem attributeFault?_translated (he : t.payload? e = some (.jsxElement name attributes))
    (ignored : List String) :
    attributeFault? (t.translated e attributes) ignored id =
      if e ∈ t.ancestors id then none else attributeFault? t ignored id := by
  unfold attributeFault?
  by_cases hId : id = e
  · rw [hId, Tree.payload?_translated_self he, he]
    exact (ite_self none).symm
  rw [Tree.payload?_translated_of_ne hId]
  split
  · rename_i label value _
    have hOwner : e ∉ t.ancestors id →
        ownerTag? (t.translated e attributes) id = ownerTag? t id := by
      intro hOutside
      have hParent : (t.translated e attributes).parent? id = t.parent? id :=
        Tree.parent?_setPayload e _
      have hName := Tree.bind_elementName?_translated he hOutside
      unfold ownerTag?
      rw [hParent]
      cases hOwner : t.parent? id with
      | none => rfl
      | some owner =>
        rw [hOwner, Option.bind_some, Option.bind_some] at hName
        simp [hName]
    simp only [attributeText?_translated he, Tree.isInside_translated he,
      Tree.attributeNames_translated he]
    by_cases hInside : e ∈ t.ancestors id
    · -- inside the element nothing is left to ask
      rw [if_pos hInside]
      cases attributeText? t ignored label value with
      | none => rfl
      | some text =>
        cases ownerTag? (t.translated e attributes) id with
        | none => rfl
        | some owner => simp [hInside]
    · simp [hOwner hInside, hInside]
  · exact (ite_self none).symm

theorem faultyTemplate_translated (he : t.payload? e = some (.jsxElement name attributes)) :
    FaultyTemplate (t.translated e attributes) id ↔ FaultyTemplate t id := by
  have hForbidden : ∀ x, Forbidden (t.translated e attributes) x ↔ Forbidden t x :=
    fun x => forbidden_replaced he rfl (by simp [Payload.kind]) (by simp [Payload.kind])
  have hMessage : InMessage (t.translated e attributes) id ↔ InMessage t id :=
    inMessage_replaced he rfl (by simp [Payload.kind]) (by simp [Payload.kind])
  have hTemplate : ∀ quasis expressions,
      (t.translated e attributes).payload? id = some (.template quasis expressions) ↔
        t.payload? id = some (.template quasis expressions) :=
    fun quasis expressions => Tree.payload?_translated_iff he (by simp [Payload.kind])
  simp only [FaultyTemplate, hForbidden, hMessage, hTemplate]

/-! ## One event -/

/-- Does a finding stay when the element becomes a translation component? -/
def staysBeside (t : Tree) (e : NodeId) (f : Finding) : Bool :=
  f.fault.rule == .messageExpression || decide (e ∉ t.ancestors f.node)

/-- A rule on text that asks for at most one fault of a node loses the faults inside the element. -/
theorem filter_staysBeside {rule : Rule} {fault? : Option Fault}
    (hRule : ∀ fault, fault? = some fault → fault.rule = rule) (hText : rule ≠ .messageExpression) :
    ((fault?.map (t.report id)).toList).filter (staysBeside t e) =
      ((if e ∈ t.ancestors id then none else fault?).map (t.report id)).toList := by
  cases fault? with
  | none => simp
  | some fault =>
    obtain rfl := hRule fault rfl
    by_cases hInside : e ∈ t.ancestors id <;> simp [staysBeside, Tree.report, hText, hInside]

/-- Two visitors that listen to the same kind of node in trees of the same kinds: what one yields is
a part of what the other yields as soon as this holds node by node. -/
theorem dispatch_filtered {t' : Tree} {v v' : Visitor Finding} (kind : Kind) (phase : Phase)
    {keep : Finding → Bool} (hv : v.subscriptions = [(kind, phase)])
    (hv' : v'.subscriptions = [(kind, phase)]) (hKind : ∀ id, t'.kind? id = t.kind? id)
    (h : ∀ id, v'.respond phase id = (v.respond phase id).filter keep) (event : Event) :
    t'.dispatch [v'] (.ofVisitors [v']) event =
      (t.dispatch [v] (.ofVisitors [v]) event).filter keep := by
  rw [Tree.dispatch_one hv', Tree.dispatch_one hv, hKind, h, apply_ite (List.filter keep),
    List.filter_nil]

theorem dispatch_translated (he : t.payload? e = some (.jsxElement name attributes))
    (exempt : Exemptions) (event : Event) :
    (t.translated e attributes).dispatch
        (visitors (t.translated e attributes) Rule.suppressible exempt)
        (.ofVisitors (visitors (t.translated e attributes) Rule.suppressible exempt)) event =
      (t.dispatch (visitors t Rule.suppressible exempt)
        (.ofVisitors (visitors t Rule.suppressible exempt)) event).filter (staysBeside t e) := by
  have hAll : ∀ t, visitors t Rule.suppressible exempt =
      [messageExpression t] ++ [unlocalizedAttribute t exempt.attributes] ++
        [unlocalizedText t exempt.texts] := fun _ => rfl
  have hKind : ∀ id, (t.translated e attributes).kind? id = t.kind? id :=
    fun id => Tree.kind?_setPayload he rfl
  have hReport : ∀ id, (t.translated e attributes).report id = t.report id := by
    intro id
    funext fault
    simp [Tree.report, Tree.translated]
  -- rule by rule: each listens to one kind of node
  rw [hAll, hAll]
  simp only [Tree.dispatch_append, List.filter_append]
  congr 1
  · congr 1
    · refine dispatch_filtered .template .exit rfl rfl hKind (fun id => ?_) event
      have hVerdict : decideTemplate (t.translated e attributes) id = .violation ↔
          decideTemplate t id = .violation := by
        rw [decideTemplate_eq_violation_iff, decideTemplate_eq_violation_iff]
        exact faultyTemplate_translated he
      simp only [messageExpression, hVerdict, hReport]
      split_ifs
      · simp [staysBeside, Tree.report, Fault.rule]
      · rfl
    · refine dispatch_filtered .jsxAttribute .enter rfl rfl hKind (fun id => ?_) event
      simp only [unlocalizedAttribute, attributeFault?_translated he, hReport]
      exact (filter_staysBeside (fun _ => rule_of_attributeFault?) (by simp)).symm
  · refine dispatch_filtered .jsxText .enter rfl rfl hKind (fun id => ?_) event
    simp only [unlocalizedText, textFault?_translated he, hReport]
    exact (filter_staysBeside (fun _ => rule_of_textFault?) (by simp)).symm

/-! ## The whole run -/

/-- Renaming an element to the component that makes its content a message silences, in a run of the
three rules, exactly the findings on text and attributes whose nodes have the element among their
ancestors, wherever the chain of these leads. All other findings stay, in their order, and findings
on templates always do. -/
theorem traverse?_translated (ht : t.Built) (h0 : t.parent? 0 ≠ some 0)
    (he : t.payload? e = some (.jsxElement name attributes)) (exempt : Exemptions) :
    ∃ found, t.traverse? (visitors t Rule.suppressible exempt) = some found ∧
      (t.translated e attributes).traverse?
          (visitors (t.translated e attributes) Rule.suppressible exempt) =
        some (found.filter fun f =>
          f.fault.rule == .messageExpression || decide (e ∉ t.ancestors f.node)) ∧
      ∀ f ∈ found, e ∈ t.ancestors f.node ↔ ∃ k, t.enclosing? f.node k = some e := by
  have hl := ht.linked
  obtain ⟨events, hWalk⟩ := Tree.exists_rootWalk hl h0
  have hPass : t.walk? = some events := Tree.walk?_of_walk hl h0 hWalk
  -- the links are as they were, and so is the walk
  have hWalk' : (t.translated e attributes).Walk
      (t.translated e attributes).root?.toList events := by
    rw [Tree.translated, Tree.root?_setPayload]
    exact (Tree.walk_setPayload e _).mpr hWalk
  have hPass' : (t.translated e attributes).walk? = some events :=
    Tree.walk?_of_walk (hl.setPayload e _) (by simpa [Tree.translated] using h0) hWalk'
  refine ⟨_, by rw [Tree.traverse?, hPass, Option.map_some], ?_, fun f _ => Tree.mem_ancestors_iff⟩
  rw [Tree.traverse?, hPass', Option.map_some, Option.some.injEq, List.filter_flatMap]
  exact List.flatMap_congr fun event _ => dispatch_translated he exempt event

/-- An element with an attribute and a text, then a text beside it, all inside another element. -/
def cardTree : Tree :=
  (((((Tree.empty.push .program none ⟨1, 1⟩).push (.jsxElement (some "div") []) (some 0)
    ⟨1, 1⟩).push (.jsxElement (some "Card") [3]) (some 1) ⟨1, 6⟩).push
    (.jsxAttribute "title" (some 4)) (some 2) ⟨1, 12⟩).push (.stringLiteral "Hello") (some 3)
    ⟨1, 18⟩).push (.jsxText "Bye") (some 1) ⟨2, 1⟩

theorem cardTree_built : cardTree.Built :=
  .push (.push (.push (.push (.push (.push .empty _ _ _) _ _ _) _ _ _) _ _ _) _ _ _) _ _ _

/-- The attribute of the card is reported until the card is a translation component. -/
theorem card_translated : cardTree.Built ∧ cardTree.parent? 0 ≠ some 0 ∧
    cardTree.payload? 2 = some (.jsxElement (some "Card") [3]) ∧
    ∃ found, cardTree.traverse? (visitors cardTree Rule.suppressible {}) = some found ∧
      found.map (·.node) = [3, 5] ∧
      (cardTree.translated 2 [3]).traverse?
          (visitors (cardTree.translated 2 [3]) Rule.suppressible {}) =
        some (found.filter fun f =>
          f.fault.rule == .messageExpression || decide (2 ∉ cardTree.ancestors f.node)) := by
  have h0 : cardTree.parent? 0 ≠ some 0 := by decide
  have he : cardTree.payload? 2 = some (.jsxElement (some "Card") [3]) := by decide
  obtain ⟨found, hFound, hTranslated, -⟩ := traverse?_translated cardTree_built h0 he {}
  have hNodes : (cardTree.traverse? (visitors cardTree Rule.suppressible {})).map
      (·.map (·.node)) = some [3, 5] := by decide +kernel
  rw [hFound] at hNodes
  exact ⟨cardTree_built, h0, he, found, hFound, Option.some.inj hNodes, hTranslated⟩

end Check

end MessageLint
