import MessageLint.Check.UnlocalizedAttribute
import MessageLint.Check.UnlocalizedText
import MessageLint.Proofs.Tree.Ancestors
import MessageLint.Proofs.Tree.Traversal

/-!
# MessageLint — which texts and attributes are reported

The two rules on markup are stated here without their early exits. `FaultyText` and
`FaultyAttribute` say outright when a text between tags and an attribute are at fault. Both look at
links of several kinds, the children of an element, its list of attributes, the value of an
attribute and the chain of enclosing nodes without limit, and ask nothing of how these fit together.

* `isTranslation_iff`, `isAllowedAttribute_eq_false_iff`, `isLocalizable_iff` — the tables and tests
  of the rules, as conditions on names and characters.
* `textFault?_eq_some_iff`, `attributeFault?_eq_some_iff` — the fault of one node.
* `reports_of_fault?` — a rule that asks each node it enters for at most one fault reports these in
  pre-order, one for each node.
* `unlocalizedText_reports`, `unlocalizedAttribute_reports` — what a run of either rule reports.
-/

namespace MessageLint

/-! ## Names and characters -/

namespace Markup

/-- Some character of the text is alphabetic. -/
def HasLetters (text : String) : Prop := ∃ c ∈ text.toList, Text.isAlphabetic c

/-- The text consists of ASCII capitals, `_` and `-`. -/
def ConstantLike (text : String) : Prop :=
  ∀ c ∈ text.toList, ('A' ≤ c ∧ c ≤ 'Z') ∨ c = '_' ∨ c = '-'

theorem containsAlphabetic_iff {text : String} :
    Text.containsAlphabetic text = true ↔ HasLetters text := by
  simp [Text.containsAlphabetic, HasLetters]

theorem isUpperCaseToken_iff {text : String} :
    isUpperCaseToken text = true ↔ text.toList ≠ [] ∧ ConstantLike text := by
  have hUpper : ∀ c : Char, c.isUpper = true ↔ 'A' ≤ c ∧ c ≤ 'Z' := by
    intro c
    exact decide_eq_true_iff
  simp [isUpperCaseToken, ConstantLike, hUpper, or_assoc]

theorem hasChoiceAttributes_iff {names : List String} :
    hasChoiceAttributes names = true ↔ "value" ∈ names ∧ "other" ∈ names := by
  simp [hasChoiceAttributes, choiceAttributes]

theorem isMessageTag_iff {tag : String} {names : List String} :
    isMessageTag tag names = true ↔
      tag = "Trans" ∨ tag ∈ ["Plural", "Select"] ∧ "value" ∈ names ∧ "other" ∈ names := by
  rw [isMessageTag, Bool.or_eq_true, Bool.and_eq_true, beq_iff_eq, List.contains_iff_mem,
    hasChoiceAttributes_iff]
  rfl

/-- Outside the component that makes everything a message, the precedence of the tables does not
show: no choice component is the name of an HTML element. -/
theorem isAllowedAttribute_eq_false_iff {tag name : String} {names : List String}
    (hTrans : tag ≠ "Trans") :
    isAllowedAttribute tag name names = false ↔
      tag ∉ svgTags ∧
      (tag ∈ htmlTags → name ∈ ["placeholder", "alt", "aria-label", "value"]) ∧
      (tag ∈ ["Plural", "Select"] → ¬ ("value" ∈ names ∧ "other" ∈ names)) := by
  have hChoice : tag ∈ ["Plural", "Select"] → tag ∉ htmlTags := by
    have hTable : ∀ tag ∈ ["Plural", "Select"], tag ∉ htmlTags := by decide
    exact hTable tag
  have hMessage : isMessageTag tag names = false ↔
      (tag ∈ ["Plural", "Select"] → ¬ ("value" ∈ names ∧ "other" ∈ names)) := by
    rw [← Bool.not_eq_true, isMessageTag_iff]
    simp only [hTrans, false_or, not_and]
  have hVisible : (!visibleHtmlAttributes.contains name) = false ↔
      name ∈ ["placeholder", "alt", "aria-label", "value"] := by
    rw [Bool.not_eq_false', List.contains_iff_mem]
    rfl
  unfold isAllowedAttribute
  by_cases hSvg : tag ∈ svgTags
  · simp [hSvg]
  · by_cases hHtml : tag ∈ htmlTags
    · -- on an HTML element the name alone decides
      have hNoChoice : tag ∉ ["Plural", "Select"] := fun h => hChoice h hHtml
      simp only [List.contains_iff_mem, hSvg, hHtml, if_false, if_true, hVisible, hNoChoice,
        not_false_eq_true, true_and, true_imp_iff, false_imp_iff, and_true]
    · simp only [List.contains_iff_mem, hSvg, hHtml, if_false, hMessage, not_false_eq_true,
        true_and, false_imp_iff]

end Markup

/-! ## Elements -/

namespace Tree

variable {t : Tree} {id : NodeId}

/-- Some link of the list leads to an attribute of this name. -/
def HasAttribute (t : Tree) (attributes : List NodeId) (name : String) : Prop :=
  ∃ link ∈ attributes, ∃ value, t.payload? link = some (.jsxAttribute name value)

/-- The node is an element whose content is a message. -/
def MessageElement (t : Tree) (id : NodeId) : Prop :=
  ∃ tag attributes, t.payload? id = some (.jsxElement (some tag) attributes) ∧
    (tag = "Trans" ∨ tag ∈ ["Plural", "Select"] ∧
      t.HasAttribute attributes "value" ∧ t.HasAttribute attributes "other")

/-- The names of an element are those of the attributes that its links lead to; a link that leads
nowhere or to something else has none. -/
theorem mem_attributeNames_iff {tag : Option String} {attributes : List NodeId} {name : String}
    (h : t.payload? id = some (.jsxElement tag attributes)) :
    name ∈ t.attributeNames id ↔ t.HasAttribute attributes name := by
  rw [attributeNames, h, List.mem_filterMap]
  refine exists_congr fun link => and_congr_right fun _ => ?_
  split
  · rename_i other value hLink
    simp [hLink]
  · rename_i hLink
    constructor
    · intro hNone
      cases hNone
    · rintro ⟨value, hAttribute⟩
      exact absurd hAttribute (hLink name value)

theorem isTranslation_iff : t.isTranslation id = true ↔ t.MessageElement id := by
  have hTag : t.isTranslation id = true ↔
      ∃ tag, t.elementName? id = some tag ∧
        Markup.isMessageTag tag (t.attributeNames id) = true := by
    unfold isTranslation
    cases t.elementName? id <;> simp
  rw [hTag]
  constructor
  · rintro ⟨tag, hName, hMessage⟩
    obtain ⟨attributes, hElement⟩ := elementName?_eq_some_iff.mp hName
    rw [Markup.isMessageTag_iff, mem_attributeNames_iff hElement,
      mem_attributeNames_iff hElement] at hMessage
    exact ⟨tag, attributes, hElement, hMessage⟩
  · rintro ⟨tag, attributes, hElement, hMessage⟩
    refine ⟨tag, elementName?_eq_some_iff.mpr ⟨attributes, hElement⟩, ?_⟩
    rw [Markup.isMessageTag_iff, mem_attributeNames_iff hElement, mem_attributeNames_iff hElement]
    exact hMessage

end Tree

/-! ## Rules that ask each node for at most one fault -/

namespace Check

variable {t : Tree} {id : NodeId} {ignored : List String}

/-- A pass with the visitor reports exactly the faults that reachable nodes have: each node comes
once at most, in the order in which the recursive walk enters them, with its fault and its stored
position. -/
def Reports (t : Tree) (v : Visitor Finding) (Faulty : NodeId → Fault → Prop) : Prop :=
  ∃ (events : List Event) (found : List Finding),
    t.Walk t.root?.toList events ∧ t.traverse? [v] = some found ∧
    (found.map (·.node)).Sublist (Tree.met .enter events) ∧ (found.map (·.node)).Nodup ∧
    ∀ f, f ∈ found ↔ t.Reachable f.node ∧ Faulty f.node f.fault ∧
      ∃ node, t.get? f.node = some node ∧ f.position = node.position

theorem node_flatMap_report (fault? : NodeId → Option Fault) (ids : List NodeId) :
    (ids.flatMap fun id => ((fault? id).map (t.report id)).toList).map (·.node) =
      ids.filter fun id => (fault? id).isSome := by
  induction ids with
  | nil => rfl
  | cons id ids ih =>
    rw [List.flatMap_cons, List.map_append, ih]
    cases hFault : fault? id <;> simp [hFault, Tree.report]

/-- It is enough to know which fault a node of the visitor's kind has. -/
theorem reports_of_fault? {v : Visitor Finding} {kind : Kind} {fault? : NodeId → Option Fault}
    {Faulty : NodeId → Fault → Prop} (ht : t.Built) (h0 : t.parent? 0 ≠ some 0)
    (hv : v.subscriptions = [(kind, .enter)])
    (hRespond : ∀ id, v.respond .enter id = ((fault? id).map (t.report id)).toList)
    (hFaulty : ∀ id fault, t.kind? id = some kind ∧ fault? id = some fault ↔ Faulty id fault) :
    Reports t v Faulty := by
  have hl := ht.linked
  obtain ⟨events, hWalk⟩ := Tree.exists_rootWalk hl h0
  have hNodup := Tree.nodup_met (hWalk.nodup hl (Tree.apart_root h0)) .enter
  let asked : List NodeId := (Tree.met .enter events).filter (t.kind? · = some kind)
  have hFound : t.traverse? [v] =
      some (asked.flatMap fun id => ((fault? id).map (t.report id)).toList) := by
    rw [Tree.traverse?_one hl h0 hWalk kind .enter hv]
    exact congrArg some (List.flatMap_congr fun id _ => hRespond id)
  have hNodes := node_flatMap_report (t := t) fault? asked
  have hSublist : (asked.filter fun id => (fault? id).isSome).Sublist (Tree.met .enter events) :=
    List.filter_sublist.trans List.filter_sublist
  refine ⟨events, _, hWalk, hFound, ?_, ?_, ?_⟩
  · rw [hNodes]
    exact hSublist
  · rw [hNodes]
    exact hNodup.sublist hSublist
  · intro f
    have hAsked : ∀ id, id ∈ asked ↔ t.Reachable id ∧ t.kind? id = some kind := by
      intro id
      simp [asked, Tree.mem_met, hWalk.mem_root_iff]
    simp only [List.mem_flatMap, Option.mem_toList, Option.map_eq_some_iff, hAsked, ← hFaulty]
    constructor
    · rintro ⟨id, ⟨hReach, hKind⟩, fault, hFault, rfl⟩
      -- a node that has a kind exists, and is reported where it stands
      obtain ⟨payload, hPayload, -⟩ := Option.map_eq_some_iff.mp hKind
      obtain ⟨node, hNode, -⟩ := Option.map_eq_some_iff.mp hPayload
      have hPosition : t.position id = node.position := by simp [Tree.position, hNode]
      exact ⟨hReach, ⟨hKind, hFault⟩, node, hNode, hPosition⟩
    · rintro ⟨hReach, ⟨hKind, hFault⟩, node, hNode, hPosition⟩
      refine ⟨f.node, ⟨hReach, hKind⟩, f.fault, hFault, ?_⟩
      have hStored : t.position f.node = f.position := by
        rw [hPosition]
        simp [Tree.position, hNode]
      rw [Tree.report, hStored]

/-! ## Inline text -/

/-- An inline text at fault, with what is reported of it. The enclosing nodes are those on the chain
without limit. -/
structure FaultyText (t : Tree) (ignored : List String) (id : NodeId) (text : String) : Prop where
  shown : ∃ value, t.payload? id = some (.jsxText value) ∧ text = Text.trim value
  letters : Markup.HasLetters text
  not_ignored : text ∉ ignored
  not_code : ¬ ∃ owner tag attributes, t.parent? id = some owner ∧
    t.payload? owner = some (.jsxElement (some tag) attributes) ∧ tag ∈ ["style", "script"]
  untranslated : ∀ k a, t.enclosing? id k = some a → ¬ t.MessageElement a

theorem isRawText_iff : isRawText t id = true ↔ ∃ owner tag attributes,
    t.parent? id = some owner ∧ t.payload? owner = some (.jsxElement (some tag) attributes) ∧
      tag ∈ ["style", "script"] := by
  have hTag : isRawText t id = true ↔ ∃ owner, t.parent? id = some owner ∧
      ∃ tag, t.elementName? owner = some tag ∧ tag ∈ ["style", "script"] := by
    unfold isRawText rawTextTags
    cases t.parent? id with
    | none => simp
    | some owner => cases hName : t.elementName? owner <;> simp [hName]
  rw [hTag]
  simp only [Tree.elementName?_eq_some_iff]
  constructor
  · rintro ⟨owner, hOwner, tag, ⟨attributes, hElement⟩, hMem⟩
    exact ⟨owner, tag, attributes, hOwner, hElement, hMem⟩
  · rintro ⟨owner, tag, attributes, hOwner, hElement, hMem⟩
    exact ⟨owner, hOwner, tag, ⟨attributes, hElement⟩, hMem⟩

theorem any_isTranslation_iff : (t.ancestors id).any t.isTranslation = true ↔
    ∃ k a, t.enclosing? id k = some a ∧ t.MessageElement a := by
  rw [List.any_eq_true]
  simp only [Tree.mem_ancestors_iff, Tree.isTranslation_iff]
  constructor
  · rintro ⟨a, ⟨k, hk⟩, hMessage⟩
    exact ⟨k, a, hk, hMessage⟩
  · rintro ⟨k, a, hk, hMessage⟩
    exact ⟨a, ⟨k, hk⟩, hMessage⟩

theorem textFault?_eq_some_iff {fault : Fault} :
    t.kind? id = some .jsxText ∧ textFault? t ignored id = some fault ↔
      ∃ text, fault = .unlocalizedText text ∧ FaultyText t ignored id text := by
  simp only [textFault?, Option.ite_none_left_eq_some, Option.some.injEq, Bool.or_eq_true,
    Bool.not_eq_true', not_or, ← Bool.not_eq_true (Text.containsAlphabetic _), not_not,
    Markup.containsAlphabetic_iff, List.contains_iff_mem, isRawText_iff, any_isTranslation_iff]
  constructor
  · rintro ⟨hKind, ⟨hLetters, hIgnored⟩, hCode, hOutside, rfl⟩
    obtain ⟨value, hPayload⟩ := Tree.kind?_eq_jsxText_iff.mp hKind
    have hText : t.literalText id = Text.trim value := by rw [Tree.literalText, hPayload]
    refine ⟨t.literalText id, rfl, ⟨value, hPayload, hText⟩, hLetters, hIgnored, hCode, ?_⟩
    intro k a hk hMessage
    exact hOutside ⟨k, a, hk, hMessage⟩
  · rintro ⟨text, rfl, ⟨value, hPayload, rfl⟩, hLetters, hIgnored, hCode, hOutside⟩
    have hText : t.literalText id = Text.trim value := by rw [Tree.literalText, hPayload]
    rw [hText]
    refine ⟨Tree.kind?_of_payload? hPayload, ⟨hLetters, hIgnored⟩, hCode, ?_, rfl⟩
    rintro ⟨k, a, hk, hMessage⟩
    exact hOutside k a hk hMessage

/-- Over a tree whose root is not its own parent, the rule on inline text reports the reachable
texts at fault, each once, in pre-order, trimmed and at its stored position, and nothing else. -/
theorem unlocalizedText_reports (ht : t.Built) (h0 : t.parent? 0 ≠ some 0)
    (ignored : List String) :
    Reports t (unlocalizedText t ignored) fun id fault =>
      ∃ text, fault = .unlocalizedText text ∧ FaultyText t ignored id text :=
  reports_of_fault? ht h0 rfl (fun _ => rfl) fun _ _ => textFault?_eq_some_iff

/-- A text in an element, and beside it one in a choice that is a message; the choice also has a
link that leads nowhere. -/
def textsTree : Tree :=
  ((((((Tree.empty.push .program none ⟨1, 1⟩).push (.jsxElement (some "p") []) (some 0)
    ⟨1, 1⟩).push (.jsxText "\n  Hello ") (some 1) ⟨2, 3⟩).push
    (.jsxElement (some "Plural") [9, 4, 5]) (some 1) ⟨2, 9⟩).push (.jsxAttribute "value" none)
    (some 3) ⟨2, 17⟩).push (.jsxAttribute "other" none) (some 3) ⟨2, 23⟩).push
    (.jsxText "items") (some 3) ⟨2, 30⟩

theorem textsTree_built : textsTree.Built :=
  .push (.push (.push (.push (.push (.push (.push .empty _ _ _) _ _ _) _ _ _) _ _ _) _ _ _) _ _ _)
    _ _ _

/-- The first text is reported, trimmed, and the second is not. -/
theorem textsTree_reported : textsTree.Built ∧ textsTree.parent? 0 ≠ some 0 ∧
    ∃ found, textsTree.traverse? [unlocalizedText textsTree ["Bye"]] = some found ∧
      ⟨2, ⟨2, 3⟩, .unlocalizedText "Hello"⟩ ∈ found ∧ ∀ f ∈ found, f.node ≠ 6 := by
  have h0 : textsTree.parent? 0 ≠ some 0 := by decide
  obtain ⟨_, found, _, hFound, _, _, hMem⟩ := unlocalizedText_reports textsTree_built h0 ["Bye"]
  refine ⟨textsTree_built, h0, found, hFound, (hMem _).mpr ⟨?_, ?_, ?_⟩, ?_⟩
  · refine ⟨0, by decide, ?_⟩
    exact .tail (.tail .refl (show 1 ∈ textsTree.children 0 by decide))
      (show 2 ∈ textsTree.children 1 by decide)
  · exact textFault?_eq_some_iff.mp ⟨by decide, by decide +kernel⟩
  · exact ⟨_, rfl, rfl⟩
  · rintro f hf hNode
    have hNone : textFault? textsTree ["Bye"] 6 = none := by decide +kernel
    have hFault := (textFault?_eq_some_iff.mpr ((hMem f).mp hf).2.1).2
    rw [hNode, hNone] at hFault
    cases hFault

/-! ## Attributes -/

/-- The text of an attribute value, without the blanks at either end: of a string, of a string in
braces, or of a template without interpolations in braces, whose segments are put together. -/
inductive ValueText (t : Tree) (value : NodeId) : String → Prop where
  | string {s : String} (hValue : t.payload? value = some (.stringLiteral s)) :
      ValueText t value (Text.trim s)
  | bracedString {inner : NodeId} {s : String}
      (hValue : t.payload? value = some (.jsxContainer (some inner)))
      (hInner : t.payload? inner = some (.stringLiteral s)) : ValueText t value (Text.trim s)
  | bracedTemplate {inner : NodeId} {quasis : List (Option String)}
      (hValue : t.payload? value = some (.jsxContainer (some inner)))
      (hInner : t.payload? inner = some (.template quasis [])) :
      ValueText t value (Text.trim (String.join quasis.reduceOption))

/-- An attribute at fault, with what is reported of it: the tag of its element, its name and its
text. -/
structure FaultyAttribute (t : Tree) (ignored : List String) (id : NodeId)
    (tag name text : String) : Prop where
  shown : ∃ value, t.payload? id = some (.jsxAttribute name (some value)) ∧ ValueText t value text
  not_ignored : name ∉ ignored
  letters : Markup.HasLetters text
  not_constant : ¬ Markup.ConstantLike text
  untranslated : ¬ ∃ k a attributes, t.enclosing? id k = some a ∧
    t.payload? a = some (.jsxElement (some "Trans") attributes)
  not_svg : tag ∉ Markup.svgTags
  visible : tag ∈ Markup.htmlTags → name ∈ ["placeholder", "alt", "aria-label", "value"]
  /-- The element is the parent of the attribute, and not a choice that is a message. Its list of
  attributes need not have this one in it. -/
  owned : ∃ owner attributes, t.parent? id = some owner ∧
    t.payload? owner = some (.jsxElement (some tag) attributes) ∧
    (tag ∈ ["Plural", "Select"] →
      ¬ (t.HasAttribute attributes "value" ∧ t.HasAttribute attributes "other"))

theorem isLocalizable_iff {text : String} :
    isLocalizable text = true ↔ Markup.HasLetters text ∧ ¬ Markup.ConstantLike text := by
  rw [isLocalizable, Bool.and_eq_true, Bool.not_eq_true', ← Bool.not_eq_true,
    Markup.containsAlphabetic_iff, Markup.isUpperCaseToken_iff]
  refine and_congr_right ?_
  rintro ⟨c, hc, -⟩
  -- a text with a letter in it is not empty
  have hne : text.toList ≠ [] := List.ne_nil_of_mem hc
  simp [hne]

/-- The literal that is found for a value carries the text of the value. -/
theorem valueText_iff {value : NodeId} {text : String} :
    ValueText t value text ↔
      ∃ literal, attributeLiteral? t value = some literal ∧ t.literalText literal = text := by
  constructor
  · intro h
    cases h with
    | string hValue =>
      exact ⟨value, by simp only [attributeLiteral?, hValue], by rw [Tree.literalText, hValue]⟩
    | @bracedString inner s hValue hInner =>
      exact ⟨inner, by simp only [attributeLiteral?, hValue, hInner],
        by rw [Tree.literalText, hInner]⟩
    | @bracedTemplate inner quasis hValue hInner =>
      refine ⟨inner, by simp only [attributeLiteral?, hValue, hInner], ?_⟩
      rw [Tree.literalText, hInner]
      rfl
  · rintro ⟨literal, hLiteral, rfl⟩
    unfold attributeLiteral? at hLiteral
    split at hLiteral
    · rename_i s hValue
      obtain rfl := Option.some.inj hLiteral
      rw [Tree.literalText, hValue]
      exact .string hValue
    · rename_i inner hValue
      split at hLiteral
      · rename_i s hInner
        obtain rfl := Option.some.inj hLiteral
        rw [Tree.literalText, hInner]
        exact .bracedString hValue hInner
      · rename_i quasis hInner
        obtain rfl := Option.some.inj hLiteral
        rw [Tree.literalText, hInner]
        exact .bracedTemplate hValue hInner
      · cases hLiteral
    · cases hLiteral

theorem attributeText?_eq_some_iff {name text : String} {value : NodeId} :
    attributeText? t ignored name value = some text ↔
      name ∉ ignored ∧ ValueText t value text ∧ Markup.HasLetters text ∧
        ¬ Markup.ConstantLike text := by
  rw [valueText_iff, ← isLocalizable_iff]
  by_cases hIgnored : name ∈ ignored
  · simp [attributeText?, hIgnored]
  · -- past the list of ignored names, the text is that of the literal or there is none
    have hText : attributeText? t ignored name value =
        (attributeLiteral? t value).bind fun literal =>
          if isLocalizable (t.literalText literal) then some (t.literalText literal) else none := by
      simp [attributeText?, hIgnored]
    rw [hText]
    simp only [Option.bind_eq_some_iff, Option.ite_none_right_eq_some, Option.some.injEq]
    constructor
    · rintro ⟨literal, hLiteral, hLocalizable, rfl⟩
      exact ⟨hIgnored, ⟨literal, hLiteral, rfl⟩, hLocalizable⟩
    · rintro ⟨-, ⟨literal, hLiteral, rfl⟩, hLocalizable⟩
      exact ⟨literal, hLiteral, hLocalizable, rfl⟩

theorem ownerTag?_eq_some_iff {owner : NodeId} {tag : String} :
    ownerTag? t id = some (owner, tag) ↔
      t.parent? id = some owner ∧ t.elementName? owner = some tag := by
  simp only [ownerTag?, Option.bind_eq_bind, Option.pure_def, Option.bind_eq_some_iff,
    Option.some.injEq, Prod.mk.injEq]
  constructor
  · rintro ⟨p, hParent, name, hName, rfl, rfl⟩
    exact ⟨hParent, hName⟩
  · rintro ⟨hParent, hName⟩
    exact ⟨owner, hParent, tag, hName, rfl, rfl⟩

/-- An attribute of the component that makes everything a message is inside it. -/
theorem ne_trans_of_untranslated {owner : NodeId} {tag : String} {attributes : List NodeId}
    (hParent : t.parent? id = some owner)
    (hElement : t.payload? owner = some (.jsxElement (some tag) attributes))
    (hOutside : ¬ ∃ k a attributes, t.enclosing? id k = some a ∧
      t.payload? a = some (.jsxElement (some "Trans") attributes)) : tag ≠ "Trans" := by
  rintro rfl
  exact hOutside ⟨0, owner, attributes, Tree.enclosing?_zero hParent hElement, hElement⟩

theorem attributeFault?_eq_some_iff {fault : Fault} :
    t.kind? id = some .jsxAttribute ∧ attributeFault? t ignored id = some fault ↔
      ∃ tag name text, fault = .unlocalizedAttribute tag name text ∧
        FaultyAttribute t ignored id tag name text := by
  constructor
  · rintro ⟨-, hFault⟩
    unfold attributeFault? at hFault
    split at hFault
    · rename_i name value hPayload
      simp only [Option.bind_eq_bind, Option.bind_eq_some_iff, Prod.exists,
        Option.ite_none_left_eq_some, Option.some.injEq] at hFault
      obtain ⟨text, hText, owner, tag, hOwner, hOutside, hAllowed, rfl⟩ := hFault
      obtain ⟨hIgnored, hShown, hLetters, hConstant⟩ := attributeText?_eq_some_iff.mp hText
      obtain ⟨hParent, hName⟩ := ownerTag?_eq_some_iff.mp hOwner
      obtain ⟨attributes, hElement⟩ := Tree.elementName?_eq_some_iff.mp hName
      rw [Tree.isInside_iff] at hOutside
      have hTrans : tag ≠ "Trans" := ne_trans_of_untranslated hParent hElement hOutside
      rw [Bool.not_eq_true, Markup.isAllowedAttribute_eq_false_iff hTrans,
        Tree.mem_attributeNames_iff hElement, Tree.mem_attributeNames_iff hElement] at hAllowed
      obtain ⟨hSvg, hVisible, hChoice⟩ := hAllowed
      exact ⟨tag, name, text, rfl, ⟨value, hPayload, hShown⟩, hIgnored, hLetters, hConstant,
        hOutside, hSvg, hVisible, owner, attributes, hParent, hElement, hChoice⟩
    · cases hFault
  · rintro ⟨tag, name, text, rfl, h⟩
    obtain ⟨value, hPayload, hShown⟩ := h.shown
    obtain ⟨owner, attributes, hParent, hElement, hChoice⟩ := h.owned
    have hText : attributeText? t ignored name value = some text :=
      attributeText?_eq_some_iff.mpr ⟨h.not_ignored, hShown, h.letters, h.not_constant⟩
    have hOwner : ownerTag? t id = some (owner, tag) :=
      ownerTag?_eq_some_iff.mpr ⟨hParent, Tree.elementName?_eq_some_iff.mpr ⟨attributes, hElement⟩⟩
    have hOutside : ¬ t.isInside id Markup.transComponent = true := by
      rw [Tree.isInside_iff]
      exact h.untranslated
    have hAllowed : Markup.isAllowedAttribute tag name (t.attributeNames owner) = false := by
      have hTrans : tag ≠ "Trans" := ne_trans_of_untranslated hParent hElement h.untranslated
      rw [Markup.isAllowedAttribute_eq_false_iff hTrans, Tree.mem_attributeNames_iff hElement,
        Tree.mem_attributeNames_iff hElement]
      exact ⟨h.not_svg, h.visible, hChoice⟩
    refine ⟨Tree.kind?_of_payload? hPayload, ?_⟩
    simp [attributeFault?, hPayload, hText, hOwner, hOutside, hAllowed]

/-- Over a tree whose root is not its own parent, the rule on attributes reports the reachable
attributes at fault, each once, in pre-order, with the tag of its element, its name and its trimmed
text, at its stored position, and nothing else. -/
theorem unlocalizedAttribute_reports (ht : t.Built) (h0 : t.parent? 0 ≠ some 0)
    (ignored : List String) :
    Reports t (unlocalizedAttribute t ignored) fun id fault =>
      ∃ tag name text, fault = .unlocalizedAttribute tag name text ∧
        FaultyAttribute t ignored id tag name text :=
  reports_of_fault? ht h0 rfl (fun _ => rfl) fun _ _ => attributeFault?_eq_some_iff

/-- An element whose attribute is not in its list, with a template in braces as the value, and
beside it a choice that is a message. -/
def attributesTree : Tree :=
  ((((((((Tree.empty.push .program none ⟨1, 1⟩).push (.jsxElement (some "Card") []) (some 0)
    ⟨1, 1⟩).push (.jsxAttribute "title" (some 3)) (some 1) ⟨1, 7⟩).push (.jsxContainer (some 4))
    (some 2) ⟨1, 13⟩).push (.template [some " Sign", none, some " in "] []) (some 3) ⟨1, 14⟩).push
    (.jsxElement (some "Select") [6, 7]) (some 0) ⟨2, 1⟩).push (.jsxAttribute "value" (some 8))
    (some 5) ⟨2, 9⟩).push (.jsxAttribute "other" none) (some 5) ⟨2, 21⟩).push
    (.stringLiteral "Any") (some 6) ⟨2, 15⟩

theorem attributesTree_built : attributesTree.Built :=
  .push (.push (.push (.push (.push (.push (.push (.push (.push .empty _ _ _) _ _ _) _ _ _) _ _ _)
    _ _ _) _ _ _) _ _ _) _ _ _) _ _ _

/-- The attribute of the first element is reported, and that of the choice is not. -/
theorem attributesTree_reported : attributesTree.Built ∧ attributesTree.parent? 0 ≠ some 0 ∧
    ∃ found, attributesTree.traverse? [unlocalizedAttribute attributesTree ["alt"]] = some found ∧
      ⟨2, ⟨1, 7⟩, .unlocalizedAttribute "Card" "title" "Sign in"⟩ ∈ found ∧
      ∀ f ∈ found, f.node ≠ 6 := by
  have h0 : attributesTree.parent? 0 ≠ some 0 := by decide
  obtain ⟨_, found, _, hFound, _, _, hMem⟩ :=
    unlocalizedAttribute_reports attributesTree_built h0 ["alt"]
  refine ⟨attributesTree_built, h0, found, hFound, (hMem _).mpr ⟨?_, ?_, ?_⟩, ?_⟩
  · refine ⟨0, by decide, ?_⟩
    exact .tail (.tail .refl (show 1 ∈ attributesTree.children 0 by decide))
      (show 2 ∈ attributesTree.children 1 by decide)
  · exact attributeFault?_eq_some_iff.mp ⟨by decide, by decide +kernel⟩
  · exact ⟨_, rfl, rfl⟩
  · rintro f hf hNode
    have hNone : attributeFault? attributesTree ["alt"] 6 = none := by decide +kernel
    have hFault := (attributeFault?_eq_some_iff.mpr ((hMem f).mp hf).2.1).2
    rw [hNode, hNone] at hFault
    cases hFault

end Check

end MessageLint
