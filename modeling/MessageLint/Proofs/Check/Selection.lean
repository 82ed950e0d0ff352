import MessageLint.Check
import MessageLint.Proofs.Tree.Traversal

/-!
# MessageLint — selecting rules only filters

All rules share one pass, exempted texts and attributes are looked at inside the rules, and
directives afterwards. None of this lets one rule influence what another finds: a check with any
selection, exemptions and directives is the full check with some issues left out.

* `attributeFault?_eq`, `textFault?_eq` — an exemption drops a fault and never makes one.
* `dispatch_visitors` — at each event, what the selected rules find is a part of what all find.
* `file_eq_filter` — the same for the issues of a file.
-/

namespace MessageLint.Check

variable {t : Tree} {id : NodeId}

/-! ## What is exempted -/

/-- Does the exemption of texts or attributes cover the fault? -/
def Exemptions.covers (exempt : Exemptions) : Fault → Bool
  | .disallowedExpression => false
  | .unlocalizedAttribute _ name _ => exempt.attributes.contains name
  | .unlocalizedText text => exempt.texts.contains text

theorem attributeText?_eq (ignored : List String) (name : String) (value : NodeId) :
    attributeText? t ignored name value =
      if ignored.contains name then none else attributeText? t [] name value := by
  unfold attributeText?
  split <;> simp_all

/-- An exempted attribute has no fault, and the others have the faults they would have anyway. -/
theorem attributeFault?_eq (exempt : Exemptions) :
    attributeFault? t exempt.attributes id =
      (attributeFault? t [] id).filter fun fault => !exempt.covers fault := by
  unfold attributeFault?
  split
  · rename_i name value hPayload
    rw [attributeText?_eq]
    cases attributeText? t [] name value with
    | none => simp
    | some text =>
      cases ownerTag? t id with
      | none => simp
      | some owner =>
        -- whatever else is asked, a fault carries the name of its attribute
        by_cases hIgnored : name ∈ exempt.attributes <;>
          simp [hIgnored, Exemptions.covers, apply_ite (Option.filter _), Option.filter_some]
  · rfl

/-- Likewise for texts. -/
theorem textFault?_eq (exempt : Exemptions) :
    textFault? t exempt.texts id =
      (textFault? t [] id).filter fun fault => !exempt.covers fault := by
  simp only [textFault?, apply_ite (Option.filter _)]
  by_cases hIgnored : t.literalText id ∈ exempt.texts <;>
    simp [hIgnored, Exemptions.covers, Option.filter_some]

theorem rule_of_attributeFault? {ignored : List String} {fault : Fault}
    (h : attributeFault? t ignored id = some fault) : fault.rule = .unlocalizedAttribute := by
  unfold attributeFault? at h
  split at h
  · simp only [Option.bind_eq_bind, Option.bind_eq_some_iff] at h
    obtain ⟨text, -, owner, -, h⟩ := h
    split at h
    · cases h
    · split at h
      · cases h
      · obtain rfl : _ = fault := Option.some.inj h
        rfl
  · cases h

theorem rule_of_textFault? {ignored : List String} {fault : Fault}
    (h : textFault? t ignored id = some fault) : fault.rule = .unlocalizedText := by
  simp only [textFault?, Option.ite_none_left_eq_some, Option.some.injEq] at h
  obtain ⟨-, -, -, rfl⟩ := h
  rfl

/-! ## One event -/

/-- Is the finding one of the selected rules and not exempted? -/
def selects (rules : List Rule) (exempt : Exemptions) (f : Finding) : Bool :=
  rules.contains f.fault.rule && !exempt.covers f.fault

/-- A rule that reports at most one fault for a node: selecting it or not, and exempting, filters. -/
theorem filter_report {rule : Rule} {fault? exempted? : Option Fault} (rules : List Rule)
    (exempt : Exemptions) (hRule : ∀ fault, fault? = some fault → fault.rule = rule)
    (hExempt : exempted? = fault?.filter fun fault => !exempt.covers fault) :
    ((fault?.map (t.report id)).toList).filter (selects rules exempt) =
      if rules.contains rule then (exempted?.map (t.report id)).toList else [] := by
  subst hExempt
  cases fault? with
  | none => simp
  | some fault =>
    obtain rfl := hRule fault rfl
    by_cases hSelected : fault.rule ∈ rules <;> by_cases hCovers : exempt.covers fault = true <;>
      simp [selects, Tree.report, hSelected, hCovers, Option.filter_some]

/-- At one event a selected rule finds what it would find without exemptions, less the exempted. -/
theorem dispatch_selected {v full : Visitor Finding} (kind : Kind) (phase : Phase)
    {keep : Finding → Bool} {selected : Bool} (hv : v.subscriptions = [(kind, phase)])
    (hFull : full.subscriptions = [(kind, phase)])
    (h : ∀ id, (full.respond phase id).filter keep = if selected then v.respond phase id else [])
    (e : Event) :
    t.dispatch (if selected then [v] else []) (.ofVisitors (if selected then [v] else [])) e =
      (t.dispatch [full] (.ofVisitors [full]) e).filter keep := by
  rw [Tree.dispatch_one hFull, apply_ite (List.filter keep), h]
  cases selected with
  | true => simpa using Tree.dispatch_one hv e
  | false => simpa using t.dispatch_nil e

/-- At each event the selected rules find what all rules find, less what is not selected or is
exempted. -/
theorem dispatch_visitors (rules : List Rule) (exempt : Exemptions) (e : Event) :
    t.dispatch (visitors t rules exempt) (.ofVisitors (visitors t rules exempt)) e =
      (t.dispatch (visitors t Rule.suppressible {})
        (.ofVisitors (visitors t Rule.suppressible {})) e).filter (selects rules exempt) := by
  have hAll : visitors t Rule.suppressible {} =
      [messageExpression t] ++ [unlocalizedAttribute t []] ++ [unlocalizedText t []] := rfl
  -- rule by rule, since visitors do not disturb each other
  rw [hAll, visitors]
  simp only [Tree.dispatch_append, List.filter_append]
  congr 1
  · congr 1
    · refine dispatch_selected .template .exit rfl rfl (fun id => ?_) e
      by_cases hRule : Rule.messageExpression ∈ rules <;>
        by_cases hFault : decideTemplate t id = .violation <;>
        simp [messageExpression, hFault, hRule, selects, Tree.report, Exemptions.covers, Fault.rule]
    · refine dispatch_selected .jsxAttribute .enter rfl rfl (fun id => ?_) e
      exact filter_report rules exempt (fun _ => rule_of_attributeFault?) (attributeFault?_eq exempt)
  · refine dispatch_selected .jsxText .enter rfl rfl (fun id => ?_) e
    exact filter_report rules exempt (fun _ => rule_of_textFault?) (textFault?_eq exempt)

/-! ## One file -/

theorem findings_eq_filter (t : Tree) (rules : List Rule) (exempt : Exemptions) :
    findings t rules exempt =
      (findings t Rule.suppressible {}).filter (selects rules exempt) := by
  unfold findings Tree.traverse?
  cases t.walk? with
  | none => rfl
  | some events =>
    -- the events of the pass do not depend on who listens
    simp only [Option.map_some, Option.getD_some]
    rw [List.filter_flatMap]
    exact List.flatMap_congr fun e _ => dispatch_visitors rules exempt e

/-- Does an issue stay when some rules are selected, some texts and attributes exempted, and the
directives of the file followed? -/
def stays (rules : List Rule) (exempt : Exemptions) (suppression : Suppression) (i : Issue) : Bool :=
  rules.contains i.rule && !suppression.ignores i.sortLine i.rule &&
    match i with
    | .fault _ fault => !exempt.covers fault
    | .unparsed .. => true

theorem stays_toIssue (path source : String) (rules : List Rule) (exempt : Exemptions)
    (suppression : Suppression) (f : Finding) :
    stays rules exempt suppression (toIssue path source f) =
      (!suppression.ignores f.position.line f.fault.rule && selects rules exempt f) := by
  simp only [stays, selects, toIssue, Issue.rule, Issue.sortLine, Issue.place?, Option.map_some,
    Option.getD_some, Bool.and_assoc, Bool.and_left_comm]

theorem ignores_empty (line : Nat) (rule : Rule) : ({} : Suppression).ignores line rule = false :=
  rfl

/-- Checking a file with any selection of rules, any exemptions and any directives leaves, in the
same order, those issues of the full check without exemptions and directives that belong to a
selected rule, are not switched off on their line and are not exempted. Both checks come to an
end. -/
theorem file_eq_filter (path : String) (parsed : ParsedFile) (ht : parsed.tree.Built)
    (h0 : parsed.tree.parent? 0 ≠ some 0) (rules : List Rule) (exempt : Exemptions) :
    (parsed.tree.traverse? (visitors parsed.tree rules exempt)).isSome ∧
    (parsed.tree.traverse? (visitors parsed.tree Rule.suppressible {})).isSome ∧
    file path parsed rules exempt =
      (file path { parsed with suppression := {} } Rule.suppressible {}).filter
        (stays rules exempt parsed.suppression) := by
  obtain ⟨events, hWalk⟩ := Tree.exists_rootWalk ht.linked h0
  refine ⟨?_, ?_, ?_⟩
  · rw [Tree.traverse?_of_walk ht.linked h0 hWalk]
    rfl
  · rw [Tree.traverse?_of_walk ht.linked h0 hWalk]
    rfl
  · have hFull : file path { parsed with suppression := {} } Rule.suppressible {} =
        (findings parsed.tree Rule.suppressible {}).map (toIssue path parsed.source) := by
      simp [file, ignores_empty]
    have hStays : stays rules exempt parsed.suppression ∘ toIssue path parsed.source =
        fun f => !parsed.suppression.ignores f.position.line f.fault.rule &&
          selects rules exempt f := by
      funext f
      exact stays_toIssue path parsed.source rules exempt parsed.suppression f
    -- filtering issues is filtering the findings they come from
    rw [hFull, List.filter_map, hStays, file, findings_eq_filter, List.filter_filter]

/-- An element with two texts. -/
def greetingsTree : Tree :=
  (((Tree.empty.push .program none ⟨1, 1⟩).push (.jsxElement (some "p") []) (some 0)
    ⟨1, 1⟩).push (.jsxText "Hello") (some 1) ⟨1, 4⟩).push (.jsxText "Bye") (some 1) ⟨2, 1⟩

theorem greetingsTree_built : greetingsTree.Built :=
  .push (.push (.push (.push .empty _ _ _) _ _ _) _ _ _) _ _ _

/-- Its file, with the second text on a line that is switched off. -/
def greetings : ParsedFile where
  tree := greetingsTree
  source := "<p>Hello\nBye</p>"
  suppression := { lines := [(.unlocalizedText, 2)] }

/-- A check with repeated rules, an exempted text and a directive filters the full check. -/
theorem file_greetings :
    greetings.tree.Built ∧ greetings.tree.parent? 0 ≠ some 0 ∧
      file "a.tsx" greetings [.unlocalizedText, .parseError, .unlocalizedText] ⟨["Hi"], ["alt"]⟩ =
        (file "a.tsx" { greetings with suppression := {} } Rule.suppressible {}).filter
          (stays [.unlocalizedText, .parseError, .unlocalizedText] ⟨["Hi"], ["alt"]⟩
            greetings.suppression) := by
  have h0 : greetings.tree.parent? 0 ≠ some 0 := by decide
  exact ⟨greetingsTree_built, h0, (file_eq_filter "a.tsx" greetings greetingsTree_built h0
    [.unlocalizedText, .parseError, .unlocalizedText] ⟨["Hi"], ["alt"]⟩).2.2⟩

end MessageLint.Check
