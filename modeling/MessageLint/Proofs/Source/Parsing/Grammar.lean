import MessageLint.Proofs.Source.Parsing.Operands
import MessageLint.Source.Parser.Grammar

/-!
# MessageLint — parsers stay in their text: expressions, elements, statements and programs

The remaining parsers, and with them the grammars of every depth. Between the tags of an element
there are no tokens: children are read from where the last token ended, and this is where inline
texts come from (`keeps_child?`). A child that fails leaves the parser where the fault is, which
`keeps_children` relies on.

* `writtenIn_contents` — every inline text of a program is written in its text.
-/

namespace MessageLint.Source

open Std.Do
open Grounded (grounded)

set_option mvcgen.warning false

namespace Parser

variable {text : List Char} {g : Grammar}

/-! ## Expressions -/

section Expressions

/-- Angle brackets that are put together are still characters of ASCII. -/
theorem in_operatorAt {t : Token} (h : t.In text) {op : String} {after : Remaining}
    (hOp : operatorAt t = some (op, after)) : after.In text := by
  have hAngles : angleOperators.all (fun op => op.toList.all fun c => decide (IsAscii c)) := by
    decide
  simp only [List.all_eq_true, decide_eq_true_eq] at hAngles
  unfold operatorAt at hOp
  split at hOp
  · split at hOp
    · rename_i angle hAngle
      obtain ⟨rfl, rfl⟩ := Prod.mk.inj (Option.some.inj hOp)
      have hFront := List.find?_some hAngle
      rw [List.isPrefixOf_iff_prefix] at hFront
      have hAscii := hAngles angle (List.mem_of_find?_eq_some hAngle)
      rw [← String.length_toList]
      exact h.here.leads (Remaining.leads_drop hFront hAscii _)
    · obtain ⟨-, rfl⟩ := Prod.mk.inj (Option.some.inj hOp)
      exact h.after
  · obtain ⟨-, rfl⟩ := Prod.mk.inj (Option.some.inj hOp)
    exact h.after
  · cases hOp

instance : Grounded Pending := ⟨fun text p => grounded text p.left⟩

instance : Grounded OperandStack :=
  ⟨fun text operands => grounded text operands.waiting ∧ grounded text operands.last⟩

@[grind =] theorem grounded_pending (p : Pending) : grounded text p = grounded text p.left := rfl

@[grind =] theorem grounded_operandStack (operands : OperandStack) :
    grounded text operands = (grounded text operands.waiting ∧ grounded text operands.last) := rfl

theorem grounded_fold (strength : Nat) {ps : List Pending} {e : Expr} (hps : grounded text ps)
    (he : grounded text e) : grounded text (fold strength ps e) := by
  fun_induction fold strength ps e <;> grind

@[grind .] theorem grounded_fold_waiting (strength : Nat) {ps : List Pending} {e : Expr}
    (hps : grounded text ps) (he : grounded text e) :
    grounded text (fold strength ps e).waiting := (grounded_fold strength hps he).1

@[grind .] theorem grounded_fold_last (strength : Nat) {ps : List Pending} {e : Expr}
    (hps : grounded text ps) (he : grounded text e) :
    grounded text (fold strength ps e).last := (grounded_fold strength hps he).2

@[grind .] theorem grounded_asTarget {e : Expr} (h : grounded text e) :
    grounded text e.asTarget := by
  unfold Expr.asTarget
  split <;> grind

instance : Grounded ArrowHead :=
  ⟨fun text head => grounded text head.parameters ∧ grounded text head.types⟩

@[grind =] theorem grounded_arrowHead (head : ArrowHead) :
    grounded text head = (grounded text head.parameters ∧ grounded text head.types) := rfl

@[spec] theorem keeps_arrow : Keeps text arrow := by
  mvcgen [arrow]
  all_goals grind

@[spec] theorem keeps_shortArrowHead : Keeps text shortArrowHead := by
  mvcgen [shortArrowHead]
  all_goals grind

variable (hg : g.Keeps text)

include hg

@[spec] theorem keeps_unary : Keeps text (unary g) := by
  mvcgen [unary]
  all_goals grind

@[spec] theorem keeps_assertedType : Keeps text (assertedType g) := by
  mvcgen [assertedType]
  all_goals grind

@[spec] theorem keeps_binaryStep {operands : OperandStack} (h : grounded text operands) :
    Keeps text (binaryStep g operands) := by
  -- the operator can end before or after the next token does
  mvcgen [binaryStep]
  all_goals grind [in_operatorAt, → State.In.token]

@[spec] theorem keeps_binary : Keeps text (binary g) := by
  mvcgen [binary]
  all_goals grind

@[spec] theorem keeps_conditional : Keeps text (conditional g) := by
  mvcgen [conditional]
  all_goals grind

@[spec] theorem keeps_plainAssignment : Keeps text (plainAssignment g) := by
  -- a pattern is parsed a second time from the state before it, which is in the text as well
  mvcgen [plainAssignment]
  all_goals grind [in_operatorAt]

@[spec] theorem keeps_arrowHead (mayHaveType : Bool) : Keeps text (arrowHead g mayHaveType) := by
  mvcgen [arrowHead]
  all_goals grind

@[spec] theorem keeps_arrowTail (start : Nat) {head : ArrowHead} (h : grounded text head) :
    Keeps text (arrowTail g start head) := by
  mvcgen [arrowTail]
  all_goals grind

@[spec] theorem keeps_arrowHead? (mayHaveType : Bool) : Keeps text (arrowHead? g mayHaveType) := by
  mvcgen [arrowHead?]
  all_goals grind

@[spec] theorem keeps_arrowFunction? : Keeps text (arrowFunction? g) := by
  mvcgen [arrowFunction?]
  all_goals grind

@[spec] theorem keeps_genericArrow : Keeps text (genericArrow g) := by
  mvcgen [genericArrow]
  all_goals grind

@[spec] theorem keeps_yieldExpression : Keeps text (yieldExpression g) := by
  mvcgen [yieldExpression]
  all_goals grind

@[spec] theorem keeps_assignment : Keeps text (assignment g) := by
  mvcgen [assignment]
  all_goals grind

@[spec] theorem keeps_expression : Keeps text (expression g) := by
  mvcgen [expression]
  all_goals grind

end Expressions

/-! ## Elements -/

section Elements

instance : Grounded ElementName := ⟨fun _ _ => True⟩

@[grind =] theorem grounded_elementName (name : ElementName) : grounded text name = True := rfl

theorem in_tagName {t : Token} (h : t.In text) :
    Remaining.In text ⟨t.here.chars.drop (t.here.chars.takeWhile isTagNamePart).length,
      t.here.offset + (String.ofList (t.here.chars.takeWhile isTagNamePart)).utf8ByteSize⟩ :=
  h.here.leads (Remaining.leads_takeWhile _ _ _)

@[spec] theorem keeps_tagName : Keeps text tagName := by
  mvcgen [tagName]
  all_goals grind [in_tagName]

@[spec] theorem keeps_elementName : Keeps text elementName := by
  mvcgen [elementName]
  all_goals grind

theorem in_attributeString {t : Token} (h : t.In text) {quote : Char} {cs : List Char}
    {fuel : Nat} {after : Remaining} (hQuote : quote? t.here = some quote)
    (hAfter : Literal.attributeString quote fuel ⟨t.here.chars.drop 1, t.start + 1⟩ =
      .ok (cs, after)) : after.In text := by
  obtain ⟨hFront, hAscii⟩ : [quote] <+: t.here.chars ∧ IsAscii quote := by
    unfold quote? at hQuote
    split at hQuote
    · rename_i c rest hChars
      split_ifs at hQuote with hc
      obtain rfl := Option.some.inj hQuote
      refine ⟨by simp [hChars], ?_⟩
      simp only [Bool.or_eq_true, beq_iff_eq] at hc
      rcases hc with rfl | rfl <;> decide
    · cases hQuote
  have hFirst := Remaining.leads_drop hFront (List.forall_mem_singleton.mpr hAscii) t.here.offset
  exact (h.here.leads hFirst).leads (Literal.leads_attributeString hAscii hAfter)

@[grind .] theorem grounded_childParts {e : Expr} (h : grounded text e) :
    grounded text (childParts e) := by
  unfold childParts
  split <;> grind

theorem in_afterBrace {r : Remaining} (h : r.In text) {rest : List Char}
    (hr : r.chars = '\x7b' :: rest) : Remaining.In text ⟨rest, r.offset + 1⟩ :=
  h.leads ⟨['\x7b'], hr, rfl⟩

@[spec] theorem keeps_closingMark : Keeps text closingMark := by
  mvcgen [closingMark]
  all_goals grind

variable (hg : g.Keeps text)

include hg

@[spec] theorem keeps_bracedExpression : Keeps text (bracedExpression g) := by
  mvcgen [bracedExpression]
  all_goals grind

@[spec] theorem keeps_attributeValue : Keeps text (attributeValue g) := by
  mvcgen [attributeValue]
  all_goals grind [in_attributeString]

@[spec] theorem keeps_elementAttribute : Keeps text (elementAttribute g) := by
  mvcgen [elementAttribute]
  all_goals grind

@[spec] theorem keeps_attributes : Keeps text (attributes g) := by
  mvcgen [attributes]
  all_goals grind

@[spec] theorem keeps_childBraces (start : Nat) : Keeps text (childBraces g start) := by
  mvcgen [childBraces]
  all_goals grind

@[spec] theorem keeps_child? {r : Remaining} (h : r.In text) : Keeps text (child? g r) := by
  -- a tag and a brace lead back to tokens, anything else begins an inline text
  mvcgen [child?]
  all_goals grind [grounded_inlineText, in_inlineText, in_afterBrace]

theorem keeps_children (fuel : Nat) : Keeps text (children g fuel) := by
  induction fuel with
  | zero => exact keeps_giveUp _
  | succ fuel ih =>
    -- a child leaves off in the text whether or not it can be parsed, and the next begins there
    mvcgen [children, ih]
    all_goals grind [State.In.rest]

@[spec] theorem keeps_elementTail (name : ElementName) : Keeps text (elementTail g name) := by
  mvcgen [elementTail, keeps_children]
  all_goals grind

@[spec] theorem keeps_fragmentTail (start : Nat) : Keeps text (fragmentTail g start) := by
  mvcgen [fragmentTail, keeps_children]
  all_goals grind

@[spec] theorem keeps_element : Keeps text (element g) := by
  mvcgen [element]
  all_goals grind

end Elements

/-! ## Statements -/

section Statements

@[spec] theorem keeps_skipStatement : Keeps text skipStatement := by
  mvcgen [skipStatement]
  all_goals grind

@[spec] theorem keeps_atVariables : Keeps text atVariables := by
  mvcgen [atVariables]
  all_goals grind

@[spec] theorem keeps_eatAwaitUsing : Keeps text eatAwaitUsing := by
  mvcgen [eatAwaitUsing]
  all_goals grind

@[spec] theorem keeps_jumpStatement : Keeps text jumpStatement := by
  mvcgen [jumpStatement]
  all_goals grind

variable (hg : g.Keeps text)

include hg

@[spec] theorem keeps_expressionPart : Keeps text (expressionPart g) := by
  mvcgen [expressionPart]
  all_goals grind

@[spec] theorem keeps_parenthesizedHead : Keeps text (parenthesizedHead g) := by
  mvcgen [parenthesizedHead]
  all_goals grind

@[spec] theorem keeps_declarator : Keeps text (declarator g) := by
  mvcgen [declarator]
  all_goals grind

@[spec] theorem keeps_declarators : Keeps text (declarators g) := by
  mvcgen [declarators]
  all_goals grind

@[spec] theorem keeps_variableStatement : Keeps text (variableStatement g) := by
  mvcgen [variableStatement]
  all_goals grind

@[spec] theorem keeps_iterated : Keeps text (iterated g) := by
  mvcgen [iterated]
  all_goals grind

@[spec] theorem keeps_countingHead : Keeps text (countingHead g) := by
  mvcgen [countingHead]
  all_goals grind

@[spec] theorem keeps_expressionLoopHead : Keeps text (expressionLoopHead g) := by
  mvcgen [expressionLoopHead]
  all_goals grind

@[spec] theorem keeps_loopHead : Keeps text (loopHead g) := by
  mvcgen [loopHead]
  all_goals grind

@[spec] theorem keeps_forStatement : Keeps text (forStatement g) := by
  mvcgen [forStatement]
  all_goals grind

@[spec] theorem keeps_doStatement : Keeps text (doStatement g) := by
  mvcgen [doStatement]
  all_goals grind

@[spec] theorem keeps_ifStatement : Keeps text (ifStatement g) := by
  mvcgen [ifStatement]
  all_goals grind

@[spec] theorem keeps_caseBody : Keeps text (caseBody g) := by
  mvcgen [caseBody]
  all_goals grind

@[spec] theorem keeps_switchCase : Keeps text (switchCase g) := by
  mvcgen [switchCase]
  all_goals grind

@[spec] theorem keeps_switchStatement : Keeps text (switchStatement g) := by
  mvcgen [switchStatement]
  all_goals grind

@[spec] theorem keeps_tryStatement : Keeps text (tryStatement g) := by
  mvcgen [tryStatement]
  all_goals grind

@[spec] theorem keeps_valueStatement : Keeps text (valueStatement g) := by
  mvcgen [valueStatement]
  all_goals grind

@[spec] theorem keeps_expressionStatement : Keeps text (expressionStatement g) := by
  mvcgen [expressionStatement]
  all_goals grind

@[spec] theorem keeps_keywordStatement? : Keeps text (keywordStatement? g) := by
  mvcgen [keywordStatement?]
  all_goals grind

end Statements

/-! ## Declarations -/

section Declarations

@[spec] theorem keeps_specifierName : Keeps text specifierName := by
  mvcgen [specifierName]
  all_goals grind [stringPart?]

@[spec] theorem keeps_atSpecifierEnd : Keeps text atSpecifierEnd := by
  mvcgen [atSpecifierEnd]
  all_goals grind

@[spec] theorem keeps_eatTypeWord : Keeps text eatTypeWord := by
  mvcgen [eatTypeWord]
  all_goals grind

@[spec] theorem keeps_specifier : Keeps text specifier := by
  mvcgen [specifier]
  all_goals grind

@[spec] theorem keeps_specifiers : Keeps text specifiers := by
  mvcgen [specifiers]
  all_goals grind

@[spec] theorem keeps_importNamespace : Keeps text importNamespace := by
  mvcgen [importNamespace]
  all_goals grind

@[spec] theorem keeps_importClause : Keeps text importClause := by
  mvcgen [importClause]
  all_goals grind

@[spec] theorem keeps_importEquals : Keeps text importEquals := by
  mvcgen [importEquals]
  all_goals grind

@[spec] theorem keeps_eatTypeOnly : Keeps text eatTypeOnly := by
  mvcgen [eatTypeOnly]
  all_goals grind

variable (hg : g.Keeps text)

include hg

@[spec] theorem keeps_typeAlias : Keeps text (typeAlias g) := by
  mvcgen [typeAlias]
  all_goals grind

@[spec] theorem keeps_interfaceDeclaration : Keeps text (interfaceDeclaration g) := by
  mvcgen [interfaceDeclaration]
  all_goals grind

@[spec] theorem keeps_enumMember : Keeps text (enumMember g) := by
  mvcgen [enumMember]
  all_goals grind

@[spec] theorem keeps_enumDeclaration : Keeps text (enumDeclaration g) := by
  mvcgen [enumDeclaration]
  all_goals grind

@[spec] theorem keeps_namespaceDeclaration : Keeps text (namespaceDeclaration g) := by
  mvcgen [namespaceDeclaration]
  all_goals grind [stringPart?]

@[spec] theorem keeps_typeDeclaration : Keeps text (typeDeclaration g) := by
  mvcgen [typeDeclaration]
  all_goals grind

@[spec] theorem keeps_importAttributes : Keeps text (importAttributes g) := by
  mvcgen [importAttributes]
  all_goals grind

@[spec] theorem keeps_moduleSource : Keeps text (moduleSource g) := by
  mvcgen [moduleSource]
  all_goals grind

@[spec] theorem keeps_fromModule : Keeps text (fromModule g) := by
  mvcgen [fromModule]
  all_goals grind

@[spec] theorem keeps_importDeclaration : Keeps text (importDeclaration g) := by
  mvcgen [importDeclaration]
  all_goals grind

@[spec] theorem keeps_defaultExport : Keeps text (defaultExport g) := by
  mvcgen [defaultExport]
  all_goals grind

@[spec] theorem keeps_exportAll : Keeps text (exportAll g) := by
  mvcgen [exportAll]
  all_goals grind

@[spec] theorem keeps_exportNamed : Keeps text (exportNamed g) := by
  mvcgen [exportNamed]
  all_goals grind

@[spec] theorem keeps_exportDeclaration : Keeps text (exportDeclaration g) := by
  mvcgen [exportDeclaration]
  all_goals grind

@[spec] theorem keeps_statement : Keeps text (statement g) := by
  mvcgen [statement]
  all_goals grind

end Declarations

end Parser

/-! ## The whole grammar -/

theorem Grammar.Keeps.deepen {text : List Char} {g : Grammar} (hg : g.Keeps text) :
    g.deepen.Keeps text where
  expression := Parser.keeps_expression hg
  assignment := Parser.keeps_assignment hg
  unary := Parser.keeps_unary hg
  type := Parser.keeps_type hg
  binding := Parser.keeps_binding hg
  target := Parser.keeps_target hg
  statement := Parser.keeps_statement hg
  element := Parser.keeps_element hg

theorem Grammar.keeps_ofDepth (text : List Char) (n : Nat) : (Grammar.ofDepth n).Keeps text := by
  induction n with
  | zero => exact Grammar.keeps_bottom text
  | succ n ih => exact ih.deepen

theorem Parser.keeps_program {text : List Char} {g : Grammar} (hg : g.Keeps text) :
    Source.Keeps text (Parser.program g) := by
  mvcgen [Parser.program]
  all_goals grind

theorem leads_skipInterpreterLine (r : Remaining) : r.Leads (skipInterpreterLine r) := by
  unfold skipInterpreterLine
  split
  · exact Remaining.leads_takeWhile _ _ _
  · exact .refl r

/-- Every inline text of a program is written in it. -/
theorem writtenIn_contents {text : List Char} {found : Contents} (h : contents text = .ok found) :
    WrittenIn text found.outline.pieces := by
  have hStart : (State.ofRemaining (skipInterpreterLine ⟨text, 0⟩)).In text :=
    State.in_ofRemaining (leads_skipInterpreterLine _)
  have hGrammar := Grammar.keeps_ofDepth text (4 * text.length + 16)
  -- the run of the program that `contents` looks at
  have hRun := keeps_iff.mp (Parser.keeps_program hGrammar) _ hStart
  unfold contents at h
  dsimp only at h
  split at h
  · rename_i parts last hProgram
    obtain rfl := Except.ok.inj h
    rw [hProgram] at hRun
    exact (writtenIn_cons (by simp) _).mpr ((writtenIn_partsPieces parts).mpr hRun.1)
  · cases h

end MessageLint.Source
