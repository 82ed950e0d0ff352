import MessageLint.Proofs.Source.Parsing
import MessageLint.Source.Parser.Operands

/-!
# MessageLint — parsers stay in their text: types, patterns, functions and operands

One specification for each parser, in the order in which the parsers are built on one another. A
parser is a sequence of others, so that `mvcgen` takes it apart into their specifications; what is
left over is that a value is grounded if the values it is made of are.

Most parsers go on where a token ends. Those that do not are templates and regular expressions,
whose ends `in_segment` and `in_regExp` are about.
-/

namespace MessageLint.Source.Parser

open Std.Do
open Grounded (grounded)

set_option mvcgen.warning false

variable {text : List Char} {g : Grammar}

/-! ## Types -/

section Types

@[spec] theorem keeps_stringLiteral : Keeps text stringLiteral := by
  mvcgen [stringLiteral]
  all_goals grind [stringPart?]

@[grind =] theorem grounded_quasis (quasis : List (Option String)) :
    grounded text quasis = True := by
  simp [grounded]

theorem in_segment {r : Remaining} (h : r.In text) : (Literal.segment r).rest.In text :=
  h.leads (Literal.leads_segment r)

theorem keeps_templateFrom {α : Type} [Grounded α] {hole : Parser α} (h : Keeps text hole)
    (tagged : Bool) (fuel : Nat) {r : Remaining} (hr : r.In text) :
    Keeps text (templateFrom hole tagged fuel r) := by
  induction fuel generalizing r with
  | zero => exact keeps_giveUp _
  | succ fuel ih =>
    -- either the template ends with the segment, or a hole and the rest of the template follow
    mvcgen [templateFrom, h, ih]
    all_goals grind [in_segment]

@[spec] theorem keeps_templateBody {α : Type} [Grounded α] {hole : Parser α} (h : Keeps text hole)
    (tagged : Bool) : Keeps text (templateBody hole tagged) := by
  mvcgen [templateBody, keeps_templateFrom]
  all_goals grind

@[spec] theorem keeps_dottedNames : Keeps text dottedNames := by
  mvcgen [dottedNames]
  all_goals grind

@[spec] theorem keeps_indexHead : Keeps text indexHead := by
  mvcgen [indexHead]
  all_goals grind

@[spec] theorem keeps_eatModifier (s : String) : Keeps text (eatModifier s) := by
  mvcgen [eatModifier]
  all_goals grind

@[spec] theorem keeps_mappedHead : Keeps text mappedHead := by
  mvcgen [mappedHead]
  all_goals grind

variable (hg : g.Keeps text)

include hg

@[spec] theorem keeps_typeArguments : Keeps text (typeArguments g) := by
  mvcgen [typeArguments]
  all_goals grind

@[spec] theorem keeps_typeArgumentsOpt : Keeps text (typeArgumentsOpt g) := by
  mvcgen [typeArgumentsOpt]
  all_goals grind

@[spec] theorem keeps_typeParameter : Keeps text (typeParameter g) := by
  mvcgen [typeParameter]
  all_goals grind

@[spec] theorem keeps_typeParametersOpt : Keeps text (typeParametersOpt g) := by
  mvcgen [typeParametersOpt]
  all_goals grind

@[spec] theorem keeps_parameter : Keeps text (parameter g) := by
  mvcgen [parameter]
  all_goals grind

@[spec] theorem keeps_parameters : Keeps text (parameters g) := by
  mvcgen [parameters]
  all_goals grind

@[spec] theorem keeps_resultType : Keeps text (resultType g) := by
  mvcgen [resultType]
  all_goals grind

@[spec] theorem keeps_resultTypeOpt : Keeps text (resultTypeOpt g) := by
  mvcgen [resultTypeOpt]
  all_goals grind

@[spec] theorem keeps_typeAnnotationOpt : Keeps text (typeAnnotationOpt g) := by
  mvcgen [typeAnnotationOpt]
  all_goals grind

@[spec] theorem keeps_memberKey : Keeps text (memberKey g) := by
  mvcgen [memberKey]
  all_goals grind

@[spec] theorem keeps_signature : Keeps text (signature g) := by
  mvcgen [signature]
  all_goals grind

@[spec] theorem keeps_indexSignature : Keeps text (indexSignature g) := by
  mvcgen [indexSignature]
  all_goals grind

@[spec] theorem keeps_typeMember : Keeps text (typeMember g) := by
  mvcgen [typeMember]
  all_goals grind

@[spec] theorem keeps_typeMembers : Keeps text (typeMembers g) := by
  mvcgen [typeMembers]
  all_goals grind

@[spec] theorem keeps_mappedType : Keeps text (mappedType g) := by
  mvcgen [mappedType]
  all_goals grind

@[spec] theorem keeps_tupleElement : Keeps text (tupleElement g) := by
  mvcgen [tupleElement]
  all_goals grind

@[spec] theorem keeps_importTypeOptions : Keeps text (importTypeOptions g) := by
  mvcgen [importTypeOptions]
  all_goals grind

@[spec] theorem keeps_importType : Keeps text (importType g) := by
  mvcgen [importType]
  all_goals grind

@[spec] theorem keeps_inferredType : Keeps text (inferredType g) := by
  mvcgen [inferredType]
  all_goals grind

@[spec] theorem keeps_primaryType : Keeps text (primaryType g) := by
  mvcgen [primaryType]
  all_goals grind

@[spec] theorem keeps_typeSuffix {type : List Part} (h : grounded text type) :
    Keeps text (typeSuffix g type) := by
  mvcgen [typeSuffix]
  all_goals grind

@[spec] theorem keeps_operandType : Keeps text (operandType g) := by
  mvcgen [operandType]
  all_goals grind

@[spec] theorem keeps_functionTypeHead : Keeps text (functionTypeHead g) := by
  mvcgen [functionTypeHead]
  all_goals grind

@[spec] theorem keeps_plainType : Keeps text (plainType g) := by
  mvcgen [plainType]
  all_goals grind

@[spec] theorem keeps_type : Keeps text (type g) := by
  mvcgen [type]
  all_goals grind

end Types

/-! ## Patterns -/

section Patterns

variable (hg : g.Keeps text)

include hg

@[spec] theorem keeps_propertyKey : Keeps text (propertyKey g) := by
  mvcgen [propertyKey]
  all_goals grind

@[spec] theorem keeps_defaultOpt : Keeps text (defaultOpt g) := by
  mvcgen [defaultOpt]
  all_goals grind

@[spec] theorem keeps_withDefault {leaf : Parser (List Part)} (h : Keeps text leaf) :
    Keeps text (withDefault g leaf) := by
  mvcgen [withDefault, h]
  all_goals grind

@[spec] theorem keeps_arrayPattern {leaf : Parser (List Part)} (h : Keeps text leaf) :
    Keeps text (arrayPattern g leaf) := by
  mvcgen [arrayPattern, h]
  all_goals grind

@[spec] theorem keeps_patternProperty {leaf : Parser (List Part)} (h : Keeps text leaf) :
    Keeps text (patternProperty g leaf) := by
  mvcgen [patternProperty, h]
  all_goals grind

@[spec] theorem keeps_objectPattern {leaf : Parser (List Part)} (h : Keeps text leaf) :
    Keeps text (objectPattern g leaf) := by
  mvcgen [objectPattern, h]
  all_goals grind

@[spec] theorem keeps_binding : Keeps text (binding g) := by
  mvcgen [binding]
  all_goals grind

@[spec] theorem keeps_targetLeaf : Keeps text (targetLeaf g) := by
  mvcgen [targetLeaf]
  all_goals grind

@[spec] theorem keeps_target : Keeps text (target g) := by
  mvcgen [target]
  all_goals grind

end Patterns

/-! ## Functions and classes -/

section Functions

@[spec] theorem keeps_eatMemberModifiers : Keeps text eatMemberModifiers := by
  mvcgen [eatMemberModifiers]
  all_goals grind

variable (hg : g.Keeps text)

include hg

@[spec] theorem keeps_statements : Keeps text (statements g) := by
  mvcgen [statements]
  all_goals grind

@[spec] theorem keeps_block : Keeps text (block g) := by
  mvcgen [block]
  all_goals grind

@[spec] theorem keeps_bodyOpt : Keeps text (bodyOpt g) := by
  mvcgen [bodyOpt]
  all_goals grind

@[spec] theorem keeps_functionTail (isGenerator : Bool) :
    Keeps text (functionTail g isGenerator) := by
  mvcgen [functionTail]
  all_goals grind

@[spec] theorem keeps_functionFrom (named : Bool) : Keeps text (functionFrom g named) := by
  mvcgen [functionFrom]
  all_goals grind

@[spec] theorem keeps_classElement : Keeps text (classElement g) := by
  mvcgen [classElement]
  all_goals grind

@[spec] theorem keeps_classMember : Keeps text (classMember g) := by
  mvcgen [classMember]
  all_goals grind

@[spec] theorem keeps_classBody : Keeps text (classBody g) := by
  mvcgen [classBody]
  all_goals grind

@[spec] theorem keeps_superclass : Keeps text (superclass g) := by
  mvcgen [superclass]
  all_goals grind

@[spec] theorem keeps_heritage : Keeps text (heritage g) := by
  mvcgen [heritage]
  all_goals grind

@[spec] theorem keeps_heritageList : Keeps text (heritageList g) := by
  mvcgen [heritageList]
  all_goals grind

@[spec] theorem keeps_classFrom (named : Bool) : Keeps text (classFrom g named) := by
  mvcgen [classFrom]
  all_goals grind

end Functions

/-! ## Operands -/

section Operands

@[simp, grind =] theorem grounded_labelled (start : Nat) (label : Label) (es : List Expr) :
    grounded text (labelled start label es) ↔ grounded text es := by
  rw [labelled, grounded_other, grounded_map_expr]

instance : Grounded Operand := ⟨fun text o => grounded text o.expr⟩

@[grind =] theorem grounded_operand (o : Operand) : grounded text o = grounded text o.expr := rfl

@[grind =] theorem grounded_memberOf (o : Operand) (parts : List Part) :
    grounded text (memberOf o parts) ↔ grounded text o ∧ grounded text parts := by
  unfold memberOf
  split <;> grind

-- only a call inside a chain keeps its types, so the converse does not hold
@[grind .] theorem grounded_callOf {o : Operand} {types : List Part} {es : List Expr}
    (ho : grounded text o) (hTypes : grounded text types) (hEs : grounded text es) :
    grounded text (callOf o types es) := by
  unfold callOf
  split <;> grind

/-- A regular expression begins with the slash of the token before it. -/
theorem in_regExp {t : Token} {after : Remaining} (h : t.In text)
    (hKind : t.kind = .punct "/" ∨ t.kind = .punct "/=")
    (hAfter : Literal.regExp ⟨t.here.chars.drop 1, t.start + 1⟩ = .ok after) : after.In text := by
  have hSlash : ['/'] <+: t.here.chars := by
    obtain ⟨r, -, rfl⟩ := h
    rcases hKind with hKind | hKind
    · exact Token.prefix_here_of_punct hKind
    · have hFront : ['/'] <+: "/=".toList := by decide
      exact hFront.trans (Token.prefix_here_of_punct hKind)
  have hAscii : ∀ c ∈ ['/'], IsAscii c := List.forall_mem_singleton.mpr (by decide)
  have hFirst := Remaining.leads_drop hSlash hAscii t.here.offset
  exact (h.here.leads hFirst).leads (Literal.leads_regExp hAfter)

@[spec] theorem keeps_metaProperty (start : Nat) : Keeps text (metaProperty start) := by
  mvcgen [metaProperty]
  all_goals grind

@[spec] theorem keeps_memberName : Keeps text memberName := by
  mvcgen [memberName]
  all_goals grind

variable (hg : g.Keeps text)

include hg

@[spec] theorem keeps_spreadable : Keeps text (spreadable g) := by
  mvcgen [spreadable]
  all_goals grind

@[spec] theorem keeps_arguments : Keeps text (arguments g) := by
  mvcgen [arguments]
  all_goals grind

@[spec] theorem keeps_arrayLiteral : Keeps text (arrayLiteral g) := by
  mvcgen [arrayLiteral]
  all_goals grind

@[spec] theorem keeps_propertyTail (isGenerator : Bool) :
    Keeps text (propertyTail g isGenerator) := by
  mvcgen [propertyTail]
  all_goals grind

@[spec] theorem keeps_getter : Keeps text (getter g) := by
  mvcgen [getter]
  all_goals grind

@[spec] theorem keeps_property : Keeps text (property g) := by
  mvcgen [property]
  all_goals grind

@[spec] theorem keeps_objectLiteral : Keeps text (objectLiteral g) := by
  mvcgen [objectLiteral]
  all_goals grind

@[spec] theorem keeps_parenthesized : Keeps text (parenthesized g) := by
  mvcgen [parenthesized]
  all_goals grind

@[spec] theorem keeps_superOperand : Keeps text (superOperand g) := by
  mvcgen [superOperand]
  all_goals grind

@[spec] theorem keeps_importOperand : Keeps text (importOperand g) := by
  mvcgen [importOperand]
  all_goals grind

@[spec] theorem keeps_wordOperand (t : Token) (s : String) : Keeps text (wordOperand g t s) := by
  mvcgen [wordOperand]
  all_goals grind

@[spec] theorem keeps_primary : Keeps text (primary g) := by
  -- a regular expression is read on from its slash, everything else by tokens
  mvcgen [primary]
  all_goals grind [in_regExp]

@[spec] theorem keeps_computedKey : Keeps text (computedKey g) := by
  mvcgen [computedKey]
  all_goals grind

@[spec] theorem keeps_taggedBy {o : Operand} (h : grounded text o) : Keeps text (taggedBy g o) := by
  mvcgen [taggedBy]
  all_goals grind

@[spec] theorem keeps_chainLink {o : Operand} (h : grounded text o) :
    Keeps text (chainLink g o) := by
  mvcgen [chainLink]
  all_goals grind

@[spec] theorem keeps_generic {o : Operand} (h : grounded text o) : Keeps text (generic g o) := by
  mvcgen [generic]
  all_goals grind

@[spec] theorem keeps_subscript {o : Operand} (h : grounded text o) :
    Keeps text (subscript g o) := by
  mvcgen [subscript]
  all_goals grind

@[spec] theorem keeps_constructorSubscript {o : Operand} (h : grounded text o) :
    Keeps text (constructorSubscript g o) := by
  mvcgen [constructorSubscript]
  all_goals grind

theorem keeps_newOperand (fuel : Nat) : Keeps text (newOperand g fuel) := by
  induction fuel with
  | zero => exact keeps_giveUp _
  | succ fuel ih =>
    -- what is called may begin with `new` again
    mvcgen [newOperand, ih]
    all_goals grind

@[spec] theorem keeps_operand : Keeps text (operand g) := by
  mvcgen [operand, keeps_newOperand]
  all_goals grind

end Operands

end MessageLint.Source.Parser
