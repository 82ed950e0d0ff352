import Mathlib
import MessageLint.Proofs.Source.InlineText
import MessageLint.Source.Parser.Basic

/-!
# MessageLint — parsers stay in their text

A parser is in a text if what it has not read yet is the end of that text, at the offset that the
bytes before it give. Every parser keeps this, whether it succeeds or fails, and every inline text
that it yields is written in the text where it is said to start. `Keeps` says both.

Failures count, too: after a failed child the parser goes on from where the failure left it.
-/

namespace MessageLint.Source

open Std.Do

set_option mvcgen.warning false

/-! ## Places in a text -/

/-- The place is one in the text. -/
def Remaining.In (text : List Char) (r : Remaining) : Prop := Remaining.Leads ⟨text, 0⟩ r

theorem Remaining.In.leads {text : List Char} {r r' : Remaining} (h : r.In text) (h' : r.Leads r') :
    r'.In text := h.trans h'

/-- The token is the next one at some place in the text. -/
def Token.In (text : List Char) (t : Token) : Prop := ∃ r : Remaining, r.In text ∧ t = Token.next r

namespace Token.In

variable {text : List Char} {t : Token}

@[grind →] theorem here (h : t.In text) : t.here.In text := by
  obtain ⟨r, hr, rfl⟩ := h
  exact hr.leads (leads_next r).1

@[grind →] theorem after (h : t.In text) : t.after.In text := by
  obtain ⟨r, hr, rfl⟩ := h
  exact hr.leads (leads_next r).2

end Token.In

theorem Token.in_next {text : List Char} {r : Remaining} (h : r.In text) :
    (Token.next r).In text := ⟨r, h, rfl⟩

structure State.In (text : List Char) (s : State) : Prop where
  rest : s.rest.In text
  token : s.token.In text

theorem State.in_ofRemaining {text : List Char} {r : Remaining} (h : r.In text) :
    (State.ofRemaining r).In text := ⟨h, Token.in_next h⟩

/-! ## What parsers yield -/

/-- What a value says of a text is so: its tokens stand in the text, and its inline texts are
written there. -/
class Grounded (α : Type) where
  grounded : List Char → α → Prop

open Grounded (grounded)

-- values that say nothing of a text
instance : Grounded Unit := ⟨fun _ _ => True⟩
instance : Grounded Bool := ⟨fun _ _ => True⟩
instance : Grounded Nat := ⟨fun _ _ => True⟩
instance : Grounded String := ⟨fun _ _ => True⟩

instance : Grounded Token := ⟨fun text t => t.In text⟩

-- what stands in an outline is known by its pieces
instance : Grounded Expr := ⟨fun text e => WrittenIn text e.pieces⟩
instance : Grounded Part := ⟨fun text p => WrittenIn text p.pieces⟩
instance : Grounded AttributeValue := ⟨fun text v => WrittenIn text v.pieces⟩
instance : Grounded Attribute := ⟨fun text a => WrittenIn text (attributesPieces [a])⟩

section

variable {α β : Type} [Grounded α] [Grounded β]

instance : Grounded (List α) := ⟨fun text xs => ∀ x ∈ xs, grounded text x⟩
instance : Grounded (Option α) := ⟨fun text x => ∀ a ∈ x, grounded text a⟩
instance : Grounded (α × β) := ⟨fun text x => grounded text x.1 ∧ grounded text x.2⟩
instance : Grounded (Except ParseError α) :=
  ⟨fun text x => ∀ a, x = .ok a → grounded text a⟩

variable {text : List Char}

@[simp, grind =] theorem grounded_unit (x : Unit) : grounded text x = True := rfl
@[simp, grind =] theorem grounded_bool (x : Bool) : grounded text x = True := rfl
@[simp, grind =] theorem grounded_nat (x : Nat) : grounded text x = True := rfl
@[simp, grind =] theorem grounded_string (x : String) : grounded text x = True := rfl
@[simp, grind =] theorem grounded_token (t : Token) : grounded text t = t.In text := rfl

@[simp, grind .] theorem grounded_nil : grounded text ([] : List α) := by
  intro x hx
  cases hx

@[simp, grind =] theorem grounded_cons (x : α) (xs : List α) :
    grounded text (x :: xs) ↔ grounded text x ∧ grounded text xs := List.forall_mem_cons

@[simp, grind =] theorem grounded_append (xs ys : List α) :
    grounded text (xs ++ ys) ↔ grounded text xs ∧ grounded text ys := List.forall_mem_append

@[simp, grind =] theorem grounded_flatten (xs : List (List α)) :
    grounded text xs.flatten ↔ grounded text xs := List.forall_mem_flatten

@[simp, grind .] theorem grounded_none : grounded text (none : Option α) := by
  intro x hx
  cases hx

@[simp, grind =] theorem grounded_some (x : α) : grounded text (some x) ↔ grounded text x := by
  simp [grounded]

@[simp, grind =] theorem grounded_getD_nil (xs : Option (List α)) :
    grounded text (xs.getD []) ↔ grounded text xs := by
  cases xs <;> simp

@[simp, grind =] theorem grounded_join (x : Option (Option α)) :
    grounded text x.join ↔ grounded text x := by
  cases x <;> simp

@[simp, grind =] theorem grounded_filterMap_id (xs : List (Option α)) :
    grounded text (xs.filterMap id) ↔ grounded text xs := by
  have hMem : ∀ a, a ∈ xs.filterMap id ↔ some a ∈ xs := by simp
  constructor
  · intro h x hx a ha
    exact h a ((hMem a).mpr (ha ▸ hx))
  · intro h a ha
    exact h (some a) ((hMem a).mp ha) a rfl

@[simp, grind =] theorem grounded_pair (x : α) (y : β) :
    grounded text (x, y) ↔ grounded text x ∧ grounded text y := Iff.rfl

@[simp, grind =] theorem grounded_ok (x : α) :
    grounded text (.ok x : Except ParseError α) ↔ grounded text x := by
  simp [grounded]

@[grind .] theorem grounded_error (e : ParseError) :
    grounded text (.error e : Except ParseError α) := by
  intro x hx
  cases hx

end

/-! ## Inline texts of an outline -/

section

variable {text : List Char}

theorem writtenIn_append (ps qs : List Piece) :
    WrittenIn text (ps ++ qs) ↔ WrittenIn text ps ∧ WrittenIn text qs := by
  simp only [WrittenIn, List.mem_append, or_imp, forall_and]

/-- Only pieces that are inline texts matter. -/
theorem writtenIn_cons {piece : Piece} (h : ∀ start value, piece ≠ .inlineText start value)
    (ps : List Piece) : WrittenIn text (piece :: ps) ↔ WrittenIn text ps := by
  have hNot : ∀ start value, .inlineText start value ≠ piece := fun _ _ => (h _ _).symm
  simp only [WrittenIn, List.mem_cons, hNot, false_or]

theorem writtenIn_nil : WrittenIn text [] := by
  intro start value h
  cases h

theorem writtenIn_partsPieces (ps : List Part) :
    WrittenIn text (partsPieces ps) ↔ grounded text ps := by
  induction ps with
  | nil => simp [partsPieces, writtenIn_nil]
  | cons p ps ih => rw [partsPieces, writtenIn_append, ih, grounded_cons]; rfl

theorem writtenIn_exprsPieces (es : List Expr) :
    WrittenIn text (exprsPieces es) ↔ grounded text es := by
  induction es with
  | nil => simp [exprsPieces, writtenIn_nil]
  | cons e es ih => rw [exprsPieces, writtenIn_append, ih, grounded_cons]; rfl

theorem writtenIn_expr?Pieces (e : Option Expr) :
    WrittenIn text (expr?Pieces e) ↔ grounded text e := by
  cases e with
  | none => simp [expr?Pieces, writtenIn_nil]
  | some e => rw [expr?Pieces, grounded_some]; rfl

theorem writtenIn_attributesPieces (as : List Attribute) :
    WrittenIn text (attributesPieces as) ↔ grounded text as := by
  induction as with
  | nil => simp [attributesPieces, writtenIn_nil]
  | cons a as ih =>
    -- the pieces of several attributes are those of the first and those of the others
    rw [grounded_cons, ← ih]
    change _ ↔ WrittenIn text (attributesPieces [a]) ∧ _
    rw [← writtenIn_append]
    cases a <;> simp [attributesPieces]

@[simp, grind =] theorem grounded_expr (e : Expr) :
    grounded text (Part.expr e) ↔ grounded text e := by
  simp [grounded, Part.pieces]

@[simp, grind =] theorem grounded_braces (start : Nat) (e : Option Expr) :
    grounded text (Part.braces start e) ↔ grounded text e := by
  rw [← writtenIn_expr?Pieces]
  exact writtenIn_cons (by simp) _

@[simp, grind .] theorem grounded_identifier (start : Nat) (name : String) :
    grounded text (Expr.identifier start name) :=
  (writtenIn_cons (by simp) _).mpr writtenIn_nil

@[simp, grind .] theorem grounded_stringLiteral (start : Nat) (value : String) :
    grounded text (Expr.string start value) :=
  (writtenIn_cons (by simp) _).mpr writtenIn_nil

@[simp, grind =] theorem grounded_paren (start : Nat) (e : Expr) :
    grounded text (Expr.paren start e) ↔ grounded text e := by
  simp [grounded, Expr.pieces]

@[simp, grind =] theorem grounded_template (start : Nat) (quasis : List (Option String))
    (holes : List Expr) :
    grounded text (Expr.template start quasis holes) ↔ grounded text holes := by
  rw [← writtenIn_exprsPieces]
  exact writtenIn_cons (by simp) _

@[simp, grind =] theorem grounded_tagged (start : Nat) (tag : Expr) (quotedAt : Nat)
    (quasis : List (Option String)) (holes : List Expr) :
    grounded text (Expr.tagged start tag quotedAt quasis holes) ↔
      grounded text tag ∧ grounded text holes := by
  -- the tag and the template are two pieces, and the holes are inside the template
  rw [← writtenIn_exprsPieces]
  change WrittenIn text (_ :: (_ ++ _ :: _)) ↔ _
  rw [writtenIn_cons (by simp), writtenIn_append, writtenIn_cons (by simp)]
  rfl

@[simp, grind =] theorem grounded_call (start : Nat) (callee : Option Expr) (es : List Expr) :
    grounded text (Expr.call start callee es) ↔ grounded text callee ∧ grounded text es := by
  rw [← writtenIn_expr?Pieces, ← writtenIn_exprsPieces, ← writtenIn_append]
  exact writtenIn_cons (by simp) _

@[simp, grind =] theorem grounded_member (start : Nat) (parts : List Part) :
    grounded text (Expr.member start parts) ↔ grounded text parts := by
  rw [← writtenIn_partsPieces]
  exact writtenIn_cons (by simp) _

@[simp, grind =] theorem grounded_element (start : Nat) (name : Option String)
    (as : List Attribute) (children : List Part) :
    grounded text (Expr.element start name as children) ↔
      grounded text as ∧ grounded text children := by
  rw [← writtenIn_attributesPieces, ← writtenIn_partsPieces, ← writtenIn_append]
  exact writtenIn_cons (by simp) _

@[simp, grind =] theorem grounded_other (start : Nat) (label : Label) (parts : List Part) :
    grounded text (Expr.other start label parts) ↔ grounded text parts := by
  rw [← writtenIn_partsPieces]
  exact writtenIn_cons (by simp) _

@[simp, grind =] theorem grounded_named (start : Nat) (name : String) (value : AttributeValue) :
    grounded text (Attribute.named start name value) ↔ grounded text value := by
  change WrittenIn text (_ :: (_ ++ [])) ↔ _
  rw [List.append_nil]
  exact writtenIn_cons (by simp) _

@[simp, grind =] theorem grounded_spread (e : Expr) :
    grounded text (Attribute.spread e) ↔ grounded text e := by
  change WrittenIn text (_ ++ []) ↔ _
  rw [List.append_nil]
  rfl

@[simp, grind .] theorem grounded_absent : grounded text AttributeValue.absent := writtenIn_nil

@[simp, grind =] theorem grounded_exprValue (e : Expr) :
    grounded text (AttributeValue.expr e) ↔ grounded text e := Iff.rfl

@[simp, grind =] theorem grounded_bracesValue (start : Nat) (e : Option Expr) :
    grounded text (AttributeValue.braces start e) ↔ grounded text e := by
  rw [← writtenIn_expr?Pieces]
  exact writtenIn_cons (by simp) _

@[simp, grind =] theorem grounded_fragmentValue (children : List Part) :
    grounded text (AttributeValue.fragment children) ↔ grounded text children :=
  writtenIn_partsPieces children

@[simp, grind =] theorem grounded_map_expr (es : List Expr) :
    grounded text (es.map Part.expr) ↔ grounded text es := by
  induction es with
  | nil => simp
  | cons e es ih => rw [List.map_cons, grounded_cons, grounded_cons, grounded_expr, ih]

/-- An inline text that is read at a place in the text is written there. -/
theorem grounded_inlineText {r : Remaining} (h : r.In text) :
    grounded text (Part.inlineText r.offset
      (String.ofList (Literal.inlineText (r.chars.length + 1) r).1)) := by
  obtain ⟨units, hReads, hChars, -⟩ := reads_inlineText (Nat.lt_succ_self r.chars.length)
  obtain ⟨before, hText, hOffset⟩ := h
  have hStart : r.offset = byteCount before := by simpa using hOffset
  intro start value hMem
  obtain ⟨rfl, rfl⟩ : start = byteCount before ∧
      value = String.ofList (units.map TextUnit.char) := by
    rw [← hChars, ← hStart]
    simpa [Part.pieces] using hMem
  exact ⟨before, units, _, hReads.writtenAs hText String.toList_ofList⟩

theorem in_inlineText {r : Remaining} (h : r.In text) :
    (Literal.inlineText (r.chars.length + 1) r).2.In text := by
  obtain ⟨-, -, -, hLeads⟩ := reads_inlineText (Nat.lt_succ_self r.chars.length)
  exact h.leads hLeads

end

/-! ## Parsers -/

/-- From a state in the text the parser leads to one in the text, also where it fails, and what it
yields is grounded. -/
abbrev Keeps (text : List Char) {α : Type} [Grounded α] (p : Parser α) : Prop :=
  Triple p (fun s => ⌜s.In text⌝)
    (post⟨fun a s => ⌜grounded text a ∧ s.In text⌝, fun failure => ⌜failure.state.In text⌝⟩)

/-- The same of a single run. -/
def KeptBy (text : List Char) {α : Type} [Grounded α] : Except Failure (α × State) → Prop
  | .ok (a, s) => grounded text a ∧ s.In text
  | .error failure => failure.state.In text

theorem wp_run {α : Type} (p : Parser α) (Q : PostCond α (.arg State (.except Failure .pure)))
    (s : State) :
    wp⟦p⟧ Q s = match p s with
      | .ok (a, s') => Q.1 a s'
      | .error failure => Q.2.1 failure := by
  -- with its state given, a parser is a result or a failure
  have hRun : wp⟦p⟧ Q s = wp⟦p.run s⟧ (fun x => Q.1 x.1 x.2, Q.2) :=
    (WP.StateT_run p).symm ▸ rfl
  rw [hRun]
  change wp⟦p s⟧ _ = _
  cases p s <;> rfl

theorem keeps_iff {text : List Char} {α : Type} [Grounded α] {p : Parser α} :
    Keeps text p ↔ ∀ s : State, s.In text → KeptBy text (p s) := by
  have hRun : ∀ s : State, (wp⟦p⟧ (post⟨fun a s => ⌜grounded text a ∧ s.In text⌝,
      fun failure => ⌜failure.state.In text⌝⟩) s).down ↔ KeptBy text (p s) := by
    intro s
    rw [wp_run]
    cases p s <;> rfl
  constructor
  · intro h s hs
    exact (hRun s).mp (h s hs)
  · intro h s hs
    exact (hRun s).mpr (h s hs)

namespace Parser

variable {text : List Char} {α : Type} [Grounded α]

/-! ## Taking tokens -/

@[spec] theorem keeps_peek : Keeps text peek := by
  mvcgen [peek]
  rename_i h
  exact ⟨h.token, h⟩

@[spec] theorem keeps_peekSecond : Keeps text peekSecond := by
  mvcgen [peekSecond]
  rename_i h
  exact ⟨Token.in_next h.token.after, h⟩

@[spec] theorem keeps_giveUp (e : ParseError) : Keeps text (giveUp e : Parser α) :=
  keeps_iff.mpr fun _ hs => hs

@[spec] theorem keeps_fail (e : ParseError) : Keeps text (fail e : Parser α) := by
  mvcgen [fail]

@[spec] theorem keeps_resume {r : Remaining} (h : r.In text) : Keeps text (resume r) := by
  mvcgen [resume]
  exact ⟨trivial, h, Token.in_next h⟩

@[spec] theorem keeps_takeComments : Keeps text takeComments := by
  mvcgen [takeComments]
  rename_i h _
  exact ⟨trivial, h.rest, h.token⟩

@[spec] theorem keeps_takeUpTo {r : Remaining} (h : r.In text) : Keeps text (takeUpTo r) := by
  mvcgen [takeUpTo]
  all_goals grind

@[spec] theorem keeps_take : Keeps text take := by
  mvcgen [take]
  all_goals grind

@[spec] theorem keeps_atPunct (s : String) : Keeps text (atPunct s) := by
  mvcgen [atPunct]
  all_goals grind

@[spec] theorem keeps_atWord (s : String) : Keeps text (atWord s) := by
  mvcgen [atWord]
  all_goals grind

@[spec] theorem keeps_eat (s : String) : Keeps text (eat s) := by
  mvcgen [eat]
  all_goals grind

@[spec] theorem keeps_eatWord (s : String) : Keeps text (eatWord s) := by
  mvcgen [eatWord]
  all_goals grind

@[spec] theorem keeps_failExpected (wanted : String) :
    Keeps text (failExpected wanted : Parser α) := by
  mvcgen [failExpected]
  all_goals grind

@[spec] theorem keeps_expect (s : String) : Keeps text (expect s) := by
  mvcgen [expect]
  all_goals grind

@[spec] theorem keeps_expectWord (s : String) : Keeps text (expectWord s) := by
  mvcgen [expectWord]
  all_goals grind

@[spec] theorem keeps_require (condition : Bool) : Keeps text (require condition) := by
  mvcgen [require]

@[spec] theorem keeps_steps : Keeps text steps := by
  mvcgen [steps]

@[spec] theorem keeps_anyName : Keeps text anyName := by
  mvcgen [anyName]
  all_goals grind

@[spec] theorem keeps_bindingName : Keeps text bindingName := by
  mvcgen [bindingName]
  all_goals grind

@[spec] theorem keeps_atStatementEnd : Keeps text atStatementEnd := by
  mvcgen [atStatementEnd]
  all_goals grind

@[spec] theorem keeps_eatStatementEnd : Keeps text eatStatementEnd := by
  mvcgen [eatStatementEnd]
  all_goals grind

@[spec] theorem keeps_statementEnd : Keeps text statementEnd := by
  mvcgen [statementEnd]
  all_goals grind

/-! ## Parsers made of others -/

/-- The surroundings say nothing about the text. -/
theorem in_withContext {s : State} (h : s.In text) (c : Context) :
    State.In text { s with context := c } := ⟨h.rest, h.token⟩

@[spec] theorem keeps_within {p : Parser α} (change : Context → Context) (h : Keeps text p) :
    Keeps text (within change p) := by
  mvcgen [within, h]
  all_goals grind [in_withContext]

@[spec] theorem keeps_attempt {p : Parser α} (h : Keeps text p) : Keeps text (attempt p) := by
  rw [keeps_iff] at h ⊢
  intro s hs
  have hRun := h s hs
  unfold attempt
  cases hp : p s with
  | ok result =>
    rw [hp] at hRun
    exact ⟨(grounded_some _).mpr hRun.1, hRun.2⟩
  | error failure => exact ⟨grounded_none, hs⟩

@[spec] theorem keeps_salvage {p : Parser α} (h : Keeps text p) : Keeps text (salvage p) := by
  rw [keeps_iff] at h ⊢
  intro s hs
  have hRun := h s hs
  unfold salvage
  cases hp : p s with
  | ok result =>
    rw [hp] at hRun
    exact ⟨(grounded_ok _).mpr hRun.1, hRun.2⟩
  | error failure =>
    -- the reason is told, and the parser goes on from where the failure left it
    rw [hp] at hRun
    exact ⟨grounded_error _, in_withContext hRun _⟩

@[spec] theorem keeps_succeeds {β : Type} (p : Parser β) : Keeps text (succeeds p) := by
  rw [keeps_iff]
  intro s hs
  unfold succeeds
  cases p s <;> exact ⟨trivial, hs⟩

@[spec] theorem keeps_orElse {first second : Parser α} (hFirst : Keeps text first)
    (hSecond : Keeps text second) : Keeps text (orElse first second) := by
  rw [keeps_iff] at hFirst hSecond ⊢
  intro s hs
  have hRun := hFirst s hs
  have hRun' := hSecond s hs
  unfold orElse
  cases hp : first s with
  | ok result => rwa [hp] at hRun
  | error failure =>
    cases hq : second s with
    | ok result => rwa [hq] at hRun'
    -- the failure of both is one at the place where they started
    | error failure' => exact hs

@[spec] theorem keeps_loop {step : Parser (Option α)} (h : Keeps text step) (fuel : Nat) :
    Keeps text (loop step fuel) := by
  induction fuel with
  | zero => exact keeps_giveUp _
  | succ fuel ih =>
    mvcgen [loop, h, ih]
    all_goals grind

@[spec] theorem keeps_many {step : Parser (Option α)} (h : Keeps text step) :
    Keeps text (many step) := by
  mvcgen [many, h]
  all_goals grind

theorem keeps_iterate {step : α → Parser (Option α)}
    (h : ∀ x, grounded text x → Keeps text (step x)) (fuel : Nat) {x : α} (hx : grounded text x) :
    Keeps text (iterate step fuel x) := by
  -- the value changes from round to round, and each round needs that it is grounded
  induction fuel generalizing x with
  | zero => exact keeps_giveUp _
  | succ fuel ih =>
    mvcgen [iterate, h, ih]
    all_goals grind

@[spec] theorem keeps_extend {step : α → Parser (Option α)}
    (h : ∀ x, grounded text x → Keeps text (step x)) {x : α} (hx : grounded text x) :
    Keeps text (extend step x) := by
  mvcgen [extend, keeps_iterate, h]
  all_goals grind

@[spec] theorem keeps_itemsUntil {item : Parser α} (close : String) (h : Keeps text item)
    (fuel : Nat) : Keeps text (itemsUntil close item fuel) := by
  induction fuel with
  | zero => exact keeps_giveUp _
  | succ fuel ih =>
    mvcgen [itemsUntil, h, ih]
    all_goals grind

@[spec] theorem keeps_listOf {item : Parser α} (opener closer : String) (h : Keeps text item) :
    Keeps text (listOf opener closer item) := by
  mvcgen [listOf]
  all_goals grind

end Parser

/-! ## Grammars -/

/-- All parsers of the grammar keep to the text. -/
structure Grammar.Keeps (text : List Char) (g : Grammar) : Prop where
  expression : Source.Keeps text g.expression
  assignment : Source.Keeps text g.assignment
  unary : Source.Keeps text g.unary
  type : Source.Keeps text g.type
  binding : Source.Keeps text g.binding
  target : Source.Keeps text g.target
  statement : Source.Keeps text g.statement
  element : Source.Keeps text g.element

attribute [spec] Grammar.Keeps.expression Grammar.Keeps.assignment Grammar.Keeps.unary
  Grammar.Keeps.type Grammar.Keeps.binding Grammar.Keeps.target Grammar.Keeps.statement
  Grammar.Keeps.element

theorem Grammar.keeps_bottom (text : List Char) : Grammar.bottom.Keeps text where
  expression := Parser.keeps_giveUp _
  assignment := Parser.keeps_giveUp _
  unary := Parser.keeps_giveUp _
  type := Parser.keeps_giveUp _
  binding := Parser.keeps_giveUp _
  target := Parser.keeps_giveUp _
  statement := Parser.keeps_giveUp _
  element := Parser.keeps_giveUp _

end MessageLint.Source
