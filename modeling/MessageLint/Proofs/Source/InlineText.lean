import MessageLint.Proofs.Source.Pieces
import MessageLint.Proofs.Source.Reading
import MessageLint.Text.Blank

/-!
# MessageLint — inline texts as they are written

An inline text is a run of characters, each written by itself or as an entity. `Reads` is the rule
for such runs, without fuel and without offsets; the literal reader follows it (`reads_inlineText`).

Entities are what separates the bytes of a value from the bytes of what is written: every blank
takes at most three, every entity at least four (`Reads.byteCount_leadingBlanks_eq_iff`).
-/

namespace MessageLint.Source

open Remaining (leads_cons)

/-! ## Units of a text -/

/-- A character of an inline text, and how it is written. -/
inductive TextUnit where
  | plain (c : Char)
  | entity (name : List Char) (c : Char)
deriving DecidableEq, Repr

namespace TextUnit

def char : TextUnit → Char
  | plain c => c
  | entity _ c => c

def written : TextUnit → List Char
  | plain c => [c]
  | entity name _ => '&' :: (name ++ [';'])

/-- Is the character written by itself? -/
def isPlain : TextUnit → Bool
  | plain _ => true
  | entity .. => false

end TextUnit

/-- Does a text begin with a tag or a brace, or not at all? -/
def endsInlineText : List Char → Bool
  | [] => true
  | c :: _ => c == '<' || c == '\x7b'

/-- The units of an inline text at the front of a text, and what follows it. An ampersand stands for
itself only where no entity begins. -/
inductive Reads : List Char → List TextUnit → List Char → Prop where
  | stop {cs : List Char} (h : endsInlineText cs = true) : Reads cs [] cs
  | plain {c : Char} {rest : List Char} {units : List TextUnit} {after : List Char}
      (hEnd : endsInlineText (c :: rest) = false) (hEntity : c = '&' → Entity.decode? rest = none)
      (h : Reads rest units after) : Reads (c :: rest) (.plain c :: units) after
  | entity {name : List Char} {c : Char} {rest : List Char} {units : List TextUnit}
      {after : List Char} (hEntity : Entity.decode? (name ++ ';' :: rest) = some (c, rest))
      (h : Reads rest units after) :
      Reads ('&' :: (name ++ ';' :: rest)) (.entity name c :: units) after

theorem Reads.chars_eq {cs after : List Char} {units : List TextUnit} (h : Reads cs units after) :
    cs = units.flatMap TextUnit.written ++ after := by
  induction h with
  | stop => rfl
  | plain _ _ _ ih => rw [List.flatMap_cons, ih]; rfl
  | entity _ _ ih =>
    rw [List.flatMap_cons, List.append_assoc, ← ih]
    simp [TextUnit.written]

/-- The literal reader reads the units of an inline text, if it has enough fuel. -/
theorem reads_inlineText {fuel : Nat} {r : Remaining} (hFuel : r.chars.length < fuel) :
    ∃ units, Reads r.chars units (Literal.inlineText fuel r).2.chars ∧
      (Literal.inlineText fuel r).1 = units.map TextUnit.char ∧
      r.Leads (Literal.inlineText fuel r).2 := by
  induction fuel generalizing r with
  | zero => exact absurd hFuel (Nat.not_lt_zero _)
  | succ fuel ih =>
    obtain ⟨chars, offset⟩ := r
    cases chars with
    | nil => exact ⟨[], .stop rfl, rfl, .refl _⟩
    | cons c rest =>
      rw [Literal.inlineText]
      dsimp only at hFuel ⊢
      rw [List.length_cons, Nat.add_lt_add_iff_right] at hFuel
      by_cases hEnd : (c == '<' || c == '\x7b') = true
      · rw [if_pos hEnd]
        exact ⟨[], .stop hEnd, rfl, .refl _⟩
      · rw [if_neg hEnd]
        -- an entity takes several characters at once, anything else one
        split
        · rename_i d after hDecode
          obtain ⟨rfl, hDecode⟩ : c = '&' ∧ Entity.decode? rest = some (d, after) := by
            simpa using hDecode
          obtain ⟨name, n, rfl, -⟩ := Entity.exists_of_decode? hDecode
          have hRest : after.length < fuel := by
            rw [List.length_append, List.length_cons] at hFuel
            omega
          obtain ⟨units, hReads, hChars, hLeads⟩ :=
            ih (r := ⟨after, offset + 1 + ((name ++ ';' :: after).length - after.length)⟩) hRest
          refine ⟨.entity name d :: units, .entity hDecode hReads, ?_, ?_⟩
          · rw [hChars]
            rfl
          · exact (Entity.leads_decode? hDecode offset).trans hLeads
        · rename_i hDecode
          obtain ⟨units, hReads, hChars, hLeads⟩ := ih (r := ⟨rest, offset + c.utf8Size⟩) hFuel
          refine ⟨.plain c :: units, .plain (Bool.eq_false_iff.mpr hEnd) ?_ hReads, ?_, ?_⟩
          · rintro rfl
            simpa using hDecode
          · rw [hChars]
            rfl
          · exact (leads_cons offset c rest).trans hLeads

/-! ## Bytes of a blank and of an entity -/

theorem utf8Size_lt_of_isBlank {c : Char} (h : Text.isBlank c = true) : c.utf8Size < 4 := by
  simp only [Text.isBlank, Bool.or_eq_true, Bool.and_eq_true, decide_eq_true_eq, beq_iff_eq] at h
  have hBound : c.toNat ≤ 0xFFFF := by omega
  refine Nat.lt_of_le_of_ne c.utf8Size_le_four fun hFour => ?_
  rw [Char.utf8Size_eq_four_iff, UInt32.lt_iff_toNat_lt] at hFour
  exact absurd hFour (Nat.not_lt.mpr hBound)

theorem byteCount_entity {name rest : List Char} {c : Char}
    (h : Entity.decode? (name ++ ';' :: rest) = some (c, rest)) :
    4 ≤ byteCount (TextUnit.entity name c).written := by
  obtain ⟨name', n, hName, hCode, -⟩ := Entity.exists_of_decode? h
  obtain rfl : name = name' := List.append_cancel_right hName
  have hName := Entity.ascii_of_code? hCode
  have hAscii : ∀ d ∈ (TextUnit.entity name c).written, IsAscii d := by
    simp only [TextUnit.written, List.mem_cons, List.mem_append, List.not_mem_nil, or_false]
    rintro d (rfl | hd | rfl)
    · decide
    · exact hName.1 d hd
    · decide
  rw [byteCount_of_ascii hAscii]
  simp only [TextUnit.written, List.length_cons, List.length_append, List.length_nil]
  omega

/-- An entity that is read is longer than any blank. -/
theorem Reads.le_byteCount_of_not_plain {cs after : List Char} {units : List TextUnit}
    (h : Reads cs units after) {u : TextUnit} (hu : u ∈ units) (hEntity : u.isPlain = false) :
    4 ≤ byteCount u.written := by
  induction h with
  | stop => cases hu
  | plain _ _ _ ih =>
    rcases List.mem_cons.mp hu with rfl | hu
    · cases hEntity
    · exact ih hu
  | entity hDecode _ ih =>
    rcases List.mem_cons.mp hu with rfl | hu
    · exact byteCount_entity hDecode
    · exact ih hu

/-- The blanks at the beginning of an inline text. -/
def leadingBlanks (units : List TextUnit) : List TextUnit :=
  units.takeWhile fun u => Text.isBlank u.char

theorem map_char_leadingBlanks (units : List TextUnit) :
    (leadingBlanks units).map TextUnit.char = (units.map TextUnit.char).takeWhile Text.isBlank := by
  rw [List.takeWhile_map]
  rfl

/-- If not all of a text is blank, a first character that is not follows the blanks. -/
theorem exists_eq_leadingBlanks_append {units : List TextUnit}
    (h : ∃ c ∈ units.map TextUnit.char, Text.isBlank c = false) :
    ∃ u more, units = leadingBlanks units ++ u :: more ∧ Text.isBlank u.char = false := by
  have hSplit : leadingBlanks units ++ units.dropWhile (fun u => Text.isBlank u.char) = units :=
    List.takeWhile_append_dropWhile
  cases hDrop : units.dropWhile fun u => Text.isBlank u.char with
  | nil =>
    obtain ⟨c, hc, hBlank⟩ := h
    obtain ⟨u, hu, rfl⟩ := List.mem_map.mp hc
    have hAll := List.dropWhile_eq_nil_iff.mp hDrop u hu
    rw [hBlank] at hAll
    cases hAll
  | cons u more =>
    have hHead := List.head?_dropWhile_not (fun u : TextUnit => Text.isBlank u.char) units
    rw [hDrop] at hHead hSplit
    exact ⟨u, more, hSplit.symm, hHead⟩

theorem byteCount_blanks_le {lead : List TextUnit} (hBlank : ∀ u ∈ lead, Text.isBlank u.char = true)
    (hLong : ∀ u ∈ lead, u.isPlain = false → 4 ≤ byteCount u.written) :
    byteCount (lead.map TextUnit.char) ≤ byteCount (lead.flatMap TextUnit.written) ∧
      (byteCount (lead.map TextUnit.char) = byteCount (lead.flatMap TextUnit.written) ↔
        ∀ u ∈ lead, u.isPlain = true) := by
  induction lead with
  | nil => simp
  | cons u lead ih =>
    rw [List.forall_mem_cons] at hBlank hLong ⊢
    have hRest := ih hBlank.2 hLong.2
    have hFirst : u.char.utf8Size ≤ byteCount u.written ∧
        (u.char.utf8Size = byteCount u.written ↔ u.isPlain = true) := by
      cases u with
      | plain c => simp [TextUnit.char, TextUnit.written, TextUnit.isPlain, byteCount]
      | entity name c =>
        have hLess := Nat.lt_of_lt_of_le (utf8Size_lt_of_isBlank hBlank.1) (hLong.1 rfl)
        exact ⟨Nat.le_of_lt hLess, by simpa [TextUnit.isPlain] using Nat.ne_of_lt hLess⟩
    -- both sums are of smaller and larger terms, so they agree only term by term
    rw [List.map_cons, List.flatMap_cons, byteCount, byteCount_append, ← hFirst.2, ← hRest.2]
    omega

/-- The blanks at the beginning take as many bytes in the value as in the text exactly if none of
them is written as an entity. -/
theorem Reads.byteCount_leadingBlanks_eq_iff {cs after : List Char} {units : List TextUnit}
    (h : Reads cs units after) :
    byteCount ((leadingBlanks units).map TextUnit.char) =
        byteCount ((leadingBlanks units).flatMap TextUnit.written) ↔
      ∀ u ∈ leadingBlanks units, u.isPlain = true := by
  have hBlank : ∀ u ∈ leadingBlanks units, Text.isBlank u.char = true := by
    intro u hu
    unfold leadingBlanks at hu
    simpa only using List.mem_takeWhile_imp hu
  have hLong : ∀ u ∈ leadingBlanks units, u.isPlain = false → 4 ≤ byteCount u.written := by
    intro u hu hEntity
    have hUnit : u ∈ units := (List.takeWhile_sublist _).mem hu
    exact h.le_byteCount_of_not_plain hUnit hEntity
  exact (byteCount_blanks_le hBlank hLong).2

/-! ## Inline texts of a program -/

/-- An inline text is written in a text: what is before it, its units up to the next tag or brace,
and its value. -/
structure WrittenAs (text : List Char) (start : Nat) (value : String) (before : List Char)
    (units : List TextUnit) (after : List Char) : Prop where
  text : text = before ++ (units.flatMap TextUnit.written ++ after)
  start : start = byteCount before
  reads : Reads (units.flatMap TextUnit.written ++ after) units after
  value : value.toList = units.map TextUnit.char

theorem Reads.writtenAs {text cs before after : List Char} {units : List TextUnit} {value : String}
    (h : Reads cs units after) (hText : text = before ++ cs)
    (hValue : value.toList = units.map TextUnit.char) :
    WrittenAs text (byteCount before) value before units after where
  text := by rw [hText, h.chars_eq]
  start := rfl
  reads := by rwa [← h.chars_eq]
  value := hValue

/-- All inline texts among some pieces are written in a text. -/
def WrittenIn (text : List Char) (pieces : List Piece) : Prop :=
  ∀ start value, Piece.inlineText start value ∈ pieces →
    ∃ before units after, WrittenAs text start value before units after

end MessageLint.Source
