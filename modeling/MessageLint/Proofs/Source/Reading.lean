import Mathlib.Data.List.TakeWhile
import Mathlib.Tactic.SplitIfs
import MessageLint.Proofs.Except
import MessageLint.Source.Token

/-!
# MessageLint — how reading moves through a text

Whatever is read off the front of a text leaves a rest whose offset has moved by the bytes that were
read. `Remaining.Leads` says so of two places in a text, and every function that reads a token or a
literal leads from where it starts to what it leaves.

* `Trivia.leads_skip`, `Token.leads_kindAt`, `Token.leads_next` — blanks, comments and tokens.
* `Literal.leads_segment`, `Literal.leads_regExp`, `Literal.leads_attributeString` — what the parser
  takes from the start of a token instead.
* `Entity.leads_decode?` — a character entity.
-/

namespace MessageLint.Source

/-! ## Bytes -/

/-- The bytes that characters take. -/
def byteCount : List Char → Nat
  | [] => 0
  | c :: rest => c.utf8Size + byteCount rest

theorem byteCount_append (cs ds : List Char) :
    byteCount (cs ++ ds) = byteCount cs + byteCount ds := by
  induction cs with
  | nil => simp [byteCount]
  | cons c cs ih => rw [List.cons_append, byteCount, byteCount, ih, Nat.add_assoc]

theorem utf8ByteSize_ofList (cs : List Char) : (String.ofList cs).utf8ByteSize = byteCount cs := by
  induction cs with
  | nil => rfl
  | cons c cs ih =>
    have hCons : String.ofList (c :: cs) = String.ofList [c] ++ String.ofList cs := by
      rw [← String.ofList_append]
      rfl
    rw [hCons, String.utf8ByteSize_append, ih, byteCount]
    simp

/-- A character of ASCII takes one byte. -/
def IsAscii (c : Char) : Prop := c.toNat < 128

instance : DecidablePred IsAscii := fun c => inferInstanceAs (Decidable (c.toNat < 128))

theorem IsAscii.utf8Size_eq {c : Char} (h : IsAscii c) : c.utf8Size = 1 := by
  rw [Char.utf8Size_eq_one_iff, UInt32.le_iff_toNat_le]
  exact Nat.lt_succ_iff.mp h

theorem byteCount_of_ascii {cs : List Char} (h : ∀ c ∈ cs, IsAscii c) :
    byteCount cs = cs.length := by
  induction cs with
  | nil => rfl
  | cons c cs ih =>
    rw [byteCount, (h c (by simp)).utf8Size_eq, ih fun d hd => h d (by simp [hd]), List.length_cons,
      Nat.add_comm]

theorem isAscii_of_all {cs : List Char} (h : cs.all (fun c => decide (IsAscii c)) = true) :
    ∀ c ∈ cs, IsAscii c := by
  intro c hc
  simpa using List.all_eq_true.mp h c hc

theorem isAscii_of_isDigit {c : Char} (h : c.isDigit = true) : IsAscii c := by
  simp only [Char.isDigit, Bool.and_eq_true, decide_eq_true_eq, UInt32.le_iff_toNat_le] at h
  have : c.val.toNat ≤ 57 := h.2
  exact Nat.lt_of_le_of_lt this (by decide)

theorem isAscii_of_isHexDigit {c : Char} (h : Entity.isHexDigit c = true) : IsAscii c := by
  simp only [Entity.isHexDigit, Bool.or_eq_true, Bool.and_eq_true, decide_eq_true_eq] at h
  have hLe : ∀ d : Char, c ≤ d → IsAscii d → IsAscii c := by
    intro d hcd hd
    exact Nat.lt_of_le_of_lt hcd hd
  rcases h with (h | ⟨-, h⟩) | ⟨-, h⟩
  · exact isAscii_of_isDigit h
  · exact hLe 'f' h (by decide)
  · exact hLe 'F' h (by decide)

/-! ## Places in a text -/

namespace Remaining

/-- From one place to another further on: some characters lie between them, and the offset has moved
by their bytes. -/
def Leads (r r' : Remaining) : Prop :=
  ∃ taken, r.chars = taken ++ r'.chars ∧ r'.offset = r.offset + byteCount taken

theorem Leads.refl (r : Remaining) : r.Leads r := ⟨[], rfl, rfl⟩

theorem Leads.trans {r r' r'' : Remaining} (h : r.Leads r') (h' : r'.Leads r'') : r.Leads r'' := by
  obtain ⟨taken, hChars, hOffset⟩ := h
  obtain ⟨taken', hChars', hOffset'⟩ := h'
  refine ⟨taken ++ taken', by rw [hChars, hChars', List.append_assoc], ?_⟩
  rw [hOffset', hOffset, byteCount_append, Nat.add_assoc]

variable {offset : Nat} {c d : Char} {cs rest taken : List Char}

theorem leads_append (offset : Nat) (taken rest : List Char) :
    Leads ⟨taken ++ rest, offset⟩ ⟨rest, offset + byteCount taken⟩ := ⟨taken, rfl, rfl⟩

theorem leads_cons (offset : Nat) (c : Char) (rest : List Char) :
    Leads ⟨c :: rest, offset⟩ ⟨rest, offset + c.utf8Size⟩ := ⟨[c], rfl, by simp [byteCount]⟩

/-- Characters of ASCII can be counted instead of their bytes. -/
theorem leads_ascii (h : ∀ c ∈ taken, IsAscii c) (offset : Nat) (rest : List Char) :
    Leads ⟨taken ++ rest, offset⟩ ⟨rest, offset + taken.length⟩ := by
  rw [← byteCount_of_ascii h]
  exact leads_append offset taken rest

theorem leads_drop {front : List Char} (hFront : front <+: cs) (h : ∀ c ∈ front, IsAscii c)
    (offset : Nat) : Leads ⟨cs, offset⟩ ⟨cs.drop front.length, offset + front.length⟩ := by
  obtain ⟨rest, rfl⟩ := hFront
  rw [List.drop_left]
  exact leads_ascii h offset rest

theorem leads_takeWhile (p : Char → Bool) (cs : List Char) (offset : Nat) :
    Leads ⟨cs, offset⟩ ⟨cs.drop (cs.takeWhile p).length,
      offset + (String.ofList (cs.takeWhile p)).utf8ByteSize⟩ := by
  have hTake := List.prefix_iff_eq_take.mp (List.takeWhile_prefix (l := cs) p)
  refine ⟨cs.takeWhile p, ?_, by rw [utf8ByteSize_ofList]⟩
  calc cs = cs.take (cs.takeWhile p).length ++ cs.drop (cs.takeWhile p).length :=
        (List.take_append_drop _ _).symm
    _ = cs.takeWhile p ++ cs.drop (cs.takeWhile p).length := by rw [← hTake]

end Remaining

open Remaining (Leads leads_cons leads_append leads_ascii leads_drop leads_takeWhile)

/-! ## Blanks and comments -/

/-- Blanks and comments are passed over character by character. -/
theorem Trivia.leads_skip (mode : Mode) (offset : Nat) (newline : Bool) (comments : List RawComment)
    (cs : List Char) : Leads ⟨cs, offset⟩ (skip mode offset newline comments cs).rest := by
  have hTwo : ∀ (offset : Nat) (a b : Char) (rest : List Char), IsAscii a → IsAscii b →
      Leads ⟨a :: b :: rest, offset⟩ ⟨rest, offset + 2⟩ := by
    intro offset a b rest ha hb
    have hAscii : ∀ c ∈ [a, b], IsAscii c := by simp [ha, hb]
    exact leads_ascii hAscii offset rest
  -- each step takes either one character or the two that begin or end a comment
  fun_induction skip mode offset newline comments cs
  all_goals first
    | exact .refl _
    | exact (hTwo _ _ _ _ (by decide) (by decide)).trans ‹_›
    | exact (leads_cons _ _ _).trans ‹_›

/-! ## Escapes -/

namespace Literal

theorem bracedDigits_eq {cs ds after : List Char} {closed : Bool}
    (h : bracedDigits cs = (ds, after, closed)) :
    cs = ds ++ (if closed then ['\x7d'] else []) ++ after ∧ ∀ c ∈ ds, IsAscii c := by
  induction cs generalizing ds with
  | nil =>
    obtain ⟨rfl, rfl, rfl⟩ : ds = [] ∧ after = [] ∧ closed = false := by
      simpa [bracedDigits, eq_comm] using h
    simp
  | cons c cs ih =>
    rw [bracedDigits] at h
    split_ifs at h with hClose hDigit
    · obtain ⟨rfl, rfl, rfl⟩ : ds = [] ∧ after = cs ∧ closed = true := by simpa [eq_comm] using h
      simpa using hClose
    · obtain ⟨rfl, rfl, rfl⟩ : c :: (bracedDigits cs).1 = ds ∧ (bracedDigits cs).2.1 = after ∧
          (bracedDigits cs).2.2 = closed := by simpa [Prod.ext_iff] using h
      obtain ⟨hRest, hDigits⟩ := ih rfl
      refine ⟨?_, by simpa [isAscii_of_isHexDigit hDigit] using hDigits⟩
      rw [List.cons_append, List.cons_append, ← hRest]
    · obtain ⟨rfl, rfl, rfl⟩ : ds = [] ∧ after = c :: cs ∧ closed = false := by
        simpa [eq_comm] using h
      simp

theorem leads_unicodeEscape (cs : List Char) (offset : Nat) :
    Leads ⟨cs, offset⟩ (unicodeEscape cs offset).rest := by
  unfold unicodeEscape
  split
  · rename_i rest
    -- whether or not the braces hold a valid code point, reading goes on after them
    obtain ⟨hRest, hDigits⟩ := bracedDigits_eq (rfl : bracedDigits rest = (_, _, _))
    have hLeads : Leads ⟨'\x7b' :: rest, offset⟩ ⟨(bracedDigits rest).2.1,
        offset + 1 + (bracedDigits rest).1.length + if (bracedDigits rest).2.2 then 1 else 0⟩ := by
      refine ⟨'\x7b' :: ((bracedDigits rest).1 ++ if (bracedDigits rest).2.2 then ['\x7d'] else []),
        by rw [List.cons_append, ← hRest], ?_⟩
      have hOpen : '\x7b'.utf8Size = 1 := by decide
      have hClose : '\x7d'.utf8Size = 1 := by decide
      rw [byteCount, byteCount_append, byteCount_of_ascii hDigits, hOpen]
      cases (bracedDigits rest).2.2 <;> simp [byteCount, hClose] <;> omega
    dsimp only
    split
    · exact hLeads
    · split <;> exact hLeads
  · rename_i a b c d rest _
    split_ifs with hHex
    · have hAscii : ∀ x ∈ [a, b, c, d], IsAscii x := fun x hx =>
        isAscii_of_isHexDigit (List.all_eq_true.mp hHex x hx)
      exact leads_ascii hAscii offset rest
    · exact .refl _
  · exact .refl _

theorem leads_hexEscape (cs : List Char) (offset : Nat) :
    Leads ⟨cs, offset⟩ (hexEscape cs offset).rest := by
  unfold hexEscape
  split
  · rename_i a b rest
    split_ifs with hHex
    · have hAscii : ∀ x ∈ [a, b], IsAscii x := by
        simpa using ⟨isAscii_of_isHexDigit (Bool.and_eq_true_iff.mp hHex).1,
          isAscii_of_isHexDigit (Bool.and_eq_true_iff.mp hHex).2⟩
      exact leads_ascii hAscii offset rest
    · exact .refl _
  · exact .refl _

theorem isAscii_of_isOctalDigit {c : Char} (h : isOctalDigit c = true) : IsAscii c := by
  simp only [isOctalDigit, Bool.and_eq_true, decide_eq_true_eq] at h
  exact Nat.lt_of_le_of_lt h.2 (by decide)

/-- The digits of an octal escape stand at the front, the first one among them. -/
theorem octalDigits_eq (c : Char) (rest : List Char) :
    ∃ more, octalDigits (c :: rest) = c :: more ∧ more <+: rest ∧ ∀ d ∈ more, IsAscii d := by
  unfold octalDigits
  split
  · rename_i a b d others hEq
    obtain ⟨rfl, rfl⟩ := List.cons.inj hEq
    split_ifs with hSecond hThird
    · refine ⟨[b, d], rfl, by simp, ?_⟩
      have hLast := isAscii_of_isOctalDigit (Bool.and_eq_true_iff.mp hThird).2
      simpa using ⟨isAscii_of_isOctalDigit hSecond, hLast⟩
    · exact ⟨[b], rfl, by simp, by simpa using isAscii_of_isOctalDigit hSecond⟩
    · exact ⟨[], rfl, by simp, by simp⟩
  · rename_i a b hEq
    obtain ⟨rfl, rfl⟩ := List.cons.inj hEq
    split_ifs with hSecond
    · exact ⟨[b], rfl, by simp, by simpa using isAscii_of_isOctalDigit hSecond⟩
    · exact ⟨[], rfl, by simp, by simp⟩
  · exact ⟨[], rfl, by simp, by simp⟩

theorem leads_escape (inTemplate : Bool) (c : Char) (rest : List Char) (offset : Nat) :
    Leads ⟨c :: rest, offset⟩ (escape inTemplate c rest offset).rest := by
  have hFirst := leads_cons offset c rest
  unfold escape
  dsimp only
  split_ifs with hUnicode hHex hReturn hLine hOctal hTemplate hZero
  · exact hFirst.trans (leads_unicodeEscape _ _)
  · exact hFirst.trans (leads_hexEscape _ _)
  · split
    · exact hFirst.trans (leads_cons _ _ _)
    · exact hFirst
  · exact hFirst
  · exact hFirst
  · exact hFirst
  · -- the digits of an octal escape begin with the character after the backslash
    obtain ⟨more, hDigits, ⟨others, rfl⟩, hMore⟩ := octalDigits_eq c rest
    have hAscii : ∀ d ∈ c :: more, IsAscii d := by
      simpa using ⟨isAscii_of_isOctalDigit hOctal, hMore⟩
    rw [hDigits]
    simpa using leads_ascii hAscii offset others
  · exact hFirst

/-! ## Strings, templates and regular expressions -/

theorem leads_stringCodes {quote : Char} (hQuote : IsAscii quote) {fuel : Nat} {r r' : Remaining}
    {codes : List Nat} (h : stringCodes quote fuel r = .ok (codes, r')) : r.Leads r' := by
  induction fuel generalizing r codes with
  | zero => cases h
  | succ fuel ih =>
    obtain ⟨chars, offset⟩ := r
    rw [stringCodes] at h
    dsimp only at h
    split at h
    · cases h
    · rename_i c rest
      have hFirst := leads_cons offset c rest
      split_ifs at h with hEnd hEscape hBreak
      · obtain ⟨rfl, rfl⟩ := Prod.mk.inj (Except.ok.inj h)
        obtain rfl : c = quote := by simpa using hEnd
        rwa [hQuote.utf8Size_eq] at hFirst
      · -- an escape, and the rest of the string after it
        obtain rfl : c = '\\' := by simpa using hEscape
        cases rest with
        | nil => cases h
        | cons d rest =>
          obtain ⟨value, -, h⟩ := exists_of_bind_eq_ok h
          obtain ⟨⟨more, last⟩, hMore, h⟩ := exists_of_bind_eq_ok h
          obtain ⟨-, rfl⟩ := Prod.mk.inj (Except.ok.inj h)
          exact (hFirst.trans (leads_escape false d rest _)).trans (ih hMore)
      · obtain ⟨⟨more, last⟩, hMore, h⟩ := exists_of_bind_eq_ok h
        obtain ⟨-, rfl⟩ := Prod.mk.inj (Except.ok.inj h)
        exact hFirst.trans (ih hMore)

theorem leads_string {quote : Char} (hQuote : IsAscii quote) {r r' : Remaining} {value : String}
    (h : Literal.string quote r = .ok (value, r')) : r.Leads r' := by
  obtain ⟨⟨codes, last⟩, hCodes, h⟩ := exists_of_bind_eq_ok h
  obtain ⟨-, rfl⟩ := Prod.mk.inj (Except.ok.inj h)
  exact leads_stringCodes hQuote hCodes

theorem leads_segmentFrom (fuel : Nat) (r : Remaining) : r.Leads (segmentFrom fuel r).rest := by
  induction fuel generalizing r with
  | zero => exact .refl r
  | succ fuel ih =>
    obtain ⟨chars, offset⟩ := r
    rw [segmentFrom]
    dsimp only
    split
    · exact .refl _
    · exact leads_cons _ _ _
    · exact (leads_cons _ _ _).trans (leads_cons _ _ _)
    · exact ((leads_cons _ _ _).trans (leads_escape true _ _ _)).trans (ih _)
    · exact ((leads_cons _ _ _).trans (leads_cons _ _ _)).trans (ih _)
    · exact (leads_cons _ _ _).trans (ih _)
    · exact (leads_cons _ _ _).trans (ih _)

theorem leads_segment (r : Remaining) : r.Leads (segment r).rest := leads_segmentFrom _ r

theorem regExpBody_eq {inClass : Bool} {cs body rest : List Char}
    (h : regExpBody inClass cs = .ok (body, rest)) : cs = body ++ '/' :: rest := by
  fun_induction regExpBody inClass cs generalizing body
  case case3 ih =>
    obtain ⟨⟨more, last⟩, hMore, h⟩ := exists_of_bind_eq_ok h
    obtain ⟨rfl, rfl⟩ := Prod.mk.inj (Except.ok.inj h)
    rw [ih hMore, List.cons_append, List.cons_append]
  case case5 hSlash =>
    obtain ⟨rfl, rfl⟩ := Prod.mk.inj (Except.ok.inj h)
    simp only [Bool.and_eq_true, beq_iff_eq] at hSlash
    rw [hSlash.1, List.nil_append]
  case case6 ih =>
    obtain ⟨⟨more, last⟩, hMore, h⟩ := exists_of_bind_eq_ok h
    obtain ⟨rfl, rfl⟩ := Prod.mk.inj (Except.ok.inj h)
    rw [ih hMore, List.cons_append]
  all_goals cases h

theorem leads_regExp {r r' : Remaining} (h : regExp r = .ok r') : r.Leads r' := by
  obtain ⟨⟨body, rest⟩, hBody, h⟩ := exists_of_bind_eq_ok h
  obtain rfl := Except.ok.inj h
  refine ⟨body ++ '/' :: rest.takeWhile Text.isNamePart, ?_, ?_⟩
  · show r.chars = body ++ '/' :: rest.takeWhile Text.isNamePart ++ rest.dropWhile Text.isNamePart
    rw [regExpBody_eq hBody, List.append_assoc, List.cons_append, List.takeWhile_append_dropWhile]
  · have hSlash : '/'.utf8Size = 1 := by decide
    dsimp only [takeClass]
    rw [utf8ByteSize_ofList, byteCount_append, byteCount_append, byteCount, hSlash]
    omega

/-! ## Numbers -/

theorem takeClass_eq (p : Char → Bool) (cs : List Char) :
    cs = (takeClass p cs).1 ++ (takeClass p cs).2 ∧ ∀ c ∈ (takeClass p cs).1, p c = true :=
  ⟨(List.takeWhile_append_dropWhile ..).symm, fun _ hc => List.mem_takeWhile_imp hc⟩

/-- The characters at the front of a text, all of them of ASCII, and what follows them. -/
def SplitsAscii (cs : List Char) (parts : List Char × List Char) : Prop :=
  cs = parts.1 ++ parts.2 ∧ ∀ c ∈ parts.1, IsAscii c

theorem splits_takeClass {p : Char → Bool} (hp : ∀ c, p c = true → IsAscii c) (cs : List Char) :
    SplitsAscii cs (takeClass p cs) :=
  ⟨(takeClass_eq p cs).1, fun c hc => hp c ((takeClass_eq p cs).2 c hc)⟩

theorem SplitsAscii.cons {c : Char} (hc : IsAscii c) {cs ds rest : List Char}
    (h : SplitsAscii cs (ds, rest)) : SplitsAscii (c :: cs) (c :: ds, rest) :=
  ⟨by rw [h.1]; rfl, by simpa using ⟨hc, h.2⟩⟩

theorem SplitsAscii.append {cs ds rest es after : List Char} (h : SplitsAscii cs (ds, rest))
    (h' : SplitsAscii rest (es, after)) : SplitsAscii cs (ds ++ es, after) := by
  refine ⟨by rw [h.1, h'.1, List.append_assoc], fun c hc => ?_⟩
  rcases List.mem_append.mp hc with hc | hc
  · exact h.2 c hc
  · exact h'.2 c hc

theorem isAscii_of_isDigitOrBar {c : Char} (h : isDigitOrBar c = true) : IsAscii c := by
  simp only [isDigitOrBar, Bool.or_eq_true, beq_iff_eq] at h
  rcases h with h | rfl
  · exact isAscii_of_isDigit h
  · decide

theorem splits_takeExponent (cs : List Char) : SplitsAscii cs (takeExponent cs) := by
  have hNone : ∀ cs, SplitsAscii cs ([], cs) := fun cs => ⟨rfl, by simp⟩
  have hDigits := splits_takeClass fun _ => isAscii_of_isDigitOrBar
  unfold takeExponent
  split
  · rename_i e rest
    split_ifs with hExponent
    · have he : IsAscii e := by
        simp only [Bool.or_eq_true, beq_iff_eq] at hExponent
        rcases hExponent with rfl | rfl <;> decide
      split
      · rename_i sign after
        split_ifs with hSign
        · have hs : IsAscii sign := by
            simp only [Bool.or_eq_true, beq_iff_eq] at hSign
            rcases hSign with rfl | rfl <;> decide
          exact ((hDigits after).cons hs).cons he
        · exact (hDigits (sign :: after)).cons he
      · exact (hNone []).cons he
    · exact hNone _
  · exact hNone []

theorem splits_decimal (cs : List Char) : SplitsAscii cs (number.decimal cs) := by
  have hDigits := splits_takeClass fun _ => isAscii_of_isDigitOrBar
  have hNone : ∀ cs, SplitsAscii cs ([], cs) := fun cs => ⟨rfl, by simp⟩
  have hWhole := hDigits cs
  unfold number.decimal
  dsimp only
  -- digits before the point, then the point with digits and an exponent, or only an exponent
  generalize takeClass isDigitOrBar cs = whole at hWhole ⊢
  obtain ⟨whole, rest⟩ := whole
  dsimp only
  split
  · exact hWhole.append ((hNone _).cons (by decide))
  · rename_i r
    have hPlaces := (hDigits r).append (splits_takeExponent _)
    rw [List.append_assoc, List.cons_append]
    exact hWhole.append (hPlaces.cons (by decide))
  · exact hWhole.append (splits_takeExponent _)

theorem splits_number (cs : List Char) : SplitsAscii cs (number cs) := by
  unfold number
  dsimp only
  split
  · rename_i x rest
    split_ifs with hBase
    · have hx : IsAscii x := by
        have hAll : ∀ c ∈ "xXoObB".toList, IsAscii c := isAscii_of_all (by decide)
        exact hAll x (List.contains_iff_mem.mp hBase)
      have hDigit : ∀ c, (Entity.isHexDigit c || c == '_') = true → IsAscii c := by
        intro c hc
        simp only [Bool.or_eq_true, beq_iff_eq] at hc
        rcases hc with hc | rfl
        · exact isAscii_of_isHexDigit hc
        · decide
      have hDigits := splits_takeClass hDigit rest
      generalize takeClass (fun c => Entity.isHexDigit c || c == '_') rest = digits at hDigits ⊢
      obtain ⟨digits, after⟩ := digits
      have hLead := (hDigits.cons hx).cons (by decide : IsAscii '0')
      -- an `n` may follow the digits
      dsimp only
      split
      · exact hLead.append ⟨rfl, by simp; decide⟩
      · exact hLead
    · exact splits_decimal _
  · exact splits_decimal _

end Literal

/-! ## Entities and attribute strings -/

namespace Entity

theorem body?_eq {left : Nat} {cs name rest : List Char} (h : body? left cs = some (name, rest)) :
    cs = name ++ ';' :: rest := by
  induction left generalizing cs name with
  | zero => cases h
  | succ left ih =>
    cases cs with
    | nil => cases h
    | cons c cs =>
      rw [body?] at h
      split_ifs at h with hEnd
      · obtain ⟨rfl, rfl⟩ : name = [] ∧ rest = cs := by simpa [eq_comm] using h
        obtain rfl : c = ';' := by simpa using hEnd
        rfl
      · obtain ⟨⟨more, last⟩, hMore, hEq⟩ := Option.map_eq_some_iff.mp h
        obtain ⟨rfl, rfl⟩ := Prod.mk.inj hEq
        rw [ih hMore, List.cons_append]

/-- The names of entities have at least two characters, all of them of ASCII. -/
theorem entityNames_ascii :
    ∀ x ∈ entityNames, (∀ c ∈ x.1.toList, IsAscii c) ∧ 2 ≤ x.1.toList.length := by
  have hAll : entityNames.all (fun x => x.1.toList.all (fun c => decide (IsAscii c)) &&
      decide (2 ≤ x.1.toList.length)) = true := by decide +kernel
  intro x hx
  have hName := List.all_eq_true.mp hAll x hx
  rw [Bool.and_eq_true, decide_eq_true_eq] at hName
  exact ⟨isAscii_of_all hName.1, hName.2⟩

/-- What stands between the ampersand and the semicolon of an entity. -/
theorem ascii_of_code? {name : List Char} {n : Nat} (h : code? name = some n) :
    (∀ c ∈ name, IsAscii c) ∧ 2 ≤ name.length := by
  unfold code? at h
  split at h
  · rename_i digits
    split_ifs at h with hDigits
    simp only [Bool.and_eq_true, Bool.not_eq_true', List.isEmpty_eq_false_iff,
      List.all_eq_true] at hDigits
    refine ⟨?_, by simp⟩
    intro c hc
    simp only [List.mem_cons] at hc
    rcases hc with rfl | rfl | hc
    · decide
    · decide
    · exact isAscii_of_isHexDigit (hDigits.2 c hc)
  · rename_i digits _
    split_ifs at h with hDigits
    simp only [Bool.and_eq_true, Bool.not_eq_true', List.isEmpty_eq_false_iff,
      List.all_eq_true] at hDigits
    refine ⟨?_, ?_⟩
    · intro c hc
      rcases List.mem_cons.mp hc with rfl | hc
      · decide
      · exact isAscii_of_isDigit (hDigits.2 c hc)
    · have hPos := List.length_pos_iff.mpr hDigits.1
      rw [List.length_cons]
      omega
  · obtain ⟨front, back, hMem, -⟩ := List.lookup_eq_some_iff.mp h
    have hName := entityNames_ascii (String.ofList name, n) (by rw [hMem]; simp)
    simpa using hName

theorem exists_of_decode? {cs after : List Char} {d : Char} (h : decode? cs = some (d, after)) :
    ∃ name n, cs = name ++ ';' :: after ∧ code? name = some n ∧ d = Char.ofNat n := by
  obtain ⟨⟨name, rest⟩, hBody, h⟩ := Option.bind_eq_some_iff.mp h
  obtain ⟨n, hCode, h⟩ := Option.bind_eq_some_iff.mp h
  obtain ⟨rfl, rfl⟩ := Prod.mk.inj (Option.some.inj h)
  exact ⟨name, n, body?_eq hBody, hCode, rfl⟩

/-- An entity takes as many bytes as it has characters. -/
theorem leads_decode? {cs after : List Char} {d : Char} (h : decode? cs = some (d, after))
    (offset : Nat) :
    Leads ⟨'&' :: cs, offset⟩ ⟨after, offset + 1 + (cs.length - after.length)⟩ := by
  obtain ⟨name, n, rfl, hCode, -⟩ := exists_of_decode? h
  have hAscii : ∀ c ∈ '&' :: (name ++ [';']), IsAscii c := by
    simp only [List.mem_cons, List.mem_append, List.not_mem_nil, or_false]
    rintro c (rfl | hc | rfl)
    · decide
    · exact (ascii_of_code? hCode).1 c hc
    · decide
  have hLeads := leads_ascii hAscii offset after
  have hLength : offset + ('&' :: (name ++ [';'])).length =
      offset + 1 + ((name ++ ';' :: after).length - after.length) := by
    simp only [List.length_cons, List.length_append, List.length_nil]
    omega
  rw [hLength] at hLeads
  simpa using hLeads

end Entity

namespace Literal

theorem leads_attributeString {quote : Char} (hQuote : IsAscii quote) {fuel : Nat}
    {r r' : Remaining} {value : List Char} (h : attributeString quote fuel r = .ok (value, r')) :
    r.Leads r' := by
  induction fuel generalizing r value with
  | zero => cases h
  | succ fuel ih =>
    obtain ⟨chars, offset⟩ := r
    rw [attributeString] at h
    dsimp only at h
    split at h
    · cases h
    · obtain ⟨⟨more, last⟩, hMore, h⟩ := exists_of_bind_eq_ok h
      obtain ⟨-, rfl⟩ := Prod.mk.inj (Except.ok.inj h)
      exact ((leads_cons _ _ _).trans (leads_cons _ _ _)).trans (ih hMore)
    · rename_i c rest _
      have hFirst := leads_cons offset c rest
      split at h
      · rename_i hEnd
        obtain ⟨-, rfl⟩ := Prod.mk.inj (Except.ok.inj h)
        obtain rfl : c = quote := by simpa using hEnd
        rwa [hQuote.utf8Size_eq] at hFirst
      · split at h
        · rename_i d after hEntity
          obtain ⟨⟨more, last⟩, hMore, h⟩ := exists_of_bind_eq_ok h
          obtain ⟨-, rfl⟩ := Prod.mk.inj (Except.ok.inj h)
          obtain ⟨hAmp, hDecode⟩ : c = '&' ∧ Entity.decode? rest = some (d, after) := by
            simpa using hEntity
          rw [hAmp]
          exact (Entity.leads_decode? hDecode offset).trans (ih hMore)
        · obtain ⟨⟨more, last⟩, hMore, h⟩ := exists_of_bind_eq_ok h
          obtain ⟨-, rfl⟩ := Prod.mk.inj (Except.ok.inj h)
          exact hFirst.trans (ih hMore)

end Literal

/-! ## Tokens -/

namespace Token

theorem leads_nameChars {fuel : Nat} {r r' : Remaining} {cs : List Char} {escaped : Bool}
    (h : nameChars fuel r = .ok (cs, escaped, r')) : r.Leads r' := by
  induction fuel generalizing r cs escaped with
  | zero =>
    obtain ⟨-, -, rfl⟩ : cs = [] ∧ escaped = false ∧ r = r' := by simpa [nameChars, eq_comm] using h
    exact .refl r
  | succ fuel ih =>
    obtain ⟨chars, offset⟩ := r
    rw [nameChars] at h
    dsimp only at h
    split at h
    · rename_i rest
      obtain ⟨codes, -, h⟩ := exists_of_bind_eq_ok h
      obtain ⟨⟨more, _, last⟩, hMore, h⟩ := exists_of_bind_eq_ok h
      obtain ⟨-, -, rfl⟩ : _ ∧ _ ∧ last = r' := by simpa [pure, Except.pure] using h
      have hLead : Leads ⟨'\\' :: 'u' :: rest, offset⟩ ⟨rest, offset + 2⟩ :=
        (leads_cons _ _ _).trans (leads_cons _ _ _)
      exact (hLead.trans (Literal.leads_unicodeEscape rest _)).trans (ih hMore)
    · split_ifs at h with hPart
      · obtain ⟨⟨more, _, last⟩, hMore, h⟩ := exists_of_bind_eq_ok h
        obtain ⟨-, -, rfl⟩ : _ ∧ _ ∧ last = r' := by simpa [pure, Except.pure] using h
        exact (leads_cons _ _ _).trans (ih hMore)
      · obtain ⟨-, -, rfl⟩ : cs = [] ∧ escaped = false ∧ _ = r' := by simpa [eq_comm] using h
        exact .refl _
    · obtain ⟨-, -, rfl⟩ : cs = [] ∧ escaped = false ∧ _ = r' := by simpa [eq_comm] using h
      exact .refl _

theorem leads_name (r : Remaining) : r.Leads (name r).2 := by
  unfold name
  split
  · rename_i h
    exact leads_nameChars h
  · exact .refl r

theorem leads_number (r : Remaining) : r.Leads (number r).2 := by
  obtain ⟨chars, offset⟩ := r
  obtain ⟨hChars, hAscii⟩ := Literal.splits_number chars
  have hLeads := leads_ascii hAscii offset (Literal.number chars).2
  rw [← hChars] at hLeads
  unfold number
  dsimp only
  split_ifs <;> exact hLeads

/-- Operators and brackets are characters of ASCII at the front. -/
theorem punct?_eq {cs p : List Char} (h : punct? cs = some p) : p <+: cs ∧ ∀ c ∈ p, IsAscii c := by
  have hLong : ∀ p ∈ longPuncts, ∀ c ∈ p, IsAscii c := by
    have hAll : longPuncts.all (fun p => p.all fun c => decide (IsAscii c)) = true := by decide
    exact fun p hp => isAscii_of_all (List.all_eq_true.mp hAll p hp)
  have hShort : ∀ c ∈ shortPuncts, IsAscii c := isAscii_of_all (by decide)
  unfold punct? at h
  split at h
  · rename_i found hFound
    have hPrefix : found <+: cs := by
      have hTrue := List.find?_some hFound
      exact List.isPrefixOf_iff_prefix.mp hTrue
    split_ifs at h with hMark
    · obtain rfl := Option.some.inj h
      simp only [Bool.and_eq_true, beq_iff_eq] at hMark
      obtain ⟨rest, rfl⟩ := hMark.1 ▸ hPrefix
      exact ⟨by simp, by simp; decide⟩
    · obtain rfl := Option.some.inj h
      exact ⟨hPrefix, hLong _ (List.mem_of_find?_eq_some hFound)⟩
  · split at h
    · split_ifs at h with hMem
      obtain rfl := Option.some.inj h
      exact ⟨by simp, by simpa using hShort _ (List.contains_iff_mem.mp hMem)⟩
    · cases h

theorem leads_kindAt (r : Remaining) : r.Leads (kindAt r).2 := by
  obtain ⟨chars, offset⟩ := r
  unfold kindAt
  dsimp only
  split
  · exact .refl _
  · rename_i c rest
    split_ifs with hName hNumber hString hTemplate hPrivate
    · exact leads_name _
    · exact leads_number _
    · have hc : IsAscii c := by
        simp only [Bool.or_eq_true, beq_iff_eq] at hString
        rcases hString with rfl | rfl <;> decide
      have hFirst := leads_cons offset c rest
      rw [hc.utf8Size_eq] at hFirst
      split
      · rename_i h
        exact hFirst.trans (Literal.leads_string hc h)
      · exact .refl _
    · obtain rfl : c = '\x60' := by simpa using hTemplate
      exact leads_cons _ _ _
    · obtain ⟨rfl, -⟩ : c = '#' ∧ _ := by simpa using hPrivate
      exact (leads_cons _ _ _).trans (leads_name _)
    · split
      · rename_i p hPunct
        obtain ⟨hPrefix, hAscii⟩ := punct?_eq hPunct
        exact leads_drop hPrefix hAscii offset
      · exact .refl _

theorem punct?_of_kindAt {r : Remaining} {s : String} (h : (kindAt r).1 = .punct s) :
    punct? r.chars = some s.toList := by
  have hName : ∀ r : Remaining, (name r).1 ≠ .punct s := by
    intro r
    unfold name
    split <;> simp
  have hNumber : ∀ r : Remaining, (number r).1 ≠ .punct s := by
    intro r
    unfold number
    dsimp only
    split_ifs <;> simp
  unfold kindAt at h
  split at h
  · cases h
  · split_ifs at h
    · exact absurd h (hName _)
    · exact absurd h (hNumber _)
    · split at h <;> cases h
    · split at h
      · rename_i p hPunct
        obtain rfl : String.ofList p = s := by simpa using h
        rw [hPunct, String.toList_ofList]
      · cases h

/-- An operator or bracket is written at its place. -/
theorem prefix_here_of_punct {r : Remaining} {s : String} (h : (next r).kind = .punct s) :
    s.toList <+: (next r).here.chars := by
  unfold next at h ⊢
  dsimp only at h ⊢
  split at h
  · cases h
  · rw [if_neg ‹_›]
    exact (punct?_eq (punct?_of_kindAt h)).1

/-- A token and what follows it lie ahead. -/
theorem leads_next (r : Remaining) : r.Leads (next r).here ∧ r.Leads (next r).after := by
  have hSkip := Trivia.leads_skip .blanks r.offset false [] r.chars
  unfold next
  dsimp only
  split
  · exact ⟨hSkip, hSkip⟩
  · exact ⟨hSkip, hSkip.trans (leads_kindAt _)⟩

end Token

end MessageLint.Source
