import Mathlib.Data.List.TakeWhile
import MessageLint.Proofs.Json.Text

/-!
# MessageLint — reading JSON text

What counts as JSON text is read: each reader takes exactly the text of its value off the cursor,
whatever follows. Only what is left to read matters for that, so statements are about `Cursor.rest`
and leave lines and columns open.

* `takes_string`, `takes_bool`, `takes_list` — strings, booleans and lists of strings are read as
  what they spell.
* `takes_key`, `key?_close`, `passes_colon`, `passes_objectEnd` — the parts of an object around its
  values.
-/

namespace MessageLint.Json

/-! ## The cursor -/

namespace Cursor

theorem rest_past (k : Cursor) (c : Char) (rest : List Char) : (k.past c rest).rest = rest := by
  unfold past
  split <;> rfl

theorem rest_next {k : Cursor} {c : Char} {rest : List Char} (h : k.rest = c :: rest) :
    k.next.rest = rest := by
  rw [next, h]
  exact rest_past k c rest

theorem isBlank_iff {c : Char} : isBlank c = true ↔ c ∈ blanks := by
  simp [isBlank, blanks, or_assoc]

theorem rest_skipBlanksFrom (cs : List Char) (line col : Nat) :
    (skipBlanksFrom line col cs).rest = cs.dropWhile isBlank := by
  induction cs generalizing line col with
  | nil => rfl
  | cons c cs ih =>
    unfold skipBlanksFrom
    split
    · have hBlank : isBlank c = true := by simp_all [isBlank]
      rw [ih, List.dropWhile_cons_of_pos hBlank]
    split
    · rw [ih, List.dropWhile_cons_of_pos ‹_›]
    · rw [List.dropWhile_cons_of_neg ‹_›]

theorem rest_skipBlanks {k : Cursor} {b : List Char} {c : Char} {rest : List Char}
    (h : k.rest = b ++ c :: rest) (hb : IsBlank b) (hc : c ∉ blanks) :
    k.skipBlanks.rest = c :: rest := by
  have hPos : ∀ d ∈ b, isBlank d = true := fun d hd => isBlank_iff.mpr (hb d hd)
  have hNeg : ¬ isBlank c = true := fun h => hc (isBlank_iff.mp h)
  rw [skipBlanks, rest_skipBlanksFrom, h, List.dropWhile_append_of_pos hPos,
    List.dropWhile_cons_of_neg hNeg]

end Cursor

namespace Reader

open Cursor

/-- The reader takes this text off the cursor, whatever follows, and gives this value. -/
def Takes {α : Type} (reader : Reader α) (text : List Char) (x : α) : Prop :=
  ∀ (k : Cursor) (rest : List Char), k.rest = text ++ rest →
    ∃ k', reader k = .ok (x, k') ∧ k'.rest = rest

/-- The step takes this text off the cursor, whatever follows. -/
def Passes (step : Cursor → Except Failure Cursor) (text : List Char) : Prop :=
  ∀ (k : Cursor) (rest : List Char), k.rest = text ++ rest →
    ∃ k', step k = .ok k' ∧ k'.rest = rest

/-! ## Strings -/

theorem hexValue4?_of_hex4 {ds : List Char} {n : Nat} (h : Hex4 ds n) :
    ∃ a b c d, ds = [a, b, c, d] ∧ hexValue4? a b c d = some n := by
  have hTable : ∀ p ∈ hexTable, hexValue? p.1 = some p.2 := by decide
  obtain ⟨ha, hb, hc, hd⟩ := h
  refine ⟨_, _, _, _, rfl, ?_⟩
  simp only [hexValue4?, hTable _ ha, hTable _ hb, hTable _ hc, hTable _ hd]
  rfl

theorem simpleEscape?_of_mem {e c : Char} (h : (e, c) ∈ escapes) :
    e ≠ 'u' ∧ simpleEscape? e = some c := by
  have hTable : ∀ p ∈ escapes, p.1 ≠ 'u' ∧ simpleEscape? p.1 = some p.2 := by decide
  exact hTable (e, c) h

/-- No character has the number of half a pair. -/
theorem isSurrogate_toNat (c : Char) :
    isLowSurrogate c.toNat = false ∧ isHighSurrogate c.toNat = false := by
  have hValid : c.toNat < 0xD800 ∨ 0xDFFF < c.toNat ∧ c.toNat < 0x110000 := c.valid
  simp only [isLowSurrogate, isHighSurrogate, Bool.and_eq_false_iff, decide_eq_false_iff_not]
  omega

theorem isSurrogate_add {high low : Nat} (hHigh : high < 0x400) (hLow : low < 0x400) :
    isLowSurrogate (0xD800 + high) = false ∧ isHighSurrogate (0xD800 + high) = true ∧
      isLowSurrogate (0xDC00 + low) = true := by
  simp only [isLowSurrogate, isHighSurrogate, Bool.and_eq_false_iff, decide_eq_false_iff_not,
    Bool.and_eq_true, decide_eq_true_eq]
  omega

theorem surrogateChar_add {c : Char} {high low : Nat}
    (h : c.toNat = 0x10000 + high * 0x400 + low) :
    surrogateChar (0xD800 + high) (0xDC00 + low) = c := by
  rw [surrogateChar, Nat.add_sub_cancel_left, Nat.add_sub_cancel_left, ← Char.ofNat_toNat c, h]
  congr 1
  omega

/-- One character of a string. -/
theorem stringTail_char {c : Char} {t : List Char} (h : CharText c t) (line col : Nat) :
    ∃ col', ∀ rest cs k, stringTail line col' rest = .ok (cs, k) →
      stringTail line col (t ++ rest) = .ok (c :: cs, k) := by
  cases h with
  | plain hQuote hBackslash hControl =>
    -- the reader tries the quote and the escapes first
    refine ⟨col + c.utf8Size, fun rest cs k hRest => ?_⟩
    simp [stringTail, hBackslash, Nat.not_lt.mpr hControl, hRest]
  | @escape e _ h =>
    obtain ⟨hNotCode, hEscape⟩ := simpleEscape?_of_mem h
    refine ⟨col + 2, fun rest cs k hRest => ?_⟩
    simp [stringTail, hNotCode, hEscape, hRest]
  | code h =>
    obtain ⟨x, y, z, w, rfl, hValue⟩ := hexValue4?_of_hex4 h
    -- the number of a character is read as no half of a pair
    obtain ⟨hLow, hHigh⟩ := isSurrogate_toNat c
    refine ⟨col + 6, fun rest cs k hRest => ?_⟩
    simp [stringTail, hValue, hLow, hHigh, hRest]
  | pair hHigh hLow hHighLt hLowLt h =>
    obtain ⟨x, y, z, w, rfl, hFirst⟩ := hexValue4?_of_hex4 hHigh
    obtain ⟨x', y', z', w', rfl, hSecond⟩ := hexValue4?_of_hex4 hLow
    obtain ⟨hNotLow, hIsHigh, hIsLow⟩ := isSurrogate_add hHighLt hLowLt
    refine ⟨col + 12, fun rest cs k hRest => ?_⟩
    simp [stringTail, hFirst, hSecond, hNotLow, hIsHigh, hIsLow, hRest, surrogateChar_add h]

theorem stringTail_of_text {cs ts : List Char} (h : StringTail cs ts) (line col : Nat)
    (rest : List Char) : ∃ k, stringTail line col (ts ++ rest) = .ok (cs, k) ∧ k.rest = rest := by
  induction h generalizing col with
  | close => exact ⟨⟨rest, line, col + 1⟩, by simp [stringTail], rfl⟩
  | char hc _ ih =>
    obtain ⟨col', hStep⟩ := stringTail_char hc line col
    obtain ⟨k, hTail, hRest⟩ := ih col'
    rw [List.append_assoc]
    exact ⟨k, hStep _ _ _ hTail, hRest⟩

theorem takes_quotedString {s : String} {t : List Char} (h : StringText s t) :
    Takes quotedString t s := by
  obtain ⟨hTail⟩ := h
  intro k rest hk
  rw [List.cons_append] at hk
  obtain ⟨k', hRead, hRest⟩ := stringTail_of_text hTail k.next.line k.next.col rest
  refine ⟨k', ?_, hRest⟩
  simp only [quotedString, rest_next hk, hRead, String.ofList_toList]

/-! ## Values of known types -/

theorem takes_string {s : String} {b t : List Char} (hb : IsBlank b) (h : StringText s t) :
    Takes string (b ++ t) s := by
  have hTakes := takes_quotedString h
  obtain ⟨-⟩ := h
  intro k rest hk
  rw [List.append_assoc] at hk
  have hQuote := rest_skipBlanks hk hb (by decide)
  simp only [string, hQuote]
  exact hTakes k.skipBlanks rest hQuote

theorem passes_word (w : List Char) : Passes (word w) w := by
  induction w with
  | nil => exact fun k rest hk => ⟨k, rfl, hk⟩
  | cons c w ih =>
    intro k rest hk
    rw [List.cons_append] at hk
    obtain ⟨k', hRead, hRest⟩ := ih k.next rest (rest_next hk)
    exact ⟨k', by simp [word, hk, hRead], hRest⟩

theorem takes_bool {b : List Char} (hb : IsBlank b) (x : Bool) :
    Takes bool (b ++ boolText x) x := by
  intro k rest hk
  rw [List.append_assoc] at hk
  have hWord : k.skipBlanks.rest = boolText x ++ rest := by
    cases x <;> exact rest_skipBlanks hk hb (by decide)
  obtain ⟨k', hRead, hRest⟩ := passes_word (boolText x) k.skipBlanks rest hWord
  refine ⟨k', ?_, hRest⟩
  cases x <;> simp_all [bool, boolText, bind, Except.bind, pure, Except.pure]

/-- The comma before an item is taken, with the blanks around it. -/
theorem hasItem_lead {first : Bool} {s : List Char} {c : Char} {k : Cursor} {rest : List Char}
    (hs : Lead first s) (hc : c ∉ blanks) (hEnd : c ≠ ']') (hk : k.rest = s ++ c :: rest) :
    ∃ k', hasItem first k = .ok (true, k') ∧ k'.rest = c :: rest := by
  cases hs with
  | first hb =>
    have hItem := rest_skipBlanks hk hb hc
    exact ⟨k.skipBlanks, by simp [hasItem, hItem, hEnd], hItem⟩
  | next hb hb' =>
    rw [List.append_assoc, List.cons_append] at hk
    have hComma := rest_skipBlanks hk hb (by decide)
    have hItem := rest_skipBlanks (rest_next hComma) hb' hc
    exact ⟨k.skipBlanks.next.skipBlanks, by simp [hasItem, hComma, hItem], hItem⟩

theorem hasItem_close (first : Bool) {b : List Char} {k : Cursor} {rest : List Char}
    (hb : IsBlank b) (hk : k.rest = b ++ ']' :: rest) :
    ∃ k', hasItem first k = .ok (false, k') ∧ k'.rest = ']' :: rest := by
  have hClose := rest_skipBlanks hk hb (by decide)
  exact ⟨k.skipBlanks, by simp [hasItem, hClose], hClose⟩

theorem passes_listEnd : Passes listEnd [']'] := by
  intro k rest hk
  have hClose := rest_skipBlanks (b := []) hk isBlank_nil (by decide)
  exact ⟨k.skipBlanks.next, by simp [listEnd, hClose], rest_next hClose⟩

/-- Every item takes at least its quotes, so the length of the text is fuel enough. -/
theorem items_row {first : Bool} {ss : List String} {ts : List Char}
    (h : Row StringText ']' first ss ts) :
    ∀ (fuel : Nat) (k : Cursor) (rest : List Char), ts.length ≤ fuel → k.rest = ts ++ rest →
      ∃ k', items string fuel first k = .ok (ss, k') ∧ k'.rest = ']' :: rest := by
  induction h with
  | @close first _ hb =>
    intro fuel k rest hFuel hk
    rw [List.append_assoc] at hk
    obtain ⟨k', hRead, hRest⟩ := hasItem_close first hb hk
    obtain ⟨fuel, rfl⟩ : ∃ n, fuel = n + 1 := ⟨fuel - 1, by simp at hFuel; omega⟩
    exact ⟨k', by simp [items, hRead, bind, Except.bind, pure, Except.pure], hRest⟩
  | @item first s ss lead t ts hs hx _ ih =>
    intro fuel k rest hFuel hk
    have hTakes := takes_string isBlank_nil hx
    obtain ⟨hTail⟩ := hx
    simp only [List.append_assoc, List.cons_append] at hk
    -- up to the opening quote, then the string, then the items that follow
    obtain ⟨k₁, hMore, hk₁⟩ := hasItem_lead hs (by decide) (by decide) hk
    obtain ⟨k₂, hString, hk₂⟩ := hTakes k₁ (ts ++ rest) (by simpa using hk₁)
    obtain ⟨fuel, rfl⟩ : ∃ n, fuel = n + 1 := ⟨fuel - 1, by simp at hFuel; omega⟩
    obtain ⟨k₃, hItems, hk₃⟩ := ih fuel k₂ rest (by simp at hFuel; omega) hk₂
    exact ⟨k₃, by simp [items, hMore, hString, hItems, bind, Except.bind, pure, Except.pure], hk₃⟩

theorem takes_list {ss : List String} {b t : List Char} (hb : IsBlank b) (h : ListText ss t) :
    Takes (list string) (b ++ t) ss := by
  cases h with | @bracketed ts hRow => ?_
  intro k rest hk
  rw [List.append_assoc, List.cons_append] at hk
  have hOpen := rest_skipBlanks hk hb (by decide)
  have hFuel : ts.length ≤ (ts ++ rest).length + 1 := by
    rw [List.length_append]
    omega
  obtain ⟨k₁, hItems, hk₁⟩ := items_row hRow _ k.skipBlanks.next rest hFuel (rest_next hOpen)
  obtain ⟨k₂, hEnd, hk₂⟩ := passes_listEnd k₁ rest hk₁
  refine ⟨k₂, ?_, hk₂⟩
  simp only [list, hOpen, hItems, hEnd, bind, Except.bind, pure, Except.pure]

/-! ## The parts of an object -/

theorem takes_key {first : Bool} {s t : List Char} {key : String} (hs : Lead first s)
    (hKey : StringText key t) : Takes (key? first) (s ++ t) (some key) := by
  have hTakes := takes_quotedString hKey
  obtain ⟨hTail⟩ := hKey
  intro k rest hk
  rw [List.append_assoc, List.cons_append] at hk
  cases hs with
  | first hb =>
    have hQuote := rest_skipBlanks hk hb (by decide)
    obtain ⟨k', hRead, hRest⟩ := hTakes k.skipBlanks rest hQuote
    exact ⟨k', by simp [key?, hQuote, hRead, bind, Except.bind, pure, Except.pure], hRest⟩
  | next hb hb' =>
    rw [List.append_assoc, List.cons_append] at hk
    have hComma := rest_skipBlanks hk hb (by decide)
    have hQuote := rest_skipBlanks (rest_next hComma) hb' (by decide)
    obtain ⟨k', hRead, hRest⟩ := hTakes k.skipBlanks.next.skipBlanks rest hQuote
    exact ⟨k', by simp [key?, hComma, hQuote, hRead, bind, Except.bind, pure, Except.pure], hRest⟩

theorem key?_close (first : Bool) {b : List Char} {k : Cursor} {rest : List Char} (hb : IsBlank b)
    (hk : k.rest = b ++ '\x7d' :: rest) :
    ∃ k', key? first k = .ok (none, k') ∧ k'.rest = '\x7d' :: rest := by
  have hClose := rest_skipBlanks hk hb (by decide)
  exact ⟨k.skipBlanks, by simp [key?, hClose], hClose⟩

theorem passes_colon {b : List Char} (hb : IsBlank b) : Passes colon (b ++ [':']) := by
  intro k rest hk
  rw [List.append_assoc] at hk
  have hColon := rest_skipBlanks hk hb (by decide)
  exact ⟨k.skipBlanks.next, by simp [colon, hColon], rest_next hColon⟩

theorem passes_objectEnd : Passes objectEnd ['\x7d'] := by
  intro k rest hk
  have hClose := rest_skipBlanks (b := []) hk isBlank_nil (by decide)
  exact ⟨k.skipBlanks.next, by simp [objectEnd, hClose], rest_next hClose⟩

theorem endOfText_blank {k : Cursor} (h : IsBlank k.rest) : endOfText k = .ok () := by
  have hRest : k.skipBlanks.rest = [] := by
    rw [skipBlanks, rest_skipBlanksFrom, List.dropWhile_eq_nil_iff]
    exact fun c hc => isBlank_iff.mpr (h c hc)
  simp [endOfText, hRest]

end Reader

end MessageLint.Json
