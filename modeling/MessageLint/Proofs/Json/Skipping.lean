import MessageLint.Proofs.Json.Reading

/-!
# MessageLint — skipping JSON text

A value under a key that nobody knows is skipped as a whole, whatever its type, its size and its
depth. The loop that skips it keeps the brackets that are open; what a text does to the loop is
said for any brackets around it and with the steps that are left, so that the texts of a list or an
object follow each other.

* `skipNumber_of`, `skipString_of_text` — numbers of any size, and strings that need not stand for
  characters.
* `skips_of_isText` — any well-formed text, by induction on how it is made up.
* `skipValue_of` — a whole value.
-/

namespace MessageLint.Json.Reader

open Cursor

/-! ## Strings -/

theorem skipString_hex4 {ds : List Char} {n : Nat} (h : Hex4 ds n) (line col : Nat)
    (rest : List Char) :
    skipString line col ('\\' :: 'u' :: (ds ++ rest)) = skipString line (col + 6) rest := by
  obtain ⟨x, y, z, w, rfl, hValue⟩ := hexValue4?_of_hex4 h
  simp [skipString, hValue]

theorem skipString_char {c : Char} {t : List Char} (h : CharText c t) (line col : Nat) :
    ∃ col', ∀ rest, skipString line col (t ++ rest) = skipString line col' rest := by
  cases h with
  | plain hQuote hBackslash hControl =>
    refine ⟨col + c.utf8Size, fun rest => ?_⟩
    simp [skipString, hBackslash, Nat.not_lt.mpr hControl]
  | escape h =>
    obtain ⟨hNotCode, hEscape⟩ := simpleEscape?_of_mem h
    refine ⟨col + 2, fun rest => ?_⟩
    simp [skipString, hNotCode, hEscape]
  | code h => exact ⟨col + 6, fun rest => skipString_hex4 h line col rest⟩
  | pair hHigh hLow _ _ _ =>
    -- nobody asks here whether two halves belong together
    refine ⟨col + 6 + 6, fun rest => ?_⟩
    rw [← skipString_hex4 hLow, ← skipString_hex4 hHigh]
    simp

theorem skipString_of_text {ts : List Char} (h : IsStringTail ts) (line col : Nat)
    (rest : List Char) : ∃ k, skipString line col (ts ++ rest) = .ok k ∧ k.rest = rest := by
  induction h generalizing col with
  | close => exact ⟨⟨rest, line, col + 1⟩, by simp [skipString], rfl⟩
  | char hc _ ih =>
    obtain ⟨col', hStep⟩ := skipString_char hc line col
    rw [List.append_assoc, hStep]
    exact ih col'
  | half hds _ ih =>
    rw [List.cons_append, List.cons_append, List.append_assoc, skipString_hex4 hds]
    exact ih (col + 6)

/-! ## Numbers -/

/-- The characters that may follow a value. None of them can begin one. -/
def enders : List Char := blanks ++ [',', ']', '\x7d']

/-- Where a value may end: at the end of the text, or before a character that may follow it. -/
def Ends (rest : List Char) : Prop := ∀ c ∈ rest.head?, c ∈ enders

/-- No digit comes next. -/
def NoDigit (rest : List Char) : Prop := ∀ c ∈ rest.head?, c.isDigit = false

theorem isDigit_of_mem_enders {c : Char} (h : c ∈ enders) : c.isDigit = false := by
  have hTable : enders.all (!·.isDigit) = true := by decide
  simpa using List.all_eq_true.mp hTable c h

theorem Ends.noDigit {rest : List Char} (h : Ends rest) : NoDigit rest :=
  fun c hc => isDigit_of_mem_enders (h c hc)

theorem digits_of {ds rest : List Char} {k : Cursor} (hds : ∀ d ∈ ds, d.isDigit = true)
    (hRest : NoDigit rest) (hk : k.rest = ds ++ rest) :
    ∃ k', digits k = (ds, k') ∧ k'.rest = rest := by
  have hTake : rest.takeWhile Char.isDigit = [] := by
    cases rest with
    | nil => rfl
    | cons c rest => simp [hRest c rfl]
  have hDigits : k.rest.takeWhile Char.isDigit = ds := by
    rw [hk, List.takeWhile_append_of_pos hds, hTake, List.append_nil]
  refine ⟨⟨k.rest.drop ds.length, k.line, k.col + ds.length⟩, by simp only [digits, hDigits], ?_⟩
  rw [hk, List.drop_left]

theorem ne_of_isDigit {d c : Char} (hd : d.isDigit = true) (hc : c.isDigit = false) : d ≠ c := by
  rintro rfl
  rw [hd] at hc
  cases hc

theorem skipPlaces_of {places rest : List Char} {k : Cursor} (hPlaces : IsPlaces places)
    (hDigit : NoDigit rest) (hPoint : ∀ c ∈ rest.head?, c ≠ '.') (hk : k.rest = places ++ rest) :
    ∃ k', skipPlaces k = .ok k' ∧ k'.rest = rest := by
  cases hPlaces with
  | none =>
    refine ⟨k, ?_, hk⟩
    rw [List.nil_append] at hk
    cases rest with
    | nil => simp [skipPlaces, hk]
    | cons c rest => simp [skipPlaces, hk, hPoint c rfl]
  | @point ds h =>
    rw [List.cons_append] at hk
    obtain ⟨k', hRead, hRest⟩ := digits_of h.2 hDigit (rest_next hk)
    refine ⟨k', ?_, hRest⟩
    obtain ⟨d, ds, rfl⟩ := List.exists_cons_of_ne_nil h.1
    simp [skipPlaces, hk, hRead]

theorem skipExponent_of {exponent rest : List Char} {k : Cursor} (hExponent : IsExponent exponent)
    (hRest : Ends rest) (hk : k.rest = exponent ++ rest) :
    ∃ k', skipExponent k = .ok k' ∧ k'.rest = rest := by
  cases hExponent with
  | none =>
    refine ⟨k, ?_, hk⟩
    rw [List.nil_append] at hk
    cases rest with
    | nil => simp [skipExponent, exponentPart, hk]
    | cons c rest =>
      have hEnder : c ∈ enders := hRest c rfl
      have hSmall : c ≠ 'e' := ne_of_mem_of_not_mem hEnder (by decide)
      have hCapital : c ≠ 'E' := ne_of_mem_of_not_mem hEnder (by decide)
      simp [skipExponent, exponentPart, hk, hSmall, hCapital]
  | @power e sign ds he hSign h =>
    rw [List.cons_append, List.append_assoc] at hk
    have hNext := rest_next hk
    obtain ⟨d, ds, rfl⟩ := List.exists_cons_of_ne_nil h.1
    have hDigit : d.isDigit = true := h.2 d List.mem_cons_self
    have hMinus : d ≠ '-' := ne_of_isDigit hDigit (by decide)
    have hPlus : d ≠ '+' := ne_of_isDigit hDigit (by decide)
    simp only [List.mem_cons, List.not_mem_nil, or_false] at hSign
    -- the digits stand after the letter, or after the sign that follows it
    obtain rfl | hSign := hSign
    · obtain ⟨k', hRead, hk'⟩ := digits_of h.2 hRest.noDigit hNext
      refine ⟨k', ?_, hk'⟩
      simp [skipExponent, exponentPart, hk, he, hNext, hRead, hMinus, hPlus]
    · obtain ⟨k', hRead, hk'⟩ : ∃ k', digits k.next.next = (d :: ds, k') ∧ k'.rest = rest := by
        obtain rfl | rfl := hSign <;> exact digits_of h.2 hRest.noDigit (rest_next hNext)
      refine ⟨k', ?_, hk'⟩
      obtain rfl | rfl := hSign <;> simp [skipExponent, exponentPart, hk, he, hNext, hRead]

/-- After the places of a number neither a digit nor a point comes next. -/
theorem head_of_exponent {exponent rest : List Char} (hExponent : IsExponent exponent)
    (hRest : Ends rest) : ∀ c ∈ (exponent ++ rest).head?, c.isDigit = false ∧ c ≠ '.' := by
  intro c hc
  cases hExponent with
  | none =>
    have hEnder : c ∈ enders := hRest c hc
    exact ⟨isDigit_of_mem_enders hEnder, ne_of_mem_of_not_mem hEnder (by decide)⟩
  | power he =>
    obtain rfl : _ = c := by simpa using hc
    obtain rfl | rfl := he <;> decide

theorem head_of_places {places rest : List Char} (hPlaces : IsPlaces places)
    (hRest : NoDigit rest) : NoDigit (places ++ rest) := by
  cases hPlaces with
  | none => exact hRest
  | point h =>
    intro c hc
    obtain rfl : '.' = c := by simpa using hc
    decide

theorem skipNumber_unsigned {whole places exponent rest : List Char} {k : Cursor}
    (hWhole : IsWhole whole) (hPlaces : IsPlaces places) (hExponent : IsExponent exponent)
    (hRest : Ends rest) (hk : k.rest = whole ++ (places ++ (exponent ++ rest))) :
    ∃ k', skipNumber k = .ok k' ∧ k'.rest = rest := by
  have hHead := head_of_exponent hExponent hRest
  have hNoDigit : NoDigit (exponent ++ rest) := fun c hc => (hHead c hc).1
  obtain ⟨⟨hNe, hDigits⟩, hZero⟩ := hWhole
  obtain ⟨k₁, hRead, hk₁⟩ := digits_of hDigits (head_of_places hPlaces hNoDigit) hk
  obtain ⟨k₂, hSkipPlaces, hk₂⟩ :=
    skipPlaces_of hPlaces hNoDigit (fun c hc => (hHead c hc).2) hk₁
  obtain ⟨k₃, hSkipExponent, hk₃⟩ := skipExponent_of hExponent hRest hk₂
  refine ⟨k₃, ?_, hk₃⟩
  obtain ⟨d, ds, rfl⟩ := List.exists_cons_of_ne_nil hNe
  have hMinus : d ≠ '-' := ne_of_isDigit (hDigits d List.mem_cons_self) (by decide)
  rw [List.cons_append] at hk
  cases ds with
  | nil => simp [skipNumber, hk, hMinus, hRead, hSkipPlaces, hSkipExponent, bind, Except.bind]
  | cons e es =>
    -- a zero would have to stand alone
    have hFirst : d ≠ '0' := by
      rintro rfl
      cases hZero rfl
    simp [skipNumber, hk, hMinus, hRead, hFirst, hSkipPlaces, hSkipExponent, bind, Except.bind]

theorem skipNumber_of {t rest : List Char} {k : Cursor} (h : IsNumber t) (hRest : Ends rest)
    (hk : k.rest = t ++ rest) : ∃ k', skipNumber k = .ok k' ∧ k'.rest = rest := by
  cases h with
  | @number sign whole places exponent hSign hWhole hPlaces hExponent => ?_
  simp only [List.append_assoc] at hk
  simp only [List.mem_cons, List.not_mem_nil, or_false] at hSign
  obtain rfl | rfl := hSign
  · exact skipNumber_unsigned hWhole hPlaces hExponent hRest hk
  · have hNext : k.next.rest = whole ++ (places ++ (exponent ++ rest)) := rest_next hk
    obtain ⟨k', hSkip, hk'⟩ := skipNumber_unsigned hWhole hPlaces hExponent hRest hNext
    refine ⟨k', ?_, hk'⟩
    obtain ⟨d, ds, rfl⟩ := List.exists_cons_of_ne_nil hWhole.1.1
    have hMinus : d ≠ '-' := ne_of_isDigit (hWhole.1.2 d List.mem_cons_self) (by decide)
    rw [← hSkip]
    simp [skipNumber, hk, hNext, hMinus]

theorem exists_head_of_isNumber {t : List Char} (h : IsNumber t) :
    ∃ c u, t = c :: u ∧ (c = '-' ∨ c.isDigit = true) := by
  cases h with
  | @number sign whole places exponent hSign hWhole hPlaces hExponent => ?_
  simp only [List.mem_cons, List.not_mem_nil, or_false] at hSign
  obtain rfl | rfl := hSign
  · obtain ⟨d, ds, rfl⟩ := List.exists_cons_of_ne_nil hWhole.1.1
    exact ⟨d, ds ++ (places ++ exponent), rfl, .inr (hWhole.1.2 d List.mem_cons_self)⟩
  · exact ⟨'-', whole ++ (places ++ exponent), rfl, .inl rfl⟩

/-! ## Values -/

theorem exists_head {v : List Char} (h : IsText .value v) : ∃ c v', v = c :: v' ∧ c ∉ enders := by
  cases h with
  | word h =>
    simp only [List.mem_cons, List.not_mem_nil, or_false] at h
    obtain rfl | rfl | rfl := h <;> exact ⟨_, _, rfl, by decide⟩
  | number h =>
    obtain ⟨c, u, rfl, rfl | hDigit⟩ := exists_head_of_isNumber h
    · exact ⟨'-', u, rfl, by decide⟩
    · exact ⟨c, u, rfl, fun hMem => ne_of_isDigit hDigit (isDigit_of_mem_enders hMem) rfl⟩
  | string h => exact ⟨_, _, rfl, by decide⟩
  | @bracket bracket t h => exact ⟨opening bracket, t, rfl, by cases bracket <;> decide⟩

theorem skipOne_word {w : String} {rest : List Char} {k : Cursor}
    (h : w ∈ ["null", "true", "false"]) (hk : k.rest = w.toList ++ rest) :
    ∃ k', skipOne k = .ok (none, k') ∧ k'.rest = rest := by
  obtain ⟨k', hSkip, hk'⟩ := passes_word w.toList k rest hk
  refine ⟨k', ?_, hk'⟩
  simp only [List.mem_cons, List.not_mem_nil, or_false] at h
  obtain rfl | rfl | rfl := h <;> simp_all [skipOne, bind, Except.bind, pure, Except.pure]

theorem skipOne_number {t rest : List Char} {k : Cursor} (h : IsNumber t) (hRest : Ends rest)
    (hk : k.rest = t ++ rest) : ∃ k', skipOne k = .ok (none, k') ∧ k'.rest = rest := by
  obtain ⟨k', hSkip, hk'⟩ := skipNumber_of h hRest hk
  refine ⟨k', ?_, hk'⟩
  obtain ⟨c, u, rfl, rfl | hDigit⟩ := exists_head_of_isNumber h
  · simp [skipOne, hk, hSkip, bind, Except.bind, pure, Except.pure]
  · -- a digit begins none of the words that are tried first
    have hNull : c ≠ 'n' := ne_of_isDigit hDigit (by decide)
    have hTrue : c ≠ 't' := ne_of_isDigit hDigit (by decide)
    have hFalse : c ≠ 'f' := ne_of_isDigit hDigit (by decide)
    simp [skipOne, hk, hNull, hTrue, hFalse, hDigit, hSkip, bind, Except.bind, pure, Except.pure]

theorem skipOne_string {t rest : List Char} {k : Cursor} (h : IsStringTail t)
    (hk : k.rest = '"' :: (t ++ rest)) : ∃ k', skipOne k = .ok (none, k') ∧ k'.rest = rest := by
  obtain ⟨k', hSkip, hk'⟩ := skipString_of_text h k.next.line k.next.col rest
  refine ⟨k', ?_, hk'⟩
  simp [skipOne, hk, rest_next hk, hSkip, bind, Except.bind, pure, Except.pure]

theorem skipOne_bracket {b : Bracket} {rest : List Char} {k : Cursor}
    (hk : k.rest = opening b :: rest) : skipOne k = .ok (some b, k.next) := by
  cases b <;> simp [skipOne, hk, opening]

/-! ## The loop -/

/-- What the loop does after a value inside the open brackets. -/
def resume (fuel : Nat) : List Bracket → Cursor → Except Failure Cursor
  | [], k => .ok k
  | b :: opened, k => skipLoop fuel (.item true) (b :: opened) k

theorem skipLoop_scalar {k k' : Cursor} (h : skipOne k.skipBlanks = .ok (none, k')) (fuel : Nat)
    (opened : List Bracket) : skipLoop (fuel + 1) .value opened k = resume fuel opened k' := by
  cases opened <;> simp [skipLoop, resume, h, bind, Except.bind, pure, Except.pure]

theorem skipLoop_bracket {b : Bracket} {k k' : Cursor}
    (h : skipOne k.skipBlanks = .ok (some b, k')) (fuel : Nat) (opened : List Bracket) :
    skipLoop (fuel + 1) .value opened k = skipLoop fuel (.item false) (b :: opened) k' := by
  simp [skipLoop, h, bind, Except.bind]

theorem skipLoop_close {b : Bracket} {k : Cursor} {rest : List Char}
    (hk : k.skipBlanks.rest = closing b :: rest) (fuel : Nat) (comma : Bool)
    (opened : List Bracket) :
    skipLoop (fuel + 1) (.item comma) (b :: opened) k = resume fuel opened k.skipBlanks.next := by
  cases b <;> cases opened <;> simp [skipLoop, resume, hk, closing]

theorem passes_skipKey {b label : List Char} (hb : IsBlank b) (h : Label .object label) :
    Passes skipKey (b ++ label) := by
  cases h with
  | @object t b' ht hb' => ?_
  intro k rest hk
  simp only [List.append_assoc, List.cons_append, List.nil_append] at hk
  have hQuote := rest_skipBlanks hk hb (by decide)
  obtain ⟨k₁, hSkip, hk₁⟩ := skipString_of_text ht k.skipBlanks.next.line k.skipBlanks.next.col
    (b' ++ ':' :: rest)
  obtain ⟨k₂, hColon, hk₂⟩ := passes_colon hb' k₁ rest (by simp [hk₁])
  refine ⟨k₂, ?_, hk₂⟩
  simp only [skipKey, hQuote, rest_next hQuote, hSkip, bind, Except.bind]
  exact hColon

/-- The comma and the key before an item are taken, up to the value. -/
theorem skipLoop_item {b : Bracket} {first : Bool} {s label b' rest : List Char} {c : Char}
    {k : Cursor} (hs : Lead first s) (hLabel : Label b label) (hb' : IsBlank b') (hc : c ∉ enders)
    (hk : k.rest = s ++ (label ++ (b' ++ c :: rest))) (fuel : Nat) (opened : List Bracket) :
    ∃ k' b'', IsBlank b'' ∧ k'.rest = b'' ++ c :: rest ∧
      skipLoop (fuel + 1) (.item !first) (b :: opened) k =
        skipLoop fuel .value (b :: opened) k' := by
  have hBlank : c ∉ blanks := fun h => hc (List.mem_append_left _ h)
  have hClose : c ≠ ']' := by
    rintro rfl
    exact hc (by decide)
  cases hs with
  | first hb =>
    -- nothing but blanks comes first, so the key or the value stands at the cursor
    cases hLabel with
    | list =>
      rw [List.nil_append, ← List.append_assoc] at hk
      have hItem := rest_skipBlanks hk (hb.append hb') hBlank
      refine ⟨k.skipBlanks, [], isBlank_nil, hItem, ?_⟩
      simp [skipLoop, hItem, hClose, bind, Except.bind]
    | @object t b₁ ht hb₁ =>
      have hQuote := rest_skipBlanks hk hb (by decide)
      obtain ⟨k', hSkip, hk'⟩ := passes_skipKey isBlank_nil (.object ht hb₁) k.skipBlanks
        (b' ++ c :: rest) hQuote
      exact ⟨k', b', hb', hk', by simp [skipLoop, hQuote, hSkip, bind, Except.bind]⟩
  | @next b₁ b₂ hb₁ hb₂ =>
    rw [List.append_assoc, List.cons_append] at hk
    have hComma := rest_skipBlanks hk hb₁ (by decide)
    have hNext := rest_next hComma
    -- after the comma the blanks before the key or the value are still there
    cases hLabel with
    | list =>
      rw [List.nil_append, ← List.append_assoc] at hNext
      exact ⟨k.skipBlanks.next, b₂ ++ b', hb₂.append hb', hNext,
        by simp [skipLoop, hComma, bind, Except.bind]⟩
    | object ht hb =>
      rw [← List.append_assoc] at hNext
      obtain ⟨k', hSkip, hk'⟩ := passes_skipKey hb₂ (.object ht hb) _ _ hNext
      exact ⟨k', b', hb', hk', by simp [skipLoop, hComma, hSkip, bind, Except.bind]⟩

theorem length_pos_of_isText {part : Part} {t : List Char} (h : IsText part t) : 1 ≤ t.length := by
  induction h with
  | word h =>
    obtain ⟨c, v, hv, -⟩ := exists_head (.word h)
    simp [hv]
  | number h =>
    obtain ⟨c, v, rfl, -⟩ := exists_head (.number h)
    simp
  | string _ => simp
  | bracket _ _ => simp
  | close _ => simp
  | item _ _ _ _ _ _ ih =>
    simp only [List.length_append]
    omega

/-- What the text of a value, or of the inside of a bracket, does to the loop: it is taken off the
cursor, and the loop goes on with the brackets around it. A text of `n` characters takes fewer than
`2 * n` steps, and the others are left. -/
def Skips : Part → List Char → Prop
  | .value, t => ∀ (fuel : Nat) (opened : List Bracket) (b : List Char) (k : Cursor)
      (rest : List Char), IsBlank b → Ends rest → k.rest = b ++ (t ++ rest) →
      2 * t.length ≤ fuel + 1 →
      ∃ fuel' k', fuel + 1 ≤ fuel' + 2 * t.length ∧ k'.rest = rest ∧
        skipLoop fuel .value opened k = resume fuel' opened k'
  | .inside bracket first, t => ∀ (fuel : Nat) (opened : List Bracket) (k : Cursor)
      (rest : List Char), k.rest = t ++ rest → 2 * t.length ≤ fuel + 1 →
      ∃ fuel' k', fuel + 1 ≤ fuel' + 2 * t.length ∧ k'.rest = rest ∧
        skipLoop fuel (.item !first) (bracket :: opened) k = resume fuel' opened k'

theorem rest_skipBlanks_value {v b rest : List Char} {k : Cursor} (h : IsText .value v)
    (hb : IsBlank b) (hk : k.rest = b ++ (v ++ rest)) : k.skipBlanks.rest = v ++ rest := by
  obtain ⟨c, v, rfl, hc⟩ := exists_head h
  exact rest_skipBlanks hk hb fun hBlank => hc (List.mem_append_left _ hBlank)

theorem skips_scalar {v : List Char} (h : IsText .value v)
    (hOne : ∀ (k : Cursor) (rest : List Char), Ends rest → k.rest = v ++ rest →
      ∃ k', skipOne k = .ok (none, k') ∧ k'.rest = rest) : Skips .value v := by
  intro fuel opened b k rest hb hRest hk hFuel
  have hPos := length_pos_of_isText h
  obtain ⟨k', hSkip, hk'⟩ := hOne k.skipBlanks rest hRest (rest_skipBlanks_value h hb hk)
  obtain ⟨fuel, rfl⟩ : ∃ n, fuel = n + 1 := ⟨fuel - 1, by omega⟩
  exact ⟨fuel, k', by omega, hk', skipLoop_scalar hSkip fuel opened⟩

theorem ends_of_blank {b rest : List Char} {c : Char} (hb : IsBlank b) (hc : c ∈ enders) :
    Ends (b ++ c :: rest) := by
  intro d hd
  cases b with
  | nil =>
    obtain rfl : c = d := by simpa using hd
    exact hc
  | cons d' b =>
    obtain rfl : d' = d := by simpa using hd
    exact List.mem_append_left _ (hb d' List.mem_cons_self)

theorem ends_of_lead {s rest : List Char} (hs : Lead false s) : Ends (s ++ rest) := by
  cases hs with
  | next hb hb' =>
    rw [List.append_assoc]
    exact ends_of_blank hb (by decide)

theorem ends_of_inside {bracket : Bracket} {t rest : List Char}
    (h : IsText (.inside bracket false) t) : Ends (t ++ rest) := by
  cases h with
  | close hb =>
    rw [List.append_assoc]
    exact ends_of_blank hb (by cases bracket <;> decide)
  | item hs =>
    rw [List.append_assoc]
    exact ends_of_lead hs

theorem skips_of_isText {part : Part} {t : List Char} (h : IsText part t) : Skips part t := by
  induction h with
  | word h => exact skips_scalar (.word h) fun _ _ _ hk => skipOne_word h hk
  | number h => exact skips_scalar (.number h) fun _ _ hRest hk => skipOne_number h hRest hk
  | string h => exact skips_scalar (.string h) fun _ _ _ hk => skipOne_string h hk
  | @bracket bracket t h ih =>
    -- the bracket joins those that are open, and the text inside takes it off again
    intro fuel opened b k rest hb hRest hk hFuel
    rw [List.length_cons] at hFuel
    have hOpen := rest_skipBlanks_value (.bracket h) hb hk
    obtain ⟨fuel, rfl⟩ : ∃ n, fuel = n + 1 := ⟨fuel - 1, by omega⟩
    obtain ⟨fuel', k', hLeft, hk', hLoop⟩ :=
      ih fuel opened k.skipBlanks.next rest (rest_next hOpen) (by omega)
    refine ⟨fuel', k', by rw [List.length_cons]; omega, hk', ?_⟩
    rw [skipLoop_bracket (skipOne_bracket hOpen)]
    exact hLoop
  | @close bracket first b hb =>
    intro fuel opened k rest hk hFuel
    rw [List.append_assoc] at hk
    have hClose := rest_skipBlanks hk hb (by cases bracket <;> decide)
    obtain ⟨fuel, rfl⟩ : ∃ n, fuel = n + 1 := ⟨fuel - 1, by simp at hFuel; omega⟩
    exact ⟨fuel, k.skipBlanks.next, by simp; omega, rest_next hClose,
      skipLoop_close hClose fuel (!first) opened⟩
  | @item bracket first s label b v t hs hLabel hb hv h ihValue ihRest =>
    -- one step up to the value, then those of the value, then those of what follows it
    intro fuel opened k rest hk hFuel
    have hPos := length_pos_of_isText h
    simp only [List.length_append] at hFuel
    simp only [List.append_assoc] at hk
    obtain ⟨c, v', hv', hc⟩ := exists_head hv
    obtain ⟨fuel, rfl⟩ : ∃ n, fuel = n + 1 := ⟨fuel - 1, by omega⟩
    obtain ⟨k₁, b₁, hb₁, hk₁, hStep⟩ :=
      skipLoop_item hs hLabel hb hc (by simpa [hv'] using hk) fuel opened
    obtain ⟨fuel₂, k₂, hLeft₂, hk₂, hLoop₂⟩ := ihValue fuel (bracket :: opened) b₁ k₁ (t ++ rest)
      hb₁ (ends_of_inside h) (by simpa [hv'] using hk₁) (by omega)
    obtain ⟨fuel₃, k₃, hLeft₃, hk₃, hLoop₃⟩ := ihRest fuel₂ opened k₂ rest hk₂ (by omega)
    refine ⟨fuel₃, k₃, by simp only [List.length_append]; omega, hk₃, ?_⟩
    rw [hStep, hLoop₂]
    exact hLoop₃

theorem skipValue_of {v b rest : List Char} {k : Cursor} (h : IsText .value v) (hb : IsBlank b)
    (hRest : Ends rest) (hk : k.rest = b ++ (v ++ rest)) :
    ∃ k', skipValue k = .ok k' ∧ k'.rest = rest := by
  have hFuel : 2 * v.length ≤ 2 * k.rest.length + 2 + 1 := by
    rw [hk, List.length_append, List.length_append]
    omega
  obtain ⟨fuel', k', -, hk', hLoop⟩ := skips_of_isText h _ [] b k rest hb hRest hk hFuel
  exact ⟨k', hLoop, hk'⟩

end MessageLint.Json.Reader
