import MessageLint.Proofs.Source.Reading
import MessageLint.Source.Location

/-!
# MessageLint — lines and cells of a place

What the position of a place says about the characters before it, for all kinds of line break: the
breaks among them, and the cells that those after the last break add (`locate_eq_breakCount`).
-/

namespace MessageLint.Source

/-! ## Cells -/

/-- The cells that characters add to a column. -/
def cellCount : List Char → Nat
  | [] => 0
  | c :: rest => columnWidth c + cellCount rest

theorem cellCount_eq_length {cs : List Char} (h : ∀ c ∈ cs, columnWidth c = 1) :
    cellCount cs = cs.length := by
  induction cs with
  | nil => rfl
  | cons c cs ih =>
    rw [List.forall_mem_cons] at h
    rw [cellCount, h.1, ih h.2, List.length_cons, Nat.add_comm]

/-! ## Line breaks -/

def isBreak (c : Char) : Bool := c == '\n' || c == '\r'

/-- Line breaks among some characters; a carriage return before a line feed counts together with
it. -/
def breakCount : List Char → Nat
  | [] => 0
  | '\r' :: '\n' :: rest => breakCount rest + 1
  | c :: rest => if isBreak c then breakCount rest + 1 else breakCount rest

theorem breakCount_cons {c : Char} (h : c ≠ '\r') (cs : List Char) :
    breakCount (c :: cs) = if isBreak c then breakCount cs + 1 else breakCount cs := by
  rw [breakCount]
  rintro rest rfl
  exact absurd rfl h

/-- The characters after the last line break. -/
def currentLine : List Char → List Char
  | [] => []
  | c :: rest => if (c :: rest).any isBreak then currentLine rest else c :: rest

theorem currentLine_of_break {c : Char} (h : isBreak c = true) (cs : List Char) :
    currentLine (c :: cs) = currentLine cs := by
  simp [currentLine, h]

theorem currentLine_cons {c : Char} (h : isBreak c = false) (cs : List Char) :
    currentLine (c :: cs) = (if cs.any isBreak then [] else [c]) ++ currentLine cs := by
  have hAll : cs.any isBreak = false → currentLine cs = cs := by
    intro hNone
    cases cs with
    | nil => rfl
    | cons d cs => rw [currentLine, hNone, if_neg (by simp)]
  rw [currentLine, List.any_cons, h, Bool.false_or]
  split
  · rfl
  · rw [hAll (Bool.eq_false_iff.mpr ‹_›), List.singleton_append]

/-- The place after some characters does not divide a line break. -/
def BetweenBreaks (before after : List Char) : Prop :=
  before.getLast? = some '\r' → after.head? ≠ some '\n'

theorem BetweenBreaks.tail {c : Char} {before after : List Char}
    (h : BetweenBreaks (c :: before) after) : BetweenBreaks before after := by
  cases before with
  | nil => simp [BetweenBreaks]
  | cons d before => simpa [BetweenBreaks] using h

/-! ## Positions -/

section Positions

variable {offset passed line cells : Nat}

theorem locateFrom_of_le (h : offset ≤ passed) (cs : List Char) :
    locateFrom offset passed line cells cs = ⟨line, cells - (passed - offset) + 1⟩ := by
  cases cs with
  | nil => rw [locateFrom]
  | cons c rest => rw [locateFrom, if_pos h]

theorem locateFrom_lineFeed (h : passed < offset) (cs : List Char) :
    locateFrom offset passed line cells ('\n' :: cs) =
      locateFrom offset (passed + 1) (line + 1) 0 cs := by
  rw [locateFrom, if_neg (Nat.not_le.mpr h)]
  rfl

theorem locateFrom_cons {c : Char} (hFeed : c ≠ '\n') (hReturn : c ≠ '\r') (h : passed < offset)
    (cs : List Char) :
    locateFrom offset passed line cells (c :: cs) =
      locateFrom offset (passed + c.utf8Size) line (cells + columnWidth c) cs := by
  rw [locateFrom, if_neg (Nat.not_le.mpr h)]
  split <;> simp_all

theorem locateFrom_pair (h : passed < offset) (cs : List Char) :
    locateFrom offset passed line cells ('\r' :: '\n' :: cs) =
      locateFrom offset (passed + '\r'.utf8Size) line cells ('\n' :: cs) := by
  rw [locateFrom, if_neg (Nat.not_le.mpr h)]
  rfl

theorem locateFrom_return (h : passed < offset) {cs : List Char}
    (hFeed : cs.head? ≠ some '\n') :
    locateFrom offset passed line cells ('\r' :: cs) =
      locateFrom offset (passed + '\r'.utf8Size) (line + 1) 0 cs := by
  rw [locateFrom, if_neg (Nat.not_le.mpr h)]
  cases cs with
  | nil => rfl
  | cons d cs =>
    have hd : d ≠ '\n' := by simpa using hFeed
    split <;> simp_all

theorem locateFrom_eq_breakCount {before after : List Char} (h : BetweenBreaks before after)
    (passed line cells : Nat) :
    locateFrom (passed + byteCount before) passed line cells (before ++ after) =
      ⟨line + breakCount before,
        (if before.any isBreak then 0 else cells) + cellCount (currentLine before) + 1⟩ := by
  -- the offset moves along with the bytes that are passed
  have hLess : ∀ (c : Char) (cs : List Char) (passed : Nat),
      passed < passed + byteCount (c :: cs) := fun c cs passed =>
    Nat.lt_add_of_pos_right (Nat.add_pos_left c.utf8Size_pos _)
  have hOffset : ∀ (c : Char) (cs : List Char) (passed : Nat),
      passed + byteCount (c :: cs) = passed + c.utf8Size + byteCount cs := by
    intro c cs passed
    rw [byteCount, Nat.add_assoc]
  fun_induction breakCount before generalizing passed line cells with
  | case1 =>
    rw [List.nil_append, locateFrom_of_le (by simp [byteCount])]
    simp [byteCount, cellCount, currentLine]
  | case2 rest ih =>
    -- the carriage return is passed over, and the line feed after it ends the line
    rw [List.cons_append, List.cons_append, locateFrom_pair (hLess _ _ _), hOffset,
      locateFrom_lineFeed (hLess _ _ _), hOffset,
      show passed + '\r'.utf8Size + 1 = passed + '\r'.utf8Size + '\n'.utf8Size from rfl,
      ih h.tail.tail, currentLine_of_break rfl, currentLine_of_break rfl]
    simp [isBreak, Nat.add_assoc, Nat.add_comm 1]
  | case3 c rest hPair hBreak ih =>
    -- the last carriage return of `before` is a break of its own, since no line feed follows it
    have hStep : locateFrom (passed + byteCount (c :: rest)) passed line cells
          (c :: (rest ++ after)) =
        locateFrom (passed + byteCount (c :: rest)) (passed + c.utf8Size) (line + 1) 0
          (rest ++ after) := by
      rcases (by simpa [isBreak] using hBreak : c = '\n' ∨ c = '\r') with rfl | rfl
      · exact locateFrom_lineFeed (hLess _ _ _) _
      · refine locateFrom_return (hLess _ _ _) ?_
        cases rest with
        | nil => exact h rfl
        | cons d rest =>
          intro hd
          obtain rfl : d = '\n' := by simpa using hd
          exact hPair rest rfl rfl
    rw [List.cons_append, hStep, hOffset, ih h.tail, currentLine_of_break hBreak]
    simp [hBreak, Nat.add_assoc, Nat.add_comm 1]
  | case4 c rest hPair hBreak ih =>
    obtain ⟨hFeed, hReturn⟩ : c ≠ '\n' ∧ c ≠ '\r' := by simpa [isBreak] using hBreak
    rw [List.cons_append, locateFrom_cons hFeed hReturn (hLess _ _ _), hOffset, ih h.tail,
      currentLine_cons (Bool.eq_false_iff.mpr hBreak)]
    -- the cells of the line so far count only if no break follows
    by_cases hAny : rest.any isBreak = true
    · simp [hAny, hBreak]
    · simp [hAny, hBreak, cellCount, Nat.add_assoc]

/-- The position after some characters counts the line breaks among them, and the cells after the
last one. -/
theorem locate_eq_breakCount {before after : List Char} (h : BetweenBreaks before after)
    (hText : before ++ after ≠ []) :
    locate (before ++ after) (byteCount before) =
      ⟨breakCount before + 1, cellCount (currentLine before) + 1⟩ := by
  have hLocate : locate (before ++ after) (byteCount before) =
      locateFrom (0 + byteCount before) 0 1 0 (before ++ after) := by
    rw [Nat.zero_add]
    unfold locate
    split
    · exact absurd ‹_› hText
    · rfl
  rw [hLocate, locateFrom_eq_breakCount h]
  simp [Nat.add_comm]

end Positions

end MessageLint.Source
