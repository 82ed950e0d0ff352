import MessageLint.Text.CharWidth
import MessageLint.Text.Emoji

/-!
# MessageLint — the display width of a text

The number of terminal cells a whole text takes. It is the sum of the widths of its characters
except where neighbours form one glyph: a line break of two characters, emoji sequences, flags and
a few ligatures. The text is read from its end, and what stands to the right of a character decides
whether the two merge.
-/

namespace MessageLint.Text

/-- What the characters to the right of a place amount to. -/
inductive Following where
  /-- Nothing that merges with the character before it. -/
  | plain
  | lineFeed
  /-- An emoji presentation selector; `joined` if a joiner and an emoji come after it. -/
  | emojiSelector (joined : Bool)
  | textSelector
  /-- A character or sequence shown as an emoji. -/
  | emoji
  /-- A joiner and then an emoji. -/
  | joinedEmoji
  /-- A skin tone. -/
  | skinTone
  /-- One or several flag letters. -/
  | flagLetters (several : Bool)
  /-- Flag letters before a joiner and an emoji; `paired` if their number is even. -/
  | joinedFlagLetters (paired : Bool)
  | arabicAlef
  | hebrewLamed (joined : Bool)
  | khmerLetter
  | bugineseYa (joined : Bool)
  | bugineseVowelYa
  | tifinaghLetter (joined : Bool)
  | tifinaghJoinerLetter
  | lisuTone
  | turkicI (joined : Bool)
  | kiratRaiE
  | kiratRaiAi
deriving DecidableEq, Repr

namespace Following

/-- Default-ignorable combining marks do not break a ligature. -/
def isLigatureTransparent (c : Char) : Bool :=
  inRanges #[(0x34F, 0x34F), (0x17B4, 0x17B5), (0x180B, 0x180D), (0x180F, 0x180F),
    (0x200D, 0x200D), (0xFE00, 0xFE0F), (0xE0100, 0xE01EF)] c.toNat

/-- Tifinagh consonants form pairs. -/
def isTifinaghLetter (c : Char) : Bool :=
  (0x2D31 ≤ c.toNat && c.toNat ≤ 0x2D65) || c.toNat == 0x2D6F

/-- Letters that form a ligature with a following alef. -/
def isArabicLam (c : Char) : Bool :=
  inRanges #[(0x644, 0x644), (0x6B5, 0x6B8), (0x76A, 0x76A), (0x8A6, 0x8A6), (0x8C7, 0x8C7)] c.toNat

/-- Letters that form a ligature with a preceding lam. -/
def isArabicAlef (c : Char) : Bool :=
  inRanges #[(0x622, 0x623), (0x625, 0x625), (0x627, 0x627), (0x671, 0x673), (0x675, 0x675),
    (0x773, 0x774), (0x870, 0x882)] c.toNat

/-- Khmer letters that can stand below a consonant. -/
def isKhmerCoengLetter (c : Char) : Bool :=
  inRanges #[(0x1780, 0x1782), (0x1784, 0x1787), (0x1789, 0x178C), (0x178E, 0x1793),
    (0x1795, 0x1798), (0x179B, 0x179D), (0x17A0, 0x17A0), (0x17A2, 0x17A2), (0x17A7, 0x17A7),
    (0x17AB, 0x17AC), (0x17AF, 0x17AF)] c.toNat

/-- May a default-ignorable mark stand between this and what precedes it? -/
def admitsMarks : Following → Bool
  | arabicAlef | hebrewLamed _ | khmerLetter | bugineseYa _ | bugineseVowelYa | tifinaghLetter _
  | tifinaghJoinerLetter | lisuTone | turkicI _ | kiratRaiE | kiratRaiAi => true
  | _ => false

/-- A joiner before a letter that joins. -/
def join : Following → Following
  | hebrewLamed _ => hebrewLamed true
  | bugineseYa _ => bugineseYa true
  | tifinaghLetter _ => tifinaghLetter true
  | turkicI _ => turkicI true
  | other => other

/-- The cells of `c` alone, and what it is to the character before it. -/
def ofChar (c : Char) : Int × Following :=
  if isRegionalIndicator c then (1, flagLetters false)
  else if isEmojiModifier c then (2, skinTone)
  else if isEmojiPresentation c then (2, emoji)
  else
    (cellWidth c,
      if c.toNat == 0xFE0F then emojiSelector false
      else if c.toNat == 0xFE0E then textSelector
      else if isArabicAlef c then arabicAlef
      else if c.toNat == 0x5DC then hebrewLamed false
      else if isKhmerCoengLetter c then khmerLetter
      else if c.toNat == 0x1A10 then bugineseYa false
      else if isTifinaghLetter c then tifinaghLetter false
      else if c.toNat == 0xA4FC || c.toNat == 0xA4FD then lisuTone
      else if c.toNat == 0x10C03 then turkicI false
      else if c.toNat == 0x16D67 then kiratRaiE
      else plain)

/-- The cells that the merge of `c` with what follows it adds, if the two merge at all. -/
def merge? (c : Char) : Following → Option (Int × Following)
  | emojiSelector joined =>
    if isEmojiSelectable c then some (if joined then 0 else 2, emoji) else none
  | textSelector => if isTextSelectable c then some (1, plain) else none
  | lineFeed => if c == '\r' then some (0, plain) else none
  | emoji => if c.toNat == 0x200D then some (0, joinedEmoji) else none
  | joinedEmoji =>
    if isEmojiModifier c then some (0, skinTone)
    else if c.toNat == 0xFE0F then some (0, emojiSelector true)
    else if isRegionalIndicator c then some (1, joinedFlagLetters false)
    else if isEmojiPresentation c then some (0, emoji)
    else none
  | skinTone => if isEmojiModifierBase c then some (0, emoji) else none
  | flagLetters several =>
    if isRegionalIndicator c then some (1, flagLetters true)
    else if several && c.toNat == 0x200D then some (0, joinedEmoji)
    else none
  | joinedFlagLetters paired =>
    if isRegionalIndicator c then some (if paired then 3 else -1, joinedFlagLetters (!paired))
    else none
  | arabicAlef =>
    if isArabicLam c then some (0, plain)
    else if inRanges zeroWidthRanges c.toNat && c.toNat != 0x200D && c.toNat != 0x200C then
      some (0, arabicAlef)
    else none
  | hebrewLamed true => if c.toNat == 0x5D0 then some (0, plain) else none
  | khmerLetter => if c.toNat == 0x17D2 then some (-1, plain) else none
  | bugineseYa true => if c.toNat == 0x1A17 then some (0, bugineseVowelYa) else none
  | bugineseVowelYa => if c.toNat == 0x1A15 then some (0, plain) else none
  | tifinaghLetter joined =>
    if c.toNat == 0x2D7F then some (1, tifinaghJoinerLetter)
    else if joined && isTifinaghLetter c then some (0, plain)
    else none
  | tifinaghJoinerLetter => if isTifinaghLetter c then some (-1, plain) else none
  | lisuTone => if 0xA4F8 ≤ c.toNat && c.toNat ≤ 0xA4FB then some (0, plain) else none
  | turkicI true => if c.toNat == 0x10C32 then some (0, plain) else none
  | kiratRaiE =>
    if c.toNat == 0x16D63 || c.toNat == 0x16D69 then some (0, plain)
    else if c.toNat == 0x16D67 then some (0, kiratRaiAi)
    else none
  | kiratRaiAi => if c.toNat == 0x16D63 then some (0, plain) else none
  | _ => none

/-- The cells that `c` adds in front of what follows it. -/
def step (c : Char) (next : Following) : Int × Following :=
  match merge? c next with
  | some merged => merged
  | none =>
    if next.admitsMarks && isLigatureTransparent c then
      (0, if c.toNat == 0x200D then next.join else next)
    else if c == '\n' then (1, lineFeed)
    else if c.toNat ≤ 0xA0 then (1, plain)
    else ofChar c

end Following

/-- Terminal cells taken by a text. Control characters count one cell each. -/
def displayWidth (s : String) : Nat :=
  (s.toList.foldr (fun c (total, next) =>
    let (cells, here) := Following.step c next
    (total + cells, here)) ((0 : Int), Following.plain)).1.toNat

end MessageLint.Text
