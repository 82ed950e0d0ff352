import MessageLint.Json.Reader

/-!
# MessageLint — what counts as JSON text

The format, said apart from how it is read and written: blanks may stand between the parts of a
text, and a character may be written plainly or by any of its escapes. A row of items between
brackets (`Row`) keeps the items, so that the text of a list or an object is related to what it
holds; text that nobody reads into a value only has to be well-formed (`IsText`).

* `CharText`, `StringText` — the ways to write a character and a string.
* `ListText`, `ObjectText` — lists of strings, and objects with the texts of their values.
* `IsText` — the texts of values of any kind, to any depth.
* `stringText_renderString`, `listText_pretty`, `objectText_pretty`, `listText_render`,
  `objectText_render` — what is written, with indentation or on one line, is such text.
-/

namespace MessageLint.Json

/-! ## Characters and strings -/

/-- The characters that may stand between the parts of a text. -/
def blanks : List Char := [' ', '\n', '\t', '\r']

/-- Nothing but blanks. -/
def IsBlank (cs : List Char) : Prop := ∀ c ∈ cs, c ∈ blanks

instance (cs : List Char) : Decidable (IsBlank cs) := List.decidableBAll (· ∈ blanks) cs

theorem isBlank_nil : IsBlank [] := by decide

theorem IsBlank.append {b b' : List Char} (h : IsBlank b) (h' : IsBlank b') :
    IsBlank (b ++ b') := by
  intro c hc
  exact (List.mem_append.mp hc).elim (h c) (h' c)

/-- The hexadecimal digits in either case, with their values. -/
def hexTable : List (Char × Nat) := [
  ('0', 0), ('1', 1), ('2', 2), ('3', 3), ('4', 4), ('5', 5), ('6', 6), ('7', 7), ('8', 8),
  ('9', 9), ('a', 10), ('b', 11), ('c', 12), ('d', 13), ('e', 14), ('f', 15), ('A', 10),
  ('B', 11), ('C', 12), ('D', 13), ('E', 14), ('F', 15)]

/-- Four hexadecimal digits and the number they spell. -/
inductive Hex4 : List Char → Nat → Prop where
  | spelled {a b c d : Char} {u v x y : Nat} (ha : (a, u) ∈ hexTable) (hb : (b, v) ∈ hexTable)
      (hc : (c, x) ∈ hexTable) (hd : (d, y) ∈ hexTable) :
      Hex4 [a, b, c, d] (((u * 16 + v) * 16 + x) * 16 + y)

/-- The letters of the short escapes, with what they stand for. -/
def escapes : List (Char × Char) := [
  ('"', '"'), ('\\', '\\'), ('/', '/'), ('b', Char.ofNat 8), ('f', Char.ofNat 12), ('n', '\n'),
  ('r', '\r'), ('t', '\t')]

/-- A way to write a character inside a string. -/
inductive CharText : Char → List Char → Prop where
  | plain {c : Char} (hQuote : c ≠ '"') (hBackslash : c ≠ '\\') (hControl : 0x20 ≤ c.toNat) :
      CharText c [c]
  | escape {e c : Char} (h : (e, c) ∈ escapes) : CharText c ['\\', e]
  | code {c : Char} {ds : List Char} (h : Hex4 ds c.toNat) : CharText c ('\\' :: 'u' :: ds)
  /-- A character beyond four digits is written as two halves. -/
  | pair {c : Char} {ds es : List Char} {high low : Nat} (hHigh : Hex4 ds (0xD800 + high))
      (hLow : Hex4 es (0xDC00 + low)) (hHighLt : high < 0x400) (hLowLt : low < 0x400)
      (h : c.toNat = 0x10000 + high * 0x400 + low) :
      CharText c ('\\' :: 'u' :: (ds ++ '\\' :: 'u' :: es))

/-- A way to write characters, from after the opening quote up to the closing one. -/
inductive StringTail : List Char → List Char → Prop where
  | close : StringTail [] ['"']
  | char {c : Char} {cs t ts : List Char} (hc : CharText c t) (hcs : StringTail cs ts) :
      StringTail (c :: cs) (t ++ ts)

/-- A way to write a string. -/
inductive StringText (s : String) : List Char → Prop where
  | quoted {ts : List Char} (h : StringTail s.toList ts) : StringText s ('"' :: ts)

/-- The text of a boolean. -/
def boolText (x : Bool) : List Char := (if x then "true" else "false").toList

/-! ## Rows of items -/

/-- What stands before an item: blanks, and a comma among them unless it is the first. -/
inductive Lead : Bool → List Char → Prop where
  | first {b : List Char} (hb : IsBlank b) : Lead true b
  | next {b b' : List Char} (hb : IsBlank b) (hb' : IsBlank b') : Lead false (b ++ ',' :: b')

/-- Items up to the closing bracket, each written in its own way. -/
inductive Row {α : Type} (Item : α → List Char → Prop) (close : Char) :
    Bool → List α → List Char → Prop where
  | close {first : Bool} {b : List Char} (hb : IsBlank b) : Row Item close first [] (b ++ [close])
  | item {first : Bool} {x : α} {xs : List α} {s t ts : List Char} (hs : Lead first s)
      (hx : Item x t) (hxs : Row Item close false xs ts) :
      Row Item close first (x :: xs) (s ++ t ++ ts)

/-- A list of strings. -/
inductive ListText (ss : List String) : List Char → Prop where
  | bracketed {ts : List Char} (h : Row StringText ']' true ss ts) : ListText ss ('[' :: ts)

/-- A member of an object: its key, and the text of its value after the colon. -/
inductive MemberText : String × List Char → List Char → Prop where
  | member {key : String} {k b b' v : List Char} (hk : StringText key k) (hb : IsBlank b)
      (hb' : IsBlank b') : MemberText (key, v) (k ++ b ++ ':' :: b' ++ v)

/-- An object, with blanks around it. -/
inductive ObjectText (members : List (String × List Char)) : List Char → Prop where
  | braced {b b' ts : List Char} (hb : IsBlank b) (hb' : IsBlank b')
      (h : Row MemberText '\x7d' true members ts) : ObjectText members (b ++ '\x7b' :: ts ++ b')

/-! ## Values of any kind -/

/-- At least one digit, and nothing else. -/
def IsDigits (ds : List Char) : Prop := ds ≠ [] ∧ ∀ d ∈ ds, d.isDigit = true

/-- The digits of an integer: no zero stands before others. -/
def IsWhole (ds : List Char) : Prop := IsDigits ds ∧ (ds.head? = some '0' → ds = ['0'])

/-- The places after the point, if there are any. -/
inductive IsPlaces : List Char → Prop where
  | none : IsPlaces []
  | point {ds : List Char} (h : IsDigits ds) : IsPlaces ('.' :: ds)

/-- The exponent, if there is one. -/
inductive IsExponent : List Char → Prop where
  | none : IsExponent []
  | power {e : Char} {sign ds : List Char} (he : e = 'e' ∨ e = 'E')
      (hSign : sign ∈ [[], ['+'], ['-']]) (h : IsDigits ds) : IsExponent (e :: (sign ++ ds))

/-- A number of any size. -/
inductive IsNumber : List Char → Prop where
  | number {sign whole places exponent : List Char} (hSign : sign ∈ [[], ['-']])
      (hWhole : IsWhole whole) (hPlaces : IsPlaces places) (hExponent : IsExponent exponent) :
      IsNumber (sign ++ (whole ++ (places ++ exponent)))

/-- The rest of a string that need not stand for characters: halves of pairs may stand alone. -/
inductive IsStringTail : List Char → Prop where
  | close : IsStringTail ['"']
  | char {c : Char} {t ts : List Char} (hc : CharText c t) (h : IsStringTail ts) :
      IsStringTail (t ++ ts)
  | half {n : Nat} {ds ts : List Char} (hds : Hex4 ds n) (h : IsStringTail ts) :
      IsStringTail ('\\' :: 'u' :: (ds ++ ts))

open Reader (Bracket)

/-- The character that opens a bracket. -/
def opening : Bracket → Char
  | .list => '['
  | .object => '\x7b'

/-- The character that closes a bracket. -/
def closing : Bracket → Char
  | .list => ']'
  | .object => '\x7d'

/-- What stands before the value of an item: in an object, its key and a colon. -/
inductive Label : Bracket → List Char → Prop where
  | list : Label .list []
  | object {k b : List Char} (hk : IsStringTail k) (hb : IsBlank b) :
      Label .object ('"' :: (k ++ (b ++ [':'])))

/-- What a text is part of: a value, or the inside of a bracket up to its end. -/
inductive Part where
  | value
  | inside (bracket : Bracket) (first : Bool)

/-- Well-formed text, of any depth. -/
inductive IsText : Part → List Char → Prop where
  | word {w : String} (h : w ∈ ["null", "true", "false"]) : IsText .value w.toList
  | number {t : List Char} (h : IsNumber t) : IsText .value t
  | string {t : List Char} (h : IsStringTail t) : IsText .value ('"' :: t)
  | bracket {bracket : Bracket} {t : List Char} (h : IsText (.inside bracket true) t) :
      IsText .value (opening bracket :: t)
  | close {bracket : Bracket} {first : Bool} {b : List Char} (hb : IsBlank b) :
      IsText (.inside bracket first) (b ++ [closing bracket])
  | item {bracket : Bracket} {first : Bool} {s label b v t : List Char} (hs : Lead first s)
      (hLabel : Label bracket label) (hb : IsBlank b) (hv : IsText .value v)
      (h : IsText (.inside bracket false) t) :
      IsText (.inside bracket first) (s ++ (label ++ (b ++ (v ++ t))))

/-! ## What is written is such text -/

theorem hex4_hex4 {n : Nat} (h : n < 32) : Hex4 (hex4 n) n := by
  have hTable : ∀ n < 32, ∃ x ∈ hexTable, ∃ y ∈ hexTable,
      hex4 n = ['0', '0', x.1, y.1] ∧ x.2 * 16 + y.2 = n := by decide
  obtain ⟨x, hx, y, hy, hDigits, hValue⟩ := hTable n h
  have hZero : ('0', 0) ∈ hexTable := by decide
  have hSpelled := Hex4.spelled hZero hZero hx hy
  rwa [← hDigits, Nat.zero_mul, Nat.zero_add, hValue] at hSpelled

theorem charText_escapeChar (c : Char) : CharText c (escapeChar c) := by
  unfold escapeChar
  simp only [beq_iff_eq]
  -- the short escapes first, in the order in which they are tried
  split
  · exact .escape (by subst c; decide)
  split
  · exact .escape (by subst c; decide)
  split
  · exact .escape (by subst c; decide)
  split
  · exact .escape (by subst c; decide)
  split
  · exact .escape (by subst c; decide)
  split
  · rename_i h
    obtain rfl : c = Char.ofNat 8 := by rw [← h, Char.ofNat_toNat]
    exact .escape (by decide)
  split
  · rename_i h
    obtain rfl : c = Char.ofNat 12 := by rw [← h, Char.ofNat_toNat]
    exact .escape (by decide)
  split
  · rename_i h
    exact .code (hex4_hex4 h)
  · rename_i hQuote hBackslash _ _ _ _ _ hControl
    exact .plain hQuote hBackslash (Nat.le_of_not_lt hControl)

theorem stringTail_escapeChar (cs : List Char) :
    StringTail cs (cs.flatMap escapeChar ++ ['"']) := by
  induction cs with
  | nil => exact .close
  | cons c cs ih =>
    rw [List.flatMap_cons, List.append_assoc]
    exact .char (charText_escapeChar c) ih

theorem stringText_renderString (s : String) : StringText s (renderString s).toList := by
  rw [renderString, String.toList_ofList, List.cons_append]
  exact .quoted (stringTail_escapeChar s.toList)

theorem toList_joinWith (separator s : String) (rest : List String) :
    (joinWith separator (s :: rest)).toList =
      s.toList ++ rest.flatMap fun t => separator.toList ++ t.toList := by
  induction rest generalizing s with
  | nil => simp [joinWith]
  | cons t rest ih => simp [joinWith, ih]

/-- Items with a separator between them make a row, whether there are any or not. -/
theorem row_joinWith {α β : Type} {Item : α → List Char → Prop} (close : Char) (item : β → α)
    {text : β → String} (ys : List β) {b b' : String}
    (hItem : ∀ y ∈ ys, Item (item y) (text y).toList) (hb : IsBlank b.toList)
    (hb' : IsBlank b'.toList) :
    Row Item close true (ys.map item)
      (b.toList ++ (joinWith ("," ++ b) (ys.map text)).toList ++ (b'.toList ++ [close])) := by
  -- after the first item a separator comes before each, and the closing bracket after all
  have hRest : ∀ ys : List β, (∀ y ∈ ys, Item (item y) (text y).toList) →
      Row Item close false (ys.map item)
        ((ys.map text).flatMap (fun t => ("," ++ b).toList ++ t.toList) ++
          (b'.toList ++ [close])) := by
    intro ys
    induction ys with
    | nil => exact fun _ => .close hb'
    | cons y ys ih =>
      intro hys
      rw [List.forall_mem_cons] at hys
      have hRow := Row.item (.next isBlank_nil hb) hys.1 (ih hys.2)
      simpa [List.append_assoc] using hRow
  cases ys with
  | nil =>
    have hRow : Row Item close true [] ((b.toList ++ b'.toList) ++ [close]) :=
      .close (hb.append hb')
    simpa [joinWith] using hRow
  | cons y ys =>
    rw [List.forall_mem_cons] at hItem
    rw [List.map_cons, List.map_cons, toList_joinWith, List.append_assoc, List.append_assoc,
      ← List.append_assoc]
    exact .item (.first hb) hItem.1 (hRest ys hItem.2)

theorem isBlank_newline (depth : Nat) : IsBlank (newline depth).toList := by
  intro c hc
  simp only [newline, String.toList_append, String.toList_ofList, List.mem_append,
    List.mem_replicate] at hc
  rcases hc with hc | ⟨-, rfl⟩
  · obtain rfl : c = '\n' := by simpa using hc
    decide
  · decide

theorem prettyItems_eq (depth : Nat) (items : List Json) :
    prettyItems depth items = items.map (pretty depth) := by
  induction items with
  | nil => rfl
  | cons item items ih => rw [prettyItems, ih, List.map_cons]

theorem prettyMembers_eq (depth : Nat) (members : List (String × Json)) :
    prettyMembers depth members =
      members.map fun m => renderString m.1 ++ ": " ++ m.2.pretty depth := by
  induction members with
  | nil => rfl
  | cons m members ih => rw [prettyMembers, ih, List.map_cons]

theorem renderItems_eq (items : List Json) : renderItems items = items.map render := by
  induction items with
  | nil => rfl
  | cons item items ih => rw [renderItems, ih, List.map_cons]

theorem renderMembers_eq (members : List (String × Json)) :
    renderMembers members = members.map fun m => renderString m.1 ++ ":" ++ m.2.render := by
  induction members with
  | nil => rfl
  | cons m members ih => rw [renderMembers, ih, List.map_cons]

theorem listText_pretty (depth : Nat) (ss : List String) :
    ListText ss ((array (ss.map string)).pretty depth).toList := by
  cases ss with
  | nil =>
    rw [List.map_nil, pretty]
    exact .bracketed (.close isBlank_nil)
  | cons s ss =>
    have hRow := row_joinWith ']' id (s :: ss) (fun t _ => stringText_renderString t)
      (isBlank_newline (depth + 1)) (isBlank_newline depth)
    have hItems : prettyItems (depth + 1) ((s :: ss).map string) = (s :: ss).map renderString := by
      rw [prettyItems_eq, List.map_map]
      exact List.map_congr_left fun t _ => by simp [pretty]
    rw [List.map_id] at hRow
    rw [List.map_cons, pretty, ← List.map_cons, hItems]
    simpa using ListText.bracketed hRow

theorem listText_render (ss : List String) :
    ListText ss ((array (ss.map string)).render).toList := by
  have hBlank : IsBlank "".toList := isBlank_nil
  have hRow := row_joinWith ']' id ss (fun t _ => stringText_renderString t) hBlank hBlank
  have hItems : renderItems (ss.map string) = ss.map renderString := by
    rw [renderItems_eq, List.map_map]
    exact List.map_congr_left fun t _ => by simp [render]
  rw [List.map_id] at hRow
  rw [render, hItems]
  simpa using ListText.bracketed hRow

/-- An object without blanks around it. -/
theorem objectText_of_row {members : List (String × List Char)} {ts : List Char}
    (h : Row MemberText '\x7d' true members ts) : ObjectText members ('\x7b' :: ts) := by
  simpa using ObjectText.braced isBlank_nil isBlank_nil h

theorem memberText_pretty (depth : Nat) (m : String × Json) :
    MemberText (m.1, (m.2.pretty depth).toList)
      (renderString m.1 ++ ": " ++ m.2.pretty depth).toList := by
  have hBlank : IsBlank [' '] := by decide
  have hMember := MemberText.member (v := (m.2.pretty depth).toList)
    (stringText_renderString m.1) isBlank_nil hBlank
  simpa using hMember

theorem memberText_render (m : String × Json) :
    MemberText (m.1, m.2.render.toList) (renderString m.1 ++ ":" ++ m.2.render).toList := by
  have hMember := MemberText.member (v := m.2.render.toList) (stringText_renderString m.1)
    isBlank_nil isBlank_nil
  simpa using hMember

theorem objectText_pretty (depth : Nat) (members : List (String × Json)) :
    ObjectText (members.map fun m => (m.1, (m.2.pretty (depth + 1)).toList))
      ((object members).pretty depth).toList := by
  cases members with
  | nil =>
    rw [List.map_nil, pretty]
    exact objectText_of_row (.close isBlank_nil)
  | cons m members =>
    have hRow := row_joinWith '\x7d' (fun m => (m.1, (m.2.pretty (depth + 1)).toList))
      (m :: members) (fun m _ => memberText_pretty (depth + 1) m)
      (isBlank_newline (depth + 1)) (isBlank_newline depth)
    rw [pretty, prettyMembers_eq]
    simpa using objectText_of_row hRow

theorem objectText_render (members : List (String × Json)) :
    ObjectText (members.map fun m => (m.1, m.2.render.toList))
      ((object members).render).toList := by
  have hBlank : IsBlank "".toList := isBlank_nil
  have hRow := row_joinWith '\x7d' (fun m => (m.1, m.2.render.toList)) members
    (fun m _ => memberText_render m) hBlank hBlank
  rw [render, renderMembers_eq]
  simpa using objectText_of_row hRow

end MessageLint.Json
