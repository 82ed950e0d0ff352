import MessageLint.Proofs.Caret
import MessageLint.Proofs.Source.Parsing.Grammar

/-!
# MessageLint — where an inline text is reported

An inline text is reported at its first character that is not a blank. The place is found by adding
the bytes of the blanks in the value to the place where the text begins, so it is right as long as
the blanks are written as they are. A blank that is written as an entity takes more bytes in the
text than in the value, and the reported place falls short.

* `inlineText_position` — where the node of an inline text stands, and when that is the place of its
  first character that is not a blank.
* `not_inlineText_position` — a text whose first blanks are entities is reported on the line above.
-/

namespace MessageLint.Source

/-! ## Inline texts and their nodes -/

/-- The node with this number is that of an inline text, and this is how the text is written. -/
structure InlineTextAt (text : String) (id : NodeId) (value : String) (before : List Char)
    (units : List TextUnit) (after : List Char) : Prop where
  piece : ∃ found, contents (visibleChars text) = .ok found ∧
    found.outline.pieces[id]? = some (.inlineText (byteCount before) value)
  written : WrittenAs (visibleChars text) (byteCount before) value before units after

/-- What is written before the first character of an inline text that is not a blank. -/
def beforeShown (before : List Char) (units : List TextUnit) : List Char :=
  before ++ (leadingBlanks units).flatMap TextUnit.written

theorem textStart_eq {value : String} {units : List TextUnit}
    (hValue : value.toList = units.map TextUnit.char)
    (hShown : ∃ c ∈ value.toList, Text.isBlank c = false) (start : Nat) :
    textStart start value = start + byteCount ((leadingBlanks units).map TextUnit.char) := by
  have hSome : value.toList.all Text.isBlank = false := by
    obtain ⟨c, hc, hBlank⟩ := hShown
    exact List.all_eq_false.mpr ⟨c, hc, by simp [hBlank]⟩
  unfold textStart
  dsimp only
  rw [hSome, if_neg Bool.false_ne_true, utf8ByteSize_ofList, hValue, map_char_leadingBlanks]

/-- Every node of an inline text is that of a text that is written in the source. -/
theorem exists_inlineTextAt {text : String} {file : ParsedFile} {id : NodeId} {node : Node}
    {value : String} (hParse : parse text = .ok file) (hNode : file.tree.get? id = some node)
    (hPayload : node.payload = .jsxText value) :
    ∃ before units after, InlineTextAt text id value before units after := by
  obtain ⟨found, hFound, rfl⟩ := parse_eq_ok_iff.mp hParse
  obtain ⟨piece, hPiece, hShownBy⟩ := found.outline.shown_of_get? _ hNode
  obtain ⟨start, rfl⟩ := Piece.Fits.of_jsxText (hPayload ▸ hShownBy.payload)
  obtain ⟨before, units, after, hWritten⟩ :=
    writtenIn_contents hFound start value (List.mem_of_getElem? hPiece)
  obtain rfl := hWritten.start
  exact ⟨before, units, after, ⟨found, hFound, hPiece⟩, hWritten⟩

theorem InlineTextAt.position {text : String} {file : ParsedFile} {id : NodeId} {node : Node}
    {value : String} {before after : List Char} {units : List TextUnit}
    (h : InlineTextAt text id value before units after) (hParse : parse text = .ok file)
    (hNode : file.tree.get? id = some node) :
    node.position = locate (visibleChars text) (textStart (byteCount before) value) := by
  obtain ⟨found, hFound, rfl⟩ := parse_eq_ok_iff.mp hParse
  obtain ⟨⟨found', hFound', hPiece⟩, -⟩ := h
  -- a text has one outline, and a number one piece
  obtain rfl : found = found' := Except.ok.inj (hFound.symm.trans hFound')
  obtain ⟨piece, hPiece', hShownBy⟩ := found.outline.shown_of_get? _ hNode
  obtain rfl := Option.some.inj (hPiece.symm.trans hPiece')
  exact hShownBy.position

/-- After the blanks something is written, and it does not begin with a line break. -/
theorem exists_rest_of_writtenAs {cs : List Char} {start : Nat} {value : String}
    {before after : List Char} {units : List TextUnit}
    (h : WrittenAs cs start value before units after)
    (hShown : ∃ c ∈ value.toList, Text.isBlank c = false) :
    ∃ c rest, cs = beforeShown before units ++ c :: rest ∧ c ≠ '\n' := by
  obtain ⟨u, more, hUnits, hBlank⟩ := exists_eq_leadingBlanks_append (h.value ▸ hShown)
  -- a character that stands for itself is not blank, and an entity begins with an ampersand
  obtain ⟨c, rest, hWritten, hc⟩ : ∃ c rest, u.written = c :: rest ∧ c ≠ '\n' := by
    cases u with
    | plain c =>
      refine ⟨c, [], rfl, ?_⟩
      rintro rfl
      exact absurd hBlank (by decide)
    | entity name c => exact ⟨'&', name ++ [';'], rfl, by decide⟩
  refine ⟨c, rest ++ more.flatMap TextUnit.written ++ after, ?_, hc⟩
  rw [h.text, beforeShown]
  nth_rewrite 1 [hUnits]
  simp [List.flatMap_append, hWritten]

/-- The node of an inline text stands after the bytes that the blanks at the beginning of its value
take. These are the bytes they are written with exactly if none of them is an entity, and then the
node stands at the line and the column of the first character that is not a blank. -/
theorem inlineText_position {text : String} {file : ParsedFile} {id : NodeId} {node : Node}
    {value : String} (hParse : parse text = .ok file) (hNode : file.tree.get? id = some node)
    (hPayload : node.payload = .jsxText value)
    (hShown : ∃ c ∈ value.toList, Text.isBlank c = false) :
    (∃ before units after, InlineTextAt text id value before units after) ∧
      ∀ before units after, InlineTextAt text id value before units after →
        node.position = locate (visibleChars text)
          (byteCount before + byteCount ((leadingBlanks units).map TextUnit.char)) ∧
        (byteCount before + byteCount ((leadingBlanks units).map TextUnit.char) =
            byteCount (beforeShown before units) ↔
          ∀ u ∈ leadingBlanks units, u.isPlain = true) ∧
        ((∀ u ∈ leadingBlanks units, u.isPlain = true) →
          node.position = ⟨breakCount (beforeShown before units) + 1,
            cellCount (currentLine (beforeShown before units)) + 1⟩) := by
  refine ⟨exists_inlineTextAt hParse hNode hPayload, fun before units after hAt => ?_⟩
  have hPosition := hAt.position hParse hNode
  rw [textStart_eq hAt.written.value hShown] at hPosition
  have hBytes : byteCount before + byteCount ((leadingBlanks units).map TextUnit.char) =
      byteCount (beforeShown before units) ↔ ∀ u ∈ leadingBlanks units, u.isPlain = true := by
    rw [beforeShown, byteCount_append, Nat.add_left_cancel_iff]
    exact hAt.written.reads.byteCount_leadingBlanks_eq_iff
  refine ⟨hPosition, hBytes, fun hPlain => ?_⟩
  obtain ⟨c, rest, hText, hc⟩ := exists_rest_of_writtenAs hAt.written hShown
  -- what follows the blanks is no line feed, so a carriage return before it is a line break
  have hBetween : BetweenBreaks (beforeShown before units) (c :: rest) := by
    intro _
    simpa using hc
  rw [hPosition, hBytes.mpr hPlain, hText]
  exact locate_eq_breakCount hBetween (by simp)

/-! ## Two texts -/

/-- Is this neither the end of an inline text nor the beginning of an entity? -/
def isVerbatim (c : Char) : Bool := c != '<' && c != '\x7b' && c != '&'

theorem Reads.verbatim {cs rest after : List Char} {units : List TextUnit}
    (hcs : cs.all isVerbatim = true) (h : Reads rest units after) :
    Reads (cs ++ rest) (cs.map .plain ++ units) after := by
  induction cs with
  | nil => exact h
  | cons c cs ih =>
    obtain ⟨hc, hcs⟩ : isVerbatim c = true ∧ cs.all isVerbatim = true := by simpa using hcs
    simp only [isVerbatim, Bool.and_eq_true, bne_iff_ne] at hc
    refine .plain ?_ (fun hAmp => absurd hAmp hc.2) (ih hcs)
    simp [endsInlineText, hc.1]

/-- The inline text with a number: where it starts, and its value. -/
def Contents.inlineText? (found : Contents) (id : NodeId) : Option (Nat × String) :=
  match found.outline.pieces[id]? with
  | some (.inlineText start value) => some (start, value)
  | _ => none

theorem Contents.pieces_of_inlineText? {found : Contents} {id : NodeId} {start : Nat}
    {value : String} (h : found.inlineText? id = some (start, value)) :
    found.outline.pieces[id]? = some (.inlineText start value) := by
  unfold inlineText? at h
  split at h
  · rename_i hPiece
    obtain ⟨rfl, rfl⟩ := Prod.mk.inj (Option.some.inj h)
    exact hPiece
  · cases h

/-- A run of the parser shows that an inline text is written in this way. -/
theorem inlineTextAt_of_run {text : String} {id : NodeId} {value : String}
    {cs before after : List Char} {units : List TextUnit}
    (hRun : (contents (visibleChars text)).toOption.map (·.inlineText? id) =
      some (some (byteCount before, value)))
    (hReads : Reads cs units after) (hText : visibleChars text = before ++ cs)
    (hValue : value.toList = units.map TextUnit.char) :
    InlineTextAt text id value before units after := by
  obtain ⟨found, hFound, hPiece⟩ := exists_of_toOption_map hRun
  exact ⟨⟨found, hFound, Contents.pieces_of_inlineText? hPiece⟩, hReads.writtenAs hText hValue⟩

/-- A text on an indented line of its own, with an entity inside. -/
def indentedText : String := "<p>\r\n\t  Hi &amp;</p>;"

/-- It is reported at its first letter: on the second line, after a tab and two spaces. -/
theorem indentedText_position : ∃ file node, parse indentedText = .ok file ∧
    file.tree.get? 2 = some node ∧ node.payload = .jsxText "\r\n\t  Hi &" ∧
    InlineTextAt indentedText 2 "\r\n\t  Hi &" "<p>".toList
      ("\r\n\t  Hi ".toList.map .plain ++ [.entity "amp".toList '&']) "</p>;".toList ∧
    node.position = ⟨2, 7⟩ := by
  have hRun : (parse indentedText).toOption.map (fun file =>
      (file.tree.get? 2).map (·.payload)) = some (some (.jsxText "\r\n\t  Hi &")) := by
    decide +kernel
  obtain ⟨file, hParse, hView⟩ := exists_of_toOption_map hRun
  obtain ⟨node, hNode, hPayload⟩ := Option.map_eq_some_iff.mp hView
  have hReads : Reads ("\r\n\t  Hi ".toList ++ '&' :: ("amp".toList ++ ';' :: "</p>;".toList))
      ("\r\n\t  Hi ".toList.map .plain ++ [.entity "amp".toList '&']) "</p>;".toList :=
    .verbatim (by decide +kernel) (.entity (by decide +kernel) (.stop rfl))
  have hAt : InlineTextAt indentedText 2 "\r\n\t  Hi &" "<p>".toList
      ("\r\n\t  Hi ".toList.map .plain ++ [.entity "amp".toList '&']) "</p>;".toList :=
    inlineTextAt_of_run (by decide +kernel) hReads (by decide +kernel) (by decide +kernel)
  have hPosition := ((inlineText_position hParse hNode hPayload ⟨'H', by decide +kernel,
    by decide +kernel⟩).2 _ _ _ hAt).2.2 (by decide +kernel)
  refine ⟨file, node, hParse, hNode, hPayload, hAt, hPosition.trans ?_⟩
  decide +kernel

/-- A text after two blanks, an entity for a third, and two more on the next line. -/
def entityText : String := "<p>\n  &nbsp;\n  Hi</p>;\n"

/-- The letters of this text begin on the third line, but its node stands on the second, at the end
of the entity. -/
theorem not_inlineText_position : ¬ ∀ (text : String) (file : ParsedFile) (id : NodeId)
    (node : Node) (value : String) (before after : List Char) (units : List TextUnit),
    parse text = .ok file → file.tree.get? id = some node → node.payload = .jsxText value →
    (∃ c ∈ value.toList, Text.isBlank c = false) →
    InlineTextAt text id value before units after →
    node.position = ⟨breakCount (beforeShown before units) + 1,
      cellCount (currentLine (beforeShown before units)) + 1⟩ := by
  intro hAll
  have hRun : (parse entityText).toOption.map (fun file =>
      (file.tree.get? 2).map fun node => (node.payload, node.position)) =
      some (some (.jsxText "\n  \u00a0\n  Hi", ⟨2, 8⟩)) := by
    decide +kernel
  obtain ⟨file, hParse, hView⟩ := exists_of_toOption_map hRun
  obtain ⟨node, hNode, hNodeView⟩ := Option.map_eq_some_iff.mp hView
  obtain ⟨hPayload, hPosition⟩ := Prod.mk.inj hNodeView
  have hReads : Reads ("\n  ".toList ++ '&' :: ("nbsp".toList ++
        ';' :: ("\n  Hi".toList ++ "</p>;\n".toList)))
      ("\n  ".toList.map .plain ++ .entity "nbsp".toList '\u00a0' ::
        ("\n  Hi".toList.map .plain ++ [])) "</p>;\n".toList :=
    .verbatim (by decide +kernel)
      (.entity (by decide +kernel) (.verbatim (by decide +kernel) (.stop rfl)))
  have hAt : InlineTextAt entityText 2 "\n  \u00a0\n  Hi" "<p>".toList _ "</p>;\n".toList :=
    inlineTextAt_of_run (by decide +kernel) hReads (by decide +kernel) (by decide +kernel)
  have hThird := hAll entityText file 2 node _ _ _ _ hParse hNode hPayload
    ⟨'H', by decide +kernel, by decide +kernel⟩ hAt
  -- the first letter is at the third cell of the third line
  rw [hPosition] at hThird
  exact absurd hThird (by decide +kernel)

end MessageLint.Source
