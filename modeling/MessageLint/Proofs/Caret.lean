import MessageLint.Proofs.Check.Selection
import MessageLint.Proofs.Source.Build
import MessageLint.Proofs.Source.Location
import MessageLint.Report
import MessageLint.Source

/-!
# MessageLint — where the caret stands

A position counts terminal cells, and a report takes its column for a number of characters. Both are
followed here from the text of a file to the row below the printed source line.

* `locate_eq` — the position after a part of a text: its line feeds, and the cells of its last line.
* `lineAt_eq` — the source line at that position.
* `caretAfter_location_iff` — the row below the source line.
* `caret_after_cells` — where the caret of an issue stands, and when that is below its node.
-/

namespace MessageLint

/-! ## Lines -/

namespace Text

/-- The characters after the last line feed. -/
def lastLine : List Char → List Char
  | [] => []
  | c :: rest => if '\n' ∈ c :: rest then lastLine rest else c :: rest

theorem lastLine_of_not_mem {cs : List Char} (h : '\n' ∉ cs) : lastLine cs = cs := by
  cases cs with
  | nil => rfl
  | cons c rest => rw [lastLine, if_neg h]

theorem lastLine_lineFeed (cs : List Char) : lastLine ('\n' :: cs) = lastLine cs := by
  rw [lastLine, if_pos List.mem_cons_self]

theorem lastLine_cons {c : Char} (h : c ≠ '\n') (cs : List Char) :
    lastLine (c :: cs) = (if '\n' ∈ cs then [] else [c]) ++ lastLine cs := by
  by_cases hMem : '\n' ∈ cs
  · rw [lastLine, if_pos (List.mem_cons_of_mem c hMem), if_pos hMem, List.nil_append]
  · have hNone : '\n' ∉ c :: cs := by simp [hMem, h.symm]
    rw [lastLine, if_neg hNone, if_neg hMem, lastLine_of_not_mem hMem, List.singleton_append]

theorem dropReturn_of_not_mem {line : List Char} (h : '\r' ∉ line) : dropReturn line = line := by
  unfold dropReturn
  split
  · simp at h
  · rfl

theorem linesFrom_cons {c : Char} (h : c ≠ '\n') (line cs : List Char) :
    linesFrom line (c :: cs) = linesFrom (c :: line) cs := by
  rw [linesFrom]
  simpa using h

theorem linesFrom_head {line : List Char} (hLine : '\r' ∉ line) {cs : List Char}
    (h : '\r' ∉ cs) :
    ((linesFrom line cs)[0]?).getD [] = line.reverse ++ cs.takeWhile (· != '\n') := by
  induction cs generalizing line with
  | nil => cases line <;> simp [linesFrom]
  | cons c cs ih =>
    rw [List.mem_cons, not_or] at h
    by_cases hFeed : c = '\n'
    · subst hFeed
      simp [linesFrom, dropReturn_of_not_mem hLine]
    · rw [linesFrom_cons hFeed, ih (by simp [hLine, h.1]) h.2]
      simp [hFeed]

theorem linesFrom_append {line : List Char} (hLine : '\r' ∉ line) {before after : List Char}
    (h : '\r' ∉ before) (hAfter : '\r' ∉ after) :
    ((linesFrom line (before ++ after))[before.count '\n']?).getD [] =
      (if '\n' ∈ before then [] else line.reverse) ++ lastLine before ++
        after.takeWhile (· != '\n') := by
  -- `line` is what has been read of the current line, so it counts only up to a line feed
  induction before generalizing line with
  | nil => simpa [lastLine] using linesFrom_head hLine hAfter
  | cons c before ih =>
    rw [List.mem_cons, not_or] at h
    by_cases hFeed : c = '\n'
    · subst hFeed
      have hRest := ih (List.not_mem_nil : '\r' ∉ []) h.2
      simpa [linesFrom, lastLine_lineFeed] using hRest
    · rw [List.cons_append, linesFrom_cons hFeed, List.count_cons_of_ne hFeed,
        ih (by simp [hLine, h.1]) h.2, lastLine_cons hFeed]
      by_cases hMem : '\n' ∈ before
      · simp [hMem]
      · simp [hMem, Ne.symm hFeed]

/-- The line after so many line feeds is what has come since the last of them, and what follows up
to the next. -/
theorem lineAt_eq {text : String} {before after : List Char} (h : '\r' ∉ text.toList)
    (hText : text.toList = before ++ after) :
    lineAt text (before.count '\n' + 1) =
      String.ofList (lastLine before ++ after.takeWhile (· != '\n')) := by
  rw [hText, List.mem_append, not_or] at h
  have hLine := linesFrom_append (List.not_mem_nil : '\r' ∉ []) h.1 h.2
  simp only [List.reverse_nil, ite_self, List.nil_append] at hLine
  rw [← hLine, ← hText, lineAt, lines, List.getElem?_map]
  cases (linesFrom [] text.toList)[before.count '\n']? <;> rfl

end Text

open Text (lastLine lastLine_lineFeed lastLine_cons lineAt_eq)

/-! ## Positions -/

namespace Source

/-- Without carriage returns, the line breaks are the line feeds. -/
theorem breakCount_eq_count {cs : List Char} (h : '\r' ∉ cs) : breakCount cs = cs.count '\n' := by
  induction cs with
  | nil => rfl
  | cons c cs ih =>
    rw [List.mem_cons, not_or] at h
    have hBreak : isBreak c = (c == '\n') := by simp [isBreak, Ne.symm h.1]
    rw [breakCount_cons (Ne.symm h.1), hBreak, ih h.2, List.count_cons]
    split <;> rfl

theorem currentLine_eq_lastLine {cs : List Char} (h : '\r' ∉ cs) :
    currentLine cs = lastLine cs := by
  induction cs with
  | nil => rfl
  | cons c cs ih =>
    have hBreak : ∀ d ∈ c :: cs, isBreak d = true ↔ d = '\n' := by
      intro d hd
      have hReturn : d ≠ '\r' := fun hd' => h (hd' ▸ hd)
      simp [isBreak, hReturn]
    have hAny : (c :: cs).any isBreak = true ↔ '\n' ∈ c :: cs := by
      rw [List.any_eq_true]
      constructor
      · rintro ⟨d, hd, hdBreak⟩
        exact (hBreak d hd).mp hdBreak ▸ hd
      · intro hMem
        exact ⟨'\n', hMem, rfl⟩
    rw [currentLine, lastLine, if_congr hAny (ih fun hMem => h (List.mem_cons_of_mem c hMem)) rfl]

/-- The position after some characters counts the line feeds among them, and the cells after the
last one. -/
theorem locate_eq {before after : List Char} (h : '\r' ∉ before) (hText : before ++ after ≠ []) :
    locate (before ++ after) (byteCount before) =
      ⟨before.count '\n' + 1, cellCount (lastLine before) + 1⟩ := by
  have hBetween : BetweenBreaks before after := fun hLast => absurd (List.mem_of_getLast? hLast) h
  rw [locate_eq_breakCount hBetween hText, breakCount_eq_count h, currentLine_eq_lastLine h]

/-! ## The byte order mark -/

/-- Of the characters of a text, all are visible, or all but a byte order mark at the beginning. -/
theorem toList_eq_visibleChars (text : String) :
    text.toList = visibleChars text ∨ text.toList = '\uFEFF' :: visibleChars text := by
  unfold visibleChars
  split
  · rename_i c rest hText
    rw [hText]
    split
    · rename_i hMark
      right
      rw [List.cons.injEq]
      exact ⟨Char.toNat_inj.mp (by simpa using hMark), rfl⟩
    · exact .inl rfl
  · rename_i hText
    exact .inl hText

theorem visibleChars_append {text : String} {before after : List Char}
    (hText : text.toList = before ++ after) :
    ∃ rest, visibleChars text = visibleChars (String.ofList before) ++ rest := by
  cases before with
  | nil => exact ⟨visibleChars text, by simp [visibleChars]⟩
  | cons c before =>
    refine ⟨after, ?_⟩
    simp only [visibleChars, hText, List.cons_append, String.toList_ofList]
    split <;> rfl

/-- A byte order mark is no line feed and adds no cells, so a position does not depend on it. -/
theorem locate_visibleChars {text : String} {before after : List Char} (h : '\r' ∉ text.toList)
    (hText : text.toList = before ++ after) (hVisible : visibleChars text ≠ []) :
    locate (visibleChars text) (byteCount (visibleChars (String.ofList before))) =
      ⟨before.count '\n' + 1, cellCount (lastLine before) + 1⟩ := by
  obtain ⟨rest, hRest⟩ := visibleChars_append hText
  have hBefore := toList_eq_visibleChars (String.ofList before)
  rw [String.toList_ofList] at hBefore
  rw [hText, List.mem_append, not_or] at h
  generalize visibleChars (String.ofList before) = shown at hRest hBefore ⊢
  rw [hRest] at hVisible ⊢
  -- `shown` is what is visible of `before`: all of it, or all but the mark
  rcases hBefore with rfl | rfl
  · exact locate_eq h.1 hVisible
  · have hReturn : '\r' ∉ shown := fun hMem => h.1 (List.mem_cons_of_mem _ hMem)
    have hMark : columnWidth '\uFEFF' = 0 := by decide +kernel
    have hCells : cellCount (lastLine ('\uFEFF' :: shown)) = cellCount (lastLine shown) := by
      rw [lastLine_cons (by decide)]
      split
      · rfl
      · rw [List.singleton_append, cellCount, hMark, Nat.zero_add]
    rw [hCells, List.count_cons_of_ne (by decide)]
    exact locate_eq hReturn hVisible

end Source

/-! ## The row with the caret -/

namespace Report

/-- The row below this source line has its caret after so many blanks. -/
def CaretAfter (rows : List Piece) (line : String) (blanks : Nat) : Prop :=
  ∃ above width style, rows = above ++ [plain (" " ++ line ++ "\n"), margin width, bar,
    plain (" " ++ padLeft blanks ""), styled style "^", plain "\n"]

theorem length_padLeft_empty (n : Nat) : (padLeft n "").length = n := by
  simp [padLeft]

theorem caretAfter_sourceRows (width : Nat) (severity : Severity) (p : Place) :
    CaretAfter (sourceRows width severity p) p.sourceLine (caretPad p) :=
  ⟨arrow ++ [plain (p.path ++ ":" ++ toString p.line ++ ":" ++ toString p.col ++ "\n"),
    margin width, bar, plain "\n", styled (.colour .blue) (padLeft width (toString p.line)),
    plain " ", bar], width, caretStyle severity, rfl⟩

theorem CaretAfter.unique {rows : List Piece} {line line' : String} {blanks blanks' : Nat}
    (h : CaretAfter rows line blanks) (h' : CaretAfter rows line' blanks') :
    line = line' ∧ blanks = blanks' := by
  obtain ⟨above, width, style, rfl⟩ := h
  obtain ⟨above', width', style', hRows⟩ := h'
  -- the rows end in as many pieces on either side
  have hBelow := List.append_inj_right' hRows rfl
  simp only [List.cons.injEq, plain, Piece.mk.injEq, true_and] at hBelow
  obtain ⟨hLine, -, hPad, -⟩ := hBelow
  constructor
  · have hSame : " " ++ line = " " ++ line' := String.append_left_inj _ |>.mp hLine
    exact (String.append_right_inj _).mp hSame
  · have hSame : padLeft blanks "" = padLeft blanks' "" := (String.append_right_inj _).mp hPad
    rw [← length_padLeft_empty blanks, hSame, length_padLeft_empty]

theorem caretAfter_location_iff {i : Issue} {p : Place} (h : i.place? = some p) {width : Nat}
    {line : String} {blanks : Nat} :
    CaretAfter (location width i) line blanks ↔ line = p.sourceLine ∧ blanks = caretPad p := by
  have hRows := caretAfter_sourceRows width i.severity p
  simp only [location, h]
  constructor
  · exact fun hCaret => hCaret.unique hRows
  · rintro ⟨rfl, rfl⟩
    exact hRows

end Report

/-! ## Issues of a file -/

namespace Check

theorem report_of_mem_respond {t : Tree} {rules : List Rule} {exempt : Exemptions}
    {v : Visitor Finding} (hv : v ∈ visitors t rules exempt) {phase : Phase} {id : NodeId}
    {f : Finding} (h : f ∈ v.respond phase id) : ∃ fault, f = t.report id fault := by
  simp only [visitors, List.mem_append, List.mem_ite_nil_right, List.mem_singleton] at hv
  obtain (⟨-, rfl⟩ | ⟨-, rfl⟩) | ⟨-, rfl⟩ := hv
  · simp only [messageExpression, List.mem_ite_nil_right, List.mem_singleton] at h
    exact ⟨_, h.2⟩
  · obtain ⟨fault, -, rfl⟩ := Option.map_eq_some_iff.mp (Option.mem_toList.mp h)
    exact ⟨fault, rfl⟩
  · obtain ⟨fault, -, rfl⟩ := Option.map_eq_some_iff.mp (Option.mem_toList.mp h)
    exact ⟨fault, rfl⟩

/-- What is found is found at a node, and reported at its position. -/
theorem exists_node_of_mem_findings {t : Tree} {rules : List Rule} {exempt : Exemptions}
    {f : Finding} (h : f ∈ findings t rules exempt) :
    ∃ node, t.get? f.node = some node ∧ f.position = node.position := by
  unfold findings Tree.traverse? at h
  cases hWalk : t.walk? with
  | none => simp [hWalk] at h
  | some events =>
    simp only [hWalk, Option.map_some, Option.getD_some, List.mem_flatMap] at h
    obtain ⟨e, -, hMem⟩ := h
    -- only nodes that exist call a visitor, and each visitor reports the node it is called for
    rw [t.dispatch_eq] at hMem
    cases hNode : t.get? e.node with
    | none => simp [Tree.kind?, Tree.payload?, hNode] at hMem
    | some node =>
      simp only [Tree.kind?, Tree.payload?, hNode, Option.map_some, Option.elim_some, subscribers,
        List.mem_flatMap] at hMem
      obtain ⟨v, ⟨w, hw, hv⟩, hMem⟩ := hMem
      obtain rfl := List.eq_of_mem_replicate hv
      obtain ⟨fault, rfl⟩ := report_of_mem_respond hw hMem
      exact ⟨node, hNode, by simp [Tree.report, Tree.position, hNode]⟩

end Check

/-! ## The caret of an issue -/

namespace Source

theorem parse_eq_ok_iff {text : String} {parsed : ParsedFile} :
    parse text = .ok parsed ↔ ∃ found, contents (visibleChars text) = .ok found ∧ parsed = {
      tree := found.outline.toTree (locate (visibleChars text))
      source := text
      suppression := .ofComments
        (found.comments.map (toComment (locate (visibleChars text)))) } := by
  cases hFound : contents (visibleChars text) with
  | error reason => simp [parse, hFound, bind, Except.bind]
  | ok found => simp [parse, hFound, bind, Except.bind, pure, Except.pure, eq_comm]

/-- Where nothing is visible, nothing is found. -/
theorem visibleChars_ne_nil_of_mem_findings {text : String} {parsed : ParsedFile} {rules : List Rule}
    {exempt : Check.Exemptions} {f : Finding} (hParse : parse text = .ok parsed)
    (hf : f ∈ Check.findings parsed.tree rules exempt) : visibleChars text ≠ [] := by
  intro hNone
  -- there are two such texts, and in neither of them does any rule find anything
  have hText : text = "" ∨ text = "\uFEFF" := by
    rw [← String.toList_inj, ← String.toList_inj]
    simpa [hNone] using toList_eq_visibleChars text
  have hNothing : (parse text).toOption.map (Check.findings ·.tree Rule.suppressible {}) =
      some [] := by
    rcases hText with rfl | rfl <;> decide +kernel
  rw [hParse, Except.toOption, Option.map_some, Option.some.injEq] at hNothing
  rw [Check.findings_eq_filter, hNothing, List.filter_nil] at hf
  cases hf

/-- What is written before and after a piece of a text. A byte order mark belongs to the text, but
is not counted. -/
structure Piece.Between (text : String) (piece : Piece) (before after : List Char) : Prop where
  text : text.toList = before ++ after
  place : byteCount (visibleChars (String.ofList before)) = piece.place

/-- The line that is printed for a place in a text: what is before it and what is after it. -/
def printedLine (before after : List Char) : List Char :=
  lastLine before ++ after.takeWhile (· != '\n')

/-- What is found in a text is found at the node of a piece, and its issue is placed where the piece
stands. -/
theorem exists_piece_of_mem_findings {text : String} {parsed : ParsedFile} {rules : List Rule}
    {exempt : Check.Exemptions} {f : Finding} (hBreaks : '\r' ∉ text.toList)
    (hParse : parse text = .ok parsed) (hf : f ∈ Check.findings parsed.tree rules exempt) :
    ∃ found piece, contents (visibleChars text) = .ok found ∧
      found.outline.pieces[f.node]? = some piece ∧
      ∀ before after, piece.Between text before after → ∀ path,
        (Check.toIssue path text f).place? = some ⟨path, before.count '\n' + 1,
          cellCount (lastLine before) + 1, String.ofList (printedLine before after)⟩ := by
  have hVisible := visibleChars_ne_nil_of_mem_findings hParse hf
  obtain ⟨found, hFound, rfl⟩ := parse_eq_ok_iff.mp hParse
  obtain ⟨node, hNode, hPosition⟩ := Check.exists_node_of_mem_findings hf
  obtain ⟨piece, hPiece, hShown⟩ := found.outline.shown_of_get? _ hNode
  refine ⟨found, piece, hFound, hPiece, fun before after hBetween path => ?_⟩
  have hAt : f.position = ⟨before.count '\n' + 1, cellCount (lastLine before) + 1⟩ := by
    rw [hPosition, hShown.position, ← hBetween.place]
    exact locate_visibleChars hBreaks hBetween.text hVisible
  simp only [Check.toIssue, Issue.place?, hAt, lineAt_eq hBreaks hBetween.text, printedLine]

/-- The caret of an issue stands after as many cells as the printed line takes up to its column,
where the cells before the node are taken for a number of characters. This is below the node exactly
if the two widths agree, and so if every character before it adds one cell. -/
theorem caret_after_cells {text path : String} {rules : List Rule} {exempt : Check.Exemptions}
    {parsed : ParsedFile} {issue : Issue} (hBreaks : '\r' ∉ text.toList)
    (hParse : parse text = .ok parsed) (hIssue : issue ∈ Check.file path parsed rules exempt) :
    ∃ found f piece, contents (visibleChars text) = .ok found ∧
      f ∈ Check.findings parsed.tree rules exempt ∧ issue = Check.toIssue path text f ∧
      found.outline.pieces[f.node]? = some piece ∧
      ∀ before after, piece.Between text before after → ∀ width,
        (∀ blanks, Report.CaretAfter (Report.location width issue)
            (String.ofList (printedLine before after)) blanks ↔
          blanks = Text.displayWidth (String.ofList
            ((printedLine before after).take (cellCount (lastLine before))))) ∧
        ((∀ c ∈ lastLine before, columnWidth c = 1) →
          Report.CaretAfter (Report.location width issue)
            (String.ofList (printedLine before after))
            (Text.displayWidth (String.ofList (lastLine before)))) := by
  obtain ⟨f, hFiltered, rfl⟩ := List.mem_map.mp hIssue
  have hf := (List.mem_filter.mp hFiltered).1
  obtain ⟨found, piece, hFound, hPiece, hPlace⟩ := exists_piece_of_mem_findings hBreaks hParse hf
  obtain ⟨_, _, rfl⟩ := parse_eq_ok_iff.mp hParse
  refine ⟨found, f, piece, hFound, hf, rfl, hPiece, fun before after hBetween width => ?_⟩
  have hCaret : ∀ blanks, Report.CaretAfter (Report.location width (Check.toIssue path text f))
        (String.ofList (printedLine before after)) blanks ↔
      blanks = Text.displayWidth (String.ofList
        ((printedLine before after).take (cellCount (lastLine before)))) := by
    intro blanks
    rw [Report.caretAfter_location_iff (hPlace before after hBetween path), Report.caretPad]
    simp
  refine ⟨hCaret, fun hNarrow => (hCaret _).mpr ?_⟩
  rw [cellCount_eq_length hNarrow, printedLine, List.take_left]

theorem exists_of_toOption_map {ε α β : Type} {result : Except ε α} {view : α → β} {b : β}
    (h : result.toOption.map view = some b) : ∃ a, result = .ok a ∧ view a = b := by
  cases result with
  | error e => simp [Except.toOption] at h
  | ok a => exact ⟨a, rfl, by simpa [Except.toOption] using h⟩

/-- An element on the second line, after characters of one cell each. -/
def narrowLines : String := "let a;\n  <p>Hello</p>;"

/-- There the caret stands below the text that is reported. -/
theorem caret_below_hello : ∃ parsed issue, parse narrowLines = .ok parsed ∧
    issue ∈ Check.file "a.tsx" parsed Rule.suppressible {} ∧
    Report.CaretAfter (Report.location 1 issue) "  <p>Hello</p>;" 5 := by
  have hRun : (parse narrowLines).toOption.map (fun p =>
      ((Check.findings p.tree Rule.suppressible {}).map (·.node),
        (Check.file "a.tsx" p Rule.suppressible {}).length)) = some ([2], 1) := by decide +kernel
  have hPieces : (contents (visibleChars narrowLines)).toOption.map (fun found =>
      (found.outline.pieces[2]?).map Piece.place) = some (some 12) := by decide +kernel
  obtain ⟨parsed, hParse, hView⟩ := exists_of_toOption_map hRun
  obtain ⟨hNodes, hLength⟩ := Prod.mk.inj hView
  obtain ⟨issue, hIssues⟩ := List.length_eq_one_iff.mp hLength
  have hIssue : issue ∈ Check.file "a.tsx" parsed Rule.suppressible {} := by simp [hIssues]
  obtain ⟨found, f, piece, hFound, hf, -, hPiece, hCaret⟩ :=
    caret_after_cells (by decide +kernel) hParse hIssue
  -- the only finding is at the text, which starts after twelve bytes
  obtain ⟨found', hFound', hPlace⟩ := exists_of_toOption_map hPieces
  obtain rfl : found = found' := by simpa [hFound] using hFound'
  have hNode : f.node = 2 := by
    have hMem := List.mem_map_of_mem (f := (·.node)) hf
    simpa [hNodes] using hMem
  rw [hNode] at hPiece
  rw [hPiece, Option.map_some, Option.some.injEq] at hPlace
  have hBytes : byteCount (visibleChars (String.ofList "let a;\n  <p>".toList)) = 12 := by
    decide +kernel
  have hBetween : piece.Between narrowLines "let a;\n  <p>".toList "Hello</p>;".toList :=
    ⟨by decide +kernel, hBytes.trans hPlace.symm⟩
  have hNarrow : (lastLine "let a;\n  <p>".toList).all (columnWidth · == 1) = true := by
    decide +kernel
  have hBelow := (hCaret _ _ hBetween 1).2 fun c hc => by
    simpa using List.all_eq_true.mp hNarrow c hc
  have hLine : String.ofList (printedLine "let a;\n  <p>".toList "Hello</p>;".toList) =
      "  <p>Hello</p>;" := by decide +kernel
  have hWidth : Text.displayWidth (String.ofList (lastLine "let a;\n  <p>".toList)) = 5 := by
    decide +kernel
  rw [hLine, hWidth] at hBelow
  exact ⟨parsed, issue, hParse, hIssue, hBelow⟩

/-- An element after a comment with wide characters. -/
def wideLine : String := "/* 你好 */ <p>World</p>;"

/-- There the twelve characters before the text take fourteen cells, but the caret stands after
sixteen. -/
theorem caret_beside_world : ∃ parsed issue found piece, parse wideLine = .ok parsed ∧
    Check.file "a.tsx" parsed Rule.suppressible {} = [issue] ∧
    (Check.findings parsed.tree Rule.suppressible {}).map (·.node) = [2] ∧
    contents (visibleChars wideLine) = .ok found ∧ found.outline.pieces[2]? = some piece ∧
    piece.Between wideLine "/* 你好 */ <p>".toList "World</p>;".toList ∧
    Text.displayWidth "/* 你好 */ <p>" = 14 ∧
    Report.CaretAfter (Report.location 1 issue) wideLine 16 ∧
    ¬ Report.CaretAfter (Report.location 1 issue) wideLine 14 := by
  have hRun : (parse wideLine).toOption.map (fun p =>
      ((Check.findings p.tree Rule.suppressible {}).map (·.node),
        Check.file "a.tsx" p Rule.suppressible {})) =
      some ([2], [.fault ⟨"a.tsx", 1, 15, wideLine⟩ (.unlocalizedText "World")]) := by
    decide +kernel
  have hPieces : (contents (visibleChars wideLine)).toOption.map (fun found =>
      (found.outline.pieces[2]?).map Piece.place) = some (some 16) := by decide +kernel
  obtain ⟨parsed, hParse, hView⟩ := exists_of_toOption_map hRun
  obtain ⟨found, hFound, hPiece⟩ := exists_of_toOption_map hPieces
  obtain ⟨hNodes, hIssues⟩ := Prod.mk.inj hView
  obtain ⟨piece, hPiece, hPlace⟩ := Option.map_eq_some_iff.mp hPiece
  have hBytes : byteCount (visibleChars (String.ofList "/* 你好 */ <p>".toList)) = 16 := by
    decide +kernel
  have hPad : Report.caretPad ⟨"a.tsx", 1, 15, wideLine⟩ = 16 := by decide +kernel
  have hCaret (blanks : Nat) : Report.CaretAfter
      (Report.location 1 (.fault ⟨"a.tsx", 1, 15, wideLine⟩ (.unlocalizedText "World")))
      wideLine blanks ↔ blanks = 16 := by
    rw [Report.caretAfter_location_iff (p := ⟨"a.tsx", 1, 15, wideLine⟩) rfl, hPad]
    exact and_iff_right rfl
  exact ⟨parsed, _, found, piece, hParse, hIssues, hNodes, hFound, hPiece,
    ⟨by decide +kernel, hBytes.trans hPlace.symm⟩, by decide +kernel, (hCaret 16).mpr rfl,
    fun h => absurd ((hCaret 14).mp h) (by decide)⟩

end Source

end MessageLint
