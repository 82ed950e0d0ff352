import Mathlib.Data.Nat.Log
import Mathlib.Order.Bounds.Basic
import MessageLint.Proofs.IssueOrder

/-!
# MessageLint — the text of a report

What a report looks like once its pieces are written, for any issues. With colours on, the pieces
stand between escape sequences; taking these out again gives the report without colours, unless some
text of an issue brings an escape character of its own. Without colours, the marks `|` and `=` stand
below each other, for no line number is wider than the gutter.

* `stripped_render_iff` — pieces of any kind, with and without colours.
* `stripped_report_iff` — reports, the line about success, the hint at files that were not parsed.
* `render_ofIssues` — a report as a text: for each issue a title and the rows behind the gutter.
* `marks_aligned` — where the marks of these rows stand.
-/

namespace MessageLint

/-- The texts that come with a fault. -/
def Fault.texts : Fault → List String
  | disallowedExpression => []
  | unlocalizedAttribute tag name text => [tag, name, text]
  | unlocalizedText text => [text]

/-- The texts that come with an issue. -/
def Issue.texts : Issue → List String
  | fault place f => place.path :: place.sourceLine :: f.texts
  | unparsed path reason => [path, reason]

namespace Report

variable {s t : String} {cs ds : List Char} {ps qs : List Piece} {issues : List Issue} {i : Issue}
  {p : Place} {width : Nat}

/-! ## Pieces one after the other -/

@[simp] theorem render_nil (colours : Bool) : render colours [] = "" := by
  simp [render]

@[simp] theorem render_cons (colours : Bool) (q : Piece) (ps : List Piece) :
    render colours (q :: ps) = q.render colours ++ render colours ps := by
  simp [render]

@[simp] theorem render_append (colours : Bool) (ps qs : List Piece) :
    render colours (ps ++ qs) = render colours ps ++ render colours qs := by
  simp [render]

theorem Piece.render_false (q : Piece) : q.render false = q.text := by
  obtain ⟨style, text⟩ := q
  cases style <;> rfl

theorem toList_render_false (ps : List Piece) :
    (render false ps).toList = ps.flatMap (·.text.toList) := by
  induction ps with
  | nil => simp
  | cons q ps ih => simp [ih, Piece.render_false]

theorem render_flatMap {α : Type} (colours : Bool) (f : α → List Piece) (xs : List α) :
    render colours (xs.flatMap f) = String.join (xs.map fun x => render colours (f x)) := by
  induction xs with
  | nil => simp
  | cons x xs ih => simp [ih]

/-! ## Escape sequences -/

/-- The characters outside of escape sequences. A sequence begins with an escape character and ends
with the next `m`; the first argument says whether the characters begin inside of one. -/
def outside : Bool → List Char → List Char
  | _, [] => []
  | false, c :: cs => if c = '\x1b' then outside true cs else c :: outside false cs
  | true, c :: cs => outside (c != 'm') cs

/-- The text without its escape sequences. -/
def stripped (s : String) : String := String.ofList (outside false s.toList)

/-- The text has no escape character. -/
def Clean (s : String) : Prop := '\x1b' ∉ s.toList

instance (s : String) : Decidable (Clean s) := inferInstanceAs (Decidable (_ ∉ _))

theorem outside_append (h : '\x1b' ∉ cs) : outside false (cs ++ ds) = cs ++ outside false ds := by
  induction cs with
  | nil => rfl
  | cons c cs ih =>
    rw [List.mem_cons, not_or] at h
    rw [List.cons_append, outside, if_neg (Ne.symm h.1), ih h.2, List.cons_append]

theorem outside_sequence (h : 'm' ∉ cs) : outside true (cs ++ 'm' :: ds) = outside false ds := by
  induction cs with
  | nil => rfl
  | cons c cs ih =>
    rw [List.mem_cons, not_or] at h
    rw [List.cons_append, outside, bne_iff_ne.mpr (Ne.symm h.1), ih h.2]

theorem escape_not_mem_outside (inside : Bool) (cs : List Char) : '\x1b' ∉ outside inside cs := by
  fun_induction outside inside cs with
  | case1 => exact List.not_mem_nil
  | case2 cs ih => exact ih
  | case3 c cs hc ih => simp [ih, Ne.symm hc]
  | case4 c cs ih => exact ih

/-- The codes of a style do not end the sequence that they stand in. -/
theorem m_not_mem_codes (style : Style) : 'm' ∉ style.codes.toList := by
  cases style with
  | bold => decide
  | colour c => cases c <;> decide
  | boldColour c => cases c <;> decide
  | dimColour c => cases c <;> decide

/-- Of a piece, its text is left. -/
theorem outside_piece {q : Piece} (h : Clean q.text) :
    outside false ((q.render true).toList ++ ds) = q.text.toList ++ outside false ds := by
  obtain ⟨style, text⟩ := q
  cases style with
  | none => exact outside_append h
  | some style =>
    have hText : (Piece.render true ⟨some style, text⟩).toList ++ ds =
        '\x1b' :: ('[' :: style.codes.toList ++ 'm' ::
          (text.toList ++ '\x1b' :: (['[', '0'] ++ 'm' :: ds))) := by
      simp [Piece.render, escape]
    have hCodes : 'm' ∉ '[' :: style.codes.toList := by simp [m_not_mem_codes]
    rw [hText, outside, if_pos rfl, outside_sequence hCodes, outside_append h, outside, if_pos rfl,
      outside_sequence (by decide)]

/-- No piece has an escape character in its text. -/
def AllClean (ps : List Piece) : Prop := ∀ q ∈ ps, Clean q.text

theorem stripped_render (h : AllClean ps) : stripped (render true ps) = render false ps := by
  have hChars : outside false (render true ps).toList = (render false ps).toList := by
    induction ps with
    | nil => simp [outside]
    | cons q ps ih =>
      rw [render_cons, render_cons, String.toList_append, String.toList_append, q.render_false,
        outside_piece (h q (by simp)), ih fun r hr => h r (by simp [hr])]
  rw [stripped, hChars, String.ofList_toList]

/-- Taking the sequences out of pieces with colours gives the pieces without, exactly if the texts
have no escape characters of their own. -/
theorem stripped_render_iff : stripped (render true ps) = render false ps ↔ AllClean ps := by
  refine ⟨fun h q hq hMem => ?_, stripped_render⟩
  -- what is shown without colours has the character, and what is left with colours has not
  have hShown : '\x1b' ∈ (render false ps).toList := by
    rw [toList_render_false]
    exact List.mem_flatMap.mpr ⟨q, hq, hMem⟩
  rw [← h, stripped, String.toList_ofList] at hShown
  exact escape_not_mem_outside false _ hShown

/-! ## Texts without escape characters -/

@[simp] theorem clean_append : Clean (s ++ t) ↔ Clean s ∧ Clean t := by
  simp [Clean, String.toList_append]

@[simp] theorem clean_repr (n : Nat) : Clean n.repr := by
  intro hMem
  rw [Nat.toList_repr] at hMem
  exact absurd (Nat.isDigit_of_mem_toDigits (by decide) (by decide) hMem) (by decide)

@[simp] theorem clean_padLeft : Clean (padLeft width s) ↔ Clean s := by
  simp [Clean, padLeft]

@[simp] theorem allClean_nil : AllClean [] := by
  simp [AllClean]

@[simp] theorem allClean_plain : AllClean (plain s :: ps) ↔ Clean s ∧ AllClean ps := by
  simp [AllClean, plain]

@[simp] theorem allClean_styled (style : Style) :
    AllClean (styled style s :: ps) ↔ Clean s ∧ AllClean ps := by
  simp [AllClean, styled]

@[simp] theorem allClean_append : AllClean (ps ++ qs) ↔ AllClean ps ∧ AllClean qs := by
  simp [AllClean, or_imp, forall_and]

theorem clean_severity (severity : Severity) : Clean severity.name := by
  cases severity <;> decide

theorem clean_rule (rule : Rule) : Clean rule.name := by
  cases rule <;> decide

theorem clean_countWord (n : Nat) (h : Clean s) : Clean (countWord n s) := by
  unfold countWord
  split
  · exact h
  · exact clean_append.mpr ⟨h, by decide⟩

theorem allClean_headline (i : Issue) : AllClean (headline i) ↔ Clean i.message := by
  cases hQuotes : i.quotesUser with
  | true => simp +decide [headline, hQuotes, clean_severity, clean_rule]
  | false => simp +decide [headline, hQuotes, clean_severity, clean_rule]

theorem allClean_sourceRows (severity : Severity) :
    AllClean (sourceRows width severity p) ↔ Clean p.path ∧ Clean p.sourceLine := by
  simp +decide [sourceRows, arrow, margin, bar]

theorem allClean_remark (style : Style) (h : Clean t) :
    AllClean (remark width style t s) ↔ Clean s := by
  simp +decide [remark, margin, h]

/-- The rows about an issue have no escape characters but those in its texts. -/
theorem allClean_issueRows : AllClean (issueRows width i) ↔ ∀ s ∈ i.texts, Clean s := by
  have hEnd : AllClean [plain "\n"] := by simp +decide
  simp only [issueRows, allClean_append, allClean_headline, hEnd, and_true]
  cases i with
  | unparsed path reason =>
    simp +decide [location, arrow, Issue.place?, Issue.details?, Issue.hint?, Issue.texts,
      Issue.message, Issue.path, and_comm]
  | fault place f =>
    have hNote : ∀ s, AllClean (remark width .bold "note:" s) ↔ Clean s := fun s =>
      allClean_remark .bold (by decide)
    have hHint : ∀ s, AllClean (remark width (.boldColour .cyan) "hint:" s) ↔ Clean s := fun s =>
      allClean_remark (.boldColour .cyan) (by decide)
    simp only [location, Issue.place?, allClean_sourceRows]
    cases f with
    | disallowedExpression =>
      simp +decide [Issue.details?, Issue.hint?, Issue.texts, Fault.texts, Issue.message,
        Fault.message, hHint]
    | unlocalizedAttribute tag name text =>
      simp +decide [Issue.details?, Issue.hint?, Issue.texts, Fault.texts, Issue.message,
        Fault.message, hNote]
      tauto
    | unlocalizedText text =>
      simp +decide [Issue.details?, Issue.hint?, Issue.texts, Fault.texts, Issue.message,
        Fault.message, hHint]
      tauto

theorem allClean_summary (issues : List Issue) : AllClean (summary issues) := by
  simp +decide [summary, clean_countWord]

theorem allClean_ofIssues :
    AllClean (ofIssues issues) ↔ ∀ i ∈ issues, ∀ s ∈ i.texts, Clean s := by
  cases issues with
  | nil => simp [ofIssues]
  | cons first rest =>
    simp only [ofIssues, List.isEmpty_cons, Bool.false_eq_true, if_false, allClean_append,
      allClean_summary, and_true]
    constructor
    · intro h i hi
      have hMem := (Issue.sort_perm (first :: rest)).mem_iff.mpr hi
      exact allClean_issueRows.mp fun q hq => h q (List.mem_flatMap.mpr ⟨i, hMem, hq⟩)
    · intro h q hq
      obtain ⟨i, hi, hq⟩ := List.mem_flatMap.mp hq
      exact allClean_issueRows.mpr (h i ((Issue.sort_perm (first :: rest)).mem_iff.mp hi)) q hq

/-- Taking the escape sequences out of a report with colours gives the report without colours,
exactly if no text of an issue has an escape character. The line that says that nothing was found
and the hint at files that could not be parsed have no such texts. -/
theorem stripped_report_iff :
    (∀ issues, stripped (render true (ofIssues issues)) = render false (ofIssues issues) ↔
      ∀ i ∈ issues, ∀ s ∈ i.texts, Clean s) ∧
    (∀ sourceFiles, stripped (render true (success sourceFiles)) =
      render false (success sourceFiles)) ∧
    ∀ count verbose, stripped (render true (parseWarning count verbose)) =
      render false (parseWarning count verbose) := by
  refine ⟨fun issues => stripped_render_iff.trans allClean_ofIssues, fun sourceFiles => ?_,
    fun count verbose => ?_⟩
  · apply stripped_render
    simp +decide [success, clean_countWord]
  · apply stripped_render
    unfold parseWarning
    split
    · simp +decide [warningLabel]
    · exact allClean_nil

example : render true (success 1) ≠ render false (success 1) := by decide

/-! ## The gutter -/

/-- The line numbers of the issues that have a place. -/
def lineNumbers (issues : List Issue) : Set Nat :=
  {line | ∃ i ∈ issues, ∃ p, i.place? = some p ∧ p.line = line}

/-- The digits of a number are counted by the powers of ten that are no greater than it. -/
theorem length_repr_eq (n : Nat) : n.repr.length = Nat.log 10 n + 1 := by
  have hBound := (Nat.length_repr_le_iff Nat.length_repr_pos).mp (Nat.le_refl n.repr.length)
  apply Nat.le_antisymm
  · rw [Nat.length_repr_le_iff (Nat.succ_pos _)]
    exact Nat.lt_pow_succ_log_self (by decide) n
  · exact Nat.log_lt_of_lt_pow' (Nat.ne_of_gt Nat.length_repr_pos) hBound

/-- A greater number has no fewer digits. -/
theorem length_repr_mono {m n : Nat} (h : m ≤ n) : m.repr.length ≤ n.repr.length := by
  rw [length_repr_eq, length_repr_eq]
  exact Nat.succ_le_succ (Nat.log_mono_right h)

theorem mem_lines_iff {line : Nat} :
    line ∈ issues.filterMap (fun i => i.place?.map (·.line)) ↔ line ∈ lineNumbers issues := by
  simp [lineNumbers]

theorem gutterWidth_of_isGreatest {line : Nat} (h : IsGreatest (lineNumbers issues) line) :
    gutterWidth issues = Nat.log 10 line + 1 := by
  have hMax : (issues.filterMap fun i => i.place?.map (·.line)).max? = some line := by
    rw [List.max?_eq_some_iff]
    exact ⟨mem_lines_iff.mpr h.1, fun other hOther => h.2 (mem_lines_iff.mp hOther)⟩
  rw [gutterWidth, hMax, ← length_repr_eq]
  rfl

theorem gutterWidth_of_empty (h : lineNumbers issues = ∅) : gutterWidth issues = 1 := by
  have hNone : (issues.filterMap fun i => i.place?.map (·.line)) = [] := by
    rw [List.eq_nil_iff_forall_not_mem]
    intro line hLine
    rw [mem_lines_iff, h] at hLine
    exact hLine
  rw [gutterWidth, hNone]
  rfl

/-- The width does not depend on how the issues came. -/
theorem gutterWidth_sort (issues : List Issue) :
    gutterWidth (Issue.sort issues) = gutterWidth issues := by
  have hLines := (Issue.sort_perm issues).filterMap fun i => i.place?.map (·.line)
  have hMax : ((Issue.sort issues).filterMap fun i => i.place?.map (·.line)).max? =
      (issues.filterMap fun i => i.place?.map (·.line)).max? := by
    ext line
    simp only [List.max?_eq_some_iff, hLines.mem_iff]
  rw [gutterWidth, gutterWidth, hMax]

/-- No line number is wider than the gutter. -/
theorem length_repr_le_gutterWidth (hi : i ∈ issues) (hp : i.place? = some p) :
    p.line.repr.length ≤ gutterWidth issues := by
  have hMem : p.line ∈ issues.filterMap fun i => i.place?.map (·.line) :=
    mem_lines_iff.mpr ⟨i, hi, p, hp, rfl⟩
  unfold gutterWidth
  cases hMax : (issues.filterMap fun i => i.place?.map (·.line)).max? with
  | none =>
    rw [List.max?_eq_none_iff] at hMax
    rw [hMax] at hMem
    cases hMem
  | some greatest =>
    have hLe : p.line ≤ greatest := (List.max?_eq_some_iff.mp hMax).2 p.line hMem
    exact length_repr_mono hLe

/-! ## Rows behind the gutter -/

/-- A row behind the gutter: what stands at the right end of the gutter, the mark, and what follows
the mark. -/
structure Row where
  label : String := ""
  mark : String
  rest : String
deriving DecidableEq, Repr

/-- The text of a row, with one blank between the gutter and the mark. -/
def Row.text (width : Nat) (r : Row) : String :=
  padLeft width r.label ++ " " ++ r.mark ++ r.rest ++ "\n"

/-- The rows that show a place: an empty one, the source line with its number, and the caret. -/
def placeRows (p : Place) : List Row := [
  { mark := "|", rest := "" },
  { label := toString p.line, mark := "|", rest := " " ++ p.sourceLine },
  { mark := "|", rest := " " ++ padLeft (caretPad p) "" ++ "^" }]

/-- The row of a note or a hint. -/
def remarkRow (label text : String) : Row := { mark := "=", rest := " " ++ label ++ " " ++ text }

/-- The rows about an issue that stand behind the gutter. -/
def gutterRows (i : Issue) : List Row :=
  (i.place?.map placeRows).getD [] ++ (i.details?.map (remarkRow "note:")).toList ++
    (i.hint?.map (remarkRow "hint:")).toList

/-- The two lines above them: what is wrong, and where. -/
def title (i : Issue) : String :=
  render false (headline i) ++ "  --> " ++
    (match i.place? with
    | some p => p.path ++ ":" ++ toString p.line ++ ":" ++ toString p.col
    | none => i.path) ++ "\n"

theorem render_location (width : Nat) (i : Issue) :
    render false (headline i ++ location width i) =
      title i ++ String.join (((i.place?.map placeRows).getD []).map (Row.text width)) := by
  rw [← String.toList_inj]
  cases hPlace : i.place? with
  | none => simp [location, title, hPlace, arrow, Piece.render_false, plain, styled]
  | some p =>
    simp [location, title, hPlace, sourceRows, placeRows, Row.text, arrow, margin, bar,
      Piece.render_false, plain, styled]

theorem render_remark (style : Style) (label text : String) :
    render false (remark width style label text) = Row.text width (remarkRow label text) := by
  rw [← String.toList_inj]
  simp [remark, remarkRow, Row.text, margin, Piece.render_false, plain, styled]

theorem render_remark? (style : Style) (label : String) (text : Option String) :
    render false ((text.map (remark width style label)).getD []) =
      String.join ((text.map (remarkRow label)).toList.map (Row.text width)) := by
  cases text with
  | none => simp
  | some text => simp [render_remark]

/-- What is written about an issue: its title, the rows behind the gutter, and an empty line. -/
theorem render_issueRows (width : Nat) (i : Issue) :
    render false (issueRows width i) =
      title i ++ String.join ((gutterRows i).map (Row.text width)) ++ "\n" := by
  rw [issueRows, render_append, render_append, render_append, render_location, render_remark?,
    render_remark?, gutterRows, List.map_append, List.map_append, String.join_append,
    String.join_append]
  simp [Piece.render_false, plain, String.append_assoc]

/-- A report on issues, as a text. -/
theorem render_ofIssues (h : issues ≠ []) :
    render false (ofIssues issues) =
      String.join ((Issue.sort issues).map fun i => title i ++
        String.join ((gutterRows i).map (Row.text (gutterWidth issues))) ++ "\n") ++
      render false (summary (Issue.sort issues)) := by
  have hSome : issues.isEmpty = false := by simpa using h
  simp only [ofIssues, hSome, Bool.false_eq_true, if_false, render_append, render_flatMap,
    render_issueRows, gutterWidth_sort]

/-! ## Where the marks stand -/

/-- The mark of a row stands behind a gutter of this width and one blank, and is the first of its
kind there. -/
structure Row.Aligned (width : Nat) (r : Row) : Prop where
  mark : r.mark = "|" ∨ r.mark = "="
  /-- The label does not overflow the gutter. -/
  fits : r.label.length ≤ width
  text : ∃ front, r.text width = front ++ r.mark ++ r.rest ++ "\n" ∧ front.length = width + 1 ∧
    '|' ∉ front.toList ∧ '=' ∉ front.toList

theorem length_padLeft (h : s.length ≤ width) : (padLeft width s).length = width := by
  simp [padLeft]
  omega

/-- A row with a number, or nothing, in the gutter is aligned if there is room for it. -/
theorem Row.aligned_of_digits {r : Row} (hMark : r.mark = "|" ∨ r.mark = "=")
    (hDigits : ∀ c ∈ r.label.toList, c.isDigit = true) (hFits : r.label.length ≤ width) :
    r.Aligned width where
  mark := hMark
  fits := hFits
  text := by
    have hFront : ∀ c, c.isDigit = false → c ≠ ' ' → c ∉ (padLeft width r.label ++ " ").toList := by
      intro c hDigit hBlank hMem
      simp only [padLeft, String.toList_append, String.toList_ofList, List.mem_append,
        List.mem_replicate] at hMem
      rcases hMem with (⟨-, hc⟩ | hc) | hc
      · exact hBlank hc
      · rw [hDigits c hc] at hDigit
        cases hDigit
      · exact hBlank (by simpa using hc)
    refine ⟨padLeft width r.label ++ " ", rfl, ?_, hFront _ (by decide) (by decide),
      hFront _ (by decide) (by decide)⟩
    rw [String.length_append, length_padLeft hFits]
    rfl

theorem Row.aligned_of_empty {r : Row} (hMark : r.mark = "|" ∨ r.mark = "=")
    (hEmpty : r.label = "") : r.Aligned width :=
  aligned_of_digits hMark (by simp [hEmpty]) (by simp [hEmpty])

theorem aligned_of_mem_placeRows {r : Row} (hr : r ∈ placeRows p)
    (hFits : p.line.repr.length ≤ width) : r.Aligned width := by
  simp only [placeRows, List.mem_cons, List.not_mem_nil, or_false] at hr
  obtain rfl | rfl | rfl := hr
  · exact Row.aligned_of_empty (.inl rfl) rfl
  · refine Row.aligned_of_digits (.inl rfl) (fun c hc => ?_) hFits
    rw [Nat.toString_eq_repr, Nat.toList_repr] at hc
    exact Nat.isDigit_of_mem_toDigits (by decide) (by decide) hc
  · exact Row.aligned_of_empty (.inl rfl) rfl

theorem aligned_remarkRow (label text : String) : (remarkRow label text).Aligned width :=
  Row.aligned_of_empty (.inr rfl) rfl

theorem aligned_of_mem_gutterRows (hi : i ∈ issues) {r : Row} (hr : r ∈ gutterRows i) :
    r.Aligned (gutterWidth issues) := by
  simp only [gutterRows, List.mem_append, Option.mem_toList, Option.map_eq_some_iff] at hr
  obtain (hr | ⟨text, -, rfl⟩) | ⟨text, -, rfl⟩ := hr
  · cases hPlace : i.place? with
    | none => simp [hPlace] at hr
    | some p =>
      rw [hPlace, Option.map_some, Option.getD_some] at hr
      exact aligned_of_mem_placeRows hr (length_repr_le_gutterWidth hi hPlace)
  · exact aligned_remarkRow _ text
  · exact aligned_remarkRow _ text

/-- In a report without colours, every mark stands behind as many characters as the greatest line
number has digits, and one more; if no issue has a place, behind two. -/
theorem marks_aligned (h : issues ≠ []) :
    (∀ line, IsGreatest (lineNumbers issues) line → gutterWidth issues = Nat.log 10 line + 1) ∧
    (lineNumbers issues = ∅ → gutterWidth issues = 1) ∧
    render false (ofIssues issues) =
      String.join ((Issue.sort issues).map fun i => title i ++
        String.join ((gutterRows i).map (Row.text (gutterWidth issues))) ++ "\n") ++
      render false (summary (Issue.sort issues)) ∧
    (∀ i ∈ Issue.sort issues, ∀ r ∈ gutterRows i, r.Aligned (gutterWidth issues)) ∧
    ∀ i ∈ issues, ∀ r ∈ gutterRows i, r.Aligned (gutterWidth issues) := by
  refine ⟨fun _ => gutterWidth_of_isGreatest, gutterWidth_of_empty, render_ofIssues h,
    fun i hi r => ?_, fun _ hi _ => aligned_of_mem_gutterRows hi⟩
  exact aligned_of_mem_gutterRows ((Issue.sort_perm issues).mem_iff.mp hi)

/-- A file that cannot be parsed, an early line with a hint, and a late one with a note. -/
def mixedLines : List Issue := [
  .unparsed "b.tsx" "boom",
  .fault ⟨"a.tsx", 7, 4, "<p>Hi</p>"⟩ (.unlocalizedText "Hi"),
  .fault ⟨"a.tsx", 120, 4, "<p alt=\"Bye\"/>"⟩ (.unlocalizedAttribute "p" "alt" "Bye")]

theorem sort_mixedLines :
    Issue.sort mixedLines = mixedLines.tail ++ [.unparsed "b.tsx" "boom"] := by
  simp +decide [Issue.sort, mixedLines, List.mergeSort, List.MergeSort.Internal.splitInTwo]

/-- The report on them shows the rows of the early line, then those of the late one, all aligned. -/
theorem mixedLines_aligned :
    IsGreatest (lineNumbers mixedLines) 120 ∧ gutterWidth mixedLines = 3 ∧
    (∀ i ∈ mixedLines, ∀ r ∈ gutterRows i, r.Aligned 3) ∧
    (mixedLines.flatMap gutterRows).map (Row.text 3) = [
      "    |\n", "  7 | <p>Hi</p>\n", "    |    ^\n", "    = hint: wrap the text in <Trans>\n",
      "    |\n", "120 | <p alt=\"Bye\"/>\n", "    |    ^\n", "    = note: in `alt` of <p>\n"] ∧
    render false (ofIssues mixedLines) =
      "error: \"Hi\"  unlocalized-text\n  --> a.tsx:7:4\n" ++
      "    |\n  7 | <p>Hi</p>\n    |    ^\n    = hint: wrap the text in <Trans>\n\n" ++
      "warning: \"Bye\"  unlocalized-attribute\n  --> a.tsx:120:4\n" ++
      "    |\n120 | <p alt=\"Bye\"/>\n    |    ^\n    = note: in `alt` of <p>\n\n" ++
      "error: boom  parse-error\n  --> b.tsx\n\n" ++
      "✘ 3 problems (2 errors, 1 warning)\n" := by
  have hGreatest : IsGreatest (lineNumbers mixedLines) 120 := by
    constructor
    · exact ⟨mixedLines.get ⟨2, by decide⟩, List.get_mem _ _, _, rfl, rfl⟩
    · rintro line ⟨i, hi, p, hp, rfl⟩
      simp only [mixedLines, List.mem_cons, List.not_mem_nil, or_false] at hi
      obtain rfl | rfl | rfl := hi <;> cases hp <;> decide
  obtain ⟨hWidth, -, hReport, -, hAligned⟩ := @marks_aligned mixedLines (by decide)
  have hThree : gutterWidth mixedLines = 3 := by rw [hWidth 120 hGreatest]; decide
  rw [hThree] at hReport hAligned
  rw [hReport, sort_mixedLines]
  exact ⟨hGreatest, hThree, hAligned, by decide +kernel, by decide +kernel⟩

end Report

end MessageLint
