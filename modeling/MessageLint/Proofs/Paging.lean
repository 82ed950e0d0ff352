import Mathlib.Data.Finset.Card
import MessageLint.CommandLine
import MessageLint.Service

/-!
# MessageLint — pages of issues and the check on the command line

The service answers with a page of issues at a time, and the command line reports all of them. Here
the two are compared from outside: a client reads items and counts from the answers, asks for the
next page as long as there is more (`Paging`), and ends up with the issues of the check.

* `ChecksAt.leadsTo_iff` — what the check at a root comes to, from the arguments on.
* `Page.hasMore_iff` — when there is something after a page.
* `exists_paging`, `Paging.items_eq` — asking on comes to an end, and leaves nothing out.
* `pages_cover_check` — the answers of the service against the check at the same root.
-/

namespace MessageLint

open Files (Path Workspace)

/-! ## The check at a root -/

namespace CommandLine

/-- A hyphen with something after it is never taken for a value. -/
def LooksLikeOption (s : String) : Prop := ∃ c rest, s.toList = '-' :: c :: rest

/-- The command line asks for the check of the project at a root by all rules: the root follows an
equals sign, or is a word of its own. -/
inductive ChecksAt (root : Path) : List String → Prop where
  | joined : ChecksAt root ["check", "--source-root=" ++ root]
  | apart (h : ¬ LooksLikeOption root) : ChecksAt root ["check", "--source-root", root]

/-- Arguments ask for a command, and it comes to a run. -/
def LeadsTo (w : Workspace) (args : List String) (r : Run) : Prop :=
  ∃ command, parse args = .ok command ∧ run w command = .ok r

theorem shape_sourceRoot (root : Path) :
    Shape.of ("--source-root=" ++ root) = .long "source-root" (some root) := by
  simp [Shape.of, String.toList_append, List.takeWhile]

theorem shape_eq_value {s : String} (h : ¬ LooksLikeOption s) : Shape.of s = .value s := by
  unfold Shape.of
  split
  · exact absurd ⟨_, _, ‹_›⟩ h
  · exact absurd ⟨_, _, ‹_›⟩ h
  · exact absurd ⟨_, _, ‹_›⟩ h
  · rfl

theorem ChecksAt.follow_eq {root : Path} {args : List String} (h : ChecksAt root args) :
    ({} : Selection).follow args.tail = ({} : Selection).setRoot root := by
  have hEnd : (({} : Selection).setRoot root >>= fun s => .ok s) =
      ({} : Selection).setRoot root := by
    cases ({} : Selection).setRoot root <;> rfl
  cases h with
  | joined => simp [Selection.follow, shape_sourceRoot, hEnd]
  | apart h =>
    have hOption : Shape.of "--source-root" = .long "source-root" none := by decide
    simp [Selection.follow, hOption, shape_eq_value h, hEnd]

theorem ChecksAt.parse_eq {root : Path} {args : List String} (h : ChecksAt root args) :
    parse args =
      if root = "" then .error .badValue else .ok (some (.check [] (some root) false)) := by
  obtain ⟨rest, rfl⟩ : ∃ rest, args = "check" :: rest := by cases h <;> exact ⟨_, rfl⟩
  have hCheck : Shape.of "check" = .value "check" := by decide
  have hFollow : ({} : Selection).follow rest = _ := h.follow_eq
  by_cases hRoot : root = ""
  · simp [parse, hCheck, hFollow, Selection.setRoot, hRoot, bind, Except.bind]
  · simp [parse, hCheck, hFollow, Selection.setRoot, hRoot, bind, Except.bind, pure, Except.pure]

/-- Such a command line leads to a run exactly if the project can be opened, and the run tells what
the check finds. -/
theorem ChecksAt.leadsTo_iff {w : Workspace} {root : Path} {args : List String} {r : Run}
    (h : ChecksAt root args) (hRoot : root ≠ "") :
    LeadsTo w args r ↔ ∃ project, Project.openAt w root false = .ok project ∧
      r = { status := .ofErrorCount (checkProject project []).errorCount
            out := (checkProject project []).report
            err := project.notices ++ project.failureNotices false ++
              Report.parseWarning (checkProject project []).failureCount false
            workspace := w } := by
  have hRun : LeadsTo w args r ↔ runCheck w [] (some root) false = .ok r := by
    simp [LeadsTo, h.parse_eq, hRoot, run]
  rw [hRun]
  unfold runCheck
  rw [Option.getD_some]
  cases Project.openAt w root false with
  | error reason => simp
  | ok project => simp [eq_comm]

end CommandLine

/-! ## Counts -/

theorem CommandLine.CheckResult.errorCount_add_warningCount (r : CommandLine.CheckResult) :
    r.errorCount + r.warningCount = r.issues.length :=
  Nat.add_sub_of_le List.countP_le_length

/-- Without repetitions, a list has as many items as there are different ones. -/
theorem length_eraseDups {α : Type} [DecidableEq α] (xs : List α) :
    xs.eraseDups.length = xs.toFinset.card := by
  -- by length, since what follows the head is filtered
  induction hLength : xs.length using Nat.strong_induction_on generalizing xs with
  | _ n ih =>
    cases xs with
    | nil => rfl
    | cons x xs =>
      have hLess : (xs.filter fun y => !(y == x)).length < n := by
        rw [← hLength, List.length_cons]
        exact Nat.lt_succ_of_le (List.length_filter_le _ _)
      have hOthers : (xs.filter fun y => !(y == x)).toFinset = xs.toFinset.erase x := by
        ext y
        simp [and_comm]
      have hInsert : insert x xs.toFinset = insert x (xs.toFinset.erase x) := by
        ext y
        by_cases h : y = x <;> simp [h]
      rw [List.eraseDups_cons, List.length_cons, ih _ hLess _ rfl, hOthers, List.toFinset_cons,
        hInsert, Finset.card_insert_of_notMem (Finset.notMem_erase x _)]

namespace Service

/-! ## One page -/

namespace Page

variable {α : Type} (all : List α) (offset limit : Nat)

/-- There is more exactly if a full page does not reach the end. -/
theorem hasMore_iff : (Page.of all offset limit).hasMore = true ↔ offset + limit < all.length := by
  simp only [Page.of, decide_eq_true_eq, List.length_take, List.length_drop]
  omega

end Page

/-! ## What a client reads from an answer -/

/-- The items of a page. -/
def Answer.items (a : Answer) : List Json :=
  match a.json.get? "items" with
  | some (.array items) => items
  | _ => []

/-- Does the answer say that there are more items? -/
def Answer.hasMore (a : Answer) : Bool :=
  match (a.json.get? "pagination").bind (·.get? "hasMore") with
  | some (.bool more) => more
  | _ => false

/-- A client asks for page after page, from an offset on: as long as an answer says that there is
more, the next request skips as many items as have come. Each answer is kept with the offset that
was asked for. -/
inductive Paging (w : Workspace) (root : Path) (limit : Option Nat) :
    Nat → List (Nat × Answer) → Prop where
  | last {offset : Nat} {a : Answer} (h : scanMessages w ⟨root, limit, some offset⟩ = .ok a)
      (hMore : a.hasMore = false) : Paging w root limit offset [(offset, a)]
  | next {offset : Nat} {a : Answer} {rest : List (Nat × Answer)}
      (h : scanMessages w ⟨root, limit, some offset⟩ = .ok a) (hMore : a.hasMore = true)
      (hRest : Paging w root limit (offset + a.items.length) rest) :
      Paging w root limit offset ((offset, a) :: rest)

/-- The most items on a page, for a limit that is asked for. -/
def pageSize (limit : Option Nat) : Nat := min (limit.getD defaultLimit) maxLimit

theorem pageSize_eq_zero_iff {limit : Option Nat} : pageSize limit = 0 ↔ limit = some 0 := by
  cases limit with
  | none => decide
  | some n => simp [pageSize, maxLimit]

theorem scanMessages_eq_ok_iff {w : Workspace} {root : Path} {limit offset : Option Nat}
    {a : Answer} : scanMessages w ⟨root, limit, offset⟩ = .ok a ↔
      ∃ p, Project.openAt w root false = .ok p ∧
        a = ⟨(scanProject p limit offset).toJson, p.notices⟩ := by
  unfold scanMessages
  cases Project.openAt w root false with
  | error reason => simp
  | ok p => simp [eq_comm]

section Answers

variable (p : Project) (limit offset : Option Nat) (err : List Report.Piece)

theorem items_scanProject :
    Answer.items ⟨(scanProject p limit offset).toJson, err⟩ =
      (((p.issues Rule.suppressible).drop (offset.getD 0)).take (pageSize limit)).map issueJson := by
  rfl

theorem length_items_scanProject :
    (Answer.items ⟨(scanProject p limit offset).toJson, err⟩).length =
      min (pageSize limit) ((p.issues Rule.suppressible).length - offset.getD 0) := by
  simp [items_scanProject]

theorem hasMore_scanProject :
    Answer.hasMore ⟨(scanProject p limit offset).toJson, err⟩ = true ↔
      offset.getD 0 + pageSize limit < (p.issues Rule.suppressible).length := by
  rw [← Page.hasMore_iff]
  rfl

end Answers

/-! ## Page after page -/

section Runs

variable {w : Workspace} {root : Path} {limit : Option Nat} {p : Project}

/-- The answers at a root are about the project that is opened there. -/
theorem answer_eq (hOpen : Project.openAt w root false = .ok p) {offset : Option Nat} {a : Answer}
    (h : scanMessages w ⟨root, limit, offset⟩ = .ok a) :
    a = ⟨(scanProject p limit offset).toJson, p.notices⟩ := by
  obtain ⟨q, hq, rfl⟩ := scanMessages_eq_ok_iff.mp h
  obtain rfl : p = q := by simpa [hOpen] using hq
  rfl

/-- Asking on comes to an end: as long as there is more, a page that may hold an item does. -/
theorem exists_paging (hOpen : Project.openAt w root false = .ok p) (hLimit : limit ≠ some 0)
    (offset : Nat) : ∃ pages, Paging w root limit offset pages := by
  have hSize : pageSize limit ≠ 0 := mt pageSize_eq_zero_iff.mp hLimit
  -- by the number of issues after the offset
  generalize hLeft : (p.issues Rule.suppressible).length - offset = left
  induction left using Nat.strong_induction_on generalizing offset with
  | _ left ih =>
    let a : Answer := ⟨(scanProject p limit (some offset)).toJson, p.notices⟩
    have hScan : scanMessages w ⟨root, limit, some offset⟩ = .ok a :=
      scanMessages_eq_ok_iff.mpr ⟨p, hOpen, rfl⟩
    cases hMore : a.hasMore with
    | false => exact ⟨_, .last hScan hMore⟩
    | true =>
      have hReach := (hasMore_scanProject p limit (some offset) p.notices).mp hMore
      have hItems : a.items.length = _ := length_items_scanProject p limit (some offset) p.notices
      simp only [Option.getD_some] at hReach hItems
      obtain ⟨rest, hRest⟩ := ih _ (by omega) (offset + a.items.length) rfl
      exact ⟨_, .next hScan hMore hRest⟩

/-- A client that has asked to the end has all issues after the first offset. -/
theorem Paging.items_eq {offset : Nat} {pages : List (Nat × Answer)}
    (h : Paging w root limit offset pages) (hOpen : Project.openAt w root false = .ok p) :
    pages.flatMap (·.2.items) = ((p.issues Rule.suppressible).drop offset).map issueJson := by
  induction h with
  | @last offset a h hMore =>
    -- the last page reaches the end, so its limit cuts off nothing
    obtain rfl := answer_eq hOpen h
    have hEnd := mt (hasMore_scanProject p limit (some offset) p.notices).mpr (by simp [hMore])
    simp only [Option.getD_some, not_lt] at hEnd
    have hAll : ((p.issues Rule.suppressible).drop offset).length ≤ pageSize limit := by
      rw [List.length_drop]
      omega
    simp [items_scanProject, List.take_of_length_le hAll]
  | @next offset a rest h hMore _ ih =>
    -- any other page is full, and the next one starts where it ends
    obtain rfl := answer_eq hOpen h
    have hReach := (hasMore_scanProject p limit (some offset) p.notices).mp hMore
    have hItems := length_items_scanProject p limit (some offset) p.notices
    simp only [Option.getD_some] at hReach hItems
    rw [hItems, Nat.min_eq_left (by omega), ← List.drop_drop] at ih
    rw [List.flatMap_cons, ih, items_scanProject, Option.getD_some, ← List.map_append,
      List.take_append_drop]

/-- No request skips more issues than there are. -/
theorem Paging.offset_le {offset : Nat} {pages : List (Nat × Answer)}
    (h : Paging w root limit offset pages) (hOpen : Project.openAt w root false = .ok p)
    (hOffset : offset ≤ (p.issues Rule.suppressible).length) :
    ∀ page ∈ pages, page.1 ≤ (p.issues Rule.suppressible).length := by
  induction h with
  | last => simpa using hOffset
  | @next offset a rest h _ _ ih =>
    obtain rfl := answer_eq hOpen h
    have hItems := length_items_scanProject p limit (some offset) p.notices
    simp only [Option.getD_some] at hItems
    rw [List.forall_mem_cons]
    exact ⟨hOffset, ih (by omega)⟩

end Runs

/-! ## Pages against the check -/

open CommandLine (CheckResult ChecksAt LeadsTo checkProject)

/-- What an answer tells about the result of a check, whatever limit and offset were asked for. -/
structure Answer.Fits (result : CheckResult) (limit : Option Nat) (offset : Nat) (a : Answer) :
    Prop where
  totalCount : a.json.get? "totalCount" = some (.int ↑(result.errorCount + result.warningCount))
  totalFileCount : a.json.get? "totalFileCount" =
    some (.int ↑(result.issues.map (·.path)).toFinset.card)
  sourceFilesChecked : a.json.get? "sourceFilesChecked" = some (.int ↑result.sourceFiles)
  length_le : a.items.length ≤ 100
  past_end : result.issues.length ≤ offset → a.items = [] ∧ a.hasMore = false
  /-- Only a limit of zero can leave a client with nothing but the promise of more … -/
  limit_eq_zero : a.items = [] → a.hasMore = true → limit = some 0
  /-- … and it does as long as issues are left. -/
  of_limit_zero : limit = some 0 → a.items = [] ∧ (a.hasMore = true ↔ offset < result.issues.length)

/-- The answers of the service at a root, taken together, against the result of a check. -/
structure Covers (w : Workspace) (root : Path) (result : CheckResult) : Prop where
  answers : ∀ limit offset, ∃ a, scanMessages w ⟨root, limit, offset⟩ = .ok a ∧
    a.Fits result limit (offset.getD 0)
  /-- Asking on comes to an end … -/
  ends : ∀ limit, limit ≠ some 0 → ∃ pages, Paging w root limit 0 pages
  /-- … and then all issues have come, in order and each once. -/
  complete : ∀ limit pages, Paging w root limit 0 pages →
    pages.flatMap (·.2.items) = result.issues.map issueJson
  /-- No request skips more issues than there are. -/
  in_range : ∀ limit pages, Paging w root limit 0 pages →
    ∀ page ∈ pages, page.1 ≤ result.issues.length

theorem issues_checkProject (p : Project) :
    (checkProject p []).issues = p.issues Rule.suppressible := rfl

theorem scanProject_fits (p : Project) (limit offset : Option Nat) (err : List Report.Piece) :
    Answer.Fits (checkProject p []) limit (offset.getD 0)
      ⟨(scanProject p limit offset).toJson, err⟩ := by
  have hLength := length_items_scanProject p limit offset err
  have hMore := hasMore_scanProject p limit offset err
  have hEmpty : Answer.items ⟨(scanProject p limit offset).toJson, err⟩ = [] ↔ _ :=
    List.length_eq_zero_iff.symm
  -- what is said of the items follows from the size of the page and the number of issues left
  constructor
  case totalCount =>
    rw [CheckResult.errorCount_add_warningCount]
    rfl
  case totalFileCount =>
    rw [← length_eraseDups]
    rfl
  case sourceFilesChecked => rfl
  case length_le =>
    have hSize : pageSize limit ≤ 100 := Nat.min_le_right _ _
    omega
  case past_end =>
    intro hEnd
    rw [issues_checkProject] at hEnd
    rw [hEmpty, ← Bool.not_eq_true, hMore]
    omega
  case limit_eq_zero =>
    intro hNone hSome
    rw [hEmpty] at hNone
    rw [hMore] at hSome
    rw [← pageSize_eq_zero_iff]
    omega
  case of_limit_zero =>
    intro hZero
    rw [← pageSize_eq_zero_iff] at hZero
    rw [hEmpty, hMore, issues_checkProject]
    omega

theorem covers_of_openAt {w : Workspace} {root : Path} {p : Project}
    (hOpen : Project.openAt w root false = .ok p) : Covers w root (checkProject p []) where
  answers limit offset :=
    ⟨_, scanMessages_eq_ok_iff.mpr ⟨p, hOpen, rfl⟩, scanProject_fits p limit offset p.notices⟩
  ends _ hLimit := exists_paging hOpen hLimit 0
  complete _ _ h := h.items_eq hOpen
  in_range _ _ h := h.offset_le hOpen (Nat.zero_le _)

/-- The check on the command line and the pages of the service, at the same root: both succeed or
both fail, and if they succeed, the pages cover what the check finds. -/
theorem pages_cover_check (w : Workspace) {root : Path} {args : List String}
    (hArgs : ChecksAt root args) (hRoot : root ≠ "") :
    (∀ limit offset, (∃ r, LeadsTo w args r) ↔ ∃ a, scanMessages w ⟨root, limit, offset⟩ = .ok a) ∧
    ∀ r, LeadsTo w args r → ∃ project, Project.openAt w root false = .ok project ∧
      r.out = (checkProject project []).report ∧
      r.status = .ofErrorCount (checkProject project []).errorCount ∧
      Covers w root (checkProject project []) := by
  constructor
  · intro limit offset
    simp only [hArgs.leadsTo_iff hRoot, scanMessages_eq_ok_iff]
    constructor
    · rintro ⟨_, p, hOpen, -⟩
      exact ⟨_, p, hOpen, rfl⟩
    · rintro ⟨_, p, hOpen, -⟩
      exact ⟨_, p, hOpen, rfl⟩
  · intro r hRun
    obtain ⟨p, hOpen, rfl⟩ := (hArgs.leadsTo_iff hRoot).mp hRun
    exact ⟨p, hOpen, rfl, rfl, covers_of_openAt hOpen⟩

/-- A directory with one file, in which two texts are not localized. -/
def twoTexts : Workspace :=
  ⟨.directory [("a.tsx", .file "<p>Hi</p>;<p>Bye</p>;".toUTF8)], []⟩

theorem openAt_twoTexts : ∃ p, Project.openAt twoTexts "." false = .ok p ∧
    (p.issues Rule.suppressible).length = 2 := by
  -- the order of the issues is left out, for it does not compute
  have hCount : (Project.openAt twoTexts "." false).toOption.map (fun p =>
      (p.check Rule.suppressible ++ p.failureIssues).length) = some 2 := by decide +kernel
  cases hOpen : Project.openAt twoTexts "." false with
  | error reason => simp [hOpen, Except.toOption] at hCount
  | ok p =>
    simp only [hOpen, Except.toOption, Option.map_some, Option.some.injEq] at hCount
    exact ⟨p, rfl, by simpa [Project.issues, Issue.sort] using hCount⟩

theorem twoTexts_paged : ∃ r, LeadsTo twoTexts ["check", "--source-root", "."] r ∧
    ∃ p, Project.openAt twoTexts "." false = .ok p ∧
      r.out = (checkProject p []).report ∧ (checkProject p []).issues.length = 2 ∧
      Covers twoTexts "." (checkProject p []) := by
  have hArgs : ChecksAt "." ["check", "--source-root", "."] := .apart (by
    rintro ⟨c, rest, h⟩
    simp at h)
  have hRoot : "." ≠ "" := by decide
  obtain ⟨p, hOpen, hLength⟩ := openAt_twoTexts
  obtain ⟨r, hRun⟩ := ((pages_cover_check twoTexts hArgs hRoot).1 none none).mpr
    ⟨_, scanMessages_eq_ok_iff.mpr ⟨p, hOpen, rfl⟩⟩
  obtain ⟨q, hq, hOut, -, hCovers⟩ := (pages_cover_check twoTexts hArgs hRoot).2 r hRun
  obtain rfl : p = q := by simpa [hOpen] using hq
  exact ⟨r, hRun, p, hOpen, hOut, hLength, hCovers⟩

theorem exists_scan_of_isOk {w : Workspace} {root : Path}
    (h : (Project.openAt w root false).isOk = true) (limit offset : Option Nat) :
    ∃ a, scanMessages w ⟨root, limit, offset⟩ = .ok a := by
  cases hOpen : Project.openAt w root false with
  | error reason => simp [hOpen, Except.isOk, Except.toBool] at h
  | ok p => exact ⟨_, scanMessages_eq_ok_iff.mpr ⟨p, hOpen, rfl⟩⟩

/-- The service takes any root. The command line refuses an empty one, and one that looks like an
option unless it follows an equals sign. -/
theorem refused_roots_scanned :
    (¬ ∃ r, LeadsTo twoTexts ["check", "--source-root", ""] r) ∧
    (¬ ∃ r, LeadsTo twoTexts ["check", "--source-root="] r) ∧
    (∃ a, scanMessages twoTexts ⟨"", none, none⟩ = .ok a) ∧
    (¬ ∃ r, LeadsTo twoTexts ["check", "--source-root", "-x"] r) ∧
    ∃ a, scanMessages twoTexts ⟨"-x", none, none⟩ = .ok a := by
  refine ⟨?_, ?_, exists_scan_of_isOk (by decide +kernel) _ _, ?_,
    exists_scan_of_isOk (by decide +kernel) _ _⟩
  · have hWord : ¬ CommandLine.LooksLikeOption "" := by
      rintro ⟨c, rest, h⟩
      simp at h
    simp [LeadsTo, (ChecksAt.apart hWord).parse_eq]
  · have hJoined := (ChecksAt.joined : ChecksAt "" _).parse_eq
    rw [String.append_empty, if_pos rfl] at hJoined
    simp [LeadsTo, hJoined]
  · have hCheck : CommandLine.Shape.of "check" = .value "check" := by decide
    have hOption : CommandLine.Shape.of "--source-root" = .long "source-root" none := by decide
    have hShort : CommandLine.Shape.of "-x" = .short ['x'] := by decide
    simp [LeadsTo, CommandLine.parse, CommandLine.Selection.follow, hCheck, hOption, hShort, bind,
      Except.bind]

end Service

end MessageLint
