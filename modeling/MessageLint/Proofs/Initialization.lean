import MessageLint.Proofs.ConfigSearch
import MessageLint.Proofs.ConfigText
import MessageLint.Proofs.Files.Adding
import MessageLint.Proofs.RuleSelection
import MessageLint.Proofs.Scan.Listing

/-!
# MessageLint — initializing a project

The command `init` writes the default configuration into the working directory, unless there is a
configuration file already. The new file says what applied without it: it is found, read and
accepted as the defaults, no scan lists it, and so a check shows what it has shown before.

* `load_of_added` — the new file is what the search for a configuration finds and reads.
* `scan_of_added`, `parseFile_of_added` — no scan lists it, and what is listed is read as before.
* `run_init_of_exists`, `run_init_of_absent` — what `init` does, with and without a file.
* `foldl_after_of_exists` — once there is a configuration file, no commands change anything.
* `init_writes_defaults` — all of this about one `init`.
-/

namespace MessageLint

open Files (Path Workspace Entry)
open Files.Path (join names)

variable {w w' : Workspace}

/-- The second workspace is the first with the default configuration in the working directory. -/
def AddedDefaults (w w' : Workspace) : Prop :=
  w.AddedAt (w.workingDirectory ++ [Config.fileName]) Config.defaultText.toUTF8 w'

/-! ## Finding and reading the new file -/

namespace Config

theorem pathExists_join_here (w : Workspace) :
    w.pathExists (join "." fileName) = w.pathExists fileName := by
  have hStart : w.start "." = w.workingDirectory := rfl
  rw [Workspace.pathExists_join (by decide) isName_fileName, w.pathExists_name isName_fileName,
    hStart, show names "." = [] by decide, List.append_nil]

/-- The search from the working directory looks nowhere else. -/
theorem find?_here (w : Workspace) :
    find? w "." = if w.pathExists fileName then some (join "." fileName) else none := by
  -- by its text, the way outward from `.` is the empty path, and there it ends
  have hOutward : Files.Path.parent? "." = some "" := by decide
  have hEnd : Files.Path.parent? "" = none := by decide
  show findFrom w (1 + 1 + 1) "." = _
  rw [findFrom_succ, pathExists_join_here, hOutward, Option.bind_some, findFrom_succ,
    Workspace.join_empty isName_fileName, hEnd]
  cases w.pathExists fileName <;> simp

theorem find?_of_absent (h : w.pathExists fileName = false) : find? w "." = none := by
  rw [find?_here, h]
  rfl

theorem parse_render (c : Config) : parse c.render = .ok c := by
  rw [render, toJson_eq, parse_pretty c Field.nodup_all 0, withFields_all]

theorem parse_defaultText : parse defaultText = .ok {} := parse_render {}

theorem validate_default : validate {} = .ok () := by decide +kernel

/-- Both paths to the new file lead there: the one that is written, and the one that is searched. -/
theorem locate?_of_added (h : AddedDefaults w w') (p : Path) (hp : p = "" ∨ p = ".") :
    w'.locate? (join p fileName) = some (w.workingDirectory ++ [fileName]) := by
  have hPath : ".." ∉ Files.Path.segments p ∧ names p = [] := by
    rcases hp with rfl | rfl <;> decide
  have hStart : w'.start p = w.workingDirectory := by
    rw [← h.workingDirectory]
    rcases hp with rfl | rfl <;> rfl
  rw [Workspace.locate?_join_eq_some_iff hPath.1 isName_fileName, hStart, hPath.2, List.append_nil]
  exact ⟨rfl, _, h.entries.at?_self.2⟩

theorem readText_of_added (h : AddedDefaults w w') : w'.readText fileName = .ok defaultText := by
  have hLocate := locate?_of_added h "" (.inl rfl)
  rw [Workspace.join_empty isName_fileName] at hLocate
  exact h.readText_of_locate? hLocate

theorem pathExists_of_added (h : AddedDefaults w w') : w'.pathExists fileName = true := by
  rw [w'.pathExists_name isName_fileName, h.workingDirectory, h.entries.at?_self.2]
  rfl

/-- A file that is found, read, parsed and accepted is what applies. -/
theorem load_eq_of_parse {directory file : Path} {text : String} {c : Config}
    (hFind : find? w directory = some file) (hText : w.readText file = .ok text)
    (hParse : parse text = .ok c) (hValid : c.validate = .ok ()) :
    load w directory = .ok ⟨c, true⟩ := by
  unfold load
  simp only [hFind, hText, hParse, hValid]

/-- The new file says what applies without it. -/
theorem load_of_added (h : AddedDefaults w w') : load w' "." = .ok ⟨{}, true⟩ := by
  have hFind : find? w' "." = some (join "." fileName) := by
    rw [find?_here, if_pos (pathExists_of_added h)]
  have hText := h.readText_of_locate? (locate?_of_added h "." (.inr rfl))
  exact load_eq_of_parse hFind hText parse_defaultText validate_default

theorem load_of_absent (h : w.pathExists fileName = false) : load w "." = .ok {} := by
  unfold load
  rw [find?_of_absent h]

end Config

/-! ## Scanning past the new file -/

namespace Scan

variable {p : Path} {o : Options}

mutual

theorem isSourceFile_of_mem_sourceFiles (ignored : Path → Bool) : ∀ (e : Entry) (path : Path),
    p ∈ sourceFiles ignored path e → isSourceFile p = true
  | .file content, path => by
    intro h
    rw [sourceFiles] at h
    split at h
    · rename_i hFile
      obtain rfl := List.mem_singleton.mp h
      exact (Bool.and_eq_true_iff.mp hFile).2
    · simp at h
  | .directory es, path => by
    intro h
    rw [sourceFiles] at h
    split at h
    · simp at h
    · exact isSourceFile_of_mem_sourceFilesAmong ignored es path h
  | .other, path => by simp [sourceFiles]

theorem isSourceFile_of_mem_sourceFilesAmong (ignored : Path → Bool) :
    ∀ (es : List (String × Entry)) (path : Path),
    p ∈ sourceFilesAmong ignored path es → isSourceFile p = true
  | [], path => by simp [sourceFilesAmong]
  | (name, e) :: rest, path => by
    intro h
    rw [sourceFilesAmong, List.mem_append] at h
    rcases h with h | h
    · exact isSourceFile_of_mem_sourceFiles ignored e _ h
    · exact isSourceFile_of_mem_sourceFilesAmong ignored rest path h

end

theorem isSourceFile_of_mem_files {base : Path} (h : p ∈ (scan w base o).files) :
    isSourceFile p = true := by
  obtain ⟨root, e, -, -, hFound⟩ := mem_files_scan.mp h
  exact isSourceFile_of_mem_sourceFiles _ e root hFound

/-- A configuration file is no source file, whatever path leads to it. -/
theorem locate?_ne_of_isSourceFile (h : isSourceFile p = true) (outer : List String) :
    w.locate? p ≠ some (outer ++ [Config.fileName]) := by
  intro hLocate
  cases hName : Files.Path.fileName? p with
  | none => simp [isSourceFile, Files.Path.extension?, hName] at h
  | some s =>
    have hLast := Workspace.getLast?_of_fileName? hLocate hName
    rw [List.getLast?_concat] at hLast
    obtain rfl := Option.some.inj hLast
    -- the ending is read off the name alone
    have hEnding : isSourceFile p = isSourceFile Config.fileName := by
      simp only [isSourceFile, Files.Path.extension?, hName,
        show Files.Path.fileName? Config.fileName = some Config.fileName by decide]
    rw [hEnding] at h
    exact absurd h (by decide)

/-- A scan of the working directory lists the same files. -/
theorem scan_of_added (hHere : w.isDirectory "." = true) (h : AddedDefaults w w')
    (hIncludes : o.includes = []) : scan w' "." o = scan w "." o := by
  obtain ⟨es, hDirectory⟩ := Workspace.directory_of_isDirectory_here hHere
  have hDirectory' : w'.outermost.at? w'.workingDirectory =
      some (.directory (es ++ [(Config.fileName, .file Config.defaultText.toUTF8)])) := by
    rw [h.workingDirectory]
    exact h.entries.at?_outer hDirectory
  have hOther : isSourceFile (join "." Config.fileName) = false := by decide
  have hRoot : ∀ ignored, scanRoot w' ignored "." = scanRoot w ignored "." := by
    intro ignored
    -- the new entry comes last and adds nothing to the list
    simp [scanRoot, Workspace.entry?_here hDirectory, Workspace.entry?_here hDirectory',
      sourceFiles, sourceFilesAmong_eq, hOther]
  simp [scan, roots, hIncludes, hRoot]

end Scan

namespace Project

theorem parseFile_of_added (h : AddedDefaults w w') {p : Path} (hp : Scan.isSourceFile p = true) :
    parseFile w' p = parseFile w p := by
  rw [parseFile, parseFile, h.readText_eq (Scan.locate?_ne_of_isSourceFile hp _)]

/-- The project is the same but for the note on where its configuration comes from. -/
theorem ofConfig_of_added (hHere : w.isDirectory "." = true) (h : AddedDefaults w w') :
    ofConfig w' "." ⟨{}, true⟩ false = { ofConfig w "." {} false with fromFile := true } := by
  -- the default source root `./` is the project root
  have hRoot : resolve "." ({} : Config).sourceRoot = "." := by decide
  have hScan := Scan.scan_of_added hHere h (o := scanOptions {} false) rfl
  simp only [ofConfig, hRoot, hScan, mk.injEq, and_true, true_and]
  refine List.map_congr_left fun p hp => ?_
  rw [parseFile_of_added h (Scan.isSourceFile_of_mem_files hp)]

end Project

/-! ## The commands -/

namespace CommandLine

theorem run_init_of_exists (h : w.pathExists Config.fileName = true) :
    ∃ r, run w (some .init) = .ok r ∧ r.status = .failure ∧ r.workspace = w :=
  ⟨_, if_pos h, rfl, rfl⟩

theorem run_init_of_absent (hHere : w.isDirectory "." = true)
    (h : w.pathExists Config.fileName = false) :
    ∃ r, run w (some .init) = .ok r ∧ r.status = .success ∧ AddedDefaults w r.workspace := by
  obtain ⟨w', hWrite, hAdded⟩ :=
    Workspace.exists_addedAt hHere Config.isName_fileName h Config.defaultText
  simp only [run, runInit, h, hWrite]
  exact ⟨_, rfl, rfl, hAdded⟩

/-- The workspace after a command; one that cannot be carried out leaves it as it is. -/
def after (w : Workspace) (command : Option Command) : Workspace :=
  match run w command with
  | .ok r => r.workspace
  | .error _ => w

/-- With a configuration file there, no command changes anything. -/
theorem after_of_exists (h : w.pathExists Config.fileName = true) (command : Option Command) :
    after w command = w := by
  unfold after
  cases hRun : run w command with
  | error reason => rfl
  | ok r =>
    -- only `init` writes at all, and it finds the file
    cases command with
    | none =>
      obtain rfl := Except.ok.inj hRun
      rfl
    | some command =>
      cases command with
      | check rules root verbose =>
        obtain ⟨p, -, rfl⟩ := run_check_eq_ok_iff.mp hRun
        rfl
      | init =>
        obtain ⟨r', hRun', -, hSame⟩ := run_init_of_exists h
        obtain rfl := Except.ok.inj (hRun.symm.trans hRun')
        exact hSame
      | serve => cases hRun

theorem foldl_after_of_exists (h : w.pathExists Config.fileName = true)
    (commands : List (Option Command)) : commands.foldl after w = w := by
  induction commands with
  | nil => rfl
  | cons command rest ih => rw [List.foldl_cons, after_of_exists h, ih]

/-- A check without details shows the same, whether the defaults are written down or not. -/
theorem check_of_added (hHere : w.isDirectory "." = true)
    (hAbsent : w.pathExists Config.fileName = false) (h : AddedDefaults w w') (rules : List Rule) :
    ∃ before later, run w (some (.check rules none false)) = .ok before ∧
      run w' (some (.check rules none false)) = .ok later ∧
      later.status = before.status ∧ later.out = before.out ∧ later.err = before.err := by
  have hBefore : Project.openAt w "." false = .ok (Project.ofConfig w "." {} false) := by
    rw [Project.openAt, Config.load_of_absent hAbsent]
    rfl
  -- the configuration is the same, only that it now comes from a file
  have hLater : Project.openAt w' "." false =
      .ok { Project.ofConfig w "." {} false with fromFile := true } := by
    rw [Project.openAt, Config.load_of_added h, ← Project.ofConfig_of_added hHere h]
    rfl
  exact ⟨_, _, run_check_eq_ok_iff.mpr ⟨_, hBefore, rfl⟩, run_check_eq_ok_iff.mpr ⟨_, hLater, rfl⟩,
    rfl, rfl, rfl⟩

/-- What initialization makes of a workspace without a configuration file. -/
structure Initialized (w w' : Workspace) : Prop where
  /-- The new file holds the default configuration. -/
  created : w'.readText Config.fileName = .ok Config.defaultText
  /-- Every other location is what it was, -/
  others : ∀ names, names ≠ w.workingDirectory ++ [Config.fileName] →
    w'.outermost.kind? names = w.outermost.kind? names
  workingDirectory : w'.workingDirectory = w.workingDirectory
  /-- and every path that does not lead to the new file is read as before. -/
  paths : ∀ p, w'.locate? p ≠ some (w.workingDirectory ++ [Config.fileName]) →
    w'.readText p = w.readText p
  /-- No configuration file applied, and now the defaults apply. -/
  unconfigured : Config.find? w "." = none
  loaded : Config.load w' "." = .ok ⟨{}, true⟩
  /-- Another `init` fails, and neither it nor any other commands change anything. -/
  again : ∃ r, run w' (some .init) = .ok r ∧ r.status = .failure ∧ r.workspace = w'
  settled : ∀ commands : List (Option Command), commands.foldl after w' = w'
  /-- A check without details shows what it showed before. -/
  checks : ∀ rules, ∃ before later, run w (some (.check rules none false)) = .ok before ∧
    run w' (some (.check rules none false)) = .ok later ∧
    later.status = before.status ∧ later.out = before.out ∧ later.err = before.err

/-- In a working directory that exists, `init` fails and changes nothing if a configuration file is
there. Otherwise it writes one with the defaults, which changes nothing else, and no check. -/
theorem init_writes_defaults (w : Workspace) (hHere : w.isDirectory "." = true) :
    (w.pathExists Config.fileName = true →
      ∃ r, run w (some .init) = .ok r ∧ r.status = .failure ∧ r.workspace = w) ∧
    (w.pathExists Config.fileName = false →
      ∃ r, run w (some .init) = .ok r ∧ r.status = .success ∧ Initialized w r.workspace) := by
  refine ⟨run_init_of_exists, fun hAbsent => ?_⟩
  obtain ⟨r, hRun, hStatus, hAdded⟩ := run_init_of_absent hHere hAbsent
  have hExists := Config.pathExists_of_added hAdded
  exact ⟨r, hRun, hStatus, {
    created := Config.readText_of_added hAdded
    others := fun names hNames => hAdded.entries.kind?_of_ne hNames
    workingDirectory := hAdded.workingDirectory
    paths := fun p hp => hAdded.readText_eq hp
    unconfigured := Config.find?_of_absent hAbsent
    loaded := Config.load_of_added hAdded
    again := run_init_of_exists hExists
    settled := foldl_after_of_exists hExists
    checks := check_of_added hHere hAbsent hAdded }⟩

/-- A project with a text that is not localized, in a directory of its own. -/
def freshProject : Workspace where
  outermost := .directory [("project", .directory [(".git", .directory []),
    ("a.tsx", .file "<p>Hi</p>;".toUTF8)])]
  workingDirectory := ["project"]

/-- The text is reported before and after. -/
theorem freshProject_initialized :
    ∃ r, run freshProject (some .init) = .ok r ∧ r.status = .success ∧
      Initialized freshProject r.workspace ∧
      ∃ later, run r.workspace (some (.check [] none false)) = .ok later ∧
        later.status = .failure := by
  have hStatus : (run freshProject (some (.check [] none false))).toOption.map (·.status) =
      some .failure := by decide +kernel
  obtain ⟨r, hRun, hSuccess, hInitialized⟩ :=
    (init_writes_defaults freshProject (by decide)).2 (by decide +kernel)
  obtain ⟨before, later, hBefore, hLater, hSame, -⟩ := hInitialized.checks []
  refine ⟨r, hRun, hSuccess, hInitialized, later, hLater, hSame.trans ?_⟩
  simpa [hBefore, Except.toOption] using hStatus

end CommandLine

end MessageLint
