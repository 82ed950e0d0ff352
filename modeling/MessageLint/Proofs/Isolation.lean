import Mathlib.Data.List.Pairwise
import MessageLint.Project
import MessageLint.Proofs.Files.Content
import MessageLint.Proofs.Scan.Listing

/-!
# MessageLint — files are checked apart from each other

Every file of a project is parsed or reported as one that cannot be checked, and what is found in it
depends on no other file. The second part compares two runs: one file is written anew, be it broken
or mended by that, and what is said of the other files stays as it is.

* `scan_eq_of_rewritten`, `load_eq_of_rewritten` — the same files are found, with the same
  configuration, whatever a source file holds.
* `ReadFrom.checkedApart` — one run: the files that have been parsed and those that have not.
* `ReadFrom.agreeElsewhere` — two runs that differ in one file.
* `checks_files_apart` — both, for any files that have been found and for every project.
-/

namespace MessageLint

open Files (Path Workspace Entry)

/-! ## Which files are found -/

namespace Scan

mutual

theorem sourceFiles_shape (ignored : Path → Bool) : ∀ (e : Entry) (path : Path),
    sourceFiles ignored path e.shape = sourceFiles ignored path e
  | .file _, _ => rfl
  | .other, _ => rfl
  | .directory es, path => by
    rw [Entry.shape, sourceFiles, sourceFiles, sourceFilesAmong_shapes ignored es path]

theorem sourceFilesAmong_shapes (ignored : Path → Bool) : ∀ (es : List (String × Entry)) (path : Path),
    sourceFilesAmong ignored path (Entry.shapes es) = sourceFilesAmong ignored path es
  | [], _ => rfl
  | (name, e) :: rest, path => by
    rw [Entry.shapes, sourceFilesAmong, sourceFilesAmong, sourceFiles_shape ignored e,
      sourceFilesAmong_shapes ignored rest]

end

theorem roots_shape (w : Workspace) (base : Path) (o : Options) :
    roots w.shape base o = roots w base o := by
  have hInclude : includeRoots w.shape base = includeRoots w base := by
    funext entry
    simp only [includeRoots, Files.Glob.expand_shape, Files.Workspace.pathExists_shape,
      funext (Files.Workspace.isDirectory_shape w)]
  simp only [roots, hInclude]

theorem scanRoot_shape (w : Workspace) (ignored : IgnoreSet) (root : Path) :
    scanRoot w.shape ignored root = scanRoot w ignored root := by
  simp only [scanRoot, Files.Workspace.entry?_shape]
  cases w.entry? root with
  | none => rfl
  | some e => simp only [Option.map_some, sourceFiles_shape]

/-- A scan does not look into files. -/
theorem scan_shape (w : Workspace) (base : Path) (o : Options) :
    scan w.shape base o = scan w base o := by
  simp only [scan, roots_shape, funext (scanRoot_shape w _)]

end Scan

variable {f : List String} {w w' : Workspace}

theorem scan_eq_of_rewritten (h : w.RewrittenAt f w') (base : Path) (o : Scan.Options) :
    scan w' base o = scan w base o := by
  rw [← Scan.scan_shape w', h.shape_eq, Scan.scan_shape]

/-! ## The configuration -/

namespace Config

theorem findFrom_eq_of_rewritten (h : w.RewrittenAt f w') (fuel : Nat) (directory : Path) :
    findFrom w' fuel directory = findFrom w fuel directory := by
  induction fuel generalizing directory with
  | zero => rfl
  | succ fuel ih => simp only [findFrom, h.pathExists_eq, funext ih]

theorem exists_join_of_findFrom {fuel : Nat} {directory path : Path}
    (h : findFrom w fuel directory = some path) : ∃ outer, path = Files.Path.join outer fileName := by
  induction fuel generalizing directory with
  | zero => simp [findFrom] at h
  | succ fuel ih =>
    simp only [findFrom] at h
    split at h
    · exact ⟨directory, (Option.some.inj h).symm⟩
    · split at h
      · simp at h
      · obtain ⟨outer, -, hOuter⟩ := Option.bind_eq_some_iff.mp h
        exact ih hOuter

/-- A source file is no configuration file, so it does not matter for the configuration. -/
theorem load_eq_of_rewritten (h : w.RewrittenAt f w') (hf : f.getLast? ≠ some fileName)
    (directory : Path) : load w' directory = load w directory := by
  have hFind : find? w' directory = find? w directory := findFrom_eq_of_rewritten h _ _
  unfold load
  rw [hFind]
  cases hPath : find? w directory with
  | none => rfl
  | some path =>
    obtain ⟨outer, rfl⟩ := exists_join_of_findFrom hPath
    have hName : Files.Path.IsName fileName := by decide
    have hElsewhere : w.locate? (Files.Path.join outer fileName) ≠ some f := fun hLocate =>
      hf (Files.Workspace.getLast?_of_locate?_join hName hLocate)
    simp only [h.readText_eq hElsewhere]

end Config

/-! ## One run -/

theorem path_of_mem_file {path : Path} {parsed : ParsedFile} {rules : List Rule}
    {exempt : Check.Exemptions} {i : Issue} (h : i ∈ Check.file path parsed rules exempt) :
    i.path = path ∧ i.rule ≠ .parseError := by
  obtain ⟨finding, -, rfl⟩ := List.mem_map.mp h
  refine ⟨rfl, ?_⟩
  show finding.fault.rule ≠ .parseError
  cases finding.fault <;> exact Rule.noConfusion

namespace Project

/-- What became of the files of a project was read from a workspace: each file from its path alone. -/
def ReadFrom (w : Workspace) (p : Project) : Prop :=
  p.outcomes = p.files.map fun path => (path, parseFile w path)

/-- The issues of one file. -/
def fileIssues (w : Workspace) (rules : List Rule) (exempt : Check.Exemptions) (path : Path) :
    List Issue :=
  match parseFile w path with
  | .ok file => Check.file path file rules exempt
  | .error _ => []

/-- What holds of a project whose files are checked apart from each other. -/
structure CheckedApart (w : Workspace) (p : Project) : Prop where
  mem_parsed : ∀ path file,
    (path, file) ∈ p.parsed ↔ path ∈ p.files ∧ parseFile w path = .ok file
  mem_failures : ∀ path message, (path, message) ∈ p.failures ↔
    path ∈ p.files ∧ ∃ reason, parseFile w path = .error reason ∧ message = reason.message path
  parsed_ascending : (p.parsed.map (·.1)).Pairwise (· < ·)
  failures_ascending : (p.failures.map (·.1)).Pairwise (· < ·)
  disjoint : ∀ path ∈ p.parsed.map (·.1), path ∉ p.failures.map (·.1)
  covers : ∀ path, path ∈ p.files ↔ path ∈ p.parsed.map (·.1) ∨ path ∈ p.failures.map (·.1)
  /-- The issues are those of each file alone, one file after the other. -/
  check_eq : ∀ rules, p.check rules = p.files.flatMap (fileIssues w rules p.exemptions)
  /-- A file that cannot be checked has no other issues. -/
  apart : ∀ rules, ∀ i ∈ p.issues rules, ∀ j ∈ p.issues rules, i.path = j.path →
    (i.rule = .parseError ↔ j.rule = .parseError)

namespace ReadFrom

variable {p p' : Project}

theorem parsed_eq (h : p.ReadFrom w) : p.parsed = p.files.filterMap fun path =>
    match parseFile w path with
    | .ok file => some (path, file)
    | .error _ => none := by
  rw [parsed, h, List.filterMap_map]
  rfl

theorem failures_eq (h : p.ReadFrom w) : p.failures = p.files.filterMap fun path =>
    match parseFile w path with
    | .ok _ => none
    | .error reason => some (path, reason.message path) := by
  rw [failures, h, List.filterMap_map]
  rfl

theorem check_eq (h : p.ReadFrom w) (rules : List Rule) :
    p.check rules = p.files.flatMap (fileIssues w rules p.exemptions) := by
  rw [check, h.parsed_eq]
  induction p.files with
  | nil => rfl
  | cons path files ih =>
    rw [List.flatMap_cons, ← ih, List.filterMap_cons, fileIssues]
    cases parseFile w path <;> rfl

theorem rule_of_mem_fileIssues {rules : List Rule} {exempt : Check.Exemptions} {path : Path}
    {i : Issue} (h : i ∈ fileIssues w rules exempt path) :
    i.path = path ∧ i.rule ≠ .parseError ∧ ∃ file, parseFile w path = .ok file := by
  unfold fileIssues at h
  split at h
  · rename_i file hFile
    obtain ⟨hPath, hRule⟩ := path_of_mem_file h
    exact ⟨hPath, hRule, file, hFile⟩
  · simp at h

theorem mem_parsed (h : p.ReadFrom w) (path : Path) (file : ParsedFile) :
    (path, file) ∈ p.parsed ↔ path ∈ p.files ∧ parseFile w path = .ok file := by
  rw [h.parsed_eq, List.mem_filterMap]
  constructor
  · rintro ⟨q, hq, hFile⟩
    split at hFile
    · rename_i found hParse
      obtain ⟨rfl, rfl⟩ := Prod.mk.inj (Option.some.inj hFile)
      exact ⟨hq, hParse⟩
    · simp at hFile
  · rintro ⟨hPath, hParse⟩
    exact ⟨path, hPath, by rw [hParse]⟩

theorem mem_failures (h : p.ReadFrom w) (path : Path) (message : String) :
    (path, message) ∈ p.failures ↔
      path ∈ p.files ∧ ∃ reason, parseFile w path = .error reason ∧ message = reason.message path := by
  rw [h.failures_eq, List.mem_filterMap]
  constructor
  · rintro ⟨q, hq, hFailure⟩
    split at hFailure
    · simp at hFailure
    · rename_i reason hParse
      obtain ⟨rfl, rfl⟩ := Prod.mk.inj (Option.some.inj hFailure)
      exact ⟨hq, reason, hParse, rfl⟩
  · rintro ⟨hPath, reason, hParse, rfl⟩
    exact ⟨path, hPath, by rw [hParse]⟩

/-- Only an issue about a whole file belongs to `parse-error`, and only files that cannot be checked
have one. -/
theorem rule_eq_parseError_iff (h : p.ReadFrom w) {rules : List Rule} {i : Issue}
    (hi : i ∈ p.issues rules) :
    i.rule = .parseError ↔ ∃ reason, parseFile w i.path = .error reason := by
  rw [issues, Issue.sort, List.mem_mergeSort, List.mem_append] at hi
  rcases hi with hi | hi
  · rw [h.check_eq, List.mem_flatMap] at hi
    obtain ⟨path, -, hi⟩ := hi
    obtain ⟨rfl, hRule, file, hFile⟩ := rule_of_mem_fileIssues hi
    simp [hRule, hFile]
  · obtain ⟨⟨path, message⟩, hFailure, rfl⟩ := List.mem_map.mp hi
    obtain ⟨-, reason, hParse, -⟩ := (h.mem_failures path message).mp hFailure
    exact iff_of_true rfl ⟨reason, hParse⟩

theorem map_fst_filterMap_sublist {α β : Type} {g : α → Option (α × β)}
    (hg : ∀ x y, g x = some y → y.1 = x) (xs : List α) :
    ((xs.filterMap g).map (·.1)).Sublist xs := by
  induction xs with
  | nil => exact .slnil
  | cons x xs ih =>
    rw [List.filterMap_cons]
    cases hx : g x with
    | none => exact ih.cons x
    | some y =>
      rw [List.map_cons, hg x y hx]
      exact ih.cons_cons x

theorem checkedApart (h : p.ReadFrom w) (hFiles : p.files.Pairwise (· < ·)) : p.CheckedApart w where
  mem_parsed := h.mem_parsed
  mem_failures := h.mem_failures
  parsed_ascending := by
    rw [h.parsed_eq]
    refine hFiles.sublist (map_fst_filterMap_sublist ?_ _)
    intro path y hy
    split at hy
    · exact (congrArg Prod.fst (Option.some.inj hy)).symm
    · simp at hy
  failures_ascending := by
    rw [h.failures_eq]
    refine hFiles.sublist (map_fst_filterMap_sublist ?_ _)
    intro path y hy
    split at hy
    · simp at hy
    · exact (congrArg Prod.fst (Option.some.inj hy)).symm
  disjoint := by
    intro path hParsed hFailed
    obtain ⟨⟨q, file⟩, hFile, rfl⟩ := List.mem_map.mp hParsed
    obtain ⟨⟨q', message⟩, hFailure, hSame⟩ := List.mem_map.mp hFailed
    obtain rfl : q' = q := hSame
    obtain ⟨-, hOk⟩ := (h.mem_parsed _ _).mp hFile
    obtain ⟨-, reason, hError, -⟩ := (h.mem_failures _ _).mp hFailure
    rw [hOk] at hError
    cases hError
  covers := by
    intro path
    simp only [List.mem_map, Prod.exists, exists_and_right, exists_eq_right, h.mem_parsed,
      h.mem_failures]
    constructor
    · intro hPath
      cases hParse : parseFile w path with
      | ok file => exact .inl ⟨file, hPath, rfl⟩
      | error reason => exact .inr ⟨_, hPath, reason, rfl, rfl⟩
    · rintro (⟨_, hPath, -⟩ | ⟨_, hPath, -⟩) <;> exact hPath
  check_eq := h.check_eq
  apart := by
    intro rules i hi j hj hPath
    rw [h.rule_eq_parseError_iff hi, h.rule_eq_parseError_iff hj, hPath]

end ReadFrom

/-! ## Two runs -/

/-- Does the path lead elsewhere than to the file? -/
def leadsElsewhere (w : Workspace) (f : List String) (path : Path) : Bool := w.locate? path != some f

/-- Two projects tell the same, in the same order, of all files but one. -/
structure AgreeElsewhere (w : Workspace) (f : List String) (p p' : Project) : Prop where
  check : ∀ rules, (p'.check rules).filter (leadsElsewhere w f ·.path) =
    (p.check rules).filter (leadsElsewhere w f ·.path)
  failures : p'.failures.filter (leadsElsewhere w f ·.1) = p.failures.filter (leadsElsewhere w f ·.1)

theorem parseFile_eq_of_rewritten (h : w.RewrittenAt f w') {path : Path}
    (hPath : leadsElsewhere w f path = true) : parseFile w' path = parseFile w path := by
  rw [leadsElsewhere, bne_iff_ne] at hPath
  rw [parseFile, parseFile, h.readText_eq hPath]

namespace ReadFrom

variable {p p' : Project}

/-- The issues of some of the files are found by checking these alone. -/
theorem filter_check (h : p.ReadFrom w) (keep : Path → Bool) (rules : List Rule) :
    (p.check rules).filter (keep ·.path) =
      (p.files.filter keep).flatMap (fileIssues w rules p.exemptions) := by
  rw [h.check_eq]
  induction p.files with
  | nil => rfl
  | cons path files ih =>
    have hPath : ∀ i ∈ fileIssues w rules p.exemptions path, i.path = path :=
      fun i hi => (rule_of_mem_fileIssues hi).1
    rw [List.flatMap_cons, List.filter_append, ih]
    cases hKeep : keep path with
    | true =>
      have hAll : (fileIssues w rules p.exemptions path).filter (keep ·.path) =
          fileIssues w rules p.exemptions path :=
        List.filter_eq_self.mpr fun i hi => by rw [hPath i hi, hKeep]
      rw [List.filter_cons_of_pos hKeep, List.flatMap_cons, hAll]
    | false =>
      have hNone : (fileIssues w rules p.exemptions path).filter (keep ·.path) = [] :=
        List.filter_eq_nil_iff.mpr fun i hi => by rw [hPath i hi, hKeep]; exact Bool.false_ne_true
      rw [List.filter_cons_of_neg (by simp [hKeep]), hNone, List.nil_append]

theorem filter_failures (h : p.ReadFrom w) (keep : Path → Bool) :
    p.failures.filter (keep ·.1) = (p.files.filter keep).filterMap fun path =>
      match parseFile w path with
      | .ok _ => none
      | .error reason => some (path, reason.message path) := by
  rw [h.failures_eq]
  induction p.files with
  | nil => rfl
  | cons path files ih =>
    cases hParse : parseFile w path <;> cases hKeep : keep path <;> simp [hParse, hKeep, ih]

theorem agreeElsewhere (hw : w.RewrittenAt f w') (h : p.ReadFrom w) (h' : p'.ReadFrom w')
    (hConfig : p'.config = p.config) (hFiles : p'.files = p.files) : AgreeElsewhere w f p p' where
  check := by
    intro rules
    have hExempt : p'.exemptions = p.exemptions := by rw [exemptions, exemptions, hConfig]
    rw [h.filter_check, h'.filter_check, hFiles, hExempt]
    refine List.flatMap_congr fun path hPath => ?_
    rw [fileIssues, fileIssues, parseFile_eq_of_rewritten hw (List.mem_filter.mp hPath).2]
  failures := by
    rw [h.filter_failures, h'.filter_failures, hFiles]
    refine List.filterMap_congr fun path hPath => ?_
    rw [parseFile_eq_of_rewritten hw (List.mem_filter.mp hPath).2]

end ReadFrom

/-! ## Projects -/

theorem readFrom_ofConfig (w : Workspace) (root : Path) (loaded : Config.Loaded) (verbose : Bool) :
    (ofConfig w root loaded verbose).ReadFrom w := by
  simp [ReadFrom, ofConfig, files, Function.comp_def]

theorem files_ofConfig (w : Workspace) (root : Path) (loaded : Config.Loaded) (verbose : Bool) :
    (ofConfig w root loaded verbose).files =
      (scan w (resolve root loaded.config.sourceRoot) (scanOptions loaded.config verbose)).files := by
  simp [ofConfig, files, Function.comp_def]

/-- Files are checked apart from each other: for every configuration, every set of files that has been
found, and whatever reading them gives. A project that is opened is of this kind; writing a source
file anew changes neither its configuration nor its set of files, and nothing that is said of the
other files. -/
theorem checks_files_apart :
    (∀ (w : Workspace) (p : Project), p.ReadFrom w → p.files.Pairwise (· < ·) → p.CheckedApart w) ∧
    (∀ (f : List String) (w w' : Workspace) (p p' : Project), w.RewrittenAt f w' →
      p.ReadFrom w → p'.ReadFrom w' → p'.config = p.config → p'.files = p.files →
      AgreeElsewhere w f p p') ∧
    (∀ (w : Workspace) (root : Path) (loaded : Config.Loaded) (verbose : Bool),
      (ofConfig w root loaded verbose).ReadFrom w ∧
      (ofConfig w root loaded verbose).files.Pairwise (· < ·)) ∧
    ∀ (f : List String) (w w' : Workspace), w.RewrittenAt f w' → ∀ root : Path,
      (∀ (loaded : Config.Loaded) (verbose : Bool),
        (ofConfig w' root loaded verbose).config = (ofConfig w root loaded verbose).config ∧
        (ofConfig w' root loaded verbose).files = (ofConfig w root loaded verbose).files) ∧
      ((∃ name, f.getLast? = some name ∧ Scan.isSourceFile name = true) →
        Config.load w' root = Config.load w root) := by
  refine ⟨fun w p h hFiles => h.checkedApart hFiles,
    fun f w w' p p' hw h h' hConfig hFiles => h.agreeElsewhere hw h' hConfig hFiles, ?_, ?_⟩
  · intro w root loaded verbose
    refine ⟨readFrom_ofConfig w root loaded verbose, ?_⟩
    rw [files_ofConfig]
    exact Scan.sortPaths_ascending _
  · intro f w w' hw root
    constructor
    · intro loaded verbose
      refine ⟨rfl, ?_⟩
      rw [files_ofConfig, files_ofConfig, scan_eq_of_rewritten hw]
    · rintro ⟨name, hName, hSource⟩
      refine Config.load_eq_of_rewritten hw ?_ root
      rw [hName]
      rintro ⟨⟩
      exact absurd hSource (by decide)

/-- Two source files, of which the second holds the text. -/
def twoFiles (text : String) : Workspace :=
  ⟨.directory [("a.tsx", .file "<p>Hi</p>;".toUTF8), ("b.tsx", .file text.toUTF8)], []⟩

theorem rewrittenAt_twoFiles (old new : String) :
    (twoFiles old).RewrittenAt ["b.tsx"] (twoFiles new) :=
  ⟨@Entry.Rewritten.directory "b.tsx" [] _ _ [("a.tsx", _)] [] (by decide) (.file _ _), rfl⟩

/-- One file does not parse until it is mended, and the other one has an issue before and after. -/
theorem mended_file_apart :
    (parseFile (twoFiles "<p>") "./b.tsx").isOk = false ∧
    (parseFile (twoFiles "<p>Bye</p>;") "./b.tsx").isOk = true ∧
    (∃ i ∈ (ofConfig (twoFiles "<p>") "." {} false).check Rule.suppressible, i.path = "./a.tsx") ∧
    (ofConfig (twoFiles "<p>") "." {} false).CheckedApart (twoFiles "<p>") ∧
    AgreeElsewhere (twoFiles "<p>") ["b.tsx"] (ofConfig (twoFiles "<p>") "." {} false)
      (ofConfig (twoFiles "<p>Bye</p>;") "." {} false) := by
  obtain ⟨hApart, hAgree, hProject, hRewritten⟩ := checks_files_apart
  obtain ⟨hRead, hFiles⟩ := hProject (twoFiles "<p>") "." {} false
  have hWritten := rewrittenAt_twoFiles "<p>" "<p>Bye</p>;"
  obtain ⟨hConfig, hSame⟩ := (hRewritten _ _ _ hWritten ".").1 {} false
  refine ⟨by decide +kernel, by decide +kernel, ?_, hApart _ _ hRead hFiles,
    hAgree _ _ _ _ _ hWritten hRead (hProject _ _ _ _).1 hConfig hSame⟩
  have hListed : "./a.tsx" ∈ (ofConfig (twoFiles "<p>") "." {} false).files := by
    rw [files_ofConfig, Scan.mem_files_iff_mem_found]
    decide +kernel
  have hFound : fileIssues (twoFiles "<p>") Rule.suppressible
      (ofConfig (twoFiles "<p>") "." {} false).exemptions "./a.tsx" ≠ [] := by decide +kernel
  obtain ⟨i, hi⟩ := List.exists_mem_of_ne_nil _ hFound
  refine ⟨i, ?_, (ReadFrom.rule_of_mem_fileIssues hi).1⟩
  rw [hRead.check_eq]
  exact List.mem_flatMap.mpr ⟨_, hListed, hi⟩

end Project

end MessageLint
