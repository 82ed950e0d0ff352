import Mathlib.Data.String.Basic
import Mathlib.Order.Compare
import MessageLint.Proofs.Files.Workspace
import MessageLint.Scan

/-!
# MessageLint — which files a scan lists

A scan walks down from its roots and leaves out what lies below an ignored directory. Here the walk
is replaced by a condition on the files alone: `mem_files_scan_iff` says that a path is listed exactly
if it is that of a source file at or below a root, and neither the root nor anything on the way to
the file is ignored.

* `sortPaths_ascending`, `mem_sortPaths` — the list of files is a set in order.
* `mem_sourceFiles_iff` — what the walk below one entry finds.
* `ignores_iff`, `mem_roots_iff` — what is ignored, and where a scan starts.
-/

namespace MessageLint.Scan

open Files (Path Workspace Entry)
open Files.Path (spell join)

/-! ## Paths in order, each once -/

section EraseReps

variable {α : Type} [DecidableEq α]

theorem eraseRepsLoop_append (a : α) (xs front : List α) :
    List.eraseRepsBy.loop (· == ·) a xs front =
      front.reverse ++ List.eraseRepsBy.loop (· == ·) a xs [] := by
  induction xs generalizing a front with
  | nil => simp [List.eraseRepsBy.loop]
  | cons x xs ih =>
    simp only [List.eraseRepsBy.loop]
    split
    · exact ih a front
    · rw [ih x (a :: front), ih x [a]]
      simp

theorem eraseReps_cons_cons (a b : α) (xs : List α) :
    (a :: b :: xs).eraseReps =
      if a = b then (a :: xs).eraseReps else a :: (b :: xs).eraseReps := by
  simp only [List.eraseReps, List.eraseRepsBy, List.eraseRepsBy.loop]
  by_cases h : a = b
  · simp [h]
  · rw [beq_false_of_ne h, if_neg h, eraseRepsLoop_append b xs [a]]
    rfl

theorem mem_eraseReps {a : α} {xs : List α} : a ∈ xs.eraseReps ↔ a ∈ xs := by
  induction xs with
  | nil => rfl
  | cons x xs ih =>
    cases xs with
    | nil => rfl
    | cons y ys =>
      rw [eraseReps_cons_cons]
      by_cases h : x = y
      · subst h
        simp [ih]
      · simp [h, ih]

/-- In order, equal items stand side by side, so each is left once. -/
theorem pairwise_lt_eraseReps [LinearOrder α] {xs : List α} (h : xs.Pairwise (· ≤ ·)) :
    xs.eraseReps.Pairwise (· < ·) := by
  induction xs with
  | nil => exact .nil
  | cons x xs ih =>
    cases xs with
    | nil => exact List.pairwise_singleton _ _
    | cons y ys =>
      rw [eraseReps_cons_cons]
      obtain ⟨hFirst, hRest⟩ := List.pairwise_cons.mp h
      by_cases hEq : x = y
      · subst hEq
        rw [if_pos rfl]
        exact ih hRest
      · rw [if_neg hEq]
        refine List.pairwise_cons.mpr ⟨fun z hz => ?_, ih hRest⟩
        have hxy : x < y := lt_of_le_of_ne (hFirst y (by simp)) hEq
        rcases List.mem_cons.mp (mem_eraseReps.mp hz) with rfl | hz
        · exact hxy
        · exact hxy.trans_le ((List.pairwise_cons.mp hRest).1 z hz)

end EraseReps

theorem mem_sortPaths {p : Path} {paths : List Path} : p ∈ sortPaths paths ↔ p ∈ paths := by
  simp [sortPaths, mem_eraseReps]

theorem sortPaths_ascending (paths : List Path) : (sortPaths paths).Pairwise (· < ·) := by
  have hLe : ∀ a b : String, (compare a b != .gt) = true ↔ a ≤ b := by
    intro a b
    simp [compare_le_iff_le]
  have hSorted : (paths.mergeSort fun a b => compare a b != .gt).Pairwise
      fun a b => (compare a b != .gt) = true := by
    apply List.pairwise_mergeSort
    · intro a b c hab hbc
      exact (hLe a c).mpr (((hLe a b).mp hab).trans ((hLe b c).mp hbc))
    · intro a b
      rw [Bool.or_eq_true, hLe, hLe]
      exact le_total a b
  exact pairwise_lt_eraseReps (hSorted.imp fun h => (hLe _ _).mp h)

/-! ## The walk below one entry -/

theorem sourceFilesAmong_eq (ignored : Path → Bool) (path : Path) (es : List (String × Entry)) :
    sourceFilesAmong ignored path es =
      es.flatMap fun x => sourceFiles ignored (join path x.1) x.2 := by
  induction es with
  | nil => rfl
  | cons x es ih => rw [sourceFilesAmong, ih, List.flatMap_cons]

/-- Leaving out what lies below an ignored directory means asking that nothing on the way to a file
is ignored. -/
theorem mem_sourceFiles_iff {ignored : Path → Bool} {path p : Path} {e : Entry}
    (he : e.Wellformed) :
    p ∈ sourceFiles ignored path e ↔ ∃ names content, e.at? names = some (.file content) ∧
      p = spell path names ∧ isSourceFile p = true ∧
      ∀ front, front <+: names → ignored (spell path front) = false := by
  induction he generalizing path with
  | file content =>
    rw [sourceFiles]
    constructor
    · intro h
      split at h
      · rename_i hFile
        rw [Bool.and_eq_true, Bool.not_eq_true'] at hFile
        obtain rfl := List.mem_singleton.mp h
        refine ⟨[], content, rfl, rfl, hFile.2, fun front hFront => ?_⟩
        rw [List.prefix_nil.mp hFront]
        exact hFile.1
      · simp at h
    · rintro ⟨names, found, hAt, rfl, hSource, hIgnored⟩
      -- below a file there is nothing
      cases names with
      | nil =>
        have hPath := hIgnored [] List.nil_prefix
        simp_all
      | cons name names => simp [Entry.at?, Entry.child?_file] at hAt
  | @directory es distinct names entries ih =>
    have hWellformed : (Entry.directory es).Wellformed := .directory distinct names entries
    rw [sourceFiles, sourceFilesAmong_eq]
    cases hPath : ignored path with
    | true =>
      simp only [if_true, List.not_mem_nil, false_iff]
      rintro ⟨names, content, -, -, -, hIgnored⟩
      simpa [hPath] using hIgnored [] List.nil_prefix
    | false =>
      simp only [Bool.false_eq_true, if_false, List.mem_flatMap]
      -- a part of the way down ends at this directory, or goes on with the first name
      constructor
      · rintro ⟨⟨name, next⟩, hMem, hFile⟩
        obtain ⟨names, content, hAt, rfl, hSource, hIgnored⟩ := (ih _ hMem).mp hFile
        have hChild := hWellformed.child?_eq_some_iff.mpr hMem
        refine ⟨name :: names, content, Entry.at?_cons_eq_some_iff.mpr ⟨next, hChild, hAt⟩, rfl,
          hSource, fun front hFront => ?_⟩
        rcases List.prefix_cons_iff.mp hFront with rfl | ⟨rest, rfl, hRest⟩
        · exact hPath
        · exact hIgnored rest hRest
      · rintro ⟨names, content, hAt, rfl, hSource, hIgnored⟩
        cases names with
        | nil => simp [Entry.at?] at hAt
        | cons name names =>
          obtain ⟨next, hChild, hRest⟩ := Entry.at?_cons_eq_some_iff.mp hAt
          have hMem := hWellformed.child?_eq_some_iff.mp hChild
          refine ⟨(name, next), hMem, (ih _ hMem).mpr ⟨names, content, hRest, rfl, hSource, ?_⟩⟩
          intro front hFront
          exact hIgnored (name :: front) ((List.prefix_cons_inj name).mpr hFront)
  | other =>
    simp only [sourceFiles, List.not_mem_nil, false_iff]
    rintro ⟨names, content, hAt, -⟩
    cases names with
    | nil => simp [Entry.at?] at hAt
    | cons name names => simp [Entry.at?, Entry.child?_other] at hAt

/-! ## What is ignored, and where a scan starts -/

/-- The path is to be left out: it begins, component by component, with a literal entry below the
base directory, or it matches a valid pattern, or test files are left out and it matches a pattern
for them. -/
def Ignored (base : Path) (o : Options) (p : Path) : Prop :=
  (∃ entry ∈ o.ignores, Files.Glob.isPattern entry = false ∧
    Files.Path.components (join base entry) <+: Files.Path.components p) ∨
  (∃ entry ∈ o.ignores, Files.Glob.isPattern entry = true ∧
    ∃ tokens, Files.Glob.parse entry = .ok tokens ∧ Files.Glob.matchesText tokens p = true) ∨
  (o.ignoreTestFiles = true ∧ ∃ entry ∈ testFilePatterns,
    ∃ tokens, Files.Glob.parse entry = .ok tokens ∧ Files.Glob.matchesText tokens p = true)

/-- A scan starts at the base directory if nothing is included, and otherwise at what exists of the
literal entries to include and at the directories that match the others. -/
def IsRoot (w : Workspace) (base : Path) (o : Options) (root : Path) : Prop :=
  (o.includes = [] ∧ root = base) ∨
  (∃ entry ∈ o.includes, Files.Glob.isPattern entry = false ∧ root = join base entry ∧
    w.pathExists root = true) ∨
  (∃ entry ∈ o.includes, Files.Glob.isPattern entry = true ∧
    ∃ paths, Files.Glob.expand w (join base entry) = .ok paths ∧ root ∈ paths ∧
      w.isDirectory root = true)

theorem any_validPatterns_iff {entries : List String} {p : Path} :
    (validPatterns entries).any (Files.Glob.matchesText · p) = true ↔
      ∃ entry ∈ entries, ∃ tokens, Files.Glob.parse entry = .ok tokens ∧
        Files.Glob.matchesText tokens p = true := by
  have hOk : ∀ entry tokens, (Files.Glob.parse entry).toOption = some tokens ↔
      Files.Glob.parse entry = .ok tokens := by
    intro entry tokens
    cases Files.Glob.parse entry <;> simp [Except.toOption]
  simp only [validPatterns, List.any_eq_true, List.mem_filterMap, hOk]
  constructor
  · rintro ⟨tokens, ⟨entry, hMem, hParse⟩, hMatch⟩
    exact ⟨entry, hMem, tokens, hParse, hMatch⟩
  · rintro ⟨entry, hMem, tokens, hParse, hMatch⟩
    exact ⟨tokens, ⟨entry, hMem, hParse⟩, hMatch⟩

theorem ignores_iff {base : Path} {o : Options} {p : Path} :
    (IgnoreSet.ofOptions base o).ignores p = true ↔ Ignored base o p := by
  have hPaths : (IgnoreSet.ofOptions base o).paths.any (Files.Path.startsWith p ·) = true ↔
      ∃ entry ∈ o.ignores, Files.Glob.isPattern entry = false ∧
        Files.Path.components (join base entry) <+: Files.Path.components p := by
    simp [IgnoreSet.ofOptions, Files.Path.startsWith]
  have hPatterns : (IgnoreSet.ofOptions base o).patterns.any (Files.Glob.matchesText · p) = true ↔
      (validPatterns (o.ignores.filter Files.Glob.isPattern)).any
          (Files.Glob.matchesText · p) = true ∨
        o.ignoreTestFiles = true ∧
          (validPatterns testFilePatterns).any (Files.Glob.matchesText · p) = true := by
    simp only [IgnoreSet.ofOptions, List.any_append, Bool.or_eq_true]
    cases o.ignoreTestFiles <;> simp
  rw [IgnoreSet.ignores, Bool.or_eq_true, hPaths, hPatterns, any_validPatterns_iff,
    any_validPatterns_iff, Ignored]
  simp only [List.mem_filter, and_assoc]

theorem mem_includeRoots_iff {w : Workspace} {base root : Path} {entry : String} :
    root ∈ (includeRoots w base entry).1 ↔
      (Files.Glob.isPattern entry = false ∧ root = join base entry ∧ w.pathExists root = true) ∨
      (Files.Glob.isPattern entry = true ∧
        ∃ paths, Files.Glob.expand w (join base entry) = .ok paths ∧ root ∈ paths ∧
          w.isDirectory root = true) := by
  unfold includeRoots
  cases hPattern : Files.Glob.isPattern entry with
  | true =>
    cases hExpand : Files.Glob.expand w (join base entry) <;> simp [hExpand]
  | false =>
    by_cases hExists : w.pathExists (join base entry) = true
    · simp only [Bool.false_eq_true, if_false, hExists, if_true, List.mem_singleton, true_and,
        false_and, or_false]
      exact ⟨fun h => ⟨h, h ▸ hExists⟩, And.left⟩
    · simp only [Bool.false_eq_true, if_false, hExists, List.not_mem_nil, true_and, false_and,
        or_false, false_iff]
      rintro ⟨rfl, h⟩
      exact hExists h

theorem mem_roots_iff {w : Workspace} {base root : Path} {o : Options} :
    root ∈ (roots w base o).1 ↔ IsRoot w base o root := by
  unfold roots IsRoot
  cases hIncludes : o.includes with
  | nil => simp
  | cons first rest =>
    simp only [List.isEmpty_cons, Bool.false_eq_true, if_false, List.flatMap_map, List.mem_flatMap,
      mem_includeRoots_iff, reduceCtorEq, false_and, false_or]
    constructor
    · rintro ⟨entry, hMem, h | h⟩
      · exact .inl ⟨entry, hMem, h⟩
      · exact .inr ⟨entry, hMem, h⟩
    · rintro (⟨entry, hMem, h⟩ | ⟨entry, hMem, h⟩)
      · exact ⟨entry, hMem, .inl h⟩
      · exact ⟨entry, hMem, .inr h⟩

/-! ## The files that are listed -/

section Listed

variable {w : Workspace} {base p : Path} {o : Options}

/-- What a scan lists is what it has found, before it is put in order. -/
theorem mem_files_iff_mem_found :
    p ∈ (scan w base o).files ↔ p ∈ ((roots w base o).1.map
      (scanRoot w (IgnoreSet.ofOptions base o))).flatMap (·.1) :=
  mem_sortPaths

/-- What a scan finds, root by root. -/
theorem mem_files_scan :
    p ∈ (scan w base o).files ↔ ∃ root e, IsRoot w base o root ∧ w.entry? root = some e ∧
      p ∈ sourceFiles (IgnoreSet.ofOptions base o).ignores root e := by
  have hRoot : ∀ root, p ∈ (scanRoot w (IgnoreSet.ofOptions base o) root).1 ↔
      ∃ e, w.entry? root = some e ∧
        p ∈ sourceFiles (IgnoreSet.ofOptions base o).ignores root e := by
    intro root
    unfold scanRoot
    cases w.entry? root <;> simp
  simp only [mem_files_iff_mem_found, List.flatMap_map, List.mem_flatMap, hRoot, mem_roots_iff]
  constructor
  · rintro ⟨root, hIsRoot, e, he, hp⟩
    exact ⟨root, e, hIsRoot, he, hp⟩
  · rintro ⟨root, e, hIsRoot, he, hp⟩
    exact ⟨root, hIsRoot, e, he, hp⟩

theorem isSourceFile_iff :
    isSourceFile p = true ↔ ∃ ending ∈ ["ts", "tsx", "js", "jsx"],
      Files.Path.extension? p = some ending := by
  unfold isSourceFile
  cases Files.Path.extension? p with
  | none => simp
  | some ending =>
    simp only [sourceExtensions, Option.map_some, Option.getD_some, List.contains_eq_mem,
      decide_eq_true_eq, List.mem_cons, List.not_mem_nil, or_false, Option.some.injEq]
    grind

/-- What a scan finds, by the names that lead from a root to a file. -/
theorem mem_files_scan_names (hw : w.outermost.Wellformed) :
    p ∈ (scan w base o).files ↔ ∃ root e names content, IsRoot w base o root ∧
      w.entry? root = some e ∧ e.at? names = some (.file content) ∧
      p = spell root names ∧ w.entry? p = some (.file content) ∧ isSourceFile p = true ∧
      ∀ front, front <+: names →
        (IgnoreSet.ofOptions base o).ignores (spell root front) = false := by
  rw [mem_files_scan]
  constructor
  · rintro ⟨root, e, hRoot, hEntry, hFile⟩
    have he := Files.Workspace.wellformed_of_entry hw hEntry
    obtain ⟨names, content, hAt, rfl, hSource, hIgnored⟩ := (mem_sourceFiles_iff he).mp hFile
    have hDenoted : w.entry? (spell root names) = some (.file content) := by
      rw [Files.Workspace.entry?_spell (Files.Workspace.ne_empty_of_entry hEntry) (he.at? hAt).2,
        hEntry, Option.bind_some, hAt]
    exact ⟨root, e, names, content, hRoot, hEntry, hAt, rfl, hDenoted, hSource, hIgnored⟩
  · rintro ⟨root, e, names, content, hRoot, hEntry, hAt, hSpelled, -, hSource, hIgnored⟩
    have he := Files.Workspace.wellformed_of_entry hw hEntry
    exact ⟨root, e, hRoot, hEntry,
      (mem_sourceFiles_iff he).mpr ⟨names, content, hAt, hSpelled, hSource, hIgnored⟩⟩

/-- A listed path leads from a root to a file by names, and is not ignored. -/
theorem exists_root_of_mem_files (hw : w.outermost.Wellformed) (hp : p ∈ (scan w base o).files) :
    ∃ root names content, IsRoot w base o root ∧ root ≠ "" ∧ (∀ n ∈ names, Files.Path.IsName n) ∧
      p = spell root names ∧ w.entry? p = some (.file content) ∧
      (IgnoreSet.ofOptions base o).ignores p = false := by
  obtain ⟨root, e, names, content, hRoot, hEntry, hAt, rfl, hDenoted, -, hIgnored⟩ :=
    (mem_files_scan_names hw).mp hp
  have he := Files.Workspace.wellformed_of_entry hw hEntry
  exact ⟨root, names, content, hRoot, Files.Workspace.ne_empty_of_entry hEntry, (he.at? hAt).2,
    rfl, hDenoted, hIgnored names List.prefix_rfl⟩

/-- A path is listed exactly if it is the path, spelled from a root, of a source file at or below
that root, and neither the root nor a directory on the way down nor the file itself is ignored. -/
theorem mem_files_scan_iff (hw : w.outermost.Wellformed) :
    p ∈ (scan w base o).files ↔ ∃ root e names content, IsRoot w base o root ∧
      w.entry? root = some e ∧ e.at? names = some (.file content) ∧
      p = spell root names ∧ w.entry? p = some (.file content) ∧
      (∃ ending ∈ ["ts", "tsx", "js", "jsx"], Files.Path.extension? p = some ending) ∧
      ∀ front, front <+: names → ¬ Ignored base o (spell root front) := by
  rw [mem_files_scan_names hw]
  simp only [← isSourceFile_iff, ← ignores_iff, Bool.not_eq_true]

end Listed

/-- A source file beside a directory of generated ones. -/
def generatedSources : Workspace :=
  ⟨.directory [("src", .directory [("a.tsx", .file .empty),
    ("gen", .directory [("b.ts", .file .empty)])])], []⟩

theorem wellformed_generatedSources : generatedSources.outermost.Wellformed := by decide

/-- Sources away from the working directory, beside a link and a directory of generated ones. -/
def linkedSources : Workspace where
  outermost := .directory [("home", .directory []), ("project", .directory [
    ("a.tsx", .file .empty), ("b.tsx", .other), ("gen", .directory [("c.ts", .file .empty)])])]
  workingDirectory := ["home"]

theorem wellformed_linkedSources : linkedSources.outermost.Wellformed := by decide

/-- The generated file is not ignored itself, only the directory on the way to it. From an absolute
base directory the sources are found just the same, and the link is not one of them. -/
theorem generated_file_left_out :
    "./src/a.tsx" ∈ (scan generatedSources "." { includes := ["src"], ignores := ["*gen"] }).files ∧
    "./src/gen/b.ts" ∉ (scan generatedSources "." { includes := ["src"], ignores := ["*gen"] }).files ∧
    ¬ Ignored "." { includes := ["src"], ignores := ["*gen"] } "./src/gen/b.ts" ∧
    "/project/a.tsx" ∈ (scan linkedSources "/project" { ignores := ["gen"] }).files ∧
    "/project/b.tsx" ∉ (scan linkedSources "/project" { ignores := ["gen"] }).files := by
  refine ⟨?_, ?_, ?_, ?_, ?_⟩
  · rw [mem_files_scan_iff wellformed_generatedSources]
    refine ⟨"./src", _, ["a.tsx"], _, .inr (.inl ⟨"src", by decide, by decide, by decide,
      by decide +kernel⟩), rfl, rfl, by decide, rfl, ⟨"tsx", by decide, by decide +kernel⟩, ?_⟩
    -- the root and the file itself
    intro front hFront
    rw [← ignores_iff]
    rcases List.prefix_cons_iff.mp hFront with rfl | ⟨rest, rfl, hRest⟩
    · decide +kernel
    · rw [List.prefix_nil.mp hRest]
      decide +kernel
  · rw [mem_files_iff_mem_found]
    decide +kernel
  · rw [← ignores_iff]
    decide +kernel
  · rw [mem_files_iff_mem_found]
    decide +kernel
  · rw [mem_files_scan_iff wellformed_linkedSources]
    rintro ⟨_, _, _, _, -, -, -, -, hDenoted, -⟩
    simp [show linkedSources.entry? "/project/b.tsx" = some .other by rfl] at hDenoted

end MessageLint.Scan
