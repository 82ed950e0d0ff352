import MessageLint.Config
import MessageLint.Proofs.Files.Enclosing

/-!
# MessageLint — the configuration file that applies to a directory

The search for a configuration file goes outward by the text of a path. `Applies` says which
directory it ought to find: the nearest one around a place that has a configuration file, unless a
`.git` entry is nearer. From an absolute path without `..` the search finds just that, and from a
relative one as far as the working directory (`find?_applies`). From a relative path it does not
look beyond the working directory, and a `..` leads it into directories that are not around the
place at all (`not_find?_applies`).
-/

namespace MessageLint.Config

open Files (Workspace Path Entry)
open Files.Path (IsName components names segments isAbsolute parent? join)

variable {w : Workspace} {d q file : Path} {place outer dir : List String} {s : String}

/-! ## The directory whose configuration applies -/

/-- The configuration file in `dir` applies to `place`: no directory nearer to the place has one, or
a `.git` entry. -/
structure Applies (w : Workspace) (place dir : List String) : Prop where
  around : dir <+: place
  hasFile : (w.outermost.at? (dir ++ [fileName])).isSome
  nearest : ∀ nearer, dir <+: nearer → nearer <+: place → nearer ≠ dir →
    (w.outermost.at? (nearer ++ [fileName])).isSome = false ∧
      (w.outermost.at? (nearer ++ [".git"])).isSome = false

theorem applies_iff_of_file (h : (w.outermost.at? (place ++ [fileName])).isSome = true) :
    Applies w place dir ↔ dir = place := by
  constructor
  · intro hApplies
    by_contra hNe
    have hNone := (hApplies.nearest place hApplies.around (List.prefix_refl _) (Ne.symm hNe)).1
    rw [h] at hNone
    exact Bool.noConfusion hNone
  · rintro rfl
    refine ⟨List.prefix_refl _, h, fun nearer hInner hOuter hNe => ?_⟩
    exact absurd (hOuter.eq_of_length_le hInner.length_le) hNe

theorem not_applies_of_git (hFile : (w.outermost.at? (place ++ [fileName])).isSome = false)
    (hGit : (w.outermost.at? (place ++ [".git"])).isSome = true) : ¬ Applies w place dir := by
  intro hApplies
  by_cases hHere : dir = place
  · have hSome := hApplies.hasFile
    rw [hHere, hFile] at hSome
    exact Bool.noConfusion hSome
  · have hNone := (hApplies.nearest place hApplies.around (List.prefix_refl _) (Ne.symm hHere)).2
    rw [hGit] at hNone
    exact Bool.noConfusion hNone

/-- With neither entry in a directory, the one around it decides. -/
theorem applies_concat_iff (hFile : (w.outermost.at? (place ++ [s] ++ [fileName])).isSome = false)
    (hGit : (w.outermost.at? (place ++ [s] ++ [".git"])).isSome = false) :
    Applies w (place ++ [s]) dir ↔ Applies w place dir := by
  constructor
  · intro hApplies
    rcases List.prefix_concat_iff.mp hApplies.around with hHere | hAround
    · have hSome := hApplies.hasFile
      rw [hHere, hFile] at hSome
      exact Bool.noConfusion hSome
    · refine ⟨hAround, hApplies.hasFile, fun nearer hInner hOuter => ?_⟩
      exact hApplies.nearest nearer hInner (hOuter.trans (List.prefix_append _ _))
  · intro hApplies
    refine ⟨hApplies.around.trans (List.prefix_append _ _), hApplies.hasFile, ?_⟩
    intro nearer hInner hOuter hNe
    rcases List.prefix_concat_iff.mp hOuter with rfl | hOuter
    · exact ⟨hFile, hGit⟩
    · exact hApplies.nearest nearer hInner hOuter hNe

/-! ## The search, by the text of the path -/

theorem findFrom_succ (w : Workspace) (fuel : Nat) (d : Path) :
    findFrom w (fuel + 1) d =
      if w.pathExists (join d fileName) then some (join d fileName)
      else if w.pathExists (join d ".git") then none
      else (parent? d).bind (findFrom w fuel) := rfl

/-- Every step takes a component from the path, so the search ends before its bound. -/
theorem findFrom_eq_of_le {fuel more : Nat} (h : (components d).length < fuel)
    (hMore : fuel ≤ more) : findFrom w more d = findFrom w fuel d := by
  induction fuel generalizing d more with
  | zero => omega
  | succ fuel ih =>
    obtain ⟨more, rfl⟩ : ∃ n, more = n + 1 := ⟨more - 1, by omega⟩
    rw [findFrom_succ, findFrom_succ]
    congr 2
    cases hParent : parent? d with
    | none => rfl
    | some q =>
      obtain ⟨c, -, hComponents⟩ := Files.Path.components_of_parent? hParent
      rw [hComponents, List.length_append, List.length_singleton] at h
      exact ih (by omega) (by omega)

/-- What is found is a file that exists, joined to a path that the start begins with. -/
theorem exists_of_findFrom {fuel : Nat} (h : findFrom w fuel d = some file) :
    ∃ q, components q <+: components d ∧ file = join q fileName ∧ w.pathExists file = true := by
  induction fuel generalizing d with
  | zero => simp [findFrom] at h
  | succ fuel ih =>
    rw [findFrom_succ] at h
    split_ifs at h with hFile hGit
    · obtain rfl := Option.some.inj h
      exact ⟨d, List.prefix_refl _, rfl, hFile⟩
    · obtain ⟨q, hParent, hRest⟩ := Option.bind_eq_some_iff.mp h
      obtain ⟨c, -, hComponents⟩ := Files.Path.components_of_parent? hParent
      obtain ⟨found, hFound, hJoin, hExists⟩ := ih hRest
      exact ⟨found, hFound.trans ⟨[c], hComponents.symm⟩, hJoin, hExists⟩

/-! ## The search, by location -/

theorem isName_fileName : IsName fileName := by decide

/-- From a path without `..` the search finds what applies, as far out as where the path starts
from. -/
theorem findFrom_applies {fuel : Nat} (hUp : ".." ∉ segments d)
    (hFuel : (components d).length < fuel) (found : List String) :
    (findFrom w fuel d).bind w.locate? = some found ↔
      ∃ dir, found = dir ++ [fileName] ∧ w.start d <+: dir ∧
        Applies w (w.start d ++ names d) dir := by
  induction fuel generalizing d with
  | zero => omega
  | succ fuel ih =>
    rw [findFrom_succ, Workspace.pathExists_join hUp isName_fileName,
      Workspace.pathExists_join hUp (by decide)]
    cases hFile : (w.outermost.at? (w.start d ++ names d ++ [fileName])).isSome with
    | true =>
      simp only [applies_iff_of_file hFile, if_true, Option.bind_some,
        Workspace.locate?_join_eq_some_iff hUp isName_fileName]
      constructor
      · rintro ⟨rfl, -⟩
        exact ⟨_, rfl, List.prefix_append _ _, rfl⟩
      · rintro ⟨_, rfl, -, rfl⟩
        exact ⟨rfl, Option.isSome_iff_exists.mp hFile⟩
    | false =>
      cases hGit : (w.outermost.at? (w.start d ++ names d ++ [".git"])).isSome with
      | true => simp [not_applies_of_git hFile hGit]
      | false =>
        simp only [Bool.false_eq_true, if_false]
        cases hParent : parent? d with
        | none =>
          -- the search is back where the path starts from, and there is no file
          have hNames : names d = [] := by
            rcases Files.Path.components_of_parent?_eq_none hParent with h | h
            all_goals
              rw [names, h]
              rfl
          rw [hNames, List.append_nil] at hFile ⊢
          simp only [Option.bind_none, reduceCtorEq, false_iff]
          rintro ⟨dir, -, hBelow, hApplies⟩
          have hDir := hApplies.around.eq_of_length_le hBelow.length_le
          have hSome := hApplies.hasFile
          rw [hDir, hFile] at hSome
          exact Bool.noConfusion hSome
        | some q =>
          obtain ⟨c, -, hComponents⟩ := Files.Path.components_of_parent? hParent
          have hStart : w.start q = w.start d := by
            rw [Workspace.start, Workspace.start, Files.Path.isAbsolute_of_parent? hParent]
          have hqUp : ".." ∉ segments q := by
            rw [← Files.Path.up_mem_components_iff] at hUp ⊢
            rw [hComponents] at hUp
            exact fun h => hUp (List.mem_append_left _ h)
          have hLength : (components q).length < fuel := by
            rw [hComponents, List.length_append, List.length_singleton] at hFuel
            omega
          rw [Option.bind_some, ih hqUp hLength, hStart]
          -- the place is the same, or one name further out
          rw [Files.Path.names_of_components hComponents] at hFile hGit ⊢
          cases hName : c.name? with
          | none => simp
          | some s =>
            rw [hName, Option.toList_some, ← List.append_assoc] at hFile hGit
            simp only [Option.toList_some, ← List.append_assoc, applies_concat_iff hFile hGit]

/-- The search always ends. What it finds exists, in a directory that the start begins with by its
text. From a path without `..` it is what applies: from an absolute path without exception, and from
a relative one as far as the working directory. -/
theorem find?_applies (w : Workspace) (d : Path) :
    (∀ fuel, d.length + 2 ≤ fuel → findFrom w fuel d = find? w d) ∧
    (∀ file, find? w d = some file →
      ∃ q, components q <+: components d ∧ file = join q fileName ∧ w.pathExists file = true) ∧
    ∀ place, w.locate? d = some place → ".." ∉ segments d →
      w.start d <+: place ∧
      (∀ found, (find? w d).bind w.locate? = some found ↔
        ∃ dir, found = dir ++ [fileName] ∧ w.start d <+: dir ∧ Applies w place dir) ∧
      (find? w d = none ↔ ∀ dir, w.start d <+: dir → ¬ Applies w place dir) := by
  have hFuel : (components d).length < d.length + 2 := by
    have hLength := Files.Path.length_components_le d
    omega
  refine ⟨fun fuel h => findFrom_eq_of_le hFuel h, fun file h => exists_of_findFrom h, ?_⟩
  intro place hPlace hUp
  have hFound := findFrom_applies (w := w) hUp hFuel
  rw [← Workspace.eq_of_locate? hUp hPlace] at hFound
  refine ⟨⟨names d, (Workspace.eq_of_locate? hUp hPlace).symm⟩, hFound, ?_⟩
  constructor
  · intro hNone dir hBelow hApplies
    have hSome := (hFound (dir ++ [fileName])).mpr ⟨dir, rfl, hBelow, hApplies⟩
    rw [← find?, hNone] at hSome
    simp at hSome
  · intro hNone
    cases hFind : find? w d with
    | none => rfl
    | some file =>
      -- what is found exists, so it has a location
      obtain ⟨q, -, -, hExists⟩ := exists_of_findFrom hFind
      obtain ⟨found, hLocate⟩ : ∃ found, w.locate? file = some found := by
        obtain ⟨e, he⟩ := Option.isSome_iff_exists.mp hExists
        obtain ⟨found, hLocate, -⟩ := Option.bind_eq_some_iff.mp he
        exact ⟨found, hLocate⟩
      rw [find?] at hFind
      obtain ⟨dir, -, hBelow, hApplies⟩ :=
        (hFound found).mp (by rw [hFind, Option.bind_some, hLocate])
      exact absurd hApplies (hNone dir hBelow)

/-- A project with a configuration file around it, and one in a directory of its own. -/
def nestedConfigs : Workspace where
  outermost := .directory [(fileName, .file .empty),
    ("project", .directory [("a", .directory [(fileName, .file .empty), ("src", .directory [])]),
      ("b", .directory [(".git", .directory [])])])]
  workingDirectory := ["project"]

/-- The file beyond the working directory applies to it. -/
theorem applies_nestedConfigs : Applies nestedConfigs ["project"] [] := by
  have hApplies : Applies nestedConfigs ([] ++ ["project"]) [] :=
    (applies_concat_iff (by decide) (by decide)).mpr ((applies_iff_of_file (by decide)).mpr rfl)
  exact hApplies

/-- From a relative path the file in `a` is found and the `.git` entry in `b` noticed; from the
absolute path of the working directory, the file beyond it is found. -/
theorem find?_nestedConfigs :
    (find? nestedConfigs "./a//src/").bind nestedConfigs.locate? = some ["project", "a", fileName] ∧
    find? nestedConfigs "b" = none ∧
    Applies nestedConfigs ["project", "a", "src"] ["project", "a"] ∧
    (find? nestedConfigs "/project").bind nestedConfigs.locate? = some [fileName] := by
  have hSource := (find?_applies nestedConfigs "./a//src/").2.2 ["project", "a", "src"] (by decide)
    (by decide)
  have hApplies : Applies nestedConfigs (["project", "a"] ++ ["src"]) ["project", "a"] :=
    (applies_concat_iff (by decide) (by decide)).mpr ((applies_iff_of_file (by decide)).mpr rfl)
  have hGit := (find?_applies nestedConfigs "b").2.2 ["project", "b"] (by decide) (by decide)
  have hAbsolute := (find?_applies nestedConfigs "/project").2.2 ["project"] (by decide) (by decide)
  refine ⟨(hSource.2.1 _).mpr ⟨_, rfl, by decide, hApplies⟩, ?_, hApplies,
    (hAbsolute.2.1 _).mpr ⟨[], rfl, by decide, applies_nestedConfigs⟩⟩
  exact hGit.2.2.mpr fun dir _ => not_applies_of_git (by decide) (by decide)

/-- The search stops at the working directory although a file beyond it applies, and from `a/..`,
which is the working directory, it finds the file in `a`. -/
theorem not_find?_applies :
    nestedConfigs.locate? "." = some ["project"] ∧ nestedConfigs.locate? "a/.." = some ["project"] ∧
    Applies nestedConfigs ["project"] [] ∧ find? nestedConfigs "." = none ∧
    find? nestedConfigs "a/.." = some (join "a" fileName) ∧
    nestedConfigs.locate? (join "a" fileName) = some ["project", "a", fileName] ∧
    ¬ Applies nestedConfigs ["project"] ["project", "a"] := by
  refine ⟨by decide, by decide, applies_nestedConfigs, by decide +kernel, by decide +kernel,
    by decide, fun hApplies => ?_⟩
  exact absurd hApplies.around (by decide)

end MessageLint.Config
