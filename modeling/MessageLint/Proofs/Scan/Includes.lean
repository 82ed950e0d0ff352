import MessageLint.Proofs.Files.Matching
import MessageLint.Proofs.Scan.Listing

/-!
# MessageLint — the directories that a pattern to include stands for

A pattern to include is joined to the base directory, and the whole is expanded. If no character of
the base directory has a meaning in patterns, this finds the directories below it whose names match
(`includeRoots_matching`), be the base directory relative or absolute; but brackets in its name are
read as a class, and then the scan goes elsewhere (`not_includeRoots_matching`).

* `followSegments_steps` — the base directory is reached step by step from where its path starts.
* `expand_join` — so the expansion of the whole is that of the pattern, from there.
-/

namespace MessageLint

namespace Files.Glob

open MessageLint.Files.Path

/-! ## Segments on their own -/

/-- A segment that is a pattern by itself, and leads to entries of a directory or stays there. -/
def descends (s : String) : Bool :=
  s != "" && s != ".." && match ComponentPattern.parse s with
    | .ok (.pattern tokens) => (specials tokens).isEmpty
    | .ok _ => true
    | .error _ => false

/-- Do the names lead along the segments of a pattern? -/
def matchesPath (pattern : Path) (names : List String) : Bool :=
  match (patternSegments pattern).mapM ComponentPattern.parse with
  | .ok components => matchesNames components false names
  | .error _ => false

theorem exists_descends {s : String} (h : descends s = true) (hSlash : '/' ∉ s.toList) :
    ∃ c, ComponentPattern.parse s = .ok c ∧ c.Descends := by
  simp only [descends, Bool.and_eq_true, bne_iff_ne] at h
  cases hParse : ComponentPattern.parse s with
  | error e => simp [hParse] at h
  | ok c =>
    refine ⟨c, rfl, ?_⟩
    cases c with
    | plain name =>
      obtain rfl := ComponentPattern.eq_of_parse_plain hParse
      exact ⟨h.1.1, h.1.2, hSlash⟩
    | recursive => trivial
    | pattern tokens =>
      rw [hParse] at h
      exact List.isEmpty_iff.mp h.2

theorem exists_components {ss : List String} (h : ∀ s ∈ ss, descends s = true)
    (hSlash : ∀ s ∈ ss, '/' ∉ s.toList) :
    ∃ components, ss.mapM ComponentPattern.parse = .ok components ∧
      ∀ c ∈ components, c.Descends := by
  induction ss with
  | nil => exact ⟨[], rfl, by simp⟩
  | cons s ss ih =>
    obtain ⟨c, hc, hFirst⟩ := exists_descends (h s (by simp)) (hSlash s (by simp))
    obtain ⟨components, hComponents, hRest⟩ :=
      ih (fun t ht => h t (by simp [ht])) fun t ht => hSlash t (by simp [ht])
    exact ⟨c :: components, mapM_cons_ok hc hComponents, by simpa using ⟨hFirst, hRest⟩⟩

theorem mapM_literal_append {ss ts : List String} {components : List ComponentPattern}
    (h : ∀ s ∈ ss, IsLiteral s) (hRest : ts.mapM ComponentPattern.parse = .ok components) :
    (ss ++ ts).mapM ComponentPattern.parse = .ok (ss.map .plain ++ components) := by
  induction ss with
  | nil => exact hRest
  | cons s ss ih =>
    exact mapM_cons_ok (ComponentPattern.parse_of_isLiteral (h s (by simp)))
      (ih fun t ht => h t (by simp [ht]))

theorem IsLiteral.of_mem_segments {p : Path} {s : String} (h : IsLiteral p) (hs : s ∈ segments p) :
    IsLiteral s := by
  obtain ⟨cs, hcs, rfl⟩ := List.mem_map.mp hs
  intro c hc
  exact h c (mem_of_mem_segmentChars hcs (by simpa using hc))

end Files.Glob

namespace Scan

open Files (Path Workspace Entry)
open Files.Path
open Files.Glob

/-- A validated entry is a pattern that can be read. -/
theorem exists_parse_of_validate {config : Config} {g : String} (hValid : config.validate = .ok ())
    (hMem : g ∈ config.includes) (hPattern : isPattern g = true) :
    ∃ tokens, Files.Glob.parse g = .ok tokens := by
  have hAll : ∀ {field : String} {entries : List String},
      Config.validatePatterns field entries = .ok () → g ∈ entries →
        ∃ tokens, Files.Glob.parse g = .ok tokens := by
    intro field entries hOk hg
    induction entries with
    | nil => simp at hg
    | cons entry rest ih =>
      rw [Config.validatePatterns] at hOk
      rcases List.mem_cons.mp hg with rfl | hg
      · rw [if_pos hPattern] at hOk
        split at hOk
        · cases hOk
        · rename_i tokens hParse
          exact ⟨tokens, hParse⟩
      · split at hOk
        · split at hOk
          · cases hOk
          · exact ih hOk hg
        · exact ih hOk hg
  obtain ⟨_, -, hIncludes⟩ := exists_of_bind_eq_ok hValid
  exact hAll hIncludes hMem

variable {w : Workspace} {base g : Path} {place location : List String}

theorem directory_of_isDirectory (h : w.locate? base = some place)
    (hDirectory : w.isDirectory base = true) : ∃ es, w.outermost.at? place = some (.directory es) := by
  rw [Workspace.isDirectory, Workspace.entry?_of_locate? h] at hDirectory
  cases hAt : w.outermost.at? place with
  | none => simp [hAt] at hDirectory
  | some e =>
    cases e with
    | file content => simp [hAt, Entry.isDirectory] at hDirectory
    | directory es => exact ⟨es, rfl⟩
    | other => simp [hAt, Entry.isDirectory] at hDirectory

/-- The steps of a path lead from its outset to what it denotes. -/
theorem followSegments_steps (h : w.locate? base = some place) :
    w.locate? (outset base) = some (w.start base) ∧
      w.followSegments (w.start base).reverse (steps base) = some place.reverse := by
  obtain ⟨hEmpty, hWay⟩ := Workspace.followSegments_of_locate? h
  -- the path starts from a directory, and there an empty segment or `.` stays
  have hStart : ∀ s, ¬ Proper s →
      w.followSegment (w.start base).reverse s = some (w.start base).reverse := by
    intro s hIdle
    obtain ⟨first, rest, hSegments⟩ := List.exists_cons_of_ne_nil (segments_ne_nil base)
    rw [hSegments] at hWay
    obtain ⟨next, hFirst, -⟩ := Option.bind_eq_some_iff.mp hWay
    exact (Workspace.followSegment_idle hIdle).mpr ⟨rfl, Workspace.directory_of_followSegment hFirst⟩
  have hFollow : w.followSegments (w.start base).reverse (patternSegments base) =
      some place.reverse := by
    rcases segments_eq_or base with hSegments | hSegments
    · rwa [hSegments] at hWay
    · rw [hSegments, Workspace.followSegments_append] at hWay
      obtain ⟨reached, hReached, hLast⟩ := Option.bind_eq_some_iff.mp hWay
      rw [Workspace.followSegments_one] at hLast
      obtain ⟨hSame, -⟩ := Workspace.followSegment_empty.mp hLast
      rw [hReached, hSame]
  rw [patternSegments_eq_steps] at hFollow
  unfold outset
  cases hAbsolute : isAbsolute base with
  | true =>
    have hRoot : w.start base = w.start "/" := by
      rw [Workspace.start, Workspace.start, hAbsolute]
      rfl
    rw [hAbsolute, if_pos rfl, List.singleton_append, Workspace.followSegments,
      hStart "" (by decide), Option.bind_some] at hFollow
    refine ⟨?_, hFollow⟩
    rw [if_pos rfl, Workspace.locate?_eq (by decide), ← hRoot,
      show segments "/" = ["", ""] by decide, Workspace.followSegments, hStart "" (by decide),
      Option.bind_some, Workspace.followSegments_one, hStart "" (by decide)]
    simp
  | false =>
    have hHere : w.start base = w.start "." := by
      rw [Workspace.start, Workspace.start, hAbsolute]
      rfl
    rw [hAbsolute, if_neg Bool.false_ne_true, List.nil_append] at hFollow
    refine ⟨?_, hFollow⟩
    rw [if_neg Bool.false_ne_true, Workspace.locate?_eq (by decide), ← hHere,
      segments_of_not_mem (by decide), Workspace.followSegments_one, hStart "." (by decide)]
    simp

/-- Below a base directory without metacharacters, a pattern is expanded from there. -/
theorem expand_join (hBase : w.locate? base = some place) (hLiteral : IsLiteral base)
    (hSpelled : isAbsolute base = false →
      ((patternSegments base).dropWhile (· == ".")).head? ≠ some "")
    (hRelative : isAbsolute g = false) {tokens : List Token}
    (hParse : Files.Glob.parse g = .ok tokens) {components : List ComponentPattern}
    (hParts : (patternSegments g).mapM ComponentPattern.parse = .ok components) :
    ∃ reached, w.locate? reached = some place ∧
      expand w (join base g) = .ok (expandFrom w components false reached) := by
  obtain ⟨hEmpty, -⟩ := Workspace.followSegments_of_locate? hBase
  obtain ⟨tokens', hWhole⟩ := exists_parse_join hEmpty hLiteral hRelative hParse
  have hSteps : ∀ s ∈ steps base, s ∈ patternSegments base := fun s hs =>
    mem_patternSegments_of_mem_steps hs
  have hComponents : (steps (join base g)).mapM ComponentPattern.parse =
      .ok ((steps base).map .plain ++ components) := by
    rw [steps_join hRelative]
    exact mapM_literal_append (fun s hs =>
      hLiteral.of_mem_segments (mem_segments_of_mem_patternSegments (hSteps s hs))) hParts
  have hOutset : outset (join base g) = outset base := by
    rw [outset, outset, isAbsolute_join hRelative]
  -- the base directory is found by following its steps
  obtain ⟨hStart, hFollow⟩ := followSegments_steps hBase
  obtain ⟨reached, hReached, hExpand⟩ := expandFrom_literal hStart
    (fun s hs => not_mem_of_mem_patternSegments (hSteps s hs)) hFollow (by
      intro hHere
      have hBaseRelative : isAbsolute base = false := by
        cases hAbsolute : isAbsolute base with
        | false => rfl
        | true => simp [outset, hAbsolute, components_root] at hHere
      rw [steps_of_relative hBaseRelative]
      exact hSpelled hBaseRelative)
  refine ⟨reached, by simpa using hReached, ?_⟩
  rw [expand, hWhole, hComponents, hOutset, ← hExpand]
  rfl

/-- A validated pattern whose segments are patterns themselves and lead only downward stands for the
directories below the base directory that match, provided that the base directory has no
metacharacters and does not begin with `.` and several slashes. -/
theorem includeRoots_matching {config : Config} (hw : w.outermost.Wellformed)
    (hBase : w.locate? base = some place) (hLiteral : IsLiteral base)
    (hSpelled : isAbsolute base = false →
      ((patternSegments base).dropWhile (· == ".")).head? ≠ some "")
    (hValid : config.validate = .ok ()) (hMem : g ∈ config.includes) (hPattern : isPattern g = true)
    (hRelative : isAbsolute g = false) (hDescends : ∀ s ∈ patternSegments g, descends s = true) :
    (includeRoots w base g).2 = [] ∧
    (∀ root ∈ (includeRoots w base g).1, ∃ names, w.locate? root = some (place ++ names)) ∧
    ∀ location, (∃ root ∈ (includeRoots w base g).1, w.locate? root = some location) ↔
      ∃ names es, location = place ++ names ∧ matchesPath g names = true ∧
        w.outermost.at? location = some (.directory es) := by
  obtain ⟨tokens, hParse⟩ := exists_parse_of_validate hValid hMem hPattern
  obtain ⟨components, hParts, hDown⟩ :=
    exists_components hDescends fun s hs => not_mem_of_mem_patternSegments hs
  obtain ⟨reached, hReached, hExpand⟩ :=
    expand_join hBase hLiteral hSpelled hRelative hParse hParts
  have hMatches : ∀ names, matchesPath g names = matchesNames components false names := by
    intro names
    rw [matchesPath, hParts]
  have hRoots : includeRoots w base g =
      ((expandFrom w components false reached).filter w.isDirectory, []) := by
    rw [includeRoots, if_pos hPattern, hExpand]
  have hIff : ∀ location, (∃ root ∈ (includeRoots w base g).1, w.locate? root = some location) ↔
      ∃ names es, location = place ++ names ∧ matchesPath g names = true ∧
        w.outermost.at? location = some (.directory es) := by
    intro location
    simp only [hRoots, List.mem_filter, hMatches]
    constructor
    · rintro ⟨root, ⟨hRoot, hDirectory⟩, hLocate⟩
      obtain ⟨es, hes⟩ := directory_of_isDirectory hLocate hDirectory
      obtain ⟨names, hNames, hMatch⟩ :=
        (findsByName hw hDown hes hReached).mp ⟨root, hRoot, hLocate⟩
      exact ⟨names, es, hNames, hMatch, hes⟩
    · rintro ⟨names, es, hNames, hMatch, hes⟩
      obtain ⟨root, hRoot, hLocate⟩ :=
        (findsByName hw hDown hes hReached).mpr ⟨names, hNames, hMatch⟩
      refine ⟨root, ⟨hRoot, ?_⟩, hLocate⟩
      rw [Workspace.isDirectory, Workspace.entry?_of_locate? hLocate, hes]
      rfl
  refine ⟨by rw [hRoots], fun root hRoot => ?_, hIff⟩
  -- a root is a directory, so it has a location
  have hDirectory : w.isDirectory root = true := by
    rw [hRoots] at hRoot
    exact (List.mem_filter.mp hRoot).2
  cases hLocate : w.locate? root with
  | none => simp [Workspace.isDirectory, Workspace.entry?, hLocate] at hDirectory
  | some location =>
    obtain ⟨names, -, rfl, -⟩ := (hIff location).mp ⟨root, hRoot, hLocate⟩
    exact ⟨names, rfl⟩

/-- Pages of an application, in a directory for each language and in one that is named like its
parameter. -/
def localeApp : Workspace :=
  ⟨.directory [("app", .directory [
    ("[locale]", .directory [("src", .directory [("a.tsx", .file .empty)])]),
    ("l", .directory [("src", .directory [("b.tsx", .file .empty)]),
      ("readme", .file .empty)])])], []⟩

/-- A pattern finds `src` below `app/l` and not elsewhere, however the base directory is written; a
`.` after `**` is no name, so nothing matches it. -/
theorem localeApp_roots :
    (∃ root ∈ (includeRoots localeApp "./app/l" "**/s?[a-c]").1,
      localeApp.locate? root = some ["app", "l", "src"]) ∧
    (¬ ∃ root ∈ (includeRoots localeApp "./app/l" "**/s?[a-c]").1,
      localeApp.locate? root = some ["app", "[locale]", "src"]) ∧
    (∃ root ∈ (includeRoots localeApp "/app/l" "**/s?[a-c]").1,
      localeApp.locate? root = some ["app", "l", "src"]) ∧
    ¬ ∃ root ∈ (includeRoots localeApp "/app/l" "**/./src").1,
      localeApp.locate? root = some ["app", "l", "src"] := by
  have hRelative : localeApp.locate? "./app/l" = some ["app", "l"] := by decide
  have hAbsolute : localeApp.locate? "/app/l" = some ["app", "l"] := by decide
  have hValid : Config.validate { includes := ["**/s?[a-c]", "**/./src"], ignores := [] } =
      .ok () := by
    decide +kernel
  have hMem : ∀ g ∈ ["**/s?[a-c]", "**/./src"],
      g ∈ ({ includes := ["**/s?[a-c]", "**/./src"], ignores := [] } : Config).includes :=
    fun _ => id
  have hRoots := (includeRoots_matching (by decide) hRelative (by decide) (fun _ => by decide)
    hValid (hMem "**/s?[a-c]" (by decide)) (by decide) (by decide) (by decide +kernel)).2.2
  have hSame := (includeRoots_matching (by decide) hAbsolute (by decide) (by decide) hValid
    (hMem "**/s?[a-c]" (by decide)) (by decide) (by decide) (by decide +kernel)).2.2
  have hNone := (includeRoots_matching (by decide) hAbsolute (by decide) (by decide) hValid
    (hMem "**/./src" (by decide)) (by decide) (by decide) (by decide +kernel)).2.2
  rw [hRoots, hRoots, hSame, hNone]
  refine ⟨⟨["src"], _, rfl, by decide +kernel, rfl⟩, ?_,
    ⟨["src"], _, rfl, by decide +kernel, rfl⟩, ?_⟩
  · rintro ⟨names, es, hNames, -⟩
    simp at hNames
  · rintro ⟨names, es, hNames, hMatch, -⟩
    obtain rfl : ["src"] = names := by simpa using hNames
    exact absurd hMatch (by decide +kernel)

/-- The pattern matches `src` below `app/[locale]`, but the brackets are read as a class. -/
theorem not_includeRoots_matching :
    Config.validate { includes := ["s*"] } = .ok () ∧ isAbsolute "s*" = false ∧
    localeApp.locate? "app/[locale]" = some ["app", "[locale]"] ∧
    localeApp.isDirectory "app/[locale]/src" = true ∧ matchesPath "s*" ["src"] = true ∧
    includeRoots localeApp "app/[locale]" "s*" = (["app/l/src"], []) := by
  decide +kernel

end Scan

end MessageLint
