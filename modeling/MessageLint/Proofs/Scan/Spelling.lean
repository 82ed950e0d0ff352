import MessageLint.Proofs.Files.Expand
import MessageLint.Proofs.Scan.Listing

/-!
# MessageLint — scans and the spelling of paths

A scan tells paths apart by their text: files that it has listed already, and directories that it is
to leave out. Two texts can lead to the same location, `./src` and `src` for instance, and the roots of
a scan come from three sources that spell the same directory in their own ways. So both questions
have an answer by location only where the roots are spelled alike.

* `spelledAlike_of_plainlySpelled` — includes that are written without `.` and repeated slashes, and
  that are all literal, or all patterns, or stand below a plain base directory.
* `lists_locations_once` — then no location is listed twice; `location_listed_twice` is a scan where
  a name and a pattern spell one directory in two ways.
* `ignored_locations_left_out` — a file at an ignored location is listed only under a path that begins
  with `.` where the ignored path does not, or the other way round; `ignored_location_listed` is a
  scan that does so.
-/

namespace MessageLint.Scan

open Files (Path Workspace Entry)
open Files.Path
open Files.Glob (isPattern patternSegments steps MovesOn)

variable {w : Workspace} {base p q root : Path} {o : Options} {entry : String}

/-! ## The spelling of roots -/

/-- All relative roots begin with the same segments, and go on without idle ones; and so do all
absolute roots. -/
def SpelledAlike (w : Workspace) (base : Path) (o : Options) : Prop :=
  ∀ absolute : Bool, ∃ start, ∀ root, IsRoot w base o root → isAbsolute root = absolute →
    ∃ rest, steps root = start ++ rest ∧ ∀ s ∈ rest, Proper s

/-- The entries to include are written without `.` and repeated slashes. Those that are literal do not
meet patterns unless the base directory is written so, too, and are not absolute below an absolute
base directory unless that is. -/
structure PlainlySpelled (base : Path) (o : Options) : Prop where
  literals : ∀ entry ∈ o.includes, isPattern entry = false → Plain entry
  patterns : ∀ entry ∈ o.includes, isPattern entry = true → MovesOn (join base entry)
  kinds : (∀ entry ∈ o.includes, isPattern entry = false) ∨
    (∀ entry ∈ o.includes, isPattern entry = true) ∨ Plain base
  absolutes : isAbsolute base = true →
    (∀ entry ∈ o.includes, isPattern entry = false → isAbsolute entry = false) ∨ Plain base

theorem exists_proper_of_pattern (h : isPattern entry = true) :
    ∃ s ∈ patternSegments (join base entry), s ≠ "." := by
  obtain ⟨s, hs, hHere⟩ := exists_proper_of_isPattern h
  refine ⟨s, ?_, hHere⟩
  cases hAbsolute : isAbsolute entry with
  | true => rwa [join_of_isAbsolute hAbsolute]
  | false =>
    rw [patternSegments_join hAbsolute]
    exact List.mem_append_right _ hs

/-- The roots that a pattern stands for are plain, if its segments move on. -/
theorem plain_of_pattern_root (hw : w.outermost.Wellformed) (hPattern : isPattern entry = true)
    (hMoves : MovesOn (join base entry)) {paths : List Path}
    (hExpand : Files.Glob.expand w (join base entry) = .ok paths) (hRoot : root ∈ paths) :
    root ≠ "" ∧ Plain root :=
  Files.Glob.plain_of_expand hw hExpand hMoves (exists_proper_of_pattern hPattern) hRoot

/-- A literal entry below a plain base directory is plain as a whole. -/
theorem plain_join (hBase : Plain base) (hEntry : Plain entry) : Plain (join base entry) := by
  cases hAbsolute : isAbsolute entry with
  | true => rwa [join_of_isAbsolute hAbsolute]
  | false =>
    intro s hs
    rw [steps_join hAbsolute, ← steps_of_relative hAbsolute] at hs
    rcases List.mem_append.mp hs with hs | hs
    · exact hBase s hs
    · exact hEntry s hs

theorem spelledAlike_of_plainlySpelled (hw : w.outermost.Wellformed) (h : PlainlySpelled base o) :
    SpelledAlike w base o := by
  intro absolute
  by_cases hPlain : Plain base
  · -- every root is plain as a whole
    refine ⟨[], fun root hRoot _ => ⟨steps root, rfl, ?_⟩⟩
    rcases hRoot with ⟨-, rfl⟩ | ⟨entry, hMem, hLiteral, rfl, -⟩ |
        ⟨entry, hMem, hPattern, paths, hExpand, hRoot, -⟩
    · exact hPlain
    · exact plain_join hPlain (h.literals entry hMem hLiteral)
    · exact (plain_of_pattern_root hw hPattern (h.patterns entry hMem hPattern) hExpand hRoot).2
  by_cases hLiterals : ∀ entry ∈ o.includes, isPattern entry = false
  · -- every root is the base directory with a plain path after it, or an absolute entry
    refine ⟨if absolute = isAbsolute base then steps base else [], fun root hRoot hClass => ?_⟩
    rcases hRoot with ⟨-, rfl⟩ | ⟨entry, hMem, hLiteral, rfl, -⟩ | ⟨entry, hMem, hPattern, -⟩
    · exact ⟨[], by rw [if_pos hClass.symm, List.append_nil], by simp⟩
    · have hEntry := h.literals entry hMem hLiteral
      refine ⟨steps entry, ?_, hEntry⟩
      cases hAbsolute : isAbsolute entry with
      | false =>
        rw [isAbsolute_join hAbsolute] at hClass
        rw [if_pos hClass.symm, steps_join hAbsolute, steps_of_relative hAbsolute]
      | true =>
        rw [join_of_isAbsolute hAbsolute] at hClass ⊢
        have hOther : absolute ≠ isAbsolute base := by
          rintro rfl
          rw [hAbsolute] at hClass
          rw [(h.absolutes hClass.symm).resolve_right hPlain entry hMem hLiteral] at hAbsolute
          cases hAbsolute
        rw [if_neg hOther, List.nil_append]
    · rw [hLiterals entry hMem] at hPattern
      cases hPattern
  · -- every root comes from a pattern
    have hPatterns := (h.kinds.resolve_left hLiterals).resolve_right hPlain
    refine ⟨[], fun root hRoot _ => ⟨steps root, rfl, ?_⟩⟩
    rcases hRoot with ⟨hNone, rfl⟩ | ⟨entry, hMem, hLiteral, -⟩ |
        ⟨entry, hMem, hPattern, paths, hExpand, hRoot, -⟩
    · exact absurd (by simp [hNone]) hLiterals
    · rw [hPatterns entry hMem] at hLiteral
      cases hLiteral
    · exact (plain_of_pattern_root hw hPattern (h.patterns entry hMem hPattern) hExpand hRoot).2

/-! ## Each location once -/

/-- The segments of a listed path are those of its root and the names on the way. -/
theorem segments_of_listed {names : List String} {content : ByteArray}
    (hNames : ∀ n ∈ names, IsName n) (hp : p = spell root names)
    (hDenoted : w.entry? p = some (.file content)) : segments p = patternSegments root ++ names := by
  rw [Files.Workspace.segments_of_file hDenoted, hp, patternSegments_spell hNames]

theorem eq_of_location_eq (hw : w.outermost.Wellformed) (hAlike : SpelledAlike w base o)
    (hp : p ∈ (scan w base o).files) (hq : q ∈ (scan w base o).files)
    (h : location p = location q) : p = q := by
  -- paths to the same location are both absolute, or both relative
  have hSame : isAbsolute q = isAbsolute p := by
    rw [Bool.eq_iff_iff, ← root_mem_location_iff, ← root_mem_location_iff, h]
  obtain ⟨start, hStart⟩ := hAlike (isAbsolute p)
  -- a listed path consists of common segments and others that lead somewhere
  obtain ⟨lead, hSplit⟩ : ∃ lead, ∀ r ∈ (scan w base o).files, isAbsolute r = isAbsolute p →
      ∃ rest, segments r = lead ++ rest ∧ ∀ s ∈ rest, Proper s := by
    refine ⟨(if isAbsolute p then [""] else []) ++ start, fun r hr hClass => ?_⟩
    obtain ⟨root, names, content, hRoot, -, hNames, hSpelled, hDenoted, -⟩ :=
      exists_root_of_mem_files hw hr
    rw [hSpelled, isAbsolute_spell hNames] at hClass
    obtain ⟨rest, hRest, hProper⟩ := hStart root hRoot hClass
    refine ⟨rest ++ names, ?_, ?_⟩
    · rw [segments_of_listed hNames hSpelled hDenoted, patternSegments_eq_steps, hClass, hRest]
      simp only [List.append_assoc]
    · intro s hs
      rcases List.mem_append.mp hs with hs | hs
      · exact hProper s hs
      · exact (hNames s hs).proper
  obtain ⟨restP, hSegmentsP, hProperP⟩ := hSplit p hp rfl
  obtain ⟨restQ, hSegmentsQ, hProperQ⟩ := hSplit q hq hSame
  rw [location_eq, location_eq, hSame, List.append_cancel_left_eq, hSegmentsP, hSegmentsQ,
    List.filterMap_append, List.filterMap_append, List.append_cancel_left_eq] at h
  apply segments_injective
  rw [hSegmentsP, hSegmentsQ, eq_of_filterMap_ofSegment? hProperP hProperQ h]

/-- Paths are listed in order, each once. If the roots are spelled alike, so is each location, and the
roots are spelled alike if the entries to include are written plainly. -/
theorem lists_locations_once (hw : w.outermost.Wellformed) :
    (scan w base o).files.Pairwise (· < ·) ∧
    (SpelledAlike w base o → ∀ p ∈ (scan w base o).files, ∀ q ∈ (scan w base o).files,
      location p = location q → p = q) ∧
    (PlainlySpelled base o → SpelledAlike w base o) :=
  ⟨sortPaths_ascending _, fun hAlike _ hp _ hq h => eq_of_location_eq hw hAlike hp hq h,
    spelledAlike_of_plainlySpelled hw⟩

/-- A name and a pattern lead to the same directory, and spell it alike; below an absolute base
directory, an absolute path does so, too. -/
theorem named_and_matched_listed_once :
    "src/gen/b.ts" ∈ (scan generatedSources "src" { includes := ["gen", "g*"] }).files ∧
    (∀ p ∈ (scan generatedSources "src" { includes := ["gen", "g*"] }).files,
      ∀ q ∈ (scan generatedSources "src" { includes := ["gen", "g*"] }).files,
        location p = location q → p = q) ∧
    "/src/gen/b.ts" ∈ (scan generatedSources "/src" { includes := ["/src/gen", "g*"] }).files ∧
    ∀ p ∈ (scan generatedSources "/src" { includes := ["/src/gen", "g*"] }).files,
      ∀ q ∈ (scan generatedSources "/src" { includes := ["/src/gen", "g*"] }).files,
        location p = location q → p = q := by
  have hPlain : PlainlySpelled "src" { includes := ["gen", "g*"] } :=
    ⟨by decide, by decide +kernel, .inr (.inr (by decide)), by decide⟩
  have hAbsolute : PlainlySpelled "/src" { includes := ["/src/gen", "g*"] } :=
    ⟨by decide, by decide +kernel, .inr (.inr (by decide)), fun _ => .inr (by decide)⟩
  obtain ⟨-, hOnce, hAlike⟩ := @lists_locations_once _ _ _ wellformed_generatedSources
  obtain ⟨-, hOnce', hAlike'⟩ := @lists_locations_once _ _ _ wellformed_generatedSources
  exact ⟨mem_files_iff_mem_found.mpr (by decide +kernel), hOnce (hAlike hPlain),
    mem_files_iff_mem_found.mpr (by decide +kernel), hOnce' (hAlike' hAbsolute)⟩

/-- Below `.` a name leads to `./src`, and a pattern to `src`. -/
theorem location_listed_twice :
    (∀ entry ∈ ["src", "s*"], ".." ∉ segments entry) ∧
    ¬ ∀ p ∈ (scan generatedSources "." { includes := ["src", "s*"] }).files,
      ∀ q ∈ (scan generatedSources "." { includes := ["src", "s*"] }).files,
        location p = location q → p = q := by
  refine ⟨by decide, fun hOnce => ?_⟩
  have hNamed : "./src/a.tsx" ∈
      (scan generatedSources "." { includes := ["src", "s*"] }).files :=
    mem_files_iff_mem_found.mpr (by decide +kernel)
  have hMatched : "src/a.tsx" ∈
      (scan generatedSources "." { includes := ["src", "s*"] }).files :=
    mem_files_iff_mem_found.mpr (by decide +kernel)
  exact absurd (hOnce _ hNamed _ hMatched (by decide +kernel)) (by decide)

/-! ## Ignored locations -/

/-- Entries to include are absolute only below an absolute base directory, and none of them is a
pattern, or else the base directory does not begin with `.` and the patterns move on below it. -/
def BeginsLikeBase (base : Path) (o : Options) : Prop :=
  (∀ entry ∈ o.includes, isAbsolute entry = true → isAbsolute base = true) ∧
    ((∀ entry ∈ o.includes, isPattern entry = false) ∨ leadsHere base = false ∧
      ∀ entry ∈ o.includes, isPattern entry = true → MovesOn (join base entry))

theorem leadsHere_of_isRoot (hw : w.outermost.Wellformed) (hBase : base ≠ "")
    (h : BeginsLikeBase base o) (hRoot : IsRoot w base o root) :
    leadsHere root = leadsHere base := by
  rcases hRoot with ⟨-, rfl⟩ | ⟨entry, hMem, -, rfl, -⟩ |
      ⟨entry, hMem, hPattern, paths, hExpand, hFound, -⟩
  · rfl
  · cases hAbsolute : isAbsolute entry with
    | false => exact leadsHere_join hBase hAbsolute
    | true =>
      rw [join_of_isAbsolute hAbsolute, leadsHere_of_isAbsolute hAbsolute,
        leadsHere_of_isAbsolute (h.1 entry hMem hAbsolute)]
  · rcases h.2 with hLiteral | ⟨hHere, hMoves⟩
    · rw [hLiteral entry hMem] at hPattern
      cases hPattern
    · obtain ⟨hEmpty, hPlain⟩ :=
        plain_of_pattern_root hw hPattern (hMoves entry hMem hPattern) hExpand hFound
      rw [leadsHere_of_plain hEmpty hPlain, hHere]

/-- A listed path at or below an ignored location was not recognised as such: it begins with `.` where
the ignored path does not, or the other way round. -/
theorem leadsHere_ne_of_listed (hw : w.outermost.Wellformed) (hEntry : entry ∈ o.ignores)
    (hLiteral : isPattern entry = false) (hp : p ∈ (scan w base o).files)
    (h : location (join base entry) <+: location p) : leadsHere p ≠ leadsHere (join base entry) := by
  obtain ⟨_, _, _, -, -, -, -, -, hIgnored⟩ := exists_root_of_mem_files hw hp
  intro hHere
  have hMem : join base entry ∈ (IgnoreSet.ofOptions base o).paths :=
    List.mem_map.mpr ⟨entry, List.mem_filter.mpr ⟨hEntry, by simp [hLiteral]⟩, rfl⟩
  rw [IgnoreSet.ignores, Bool.or_eq_false_iff, List.any_eq_false] at hIgnored
  exact hIgnored.1 _ hMem (startsWith_of_location hHere h)

/-- Nothing is listed at or below the location of a literal entry to ignore, except under a path that
differs from the ignored one in whether it begins with `.`. Where the roots begin like the base
directory, there is no such path. -/
theorem ignored_locations_left_out (hw : w.outermost.Wellformed) (hEntry : entry ∈ o.ignores)
    (hLiteral : isPattern entry = false) :
    (∀ p ∈ (scan w base o).files, location (join base entry) <+: location p →
      leadsHere p ≠ leadsHere (join base entry)) ∧
    (base ≠ "" → BeginsLikeBase base o →
      ∀ p ∈ (scan w base o).files, ¬ location (join base entry) <+: location p) := by
  refine ⟨fun p hp => leadsHere_ne_of_listed hw hEntry hLiteral hp, ?_⟩
  intro hBase hSpelled p hp hBelow
  refine leadsHere_ne_of_listed hw hEntry hLiteral hp hBelow ?_
  cases hAbsolute : isAbsolute entry with
  | false =>
    obtain ⟨root, names, content, hRoot, hEmpty, hNames, rfl, -⟩ := exists_root_of_mem_files hw hp
    rw [leadsHere_spell hEmpty hNames, leadsHere_of_isRoot hw hBase hSpelled hRoot,
      leadsHere_join hBase hAbsolute]
  | true =>
    -- below an absolute path there are only absolute ones, and none of them begins with `.`
    rw [join_of_isAbsolute hAbsolute] at hBelow ⊢
    have hRoot : .root ∈ location p := hBelow.subset (root_mem_location_iff.mpr hAbsolute)
    rw [leadsHere_of_isAbsolute (root_mem_location_iff.mp hRoot), leadsHere_of_isAbsolute hAbsolute]

/-- Nothing that is generated is listed, neither with a name to include nor, below an absolute base
directory, with a pattern. -/
theorem generated_location_left_out :
    "./src/a.tsx" ∈ (scan generatedSources "." { includes := ["src"], ignores := ["src/gen"] }).files ∧
    (∀ p ∈ (scan generatedSources "." { includes := ["src"], ignores := ["src/gen"] }).files,
      ¬ location (join "." "src/gen") <+: location p) ∧
    "/src/a.tsx" ∈ (scan generatedSources "/" { includes := ["s*"], ignores := ["src/gen"] }).files ∧
    ∀ p ∈ (scan generatedSources "/" { includes := ["s*"], ignores := ["src/gen"] }).files,
      ¬ location (join "/" "src/gen") <+: location p := by
  have hIgnored : ∀ includes, "src/gen" ∈ ({ includes, ignores := ["src/gen"] } : Options).ignores :=
    fun _ => List.mem_singleton_self _
  have hNamed : BeginsLikeBase "." { includes := ["src"], ignores := ["src/gen"] } :=
    ⟨by decide, .inl (by decide)⟩
  have hMatched : BeginsLikeBase "/" { includes := ["s*"], ignores := ["src/gen"] } :=
    ⟨by decide, .inr ⟨by decide, by decide +kernel⟩⟩
  refine ⟨mem_files_iff_mem_found.mpr (by decide +kernel), ?_,
    mem_files_iff_mem_found.mpr (by decide +kernel), ?_⟩
  · exact (ignored_locations_left_out wellformed_generatedSources (hIgnored _) (by decide)).2
      (by decide) hNamed
  · exact (ignored_locations_left_out wellformed_generatedSources (hIgnored _) (by decide)).2
      (by decide) hMatched

/-- A pattern leads to `src`, and what lies there does not begin with the ignored `./src/gen`. -/
theorem ignored_location_listed :
    ".." ∉ segments "src/gen" ∧ isPattern "src/gen" = false ∧
    ¬ ∀ p ∈ (scan generatedSources "." { includes := ["s*"], ignores := ["src/gen"] }).files,
      ¬ location (join "." "src/gen") <+: location p := by
  refine ⟨by decide, by decide, fun hLeftOut => ?_⟩
  have hListed : "src/gen/b.ts" ∈
      (scan generatedSources "." { includes := ["s*"], ignores := ["src/gen"] }).files :=
    mem_files_iff_mem_found.mpr (by decide +kernel)
  exact hLeftOut _ hListed (by decide +kernel)

end MessageLint.Scan
