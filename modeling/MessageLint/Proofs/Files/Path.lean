import Mathlib.Data.List.Infix
import MessageLint.Files.Expand

/-!
# MessageLint — segments and locations of paths

A path is a text, but what is asked of it are questions about the segments between its slashes. Here
joining paths becomes appending segments, and comparing paths by components becomes a question about
where they lead.

* `segments_injective` — a path is known by its segments.
* `segments_join`, `patternSegments_join` — joining puts the segments one after the other.
* `patternSegments_spell` — the path of something below a root, by the names on the way.
* `startsWith_of_location` — one path begins with another if it leads to the same location or below
  it, and both or neither begin with `.`.
-/

namespace MessageLint.Files.Path

open Glob (patternSegments steps)

/-! ## Splitting at slashes -/

theorem segmentChars_ne_nil (cs : List Char) : segmentChars cs ≠ [] := by
  cases cs with
  | nil => simp [segmentChars]
  | cons c rest =>
    rw [segmentChars]
    split
    · simp
    · split <;> simp

theorem segmentChars_append (cs ds : List Char) :
    segmentChars (cs ++ '/' :: ds) = segmentChars cs ++ segmentChars ds := by
  induction cs with
  | nil => simp [segmentChars]
  | cons c rest ih =>
    by_cases hSlash : (c == '/') = true
    · simp [segmentChars, hSlash, ih]
    · obtain ⟨segment, segments, h⟩ := List.exists_cons_of_ne_nil (segmentChars_ne_nil rest)
      simp [segmentChars, hSlash, ih, h]

theorem segmentChars_of_not_mem {cs : List Char} (h : '/' ∉ cs) : segmentChars cs = [cs] := by
  induction cs with
  | nil => rfl
  | cons c rest ih =>
    rw [List.mem_cons, not_or] at h
    simp [segmentChars, ih h.2, Ne.symm h.1]

theorem not_mem_of_mem_segmentChars {cs segment : List Char} (h : segment ∈ segmentChars cs) :
    '/' ∉ segment := by
  induction cs generalizing segment with
  | nil => simp_all [segmentChars]
  | cons c rest ih =>
    by_cases hSlash : c = '/'
    · simp only [segmentChars, hSlash, beq_self_eq_true, if_true, List.mem_cons] at h
      rcases h with rfl | h
      · simp
      · exact ih h
    · obtain ⟨first, others, hRest⟩ := List.exists_cons_of_ne_nil (segmentChars_ne_nil rest)
      simp only [segmentChars, beq_iff_eq, hSlash, if_false, hRest, List.mem_cons] at h
      rcases h with rfl | h
      · have hFirst : '/' ∉ first := ih (by simp [hRest])
        simp [hFirst, Ne.symm hSlash]
      · exact ih (by simp [hRest, h])

theorem mem_of_mem_segmentChars {cs segment : List Char} {c : Char} (h : segment ∈ segmentChars cs)
    (hc : c ∈ segment) : c ∈ cs := by
  induction cs generalizing segment with
  | nil => simp_all [segmentChars]
  | cons d rest ih =>
    obtain ⟨first, others, hRest⟩ := List.exists_cons_of_ne_nil (segmentChars_ne_nil rest)
    rw [hRest] at ih
    by_cases hSlash : d = '/'
    · simp only [segmentChars, hSlash, beq_self_eq_true, if_true, hRest, List.mem_cons] at h
      rcases h with rfl | h
      · simp at hc
      · exact List.mem_cons_of_mem _ (ih (List.mem_cons.mpr h) hc)
    · simp only [segmentChars, beq_iff_eq, hSlash, if_false, hRest, List.mem_cons] at h
      rcases h with rfl | h
      · rcases List.mem_cons.mp hc with rfl | hc
        · simp
        · exact List.mem_cons_of_mem _ (ih (by simp) hc)
      · exact List.mem_cons_of_mem _ (ih (by simp [h]) hc)

theorem exists_mem_segmentChars {cs : List Char} {c : Char} (h : c ∈ cs) (hc : c ≠ '/') :
    ∃ segment ∈ segmentChars cs, c ∈ segment := by
  induction cs with
  | nil => simp at h
  | cons d rest ih =>
    obtain ⟨first, others, hRest⟩ := List.exists_cons_of_ne_nil (segmentChars_ne_nil rest)
    by_cases hSlash : d = '/'
    · have hMem : c ∈ rest := by simpa [hSlash, hc] using h
      obtain ⟨segment, hSegment, hIn⟩ := ih hMem
      exact ⟨segment, by simp [segmentChars, hSlash, hSegment], hIn⟩
    · rw [hRest] at ih
      simp only [segmentChars, beq_iff_eq, hSlash, if_false, hRest]
      rcases List.mem_cons.mp h with rfl | hMem
      · exact ⟨c :: first, by simp, by simp⟩
      · obtain ⟨segment, hSegment, hIn⟩ := ih hMem
        rcases List.mem_cons.mp hSegment with rfl | hSegment
        · exact ⟨d :: segment, by simp, by simp [hIn]⟩
        · exact ⟨segment, by simp [hSegment], hIn⟩

/-- The last segment is empty only if there is nothing at all, or a slash at the end. -/
theorem eq_nil_or_slash_of_getLast? {cs : List Char} (h : (segmentChars cs).getLast? = some []) :
    cs = [] ∨ cs.getLast? = some '/' := by
  by_cases hMem : '/' ∈ cs
  · -- split at the last slash: the last segment is what follows it
    obtain ⟨after, before, hReverse, hAfter⟩ :=
      List.eq_append_cons_of_mem (List.mem_reverse.mpr hMem)
    have hSplit : cs = before.reverse ++ '/' :: after.reverse := by
      rw [← List.reverse_reverse cs, hReverse]
      simp
    have hLast : segmentChars after.reverse = [after.reverse] :=
      segmentChars_of_not_mem (by simpa using hAfter)
    rw [hSplit, segmentChars_append, hLast] at h
    have hEmpty : after = [] := by simpa using h
    exact .inr (by simp [hSplit, hEmpty])
  · rw [segmentChars_of_not_mem hMem] at h
    exact .inl (by simpa using h)

/-! ## Segments of a path -/

theorem segments_ne_nil (p : Path) : segments p ≠ [] := by
  simpa [segments] using segmentChars_ne_nil p.toList

theorem segments_of_not_mem {s : String} (h : '/' ∉ s.toList) : segments s = [s] := by
  simp [segments, segmentChars_of_not_mem h]

theorem not_mem_of_mem_segments {p : Path} {s : String} (h : s ∈ segments p) : '/' ∉ s.toList := by
  obtain ⟨cs, hMem, rfl⟩ := List.mem_map.mp h
  simpa using not_mem_of_mem_segmentChars hMem

theorem ofSegments_cons {s : String} {rest : List String} (h : rest ≠ []) :
    ofSegments (s :: rest) = s ++ "/" ++ ofSegments rest := by
  obtain ⟨next, others, rfl⟩ := List.exists_cons_of_ne_nil h
  rfl

theorem ofSegments_segmentChars (cs : List Char) :
    ofSegments ((segmentChars cs).map String.ofList) = String.ofList cs := by
  induction cs with
  | nil => rfl
  | cons c rest ih =>
    obtain ⟨first, others, hRest⟩ := List.exists_cons_of_ne_nil (segmentChars_ne_nil rest)
    replace ih := congrArg String.toList ih
    rw [hRest, List.map_cons] at ih
    apply String.toList_inj.mp
    by_cases hSlash : c = '/'
    · simp [segmentChars, hSlash, hRest, ofSegments_cons, String.toList_append, ih]
    · cases others with
      | nil => simpa [segmentChars, hSlash, hRest, ofSegments] using ih
      | cons next others =>
        simpa [segmentChars, hSlash, hRest, ofSegments_cons, String.toList_append] using ih

theorem ofSegments_segments (p : Path) : ofSegments (segments p) = p := by
  rw [segments, ofSegments_segmentChars, String.ofList_toList]

theorem segments_injective {p q : Path} (h : segments p = segments q) : p = q := by
  rw [← ofSegments_segments p, h, ofSegments_segments]

/-! ## Segments less the empty one after a slash at the end -/

theorem patternSegments_of_append {p : Path} {ss : List String} (h : segments p = ss ++ [""]) :
    patternSegments p = ss := by
  simp [patternSegments, h]

theorem patternSegments_of_getLast? {p : Path} (h : (segments p).getLast? ≠ some "") :
    patternSegments p = segments p := by
  unfold patternSegments
  split
  · rename_i rest hReverse
    rw [List.getLast?_eq_head?_reverse, hReverse] at h
    simp at h
  · rfl

theorem segments_eq_or (p : Path) :
    segments p = patternSegments p ∨ segments p = patternSegments p ++ [""] := by
  by_cases h : (segments p).getLast? = some ""
  · obtain ⟨ss, hs⟩ := List.getLast?_eq_some_iff.mp h
    exact .inr (by rw [patternSegments_of_append hs, hs])
  · exact .inl (patternSegments_of_getLast? h).symm

theorem mem_segments_of_mem_patternSegments {p : Path} {s : String} (h : s ∈ patternSegments p) :
    s ∈ segments p := by
  rcases segments_eq_or p with hp | hp
  · rwa [hp]
  · rw [hp]
    exact List.mem_append_left _ h

theorem not_mem_of_mem_patternSegments {p : Path} {s : String} (h : s ∈ patternSegments p) :
    '/' ∉ s.toList :=
  not_mem_of_mem_segments (mem_segments_of_mem_patternSegments h)

/-- A pattern has a segment with a wildcard in it. -/
theorem exists_proper_of_isPattern {p : Path} (h : Glob.isPattern p = true) :
    ∃ s ∈ patternSegments p, s ≠ "." := by
  obtain ⟨c, hc, hWild⟩ := List.any_eq_true.mp h
  have hSlash : c ≠ '/' := by
    rintro rfl
    simp at hWild
  obtain ⟨segment, hSegment, hIn⟩ := exists_mem_segmentChars hc hSlash
  have hMem : String.ofList segment ∈ segments p := List.mem_map.mpr ⟨segment, hSegment, rfl⟩
  refine ⟨String.ofList segment, ?_, ?_⟩
  · rcases segments_eq_or p with hp | hp
    · rwa [← hp]
    · rw [hp, List.mem_append, List.mem_singleton] at hMem
      refine hMem.resolve_right fun hEmpty => ?_
      have hNil : segment = [] := by simpa using congrArg String.toList hEmpty
      simp [hNil] at hIn
  · intro hHere
    have hDot : segment = ['.'] := by simpa using congrArg String.toList hHere
    obtain rfl : c = '.' := by simpa [hDot] using hIn
    simp at hWild

/-- Only a text that is empty or ends in a slash has an empty last segment. -/
theorem patternSegments_of_not_slash {p : Path} (hEmpty : p ≠ "")
    (hSlash : p.toList.getLast? ≠ some '/') : patternSegments p = segments p := by
  apply patternSegments_of_getLast?
  intro h
  rw [segments, List.getLast?_map, Option.map_eq_some_iff] at h
  obtain ⟨cs, hLast, hcs⟩ := h
  have hNil : cs = [] := by simpa using congrArg String.toList hcs
  rcases eq_nil_or_slash_of_getLast? (hNil ▸ hLast) with h | h
  · exact hEmpty (by simpa using h)
  · exact hSlash h

theorem patternSegments_empty : patternSegments "" = [] := by decide

theorem segments_append_slash (p q : String) :
    segments (p ++ "/" ++ q) = segments p ++ segments q := by
  simp [segments, String.toList_append, segmentChars_append]

/-- Joining puts the segments one after the other. -/
theorem segments_join {base p : Path} (hp : isAbsolute p = false) :
    segments (join base p) = patternSegments base ++ segments p := by
  unfold join
  rw [hp, if_neg Bool.false_ne_true]
  by_cases hEmpty : base = ""
  · simp [hEmpty, patternSegments_empty]
  by_cases hSlash : base.toList.getLast? = some '/'
  · -- the slash at the end of `base` is the one between the two
    obtain ⟨cs, hcs⟩ := List.getLast?_eq_some_iff.mp hSlash
    obtain rfl : base = String.ofList cs ++ "/" := by
      apply String.toList_inj.mp
      simp [hcs, String.toList_append]
    have hBase : segments (String.ofList cs ++ "/") = segments (String.ofList cs) ++ [""] := by
      have h := segments_append_slash (String.ofList cs) ""
      rwa [String.append_empty] at h
    rw [patternSegments_of_append hBase, ← segments_append_slash, if_pos (by simp)]
  · have hEnd : (base.toList.isEmpty || base.toList.getLast? == some '/') = false := by
      simp [hEmpty, hSlash]
    rw [hEnd, if_neg Bool.false_ne_true, segments_append_slash,
      patternSegments_of_not_slash hEmpty hSlash]

theorem patternSegments_join {base p : Path} (hp : isAbsolute p = false) :
    patternSegments (join base p) = patternSegments base ++ patternSegments p := by
  have hJoin : segments (join base p) = patternSegments base ++ segments p := segments_join hp
  -- `p` has at least one segment, so an empty one at the end of the whole is its own
  by_cases hLast : (segments p).getLast? = some ""
  · obtain ⟨ss, hs⟩ := List.getLast?_eq_some_iff.mp hLast
    rw [hs, ← List.append_assoc] at hJoin
    rw [patternSegments_of_append hJoin, patternSegments_of_append hs]
  · have hJoinLast : (segments (join base p)).getLast? ≠ some "" := by
      rw [hJoin, List.getLast?_append_of_ne_nil _ (segments_ne_nil p)]
      exact hLast
    rw [patternSegments_of_getLast? hJoinLast, patternSegments_of_getLast? hLast, hJoin]

theorem head?_patternSegments {p : Path} (h : p ≠ "") :
    (patternSegments p).head? = (segments p).head? := by
  rcases segments_eq_or p with hp | hp
  · rw [hp]
  · rw [hp]
    cases hs : patternSegments p with
    | nil =>
      rw [hs] at hp
      exact absurd (segments_injective (q := "") (by rw [hp]; decide)) h
    | cons s rest => rfl

/-! ## Absolute paths -/

theorem isAbsolute_eq (p : Path) : isAbsolute p = (p.toList.head? == some '/') := by
  unfold isAbsolute
  split
  · rename_i rest h
    simp [h]
  · rename_i h
    cases hp : p.toList with
    | nil => rfl
    | cons c rest =>
      have hc : c ≠ '/' := fun hc => h rest (by rw [hp, hc])
      simp [hc]

/-- A path is absolute if nothing stands before its first slash. -/
theorem isAbsolute_iff {p : Path} :
    isAbsolute p = true ↔ ∃ s rest, segments p = "" :: s :: rest := by
  rw [isAbsolute_eq, beq_iff_eq]
  cases hp : p.toList with
  | nil => simp [segments, hp, segmentChars]
  | cons c rest =>
    obtain ⟨first, others, hRest⟩ := List.exists_cons_of_ne_nil (segmentChars_ne_nil rest)
    by_cases hSlash : c = '/' <;> simp [segments, hp, segmentChars, hSlash, hRest]

theorem ne_empty_of_isAbsolute {p : Path} (h : isAbsolute p = true) : p ≠ "" := by
  rintro rfl
  exact absurd h (by decide)

theorem isAbsolute_of_not_mem {s : String} (h : '/' ∉ s.toList) : isAbsolute s = false := by
  rw [isAbsolute_eq]
  cases hs : s.toList with
  | nil => rfl
  | cons c rest =>
    rw [hs, List.mem_cons, not_or] at h
    simp [Ne.symm h.1]

theorem isAbsolute_append {p q : Path} (h : p ≠ "") : isAbsolute (p ++ q) = isAbsolute p := by
  have hChars : p.toList ≠ [] := by simpa using h
  obtain ⟨c, rest, hp⟩ := List.exists_cons_of_ne_nil hChars
  simp [isAbsolute_eq, String.toList_append, hp]

theorem join_of_isAbsolute {base p : Path} (h : isAbsolute p = true) : join base p = p := by
  rw [join, h, if_pos rfl]

theorem isAbsolute_join {base p : Path} (hp : isAbsolute p = false) :
    isAbsolute (join base p) = isAbsolute base := by
  unfold join
  rw [hp, if_neg Bool.false_ne_true]
  by_cases hBase : base = ""
  · simp only [hBase, String.toList_empty, List.isEmpty_nil, Bool.true_or, if_true,
      String.empty_append, hp]
    rfl
  · split
    · rw [isAbsolute_append hBase]
    · rw [String.append_assoc, isAbsolute_append hBase]

theorem join_ne_empty {base p : Path} (hBase : base ≠ "") : join base p ≠ "" := by
  have hChars : base.toList ≠ [] := by simpa using hBase
  intro h
  replace h := congrArg String.toList h
  unfold join at h
  split at h
  · -- an absolute path is not empty
    rename_i hp
    rw [isAbsolute_eq, h] at hp
    simp at hp
  · split at h <;> simp_all [String.toList_append]

/-- The steps of a path are its segments, but for the empty one before the first slash. -/
theorem patternSegments_eq_steps (p : Path) :
    patternSegments p = (if isAbsolute p then [""] else []) ++ steps p := by
  unfold steps
  cases hAbsolute : isAbsolute p with
  | false => rfl
  | true =>
    obtain ⟨s, rest, hSegments⟩ := isAbsolute_iff.mp hAbsolute
    have hHead := head?_patternSegments (ne_empty_of_isAbsolute hAbsolute)
    rw [hSegments, List.head?_cons] at hHead
    obtain ⟨others, hOthers⟩ := List.head?_eq_some_iff.mp hHead
    rw [hOthers]
    rfl

theorem steps_of_relative {p : Path} (h : isAbsolute p = false) : steps p = patternSegments p := by
  rw [patternSegments_eq_steps, h]
  rfl

theorem mem_patternSegments_of_mem_steps {p : Path} {s : String} (h : s ∈ steps p) :
    s ∈ patternSegments p := by
  rw [patternSegments_eq_steps]
  exact List.mem_append_right _ h

theorem steps_join {base p : Path} (hp : isAbsolute p = false) :
    steps (join base p) = steps base ++ patternSegments p := by
  have hJoin : patternSegments (join base p) = patternSegments base ++ patternSegments p :=
    patternSegments_join hp
  rw [patternSegments_eq_steps, patternSegments_eq_steps base, isAbsolute_join hp,
    List.append_assoc] at hJoin
  exact List.append_cancel_left hJoin

/-! ## Names -/

/-- A text that names an entry of a directory. -/
structure IsName (s : String) : Prop where
  ne_empty : s ≠ ""
  ne_here : s ≠ "."
  ne_up : s ≠ ".."
  no_slash : '/' ∉ s.toList

instance (s : String) : Decidable (IsName s) :=
  decidable_of_iff (s ≠ "" ∧ s ≠ "." ∧ s ≠ ".." ∧ '/' ∉ s.toList)
    ⟨fun ⟨h₁, h₂, h₃, h₄⟩ => ⟨h₁, h₂, h₃, h₄⟩,
      fun h => ⟨h.ne_empty, h.ne_here, h.ne_up, h.no_slash⟩⟩

theorem patternSegments_segment {s : String} (hEmpty : s ≠ "") (hSlash : '/' ∉ s.toList) :
    patternSegments s = [s] := by
  have hs := segments_of_not_mem hSlash
  rw [← hs]
  apply patternSegments_of_getLast?
  simpa [hs] using hEmpty

/-- The path of something below a root, by the names that lead to it. -/
def spell (root : Path) (names : List String) : Path := names.foldl join root

@[simp] theorem spell_nil (root : Path) : spell root [] = root := rfl

@[simp] theorem spell_cons (root : Path) (name : String) (names : List String) :
    spell root (name :: names) = spell (join root name) names := rfl

theorem patternSegments_spell {root : Path} {names : List String} (h : ∀ n ∈ names, IsName n) :
    patternSegments (spell root names) = patternSegments root ++ names := by
  induction names generalizing root with
  | nil => simp
  | cons name names ih =>
    have hName := h name (by simp)
    rw [spell_cons, ih fun n hn => h n (by simp [hn]),
      patternSegments_join (isAbsolute_of_not_mem hName.no_slash),
      patternSegments_segment hName.ne_empty hName.no_slash]
    simp

theorem isAbsolute_spell {root : Path} {names : List String} (h : ∀ n ∈ names, IsName n) :
    isAbsolute (spell root names) = isAbsolute root := by
  induction names generalizing root with
  | nil => rfl
  | cons name names ih =>
    rw [spell_cons, ih fun n hn => h n (by simp [hn]),
      isAbsolute_join (isAbsolute_of_not_mem (h name (by simp)).no_slash)]

/-! ## Locations -/

/-- Where a path leads: the components of the path, except that it does not matter whether it
begins with `.`. -/
def location (p : Path) : List Component := (components p).filter (· != .here)

/-- Does the path begin with `.`? -/
def leadsHere (p : Path) : Bool := (segments p).head? == some "."

theorem isAbsolute_of_leadsHere {p : Path} (h : leadsHere p = true) : isAbsolute p = false := by
  rw [← Bool.not_eq_true, isAbsolute_eq, beq_iff_eq]
  intro hSlash
  obtain ⟨rest, hRest⟩ := List.head?_eq_some_iff.mp hSlash
  simp [leadsHere, segments, hRest, segmentChars] at h

theorem leadsHere_join {base p : Path} (hBase : base ≠ "") (hp : isAbsolute p = false) :
    leadsHere (join base p) = leadsHere base := by
  rw [leadsHere, leadsHere, segments_join hp, ← head?_patternSegments hBase]
  cases hs : patternSegments base with
  | nil =>
    have hHead := head?_patternSegments hBase
    obtain ⟨s, rest, h⟩ := List.exists_cons_of_ne_nil (segments_ne_nil base)
    simp [hs, h] at hHead
  | cons s rest => rfl

theorem leadsHere_spell {root : Path} {names : List String} (hRoot : root ≠ "")
    (h : ∀ n ∈ names, IsName n) : leadsHere (spell root names) = leadsHere root := by
  induction names generalizing root with
  | nil => rfl
  | cons name names ih =>
    have hName := isAbsolute_of_not_mem (h name (by simp)).no_slash
    rw [spell_cons, ih (join_ne_empty hRoot) fun n hn => h n (by simp [hn]),
      leadsHere_join hRoot hName]

/-- A segment stands for nothing, for a step outward, or for a name. -/
theorem ofSegment?_eq_some {s : String} {c : Component} (h : Component.ofSegment? s = some c) :
    c = .up ∨ c = .name s := by
  unfold Component.ofSegment? at h
  split at h
  · simp at h
  · split at h
    · exact .inl (Option.some.inj h).symm
    · exact .inr (Option.some.inj h).symm

theorem ofSegment?_ne_root (s : String) : Component.ofSegment? s ≠ some .root := by
  intro h
  rcases ofSegment?_eq_some h with h | h <;> cases h

theorem location_eq (p : Path) :
    location p =
      (if isAbsolute p then [.root] else []) ++ (segments p).filterMap Component.ofSegment? := by
  have hSteps : ((segments p).filterMap Component.ofSegment?).filter (· != .here) =
      (segments p).filterMap Component.ofSegment? := by
    rw [List.filter_eq_self]
    intro c hc
    obtain ⟨s, -, hs⟩ := List.mem_filterMap.mp hc
    rcases ofSegment?_eq_some hs with rfl | rfl <;> rfl
  unfold location components
  cases isAbsolute p with
  | true => simp [hSteps]
  | false => by_cases hHead : ((segments p).head? == some ".") = true <;> simp [hHead, hSteps]

theorem root_mem_location_iff {p : Path} : .root ∈ location p ↔ isAbsolute p = true := by
  rw [location_eq]
  cases isAbsolute p <;> simp [List.mem_filterMap, ofSegment?_ne_root]

theorem components_eq (p : Path) :
    components p = (if leadsHere p then [.here] else []) ++ location p := by
  rw [location_eq]
  cases hHere : leadsHere p with
  | true => simp_all [components, isAbsolute_of_leadsHere hHere, leadsHere]
  | false => cases hAbsolute : isAbsolute p <;> simp_all [components, leadsHere]

/-- Of two paths that both begin with `.`, or neither, one begins with the other if it leads to the
same location or below it. -/
theorem startsWith_of_location {p q : Path} (hHere : leadsHere p = leadsHere q)
    (h : location q <+: location p) : startsWith p q = true := by
  rw [startsWith, List.isPrefixOf_iff_prefix, components_eq q, components_eq p, hHere]
  exact (List.prefix_append_right_inj _).mpr h

/-! ## Plain paths -/

/-- A segment that leads somewhere. -/
def Proper (s : String) : Prop := s ≠ "" ∧ s ≠ "."

instance (s : String) : Decidable (Proper s) := inferInstanceAs (Decidable (_ ∧ _))

theorem IsName.proper {s : String} (h : IsName s) : Proper s := ⟨h.ne_empty, h.ne_here⟩

/-- A path without `.` and without slashes that follow one another. -/
def Plain (p : Path) : Prop := ∀ s ∈ steps p, Proper s

instance (p : Path) : Decidable (Plain p) :=
  inferInstanceAs (Decidable (∀ s ∈ steps p, Proper s))

theorem leadsHere_of_isAbsolute {p : Path} (h : isAbsolute p = true) : leadsHere p = false := by
  cases hHere : leadsHere p with
  | false => rfl
  | true =>
    rw [isAbsolute_of_leadsHere hHere] at h
    cases h

theorem leadsHere_of_plain {p : Path} (hEmpty : p ≠ "") (h : Plain p) : leadsHere p = false := by
  cases hAbsolute : isAbsolute p with
  | true => exact leadsHere_of_isAbsolute hAbsolute
  | false =>
    rw [leadsHere, ← head?_patternSegments hEmpty, ← steps_of_relative hAbsolute,
      ← Bool.not_eq_true, beq_iff_eq]
    intro hHead
    exact (h "." (List.mem_of_head? hHead)).2 rfl

theorem ofSegment?_of_proper {s : String} (h : Proper s) :
    Component.ofSegment? s = some (if s = ".." then .up else .name s) := by
  by_cases hUp : s = ".."
  · simp [Component.ofSegment?, hUp]
  · simp [Component.ofSegment?, h.1, h.2, hUp]

/-- Segments that lead somewhere are known by the components they stand for. -/
theorem eq_of_filterMap_ofSegment? {ss ts : List String} (hs : ∀ s ∈ ss, Proper s)
    (ht : ∀ t ∈ ts, Proper t)
    (h : ss.filterMap Component.ofSegment? = ts.filterMap Component.ofSegment?) : ss = ts := by
  induction ss generalizing ts with
  | nil =>
    cases ts with
    | nil => rfl
    | cons t ts => simp [ofSegment?_of_proper (ht t (by simp))] at h
  | cons s ss ih =>
    cases ts with
    | nil => simp [ofSegment?_of_proper (hs s (by simp))] at h
    | cons t ts =>
      simp only [List.filterMap_cons, ofSegment?_of_proper (hs s (by simp)),
        ofSegment?_of_proper (ht t (by simp)), List.cons.injEq] at h
      have hFirst : s = t := by
        have hHead := h.1
        split at hHead <;> split at hHead <;> simp_all
      rw [hFirst, ih (fun x hx => hs x (by simp [hx])) (fun x hx => ht x (by simp [hx])) h.2]

end MessageLint.Files.Path
