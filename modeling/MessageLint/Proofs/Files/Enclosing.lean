import MessageLint.Proofs.Files.Workspace

/-!
# MessageLint — enclosing directories by text and by location

Going outward from a path means to drop its last component, by the text of the path alone. Where no
`..` occurs in the path, this follows the directories that enclose what the path denotes, up to
where the path starts from: the outermost directory or, if it is relative, the working directory. A
`..` at the end of a path is dropped like a name, and then the way leads inward.

* `components_of_parent?`, `components_of_parent?_eq_none` — one step outward by text.
* `eq_of_locate?` — where a path without `..` leads.
* `locate?_join_eq_some_iff` — what a name joined to such a path denotes.
-/

namespace MessageLint.Files

namespace Path

variable {p q : Path} {s : String} {ss : List String}

/-! ## Segments -/

theorem segments_ofSegments (hSlash : ∀ s ∈ ss, '/' ∉ s.toList) (hSome : ss ≠ []) :
    segments (ofSegments ss) = ss := by
  induction ss with
  | nil => exact absurd rfl hSome
  | cons s rest ih =>
    have hFirst : segments s = [s] := segments_of_not_mem (hSlash s (by simp))
    cases rest with
    | nil => exact hFirst
    | cons next others =>
      have hRest := ih (fun t ht => hSlash t (by simp [ht])) (by simp)
      rw [ofSegments_cons (by simp), segments_append_slash, hFirst, hRest, List.singleton_append]

theorem ofSegment?_of_not_proper (h : ¬ Proper s) : Component.ofSegment? s = none := by
  have hIdle : s = "" ∨ s = "." := by
    by_contra hNot
    rw [not_or] at hNot
    exact h hNot
  rcases hIdle with rfl | rfl <;> rfl

/-! ## Final segments that lead nowhere -/

/-- Dropping idle segments leaves the first segment, and drops nothing that leads somewhere. -/
theorem dropIdle_eq (rs : List String) :
    (dropIdle rs).getLast? = rs.getLast? ∧
      (dropIdle rs).filterMap Component.ofSegment? = rs.filterMap Component.ofSegment? := by
  fun_induction dropIdle rs with
  | case1 => exact ⟨rfl, rfl⟩
  | case2 => exact ⟨rfl, rfl⟩
  | case3 s rest hRest hIdle ih =>
    obtain ⟨next, others, rfl⟩ := List.exists_cons_of_ne_nil (fun h => hRest h)
    have hNone : Component.ofSegment? s = none :=
      ofSegment?_of_not_proper fun hProper => by
        rcases (by simpa using hIdle : s = "" ∨ s = ".") with hEmpty | hHere
        · exact hProper.1 hEmpty
        · exact hProper.2 hHere
    refine ⟨by rw [ih.1, List.getLast?_cons_cons], ?_⟩
    rw [ih.2, List.filterMap_cons_none hNone]
  | case4 => exact ⟨rfl, rfl⟩

theorem proper_of_dropIdle {rs rest : List String} (h : dropIdle rs = s :: rest)
    (hRest : rest ≠ []) : Proper s := by
  fun_induction dropIdle rs with
  | case1 => simp at h
  | case2 => simp_all
  | case3 _ _ _ _ ih => exact ih h
  | case4 s' rest' _ hIdle =>
    obtain ⟨rfl, -⟩ := List.cons.inj h
    simpa [Proper] using hIdle

theorem dropIdle_sublist (rs : List String) : (dropIdle rs).Sublist rs := by
  fun_induction dropIdle rs with
  | case1 => exact .refl _
  | case2 => exact .refl _
  | case3 _ _ _ _ ih => exact ih.cons _
  | case4 => exact .refl _

/-! ## One step outward -/

/-- Two paths that begin alike differ in their components as they differ in their segments. -/
theorem components_append {c : Component} (hAbsolute : isAbsolute p = isAbsolute q)
    (hHead : (segments p).head? = (segments q).head?)
    (h : (segments p).filterMap Component.ofSegment? =
      (segments q).filterMap Component.ofSegment? ++ [c]) : components p = components q ++ [c] := by
  simp only [components, hAbsolute, hHead, h]
  split_ifs <;> simp

theorem components_empty : components "" = [] := by decide

theorem components_root : components "/" = [.root] := by decide

/-- With several segments, a path is absolute exactly if the first is empty. -/
theorem isAbsolute_of_head? {first : String} (hHead : (segments p).head? = some first)
    (hLength : 1 < (segments p).length) : isAbsolute p = (first == "") := by
  obtain ⟨rest, hp⟩ := List.head?_eq_some_iff.mp hHead
  obtain ⟨s, others, rfl⟩ : ∃ s others, rest = s :: others := by
    cases rest with
    | nil => simp [hp] at hLength
    | cons s others => exact ⟨s, others, rfl⟩
  by_cases hFirst : first = ""
  · rw [hFirst] at hp ⊢
    exact isAbsolute_iff.mpr ⟨s, others, hp⟩
  · rw [beq_false_of_ne hFirst, ← Bool.not_eq_true, isAbsolute_iff]
    rintro ⟨t, rest, hEmpty⟩
    rw [hp] at hEmpty
    exact hFirst (List.cons.inj hEmpty).1

/-- The segments of a path up to its last component, in reverse, with the first segment kept. -/
theorem exists_outer (p : Path) : ∃ last outer, dropIdle (segments p).reverse = last :: outer ∧
    (segments p).head? = (last :: outer).getLast? ∧
    (segments p).filterMap Component.ofSegment? =
      outer.reverse.filterMap Component.ofSegment? ++ (Component.ofSegment? last).toList ∧
    outer.length < (segments p).length := by
  obtain ⟨hLast, hSteps⟩ := dropIdle_eq (segments p).reverse
  rw [List.getLast?_reverse] at hLast
  cases hDrop : dropIdle (segments p).reverse with
  | nil =>
    -- there is a first segment
    obtain ⟨first, others, hp⟩ := List.exists_cons_of_ne_nil (segments_ne_nil p)
    rw [hDrop, hp] at hLast
    simp at hLast
  | cons last outer =>
    have hLength := (dropIdle_sublist (segments p).reverse).length_le
    rw [hDrop] at hLast hSteps hLength
    refine ⟨last, outer, rfl, hLast.symm, ?_, by simp at hLength; omega⟩
    rw [List.filterMap_reverse] at hSteps
    rw [← List.reverse_inj, ← hSteps]
    cases hFirst : Component.ofSegment? last with
    | none => simp [hFirst]
    | some c => simp [hFirst]

/-- The parent of a path has all its components but the last. -/
theorem components_of_parent? (h : parent? p = some q) :
    ∃ c, c ≠ .root ∧ components p = components q ++ [c] := by
  obtain ⟨last, outer, hDrop, hHead, hSteps, hLength⟩ := exists_outer p
  unfold parent? at h
  rw [hDrop] at h
  cases outer with
  | nil =>
    -- only the first segment is left, and it is the component that is dropped
    cases hAbsolute : isAbsolute p with
    | true => simp [hAbsolute, dropIdle] at h
    | false =>
      obtain ⟨hLast, rfl⟩ : last ≠ "" ∧ "" = q := by simpa [hAbsolute, dropIdle, ofSegments] using h
      rw [components_empty, components, hAbsolute, hHead, hSteps]
      by_cases hHere : last = "."
      · exact ⟨.here, by simp, by simp [hHere, Component.ofSegment?]⟩
      · exact ⟨if last = ".." then .up else .name last, by split <;> simp, by
          simp [hHere, ofSegment?_of_proper ⟨hLast, hHere⟩]⟩
  | cons next others =>
    have hProper : Proper last := proper_of_dropIdle hDrop (by simp)
    have hNotRoot : (if last = ".." then Component.up else .name last) ≠ .root := by
      split <;> simp
    obtain ⟨hKeptLast, hKeptSteps⟩ := dropIdle_eq (next :: others)
    rw [List.getLast?_cons_cons, ← hKeptLast] at hHead
    have hSlash : ∀ s ∈ (dropIdle (next :: others)).reverse, '/' ∉ s.toList := by
      intro s hs
      have hMem : s ∈ dropIdle (segments p).reverse := by
        rw [hDrop]
        exact List.mem_cons_of_mem _ ((dropIdle_sublist _).subset (List.mem_reverse.mp hs))
      exact not_mem_of_mem_segments (List.mem_reverse.mp ((dropIdle_sublist _).subset hMem))
    rw [List.filterMap_reverse, ← hKeptSteps, ← List.filterMap_reverse,
      ofSegment?_of_proper hProper] at hSteps
    simp only [List.isEmpty_cons, Bool.false_and, Bool.false_eq_true, if_false] at h
    generalize dropIdle (next :: others) = kept at h hHead hSlash hSteps
    obtain ⟨first, hFirst⟩ : ∃ first, (segments p).head? = some first := by
      obtain ⟨first, rest, hp⟩ := List.exists_cons_of_ne_nil (segments_ne_nil p)
      exact ⟨first, by rw [hp]; rfl⟩
    have hKept : kept.reverse.head? = some first := by rw [List.head?_reverse, ← hHead, hFirst]
    have hSome : kept.reverse ≠ [] := by
      intro hEmpty
      simp [hEmpty] at hKept
    have hSegments := segments_ofSegments hSlash hSome
    have hAbsolute : isAbsolute p = (first == "") :=
      isAbsolute_of_head? hFirst (by simp at hLength; omega)
    by_cases hRoot : first = ""
    · -- what is left of an absolute path is absolute
      rw [hAbsolute, hRoot] at h
      rcases kept with _ | ⟨x, _ | ⟨y, rest⟩⟩
      · simp at h
      · obtain rfl : "/" = q := by simpa using h
        obtain rfl : x = first := by simpa using hKept
        refine ⟨if last = ".." then .up else .name last, hNotRoot, ?_⟩
        rw [components_root, components, hAbsolute, hSteps, hRoot]
        simp [Component.ofSegment?]
      · obtain rfl : ofSegments (x :: y :: rest).reverse = q := by simpa using h
        rw [← hSegments] at hKept hSteps
        have hq : isAbsolute (ofSegments (x :: y :: rest).reverse) = (first == "") :=
          isAbsolute_of_head? hKept (by rw [hSegments]; simp)
        exact ⟨_, hNotRoot,
          components_append (hAbsolute.trans hq.symm) (hFirst.trans hKept.symm) hSteps⟩
    · have hRelative : (first == "") = false := beq_false_of_ne hRoot
      rw [hAbsolute, hRelative] at h
      obtain rfl : ofSegments kept.reverse = q := by simpa using h
      rw [← hSegments] at hKept hSteps
      have hq : isAbsolute (ofSegments kept.reverse) = false := by
        rw [← Bool.not_eq_true, isAbsolute_iff]
        rintro ⟨s, rest, hEmpty⟩
        rw [hEmpty] at hKept
        exact hRoot (by simpa using hKept.symm)
      have hSame := hFirst.trans hKept.symm
      exact ⟨_, hNotRoot, components_append (by rw [hAbsolute, hRelative, hq]) hSame hSteps⟩

/-- Only the root and the empty path have no parent. -/
theorem components_of_parent?_eq_none (h : parent? p = none) :
    components p = [] ∨ components p = [.root] := by
  obtain ⟨last, outer, hDrop, hHead, hSteps, -⟩ := exists_outer p
  unfold parent? at h
  rw [hDrop] at h
  cases outer with
  | nil =>
    have hLast : last = "" := by
      cases hAbsolute : isAbsolute p with
      | true =>
        have hFirst : (segments p).head? = some last := by simpa using hHead
        obtain ⟨s, rest, hp⟩ := isAbsolute_iff.mp hAbsolute
        simpa [hp] using hFirst.symm
      | false => simpa [hAbsolute] using h
    subst hLast
    rw [components, hHead, hSteps]
    cases isAbsolute p <;> simp [Component.ofSegment?]
  | cons next others =>
    -- something is left of the path, so it has a parent
    exfalso
    have hSome : dropIdle (next :: others) ≠ [] := by
      intro hEmpty
      have hLast := (dropIdle_eq (next :: others)).1
      rw [hEmpty] at hLast
      simp [List.getLast?_cons] at hLast
    simp only [List.isEmpty_cons, Bool.false_and, Bool.false_eq_true, if_false] at h
    split at h
    · split at h <;> simp_all
    · simp at h

theorem length_segmentChars_le (cs : List Char) : (segmentChars cs).length ≤ cs.length + 1 := by
  induction cs with
  | nil => simp [segmentChars]
  | cons c rest ih =>
    obtain ⟨first, others, hRest⟩ := List.exists_cons_of_ne_nil (segmentChars_ne_nil rest)
    rw [hRest] at ih
    by_cases hSlash : c = '/' <;> simp [segmentChars, hSlash, hRest] at ih ⊢ <;> omega

/-- A path has at most one component more than it has characters. -/
theorem length_components_le (p : Path) : (components p).length ≤ p.length + 1 := by
  have hChars : (segments p).length ≤ p.length + 1 := by
    rw [segments, List.length_map, ← String.length_toList]
    exact length_segmentChars_le p.toList
  obtain ⟨first, rest, hp⟩ := List.exists_cons_of_ne_nil (segments_ne_nil p)
  -- a leading `.` or slash stands in the place of a first segment that leads nowhere
  have hRest := List.length_filterMap_le Component.ofSegment? rest
  have hAll := List.length_filterMap_le Component.ofSegment? (first :: rest)
  rw [hp, List.length_cons] at hChars
  rw [List.length_cons] at hAll
  simp only [components]
  split_ifs with hAbsolute hHere
  · obtain ⟨s, others, hEmpty⟩ := isAbsolute_iff.mp hAbsolute
    obtain ⟨rfl, rfl⟩ := List.cons.inj (hp.symm.trans hEmpty)
    rw [hp, List.length_cons, List.filterMap_cons_none (by rfl)]
    omega
  · obtain rfl : first = "." := by simpa [hp] using hHere
    rw [hp, List.length_cons, List.filterMap_cons_none (by rfl)]
    omega
  · rw [hp]
    omega

/-! ## The names in a path -/

/-- The name that a component stands for. -/
def Component.name? : Component → Option String
  | .name s => some s
  | _ => none

/-- The names in a path, in order. -/
def names (p : Path) : List String := (components p).filterMap Component.name?

/-- The names among segments: those that are not idle, if there is no `..`. -/
theorem names_eq (p : Path) :
    names p = ((segments p).filterMap Component.ofSegment?).filterMap Component.name? := by
  simp only [names, components]
  split_ifs
  · exact List.filterMap_cons_none rfl
  · exact List.filterMap_cons_none rfl
  · rfl

theorem names_of_components {c : Component} (h : components p = components q ++ [c]) :
    names p = names q ++ c.name?.toList := by
  rw [names, h, List.filterMap_append, names]
  cases hName : c.name? <;> simp [hName]

theorem root_mem_components_iff : .root ∈ components p ↔ isAbsolute p = true := by
  simp only [components]
  split_ifs with hAbsolute hHere <;> simp [List.mem_filterMap, ofSegment?_ne_root, hAbsolute]

theorem isAbsolute_of_parent? (h : parent? p = some q) : isAbsolute q = isAbsolute p := by
  obtain ⟨c, hNotRoot, hComponents⟩ := components_of_parent? h
  rw [Bool.eq_iff_iff, ← root_mem_components_iff, ← root_mem_components_iff, hComponents]
  simp [Ne.symm hNotRoot]

theorem up_mem_components_iff : .up ∈ components p ↔ ".." ∈ segments p := by
  have hUp : ∀ s, Component.ofSegment? s = some .up ↔ s = ".." := by
    intro s
    unfold Component.ofSegment?
    split_ifs with hIdle hUp
    · rcases (by simpa using hIdle : s = "" ∨ s = ".") with rfl | rfl <;> simp
    · simpa using hUp
    · simpa using hUp
  unfold components
  split_ifs <;> simp [List.mem_filterMap, hUp]

end Path

namespace Workspace

open MessageLint.Files.Path

variable {w : Workspace} {p q : Path} {name : String} {location next : List String}

/-! ## Where a path without `..` leads -/

theorem followSegment_idle {s : String} (h : ¬ Proper s) :
    w.followSegment location s = some next ↔
      next = location ∧ ∃ es, w.outermost.at? location.reverse = some (.directory es) := by
  have hIdle : (s == "" || s == ".") = true := by
    rw [Bool.or_eq_true, beq_iff_eq, beq_iff_eq]
    by_contra hNot
    exact h (not_or.mp hNot)
  have hEmpty : w.followSegment location s = w.followSegment location "" := by
    unfold followSegment
    simp only [hIdle]
    rfl
  rw [hEmpty, followSegment_empty]

/-- A directory lies in directories. -/
theorem directory_of_at?_append {es : List (String × Entry)} {front back : List String}
    (h : w.outermost.at? (front ++ back) = some (.directory es)) :
    ∃ es, w.outermost.at? front = some (.directory es) := by
  rw [Entry.at?_append] at h
  obtain ⟨outer, hOuter, hBelow⟩ := Option.bind_eq_some_iff.mp h
  cases outer with
  | directory es => exact ⟨es, hOuter⟩
  | file content => cases back <;> simp [Entry.at?, Entry.child?_file] at hBelow
  | other => cases back <;> simp [Entry.at?, Entry.child?_other] at hBelow

/-- What has a name lies in a directory. -/
theorem directory_of_at?_concat {e : Entry} {front : List String}
    (h : w.outermost.at? (front ++ [name]) = some e) :
    ∃ es, w.outermost.at? front = some (.directory es) := by
  rw [Entry.at?_append] at h
  obtain ⟨outer, hOuter, hBelow⟩ := Option.bind_eq_some_iff.mp h
  cases outer with
  | directory es => exact ⟨es, hOuter⟩
  | file content => simp [Entry.at?, Entry.child?_file] at hBelow
  | other => simp [Entry.at?, Entry.child?_other] at hBelow

/-- Segments without `..` lead to the names among them, if they lead anywhere. -/
theorem eq_of_followSegments {ss : List String} (hUp : ".." ∉ ss)
    (hSlash : ∀ s ∈ ss, '/' ∉ s.toList) (h : w.followSegments location ss = some next) :
    next.reverse = location.reverse ++
      (ss.filterMap Component.ofSegment?).filterMap Component.name? := by
  induction ss generalizing location with
  | nil =>
    obtain rfl : location = next := by simpa [followSegments] using h
    simp
  | cons s rest ih =>
    rw [List.mem_cons, not_or] at hUp
    obtain ⟨reached, hFirst, hRest⟩ := Option.bind_eq_some_iff.mp h
    have hNext := ih hUp.2 (fun t ht => hSlash t (by simp [ht])) hRest
    by_cases hProper : Proper s
    · have hName : IsName s := ⟨hProper.1, hProper.2, Ne.symm hUp.1, hSlash s (by simp)⟩
      obtain ⟨rfl, -⟩ := (followSegment_name hName).mp hFirst
      rw [hNext, List.filterMap_cons_some (ofSegment?_of_proper hProper)]
      simp [Component.name?, Ne.symm hUp.1]
    · obtain ⟨rfl, -⟩ := (followSegment_idle hProper).mp hFirst
      rw [hNext, List.filterMap_cons_none (ofSegment?_of_not_proper hProper)]

/-- Segments without `..` lead to a directory if the names among them do. -/
theorem followSegments_of_directory {ss : List String} {es : List (String × Entry)}
    (hUp : ".." ∉ ss) (hSlash : ∀ s ∈ ss, '/' ∉ s.toList)
    (h : w.outermost.at? (location.reverse ++
      (ss.filterMap Component.ofSegment?).filterMap Component.name?) = some (.directory es)) :
    ∃ next, w.followSegments location ss = some next := by
  induction ss generalizing location with
  | nil => exact ⟨location, rfl⟩
  | cons s rest ih =>
    rw [List.mem_cons, not_or] at hUp
    have hRest : ∀ t ∈ rest, '/' ∉ t.toList := fun t ht => hSlash t (by simp [ht])
    by_cases hProper : Proper s
    · have hName : IsName s := ⟨hProper.1, hProper.2, Ne.symm hUp.1, hSlash s (by simp)⟩
      rw [List.filterMap_cons_some (ofSegment?_of_proper hProper), if_neg (Ne.symm hUp.1),
        List.filterMap_cons_some (by rfl), List.append_cons] at h
      obtain ⟨inner, hInner⟩ := directory_of_at?_append h
      have hFirst := (followSegment_name hName).mpr ⟨rfl, _, hInner⟩
      obtain ⟨next, hNext⟩ : ∃ next, w.followSegments (s :: location) rest = some next :=
        ih hUp.2 hRest (by simpa using h)
      exact ⟨next, by rw [followSegments, hFirst, Option.bind_some, hNext]⟩
    · rw [List.filterMap_cons_none (ofSegment?_of_not_proper hProper)] at h
      have hFirst := (followSegment_idle hProper).mpr ⟨rfl, directory_of_at?_append h⟩
      obtain ⟨next, hNext⟩ := ih hUp.2 hRest h
      exact ⟨next, by rw [followSegments, hFirst, Option.bind_some, hNext]⟩

/-- What a path without `..` denotes lies where the names in the path lead from its start. -/
theorem eq_of_locate? {place : List String} (hUp : ".." ∉ segments p)
    (h : w.locate? p = some place) : place = w.start p ++ names p := by
  obtain ⟨-, hFollow⟩ := followSegments_of_locate? h
  have hNames := eq_of_followSegments hUp (fun s hs => not_mem_of_mem_segments hs) hFollow
  rwa [List.reverse_reverse, List.reverse_reverse, ← names_eq] at hNames

/-- A name joined to a path without `..` denotes what the names lead to. -/
theorem locate?_join_eq_some_iff {place : List String} (hUp : ".." ∉ segments p)
    (hName : IsName name) :
    w.locate? (join p name) = some place ↔
      place = w.start p ++ names p ++ [name] ∧ ∃ e, w.outermost.at? place = some e := by
  have hRelative := isAbsolute_of_not_mem hName.no_slash
  have hJoin : join p name ≠ "" := by
    by_cases hEmpty : p = ""
    · have hOnly : join "" name = name := by simp [join, hRelative]
      rw [hEmpty, hOnly]
      exact hName.ne_empty
    · exact join_ne_empty hEmpty
  have hSlash : ∀ s ∈ segments p, '/' ∉ s.toList := fun s hs => not_mem_of_mem_segments hs
  simp only [locate?_eq hJoin, start_join hRelative, Option.map_eq_some_iff,
    followSegments_join hName.no_slash, Option.bind_eq_some_iff]
  constructor
  · rintro ⟨next, ⟨reached, hReached, hLast⟩, rfl⟩
    obtain ⟨rfl, e, he⟩ := (followSegment_name hName).mp hLast
    have hNames := eq_of_followSegments hUp hSlash hReached
    rw [List.reverse_reverse, ← names_eq] at hNames
    exact ⟨by rw [List.reverse_cons, hNames], e, by rw [List.reverse_cons, he]⟩
  · rintro ⟨rfl, e, he⟩
    -- the name is in a directory, so the path leads there
    obtain ⟨es, hOuter⟩ := directory_of_at?_concat he
    obtain ⟨reached, hReached⟩ :
        ∃ next, w.followSegments (w.start p).reverse (segments p) = some next :=
      followSegments_of_directory hUp hSlash (by rw [List.reverse_reverse, ← names_eq, hOuter])
    have hNames := eq_of_followSegments hUp hSlash hReached
    rw [List.reverse_reverse, ← names_eq] at hNames
    refine ⟨name :: reached, ⟨reached, hReached, ?_⟩, by rw [List.reverse_cons, hNames]⟩
    exact (followSegment_name hName).mpr ⟨rfl, e, by rw [hNames, he]⟩

theorem pathExists_join (hUp : ".." ∉ segments p) (hName : IsName name) :
    w.pathExists (join p name) = (w.outermost.at? (w.start p ++ names p ++ [name])).isSome := by
  cases hLocate : w.locate? (join p name) with
  | some place =>
    obtain ⟨rfl, -⟩ := (locate?_join_eq_some_iff hUp hName).mp hLocate
    rw [pathExists, entry?_of_locate? hLocate]
  | none =>
    cases hAt : w.outermost.at? (w.start p ++ names p ++ [name]) with
    | none => simp [pathExists, entry?, hLocate]
    | some e =>
      have hSome := (locate?_join_eq_some_iff hUp hName).mpr ⟨rfl, e, hAt⟩
      rw [hLocate] at hSome
      simp at hSome

end Workspace
end MessageLint.Files
