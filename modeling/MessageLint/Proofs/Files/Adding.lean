import MessageLint.Proofs.Files.Enclosing

/-!
# MessageLint — a file put where there was nothing

Writing a file into a directory that has no entry of its name adds this file and changes nothing
else. `Entry.Added` says so of the trees; what follows are the observations: what the names of a
location lead to, where paths lead, and what is read from them.

* `exists_added`, `exists_addedAt` — writing where there is nothing adds a file.
* `Added.kind?_of_ne` — every other location is what it was.
* `AddedAt.locate?_eq_some_iff`, `AddedAt.readText_eq` — every path that does not lead to the new
  file leads where it led, and is read as before.
* `getLast?_of_fileName?` — what a path leads to has the name at the end of the path.
-/

namespace MessageLint.Files

/-! ## Trees with a file more -/

/-- The second tree is the first with a file added where the names lead, as the last entry of its
directory. -/
inductive Entry.Added (content : ByteArray) : List String → Entry → Entry → Prop where
  | last {name : String} {es : List (String × Entry)} (absent : es.lookup name = none) :
      Added content [name] (.directory es) (.directory (es ++ [(name, .file content)]))
  | inner {name : String} {names : List String} {e e' : Entry} {front back : List (String × Entry)}
      (first : front.lookup name = none) (entry : Added content names e e') :
      Added content (name :: names) (.directory (front ++ (name, e) :: back))
        (.directory (front ++ (name, e') :: back))

/-- What is seen of an entry by itself: the content of a file, or that it is a directory, or neither
of them. -/
inductive Entry.Kind where
  | file (content : ByteArray)
  | directory
  | other

namespace Entry

/-- What is seen of an entry by itself. -/
def kind : Entry → Kind
  | file content => .file content
  | directory _ => .directory
  | other => .other

/-- What is seen where the names lead. -/
def kind? (e : Entry) (names : List String) : Option Kind := (e.at? names).map kind

variable {e e' : Entry} {name : String} {names f outer : List String} {content : ByteArray}
  {es : List (String × Entry)}

theorem kind?_eq_file_iff : e.kind? names = some (.file content) ↔
    e.at? names = some (.file content) := by
  rw [kind?, Option.map_eq_some_iff]
  constructor
  · rintro ⟨found, hAt, hKind⟩
    cases found <;> cases hKind
    exact hAt
  · exact fun h => ⟨_, h, rfl⟩

theorem kind?_eq_directory_iff : e.kind? names = some .directory ↔
    ∃ es, e.at? names = some (.directory es) := by
  rw [kind?, Option.map_eq_some_iff]
  constructor
  · rintro ⟨found, hAt, hKind⟩
    cases found <;> cases hKind
    exact ⟨_, hAt⟩
  · rintro ⟨es, hAt⟩
    exact ⟨_, hAt, rfl⟩

theorem kind?_eq_other_iff : e.kind? names = some .other ↔ e.at? names = some .other := by
  rw [kind?, Option.map_eq_some_iff]
  constructor
  · rintro ⟨found, hAt, hKind⟩
    cases found <;> cases hKind
    exact hAt
  · exact fun h => ⟨_, h, rfl⟩

/-! ## Writing into a tree -/

theorem put_of_absent (h : es.lookup name = none) (new : Entry) :
    put name new es = es ++ [(name, new)] := by
  induction es with
  | nil => rfl
  | cons x es ih =>
    rw [List.lookup_cons] at h
    cases hName : name == x.1 with
    | true => simp [hName] at h
    | false =>
      have hOther : (x.1 == name) = false := by rw [Bool.beq_comm, hName]
      rw [hName] at h
      rw [put, hOther, ih h, List.cons_append]
      rfl

theorem put_of_first {front back : List (String × Entry)} (h : front.lookup name = none)
    (old new : Entry) :
    put name new (front ++ (name, old) :: back) = front ++ (name, new) :: back := by
  induction front with
  | nil => simp [put]
  | cons x front ih =>
    rw [List.lookup_cons] at h
    cases hName : name == x.1 with
    | true => simp [hName] at h
    | false =>
      have hOther : (x.1 == name) = false := by rw [Bool.beq_comm, hName]
      rw [hName] at h
      rw [List.cons_append, put, hOther, ih h, List.cons_append]
      rfl

/-- The entry that a name leads to, and those around it. -/
theorem exists_split_of_lookup {next : Entry} (h : es.lookup name = some next) :
    ∃ front back, es = front ++ (name, next) :: back ∧ front.lookup name = none := by
  obtain ⟨front, back, hSplit, hFirst⟩ := List.lookup_eq_some_iff.mp h
  exact ⟨front, back, hSplit, List.lookup_eq_none_iff.mpr hFirst⟩

theorem at?_of_first {front back : List (String × Entry)} (h : front.lookup name = none)
    (next : Entry) :
    (Entry.directory (front ++ (name, next) :: back)).at? (name :: names) = next.at? names := by
  simp [at?, child?, entries, h, List.lookup_append]

theorem at?_of_other {front back : List (String × Entry)} {n : String} (h : n ≠ name)
    (next : Entry) :
    (Entry.directory (front ++ (name, next) :: back)).at? (n :: names) =
      (Entry.directory (front ++ back)).at? (n :: names) := by
  simp [at?, child?, entries, List.lookup_append, List.lookup_cons, beq_false_of_ne h]

/-- Writing a file into a directory that has no entry of this name adds the file. -/
theorem exists_added (hOuter : e.at? outer = some (.directory es)) (hAbsent : es.lookup name = none)
    (content : ByteArray) :
    ∃ e', e.insert? (outer ++ [name]) (.file content) = some e' ∧
      Added content (outer ++ [name]) e e' := by
  induction outer generalizing e with
  | nil =>
    obtain rfl : e = .directory es := by simpa [at?] using hOuter
    refine ⟨_, ?_, .last hAbsent⟩
    simp [insert?, put_of_absent hAbsent]
  | cons n outer ih =>
    obtain ⟨next, hNext, hRest⟩ := at?_cons_eq_some_iff.mp hOuter
    cases e with
    | file old => simp [child?_file] at hNext
    | other => simp [child?_other] at hNext
    | directory all =>
      obtain ⟨changed, hInsert, hAdded⟩ := ih hRest
      have hLookup : all.lookup n = some next := hNext
      obtain ⟨front, back, rfl, hFirst⟩ := exists_split_of_lookup hLookup
      refine ⟨_, ?_, .inner hFirst hAdded⟩
      simp [insert?, hLookup, hInsert, put_of_first hFirst]

namespace Added

theorem ne_nil (h : Added content f e e') : f ≠ [] := by
  cases h <;> simp

/-- Where the file is added, there was nothing, and now there is the file. -/
theorem at?_self (h : Added content f e e') :
    e.at? f = none ∧ e'.at? f = some (.file content) := by
  induction h with
  | last absent => simp [at?, child?, entries, absent, List.lookup_append]
  | inner first _ ih => rwa [at?_of_first first, at?_of_first first]

/-- Every other location is what it was. -/
theorem kind?_of_ne (h : Added content f e e') (hNames : names ≠ f) :
    e'.kind? names = e.kind? names := by
  induction h generalizing names with
  | @last name es absent =>
    cases names with
    | nil => rfl
    | cons n rest =>
      by_cases hName : n = name
      · -- the new file has nothing below it, and the name led nowhere before
        subst hName
        obtain ⟨m, more, rfl⟩ : ∃ m more, rest = m :: more :=
          List.exists_cons_of_ne_nil fun hNil => hNames (by rw [hNil])
        simp [kind?, at?, child?, entries, absent, List.lookup_append]
      · rw [kind?, kind?, at?_of_other hName, List.append_nil]
  | @inner name path e e' front back first entry ih =>
    cases names with
    | nil => rfl
    | cons n rest =>
      by_cases hName : n = name
      · subst hName
        have hRest : rest ≠ path := fun hEq => hNames (by rw [hEq])
        rw [kind?, kind?, at?_of_first first, at?_of_first first]
        exact ih hRest
      · rw [kind?, kind?, at?_of_other hName, at?_of_other hName]

/-- The directory of the new file has it as one more entry. -/
theorem at?_outer (h : Added content (outer ++ [name]) e e')
    (hOuter : e.at? outer = some (.directory es)) :
    e'.at? outer = some (.directory (es ++ [(name, .file content)])) := by
  induction outer generalizing e e' with
  | nil =>
    obtain rfl : e = .directory es := by simpa [at?] using hOuter
    cases h with
    | last absent => rfl
    | inner first entry => cases entry
  | cons n outer ih =>
    rw [List.cons_append] at h
    generalize hWay : n :: (outer ++ [name]) = way at h
    cases h with
    | last absent => simp at hWay
    | inner first entry =>
      obtain ⟨rfl, rfl⟩ := List.cons.inj hWay
      rw [at?_of_first first] at hOuter ⊢
      exact ih entry hOuter

end Added

end Entry

/-! ## Workspaces with a file more -/

/-- The second workspace is the first with a file added where the names lead. -/
structure Workspace.AddedAt (f : List String) (content : ByteArray) (w w' : Workspace) : Prop where
  entries : w.outermost.Added content f w'.outermost
  workingDirectory : w'.workingDirectory = w.workingDirectory
  elsewhere : w.workingDirectory ≠ f

namespace Workspace

variable {w w' : Workspace} {f location next names : List String} {content : ByteArray} {p : Path}
  {s : String}

/-- Following a segment only looks at what is seen of two locations. -/
theorem followSegment_eq (w : Workspace) (location : List String) (s : String) :
    w.followSegment location s =
      match w.outermost.kind? location.reverse with
      | some .directory =>
        if s == "" || s == "." then some location
        else if s == ".." then some location.tail
        else if (w.outermost.kind? (location.reverse ++ [s])).isSome then some (s :: location)
        else none
      | _ => none := by
  unfold followSegment
  split
  · rename_i es hAt
    have hChild : (w.outermost.kind? (location.reverse ++ [s])).isSome = (es.lookup s).isSome := by
      rw [Entry.kind?, Option.isSome_map, Entry.at?_append, hAt, Option.bind_some]
      cases hLookup : es.lookup s <;> simp [Entry.at?, Entry.child?, Entry.entries, hLookup]
    rw [Entry.kind?_eq_directory_iff.mpr ⟨es, hAt⟩, hChild]
  · rename_i hNot
    split
    · rename_i hDirectory
      obtain ⟨es, hAt⟩ := Entry.kind?_eq_directory_iff.mp hDirectory
      exact absurd hAt (hNot es)
    · rfl

namespace AddedAt

/-- Before the file was added, nothing was below it either. -/
theorem kind?_below (h : w.AddedAt f content w') (more : List String) :
    w.outermost.kind? (f ++ more) = none := by
  rw [Entry.kind?, Entry.at?_append, h.entries.at?_self.1]
  rfl

/-- Outward from a directory there are directories, so no step outward leads to the new file. -/
theorem tail_ne (h : w.AddedAt f content w') (hLocation : location ≠ f.reverse)
    (hDirectory : w.outermost.kind? location.reverse = some .directory) :
    location.tail ≠ f.reverse := by
  intro hEq
  cases location with
  | nil => exact hLocation hEq
  | cons x rest =>
    have hInner : (x :: rest).reverse = f ++ [x] := by
      rw [List.reverse_cons, show rest = f.reverse from hEq, List.reverse_reverse]
    rw [hInner, h.kind?_below] at hDirectory
    cases hDirectory

theorem some_eq_some_iff_and_ne {reached goal : List String} (h : reached ≠ goal) :
    some reached = some next ↔ some reached = some next ∧ next ≠ goal := by
  constructor
  · rintro ⟨rfl⟩
    exact ⟨rfl, h⟩
  · exact And.left

/-- One step leads to the same location as before, or to the new file. -/
theorem followSegment_eq_some_iff (h : w.AddedAt f content w') (hLocation : location ≠ f.reverse) :
    w.followSegment location s = some next ↔
      w'.followSegment location s = some next ∧ next ≠ f.reverse := by
  have hHere : location.reverse ≠ f := fun hEq => hLocation (by rw [← hEq, List.reverse_reverse])
  rw [followSegment_eq, followSegment_eq, h.entries.kind?_of_ne hHere]
  split
  · rename_i hDirectory
    split
    · exact some_eq_some_iff_and_ne hLocation
    split
    · exact some_eq_some_iff_and_ne (h.tail_ne hLocation hDirectory)
    · by_cases hNew : location.reverse ++ [s] = f
      · -- the name of the new file, which led nowhere
        have hNone := h.kind?_below []
        have hNext : s :: location = f.reverse := by
          rw [← hNew, List.reverse_concat, List.reverse_reverse]
        rw [List.append_nil] at hNone
        rw [hNew, hNone]
        simp only [Option.isSome_none, Bool.false_eq_true, if_false, reduceCtorEq, false_iff,
          Option.ite_none_right_eq_some, Option.some.injEq, not_and, not_not]
        rintro ⟨-, rfl⟩
        exact hNext
      · have hNext : s :: location ≠ f.reverse := by
          intro hEq
          apply hNew
          rw [← List.reverse_cons, hEq, List.reverse_reverse]
        rw [h.entries.kind?_of_ne hNew]
        split
        · exact some_eq_some_iff_and_ne hNext
        · simp
  · simp

/-- A path of segments leads to the same location as before, or to the new file. -/
theorem followSegments_eq_some_iff (h : w.AddedAt f content w') (hLocation : location ≠ f.reverse)
    (ss : List String) :
    w.followSegments location ss = some next ↔
      w'.followSegments location ss = some next ∧ next ≠ f.reverse := by
  induction ss generalizing location with
  | nil =>
    simp only [followSegments, Option.some.injEq]
    constructor
    · rintro rfl
      exact ⟨rfl, hLocation⟩
    · exact And.left
  | cons s rest ih =>
    simp only [followSegments, Option.bind_eq_some_iff]
    constructor
    · rintro ⟨reached, hFirst, hRest⟩
      obtain ⟨hFirst', hReached⟩ := (h.followSegment_eq_some_iff hLocation).mp hFirst
      obtain ⟨hRest', hNext⟩ := (ih hReached).mp hRest
      exact ⟨⟨reached, hFirst', hRest'⟩, hNext⟩
    · rintro ⟨⟨reached, hFirst, hRest⟩, hNext⟩
      have hReached : reached ≠ f.reverse := by
        rintro rfl
        -- from the new file no segment leads on
        cases rest with
        | nil => exact hNext (Option.some.inj hRest).symm
        | cons t rest =>
          obtain ⟨beyond, hStep, -⟩ := Option.bind_eq_some_iff.mp hRest
          obtain ⟨es, hDirectory⟩ := directory_of_followSegment hStep
          rw [List.reverse_reverse, h.entries.at?_self.2] at hDirectory
          cases hDirectory
      exact ⟨reached, (h.followSegment_eq_some_iff hLocation).mpr ⟨hFirst, hReached⟩,
        (ih hReached).mpr ⟨hRest, hNext⟩⟩

/-- Neither the outermost nor the working directory is the new file. -/
theorem start_ne (h : w.AddedAt f content w') (p : Path) : w.start p ≠ f := by
  unfold start
  split
  · exact Ne.symm h.entries.ne_nil
  · exact h.elsewhere

/-- A path leads where it led, or to the new file. -/
theorem locate?_eq_some_iff (h : w.AddedAt f content w') :
    w.locate? p = some names ↔ w'.locate? p = some names ∧ names ≠ f := by
  have hStart : (w.start p).reverse ≠ f.reverse := fun hEq =>
    h.start_ne p (List.reverse_injective hEq)
  have hSame : w'.start p = w.start p := by rw [start, start, h.workingDirectory]
  unfold locate?
  split
  · simp
  · simp only [Option.map_eq_some_iff, hSame, h.followSegments_eq_some_iff hStart]
    constructor
    · rintro ⟨next, ⟨hFollow, hNext⟩, rfl⟩
      exact ⟨⟨next, hFollow, rfl⟩, fun hEq => hNext (by rw [← hEq, List.reverse_reverse])⟩
    · rintro ⟨⟨next, hFollow, rfl⟩, hNext⟩
      exact ⟨next, ⟨hFollow, fun hEq => hNext (by rw [hEq, List.reverse_reverse])⟩, rfl⟩

/-- A path that does not lead to the new file is read as before. -/
theorem readText_eq (h : w.AddedAt f content w') (hp : w'.locate? p ≠ some f) :
    w'.readText p = w.readText p := by
  have hLocate : w'.locate? p = w.locate? p := by
    ext names
    rw [h.locate?_eq_some_iff]
    exact ⟨fun hNames => ⟨hNames, fun hEq => hp (hEq ▸ hNames)⟩, And.left⟩
  rw [hLocate] at hp
  unfold readText Workspace.entry?
  rw [hLocate]
  cases hNames : w.locate? p with
  | none => rfl
  | some names =>
    have hKind : w'.outermost.kind? names = w.outermost.kind? names :=
      h.entries.kind?_of_ne fun hEq => hp (hEq ▸ hNames)
    simp only [Option.bind_some]
    cases hAt : w.outermost.at? names with
    | none =>
      rw [Entry.kind?, Entry.kind?, hAt, Option.map_none, Option.map_eq_none_iff] at hKind
      rw [hKind]
    | some e =>
      cases e with
      | file old =>
        rw [Entry.kind?_eq_file_iff.mpr hAt, Entry.kind?_eq_file_iff] at hKind
        rw [hKind]
      | directory es =>
        rw [Entry.kind?_eq_directory_iff.mpr ⟨es, hAt⟩, Entry.kind?_eq_directory_iff] at hKind
        obtain ⟨es', hAt'⟩ := hKind
        rw [hAt']
      | other =>
        rw [Entry.kind?_eq_other_iff.mpr hAt, Entry.kind?_eq_other_iff] at hKind
        rw [hKind]

/-- A path that leads to the new file is read as the text that was written. -/
theorem readText_of_locate? {text : String} (h : w.AddedAt f text.toUTF8 w')
    (hp : w'.locate? p = some f) : w'.readText p = .ok text := by
  have hText : String.fromUTF8? text.toUTF8 = some text := dif_pos text.isValidUTF8
  rw [readText, entry?_of_locate? hp, h.entries.at?_self.2]
  simp only [hText]

end AddedAt

/-! ## Writing into the working directory -/

open MessageLint.Files.Path (IsName Proper Component join segments)

variable {name : String}

theorem locate?_here_eq_some_iff : w.locate? "." = some names ↔
    names = w.workingDirectory ∧
      ∃ es, w.outermost.at? w.workingDirectory = some (.directory es) := by
  have hIdle : ¬ Proper "." := by decide
  have hLocate : w.locate? "." =
      (w.followSegment w.workingDirectory.reverse ".").map List.reverse := by
    rw [← followSegments_one]
    rfl
  rw [hLocate, Option.map_eq_some_iff]
  constructor
  · rintro ⟨location, hFollow, rfl⟩
    obtain ⟨rfl, hDirectory⟩ := (followSegment_idle hIdle).mp hFollow
    rw [List.reverse_reverse] at hDirectory ⊢
    exact ⟨rfl, hDirectory⟩
  · rintro ⟨rfl, hDirectory⟩
    refine ⟨_, (followSegment_idle hIdle).mpr ⟨rfl, ?_⟩, List.reverse_reverse _⟩
    rwa [List.reverse_reverse]

theorem entry?_here {es : List (String × Entry)}
    (h : w.outermost.at? w.workingDirectory = some (.directory es)) :
    w.entry? "." = some (.directory es) := by
  rw [entry?_of_locate? (locate?_here_eq_some_iff.mpr ⟨rfl, es, h⟩), h]

theorem directory_of_isDirectory_here (h : w.isDirectory "." = true) :
    ∃ es, w.outermost.at? w.workingDirectory = some (.directory es) := by
  cases hLocate : w.locate? "." with
  | none => simp [isDirectory, Workspace.entry?, hLocate] at h
  | some place => exact (locate?_here_eq_some_iff.mp hLocate).2

theorem start_name (w : Workspace) (hName : IsName name) : w.start name = w.workingDirectory := by
  rw [start, Path.isAbsolute_of_not_mem hName.no_slash, if_neg Bool.false_ne_true]

theorem target_name (w : Workspace) (hName : IsName name) :
    w.target name = w.workingDirectory ++ [name] := by
  simp [target, start_name w hName, Path.segments_of_not_mem hName.no_slash, hName.ne_empty,
    hName.ne_here, hName.ne_up]

theorem join_empty (hName : IsName name) : join "" name = name := by
  simp [join, Path.isAbsolute_of_not_mem hName.no_slash]

theorem pathExists_name (w : Workspace) (hName : IsName name) :
    w.pathExists name = (w.outermost.at? (w.workingDirectory ++ [name])).isSome := by
  have hJoin := pathExists_join (w := w) (p := "") (by decide) hName
  have hStart : w.start "" = w.workingDirectory := rfl
  rwa [join_empty hName, hStart, show Path.names "" = [] by decide, List.append_nil] at hJoin

/-- Writing to a name that leads nowhere adds a file to the working directory. -/
theorem exists_addedAt (hHere : w.isDirectory "." = true) (hName : IsName name)
    (hAbsent : w.pathExists name = false) (text : String) :
    ∃ w', w.writeText? name text = some w' ∧
      w.AddedAt (w.workingDirectory ++ [name]) text.toUTF8 w' := by
  obtain ⟨es, hDirectory⟩ := directory_of_isDirectory_here hHere
  have hLookup : es.lookup name = none := by
    rw [pathExists_name w hName, Entry.at?_append, hDirectory, Option.bind_some] at hAbsent
    cases hChild : es.lookup name with
    | none => rfl
    | some e => simp [Entry.at?, Entry.child?, Entry.entries, hChild] at hAbsent
  obtain ⟨e', hInsert, hAdded⟩ := Entry.exists_added hDirectory hLookup text.toUTF8
  have hFree : w.entry? name = none := by
    rwa [pathExists, Option.isSome_eq_false_iff, Option.isNone_iff_eq_none] at hAbsent
  refine ⟨{ w with outermost := e' }, ?_, hAdded, rfl, ?_⟩
  · simp only [writeText?, hFree, put?, target_name w hName, hInsert, Option.map_some]
  · -- the file is one name below the working directory
    intro hSame
    simpa using congrArg List.length hSame

/-! ## The name at the end of a path -/

theorem head?_of_followSegments {ss : List String} (hSlash : ∀ t ∈ ss, '/' ∉ t.toList)
    (h : w.followSegments location ss = some next)
    (hLast : (ss.filterMap Component.ofSegment?).getLast? = some (.name s)) :
    next.head? = some s := by
  -- from the end: idle segments there change neither side
  induction ss using List.reverseRecOn generalizing next with
  | nil => simp at hLast
  | append_singleton ss t ih =>
    rw [followSegments_append] at h
    obtain ⟨reached, hReached, hStep⟩ := Option.bind_eq_some_iff.mp h
    rw [followSegments_one] at hStep
    by_cases hProper : Proper t
    · -- the last segment leads somewhere, and not outward
      rw [List.filterMap_append, List.filterMap_cons_some (Path.ofSegment?_of_proper hProper),
        List.filterMap_nil, List.getLast?_concat, Option.some.injEq] at hLast
      split at hLast
      · cases hLast
      · rename_i hUp
        obtain rfl := Component.name.inj hLast
        have hName : IsName t := ⟨hProper.1, hProper.2, hUp, hSlash t (by simp)⟩
        obtain ⟨rfl, -⟩ := (followSegment_name hName).mp hStep
        rfl
    · rw [List.filterMap_append, List.filterMap_cons_none (Path.ofSegment?_of_not_proper hProper),
        List.filterMap_nil, List.append_nil] at hLast
      obtain ⟨rfl, -⟩ := (followSegment_idle hProper).mp hStep
      exact ih (fun x hx => hSlash x (by simp [hx])) hReached hLast

/-- Where a path leads has the name at the end of the path. -/
theorem getLast?_of_fileName? (h : w.locate? p = some names) (hName : Path.fileName? p = some s) :
    names.getLast? = some s := by
  obtain ⟨-, hFollow⟩ := followSegments_of_locate? h
  have hLast : ((segments p).filterMap Component.ofSegment?).getLast? = some (.name s) := by
    have hComponents : (Path.components p).getLast? = some (.name s) := by
      unfold Path.fileName? at hName
      split at hName
      · rename_i s' hLast
        rw [hLast, Option.some.inj hName]
      · cases hName
    -- a leading `.` or slash is a component too, but no name
    rw [Path.components_eq, Path.location_eq, ← List.append_assoc, List.getLast?_append]
      at hComponents
    cases hSteps : ((segments p).filterMap Component.ofSegment?).getLast? with
    | some c => simpa [hSteps] using hComponents
    | none =>
      rw [hSteps, Option.none_or] at hComponents
      split at hComponents <;> split at hComponents <;> simp at hComponents
  have hHead := head?_of_followSegments (fun t ht => Path.not_mem_of_mem_segments ht) hFollow hLast
  rwa [List.head?_reverse] at hHead

end Workspace

end MessageLint.Files
