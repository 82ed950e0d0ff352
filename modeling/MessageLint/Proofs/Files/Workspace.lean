import Mathlib.Data.List.Nodup
import MessageLint.Proofs.Files.Path

/-!
# MessageLint — directories and what paths denote in them

A directory holds each name once, and a name is one segment of a path (`Entry.Wellformed`). In such a
tree a path that was built from a root by joining names denotes what the names lead to.

* `Wellformed.child?_eq_some_iff` — looking up a name finds exactly the entries of a directory.
* `entry?_spell` — what the path of something below a root denotes.
* `segments_of_file` — the path of a file does not end in a slash.
-/

namespace MessageLint.Files

/-! ## Trees of directories -/

/-- Directories whose entries have names, each once. -/
inductive Entry.Wellformed : Entry → Prop where
  | file (content : ByteArray) : Wellformed (.file content)
  | directory {es : List (String × Entry)} (distinct : (es.map (·.1)).Nodup)
      (names : ∀ x ∈ es, Path.IsName x.1) (entries : ∀ x ∈ es, Wellformed x.2) :
      Wellformed (.directory es)
  | other : Wellformed .other

mutual

/-- Decides whether a tree is well-formed. -/
def Entry.isWellformed : Entry → Bool
  | .file _ => true
  | .directory es => decide (es.map (·.1)).Nodup && areWellformed es
  | .other => true

/-- The same for the entries of a directory, apart from names that occur twice. -/
def Entry.areWellformed : List (String × Entry) → Bool
  | [] => true
  | (name, e) :: rest => decide (Path.IsName name) && e.isWellformed && areWellformed rest

end

namespace Entry

mutual

theorem wellformed_of_isWellformed : ∀ e : Entry, e.isWellformed = true → e.Wellformed
  | .file content, _ => .file content
  | .directory es, h => by
    rw [isWellformed, Bool.and_eq_true, decide_eq_true_eq] at h
    have hEntries := wellformed_of_areWellformed es h.2
    exact .directory h.1 (fun x hx => (hEntries x hx).1) (fun x hx => (hEntries x hx).2)
  | .other, _ => .other

theorem wellformed_of_areWellformed : ∀ es : List (String × Entry), areWellformed es = true →
    ∀ x ∈ es, Path.IsName x.1 ∧ x.2.Wellformed
  | [], _ => by simp
  | (name, e) :: rest, h => by
    rw [areWellformed, Bool.and_eq_true, Bool.and_eq_true, decide_eq_true_eq] at h
    intro x hx
    rcases List.mem_cons.mp hx with rfl | hx
    · exact ⟨h.1.1, wellformed_of_isWellformed e h.1.2⟩
    · exact wellformed_of_areWellformed rest h.2 x hx

end

theorem areWellformed_of_forall {es : List (String × Entry)}
    (h : ∀ x ∈ es, Path.IsName x.1 ∧ x.2.isWellformed = true) : areWellformed es = true := by
  induction es with
  | nil => rfl
  | cons x es ih =>
    have hFirst := h x (by simp)
    rw [areWellformed, ih fun y hy => h y (by simp [hy])]
    simp [hFirst]

theorem Wellformed.isWellformed {e : Entry} (h : e.Wellformed) : e.isWellformed = true := by
  induction h with
  | file content => rfl
  | directory distinct names _ ih =>
    rw [Entry.isWellformed, areWellformed_of_forall fun x hx => ⟨names x hx, ih x hx⟩]
    simpa using distinct
  | other => rfl

instance (e : Entry) : Decidable e.Wellformed :=
  decidable_of_iff (e.isWellformed = true) ⟨wellformed_of_isWellformed e, Wellformed.isWellformed⟩

variable {e e' : Entry} {es : List (String × Entry)} {name : String} {names : List String}

theorem lookup_eq_some_iff_mem (h : (es.map (·.1)).Nodup) :
    es.lookup name = some e ↔ (name, e) ∈ es := by
  induction es with
  | nil => simp
  | cons x es ih =>
    obtain ⟨n, old⟩ := x
    rw [List.map_cons, List.nodup_cons] at h
    by_cases hName : name = n
    · -- the name does not occur again
      subst hName
      have hRest : (name, e) ∉ es := fun hMem => h.1 (List.mem_map.mpr ⟨_, hMem, rfl⟩)
      simp [hRest, eq_comm]
    · have hLookup : ((n, old) :: es).lookup name = es.lookup name := by
        rw [List.lookup_cons, beq_false_of_ne hName]
      rw [hLookup, ih h.2]
      simp [hName]

theorem Wellformed.child?_eq_some_iff (h : (Entry.directory es).Wellformed) :
    (Entry.directory es).child? name = some e ↔ (name, e) ∈ es := by
  cases h with
  | directory distinct _ _ => exact lookup_eq_some_iff_mem distinct

theorem child?_file (content : ByteArray) (name : String) : (file content).child? name = none := rfl

theorem child?_other (name : String) : other.child? name = none := rfl

theorem at?_cons_eq_some_iff :
    e.at? (name :: names) = some e' ↔
      ∃ next, e.child? name = some next ∧ next.at? names = some e' := by
  simp [at?, Option.bind_eq_some_iff]

theorem at?_append (e : Entry) (front back : List String) :
    e.at? (front ++ back) = (e.at? front).bind (·.at? back) := by
  induction front generalizing e with
  | nil => rfl
  | cons name front ih =>
    simp only [List.cons_append, at?]
    cases e.child? name with
    | none => rfl
    | some next => exact ih next

/-- What is met below a tree of directories is such a tree again, and names lead to it. -/
theorem Wellformed.at? (h : e.Wellformed) (hAt : e.at? names = some e') :
    e'.Wellformed ∧ ∀ n ∈ names, Path.IsName n := by
  induction names generalizing e with
  | nil =>
    obtain rfl : e = e' := by simpa [Entry.at?] using hAt
    exact ⟨h, by simp⟩
  | cons name names ih =>
    obtain ⟨next, hNext, hRest⟩ := at?_cons_eq_some_iff.mp hAt
    cases h with
    | file content => simp [child?_file] at hNext
    | directory distinct hNames hEntries =>
      have hMem := (lookup_eq_some_iff_mem distinct).mp hNext
      obtain ⟨hLast, hOthers⟩ := ih (hEntries _ hMem) hRest
      exact ⟨hLast, by simpa using ⟨hNames _ hMem, hOthers⟩⟩
    | other => simp [child?_other] at hNext

end Entry

/-! ## What a path denotes -/

namespace Workspace

open MessageLint.Files.Path
open Glob (patternSegments)

variable {w : Workspace} {base root p : Path} {e : Entry} {name : String} {names : List String}

theorem ne_empty_of_entry (h : w.entry? p = some e) : p ≠ "" := by
  rintro rfl
  simp [Workspace.entry?, locate?] at h

/-- Names joined to a path start from where the path starts. -/
theorem start_join (hp : isAbsolute p = false) : w.start (join base p) = w.start base := by
  rw [start, start, isAbsolute_join hp]

theorem locate?_eq (hEmpty : p ≠ "") :
    w.locate? p = (w.followSegments (w.start p).reverse (segments p)).map List.reverse := by
  rw [locate?, beq_false_of_ne hEmpty, if_neg Bool.false_ne_true]

/-- What a path denotes is found by following its segments. -/
theorem followSegments_of_locate? (h : w.locate? p = some names) :
    p ≠ "" ∧ w.followSegments (w.start p).reverse (segments p) = some names.reverse := by
  have hEmpty : p ≠ "" := by
    rintro rfl
    simp [locate?] at h
  rw [locate?_eq hEmpty] at h
  obtain ⟨location, hFollow, rfl⟩ := Option.map_eq_some_iff.mp h
  rw [List.reverse_reverse]
  exact ⟨hEmpty, hFollow⟩

theorem entry?_of_locate? (h : w.locate? p = some names) : w.entry? p = w.outermost.at? names := by
  rw [Workspace.entry?, h, Option.bind_some]

theorem followSegments_append (w : Workspace) (location front back : List String) :
    w.followSegments location (front ++ back) =
      (w.followSegments location front).bind (w.followSegments · back) := by
  induction front generalizing location with
  | nil => rfl
  | cons s front ih =>
    simp only [List.cons_append, followSegments]
    cases w.followSegment location s with
    | none => rfl
    | some next => exact ih next

theorem followSegments_one (w : Workspace) (location : List String) (s : String) :
    w.followSegments location [s] = w.followSegment location s := by
  simp only [followSegments]
  cases w.followSegment location s <;> rfl

/-- An empty segment leads nowhere, and only from a directory. -/
theorem followSegment_empty {location next : List String} :
    w.followSegment location "" = some next ↔
      next = location ∧ ∃ es, w.outermost.at? location.reverse = some (.directory es) := by
  unfold followSegment
  split
  · rename_i es h
    simp [h, eq_comm]
  · rename_i h
    simp_all

/-- A name leads from a directory to its entry. -/
theorem followSegment_name {location next : List String} (hName : IsName name) :
    w.followSegment location name = some next ↔
      next = name :: location ∧ ∃ e, w.outermost.at? (location.reverse ++ [name]) = some e := by
  unfold followSegment
  rw [Entry.at?_append]
  split
  · rename_i es h
    rw [h]
    have hChild : (Entry.directory es).at? [name] = es.lookup name := by
      cases hLookup : es.lookup name <;> simp [Entry.at?, Entry.child?, Entry.entries, hLookup]
    have hIdle : (name == "" || name == ".") = false := by simp [hName.ne_empty, hName.ne_here]
    have hUp : (name == "..") = false := by simp [hName.ne_up]
    rw [hIdle, hUp, Option.bind_some, hChild, ← Option.isSome_iff_exists]
    by_cases hFound : (es.lookup name).isSome = true
    · simp only [hFound, if_true, Bool.false_eq_true, if_false, Option.some.injEq, and_true]
      exact eq_comm
    · simp [hFound]
  · rename_i h
    cases hAt : w.outermost.at? location.reverse with
    | none => simp
    | some e =>
      cases e with
      | directory es => exact absurd hAt (h es)
      | file content => simp [Entry.at?, Entry.child?_file]
      | other => simp [Entry.at?, Entry.child?_other]

theorem directory_of_followSegment {location next : List String} {s : String}
    (h : w.followSegment location s = some next) :
    ∃ es, w.outermost.at? location.reverse = some (.directory es) := by
  unfold followSegment at h
  split at h
  · rename_i es hAt
    exact ⟨es, hAt⟩
  · simp at h

/-- A segment joined to a path leads on from where the path leads. A slash at the end of the path
makes no difference: it asks for a directory, and so does the segment. -/
theorem followSegments_join {location : List String} (hSlash : '/' ∉ name.toList) :
    w.followSegments location (segments (join base name)) =
      (w.followSegments location (segments base)).bind (w.followSegment · name) := by
  rw [segments_join (isAbsolute_of_not_mem hSlash), segments_of_not_mem hSlash,
    followSegments_append]
  simp only [followSegments_one]
  rcases segments_eq_or base with hBase | hBase
  · rw [hBase]
  · rw [hBase, followSegments_append, Option.bind_assoc]
    congr 1
    funext reached
    rw [followSegments_one]
    cases hFirst : w.followSegment reached "" with
    | some next =>
      obtain ⟨rfl, -⟩ := followSegment_empty.mp hFirst
      rfl
    | none =>
      -- not a directory, so the segment leads nowhere either
      cases hSecond : w.followSegment reached name with
      | none => rfl
      | some next =>
        have hEmpty := followSegment_empty.mpr ⟨rfl, directory_of_followSegment hSecond⟩
        rw [hFirst] at hEmpty
        simp at hEmpty

/-- What a path with a name at its end leads to has that name. -/
theorem getLast?_of_locate?_join (hName : IsName name)
    (h : w.locate? (join base name) = some names) : names.getLast? = some name := by
  unfold locate? at h
  split at h
  · simp at h
  · rw [followSegments_join hName.no_slash] at h
    obtain ⟨location, hFollow, rfl⟩ := Option.map_eq_some_iff.mp h
    obtain ⟨reached, -, hLast⟩ := Option.bind_eq_some_iff.mp hFollow
    obtain ⟨rfl, -⟩ := (followSegment_name hName).mp hLast
    simp

theorem entry?_eq (hEmpty : p ≠ "") :
    w.entry? p = (w.followSegments (w.start p).reverse (segments p)).bind fun location =>
      w.outermost.at? location.reverse := by
  rw [Workspace.entry?, locate?_eq hEmpty]
  cases w.followSegments (w.start p).reverse (segments p) <;> rfl

theorem entry?_join (hBase : base ≠ "") (hName : IsName name) :
    w.entry? (join base name) = (w.entry? base).bind (·.child? name) := by
  have hRelative := isAbsolute_of_not_mem hName.no_slash
  rw [entry?_eq (join_ne_empty hBase), entry?_eq hBase, start_join hRelative,
    followSegments_join hName.no_slash, Option.bind_assoc, Option.bind_assoc]
  -- from wherever the base leads, following the name is looking it up
  congr 1
  funext location
  have hAt : w.outermost.at? (location.reverse ++ [name]) =
      (w.outermost.at? location.reverse).bind (·.child? name) := by
    rw [Entry.at?_append]
    congr 1
    funext e
    simp only [Entry.at?]
    cases e.child? name <;> rfl
  rw [← hAt]
  cases hFollow : w.followSegment location name with
  | some next =>
    obtain ⟨rfl, -⟩ := (followSegment_name hName).mp hFollow
    simp
  | none =>
    cases hEntry : w.outermost.at? (location.reverse ++ [name]) with
    | none => rfl
    | some e =>
      have hSome := (followSegment_name hName).mpr ⟨rfl, e, hEntry⟩
      rw [hFollow] at hSome
      simp at hSome

/-- The path of something below a root denotes what the names lead to. -/
theorem entry?_spell (hRoot : root ≠ "") (hNames : ∀ n ∈ names, IsName n) :
    w.entry? (spell root names) = (w.entry? root).bind (·.at? names) := by
  induction names generalizing root with
  | nil => cases h : w.entry? root <;> simp [h, Entry.at?]
  | cons name names ih =>
    rw [spell_cons, ih (join_ne_empty hRoot) fun n hn => hNames n (by simp [hn]),
      entry?_join hRoot (hNames name (by simp)), Option.bind_assoc]
    rfl

/-- A slash at the end asks for a directory, so the path of a file has none. -/
theorem segments_of_file {content : ByteArray} (h : w.entry? p = some (.file content)) :
    segments p = patternSegments p := by
  rcases segments_eq_or p with hp | hp
  · exact hp
  · rw [entry?_eq (ne_empty_of_entry h), hp, followSegments_append] at h
    simp only [followSegments_one, Option.bind_eq_some_iff] at h
    obtain ⟨location, ⟨reached, -, hLast⟩, hAt⟩ := h
    obtain ⟨rfl, es, hDirectory⟩ := followSegment_empty.mp hLast
    rw [hDirectory] at hAt
    simp at hAt

theorem wellformed_of_entry (hw : w.outermost.Wellformed) (h : w.entry? p = some e) :
    e.Wellformed := by
  obtain ⟨location, -, hAt⟩ := Option.bind_eq_some_iff.mp h
  exact (hw.at? hAt).1

end Workspace

end MessageLint.Files
