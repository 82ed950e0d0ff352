import MessageLint.Proofs.Files.Enclosing
import MessageLint.Proofs.Files.Expand

/-!
# MessageLint — what the expansion of a pattern finds

A pattern is expanded path by path, but what it means is a question about names: which of them lead
from a directory to something that the components of the pattern match (`matchesNames`).

* `parseFrom_literal` — a text without metacharacters is a pattern that stands for itself.
* `exists_parse_join` — such a path may stand before any pattern.
* `expandFrom_literal` — components without metacharacters are followed like the segments of a path.
* `mem_matching_iff` — other components are compared with the names of entries, after `**` at any
  depth.
* `findsByName` — the directories that an expansion finds are those to which matching names lead.
-/

namespace MessageLint.Files.Glob

open MessageLint.Files.Path
open Workspace (followSegments_join)

/-! ## Patterns without metacharacters -/

/-- No character of the text has a meaning of its own in a pattern. -/
def IsLiteral (s : String) : Prop := ∀ c ∈ s.toList, c ≠ '*' ∧ c ≠ '?' ∧ c ≠ '['

instance : DecidablePred IsLiteral := fun s =>
  List.decidableBAll (fun c => c ≠ '*' ∧ c ≠ '?' ∧ c ≠ '[') s.toList

theorem parseFrom_literal {cs : List Char} (h : ∀ c ∈ cs, c ≠ '*' ∧ c ≠ '?' ∧ c ≠ '[')
    (fuel position : Nat) (previous : Option Char) (tokens : List Token) (rest : List Char) :
    parseFrom (cs.length + fuel) position previous tokens (cs ++ rest) =
      parseFrom fuel (position + cs.length) (cs.getLast?.or previous)
        ((cs.map Token.char).reverse ++ tokens) rest := by
  induction cs generalizing position previous tokens with
  | nil => simp
  | cons c cs ih =>
    obtain ⟨hRun, hAny, hClass⟩ := h c (by simp)
    have hStep : parseFrom ((c :: cs).length + fuel) position previous tokens (c :: cs ++ rest) =
        parseFrom (cs.length + fuel) (position + 1) (some c) (.char c :: tokens) (cs ++ rest) := by
      rw [List.length_cons, Nat.add_right_comm, List.cons_append]
      conv_lhs => unfold parseFrom
      simp [hRun, hAny, hClass]
    rw [hStep, ih fun d hd => h d (by simp [hd])]
    have hLast : cs.getLast?.or (some c) = (c :: cs).getLast?.or previous := by
      cases cs with
      | nil => rfl
      | cons d cs => simp [List.getLast?_cons]
    rw [hLast, List.length_cons, Nat.add_right_comm position, Nat.add_assoc]
    simp

theorem plainText?_map_char (cs : List Char) : plainText? (cs.map Token.char) = some cs := by
  induction cs with
  | nil => rfl
  | cons c cs ih => simp [plainText?, ih]

theorem ComponentPattern.parse_of_isLiteral {s : String} (h : IsLiteral s) :
    ComponentPattern.parse s = .ok (.plain s) := by
  have hTokens : Glob.parse s = .ok (s.toList.map Token.char) := by
    have hParse := parseFrom_literal h 1 0 none [] []
    rw [List.append_nil] at hParse
    rw [Glob.parse, ← String.length_toList, hParse]
    simp [parseFrom]
  simp [ComponentPattern.parse, hTokens, plainText?_map_char, bind, Except.bind, pure, Except.pure]

/-- May a component start after this character? -/
def opensComponent (previous : Option Char) : Bool := previous.isNone || previous == some '/'

theorem length_of_untilBracket {cs front after : List Char}
    (h : untilBracket cs = some (front, after)) : after.length ≤ cs.length := by
  induction cs generalizing front with
  | nil => simp [untilBracket] at h
  | cons c cs ih =>
    rw [untilBracket] at h
    split at h
    · obtain ⟨-, rfl⟩ : front = [] ∧ after = cs := by simpa [eq_comm] using h
      simp
    · obtain ⟨⟨front', after'⟩, hRest, hEq⟩ := Option.map_eq_some_iff.mp h
      obtain ⟨-, rfl⟩ := Prod.mk.inj hEq
      exact (ih hRest).trans (by simp)

theorem length_of_classToken? {cs after : List Char} {t : Token}
    (h : classToken? cs = some (t, after)) : after.length ≤ cs.length := by
  unfold classToken? at h
  split at h
  · obtain ⟨⟨front, rest⟩, hRest, hEq⟩ := Option.map_eq_some_iff.mp h
    obtain ⟨-, rfl⟩ := Prod.mk.inj hEq
    have hShort := length_of_untilBracket hRest
    simp only [List.length_cons]
    omega
  · split at h
    · simp at h
    · obtain ⟨⟨front, rest⟩, hRest, hEq⟩ := Option.map_eq_some_iff.mp h
      obtain ⟨-, rfl⟩ := Prod.mk.inj hEq
      exact (length_of_untilBracket hRest).trans (by simp)
  · simp at h

/-- Whether a text is read as a pattern depends on nothing but the text, and on whether it begins a
component. -/
theorem exists_parseFrom {fuel fuel' position position' : Nat} {previous previous' : Option Char}
    {tokens tokens' out : List Token} {cs : List Char}
    (h : parseFrom fuel position previous tokens cs = .ok out) (hFuel : cs.length < fuel)
    (hFuel' : cs.length < fuel') (hOpens : opensComponent previous = opensComponent previous') :
    ∃ out', parseFrom fuel' position' previous' tokens' cs = .ok out' := by
  fun_induction parseFrom fuel position previous tokens cs
    generalizing fuel' position' previous' tokens'
  case case1 => omega
  case case2 => exact ⟨tokens'.reverse, by unfold parseFrom; cases fuel' <;> rfl⟩
  -- each token is read alike, and what follows it is shorter
  case case3 fuel c rest hc ih =>
    obtain ⟨n, rfl⟩ : ∃ n, fuel' = n + 1 := ⟨fuel' - 1, by omega⟩
    rw [List.length_cons] at hFuel hFuel'
    unfold parseFrom
    simpa only [hc, if_true] using ih h (by omega) (by omega) rfl
  case case5 hAny hRun hPrevious hMore =>
    obtain ⟨n, rfl⟩ : ∃ n, fuel' = n + 1 := ⟨fuel' - 1, by omega⟩
    rw [← opensComponent, hOpens, opensComponent] at hPrevious
    unfold parseFrom
    exact ⟨(pushComponents tokens').reverse, by simp [hAny, hRun, hPrevious]⟩
  case case6 hAny hRun hPrevious d rest hSlash hMore ih =>
    obtain ⟨n, rfl⟩ : ∃ n, fuel' = n + 1 := ⟨fuel' - 1, by omega⟩
    rw [← opensComponent, hOpens, opensComponent] at hPrevious
    simp only [List.length_cons] at hFuel hFuel'
    obtain rfl : d = '/' := by simpa using hSlash
    unfold parseFrom
    simpa [hAny, hRun, hPrevious] using ih h (by omega) (by omega) rfl
  case case9 c hAny hRun rest hThree hTwo ih =>
    obtain ⟨n, rfl⟩ : ∃ n, fuel' = n + 1 := ⟨fuel' - 1, by omega⟩
    rw [List.length_cons] at hFuel hFuel'
    unfold parseFrom
    simpa [hAny, hRun] using ih h (by omega) (by omega) rfl
  case case10 c rest hAny hRun hOpen token after hClass ih =>
    obtain ⟨n, rfl⟩ : ∃ n, fuel' = n + 1 := ⟨fuel' - 1, by omega⟩
    rw [List.length_cons] at hFuel hFuel'
    have hShort := length_of_classToken? hClass
    unfold parseFrom
    simpa [hAny, hRun, hOpen, hClass] using ih h (by omega) (by omega) rfl
  case case12 c rest hAny hRun hOpen ih =>
    obtain ⟨n, rfl⟩ : ∃ n, fuel' = n + 1 := ⟨fuel' - 1, by omega⟩
    rw [List.length_cons] at hFuel hFuel'
    unfold parseFrom
    simpa [hAny, hRun, hOpen] using ih h (by omega) (by omega) rfl
  all_goals cases h

/-- A text without metacharacters may stand before a pattern, as its enclosing path. -/
theorem exists_parse_join {base g : Path} {tokens : List Token} (hEmpty : base ≠ "")
    (hLiteral : IsLiteral base) (hRelative : isAbsolute g = false) (h : Glob.parse g = .ok tokens) :
    ∃ tokens', Glob.parse (join base g) = .ok tokens' := by
  -- all that stands before the pattern ends in a slash
  obtain ⟨lead, hJoin, hLead, hLast⟩ : ∃ lead : List Char, (join base g).toList = lead ++ g.toList ∧
      (∀ c ∈ lead, c ≠ '*' ∧ c ≠ '?' ∧ c ≠ '[') ∧ lead.getLast? = some '/' := by
    unfold join
    rw [hRelative, if_neg Bool.false_ne_true]
    split_ifs with hEnd
    · have hSlash : base.toList.getLast? = some '/' := by simpa [hEmpty] using hEnd
      exact ⟨base.toList, by rw [String.toList_append], hLiteral, hSlash⟩
    · refine ⟨base.toList ++ ['/'], by simp [String.toList_append], fun c hc => ?_, by simp⟩
      rcases List.mem_append.mp hc with hc | hc
      · exact hLiteral c hc
      · obtain rfl := List.mem_singleton.mp hc
        decide
  have hFuel : (join base g).length + 1 = lead.length + (g.length + 1) := by
    rw [← String.length_toList, ← String.length_toList, hJoin, List.length_append]
    omega
  rw [Glob.parse, hFuel, hJoin, parseFrom_literal hLead, hLast]
  have hLength : g.toList.length < g.length + 1 := by
    rw [String.length_toList]
    exact Nat.lt_succ_self _
  exact exists_parseFrom h hLength hLength rfl

/-! ## Names that match -/

/-- Does the component match the first name, and `rest` the others? -/
def matchesFirst (c : ComponentPattern) (rest : List String → Bool) : List String → Bool
  | [] => false
  | name :: others => c.matchesName name && rest others

/-- Do the names lead along the components? Idle components lead nowhere. After `**` any names may
come first, but then the next component has to match a name, and at the end of a pattern there has to
be one. -/
def matchesNames : List ComponentPattern → Bool → List String → Bool
  | [], anyDepth, names => if anyDepth then !names.isEmpty else names.isEmpty
  | .recursive :: rest, _, names => matchesNames rest true names
  | .plain s :: rest, anyDepth, names =>
    if anyDepth then names.tails.any (matchesFirst (.plain s) (matchesNames rest false))
    else if s == "" || s == "." then matchesNames rest false names
    else matchesFirst (.plain s) (matchesNames rest false) names
  | .pattern tokens :: rest, anyDepth, names =>
    if anyDepth then names.tails.any (matchesFirst (.pattern tokens) (matchesNames rest false))
    else matchesFirst (.pattern tokens) (matchesNames rest false) names

/-- Names of which the last is matched by a component; without `**` before it, this is the only
one. -/
def NamedBy (c : ComponentPattern) (anyDepth : Bool) (names : List String) : Prop :=
  ∃ front name, names = front ++ [name] ∧ c.matchesName name = true ∧
    (anyDepth = false → front = [])

theorem matchesFirst_iff {c : ComponentPattern} {rest : List String → Bool} {names : List String} :
    matchesFirst c rest names = true ↔
      ∃ name others, names = name :: others ∧ c.matchesName name = true ∧ rest others = true := by
  cases names with
  | nil => simp [matchesFirst]
  | cons name others => simp [matchesFirst]

/-- A component is matched by some names at the beginning, and the rest by those that follow. -/
theorem matchesFirst_iff_namedBy {c : ComponentPattern} {anyDepth : Bool}
    {rest : List String → Bool} {names : List String} :
    (if anyDepth then names.tails.any (matchesFirst c rest) else matchesFirst c rest names) = true ↔
      ∃ first others, names = first ++ others ∧ NamedBy c anyDepth first ∧ rest others = true := by
  cases anyDepth with
  | true =>
    simp only [if_true, List.any_eq_true, List.mem_tails, matchesFirst_iff]
    constructor
    · rintro ⟨_, ⟨front, rfl⟩, name, others, rfl, hName, hRest⟩
      exact ⟨front ++ [name], others, by simp, ⟨front, name, rfl, hName, by simp⟩, hRest⟩
    · rintro ⟨_, others, rfl, ⟨front, name, rfl, hName, -⟩, hRest⟩
      exact ⟨name :: others, ⟨front, by simp⟩, name, others, rfl, hName, hRest⟩
  | false =>
    simp only [Bool.false_eq_true, if_false, matchesFirst_iff]
    constructor
    · rintro ⟨name, others, rfl, hName, hRest⟩
      exact ⟨[name], others, rfl, ⟨[], name, rfl, hName, fun _ => rfl⟩, hRest⟩
    · rintro ⟨_, others, rfl, ⟨front, name, rfl, hName, hFront⟩, hRest⟩
      rw [hFront rfl]
      exact ⟨name, others, rfl, hName, hRest⟩

theorem matchesNames_idle {s : String} (h : ¬ Proper s) (rest : List ComponentPattern)
    (names : List String) :
    matchesNames (.plain s :: rest) false names = matchesNames rest false names := by
  have hIdle : (s == "" || s == ".") = true := by
    by_contra hNot
    exact h (by simpa [Proper] using hNot)
  simp only [matchesNames, Bool.false_eq_true, if_false, hIdle, if_true]

theorem matchesNames_plain {s : String} (h : Proper s) {rest : List ComponentPattern}
    {names : List String} : matchesNames (.plain s :: rest) false names = true ↔
      ∃ others, names = s :: others ∧ matchesNames rest false others = true := by
  have hIdle : (s == "" || s == ".") = false := by simp [h.1, h.2]
  simp only [matchesNames, Bool.false_eq_true, if_false, hIdle, matchesFirst_iff,
    ComponentPattern.matchesName, beq_iff_eq]
  constructor
  · rintro ⟨_, others, rfl, rfl, hRest⟩
    exact ⟨others, rfl, hRest⟩
  · rintro ⟨others, rfl, hRest⟩
    exact ⟨s, others, rfl, rfl, hRest⟩

/-- A component that leads to entries of a directory or stays there, and is not empty. -/
def ComponentPattern.Descends : ComponentPattern → Prop
  | plain s => s ≠ "" ∧ s ≠ ".." ∧ '/' ∉ s.toList
  | recursive => True
  | pattern tokens => specials tokens = []

section Locations

variable {w : Workspace} {base found : Path} {s : String} {e : Entry} {place next : List String}

/-! ## Components without wildcards -/

theorem components_join {p : Path} (hBase : base ≠ "") (hp : isAbsolute p = false) :
    components (join base p) = components base ++ (segments p).filterMap Component.ofSegment? := by
  have hIdle : (patternSegments base).filterMap Component.ofSegment? =
      (segments base).filterMap Component.ofSegment? := by
    rcases segments_eq_or base with h | h
    · rw [h]
    · rw [h, List.filterMap_append]
      exact (List.append_nil _).symm
  rw [components_eq, components_eq base, leadsHere_join hBase hp, location_eq, location_eq base,
    isAbsolute_join hp, segments_join hp, List.filterMap_append, hIdle, List.append_assoc,
    List.append_assoc]

/-- What is not the current directory by its text is so with nothing joined to it. -/
theorem components_join_ne_here {p : Path} (hBase : base ≠ "") (hp : isAbsolute p = false)
    (h : components base ≠ [.here]) : components (join base p) ≠ [.here] := by
  intro hJoin
  cases hHere : leadsHere base with
  | false =>
    rw [← leadsHere_join hBase hp] at hHere
    exact components_ne_here hHere hJoin
  | true =>
    rw [components_join hBase hp, components_eq, hHere, if_pos rfl, List.append_assoc,
      List.singleton_append, List.cons.injEq, List.append_eq_nil_iff] at hJoin
    exact h (by rw [components_eq, hHere, hJoin.2.1]; rfl)

/-- A path that is the current directory by its text leads to the working directory. -/
theorem eq_workingDirectory_of_here (h : w.locate? base = some place)
    (hHere : components base = [.here]) : place = w.workingDirectory := by
  have hUp : ".." ∉ segments base := by
    rw [← up_mem_components_iff, hHere]
    simp
  have hRelative : isAbsolute base = false := by
    rw [← Bool.not_eq_true, ← root_mem_components_iff, hHere]
    simp
  rw [Workspace.eq_of_locate? hUp h, Workspace.start, hRelative, names, hHere]
  exact List.append_nil _

/-- A segment below a path leads where it leads from there. -/
theorem locate?_below (h : w.locate? base = some place) (hSlash : '/' ∉ s.toList)
    (hEmpty : components base = [.here] → s ≠ "") :
    w.locate? (below base s) = (w.followSegment place.reverse s).map List.reverse := by
  have hRelative := isAbsolute_of_not_mem hSlash
  by_cases hHere : components base = [.here]
  · -- the current directory is left out of the path, and the segment stands for itself
    rw [below_here hHere, Workspace.locate?_eq (hEmpty hHere), segments_of_not_mem hSlash,
      Workspace.followSegments_one, Workspace.start, hRelative, if_neg Bool.false_ne_true,
      eq_workingDirectory_of_here h hHere]
  · obtain ⟨hBase, hFollow⟩ := Workspace.followSegments_of_locate? h
    rw [below_eq_join hHere, Workspace.locate?_eq (join_ne_empty hBase),
      Workspace.start_join hRelative, followSegments_join hSlash, hFollow, Option.bind_some]

theorem below_ne_here (hBase : base ≠ "") (hSlash : '/' ∉ s.toList)
    (hs : components base = [.here] → s ≠ ".") : components (below base s) ≠ [.here] := by
  by_cases hHere : components base = [.here]
  · rw [below_here hHere]
    intro hSame
    have hFirst : leadsHere s = false := by
      rw [leadsHere, segments_of_not_mem hSlash]
      simpa using hs hHere
    exact components_ne_here hFirst hSame
  · rw [below_eq_join hHere]
    exact components_join_ne_here hBase (isAbsolute_of_not_mem hSlash) hHere

/-- A component without wildcards is followed like a segment of a path. -/
theorem expandFrom_plain_cons (h : w.locate? base = some place) (hSlash : '/' ∉ s.toList)
    (hEmpty : components base = [.here] → s ≠ "") (rest : List ComponentPattern) :
    expandFrom w (.plain s :: rest) false base =
      if (w.followSegment place.reverse s).isSome then expandFrom w rest false (below base s)
      else [] := by
  have hBelow := locate?_below h hSlash hEmpty
  by_cases hSpecial : s = "." ∨ s = ".."
  · have hDirectory : w.isDirectory base = (w.followSegment place.reverse s).isSome := by
      rw [Workspace.isDirectory, Workspace.entry?_of_locate? h, Workspace.followSegment,
        List.reverse_reverse]
      cases w.outermost.at? place with
      | none => rfl
      | some e =>
        cases e with
        | file content => rfl
        | directory es => rcases hSpecial with rfl | rfl <;> rfl
        | other => rfl
    simp only [expandFrom, Bool.false_eq_true, if_false, hDirectory]
    rw [if_pos (by simpa using hSpecial)]
  · have hExists : w.pathExists (below base s) = (w.followSegment place.reverse s).isSome := by
      rw [Workspace.pathExists, Workspace.entry?, hBelow]
      cases hFollow : w.followSegment place.reverse s with
      | none => rfl
      | some next =>
        -- what a segment leads to exists
        have hNext : ∃ e, w.outermost.at? next.reverse = some e := by
          by_cases hProper : Proper s
          · have hName : IsName s :=
              ⟨hProper.1, hProper.2, fun hUp => hSpecial (.inr hUp), hSlash⟩
            obtain ⟨rfl, e, he⟩ := (Workspace.followSegment_name hName).mp hFollow
            exact ⟨e, by simpa using he⟩
          · obtain ⟨rfl, es, hes⟩ := (Workspace.followSegment_idle hProper).mp hFollow
            exact ⟨_, hes⟩
        obtain ⟨e, he⟩ := hNext
        simp [he]
    simp only [expandFrom, Bool.false_eq_true, if_false, hExists]
    rw [if_neg (by simpa using hSpecial)]

/-- Components without metacharacters lead where the segments of a path lead. The current directory
is not written, so that an empty segment after it leads nowhere. -/
theorem expandFrom_literal {ss : List String} (h : w.locate? base = some place)
    (hSlash : ∀ s ∈ ss, '/' ∉ s.toList) (hFollow : w.followSegments place.reverse ss = some next)
    (hEmpty : components base = [.here] → (ss.dropWhile (· == ".")).head? ≠ some "") :
    ∃ reached, w.locate? reached = some next.reverse ∧
      ∀ rest, expandFrom w (ss.map .plain ++ rest) false base = expandFrom w rest false reached := by
  induction ss generalizing base place with
  | nil =>
    obtain rfl : place.reverse = next := by simpa [Workspace.followSegments] using hFollow
    exact ⟨base, by simpa using h, fun _ => rfl⟩
  | cons s ss ih =>
    obtain ⟨location, hFirst, hRest⟩ := Option.bind_eq_some_iff.mp hFollow
    have hNoSlash := hSlash s (by simp)
    have hSome : components base = [.here] → s ≠ "" := by
      rintro hHere rfl
      exact hEmpty hHere rfl
    have hBelow : w.locate? (below base s) = some location.reverse := by
      rw [locate?_below h hNoSlash hSome, hFirst, Option.map_some]
    obtain ⟨reached, hReached, hExpand⟩ := ih hBelow (fun t ht => hSlash t (by simp [ht]))
      (by rwa [List.reverse_reverse]) (by
        intro hHere
        -- only `.` below the current directory is the current directory
        by_cases hBase : components base = [.here] ∧ s = "."
        · simpa [hBase.2] using hEmpty hBase.1
        · exact absurd hHere (below_ne_here (Workspace.followSegments_of_locate? h).1 hNoSlash
            fun hb hs => hBase ⟨hb, hs⟩))
    refine ⟨reached, hReached, fun rest => ?_⟩
    rw [List.map_cons, List.cons_append, expandFrom_plain_cons h hNoSlash hSome, hFirst,
      Option.isSome_some, if_pos rfl, hExpand]

/-! ## Directories below a directory -/

theorem mem_directoriesBelow_iff (he : e.Wellformed) :
    found ∈ directoriesBelow base e ↔ ∃ names es, names ≠ [] ∧ found = names.foldl below base ∧
      e.at? names = some (.directory es) := by
  induction he generalizing base with
  | file content =>
    simp only [directoriesBelow, List.not_mem_nil, false_iff]
    rintro ⟨names, es, hSome, -, hAt⟩
    obtain ⟨name, rest, rfl⟩ := List.exists_cons_of_ne_nil hSome
    simp [Entry.at?, Entry.child?_file] at hAt
  | @directory entries distinct hNames hEntries ih =>
    rw [directoriesBelow, directoriesAmong_eq, List.mem_flatMap]
    constructor
    · rintro ⟨⟨name, child⟩, hMem, hFound⟩
      have hChild := (Entry.lookup_eq_some_iff_mem distinct).mpr hMem
      rcases List.mem_append.mp hFound with hHere | hBelow
      · cases child with
        | file content => simp [Entry.isDirectory] at hHere
        | other => simp [Entry.isDirectory] at hHere
        | directory es =>
          have hEq : found = below base name := by simpa [Entry.isDirectory] using hHere
          exact ⟨[name], es, by simp, hEq, by simp [Entry.at?, Entry.child?, Entry.entries, hChild]⟩
      · obtain ⟨names, es, -, rfl, hAt⟩ := (ih _ hMem).mp hBelow
        exact ⟨name :: names, es, by simp, rfl, Entry.at?_cons_eq_some_iff.mpr ⟨child, hChild, hAt⟩⟩
    · rintro ⟨names, es, hSome, rfl, hAt⟩
      obtain ⟨name, rest, rfl⟩ := List.exists_cons_of_ne_nil hSome
      obtain ⟨child, hChild, hRest⟩ := Entry.at?_cons_eq_some_iff.mp hAt
      have hMem := (Entry.lookup_eq_some_iff_mem distinct).mp hChild
      refine ⟨(name, child), hMem, List.mem_append.mpr ?_⟩
      by_cases hEnd : rest = []
      · left
        obtain rfl : child = .directory es := by simpa [hEnd, Entry.at?] using hRest
        simp [hEnd, Entry.isDirectory]
      · exact .inr ((ih _ hMem).mpr ⟨rest, es, hEnd, rfl, hRest⟩)
  | other =>
    simp only [directoriesBelow, List.not_mem_nil, false_iff]
    rintro ⟨names, es, hSome, -, hAt⟩
    obtain ⟨name, rest, rfl⟩ := List.exists_cons_of_ne_nil hSome
    simp [Entry.at?, Entry.child?_other] at hAt

theorem locate?_foldl_below {names : List String} (h : w.locate? base = some place)
    (hNames : ∀ n ∈ names, IsName n) (hAt : w.outermost.at? (place ++ names) = some e) :
    w.locate? (names.foldl below base) = some (place ++ names) := by
  induction names generalizing base place with
  | nil => simpa using h
  | cons name names ih =>
    have hName := hNames name (by simp)
    rw [List.append_cons] at hAt ⊢
    have hFirst : ∃ e, w.outermost.at? (place ++ [name]) = some e := by
      obtain ⟨first, hFirst, -⟩ := Option.bind_eq_some_iff.mp ((Entry.at?_append ..).symm.trans hAt)
      exact ⟨first, hFirst⟩
    have hFollow : w.followSegment place.reverse name = some (name :: place.reverse) :=
      (Workspace.followSegment_name hName).mpr ⟨rfl, by simpa using hFirst⟩
    refine ih ?_ (fun n hn => hNames n (by simp [hn])) hAt
    rw [locate?_below h hName.no_slash fun _ => hName.ne_empty, hFollow]
    simp

/-- Where names lead, the path leads that they make. -/
theorem locate?_below_names (hw : w.outermost.Wellformed) (h : w.locate? base = some place)
    {names : List String} (hAt : w.outermost.at? (place ++ names) = some e) :
    w.locate? (names.foldl below base) = some (place ++ names) :=
  locate?_foldl_below h (fun n hn => (hw.at? hAt).2 n (List.mem_append_right _ hn)) hAt

/-- From a directory, a name leads to the entry below it. -/
theorem locate?_below_name (h : w.locate? base = some place) (hName : IsName s)
    (hAt : w.outermost.at? (place ++ [s]) = some e) :
    w.locate? (below base s) = some (place ++ [s]) :=
  locate?_foldl_below h (by simpa using hName) hAt

theorem exists_at?_of_append {front back : List String}
    (h : w.outermost.at? (front ++ back) = some e) :
    ∃ outer, w.outermost.at? front = some outer := by
  obtain ⟨outer, hOuter, -⟩ := Option.bind_eq_some_iff.mp ((Entry.at?_append ..).symm.trans h)
  exact ⟨outer, hOuter⟩

/-! ## Entries that match by name -/

/-- An entry of a directory is what a name leads to. -/
theorem mem_names_iff (hw : w.outermost.Wellformed) {es : List (String × Entry)}
    (h : w.outermost.at? place = some (.directory es)) {name : String} :
    name ∈ es.map (·.1) ↔ ∃ e, w.outermost.at? (place ++ [name]) = some e := by
  cases (hw.at? h).1 with
  | directory distinct _ _ =>
    have hAt : w.outermost.at? (place ++ [name]) = es.lookup name := by
      rw [Entry.at?_append, h]
      cases hLookup : es.lookup name <;> simp [Entry.at?, Entry.child?, Entry.entries, hLookup]
    simp only [hAt, Entry.lookup_eq_some_iff_mem distinct, List.mem_map]
    constructor
    · rintro ⟨x, hx, rfl⟩
      exact ⟨x.2, hx⟩
    · rintro ⟨e, he⟩
      exact ⟨(name, e), he, rfl⟩

theorem mem_matchingEntries_iff (hw : w.outermost.Wellformed) (h : w.locate? base = some place)
    {c : ComponentPattern} :
    found ∈ matchingEntries w c base ↔ ∃ name, c.matchesName name = true ∧
      found = below base name ∧ ∃ e, w.outermost.at? (place ++ [name]) = some e := by
  unfold matchingEntries
  rw [Workspace.entry?_of_locate? h]
  split
  · rename_i es hDirectory
    simp only [List.mem_map, List.mem_filter, ← mem_names_iff hw hDirectory]
    constructor
    · rintro ⟨name, ⟨hMem, hName⟩, rfl⟩
      exact ⟨name, hName, rfl, hMem⟩
    · rintro ⟨name, hName, rfl, hMem⟩
      exact ⟨name, ⟨hMem, hName⟩, rfl⟩
  · rename_i hNot
    simp only [List.not_mem_nil, false_iff]
    rintro ⟨name, -, -, e, he⟩
    obtain ⟨es, hDirectory⟩ := Workspace.directory_of_at?_concat he
    exact hNot es hDirectory

theorem mem_innerDirectories_iff (hw : w.outermost.Wellformed) (h : w.locate? base = some place) :
    found ∈ innerDirectories w base ↔ ∃ names es, names ≠ [] ∧ found = names.foldl below base ∧
      w.outermost.at? (place ++ names) = some (.directory es) := by
  unfold innerDirectories
  rw [Workspace.entry?_of_locate? h]
  cases hPlace : w.outermost.at? place with
  | none => simp [Entry.at?_append, hPlace]
  | some e => simp only [mem_directoriesBelow_iff (hw.at? hPlace).1, Entry.at?_append, hPlace,
      Option.bind_some]

/-- The paths that are found for a component lead to names of which it matches the last. -/
theorem mem_matching_iff (hw : w.outermost.Wellformed) (h : w.locate? base = some place)
    {c : ComponentPattern} {anyDepth : Bool} :
    (found ∈ if anyDepth then matchingAtDepth w c base else matchingEntries w c base) ↔
      ∃ names, NamedBy c anyDepth names ∧ found = names.foldl below base ∧
        ∃ e, w.outermost.at? (place ++ names) = some e := by
  cases anyDepth with
  | false =>
    simp only [Bool.false_eq_true, if_false, mem_matchingEntries_iff hw h]
    constructor
    · rintro ⟨name, hName, rfl, hAt⟩
      exact ⟨[name], ⟨[], name, rfl, hName, fun _ => rfl⟩, rfl, hAt⟩
    · rintro ⟨_, ⟨front, name, rfl, hName, hFront⟩, rfl, hAt⟩
      rw [hFront rfl] at hAt ⊢
      exact ⟨name, hName, rfl, hAt⟩
  | true =>
    simp only [if_true, matchingAtDepth, List.mem_flatMap, List.mem_cons]
    constructor
    · rintro ⟨outer, rfl | hOuter, hFound⟩
      · obtain ⟨name, hName, rfl, hAt⟩ := (mem_matchingEntries_iff hw h).mp hFound
        exact ⟨[name], ⟨[], name, rfl, hName, fun _ => rfl⟩, rfl, hAt⟩
      · obtain ⟨front, es, -, rfl, hInner⟩ := (mem_innerDirectories_iff hw h).mp hOuter
        obtain ⟨name, hName, rfl, hAt⟩ :=
          (mem_matchingEntries_iff hw (locate?_below_names hw h hInner)).mp hFound
        exact ⟨front ++ [name], ⟨front, name, rfl, hName, by simp⟩, by simp,
          by rwa [← List.append_assoc]⟩
    · rintro ⟨_, ⟨front, name, rfl, hName, -⟩, rfl, e, hAt⟩
      rw [← List.append_assoc] at hAt
      obtain ⟨es, hInner⟩ := Workspace.directory_of_at?_concat hAt
      refine ⟨front.foldl below base, ?_, (mem_matchingEntries_iff hw
        (locate?_below_names hw h hInner)).mpr ⟨name, hName, by simp, e, hAt⟩⟩
      by_cases hFront : front = []
      · exact .inl (by rw [hFront]; rfl)
      · exact .inr ((mem_innerDirectories_iff hw h).mpr ⟨front, es, hFront, rfl, hInner⟩)

/-! ## What an expansion finds -/

/-- From wherever the expansion starts, it lists a path to the location exactly if matching names
lead there from the start. -/
def FindsByName (w : Workspace) (components : List ComponentPattern) (anyDepth : Bool)
    (location : List String) : Prop :=
  ∀ ⦃base : Path⦄ ⦃place : List String⦄, w.locate? base = some place →
    ((∃ found ∈ expandFrom w components anyDepth base, w.locate? found = some location) ↔
      ∃ names, location = place ++ names ∧ matchesNames components anyDepth names = true)

variable {rest : List ComponentPattern} {anyDepth : Bool} {location : List String}
  {es : List (String × Entry)}

theorem findsByName_nil (hw : w.outermost.Wellformed)
    (hDirectory : w.outermost.at? location = some (.directory es)) :
    FindsByName w [] anyDepth location := by
  intro base place h
  cases anyDepth with
  | false =>
    simp only [expandFrom, matchesNames, Bool.false_eq_true, if_false, List.mem_singleton,
      List.isEmpty_iff]
    constructor
    · rintro ⟨_, rfl, hLocate⟩
      rw [h] at hLocate
      exact ⟨[], by simpa using (Option.some.inj hLocate).symm, rfl⟩
    · rintro ⟨_, hLocation, rfl⟩
      exact ⟨base, rfl, by rw [h, hLocation, List.append_nil]⟩
  | true =>
    -- all directories below, but not the start itself
    simp only [expandFrom, matchesNames, if_true, mem_innerDirectories_iff hw h]
    constructor
    · rintro ⟨_, ⟨names, inner, hSome, rfl, hInner⟩, hFound⟩
      rw [locate?_below_names hw h hInner] at hFound
      exact ⟨names, (Option.some.inj hFound).symm, by simpa using hSome⟩
    · rintro ⟨names, rfl, hSome⟩
      exact ⟨_, ⟨names, es, by simpa using hSome, rfl, hDirectory⟩,
        locate?_below_names hw h hDirectory⟩

theorem findsByName_here (hDirectory : w.outermost.at? location = some (.directory es))
    (hRest : FindsByName w rest false location) :
    FindsByName w (.plain "." :: rest) false location := by
  intro base place h
  have hIdle : ¬ Proper "." := by decide
  rw [expandFrom_plain_cons h (by decide) fun _ => by decide]
  simp only [matchesNames_idle hIdle]
  -- a `.` asks for a directory, and there is one if anything lies below
  have hBelow : (∃ es, w.outermost.at? place = some (.directory es)) →
      w.locate? (below base ".") = some place := by
    rintro ⟨es, hes⟩
    have hFollow := (Workspace.followSegment_idle hIdle).mpr
      ⟨rfl, es, by rwa [List.reverse_reverse place]⟩
    rw [locate?_below h (by decide) fun _ => by decide, hFollow]
    simp
  constructor
  · rintro ⟨found, hFound, hLocate⟩
    split_ifs at hFound with hFollow
    · obtain ⟨next, hNext⟩ := Option.isSome_iff_exists.mp hFollow
      obtain ⟨-, hPlace⟩ := (Workspace.followSegment_idle hIdle).mp hNext
      rw [List.reverse_reverse] at hPlace
      exact (hRest (hBelow hPlace)).mp ⟨found, hFound, hLocate⟩
    · simp at hFound
  · rintro ⟨names, rfl, hMatches⟩
    have hPlace := Workspace.directory_of_at?_append hDirectory
    have hFollow := (Workspace.followSegment_idle hIdle).mpr
      ⟨rfl, by rwa [List.reverse_reverse place]⟩
    rw [hFollow, Option.isSome_some, if_pos rfl]
    exact (hRest (hBelow hPlace)).mpr ⟨names, rfl, hMatches⟩

theorem findsByName_name (hDirectory : w.outermost.at? location = some (.directory es))
    (hName : IsName s) (hRest : FindsByName w rest false location) :
    FindsByName w (.plain s :: rest) false location := by
  intro base place h
  rw [expandFrom_plain_cons h hName.no_slash fun _ => hName.ne_empty]
  constructor
  · rintro ⟨found, hFound, hLocate⟩
    split_ifs at hFound with hFollow
    · obtain ⟨next, hNext⟩ := Option.isSome_iff_exists.mp hFollow
      obtain ⟨-, e, he⟩ := (Workspace.followSegment_name hName).mp hNext
      rw [List.reverse_reverse] at he
      obtain ⟨names, hNames, hMatch⟩ :=
        (hRest (locate?_below_name h hName he)).mp ⟨found, hFound, hLocate⟩
      exact ⟨s :: names, by rw [hNames, List.append_assoc, List.singleton_append],
        (matchesNames_plain hName.proper).mpr ⟨names, rfl, hMatch⟩⟩
    · simp at hFound
  · rintro ⟨names, hNames, hMatch⟩
    obtain ⟨others, rfl, hOthers⟩ := (matchesNames_plain hName.proper).mp hMatch
    rw [List.append_cons] at hNames
    rw [hNames] at hDirectory
    obtain ⟨first, hFirst⟩ := exists_at?_of_append hDirectory
    have hFollow : w.followSegment place.reverse s = some (s :: place.reverse) :=
      (Workspace.followSegment_name hName).mpr ⟨rfl, first, by simpa using hFirst⟩
    rw [hFollow, Option.isSome_some, if_pos rfl]
    exact (hRest (locate?_below_name h hName hFirst)).mpr ⟨others, hNames, hOthers⟩

/-- A component that is compared with names: it takes the first name, or after `**` some more. -/
theorem findsByName_matching (c : ComponentPattern) (anyDepth : Bool)
    (hw : w.outermost.Wellformed) (hDirectory : w.outermost.at? location = some (.directory es))
    (hRest : FindsByName w rest false location) (h : w.locate? base = some place) :
    (∃ found ∈ (if anyDepth then matchingAtDepth w c base else matchingEntries w c base).flatMap
        (expandFrom w rest false), w.locate? found = some location) ↔
      ∃ names, location = place ++ names ∧
        (if anyDepth then names.tails.any (matchesFirst c (matchesNames rest false))
          else matchesFirst c (matchesNames rest false) names) = true := by
  simp only [List.mem_flatMap, mem_matching_iff hw h, matchesFirst_iff_namedBy]
  constructor
  · rintro ⟨found, ⟨_, ⟨first, hNamed, rfl, e, hFirst⟩, hFound⟩, hLocation⟩
    obtain ⟨others, hOthers, hMatch⟩ :=
      (hRest (locate?_below_names hw h hFirst)).mp ⟨found, hFound, hLocation⟩
    exact ⟨first ++ others, by rw [hOthers, List.append_assoc], first, others, rfl, hNamed, hMatch⟩
  · rintro ⟨_, hNames, first, others, rfl, hNamed, hMatch⟩
    rw [← List.append_assoc] at hNames
    rw [hNames] at hDirectory
    obtain ⟨e, hFirst⟩ := exists_at?_of_append hDirectory
    obtain ⟨found, hFound, hLocation⟩ :=
      (hRest (locate?_below_names hw h hFirst)).mpr ⟨others, hNames, hMatch⟩
    exact ⟨found, ⟨_, ⟨first, hNamed, rfl, e, hFirst⟩, hFound⟩, hLocation⟩

theorem findsByName_pattern (hw : w.outermost.Wellformed)
    (hDirectory : w.outermost.at? location = some (.directory es)) {tokens : List Token}
    (hSpecials : specials tokens = []) (hRest : FindsByName w rest false location) :
    FindsByName w (.pattern tokens :: rest) anyDepth location := by
  intro base place h
  have hFinds := findsByName_matching (.pattern tokens) anyDepth hw hDirectory hRest h
  simp only [expandFrom, matchesNames, hSpecials, List.flatMap_nil, ite_self, List.append_nil]
  cases anyDepth <;> simpa using hFinds

theorem findsByName_plainAtDepth (hw : w.outermost.Wellformed)
    (hDirectory : w.outermost.at? location = some (.directory es))
    (hRest : FindsByName w rest false location) :
    FindsByName w (.plain s :: rest) true location := by
  intro base place h
  simpa only [expandFrom, matchesNames, if_true] using
    findsByName_matching (.plain s) true hw hDirectory hRest h

/-- The directories that an expansion finds below a path are those to which matching names lead. -/
theorem findsByName (hw : w.outermost.Wellformed) {components : List ComponentPattern}
    (hDescends : ∀ c ∈ components, c.Descends)
    (hDirectory : w.outermost.at? location = some (.directory es)) :
    FindsByName w components anyDepth location := by
  induction components generalizing anyDepth with
  | nil => exact findsByName_nil hw hDirectory
  | cons c rest ih =>
    have hRest : ∀ anyDepth, FindsByName w rest anyDepth location := fun _ =>
      ih fun d hd => hDescends d (by simp [hd])
    cases c with
    | plain s =>
      obtain ⟨hSome, hUp, hSlash⟩ : s ≠ "" ∧ s ≠ ".." ∧ '/' ∉ s.toList :=
        hDescends (.plain s) (by simp)
      cases anyDepth with
      | true => exact findsByName_plainAtDepth hw hDirectory (hRest false)
      | false =>
        by_cases hHere : s = "."
        · rw [hHere]
          exact findsByName_here hDirectory (hRest false)
        · exact findsByName_name hDirectory ⟨hSome, hHere, hUp, hSlash⟩ (hRest false)
    | pattern tokens =>
      exact findsByName_pattern hw hDirectory (hDescends (.pattern tokens) (by simp)) (hRest false)
    | recursive => exact hRest true

end Locations

end MessageLint.Files.Glob
