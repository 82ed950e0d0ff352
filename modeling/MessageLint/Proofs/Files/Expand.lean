import Mathlib.Data.List.TakeWhile
import MessageLint.Proofs.Except
import MessageLint.Proofs.Files.Workspace

/-!
# MessageLint — how the paths that a pattern denotes are spelled

Expanding a pattern builds paths of its own. Unless a segment of the pattern is idle, or is a pattern
that `.` or `..` matches, these paths are plain: neither `.` nor slashes that follow one another occur
in them, even if the pattern itself begins with `./`.

* `ComponentPattern.eq_of_parse_plain` — a component without wildcards is followed as it is written.
* `expandFrom_plain`, `plain_of_expand` — the spelling of the paths.
-/

namespace MessageLint.Files.Glob

open MessageLint.Files.Path

/-! ## Components without wildcards -/

theorem plainText?_append (front back : List Token) :
    plainText? (front ++ back) =
      (plainText? front).bind fun cs => (plainText? back).map (cs ++ ·) := by
  induction front with
  | nil => simp [plainText?]
  | cons t front ih =>
    cases t with
    | char c =>
      rw [List.cons_append, plainText?, plainText?, ih]
      cases plainText? front <;> cases plainText? back <;> rfl
    | anyChar | anyRun | anyComponents | within _ | except _ => rfl

/-- Tokens are plain only if the last one is. -/
theorem plainText?_reverse_cons {t : Token} {tokens : List Token} {text : List Char}
    (h : plainText? (t :: tokens).reverse = some text) :
    ∃ c front, t = .char c ∧ plainText? tokens.reverse = some front ∧ text = front ++ [c] := by
  rw [List.reverse_cons, plainText?_append, Option.bind_eq_some_iff] at h
  obtain ⟨front, hFront, hLast⟩ := h
  cases t with
  | char c =>
    refine ⟨c, front, rfl, hFront, ?_⟩
    simpa [plainText?, eq_comm] using hLast
  | anyChar | anyRun | anyComponents | within _ | except _ => simp [plainText?] at hLast

theorem plainText?_pushComponents (tokens : List Token) :
    plainText? (pushComponents tokens).reverse = none := by
  obtain ⟨rest, hRest⟩ : ∃ rest, pushComponents tokens = .anyComponents :: rest := by
    unfold pushComponents
    split
    · rename_i h
      rw [Bool.and_eq_true, beq_iff_eq, List.head?_eq_some_iff] at h
      exact h.2
    · exact ⟨tokens, rfl⟩
  rw [hRest, Option.eq_none_iff_forall_ne_some]
  intro text hText
  obtain ⟨c, -, h, -⟩ := plainText?_reverse_cons hText
  cases h

theorem classToken?_ne_char {cs after : List Char} {t : Token} (h : classToken? cs = some (t, after))
    (c : Char) : t ≠ .char c := by
  rintro rfl
  unfold classToken? at h
  split at h
  · simp at h
  · split at h <;> simp at h
  · simp at h

/-- If all of a pattern turns out to be plain, so was what had been read of it, and the rest has been
taken character by character. -/
theorem eq_of_parseFrom_plain {fuel position : Nat} {previous : Option Char}
    {tokens out : List Token} {cs text : List Char}
    (h : parseFrom fuel position previous tokens cs = .ok out) (hPlain : plainText? out = some text) :
    ∃ front, plainText? tokens.reverse = some front ∧ (cs.length < fuel → text = front ++ cs) := by
  fun_induction parseFrom fuel position previous tokens cs
  -- every kind of token but a character is refused by `plainText?`, the rest is an error
  case case1 =>
    obtain rfl := Except.ok.inj h
    exact ⟨text, hPlain, by simp⟩
  case case2 =>
    obtain rfl := Except.ok.inj h
    exact ⟨text, hPlain, by simp⟩
  case case3 ih =>
    obtain ⟨front, hFront, -⟩ := ih h
    obtain ⟨c, -, hToken, -⟩ := plainText?_reverse_cons hFront
    cases hToken
  case case5 =>
    obtain rfl := Except.ok.inj h
    rw [plainText?_pushComponents] at hPlain
    cases hPlain
  case case6 ih =>
    obtain ⟨front, hFront, -⟩ := ih h
    rw [plainText?_pushComponents] at hFront
    cases hFront
  case case9 ih =>
    obtain ⟨front, hFront, -⟩ := ih h
    obtain ⟨c, -, hToken, -⟩ := plainText?_reverse_cons hFront
    cases hToken
  case case10 hClass ih =>
    obtain ⟨front, hFront, -⟩ := ih h
    obtain ⟨c, -, hToken, -⟩ := plainText?_reverse_cons hFront
    exact absurd hToken (classToken?_ne_char hClass c)
  case case12 c rest _ _ _ ih =>
    obtain ⟨front, hFront, hText⟩ := ih h
    obtain ⟨d, start, hToken, hStart, rfl⟩ := plainText?_reverse_cons hFront
    obtain rfl := Token.char.inj hToken
    refine ⟨start, hStart, fun hLength => ?_⟩
    rw [hText (by simpa using hLength), List.append_assoc, List.singleton_append]
  all_goals cases h

/-- A component without wildcards is followed as it is written. -/
theorem ComponentPattern.eq_of_parse_plain {s name : String}
    (h : ComponentPattern.parse s = .ok (.plain name)) : name = s := by
  unfold ComponentPattern.parse at h
  obtain ⟨tokens, hTokens, h⟩ := exists_of_bind_eq_ok h
  split at h
  · rename_i text hText
    obtain ⟨front, hFront, hEq⟩ := eq_of_parseFrom_plain hTokens hText
    obtain rfl : front = [] := by simpa [plainText?, eq_comm] using hFront
    have hLength : s.toList.length < s.length + 1 := by
      rw [String.length_toList]
      exact Nat.lt_succ_self _
    rw [hEq hLength, List.nil_append, String.ofList_toList] at h
    simpa [pure, Except.pure, eq_comm] using h
  · split at h <;> simp [pure, Except.pure] at h

/-! ## Patterns that move on -/

/-- A segment of a pattern that moves on: it is not idle, and if it has wildcards then neither `.` nor
`..` matches it. -/
def moves (s : String) : Bool :=
  s != "" && s != "." && match ComponentPattern.parse s with
    | .ok (.pattern tokens) => (specials tokens).isEmpty
    | _ => true

/-- The same for a component that has been read. -/
def ComponentPattern.Moves : ComponentPattern → Prop
  | plain name => Proper name ∧ '/' ∉ name.toList
  | recursive => True
  | pattern tokens => specials tokens = []

theorem ComponentPattern.moves_of_parse {s : String} {c : ComponentPattern} (h : moves s = true)
    (hSlash : '/' ∉ s.toList) (hParse : ComponentPattern.parse s = .ok c) : c.Moves := by
  simp only [moves, hParse, Bool.and_eq_true, bne_iff_ne] at h
  cases c with
  | plain name =>
    obtain rfl := ComponentPattern.eq_of_parse_plain hParse
    exact ⟨h.1, hSlash⟩
  | recursive => trivial
  | pattern tokens => exact List.isEmpty_iff.mp h.2

theorem moves_of_mapM {segments : List String} {components : List ComponentPattern}
    (h : segments.mapM ComponentPattern.parse = .ok components)
    (hMoves : ∀ s ∈ segments, moves s = true ∧ '/' ∉ s.toList) : ∀ c ∈ components, c.Moves := by
  induction segments generalizing components with
  | nil =>
    obtain rfl : components = [] := by simpa [pure, Except.pure, eq_comm] using h
    simp
  | cons s segments ih =>
    obtain ⟨c, rest, hc, hRest, rfl⟩ := mapM_cons_eq_ok h
    obtain ⟨hFirst, hSlash⟩ := hMoves s (by simp)
    intro d hd
    rcases List.mem_cons.mp hd with rfl | hd
    · exact ComponentPattern.moves_of_parse hFirst hSlash hc
    · exact ih hRest (fun t ht => hMoves t (by simp [ht])) d hd

/-! ## The spelling of what is found -/

/-- Where an expansion can stand: at the current directory, or at a plain path. -/
def Stands (p : Path) : Prop := p = "." ∨ p ≠ "" ∧ Plain p

section Expansion

variable {w : Workspace} {base found : Path} {name : String} {e : Entry}

theorem components_ne_here (h : leadsHere base = false) : components base ≠ [.here] := by
  intro hHere
  have hLocation : location base = [.here] := by
    rwa [components_eq, h, if_neg Bool.false_ne_true, List.nil_append] at hHere
  -- no location has a `.` in it
  have hMem : Component.here ∈ location base := by simp [hLocation]
  simp [location] at hMem

theorem below_here (h : components base = [.here]) (name : String) : below base name = name := by
  rw [below, h, beq_self_eq_true, if_pos rfl]

theorem below_eq_join (h : components base ≠ [.here]) (name : String) :
    below base name = join base name := by
  rw [below, beq_false_of_ne h, if_neg Bool.false_ne_true]

theorem below_plain (h : Stands base) (hName : Proper name) (hSlash : '/' ∉ name.toList) :
    below base name ≠ "" ∧ Plain (below base name) := by
  have hSegment := patternSegments_segment hName.1 hSlash
  have hRelative := isAbsolute_of_not_mem hSlash
  rcases h with rfl | ⟨hEmpty, hPlain⟩
  · -- the current directory is left out
    rw [below_here (by decide)]
    exact ⟨hName.1, by simpa [Plain, steps_of_relative hRelative, hSegment] using hName⟩
  · rw [below_eq_join (components_ne_here (leadsHere_of_plain hEmpty hPlain))]
    refine ⟨join_ne_empty hEmpty, fun s hs => ?_⟩
    rw [steps_join hRelative, hSegment, List.mem_append, List.mem_singleton] at hs
    rcases hs with hs | rfl
    · exact hPlain s hs
    · exact hName

theorem directoriesAmong_eq (base : Path) (es : List (String × Entry)) :
    directoriesAmong base es = es.flatMap fun x =>
      (if x.2.isDirectory then [below base x.1] else []) ++
        directoriesBelow (below base x.1) x.2 := by
  induction es with
  | nil => rfl
  | cons x es ih => rw [directoriesAmong, ih, List.flatMap_cons]

theorem directoriesBelow_plain (he : e.Wellformed) (h : Stands base)
    (hFound : found ∈ directoriesBelow base e) : found ≠ "" ∧ Plain found := by
  induction he generalizing base with
  | file content => simp [directoriesBelow] at hFound
  | directory _ names _ ih =>
    rw [directoriesBelow, directoriesAmong_eq, List.mem_flatMap] at hFound
    obtain ⟨x, hx, hFound⟩ := hFound
    have hBelow := below_plain h (names x hx).proper (names x hx).no_slash
    rcases List.mem_append.mp hFound with hFound | hFound
    · split at hFound
      · obtain rfl := List.mem_singleton.mp hFound
        exact hBelow
      · simp at hFound
    · exact ih x hx (.inr hBelow) hFound
  | other => simp [directoriesBelow] at hFound

theorem innerDirectories_plain (hw : w.outermost.Wellformed) (h : Stands base)
    (hFound : found ∈ innerDirectories w base) : found ≠ "" ∧ Plain found := by
  unfold innerDirectories at hFound
  split at hFound
  · rename_i e hEntry
    exact directoriesBelow_plain (Workspace.wellformed_of_entry hw hEntry) h hFound
  · simp at hFound

theorem matchingEntries_plain (hw : w.outermost.Wellformed) {c : ComponentPattern} (h : Stands base)
    (hFound : found ∈ matchingEntries w c base) : found ≠ "" ∧ Plain found := by
  unfold matchingEntries at hFound
  split at hFound
  · rename_i es hEntry
    simp only [List.mem_map, List.mem_filter] at hFound
    obtain ⟨name, ⟨⟨x, hx, rfl⟩, -⟩, rfl⟩ := hFound
    cases Workspace.wellformed_of_entry hw hEntry with
    | directory _ names _ => exact below_plain h (names x hx).proper (names x hx).no_slash
  · simp at hFound

theorem matchingAtDepth_plain (hw : w.outermost.Wellformed) {c : ComponentPattern} (h : Stands base)
    (hFound : found ∈ matchingAtDepth w c base) : found ≠ "" ∧ Plain found := by
  simp only [matchingAtDepth, List.mem_flatMap, List.mem_cons] at hFound
  obtain ⟨outer, rfl | hOuter, hFound⟩ := hFound
  · exact matchingEntries_plain hw h hFound
  · exact matchingEntries_plain hw (.inr (innerDirectories_plain hw h hOuter)) hFound

/-- Components that move on lead to plain paths. -/
theorem expandFrom_plain (hw : w.outermost.Wellformed) {components : List ComponentPattern}
    {anyDepth : Bool} (hMoves : ∀ c ∈ components, c.Moves) (h : Stands base)
    (hFound : found ∈ expandFrom w components anyDepth base) :
    components = [] ∧ found = base ∨ found ≠ "" ∧ Plain found := by
  induction components generalizing anyDepth base with
  | nil =>
    cases anyDepth with
    | true => exact .inr (innerDirectories_plain hw h hFound)
    | false => exact .inl ⟨rfl, List.mem_singleton.mp hFound⟩
  | cons c rest ih =>
    have hRest : ∀ c ∈ rest, c.Moves := fun d hd => hMoves d (by simp [hd])
    -- once the expansion has moved to a plain path, it ends at one
    have hOn : ∀ next, next ≠ "" ∧ Plain next → found ∈ expandFrom w rest false next →
        found ≠ "" ∧ Plain found := by
      intro next hNext hFound
      rcases ih hRest (.inr hNext) hFound with ⟨-, rfl⟩ | hPlain
      · exact hNext
      · exact hPlain
    right
    cases c with
    | plain name =>
      obtain ⟨hName, hSlash⟩ : Proper name ∧ '/' ∉ name.toList :=
        hMoves (.plain name) (by simp)
      simp only [expandFrom] at hFound
      split at hFound
      · obtain ⟨next, hNext, hFound⟩ := List.mem_flatMap.mp hFound
        exact hOn next (matchingAtDepth_plain hw h hNext) hFound
      · have hFound : found ∈ expandFrom w rest false (below base name) := by
          split at hFound
          · split at hFound
            · exact hFound
            · simp at hFound
          · split at hFound
            · exact hFound
            · simp at hFound
        exact hOn _ (below_plain h hName hSlash) hFound
    | pattern tokens =>
      have hSpecials : specials tokens = [] := hMoves (.pattern tokens) (by simp)
      simp only [expandFrom, hSpecials, List.flatMap_nil, ite_self, List.append_nil] at hFound
      split at hFound
      · obtain ⟨next, hNext, hFound⟩ := List.mem_flatMap.mp hFound
        exact hOn next (matchingAtDepth_plain hw h hNext) hFound
      · obtain ⟨next, hNext, hFound⟩ := List.mem_flatMap.mp hFound
        exact hOn next (matchingEntries_plain hw h hNext) hFound
    | recursive =>
      -- nothing has moved yet, but the next component is looked for below
      rw [expandFrom] at hFound
      cases rest with
      | nil => exact innerDirectories_plain hw h hFound
      | cons d rest => exact (ih hRest h hFound).resolve_left fun hEnd => by cases hEnd.1

/-- A `.` at the start of a pattern leaves the expansion where it is. -/
theorem expandFrom_dropWhile {segments : List String} {components : List ComponentPattern}
    (hParse : segments.mapM ComponentPattern.parse = .ok components)
    (hFound : found ∈ expandFrom w components false ".") :
    ∃ rest, (segments.dropWhile (· == ".")).mapM ComponentPattern.parse = .ok rest ∧
      found ∈ expandFrom w rest false "." := by
  induction segments generalizing components with
  | nil => exact ⟨components, hParse, hFound⟩
  | cons s segments ih =>
    by_cases hHere : s = "."
    · obtain ⟨c, others, hc, hOthers, rfl⟩ := mapM_cons_eq_ok hParse
      have hParsed : ComponentPattern.parse "." = .ok (.plain ".") := by rfl
      rw [hHere, hParsed] at hc
      obtain rfl := Except.ok.inj hc
      have hFound : found ∈ expandFrom w others false "." := by
        simp only [expandFrom, Bool.false_eq_true, if_false, beq_self_eq_true, Bool.true_or,
          if_true, below_here (by decide : components "." = [.here])] at hFound
        split at hFound
        · exact hFound
        · simp at hFound
      simpa [hHere] using ih hOthers hFound
    · exact ⟨components, by simpa [hHere] using hParse, hFound⟩

/-- The segments of a pattern all move on; those of a relative one, apart from a `.` at the start. -/
def MovesOn (pattern : Path) : Prop :=
  (if isAbsolute pattern then steps pattern else (steps pattern).dropWhile (· == ".")).all moves =
    true

instance : DecidablePred MovesOn := fun _ => inferInstanceAs (Decidable (_ = true))

theorem moves_of_segments {pattern : Path} {segments : List String}
    {components : List ComponentPattern} (h : ∀ s ∈ segments, moves s = true)
    (hSegments : ∀ s ∈ segments, s ∈ patternSegments pattern)
    (hParse : segments.mapM ComponentPattern.parse = .ok components) : ∀ c ∈ components, c.Moves :=
  moves_of_mapM hParse fun s hs => ⟨h s hs, not_mem_of_mem_patternSegments (hSegments s hs)⟩

/-- A pattern that moves on denotes plain paths. -/
theorem plain_of_expand (hw : w.outermost.Wellformed) {pattern : Path} {paths : List Path}
    (h : expand w pattern = .ok paths) (hMoves : MovesOn pattern)
    (hSome : ∃ s ∈ patternSegments pattern, s ≠ ".") (hFound : found ∈ paths) :
    found ≠ "" ∧ Plain found := by
  unfold expand at h
  obtain ⟨tokens, -, h⟩ := exists_of_bind_eq_ok h
  obtain ⟨components, hParse, h⟩ := exists_of_bind_eq_ok h
  obtain rfl := Except.ok.inj h
  unfold MovesOn at hMoves
  unfold outset at hFound
  cases hAbsolute : isAbsolute pattern with
  | true =>
    -- the root is a plain path itself
    rw [hAbsolute, if_pos rfl, List.all_eq_true] at hMoves
    rw [hAbsolute, if_pos rfl] at hFound
    have hComponents := moves_of_segments hMoves
      (fun s hs => mem_patternSegments_of_mem_steps hs) hParse
    have hRoot : ("/" : Path) ≠ "" ∧ Plain "/" := by decide
    rcases expandFrom_plain hw hComponents (.inr hRoot) hFound with ⟨-, rfl⟩ | hPlain
    · exact hRoot
    · exact hPlain
  | false =>
    rw [hAbsolute, if_neg Bool.false_ne_true, steps_of_relative hAbsolute, List.all_eq_true]
      at hMoves
    rw [hAbsolute, if_neg Bool.false_ne_true] at hFound
    rw [steps_of_relative hAbsolute] at hParse
    obtain ⟨rest, hRest, hFound⟩ := expandFrom_dropWhile hParse hFound
    have hComponents := moves_of_segments hMoves
      (fun s hs => (List.dropWhile_sublist _).subset hs) hRest
    refine (expandFrom_plain hw hComponents (.inl rfl) hFound).resolve_left ?_
    -- something is left of the pattern, so the expansion has moved
    rintro ⟨rfl, -⟩
    obtain ⟨s, hs, hMove⟩ := hSome
    cases hLeft : (patternSegments pattern).dropWhile (· == ".") with
    | nil =>
      have hAll := List.dropWhile_eq_nil_iff.mp hLeft s hs
      exact hMove (by simpa using hAll)
    | cons first others =>
      rw [hLeft] at hRest
      obtain ⟨c, cs, -, -, hCons⟩ := mapM_cons_eq_ok hRest
      cases hCons

end Expansion

end MessageLint.Files.Glob
