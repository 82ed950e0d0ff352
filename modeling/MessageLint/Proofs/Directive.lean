import Mathlib.Data.List.Nodup
import Mathlib.Data.List.TakeWhile
import MessageLint.Directive

/-!
# MessageLint — a directive is known by its first word

A comment is trimmed and tried against the names of directives, of which one extends another, and
the first name it begins with decides. What this comes to can be said without trying: the first word
of the comment is a name or it is not, and the rules are those that the words after it name.

* `wordsFrom_eq` — words are what blanks leave apart.
* `trimChars_spec`, `firstWord_of_trimmed` — trimming keeps the first word and loses only blanks.
* `parseWith?_eq_some_iff` — names in an order in which none is the beginning of a later one.
* `mem_namedRules_iff` — the rules of a directive.
* `parse?_firstWord` — the grammar of directives.
-/

namespace MessageLint

/-! ## Words and blanks -/

namespace Text

variable {cs word rest lead tail : List Char} {c : Char}

/-- The first maximal run of characters that are not blank, and what follows it. -/
structure FirstWord (cs word rest : List Char) : Prop where
  split : ∃ lead, cs = lead ++ word ++ rest ∧ ∀ c ∈ lead, isBlank c = true
  ne_nil : word ≠ []
  solid : ∀ c ∈ word, isBlank c = false
  bounded : ∀ c ∈ rest.head?, isBlank c = true

/-- A first word, by computation. -/
theorem FirstWord.of_all (hSplit : cs = lead ++ word ++ rest) (hLead : lead.all isBlank = true)
    (hne : word ≠ []) (hWord : (word.all fun c => !isBlank c) = true)
    (hRest : rest.head?.all isBlank = true) : FirstWord cs word rest where
  split := ⟨lead, hSplit, by simpa using hLead⟩
  ne_nil := hne
  solid := by simpa using hWord
  bounded := by
    intro c hc
    rw [Option.mem_def.mp hc] at hRest
    exact hRest

/-- Past its leading blanks a text begins with its first word. -/
theorem FirstWord.dropWhile_eq (h : FirstWord cs word rest) :
    cs.dropWhile isBlank = word ++ rest := by
  obtain ⟨lead, rfl, hLead⟩ := h.split
  rw [List.append_assoc, List.dropWhile_append_of_pos hLead]
  obtain ⟨c, others, rfl⟩ := List.exists_cons_of_ne_nil h.ne_nil
  have hc : isBlank c = false := h.solid c List.mem_cons_self
  rw [List.cons_append, List.dropWhile_cons_of_neg (by simp [hc])]

/-- Of two ways to cut a text, the run without blanks that one begins with cannot go on past a place
where the other comes to a blank. -/
theorem prefix_of_bounded {word' rest' : List Char} (h : word ++ rest = word' ++ rest')
    (hRest : ∀ c ∈ rest.head?, isBlank c = true) (hWord' : ∀ c ∈ word', isBlank c = false) :
    word' <+: word := by
  rcases List.append_eq_append_iff.mp h with ⟨more, rfl, rfl⟩ | ⟨more, rfl, -⟩
  · cases more with
    | nil => exact ⟨[], by simp⟩
    | cons c more =>
      have hSolid : isBlank c = false := hWord' c (by simp)
      have hBlank : isBlank c = true := hRest c rfl
      rw [hSolid] at hBlank
      cases hBlank
  · exact List.prefix_append word' more

/-- There is one first word. -/
theorem FirstWord.unique {word' rest' : List Char} (h : FirstWord cs word rest)
    (h' : FirstWord cs word' rest') : word = word' ∧ rest = rest' := by
  have hEq : word ++ rest = word' ++ rest' := h.dropWhile_eq.symm.trans h'.dropWhile_eq
  have hShort : word <+: word' := prefix_of_bounded hEq.symm h'.bounded h.solid
  have hLong : word' <+: word := prefix_of_bounded hEq h.bounded h'.solid
  obtain rfl : word = word' := hShort.eq_of_length_le hLong.length_le
  exact ⟨rfl, List.append_cancel_left hEq⟩

/-- What trimming takes away are blanks, and what it leaves does not begin with one. -/
theorem trimChars_spec (cs : List Char) :
    ∃ lead tail, cs = lead ++ trimChars cs ++ tail ∧ (∀ c ∈ lead, isBlank c = true) ∧
      (∀ c ∈ tail, isBlank c = true) ∧ ∀ c ∈ (trimChars cs).head?, isBlank c = false := by
  let inner : List Char := cs.dropWhile isBlank
  let tail : List Char := (inner.reverse.takeWhile isBlank).reverse
  have hInner : inner = trimChars cs ++ tail := by
    have hSplit : inner.reverse.takeWhile isBlank ++ inner.reverse.dropWhile isBlank =
        inner.reverse := List.takeWhile_append_dropWhile
    show inner = (inner.reverse.dropWhile isBlank).reverse ++ tail
    rw [← List.reverse_append, hSplit, List.reverse_reverse]
  refine ⟨cs.takeWhile isBlank, tail, ?_, ?_, ?_, ?_⟩
  · rw [List.append_assoc, ← hInner]
    exact List.takeWhile_append_dropWhile.symm
  · intro c hc
    exact List.mem_takeWhile_imp hc
  · intro c hc
    exact List.mem_takeWhile_imp (List.mem_reverse.mp hc)
  · -- the first character that is left is the first one after the leading blanks
    intro c hc
    have hHead : c ∈ inner.head? := by
      rw [hInner]
      cases hTrim : trimChars cs with
      | nil => rw [hTrim] at hc; cases hc
      | cons d others => rw [hTrim] at hc; exact hc
    have hNot := List.head?_dropWhile_not isBlank cs
    rw [show (cs.dropWhile isBlank).head? = some c from hHead] at hNot
    exact hNot

/-- The first word of a text is where its trimmed form begins, and ends there at the same place. -/
theorem firstWord_of_trimmed {mid : List Char} (hLead : ∀ c ∈ lead, isBlank c = true)
    (hTail : ∀ c ∈ tail, isBlank c = true) (hMid : ∀ c ∈ mid.head?, isBlank c = false)
    (hne : word ≠ []) (hWord : ∀ c ∈ word, isBlank c = false) :
    FirstWord (lead ++ mid ++ tail) word rest ↔
      ∃ inner, mid = word ++ inner ∧ (∀ c ∈ inner.head?, isBlank c = true) ∧
        rest = inner ++ tail := by
  constructor
  · intro h
    have hEq : mid ++ tail = word ++ rest := by
      rw [← h.dropWhile_eq, List.append_assoc, List.dropWhile_append_of_pos hLead]
      cases mid with
      | nil =>
        -- a text of blanks has no first word
        have hDrop := h.dropWhile_eq
        rw [List.append_nil, List.dropWhile_append_of_pos hLead,
          List.dropWhile_eq_nil_iff.mpr hTail] at hDrop
        exact absurd (List.append_eq_nil_iff.mp hDrop.symm).1 hne
      | cons c mid =>
        have hc : isBlank c = false := hMid c rfl
        rw [List.cons_append, List.dropWhile_cons_of_neg (by simp [hc])]
    -- the word cannot reach into the blanks at the end
    obtain ⟨inner, rfl⟩ := prefix_of_bounded hEq (fun c hc => hTail c (List.mem_of_head? hc)) hWord
    rw [List.append_assoc] at hEq
    obtain rfl : inner ++ tail = rest := List.append_cancel_left hEq
    refine ⟨inner, rfl, ?_, rfl⟩
    intro c hc
    refine h.bounded c ?_
    cases inner with
    | nil => cases hc
    | cons d inner => exact hc
  · rintro ⟨inner, rfl, hInner, rfl⟩
    refine ⟨⟨lead, by simp, hLead⟩, hne, hWord, ?_⟩
    intro c hc
    cases inner with
    | nil => exact hTail c (List.mem_of_head? hc)
    | cons d inner => exact hInner c hc

/-- The words of a text are the pieces between its blanks, less the empty ones. -/
theorem wordsFrom_eq (cs : List Char) {acc : List Char} (hAcc : ∀ c ∈ acc, isBlank c = false) :
    wordsFrom acc cs =
      ((acc.reverse ++ cs).splitOnP isBlank).filter fun piece => !piece.isEmpty := by
  have hSolid : ∀ c ∈ acc.reverse, isBlank c = false := fun c hc => hAcc c (List.mem_reverse.mp hc)
  induction cs generalizing acc with
  | nil =>
    rw [List.append_nil, List.splitOnP_eq_singleton hSolid, wordsFrom]
    cases acc <;> simp
  | cons c cs ih =>
    rw [wordsFrom]
    by_cases hc : isBlank c = true
    · -- a blank ends the current piece
      rw [if_pos hc, List.splitOnP_append_cons_of_forall_mem hSolid c hc, List.filter_cons]
      have hRest := @ih [] (by simp) (by simp)
      rw [List.reverse_nil, List.nil_append] at hRest
      rw [hRest]
      cases acc <;> simp
    · rw [Bool.not_eq_true] at hc
      have hAcc' : ∀ d ∈ c :: acc, isBlank d = false := by
        intro d hd
        rcases List.mem_cons.mp hd with rfl | hd
        · exact hc
        · exact hAcc d hd
      have hRest := ih hAcc' fun d hd => hAcc' d (List.mem_reverse.mp hd)
      rw [if_neg (by simp [hc]), hRest, List.reverse_cons, List.append_assoc, List.singleton_append]

end Text

namespace Directive

open Text

variable {cs rest xs ys : List Char} {rule : Rule} {c : Char}

/-! ## The rules that words name -/

/-- One of the words of a text names the rule. -/
def Named (cs : List Char) (rule : Rule) : Prop :=
  ∃ word ∈ cs.splitOnP isBlank, Rule.parse? (String.ofList word) = some rule

theorem not_named_nil : ¬ Named [] rule := by
  rintro ⟨word, hWord, hRule⟩
  rw [List.splitOnP_nil, List.mem_singleton] at hWord
  subst hWord
  rw [show Rule.parse? (String.ofList []) = none by decide] at hRule
  cases hRule

/-- What is named on either side of a blank does not depend on the other side. -/
theorem named_append_blank (hc : isBlank c = true) :
    Named (xs ++ c :: ys) rule ↔ Named xs rule ∨ Named ys rule := by
  simp only [Named, List.splitOnP_append_cons xs ys hc, List.mem_append, or_and_right, exists_or]

theorem not_named_of_blank (h : ∀ c ∈ cs, isBlank c = true) : ¬ Named cs rule := by
  induction cs with
  | nil => exact not_named_nil
  | cons c cs ih =>
    have hc : isBlank c = true := h c List.mem_cons_self
    rw [← List.nil_append (c :: cs), named_append_blank hc]
    rintro (hNil | hRest)
    · exact not_named_nil hNil
    · exact ih (fun d hd => h d (List.mem_cons_of_mem _ hd)) hRest

/-- Blanks at the end name nothing. -/
theorem named_append_of_blank (h : ∀ c ∈ ys, isBlank c = true) :
    Named (xs ++ ys) rule ↔ Named xs rule := by
  cases ys with
  | nil => rw [List.append_nil]
  | cons c ys =>
    rw [named_append_blank (h c List.mem_cons_self), or_iff_left]
    exact not_named_of_blank fun d hd => h d (List.mem_cons_of_mem _ hd)

theorem mem_filterMap_words_iff :
    rule ∈ (Text.words (String.ofList cs)).filterMap Rule.parse? ↔ Named cs rule := by
  have hWords : Text.words (String.ofList cs) =
      ((cs.splitOnP isBlank).filter fun piece => !piece.isEmpty).map String.ofList := by
    rw [Text.words, String.toList_ofList, wordsFrom_eq cs (by simp)]
    rfl
  rw [hWords, List.filterMap_map, List.mem_filterMap]
  constructor
  · rintro ⟨word, hWord, hRule⟩
    exact ⟨word, (List.mem_filter.mp hWord).1, hRule⟩
  · rintro ⟨word, hWord, hRule⟩
    refine ⟨word, List.mem_filter.mpr ⟨hWord, ?_⟩, hRule⟩
    -- the empty piece is no name
    cases word with
    | nil =>
      rw [show Rule.parse? (String.ofList []) = none by decide] at hRule
      cases hRule
    | cons c word => rfl

theorem mem_suppressible_of_named (h : Named cs rule) : rule ∈ Rule.suppressible := by
  obtain ⟨word, -, hRule⟩ := h
  exact List.mem_of_find?_eq_some hRule

theorem namedRules_sublist (s : String) : (namedRules s).Sublist Rule.suppressible := by
  simp only [namedRules]
  split
  · exact .refl _
  · exact List.filter_sublist

theorem mem_namedRules_iff :
    rule ∈ namedRules (String.ofList cs) ↔
      Named cs rule ∨ (¬ ∃ r, Named cs r) ∧ rule ∈ Rule.suppressible := by
  have hEmpty : ((Text.words (String.ofList cs)).filterMap Rule.parse?).isEmpty = true ↔
      ¬ ∃ r, Named cs r := by
    simp only [List.isEmpty_iff, List.eq_nil_iff_forall_not_mem, mem_filterMap_words_iff,
      not_exists]
  simp only [namedRules]
  split
  · rename_i hNone
    have hNot := hEmpty.mp hNone
    constructor
    · exact fun hRule => Or.inr ⟨hNot, hRule⟩
    · rintro (hNamed | ⟨-, hRule⟩)
      · exact absurd ⟨rule, hNamed⟩ hNot
      · exact hRule
  · rename_i hSome
    rw [hEmpty] at hSome
    rw [List.mem_filter, List.contains_iff_mem, mem_filterMap_words_iff]
    constructor
    · exact fun h => Or.inl h.2
    · rintro (hNamed | ⟨hNot, -⟩)
      · exact ⟨mem_suppressible_of_named hNamed, hNamed⟩
      · exact absurd hNot hSome

theorem namedRules_congr {cs' : List Char} (h : ∀ rule, Named cs rule ↔ Named cs' rule) :
    namedRules (String.ofList cs) = namedRules (String.ofList cs') := by
  have hMem : ∀ rule, rule ∈ (Text.words (String.ofList cs)).filterMap Rule.parse? ↔
      rule ∈ (Text.words (String.ofList cs')).filterMap Rule.parse? := by
    intro rule
    rw [mem_filterMap_words_iff, mem_filterMap_words_iff, h]
  have hEmpty : ((Text.words (String.ofList cs)).filterMap Rule.parse?).isEmpty =
      ((Text.words (String.ofList cs')).filterMap Rule.parse?).isEmpty := by
    rw [Bool.eq_iff_iff]
    simp only [List.isEmpty_iff, List.eq_nil_iff_forall_not_mem, hMem]
  simp only [namedRules, hEmpty]
  refine if_congr Iff.rfl rfl (List.filter_congr fun rule _ => ?_)
  rw [Bool.eq_iff_iff, List.contains_iff_mem, List.contains_iff_mem, hMem]

/-! ## The name of a directive -/

theorem dropLead?_eq_some_iff {lead : List Char} :
    dropLead? lead cs = some rest ↔ cs = lead ++ rest := by
  induction lead generalizing cs with
  | nil => simp [dropLead?]
  | cons l lead ih =>
    cases cs with
    | nil => simp [dropLead?]
    | cons c cs =>
      rw [dropLead?]
      by_cases hl : l = c
      · simp [hl, ih]
      · simp [hl, Ne.symm hl]

theorem ofRest?_eq_some_iff {kind : DirectiveKind} {d : Directive} :
    ofRest? kind rest = some d ↔
      (∀ c ∈ rest.head?, isBlank c = true) ∧ d = ⟨kind, namedRules (String.ofList rest)⟩ := by
  cases rest with
  | nil =>
    rw [ofRest?, Option.some.injEq, eq_comm]
    simp
  | cons c rest =>
    rw [ofRest?, Option.ite_none_right_eq_some, Option.some.injEq, eq_comm (a := d)]
    simp

/-- Trying names one after the other finds the one that the text begins with as a word, as long as
no name is the beginning of a later one. Without this order a name could be taken for the beginning
of its extension. -/
theorem parseWith?_eq_some_iff {names : List (String × DirectiveKind)} {d : Directive}
    (hOrder : names.Pairwise fun a b => ¬ a.1.toList <+: b.1.toList)
    (hSolid : ∀ entry ∈ names, ∀ c ∈ entry.1.toList, isBlank c = false) :
    parseWith? cs names = some d ↔
      ∃ name rest, (name, d.kind) ∈ names ∧ cs = name.toList ++ rest ∧
        (∀ c ∈ rest.head?, isBlank c = true) ∧ d.rules = namedRules (String.ofList rest) := by
  induction names with
  | nil => simp [parseWith?]
  | cons entry others ih =>
    obtain ⟨name, kind⟩ := entry
    rw [List.pairwise_cons] at hOrder
    have hOthers := ih hOrder.2 fun entry hEntry => hSolid entry (List.mem_cons_of_mem _ hEntry)
    rw [parseWith?]
    cases hDrop : dropLead? name.toList cs with
    | none =>
      -- the text does not begin with the first name
      have hNot : ∀ rest, cs ≠ name.toList ++ rest := by
        intro rest hEq
        rw [dropLead?_eq_some_iff.mpr hEq] at hDrop
        cases hDrop
      simp only [hOthers]
      constructor
      · rintro ⟨other, rest, hMem, hRest⟩
        exact ⟨other, rest, List.mem_cons_of_mem _ hMem, hRest⟩
      · rintro ⟨other, rest, hMem, hEq, hRest⟩
        rcases List.mem_cons.mp hMem with hHead | hMem
        · obtain ⟨rfl, -⟩ := Prod.mk.inj hHead
          exact absurd hEq (hNot rest)
        · exact ⟨other, rest, hMem, hEq, hRest⟩
    | some after =>
      -- it does: then the first word extends this name or is this name
      rw [dropLead?_eq_some_iff] at hDrop
      simp only [ofRest?_eq_some_iff]
      constructor
      · rintro ⟨hBounded, rfl⟩
        exact ⟨name, after, List.mem_cons_self, hDrop, hBounded, rfl⟩
      · rintro ⟨other, rest, hMem, hEq, hBounded, hRules⟩
        rcases List.mem_cons.mp hMem with hHead | hMem
        · obtain ⟨rfl, hKind⟩ := Prod.mk.inj hHead
          obtain rfl : rest = after := List.append_cancel_left (hEq.symm.trans hDrop)
          refine ⟨hBounded, ?_⟩
          cases d
          simp_all
        · -- a later name that the text has as its first word would extend this one
          have hName : ∀ c ∈ name.toList, isBlank c = false :=
            hSolid (name, kind) List.mem_cons_self
          have hPrefix := prefix_of_bounded (hEq.symm.trans hDrop) hBounded hName
          exact absurd hPrefix (hOrder.1 (other, d.kind) hMem)

/-! ## The grammar -/

/-- What a comment says is decided by its first word and what follows that. -/
theorem parse?_eq_some_iff {s : String} {d : Directive} :
    parse? s = some d ↔
      ∃ name rest, (name, d.kind) ∈ names ∧ FirstWord s.toList name.toList rest ∧
        d.rules = namedRules (String.ofList rest) := by
  have hOrder : names.Pairwise fun a b => ¬ a.1.toList <+: b.1.toList := by decide
  have hNames : ∀ entry ∈ names, entry.1.toList ≠ [] ∧ ∀ c ∈ entry.1.toList, isBlank c = false := by
    have hTable : (names.all fun entry =>
        !entry.1.toList.isEmpty && entry.1.toList.all fun c => !isBlank c) = true := by decide
    intro entry hEntry
    simpa using List.all_eq_true.mp hTable entry hEntry
  obtain ⟨lead, tail, hSplit, hLead, hTail, hMid⟩ := trimChars_spec s.toList
  have hFirst : ∀ {name kind rest}, (name, kind) ∈ names →
      (FirstWord s.toList name.toList rest ↔ ∃ inner,
        trimChars s.toList = name.toList ++ inner ∧ (∀ c ∈ inner.head?, isBlank c = true) ∧
          rest = inner ++ tail) := by
    intro name kind rest hMem
    have hName := hNames _ hMem
    conv_lhs => rw [hSplit]
    exact firstWord_of_trimmed hLead hTail hMid hName.1 hName.2
  -- the blanks at the end that were trimmed name no rule
  have hRules : ∀ inner, namedRules (String.ofList (inner ++ tail)) =
      namedRules (String.ofList inner) :=
    fun inner => namedRules_congr fun rule => named_append_of_blank hTail
  rw [parse?, parseWith?_eq_some_iff hOrder fun entry hEntry => (hNames entry hEntry).2]
  constructor
  · rintro ⟨name, inner, hMem, hTrim, hBounded, hEq⟩
    refine ⟨name, inner ++ tail, hMem, (hFirst hMem).mpr ⟨inner, hTrim, hBounded, rfl⟩, ?_⟩
    rw [hEq, hRules]
  · rintro ⟨name, rest, hMem, hWord, hEq⟩
    obtain ⟨inner, hTrim, hBounded, rfl⟩ := (hFirst hMem).mp hWord
    exact ⟨name, inner, hMem, hTrim, hBounded, by rw [hEq, hRules]⟩

/-- A directive is about rules that can be switched off. -/
theorem mem_suppressible_of_parse? {s : String} {d : Directive} (h : parse? s = some d)
    (hRule : rule ∈ d.rules) : rule ∈ Rule.suppressible := by
  obtain ⟨name, rest, -, -, hRules⟩ := parse?_eq_some_iff.mp h
  rw [hRules] at hRule
  exact (namedRules_sublist _).subset hRule

/-- Two comments with one first word, of which the others name the same rules, say the same. -/
theorem parse?_of_firstWord {s s' : String} {word rest rest' : List Char} {d : Directive}
    (h : FirstWord s.toList word rest) (h' : FirstWord s'.toList word rest')
    (hNamed : ∀ rule, Named rest rule ↔ Named rest' rule) (hd : parse? s = some d) :
    parse? s' = some d := by
  obtain ⟨name, after, hMem, hWord, hRules⟩ := parse?_eq_some_iff.mp hd
  obtain ⟨rfl, rfl⟩ := hWord.unique h
  exact parse?_eq_some_iff.mpr ⟨name, rest', hMem, h', hRules.trans (namedRules_congr hNamed)⟩

/-- A comment holds a directive exactly if its first word is the name of one. It is then about the
rules that the words after it name, and about all that can be switched off if they name none.
Nothing else matters: comments with the same first word whose other words name the same rules, in
any order, any number of times, among any other words and between any blanks, hold the same
directive or none. -/
theorem parse?_firstWord (s : String) :
    ((parse? s).isSome ↔
      ∃ name ∈ ["msglint-disable-next-line", "msglint-disable", "msglint-enable"],
        ∃ rest, FirstWord s.toList name.toList rest) ∧
    (∀ name kind rest,
      (name, kind) ∈ [("msglint-disable-next-line", DirectiveKind.disableNextLine),
        ("msglint-disable", .disable), ("msglint-enable", .enable)] →
      FirstWord s.toList name.toList rest →
      ∃ rules, parse? s = some ⟨kind, rules⟩ ∧ rules.Nodup ∧
        ∀ rule, rule ∈ rules ↔ Named rest rule ∨ (¬ ∃ r, Named rest r) ∧
          rule ∈ [.messageExpression, .unlocalizedAttribute, .unlocalizedText]) ∧
    ∀ s' word rest rest', FirstWord s.toList word rest → FirstWord s'.toList word rest' →
      (∀ rule, Named rest rule ↔ Named rest' rule) → parse? s' = parse? s := by
  have hParsed : ∀ {name kind rest}, (name, kind) ∈ names → FirstWord s.toList name.toList rest →
      parse? s = some ⟨kind, namedRules (String.ofList rest)⟩ := by
    intro name kind rest hMem hWord
    exact parse?_eq_some_iff.mpr ⟨name, rest, hMem, hWord, rfl⟩
  refine ⟨?_, ?_, ?_⟩
  · rw [Option.isSome_iff_exists]
    constructor
    · rintro ⟨d, hd⟩
      obtain ⟨name, rest, hMem, hWord, -⟩ := parse?_eq_some_iff.mp hd
      have hName : name ∈ names.map (·.1) := List.mem_map_of_mem (f := (·.1)) hMem
      exact ⟨name, hName, rest, hWord⟩
    · rintro ⟨name, hName, rest, hWord⟩
      obtain ⟨⟨_, kind⟩, hMem, rfl⟩ := List.mem_map.mp (show name ∈ names.map (·.1) from hName)
      exact ⟨_, hParsed hMem hWord⟩
  · intro name kind rest hMem hWord
    refine ⟨_, hParsed hMem hWord, ?_, fun rule => mem_namedRules_iff⟩
    exact (show Rule.suppressible.Nodup by decide).sublist (namedRules_sublist _)
  · intro s' word rest rest' hWord hWord' hNamed
    apply Option.ext
    intro d
    constructor
    · exact parse?_of_firstWord hWord' hWord fun rule => (hNamed rule).symm
    · exact parse?_of_firstWord hWord hWord' hNamed

-- a word that goes on after a name is no name
example : parse? "msglint-disable-next-lines unlocalized-text" = none := by decide

/-- Words after the name of a directive: an unknown one, a rule in two spellings, and the name of
another directive. -/
def looseWords : String :=
  "\u00a0later UNLOCALIZED-text unlocalized-text\tmsglint-enable "

/-- A directive after an ideographic space and before such words says the same as a plain one. -/
theorem parse?_looseWords :
    FirstWord ("\u3000msglint-disable" ++ looseWords).toList "msglint-disable".toList
      looseWords.toList ∧
    (∃ rules, parse? ("\u3000msglint-disable" ++ looseWords) = some ⟨.disable, rules⟩ ∧
      .unlocalizedText ∈ rules ∧ .messageExpression ∉ rules) ∧
    parse? "msglint-disable unlocalized-text" = parse? ("\u3000msglint-disable" ++ looseWords) := by
  have hWord : FirstWord ("\u3000msglint-disable" ++ looseWords).toList "msglint-disable".toList
      looseWords.toList := by
    have hSplit : ("\u3000msglint-disable" ++ looseWords).toList =
        ['\u3000'] ++ "msglint-disable".toList ++ looseWords.toList := by decide
    exact .of_all hSplit (by decide) (by decide) (by decide) (by decide)
  have hPlain : FirstWord "msglint-disable unlocalized-text".toList "msglint-disable".toList
      " unlocalized-text".toList := by
    have hSplit : "msglint-disable unlocalized-text".toList =
        [] ++ "msglint-disable".toList ++ " unlocalized-text".toList := by decide
    exact .of_all hSplit (by decide) (by decide) (by decide) (by decide)
  have hText : Named looseWords.toList .unlocalizedText := by
    unfold Named
    decide
  have hOther : ¬ Named looseWords.toList .messageExpression := by
    unfold Named
    decide
  have hNamed : ∀ rule, Named looseWords.toList rule ↔ Named " unlocalized-text".toList rule := by
    intro rule
    unfold Named
    cases rule <;> decide
  obtain ⟨-, hRules, hSame⟩ := parse?_firstWord ("\u3000msglint-disable" ++ looseWords)
  obtain ⟨rules, hParsed, -, hMem⟩ := hRules "msglint-disable" .disable _ (by decide) hWord
  refine ⟨hWord, ⟨rules, hParsed, (hMem _).mpr (Or.inl hText), ?_⟩,
    hSame _ _ _ _ hWord hPlain hNamed⟩
  rw [hMem]
  rintro (hNamed | ⟨hNone, -⟩)
  · exact hOther hNamed
  · exact hNone ⟨_, hText⟩

end Directive

end MessageLint
