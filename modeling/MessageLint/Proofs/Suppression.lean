import Mathlib.Data.List.Induction
import MessageLint.Proofs.Directive
import MessageLint.Suppression

/-!
# MessageLint — the last directive wins

Comments are read in line order: ranges are opened, merged, closed and flushed at the end. What
comes out can be said without ranges. A rule is switched off on a line if the line before asks for
it, or if the last directive up to the line that switches the rule at all switches it off.

* `opened_follow`, `covers_follow`, `skips_follow` — what one directive does to one rule.
* `Reading.Sound` — the invariant that relates the ranges of a rule to the comments read so far.
* `sound_foldl` — it holds after every list of comments in line order.
* `ignores_ofSorted_iff` — the law for the finished suppression.
-/

namespace MessageLint

/-- Does the comment hold a directive of this kind that is about the rule? -/
def Comment.directs (c : Comment) (kind : DirectiveKind) (rule : Rule) : Bool :=
  match Directive.parse? c.text with
  | some d => d.kind == kind && d.rules.contains rule
  | none => false

namespace Suppression

/-- The comments up to a line that switch the rule off or on. -/
def switches (comments : List Comment) (line : Nat) (rule : Rule) : List Comment :=
  comments.filter fun c => c.line ≤ line && (c.directs .disable rule || c.directs .enable rule)

/-- Some comment switches the rule, and the last one switches it off. -/
def SwitchedOff (comments : List Comment) (line : Nat) (rule : Rule) : Prop :=
  ∃ c, (switches comments line rule).getLast? = some c ∧ c.directs .disable rule

variable {r : Reading} {rule ρ : Rule} {line l first : Nat} {d : Directive} {c : Comment}
  {comments : List Comment}

/-! ## The stated law, one comment at a time -/

theorem directs_iff (hc : Directive.parse? c.text = some d) {kind : DirectiveKind} :
    c.directs kind rule = true ↔ d.kind = kind ∧ rule ∈ d.rules := by
  simp [Comment.directs, hc]

/-- The last comment decides on the lines it reaches, if it switches the rule. -/
theorem switchedOff_append (hLine : c.line ≤ line)
    (hSwitch : c.directs .disable rule ∨ c.directs .enable rule) :
    SwitchedOff (comments ++ [c]) line rule ↔ c.directs .disable rule := by
  simp [SwitchedOff, switches, List.filter_append, hLine, hSwitch]

/-- A comment does not count on the lines before it, nor if it does not switch the rule. -/
theorem switchedOff_append_of_not
    (h : ¬ (c.line ≤ line ∧ (c.directs .disable rule ∨ c.directs .enable rule))) :
    SwitchedOff (comments ++ [c]) line rule ↔ SwitchedOff comments line rule := by
  have hDropped :
      (decide (c.line ≤ line) && (c.directs .disable rule || c.directs .enable rule)) = false := by
    rw [← Bool.not_eq_true]
    simpa using h
  simp only [SwitchedOff, switches, List.filter_append, List.filter_cons, hDropped,
    List.filter_nil, Bool.false_eq_true, if_false, List.append_nil]

/-! ## Open ranges -/

theorem lookup_cons_ne {key : Rule} (h : ρ ≠ key) (value : Nat) (opened : List (Rule × Nat)) :
    ((key, value) :: opened).lookup ρ = opened.lookup ρ := by
  rw [List.lookup_cons, beq_false_of_ne h]

/-- Where no rule has two open ranges, an entry is what the look-up finds. -/
theorem mem_opened_iff {opened : List (Rule × Nat)} (h : (opened.map (·.1)).Nodup) :
    (rule, first) ∈ opened ↔ opened.lookup rule = some first := by
  induction opened with
  | nil => simp
  | cons entry opened ih =>
    obtain ⟨key, value⟩ := entry
    rw [List.map_cons, List.nodup_cons] at h
    by_cases hKey : rule = key
    · subst hKey
      have hOthers : (rule, first) ∉ opened := fun hMem =>
        h.1 (List.mem_map_of_mem (f := (·.1)) hMem)
      simp [hOthers, eq_comm]
    · rw [lookup_cons_ne hKey, ← ih h.2]
      simp [hKey]

theorem lookup_filter_ne (opened : List (Rule × Nat)) :
    (opened.filter (·.1 != rule)).lookup ρ = if ρ = rule then none else opened.lookup ρ := by
  induction opened with
  | nil => simp
  | cons entry opened ih =>
    obtain ⟨key, value⟩ := entry
    by_cases hKey : key = rule
    · -- an entry of the rule is dropped
      subst hKey
      rw [List.filter_cons_of_neg (by simp), ih]
      by_cases hρ : ρ = key
      · simp [hρ]
      · rw [lookup_cons_ne hρ]
    · rw [List.filter_cons_of_pos (by simpa using hKey)]
      by_cases hρ : ρ = key
      · subst hρ
        simp [hKey]
      · rw [lookup_cons_ne hρ, lookup_cons_ne hρ, ih]

namespace Reading

/-- A settled range of the rule contains the line. -/
def Covers (r : Reading) (rule : Rule) (line : Nat) : Prop :=
  ∃ range, (rule, range) ∈ r.settled.ranges ∧ range.contains line

/-- No rule has two open ranges. -/
def Distinct (r : Reading) : Prop := (r.opened.map (·.1)).Nodup

/-! ## One directive and one rule -/

theorem distinct_openRange (h : r.Distinct) : (openRange line r rule).Distinct := by
  cases hOpen : r.opened.lookup rule with
  | some _ => simpa only [openRange, hOpen] using h
  | none =>
    -- no open range was found, so the rule is not among the keys
    have hNew : rule ∉ r.opened.map (·.1) := by
      intro hMem
      obtain ⟨⟨key, value⟩, hEntry, rfl⟩ := List.mem_map.mp hMem
      rw [mem_opened_iff h, hOpen] at hEntry
      cases hEntry
    simp only [openRange, hOpen, Distinct, List.map_append]
    rw [List.nodup_append]
    refine ⟨h, by simp, ?_⟩
    intro key hKey new hNewKey hEq
    simp only [List.map_cons, List.map_nil, List.mem_singleton] at hNewKey
    exact hNew (hNewKey ▸ hEq ▸ hKey)

theorem opened_openRange :
    (openRange line r rule).opened.lookup ρ =
      if ρ = rule then some ((r.opened.lookup ρ).getD line) else r.opened.lookup ρ := by
  by_cases hρ : ρ = rule
  · subst hρ
    cases hOpen : r.opened.lookup ρ with
    | some first => simp [openRange, hOpen]
    | none => simp [openRange, hOpen, List.lookup_append]
  · rw [if_neg hρ]
    cases hOpen : r.opened.lookup rule with
    | some first => simp only [openRange, hOpen]
    | none => simp [openRange, hOpen, List.lookup_append, lookup_cons_ne hρ]

theorem distinct_closeRange (h : r.Distinct) : (closeRange line r rule).Distinct := by
  cases hOpen : r.opened.lookup rule with
  | none => simpa only [closeRange, hOpen] using h
  | some first =>
    simp only [closeRange, hOpen]
    exact h.sublist (List.filter_sublist.map _)

theorem opened_closeRange :
    (closeRange line r rule).opened.lookup ρ =
      if ρ = rule then none else r.opened.lookup ρ := by
  cases hOpen : r.opened.lookup rule with
  | some first =>
    simp only [closeRange, hOpen]
    exact lookup_filter_ne r.opened
  | none =>
    simp only [closeRange, hOpen]
    split
    · subst ρ
      exact hOpen
    · rfl

theorem covers_closeRange :
    (closeRange line r rule).Covers ρ l ↔
      r.Covers ρ l ∨
        ρ = rule ∧ ∃ first, r.opened.lookup ρ = some first ∧ first ≤ l ∧ l ≤ line - 1 := by
  cases hOpen : r.opened.lookup rule with
  | none =>
    simp only [closeRange, hOpen, iff_self_or]
    rintro ⟨rfl, first, hFirst, -⟩
    rw [hOpen] at hFirst
    cases hFirst
  | some first =>
    simp only [closeRange, hOpen, Covers, List.mem_append, List.mem_singleton, Prod.mk.injEq, or_and_right, exists_or]
    refine or_congr_right ?_
    constructor
    · rintro ⟨range, ⟨rfl, rfl⟩, hIn⟩
      exact ⟨rfl, first, hOpen, by simpa [LineRange.contains] using hIn⟩
    · rintro ⟨rfl, first', hFirst, hIn⟩
      obtain rfl : first = first' := Option.some.inj (hOpen.symm.trans hFirst)
      exact ⟨_, ⟨rfl, rfl⟩, by simpa [LineRange.contains] using hIn⟩

/-- What a directive does for one of its rules. -/
def apply (kind : DirectiveKind) (line : Nat) : Reading → Rule → Reading :=
  match kind with
  | .disable => openRange line
  | .enable => closeRange line
  | .disableNextLine => skipNextLine line

theorem follow_eq (r : Reading) (line : Nat) (d : Directive) :
    r.follow line d = d.rules.foldl (apply d.kind line) r := by
  unfold follow apply
  cases d.kind <;> rfl

/-- The open range of a rule after a directive about it. -/
def reopened (kind : DirectiveKind) (line : Nat) (opened : Option Nat) : Option Nat :=
  match kind with
  | .disable => some (opened.getD line)
  | .enable => none
  | .disableNextLine => opened

theorem distinct_apply (h : r.Distinct) (kind : DirectiveKind) :
    (apply kind line r rule).Distinct := by
  cases kind with
  | disable => exact distinct_openRange h
  | enable => exact distinct_closeRange h
  | disableNextLine => exact h

theorem opened_apply (kind : DirectiveKind) :
    (apply kind line r rule).opened.lookup ρ =
      if ρ = rule then reopened kind line (r.opened.lookup ρ) else r.opened.lookup ρ := by
  cases kind with
  | disable => exact opened_openRange
  | enable => exact opened_closeRange
  | disableNextLine => exact (ite_self _).symm

theorem covers_apply (kind : DirectiveKind) :
    (apply kind line r rule).Covers ρ l ↔
      r.Covers ρ l ∨ kind = .enable ∧ ρ = rule ∧
        ∃ first, r.opened.lookup ρ = some first ∧ first ≤ l ∧ l ≤ line - 1 := by
  cases kind with
  | disable =>
    have hSettled : (apply .disable line r rule).settled = r.settled := by
      simp only [apply, openRange]
      split <;> rfl
    simp [Covers, hSettled]
  | enable => simpa [apply] using covers_closeRange
  | disableNextLine => simp [apply, skipNextLine, Covers]

theorem skips_apply (kind : DirectiveKind) :
    (ρ, l) ∈ (apply kind line r rule).settled.lines ↔
      (ρ, l) ∈ r.settled.lines ∨ kind = .disableNextLine ∧ ρ = rule ∧ line + 1 = l := by
  cases kind with
  | disable =>
    simp only [apply, openRange]
    split <;> simp
  | enable =>
    simp only [apply, closeRange]
    split <;> simp
  | disableNextLine => simp [apply, skipNextLine, eq_comm]

/-! ## One directive and all its rules -/

theorem distinct_follow (h : r.Distinct) : (r.follow line d).Distinct := by
  rw [follow_eq]
  induction d.rules generalizing r with
  | nil => exact h
  | cons rule rules ih => exact ih (distinct_apply h d.kind)

theorem reopened_idem (kind : DirectiveKind) (opened : Option Nat) :
    reopened kind line (reopened kind line opened) = reopened kind line opened := by
  cases kind <;> rfl

theorem opened_follow :
    (r.follow line d).opened.lookup ρ =
      if ρ ∈ d.rules then reopened d.kind line (r.opened.lookup ρ) else r.opened.lookup ρ := by
  rw [follow_eq]
  induction d.rules generalizing r with
  | nil => rfl
  | cons rule rules ih =>
    rw [List.foldl_cons, ih, opened_apply]
    by_cases hρ : ρ = rule
    · subst hρ
      simp [reopened_idem]
    · simp [hρ]

theorem covers_follow :
    (r.follow line d).Covers ρ l ↔
      r.Covers ρ l ∨ d.kind = .enable ∧ ρ ∈ d.rules ∧
        ∃ first, r.opened.lookup ρ = some first ∧ first ≤ l ∧ l ≤ line - 1 := by
  rw [follow_eq]
  induction d.rules generalizing r with
  | nil => simp
  | cons rule rules ih =>
    rw [List.foldl_cons, ih, covers_apply, opened_apply]
    by_cases hKind : d.kind = .enable
    · -- once closed, a range is not closed again
      by_cases hρ : ρ = rule
      · subst hρ
        simp [hKind, reopened]
      · simp [hKind, hρ]
    · simp [hKind]

theorem skips_follow :
    (ρ, l) ∈ (r.follow line d).settled.lines ↔
      (ρ, l) ∈ r.settled.lines ∨ d.kind = .disableNextLine ∧ ρ ∈ d.rules ∧ line + 1 = l := by
  rw [follow_eq]
  induction d.rules generalizing r with
  | nil => simp
  | cons rule rules ih =>
    rw [List.foldl_cons, ih, skips_apply, List.mem_cons]
    tauto

/-! ## The invariant of the reading -/

/-- How a reading stands to the comments it has read. Settled ranges end before the last of them
begins, and open ranges begin with one of them; so a further directive changes nothing on earlier
lines and decides alone on later ones. -/
structure Sound (r : Reading) (comments : List Comment) : Prop where
  distinct : r.Distinct
  skips : ∀ rule line, (rule, line) ∈ r.settled.lines ↔
    ∃ c ∈ comments, c.line + 1 = line ∧ c.directs .disableNextLine rule
  off : ∀ rule line,
    (r.Covers rule line ∨ ∃ first, r.opened.lookup rule = some first ∧ first ≤ line) ↔
      SwitchedOff comments line rule
  closed_before : ∀ rule line, r.Covers rule line → ∃ c ∈ comments, line < c.line
  opened_at : ∀ rule first, r.opened.lookup rule = some first → ∃ c ∈ comments, c.line = first

theorem sound_nil : Sound {} [] where
  distinct := List.nodup_nil
  skips := by simp
  off := by simp [Covers, SwitchedOff, switches]
  closed_before := by simp [Covers]
  opened_at := by simp

/-- A comment without a directive leaves everything as it is. -/
theorem Sound.no_directive (h : r.Sound comments) (hc : Directive.parse? c.text = none) :
    (r.comment c).Sound (comments ++ [c]) := by
  have hDirects : ∀ kind rule, c.directs kind rule = false := by
    intro kind rule
    rw [Comment.directs, hc]
  have hSame : r.comment c = r := by simp only [comment, hc]
  rw [hSame]
  exact {
    distinct := h.distinct
    skips := by simp [h.skips, hDirects]
    off := fun rule line => by
      rw [h.off, switchedOff_append_of_not]
      simp [hDirects]
    closed_before := fun rule line hCovers =>
      (h.closed_before rule line hCovers).imp fun c' hc' => ⟨List.mem_append_left _ hc'.1, hc'.2⟩
    opened_at := fun rule first hOpen =>
      (h.opened_at rule first hOpen).imp fun c' hc' => ⟨List.mem_append_left _ hc'.1, hc'.2⟩ }

/-- The step of the invariant that carries the law: the directive of a comment in line order takes
over from its line on. -/
theorem Sound.off_follow (h : r.Sound comments) (hc : Directive.parse? c.text = some d)
    (hOrder : ∀ c' ∈ comments, c'.line ≤ c.line) (hPos : 1 ≤ c.line) (rule : Rule) (line : Nat) :
    ((r.follow c.line d).Covers rule line ∨
        ∃ first, (r.follow c.line d).opened.lookup rule = some first ∧ first ≤ line) ↔
      SwitchedOff (comments ++ [c]) line rule := by
  have hBefore : r.Covers rule line → line < c.line := by
    intro hCovers
    obtain ⟨c', hc', hLine⟩ := h.closed_before rule line hCovers
    exact Nat.lt_of_lt_of_le hLine (hOrder c' hc')
  have hOpened : ∀ first, r.opened.lookup rule = some first → first ≤ c.line := by
    intro first hOpen
    obtain ⟨c', hc', rfl⟩ := h.opened_at rule first hOpen
    exact hOrder c' hc'
  rw [covers_follow, opened_follow]
  by_cases hTakes : c.line ≤ line ∧ (c.directs .disable rule ∨ c.directs .enable rule)
  · obtain ⟨hLine, hSwitch⟩ := hTakes
    have hNot : ¬ r.Covers rule line := fun hCovers => Nat.not_lt_of_le hLine (hBefore hCovers)
    rw [switchedOff_append hLine hSwitch]
    rw [directs_iff hc, directs_iff hc] at hSwitch
    rw [directs_iff hc]
    rcases hSwitch with ⟨hKind, hRule⟩ | ⟨hKind, hRule⟩
    · -- whether the range was open before or is opened now, it reaches the line
      have hFirst : (r.opened.lookup rule).getD c.line ≤ line := by
        cases hOpen : r.opened.lookup rule with
        | none => exact hLine
        | some first => exact Nat.le_trans (hOpened first hOpen) hLine
      simp [hKind, hRule, reopened, hFirst]
    · -- the range closed here, like those before, ends before the line
      have hOut : ¬ line ≤ c.line - 1 := by omega
      simp [hKind, hRule, reopened, hNot, hOut]
  · rw [switchedOff_append_of_not hTakes, ← h.off]
    rw [directs_iff hc, directs_iff hc] at hTakes
    by_cases hRule : rule ∈ d.rules
    · cases hKind : d.kind with
      | disable =>
        have hLine : line < c.line := by simpa [hKind, hRule] using hTakes
        -- a range opened on a later line does not reach back
        cases r.opened.lookup rule <;> simp [hRule, reopened, Nat.not_le_of_gt hLine]
      | enable =>
        have hLine : line < c.line := by simpa [hKind, hRule] using hTakes
        -- the open range becomes a settled one and still holds the earlier lines
        have hIn : line ≤ c.line - 1 := by omega
        simp [hRule, reopened, hIn]
      | disableNextLine => simp [reopened]
    · simp [hRule]

theorem Sound.follow (h : r.Sound comments) (hc : Directive.parse? c.text = some d)
    (hOrder : ∀ c' ∈ comments, c'.line ≤ c.line) (hPos : 1 ≤ c.line) :
    (r.follow c.line d).Sound (comments ++ [c]) where
  distinct := distinct_follow h.distinct
  skips := by
    intro rule line
    rw [skips_follow, h.skips]
    simp only [List.mem_append, List.mem_singleton, or_and_right, exists_or, exists_eq_left,
      directs_iff hc]
    refine or_congr_right ?_
    tauto
  off := h.off_follow hc hOrder hPos
  closed_before := by
    intro rule line hCovers
    rw [covers_follow] at hCovers
    rcases hCovers with hCovers | ⟨-, -, first, -, -, hLast⟩
    · obtain ⟨c', hc', hLine⟩ := h.closed_before rule line hCovers
      exact ⟨c', List.mem_append_left _ hc', hLine⟩
    · exact ⟨c, by simp, by omega⟩
  opened_at := by
    intro rule first hOpen
    have hOld : r.opened.lookup rule = some first → ∃ c' ∈ comments ++ [c], c'.line = first := by
      intro hOpen
      obtain ⟨c', hc', hLine⟩ := h.opened_at rule first hOpen
      exact ⟨c', List.mem_append_left _ hc', hLine⟩
    rw [opened_follow] at hOpen
    split at hOpen
    · cases hKind : d.kind with
      | disable =>
        -- a range that is open already keeps its first line
        cases hBefore : r.opened.lookup rule with
        | none => exact ⟨c, by simp, by simpa [hKind, hBefore, reopened] using hOpen⟩
        | some first' => exact hOld (by simpa [hKind, hBefore, reopened] using hOpen)
      | enable => simp [hKind, reopened] at hOpen
      | disableNextLine => exact hOld (by simpa [hKind, reopened] using hOpen)
    · exact hOld hOpen

/-- Reading one more comment keeps the invariant. -/
theorem Sound.comment (h : r.Sound comments) (hOrder : ∀ c' ∈ comments, c'.line ≤ c.line)
    (hPos : 1 ≤ c.line) : (r.comment c).Sound (comments ++ [c]) := by
  cases hc : Directive.parse? c.text with
  | none => exact h.no_directive hc
  | some d =>
    have hFollow : r.comment c = r.follow c.line d := by simp only [Reading.comment, hc]
    rw [hFollow]
    exact h.follow hc hOrder hPos

/-- The invariant holds after all comments, if they come in line order. -/
theorem sound_foldl (hPos : ∀ c ∈ comments, 1 ≤ c.line)
    (hSorted : comments.Pairwise (·.line ≤ ·.line)) :
    (comments.foldl Reading.comment {}).Sound comments := by
  induction comments using List.reverseRecOn with
  | nil => exact sound_nil
  | append_singleton comments c ih =>
    rw [List.pairwise_append] at hSorted
    rw [List.foldl_append]
    refine (ih (fun c' hc' => hPos c' (List.mem_append_left _ hc')) hSorted.1).comment ?_ ?_
    · exact fun c' hc' => hSorted.2.2 c' hc' c (by simp)
    · exact hPos c (by simp)

/-- What the finished suppression ignores, in terms of the reading. -/
theorem ignores_finish (h : r.Distinct) :
    r.finish.ignores line rule = true ↔
      (rule, line) ∈ r.settled.lines ∨ r.Covers rule line ∨
        ∃ first, r.opened.lookup rule = some first ∧ first ≤ line := by
  simp only [← mem_opened_iff h]
  simp only [finish, ignores, Covers, Bool.or_eq_true, List.contains_iff_mem, List.any_append,
    List.any_eq_true, List.any_map, Bool.and_eq_true, beq_iff_eq, Prod.exists]
  refine or_congr_right (or_congr ?_ ?_)
  · constructor
    · rintro ⟨_, range, hMem, rfl, hIn⟩
      exact ⟨range, hMem, hIn⟩
    · rintro ⟨range, hMem, hIn⟩
      exact ⟨rule, range, hMem, rfl, hIn⟩
  · simp [LineRange.contains]

end Reading

/-! ## The rules that directives name -/

/-- No directive is about files that cannot be parsed. -/
theorem not_directs_parseError (c : Comment) (kind : DirectiveKind) :
    ¬ c.directs kind .parseError = true := by
  cases hc : Directive.parse? c.text with
  | none => simp [Comment.directs, hc]
  | some d =>
    rw [directs_iff hc]
    rintro ⟨-, hRule⟩
    exact absurd (Directive.mem_suppressible_of_parse? hc hRule) (by decide)

/-! ## The law -/

/-- Of comments in line order, a rule is ignored on a line exactly if a comment on the line before
switches it off for the next line, or if comments up to the line switch it and the last of them
switches it off. What concerns the file as a whole is never ignored. -/
theorem ignores_ofSorted_iff (hPos : ∀ c ∈ comments, 1 ≤ c.line)
    (hSorted : comments.Pairwise (·.line ≤ ·.line)) :
    (∀ rule line, (ofSorted comments).ignores line rule = true ↔
      (∃ c ∈ comments, c.line + 1 = line ∧ c.directs .disableNextLine rule) ∨
        SwitchedOff comments line rule) ∧
    ∀ line, (ofSorted comments).ignores line .parseError = false := by
  have hSound := Reading.sound_foldl hPos hSorted
  have hLaw : ∀ rule line, (ofSorted comments).ignores line rule = true ↔
      (∃ c ∈ comments, c.line + 1 = line ∧ c.directs .disableNextLine rule) ∨
        SwitchedOff comments line rule := by
    intro rule line
    rw [ofSorted, Reading.ignores_finish hSound.distinct, hSound.skips, hSound.off]
  refine ⟨hLaw, fun line => ?_⟩
  rw [← Bool.not_eq_true, hLaw]
  rintro (⟨c, -, -, hDirects⟩ | ⟨c, -, hDirects⟩)
  · exact not_directs_parseError c _ hDirects
  · exact not_directs_parseError c _ hDirects

/-- Everything is switched off and one rule on again, both on line 2; for that rule line 3 is
skipped, and it is switched off from line 4 on. -/
def nestedDirectives : List Comment := [
  ⟨2, "msglint-disable"⟩, ⟨2, "msglint-enable unlocalized-text"⟩,
  ⟨2, "msglint-disable-next-line unlocalized-text"⟩, ⟨4, "msglint-disable unlocalized-text"⟩]

/-- The law at directives of which several are on one line. -/
theorem ignores_nestedDirectives :
    (∀ c ∈ nestedDirectives, 1 ≤ c.line) ∧ nestedDirectives.Pairwise (·.line ≤ ·.line) ∧
      (ofSorted nestedDirectives).ignores 3 .unlocalizedText = true ∧
      (ofSorted nestedDirectives).ignores 4 .unlocalizedText = true ∧
      (ofSorted nestedDirectives).ignores 4 .parseError = false := by
  have hPos : ∀ c ∈ nestedDirectives, 1 ≤ c.line := by decide
  have hSorted : nestedDirectives.Pairwise (·.line ≤ ·.line) := by decide
  have hLaw := ignores_ofSorted_iff hPos hSorted
  refine ⟨hPos, hSorted, (hLaw.1 _ 3).mpr (Or.inl ?_), (hLaw.1 _ 4).mpr (Or.inr ?_), hLaw.2 4⟩
  · exact ⟨⟨2, "msglint-disable-next-line unlocalized-text"⟩, by decide, rfl, by decide⟩
  · exact ⟨⟨4, "msglint-disable unlocalized-text"⟩, by decide, by decide⟩

end Suppression

end MessageLint
