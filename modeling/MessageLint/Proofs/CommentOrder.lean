import MessageLint.Proofs.StableSort
import MessageLint.Proofs.Suppression

/-!
# MessageLint — comments in any order

The comments of a file come in no particular order, and sorting them by line leaves those of one
line as they came. Here it is settled when that shows. A rule is *mixed* on a line that switches it
both off and on; then the directive that happens to come last wins, from that line up to the next
one that switches the rule. Nobody notices on lines that are skipped anyway.

* `ignores_ofComments_iff` — the law of suppression, for comments in any order.
* `switchedOff_iff` — only the last line with a switch counts, and on it the last comment.
* `exists_disagreeing` — a mixed line lets two orders disagree, unless the line is skipped.
* `orderFree_iff` — exactly when all orders of the comments agree.
-/

namespace MessageLint.Suppression

variable {comments xs ys : List Comment} {rule : Rule} {line last : Nat} {c d : Comment}

/-- The line carries a directive that switches the rule off and one that switches it on. -/
def Mixed (comments : List Comment) (rule : Rule) (line : Nat) : Prop :=
  (∃ c ∈ comments, c.line = line ∧ c.directs .disable rule) ∧
    ∃ c ∈ comments, c.line = line ∧ c.directs .enable rule

/-- A directive on the line before switches the rule off on this one. -/
def Skipped (comments : List Comment) (rule : Rule) (line : Nat) : Prop :=
  ∃ c ∈ comments, c.line + 1 = line ∧ c.directs .disableNextLine rule

/-- Of the lines up to `line` that switch the rule off or on, `last` is the last. -/
structure LastSwitch (comments : List Comment) (rule : Rule) (line last : Nat) : Prop where
  switches : ∃ c ∈ comments, c.line = last ∧ (c.directs .disable rule ∨ c.directs .enable rule)
  le : last ≤ line
  greatest : ∀ c ∈ comments, c.line ≤ line → c.directs .disable rule ∨ c.directs .enable rule →
    c.line ≤ last

/-- On every line, every order of the comments ignores the rule or none does. -/
def OrderFree (comments : List Comment) (rule : Rule) : Prop :=
  ∀ xs ys, xs.Perm comments → ys.Perm comments →
    ∀ line, (ofComments xs).ignores line rule = (ofComments ys).ignores line rule

/-! ## The order does not matter to what is on the lines -/

theorem Skipped.perm (h : xs.Perm ys) (hx : Skipped xs rule line) : Skipped ys rule line := by
  obtain ⟨c, hc, hSkips⟩ := hx
  exact ⟨c, h.mem_iff.mp hc, hSkips⟩

theorem LastSwitch.perm (h : xs.Perm ys) (hx : LastSwitch xs rule line last) :
    LastSwitch ys rule line last where
  switches := by
    obtain ⟨c, hc, hSwitch⟩ := hx.switches
    exact ⟨c, h.mem_iff.mp hc, hSwitch⟩
  le := hx.le
  greatest c hc := hx.greatest c (h.mem_iff.mpr hc)

/-- A mixed line is the last with a switch, as seen from itself. -/
theorem Mixed.lastSwitch (h : Mixed comments rule line) : LastSwitch comments rule line line where
  switches := by
    obtain ⟨⟨c, hc, hLine, hOff⟩, -⟩ := h
    exact ⟨c, hc, hLine, Or.inl hOff⟩
  le := Nat.le_refl line
  greatest _ _ hLine _ := hLine

/-- A comment holds one directive, so it does not switch a rule both off and on. -/
theorem not_disable_of_enable (h : c.directs .enable rule = true) :
    c.directs .disable rule = false := by
  cases hc : Directive.parse? c.text with
  | none => simp [Comment.directs, hc]
  | some d =>
    rw [directs_iff hc] at h
    simp [Comment.directs, hc, h.1]

/-! ## Comments in line order -/

/-- The comments as they are read. -/
def inLineOrder (comments : List Comment) : List Comment :=
  comments.mergeSort fun a b => a.line ≤ b.line

theorem line_le_trans (a b c : Comment) (hab : decide (a.line ≤ b.line) = true)
    (hbc : decide (b.line ≤ c.line) = true) : decide (a.line ≤ c.line) = true := by
  simp only [decide_eq_true_eq] at hab hbc ⊢
  omega

theorem line_le_total (a b : Comment) :
    (decide (a.line ≤ b.line) || decide (b.line ≤ a.line)) = true := by
  simp only [Bool.or_eq_true, decide_eq_true_eq]
  omega

theorem inLineOrder_perm (comments : List Comment) : (inLineOrder comments).Perm comments :=
  List.mergeSort_perm comments _

theorem inLineOrder_sorted (comments : List Comment) :
    (inLineOrder comments).Pairwise (·.line ≤ ·.line) := by
  unfold inLineOrder
  simpa using List.pairwise_mergeSort line_le_trans line_le_total comments

/-- The comments of one line are read as they come. -/
theorem filter_inLineOrder (comments : List Comment) (last : Nat) :
    (inLineOrder comments).filter (·.line == last) = comments.filter (·.line == last) := by
  refine filter_mergeSort_of_tied line_le_trans line_le_total (fun a b ha hb => ?_) comments
  simp only [beq_iff_eq] at ha hb
  simp [ha, hb]

/-- The law of suppression: whatever the order of the comments, they are read in line order. -/
theorem ignores_ofComments_iff (hPos : ∀ c ∈ comments, 1 ≤ c.line) :
    (ofComments comments).ignores line rule = true ↔
      Skipped comments rule line ∨ SwitchedOff (inLineOrder comments) line rule := by
  have hPerm := inLineOrder_perm comments
  have hSound := Reading.sound_foldl (fun c hc => hPos c (hPerm.mem_iff.mp hc))
    (inLineOrder_sorted comments)
  show (ofSorted (inLineOrder comments)).ignores line rule = true ↔ _
  rw [ofSorted, Reading.ignores_finish hSound.distinct, hSound.skips, hSound.off]
  exact or_congr_left ⟨Skipped.perm hPerm, Skipped.perm hPerm.symm⟩

/-! ## The last line with a switch -/

/-- In line order, the last of the comments is the last of those on the last line. -/
theorem getLast?_eq_of_sorted (hSorted : xs.Pairwise (·.line ≤ ·.line))
    (hMax : ∀ c ∈ xs, c.line ≤ last) (hMem : c ∈ xs) (hLine : c.line = last) :
    xs.getLast? = (xs.filter (·.line == last)).getLast? := by
  obtain ⟨before, d, rfl⟩ := (List.eq_nil_or_concat' xs).resolve_left (List.ne_nil_of_mem hMem)
  -- the last comment of all is on the last line, since none is behind it
  have hLast : d.line = last := by
    have hUpper : d.line ≤ last := hMax d (by simp)
    have hLower : c.line ≤ d.line := by
      rcases List.mem_append.mp hMem with hBefore | hEnd
      · exact (List.pairwise_append.mp hSorted).2.2 c hBefore d (by simp)
      · rw [List.mem_singleton.mp hEnd]
    omega
  simp [List.filter_append, hLast]

/-- Only the last line with a switch counts, and of its switches the one that comes last. -/
theorem switchedOff_iff (h : LastSwitch comments rule line last) :
    SwitchedOff (inLineOrder comments) line rule ↔
      ∃ c, (comments.filter fun c =>
          (c.directs .disable rule || c.directs .enable rule) && c.line == last).getLast? = some c ∧
        c.directs .disable rule := by
  have hPerm := inLineOrder_perm comments
  obtain ⟨c, hc, hLine, hSwitch⟩ := h.switches
  have hMem : c ∈ switches (inLineOrder comments) line rule := by
    have hLe : c.line ≤ line := hLine.le.trans h.le
    simp [switches, hPerm.mem_iff, hc, hLe, hSwitch]
  have hMax : ∀ d ∈ switches (inLineOrder comments) line rule, d.line ≤ last := by
    intro d hd
    simp only [switches, List.mem_filter, hPerm.mem_iff, Bool.and_eq_true, Bool.or_eq_true,
      decide_eq_true_eq] at hd
    exact h.greatest d hd.1 hd.2.1 hd.2.2
  have hSorted : (switches (inLineOrder comments) line rule).Pairwise (·.line ≤ ·.line) :=
    (inLineOrder_sorted comments).sublist List.filter_sublist
  -- on that line the comments stand as they came
  have hSame : (switches (inLineOrder comments) line rule).filter (·.line == last) =
      comments.filter fun c =>
        (c.directs .disable rule || c.directs .enable rule) && c.line == last := by
    have hTied := filter_inLineOrder comments last
    rw [← List.filter_filter, ← hTied, switches, List.filter_filter, List.filter_filter]
    refine List.filter_congr fun d _ => ?_
    by_cases hd : d.line = last
    · simp [hd, h.le]
    · rw [beq_false_of_ne hd, Bool.false_and, Bool.and_false]
  rw [SwitchedOff, getLast?_eq_of_sorted hSorted hMax hMem hLine, hSame]

/-- A rule that is switched off has a last line with a switch. -/
theorem exists_lastSwitch (h : SwitchedOff (inLineOrder comments) line rule) :
    ∃ last, LastSwitch comments rule line last := by
  have hPerm := inLineOrder_perm comments
  obtain ⟨c, hc, hOff⟩ := h
  obtain ⟨before, hBefore⟩ := List.getLast?_eq_some_iff.mp hc
  have hSorted : (switches (inLineOrder comments) line rule).Pairwise (·.line ≤ ·.line) :=
    (inLineOrder_sorted comments).sublist List.filter_sublist
  have hMem : c ∈ switches (inLineOrder comments) line rule := List.mem_of_getLast? hc
  simp only [switches, List.mem_filter, hPerm.mem_iff, Bool.and_eq_true, decide_eq_true_eq]
    at hMem
  refine ⟨c.line, ⟨c, hMem.1, rfl, Or.inl hOff⟩, hMem.2.1, fun d hd hLine hSwitch => ?_⟩
  have hIn : d ∈ switches (inLineOrder comments) line rule := by
    simp [switches, hPerm.mem_iff, hd, hLine, hSwitch]
  rw [hBefore] at hIn hSorted
  rcases List.mem_append.mp hIn with hFirst | hEnd
  · exact (List.pairwise_append.mp hSorted).2.2 d hFirst c (by simp)
  · rw [List.mem_singleton.mp hEnd]

/-! ## Two orders -/

/-- With a switch of the last line put last, it alone decides. -/
theorem switchedOff_concat_iff (h : LastSwitch comments rule line last) (hd : d ∈ comments)
    (hLine : d.line = last) (hSwitch : d.directs .disable rule ∨ d.directs .enable rule) :
    SwitchedOff (inLineOrder (comments.erase d ++ [d])) line rule ↔ d.directs .disable rule := by
  have hPerm : comments.Perm (comments.erase d ++ [d]) :=
    (List.perm_cons_erase hd).trans (List.perm_append_singleton d _).symm
  rw [switchedOff_iff (h.perm hPerm)]
  simp [List.filter_append, hLine, hSwitch]

/-- Where a mixed line is the last with a switch, and no directive skips the line, two orders of the
comments disagree. -/
theorem exists_disagreeing (hPos : ∀ c ∈ comments, 1 ≤ c.line)
    (hMixed : Mixed comments rule last) (hLast : LastSwitch comments rule line last)
    (hSkip : ¬ Skipped comments rule line) :
    ∃ xs ys, xs.Perm comments ∧ ys.Perm comments ∧
      (ofComments xs).ignores line rule ≠ (ofComments ys).ignores line rule := by
  obtain ⟨⟨off, hOff, hOffLine, hDisables⟩, on, hOn, hOnLine, hEnables⟩ := hMixed
  have hPerm : ∀ d ∈ comments, (comments.erase d ++ [d]).Perm comments := fun d hd =>
    (List.perm_append_singleton d _).trans (List.perm_cons_erase hd).symm
  -- what the order with `d` put last says, for either directive `d` of the mixed line
  have hIgnores : ∀ d ∈ comments, d.line = last →
      (d.directs .disable rule ∨ d.directs .enable rule) →
      ((ofComments (comments.erase d ++ [d])).ignores line rule = true ↔
        d.directs .disable rule) := by
    intro d hd hLine hSwitch
    have hPosPerm : ∀ c ∈ comments.erase d ++ [d], 1 ≤ c.line := fun c hc =>
      hPos c ((hPerm d hd).mem_iff.mp hc)
    rw [ignores_ofComments_iff hPosPerm, switchedOff_concat_iff hLast hd hLine hSwitch]
    exact or_iff_right fun hSkipped => hSkip (hSkipped.perm (hPerm d hd))
  refine ⟨_, _, hPerm off hOff, hPerm on hOn, fun hSame => ?_⟩
  have hOffIgnored := (hIgnores off hOff hOffLine (Or.inl hDisables)).mpr hDisables
  rw [hSame, hIgnores on hOn hOnLine (Or.inr hEnables), not_disable_of_enable hEnables]
    at hOffIgnored
  cases hOffIgnored

/-- If no mixed line shows, what one order ignores every other order ignores. -/
theorem ignores_of_perm (hPos : ∀ c ∈ comments, 1 ≤ c.line)
    (hShown : ∀ last, LastSwitch comments rule line last → Mixed comments rule last →
      Skipped comments rule line)
    (hx : xs.Perm comments) (hy : ys.Perm comments)
    (h : (ofComments xs).ignores line rule = true) : (ofComments ys).ignores line rule = true := by
  rw [ignores_ofComments_iff fun c hc => hPos c (hx.mem_iff.mp hc)] at h
  rw [ignores_ofComments_iff fun c hc => hPos c (hy.mem_iff.mp hc)]
  rcases h with hSkipped | hOff
  · exact Or.inl ((hSkipped.perm hx).perm hy.symm)
  obtain ⟨last, hLast⟩ := exists_lastSwitch hOff
  by_cases hMixed : Mixed comments rule last
  · exact Or.inl ((hShown last (hLast.perm hx) hMixed).perm hy.symm)
  -- some comment of the line switches the rule off, so none of them switches it on
  refine Or.inr ((switchedOff_iff ((hLast.perm hx).perm hy.symm)).mpr ?_)
  obtain ⟨c, hc, hDisables⟩ := (switchedOff_iff hLast).mp hOff
  have hcMem := List.mem_filter.mp (List.mem_of_getLast? hc)
  simp only [Bool.and_eq_true, Bool.or_eq_true, beq_iff_eq] at hcMem
  have hNotOn : ∀ d ∈ comments, d.line = last → ¬ d.directs .enable rule = true :=
    fun d hd hLine hEnables => hMixed
      ⟨⟨c, hx.mem_iff.mp hcMem.1, hcMem.2.2, hDisables⟩, d, hd, hLine, hEnables⟩
  obtain ⟨d, hd⟩ : ∃ d, (ys.filter fun d =>
      (d.directs .disable rule || d.directs .enable rule) && d.line == last).getLast? = some d := by
    refine Option.ne_none_iff_exists'.mp fun hNone => ?_
    rw [List.getLast?_eq_none_iff, List.filter_eq_nil_iff] at hNone
    refine hNone c (hy.mem_iff.mpr (hx.mem_iff.mp hcMem.1)) ?_
    simp [hcMem.2.2, hDisables]
  have hdMem := List.mem_filter.mp (List.mem_of_getLast? hd)
  simp only [Bool.and_eq_true, Bool.or_eq_true, beq_iff_eq] at hdMem
  have hdOff := hdMem.2.1.resolve_right (hNotOn d (hy.mem_iff.mp hdMem.1) hdMem.2.2)
  exact ⟨d, hd, hdOff⟩

/-- All orders agree exactly if every line on which a mixed line has the last word is skipped. -/
theorem orderFree_iff (hPos : ∀ c ∈ comments, 1 ≤ c.line) :
    OrderFree comments rule ↔
      ∀ line last, LastSwitch comments rule line last → Mixed comments rule last →
        Skipped comments rule line := by
  constructor
  · intro hFree line last hLast hMixed
    by_contra hSkip
    obtain ⟨xs, ys, hx, hy, hDiffer⟩ := exists_disagreeing hPos hMixed hLast hSkip
    exact hDiffer (hFree xs ys hx hy line)
  · intro hShown xs ys hx hy line
    rw [Bool.eq_iff_iff]
    exact ⟨ignores_of_perm hPos (hShown line) hx hy, ignores_of_perm hPos (hShown line) hy hx⟩

/-! ## The law -/

/-- Comments of which no line switches the rule both off and on suppress the rule alike in every
order. If a line does, and is not skipped, two orders disagree on it. Between the two, all orders
agree exactly if each line on which a mixed line has the last word is skipped. -/
theorem orderFree_unless_mixed (hPos : ∀ c ∈ comments, 1 ≤ c.line) (rule : Rule) :
    ((∀ line, ¬ Mixed comments rule line) → OrderFree comments rule) ∧
    (∀ line, Mixed comments rule line → ¬ Skipped comments rule line →
      ∃ xs ys, xs.Perm comments ∧ ys.Perm comments ∧
        (ofComments xs).ignores line rule ≠ (ofComments ys).ignores line rule) ∧
    (OrderFree comments rule ↔
      ∀ line last, LastSwitch comments rule line last → Mixed comments rule last →
        Skipped comments rule line) := by
  refine ⟨fun hNone => ?_, fun line hMixed hSkip => ?_, orderFree_iff hPos⟩
  · exact (orderFree_iff hPos).mpr fun line last _ hMixed => absurd hMixed (hNone last)
  · exact exists_disagreeing hPos hMixed hMixed.lastSwitch hSkip

/-- One rule is switched off and on again on one line, so for this rule two orders disagree there;
the others are only switched off. -/
theorem nestedDirectives_orders :
    (∀ c ∈ nestedDirectives, 1 ≤ c.line) ∧
      OrderFree nestedDirectives .messageExpression ∧
      ∃ xs ys, xs.Perm nestedDirectives ∧ ys.Perm nestedDirectives ∧
        (ofComments xs).ignores 2 .unlocalizedText ≠
          (ofComments ys).ignores 2 .unlocalizedText := by
  have hPos : ∀ c ∈ nestedDirectives, 1 ≤ c.line := by decide
  refine ⟨hPos, (orderFree_unless_mixed hPos _).1 ?_,
    (orderFree_unless_mixed hPos _).2.1 2 ?_ ?_⟩
  · have hNotOn : ∀ c ∈ nestedDirectives, c.directs .enable .messageExpression = false := by decide
    rintro line ⟨-, c, hc, -, hEnables⟩
    rw [hNotOn c hc] at hEnables
    cases hEnables
  · exact ⟨by decide, by decide⟩
  · unfold Skipped
    decide

/-- A line switches all rules off and on, but the line before has it skipped, and on the next line
they are switched on. -/
def skippedMix : List Comment := [
  ⟨1, "msglint-disable-next-line"⟩, ⟨2, "msglint-disable"⟩, ⟨2, "msglint-enable"⟩,
  ⟨3, "msglint-enable"⟩]

/-- A file can have a mixed line and still be suppressed alike in every order of its comments. -/
theorem orderFree_although_mixed :
    (∀ c ∈ skippedMix, 1 ≤ c.line) ∧ Mixed skippedMix .unlocalizedText 2 ∧
      ∀ rule, OrderFree skippedMix rule := by
  have hPos : ∀ c ∈ skippedMix, 1 ≤ c.line := by decide
  refine ⟨hPos, ⟨by decide, by decide⟩, fun rule => (orderFree_iff hPos).mpr ?_⟩
  rintro line last hLast ⟨⟨c, hc, rfl, hDisables⟩, -⟩
  -- only the mixed line switches anything off, and on the line after it all is switched on
  have hRule : rule ≠ .parseError := by
    rintro rfl
    exact not_directs_parseError c _ hDisables
  have hMixedLine : ∀ rule, ∀ c ∈ skippedMix, c.directs .disable rule = true → c.line = 2 := by
    intro rule
    cases rule <;> decide
  have hOnAgain : Comment.directs ⟨3, "msglint-enable"⟩ .enable rule = true := by
    revert hRule
    cases rule <;> decide
  have hSkips : Comment.directs ⟨1, "msglint-disable-next-line"⟩ .disableNextLine rule = true := by
    revert hRule
    cases rule <;> decide
  have hTwo : c.line = 2 := hMixedLine rule c hc hDisables
  have hLower : c.line ≤ line := hLast.le
  have hUpper : ¬ 3 ≤ line := by
    intro hLine
    have hGreatest : 3 ≤ c.line := hLast.greatest _ (by decide) hLine (Or.inr hOnAgain)
    omega
  obtain rfl : line = 2 := by omega
  exact ⟨_, by decide, rfl, hSkips⟩

end MessageLint.Suppression
