import MessageLint.CommandLine
import MessageLint.Proofs.StableSort

/-!
# MessageLint — the order of issues

Issues are compared by path, line, column, rule and message. An issue has more to it than that: the
text of its line, the tag and the name of an attribute. So different issues can compare equal, and
then sorting leaves them as they came.

* `Key.order` — the order of keys, a linear one; issues are compared by their keys (`order_eq`).
* `map_key_sort` — the keys of sorted issues do not depend on how the issues came.
* `filesFirst_sort` — a file that cannot be parsed is told of before anything on its lines.
* `sort_perm_iff` — the issues themselves do not depend on it exactly if none are tied.
-/

namespace MessageLint

namespace Issue

variable {a b c : Issue} {xs ys : List Issue}

/-! ## Keys -/

/-- What an issue is compared by. -/
structure Key where
  path : String
  /-- The line, or 0 for an issue about a whole file. -/
  line : Nat
  /-- The column, or 0 for an issue about a whole file. -/
  col : Nat
  rule : Rule
  message : String
deriving DecidableEq, Repr

/-- The key of an issue. -/
def key (i : Issue) : Key := ⟨i.path, i.sortLine, i.sortCol, i.rule, i.message⟩

namespace Key

/-- Keys are ordered by their parts, one after the other. -/
def order (k l : Key) : Ordering :=
  (compare k.path l.path).then <|
    (compare k.line l.line).then <|
      (compare k.col l.col).then <|
        (compare k.rule.rank l.rule.rank).then (compare k.message l.message)

instance transCmp : Std.TransCmp order :=
  inferInstanceAs (Std.TransCmp (compareLex (compareOn path) (compareLex (compareOn line)
    (compareLex (compareOn col) (compareLex (compareOn (·.rule.rank)) (compareOn message))))))

theorem rank_inj {r s : Rule} (h : r.rank = s.rank) : r = s := by
  cases r <;> cases s <;> first | rfl | cases h

/-- Keys that compare equal are equal. -/
theorem order_eq_iff {k l : Key} : order k l = .eq ↔ k = l := by
  constructor
  · intro h
    simp only [order, Ordering.then_eq_eq, Std.compare_eq_iff_eq] at h
    obtain ⟨hPath, hLine, hCol, hRank, hMessage⟩ := h
    obtain ⟨_, _, _, _, _⟩ := k
    obtain ⟨_, _, _, _, _⟩ := l
    -- rules are compared by rank, which tells them apart
    obtain rfl := rank_inj hRank
    simp_all
  · rintro rfl
    exact Std.ReflCmp.compare_self

end Key

/-- Issues are compared by their keys. -/
theorem order_eq (a b : Issue) : order a b = a.key.order b.key := rfl

/-! ## The order of issues -/

theorem order_eq_eq_iff : order a b = .eq ↔ a.key = b.key := by
  rw [order_eq, Key.order_eq_iff]

theorem order_swap (a b : Issue) : order b a = (order a b).swap := by
  rw [order_eq, order_eq]
  exact Std.OrientedCmp.eq_swap

theorem le_trans (a b c : Issue) (hab : le a b = true) (hbc : le b c = true) : le a c = true := by
  rw [le, order_eq] at hab hbc ⊢
  exact Std.TransCmp.isLE_trans hab hbc

theorem le_total (a b : Issue) : (le a b || le b a) = true := by
  rw [le, le, order_swap a b]
  cases order a b <;> rfl

/-- Issues that precede each other have the same key. -/
theorem key_eq_of_le_of_le (hab : le a b = true) (hba : le b a = true) : a.key = b.key := by
  rw [← order_eq_eq_iff]
  rw [le] at hab
  rw [le, order_swap a b] at hba
  cases h : order a b with
  | eq => rfl
  | lt => simp [h] at hba
  | gt => simp [h] at hab

/-! ## Sorted issues -/

theorem sort_perm (xs : List Issue) : (sort xs).Perm xs := List.mergeSort_perm xs le

theorem sort_sorted (xs : List Issue) : (sort xs).Pairwise (le · · = true) :=
  List.pairwise_mergeSort le_trans le_total xs

/-- Issues with the same key stay as they came. -/
theorem filter_key_sort (k : Key) (xs : List Issue) :
    (sort xs).filter (·.key == k) = xs.filter (·.key == k) := by
  refine filter_mergeSort_of_tied le_trans le_total (fun a b ha hb => ?_) xs
  simp only [beq_iff_eq] at ha hb
  rw [le, order_eq_eq_iff.mpr (ha.trans hb.symm)]
  rfl

/-- The keys of sorted issues are the sorted keys, so they do not depend on how the issues came. -/
theorem map_key_sort (h : xs.Perm ys) : (sort xs).map key = (sort ys).map key := by
  have hSorted : ∀ zs, ((sort zs).map key).Pairwise fun k l => (Key.order k l).isLE = true :=
    fun zs => List.pairwise_map.mpr (sort_sorted zs)
  have hPerm : ((sort xs).map key).Perm ((sort ys).map key) :=
    (((sort_perm xs).trans h).trans (sort_perm ys).symm).map key
  -- among keys the order is antisymmetric, so there is one sorted list of them
  refine hPerm.eq_of_pairwise (fun k l _ _ hkl hlk => ?_) (hSorted xs) (hSorted ys)
  exact Key.order_eq_iff.mp (Std.OrientedCmp.isLE_antisymm hkl hlk)

/-- An issue about a whole file precedes every issue on a line of the file, and not the other way
round. -/
theorem not_le_unparsed {path : String} (reason : String) {p : Place} (hPath : b.path = path)
    (hPlace : b.place? = some p) (hLine : 1 ≤ p.line) : le b (.unparsed path reason) = false := by
  have hFirst : compare b.sortLine (unparsed path reason).sortLine = .gt := by
    have hZero : (unparsed path reason).sortLine = 0 := rfl
    have hSort : b.sortLine = p.line := by simp [sortLine, hPlace]
    rw [hZero, hSort, Nat.compare_eq_gt]
    omega
  have hSame : compare b.path (unparsed path reason).path = .eq := Std.compare_eq_iff_eq.mpr hPath
  rw [le, order, hSame, hFirst]
  rfl

/-- A file that cannot be parsed is told of before anything on its lines. -/
def FilesFirst (issues : List Issue) : Prop :=
  ∀ (m n : Nat) (path reason : String) (b : Issue) (p : Place),
    issues[m]? = some (.unparsed path reason) → issues[n]? = some b → b.path = path →
      b.place? = some p → 1 ≤ p.line → m < n

theorem filesFirst_sort (xs : List Issue) : FilesFirst (sort xs) := by
  intro m n path reason b p hm hn hPath hPlace hLine
  have hNot := not_le_unparsed reason hPath hPlace hLine
  obtain ⟨hmLength, hm⟩ := List.getElem?_eq_some_iff.mp hm
  obtain ⟨hnLength, hn⟩ := List.getElem?_eq_some_iff.mp hn
  rcases Nat.lt_trichotomy m n with hLess | rfl | hMore
  · exact hLess
  · -- an issue about a whole file has no place
    rw [hm] at hn
    subst hn
    cases hPlace
  · -- the other way round, the sort would have put the two in the wrong order
    have hLe := List.pairwise_iff_getElem.mp (sort_sorted xs) n m hnLength hmLength hMore
    rw [hm, hn, hNot] at hLe
    cases hLe

/-! ## Ties -/

/-- No two different issues compare equal. -/
def TieFree (xs : List Issue) : Prop := ∀ a ∈ xs, ∀ b ∈ xs, order a b = .eq → a = b

/-- Without ties the sorted issues do not depend on how they came. -/
theorem sort_eq_of_perm (hTies : TieFree xs) (h : xs.Perm ys) : sort xs = sort ys := by
  refine List.Perm.eq_of_pairwise (fun a b ha hb hab hba => ?_) (sort_sorted xs) (sort_sorted ys)
    (((sort_perm xs).trans h).trans (sort_perm ys).symm)
  have ha : a ∈ xs := (sort_perm xs).mem_iff.mp ha
  have hb : b ∈ xs := h.mem_iff.mpr ((sort_perm ys).mem_iff.mp hb)
  exact hTies a ha b hb (order_eq_eq_iff.mpr (key_eq_of_le_of_le hab hba))

/-- Tied issues come out of the sort as they went in. -/
theorem sort_ne_of_tied (hTied : order a b = .eq) (hNe : a ≠ b) (rest : List Issue) :
    sort (a :: b :: rest) ≠ sort (b :: a :: rest) := by
  have hKey : b.key = a.key := (order_eq_eq_iff.mp hTied).symm
  intro hSame
  -- the issues with their key come out as they went in, and those begin differently
  have hFirst := congrArg (List.filter (·.key == a.key)) hSame
  rw [filter_key_sort, filter_key_sort] at hFirst
  simp only [List.filter_cons, hKey, beq_self_eq_true, if_true, List.cons.injEq] at hFirst
  exact hNe hFirst.1

/-- Sorted issues do not depend on how they came exactly if no two of them are tied. -/
theorem sort_perm_iff (xs : List Issue) :
    (∀ ys zs, ys.Perm xs → zs.Perm xs → sort ys = sort zs) ↔ TieFree xs := by
  constructor
  · intro h a ha b hb hTied
    refine Decidable.byContradiction fun hNe => ?_
    -- with the two in front, either of them can come first
    have hMem : b ∈ xs.erase a := (List.mem_erase_of_ne (Ne.symm hNe)).mpr hb
    have hFront : (a :: b :: (xs.erase a).erase b).Perm xs :=
      (((List.perm_cons_erase hMem).symm).cons a).trans (List.perm_cons_erase ha).symm
    exact sort_ne_of_tied hTied hNe _ (h _ _ hFront ((List.Perm.swap a b _).trans hFront))
  · intro hTies ys zs hys hzs
    exact (sort_eq_of_perm hTies hys.symm).symm.trans (sort_eq_of_perm hTies hzs.symm)

end Issue

/-! ## What users see -/

namespace CommandLine

/-- The result of a check that finds issues, in whatever order. -/
def CheckResult.ofIssues (issues : List Issue) (sourceFiles : Nat) : CheckResult :=
  ⟨Issue.sort issues, sourceFiles⟩

theorem checkProject_eq_ofIssues (p : Project) (rules : List Rule) :
    checkProject p rules =
      .ofIssues (p.check (if rules.isEmpty then Rule.suppressible else rules) ++ p.failureIssues)
        p.files.length := rfl

end CommandLine

namespace Issue

open CommandLine (CheckResult)

/-- A comparison is a total preorder, in which what has the same key is equal and nothing else. -/
structure IsTotalPreorder {α κ : Type} (cmp : α → α → Ordering) (key : α → κ) : Prop where
  refl : ∀ a, cmp a a = .eq
  swap : ∀ a b, cmp b a = (cmp a b).swap
  total : ∀ a b, (cmp a b).isLE = true ∨ (cmp b a).isLE = true
  trans : ∀ a b c, (cmp a b).isLE = true → (cmp b c).isLE = true → (cmp a c).isLE = true
  antisymm : ∀ a b, (cmp a b).isLE = true → (cmp b a).isLE = true → key a = key b
  eq_iff : ∀ a b, cmp a b = .eq ↔ key a = key b

theorem order_isTotalPreorder : IsTotalPreorder order key where
  refl _ := order_eq_eq_iff.mpr rfl
  swap := order_swap
  total a b := by simpa [le] using le_total a b
  trans := le_trans
  antisymm _ _ := key_eq_of_le_of_le
  eq_iff _ _ := order_eq_eq_iff

/-- Issues are in a total preorder. Sorting gives the same keys however the issues came, with a file
that cannot be parsed before what is on its lines. If no two issues are tied, the report and the
result do not depend on how they came either; if two are, the result does. -/
theorem sorted_issues_canonical :
    IsTotalPreorder order key ∧
    ∀ xs ys : List Issue, xs.Perm ys →
      (sort xs).map key = (sort ys).map key ∧
      FilesFirst (sort xs) ∧
      (TieFree xs →
        (∀ colours, Report.render colours (Report.ofIssues xs) =
          Report.render colours (Report.ofIssues ys)) ∧
        ∀ sourceFiles, CheckResult.ofIssues xs sourceFiles = CheckResult.ofIssues ys sourceFiles) ∧
      (¬ TieFree xs → ∃ zs, zs.Perm xs ∧ ∃ zs', zs'.Perm xs ∧
        ∀ sourceFiles,
          CheckResult.ofIssues zs sourceFiles ≠ CheckResult.ofIssues zs' sourceFiles) := by
  refine ⟨order_isTotalPreorder, fun xs ys hPerm =>
    ⟨map_key_sort hPerm, filesFirst_sort xs, ?_, ?_⟩⟩
  · intro hTies
    have hSame : sort xs = sort ys := sort_eq_of_perm hTies hPerm
    have hEmpty : xs.isEmpty = ys.isEmpty := by
      rw [Bool.eq_iff_iff, List.isEmpty_iff, List.isEmpty_iff]
      exact ⟨fun h => by simpa [h] using hPerm, fun h => by simpa [h] using hPerm⟩
    exact ⟨fun colours => by simp only [Report.ofIssues, hSame, hEmpty],
      fun sourceFiles => by simp only [CheckResult.ofIssues, hSame]⟩
  · intro hTied
    rw [← sort_perm_iff] at hTied
    obtain ⟨zs, zs', hzs, hzs', hDiffer⟩ :
        ∃ zs zs', zs.Perm xs ∧ zs'.Perm xs ∧ sort zs ≠ sort zs' := by
      simpa only [Classical.not_forall, Classical.not_imp, exists_prop] using hTied
    exact ⟨zs, hzs, zs', hzs', fun sourceFiles hSame => hDiffer (congrArg (·.issues) hSame)⟩

/-- A file that cannot be parsed, and two faults in another one. -/
def threeIssues : List Issue := [
  .unparsed "b.tsx" "boom",
  .fault ⟨"a.tsx", 2, 1, ""⟩ (.unlocalizedText "B"),
  .fault ⟨"a.tsx", 1, 5, ""⟩ .disallowedExpression]

/-- Issues without ties, and the same ones backwards: keys, report and result are the same. -/
theorem threeIssues_canonical :
    threeIssues.Perm threeIssues.reverse ∧ TieFree threeIssues ∧
      (sort threeIssues).map key = (sort threeIssues.reverse).map key ∧
      Report.render true (Report.ofIssues threeIssues) =
        Report.render true (Report.ofIssues threeIssues.reverse) ∧
      CheckResult.ofIssues threeIssues 2 = CheckResult.ofIssues threeIssues.reverse 2 := by
  have hPerm : threeIssues.Perm threeIssues.reverse := by decide
  have hTies : TieFree threeIssues := by
    unfold TieFree
    decide
  obtain ⟨hKeys, -, hUntied, -⟩ := sorted_issues_canonical.2 _ _ hPerm
  exact ⟨hPerm, hTies, hKeys, (hUntied hTies).1 true, (hUntied hTies).2 2⟩

end Issue

end MessageLint
