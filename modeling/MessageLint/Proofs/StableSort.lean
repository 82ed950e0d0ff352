/-!
# MessageLint — sorting keeps what compares equal in place

Comments are sorted by line, and issues by their keys. Both orders let different items compare
equal, and then the sort leaves them as they came. So leaving items out and sorting can be done in
either order (`filter_mergeSort`), and what compares equal is the same list before and after
(`filter_mergeSort_of_tied`).
-/

namespace MessageLint

variable {α : Type} {le : α → α → Bool}

/-- An item splits a list into what it does not precede and what it precedes in one way only. -/
theorem split_unique {a : α} {before before' after after' : List α}
    (h : before ++ after = before' ++ after')
    (hBefore : ∀ b ∈ before, le a b = false) (hBefore' : ∀ b ∈ before', le a b = false)
    (hAfter : ∀ b ∈ after, le a b = true) (hAfter' : ∀ b ∈ after', le a b = true) :
    before = before' ∧ after = after' := by
  have hFilter : ∀ {bs cs : List α}, (∀ b ∈ bs, le a b = false) → (∀ b ∈ cs, le a b = true) →
      (bs ++ cs).filter (fun b => !le a b) = bs ∧ (bs ++ cs).filter (fun b => le a b) = cs := by
    intro bs cs hbs hcs
    constructor
    · rw [List.filter_append, List.filter_eq_self.mpr fun b hb => by simp [hbs b hb],
        List.filter_eq_nil_iff.mpr fun b hb => by simp [hcs b hb], List.append_nil]
    · rw [List.filter_append, List.filter_eq_nil_iff.mpr fun b hb => by simp [hbs b hb],
        List.filter_eq_self.mpr fun b hb => by simp [hcs b hb], List.nil_append]
  have hOne := hFilter hBefore hAfter
  have hTwo := hFilter hBefore' hAfter'
  rw [h] at hOne
  exact ⟨hOne.1.symm.trans hTwo.1, hOne.2.symm.trans hTwo.2⟩

variable (trans : ∀ a b c, le a b = true → le b c = true → le a c = true)
  (total : ∀ a b, (le a b || le b a) = true)

include trans total

/-- A new head goes before everything it precedes, and behind the rest. -/
theorem mergeSort_cons_split (a : α) (xs : List α) :
    ∃ before after, (a :: xs).mergeSort le = before ++ a :: after ∧
      xs.mergeSort le = before ++ after ∧
      (∀ b ∈ before, le a b = false) ∧ ∀ b ∈ after, le a b = true := by
  obtain ⟨before, after, hCons, hRest, hBefore⟩ := List.mergeSort_cons trans total a xs
  refine ⟨before, after, hCons, hRest, fun b hb => by simpa using hBefore b hb, fun b hb => ?_⟩
  have hSorted := List.pairwise_mergeSort trans total (a :: xs)
  rw [hCons, List.pairwise_append] at hSorted
  exact (List.pairwise_cons.mp hSorted.2.1).1 b hb

/-- Leaving items out of a sorted list is sorting what is left. -/
theorem filter_mergeSort (p : α → Bool) (xs : List α) :
    (xs.mergeSort le).filter p = (xs.filter p).mergeSort le := by
  induction xs with
  | nil => simp
  | cons a xs ih =>
    obtain ⟨before, after, hCons, hRest, hBefore, hAfter⟩ :=
      mergeSort_cons_split trans total a xs
    rw [hRest, List.filter_append] at ih
    rw [hCons, List.filter_append]
    cases hp : p a with
    | false =>
      rw [List.filter_cons_of_neg (by simp [hp]), List.filter_cons_of_neg (by simp [hp]), ih]
    | true =>
      rw [List.filter_cons_of_pos hp, List.filter_cons_of_pos hp]
      -- the head splits the filtered list where it splits the whole one
      obtain ⟨before', after', hCons', hRest', hBefore', hAfter'⟩ :=
        mergeSort_cons_split trans total a (xs.filter p)
      have hSplit := split_unique (ih.trans hRest')
        (fun b hb => hBefore b (List.mem_filter.mp hb).1) hBefore'
        (fun b hb => hAfter b (List.mem_filter.mp hb).1) hAfter'
      rw [hCons', hSplit.1, hSplit.2]

/-- Items that compare equal are the same list before and after sorting. -/
theorem filter_mergeSort_of_tied {p : α → Bool}
    (h : ∀ a b, p a = true → p b = true → le a b = true) (xs : List α) :
    (xs.mergeSort le).filter p = xs.filter p := by
  rw [filter_mergeSort trans total]
  refine List.mergeSort_of_pairwise (List.pairwise_of_forall_mem_list fun a ha b hb => ?_)
  exact h a b (List.mem_filter.mp ha).2 (List.mem_filter.mp hb).2

end MessageLint
