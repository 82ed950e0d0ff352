/-!
# MessageLint — computations that can fail

Readers, parsers and checks are written in `Except`. A sequence of steps yields something only if
each step does.
-/

namespace MessageLint

variable {α β ε : Type}

/-- Steps one after the other succeed only if each does. -/
theorem exists_of_bind_eq_ok {x : Except ε α} {f : α → Except ε β} {b : β}
    (h : (x >>= f) = .ok b) : ∃ a, x = .ok a ∧ f a = .ok b := by
  cases x with
  | error e => cases h
  | ok a => exact ⟨a, rfl, h⟩

theorem mapM_cons_ok {f : α → Except ε β} {x : α} {xs : List α} {y : β} {ys : List β}
    (hx : f x = .ok y) (hxs : xs.mapM f = .ok ys) : (x :: xs).mapM f = .ok (y :: ys) := by
  rw [List.mapM_cons, hx, hxs]
  rfl

theorem mapM_cons_eq_ok {f : α → Except ε β} {x : α} {xs : List α} {ys : List β}
    (h : (x :: xs).mapM f = .ok ys) :
    ∃ y rest, f x = .ok y ∧ xs.mapM f = .ok rest ∧ ys = y :: rest := by
  rw [List.mapM_cons] at h
  obtain ⟨y, hy, h⟩ := exists_of_bind_eq_ok h
  obtain ⟨rest, hRest, h⟩ := exists_of_bind_eq_ok h
  exact ⟨y, rest, hy, hRest, (Except.ok.inj h).symm⟩

end MessageLint
