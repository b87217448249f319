/-!
# Computations that can fail

How a computation comes out, from how its parts do: it gives a value if all of them do, and
otherwise fails with the first fault.
-/

namespace LogCourier

section

variable {ε α β : Type} {x : Except ε α} {f : α → Except ε β}

theorem bind_eq_ok {b : β} : x >>= f = .ok b ↔ ∃ a, x = .ok a ∧ f a = .ok b := by
  cases x with
  | error e => simp [bind, Except.bind]
  | ok a => simp [bind, Except.bind]

/-- What comes of a list whose elements are read one after the other. -/
theorem eq_map_of_mapM_eq_ok {g : α → β} (hg : ∀ a b, f a = .ok b → b = g a) {as : List α}
    {bs : List β} (h : as.mapM f = .ok bs) : bs = as.map g := by
  induction as generalizing bs with
  | nil =>
    cases h
    rfl
  | cons a as ih =>
    rw [List.mapM_cons] at h
    obtain ⟨b, hb, h⟩ := bind_eq_ok.mp h
    obtain ⟨rest, hrest, h⟩ := bind_eq_ok.mp h
    cases h
    rw [hg a b hb, ih hrest, List.map_cons]

/-- A check that stops at a fault passes if the fault is not there and the rest passes. -/
theorem ite_error_eq_ok_iff {p : Prop} [Decidable p] {e : ε} {rest : Except ε Unit} :
    (if p then .error e else rest) = .ok () ↔ ¬p ∧ rest = .ok () := by
  split
  next hp => simp [hp]
  next hp => simp [hp]

/-- Why a computation fails, if it does. -/
def fault? {ε α : Type} : Except ε α → Option ε
  | .error e => some e
  | .ok _ => none

theorem fault?_eq_none : fault? x = none ↔ ∃ a, x = .ok a := by
  cases x <;> simp [fault?]

/-- Computations one after the other fail with the first fault. -/
theorem fault?_bind {rest : Option ε} (h : ∀ a, fault? (f a) = rest) :
    fault? (x >>= f) = (fault? x).or rest := by
  cases x with
  | error e => rfl
  | ok a => exact (h a).trans Option.none_or.symm

end

end LogCourier
