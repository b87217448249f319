import Mathlib.Data.List.DropRight

/-!
# Streaks

What is bounded by a number of failures in a row is over as soon as there are so many of them: the
streak at the end of the log has reached the bound, and every earlier one has been shorter.
-/

namespace LogCourier

variable {α : Type} {p : α → Bool}

/-- How many elements in a row have a property at the end of a list. -/
def streak (p : α → Bool) (l : List α) : Nat := (l.rtakeWhile p).length

@[simp] theorem streak_nil : streak p [] = 0 := by
  rw [streak, List.rtakeWhile_nil, List.length_nil]

theorem streak_concat_of_pos (l : List α) {a : α} (ha : p a = true) :
    streak p (l ++ [a]) = streak p l + 1 := by
  rw [streak, List.rtakeWhile_concat_pos _ _ _ ha, List.length_append]
  rfl

theorem streak_concat_of_neg (l : List α) {a : α} (ha : p a = false) : streak p (l ++ [a]) = 0 := by
  rw [streak, List.rtakeWhile_concat_neg _ _ _ (by simp [ha]), List.length_nil]

/-- No streak has reached a bound before the end of a list. -/
def StreaksBelow (p : α → Bool) (bound : Nat) (l : List α) : Prop :=
  ∀ before, before <+: l → before ≠ l → streak p before < bound

theorem streaksBelow_nil (bound : Nat) : StreaksBelow p bound [] := by
  intro before hprefix hne
  exact absurd (List.prefix_nil.mp hprefix) hne

theorem StreaksBelow.concat {bound : Nat} {l : List α} (h : StreaksBelow p bound l)
    (hless : streak p l < bound) (a : α) : StreaksBelow p bound (l ++ [a]) := by
  intro before hprefix hne
  rcases List.prefix_concat_iff.mp hprefix with heq | hprefix
  · exact absurd heq hne
  · by_cases heq : before = l
    · rw [heq]
      exact hless
    · exact h before hprefix heq

end LogCourier
