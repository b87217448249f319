/-! # Pieces of a text

Lists of values are written with a character between them, and pairs with a character in the middle.
-/

namespace LogCourier.Text

/-- The pieces between the occurrences of a character; there is always one more than of these. -/
def pieces (c : Char) : List Char → List (List Char)
  | [] => [[]]
  | d :: ds =>
    if d = c then [] :: pieces c ds
    else
      match pieces c ds with
      | [] => [[d]]
      | p :: ps => (d :: p) :: ps

theorem length_pieces (c : Char) (cs : List Char) : (pieces c cs).length = cs.count c + 1 := by
  induction cs with
  | nil => rfl
  | cons d ds ih =>
    rw [pieces]
    split
    · rename_i h
      simp [ih, h]
    · rename_i h
      split
      · rename_i hp
        rw [hp] at ih
        contradiction
      · rename_i hp
        rw [hp] at ih
        simpa [List.count_cons_of_ne h] using ih

/-- What stands before the first occurrence of a character, and what stands after it. -/
def cutChars? (c : Char) : List Char → Option (List Char × List Char)
  | [] => none
  | d :: ds =>
    if d = c then some ([], ds) else (cutChars? c ds).map fun (before, rest) => (d :: before, rest)

theorem eq_of_cutChars? {c : Char} {cs before rest : List Char}
    (h : cutChars? c cs = some (before, rest)) : cs = before ++ c :: rest ∧ c ∉ before := by
  induction cs generalizing before with
  | nil => cases h
  | cons d ds ih =>
    rw [cutChars?] at h
    split at h
    · rename_i hd
      cases h
      simp [hd]
    · rename_i hd
      obtain ⟨⟨b, r⟩, hb, he⟩ := Option.map_eq_some_iff.1 h
      cases he
      obtain ⟨rfl, hn⟩ := ih hb
      simp [hn, Ne.symm hd]

def split (c : Char) (s : String) : List String := (pieces c s.toList).map String.ofList

/-- Cuts a text at the first occurrence of a character. -/
def cut? (c : Char) (s : String) : Option (String × String) :=
  (cutChars? c s.toList).map fun (before, rest) => (String.ofList before, String.ofList rest)

/-- Cuts a text at the last occurrence of a character. -/
def cutLast? (c : Char) (s : String) : Option (String × String) :=
  (cutChars? c s.toList.reverse).map fun (after, rest) =>
    (String.ofList rest.reverse, String.ofList after.reverse)

/-- Whether some characters stand side by side in a text. -/
def occursIn (what : List Char) : List Char → Bool
  | [] => what.isEmpty
  | c :: cs => what.isPrefixOf (c :: cs) || occursIn what cs

/-! ## Bytes -/

/-- How many bytes characters take in UTF-8. -/
def byteSize : List Char → Nat
  | [] => 0
  | c :: cs => c.utf8Size + byteSize cs

/-- The characters that begin at a byte or later. -/
def fromByte : Nat → List Char → List Char
  | 0, cs => cs
  | _, [] => []
  | n, c :: cs => fromByte (n - c.utf8Size) cs

theorem fromByte_byteSize (front rest : List Char) :
    fromByte (byteSize front) (front ++ rest) = rest := by
  induction front with
  | nil => simp [byteSize, fromByte]
  | cons c cs ih =>
    have hc := c.utf8Size_pos
    rw [byteSize, List.cons_append, fromByte]
    · rw [Nat.add_sub_cancel_left, ih]
    · omega

end LogCourier.Text
