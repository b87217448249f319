import Mathlib.Data.List.Basic
import Mathlib.Data.List.TakeWhile
import LogCourier.Text.Blank
import LogCourier.Text.Pieces

/-!
# Cutting and trimming

A list of values that is written with a character between them is cut at every such character,
also at those that the values hold (`Text.split_intercalate`).  Trimming takes blanks from
both ends and nothing else (`Text.exists_trimChars`), so that it does not matter which blanks
are there (`Text.trimChars_between`).
-/

namespace LogCourier

section

variable {α : Type} [BEq α] [LawfulBEq α] {x : α}

/-- The pieces between the occurrences of an element do not hold it. -/
theorem notMem_of_mem_splitOn {xs piece : List α} (h : piece ∈ xs.splitOn x) : x ∉ piece := by
  induction xs generalizing piece with
  | nil =>
    rw [List.splitOn_nil, List.mem_singleton] at h
    rw [h]
    exact List.not_mem_nil
  | cons y xs ih =>
    rw [List.splitOn_cons_eq_if_modifyHead] at h
    split at h
    next hy =>
      rcases List.mem_cons.mp h with rfl | h
      · exact List.not_mem_nil
      · exact ih h
    next hy =>
      cases hxs : xs.splitOn x with
      | nil => exact absurd hxs (List.splitOn_ne_nil _ _)
      | cons first others =>
        rw [hxs] at h ih
        rw [List.modifyHead_cons] at h
        rcases List.mem_cons.mp h with rfl | h
        · have hne : x ≠ y := fun heq => hy (beq_iff_eq.mpr heq.symm)
          rw [List.mem_cons, not_or]
          exact ⟨hne, ih List.mem_cons_self⟩
        · exact ih (List.mem_cons_of_mem _ h)

/-- Lists that are joined by an element are cut at each of its occurrences. -/
theorem splitOn_joined {lists : List (List α)} (h : lists ≠ []) :
    ([x].intercalate lists).splitOn x = lists.flatMap (·.splitOn x) := by
  induction lists with
  | nil => exact absurd rfl h
  | cons l lists ih =>
    cases lists with
    | nil => simp [List.intercalate]
    | cons l' lists =>
      rw [List.intercalate_cons_cons, List.append_assoc, List.singleton_append,
        List.splitOn_append_cons_self, ih (List.cons_ne_nil _ _)]
      rfl

end

namespace Text

/-! ## Pieces -/

theorem pieces_eq_splitOn (c : Char) (cs : List Char) : pieces c cs = cs.splitOn c := by
  induction cs with
  | nil => rfl
  | cons d cs ih =>
    rw [pieces, List.splitOn_cons_eq_if_modifyHead, ih]
    by_cases hd : d = c
    · rw [if_pos hd, if_pos (beq_iff_eq.mpr hd)]
    · rw [if_neg hd, if_neg (by simpa using hd)]
      cases h : cs.splitOn c with
      | nil => exact absurd h (List.splitOn_ne_nil _ _)
      | cons first others => rfl

theorem split_eq (c : Char) (s : String) : split c s = (s.toList.splitOn c).map String.ofList := by
  rw [split, pieces_eq_splitOn]

theorem split_of_notMem {c : Char} {s : String} (h : c ∉ s.toList) : split c s = [s] := by
  rw [split_eq, List.splitOn_eq_singleton h, List.map_singleton, String.ofList_toList]

theorem notMem_of_mem_split {c : Char} {s piece : String} (h : piece ∈ split c s) :
    c ∉ piece.toList := by
  rw [split_eq] at h
  obtain ⟨cs, hcs, rfl⟩ := List.mem_map.mp h
  rw [String.toList_ofList]
  exact notMem_of_mem_splitOn hcs

/-- A list of texts with commas between them is cut at every comma. -/
theorem split_intercalate {texts : List String} (h : texts ≠ []) :
    split ',' (",".intercalate texts) = texts.flatMap (split ',') := by
  have hlists : texts.map String.toList ≠ [] := by simpa using h
  have hcomma : ",".toList = [','] := rfl
  rw [split_eq, String.toList_intercalate, hcomma, splitOn_joined hlists, List.flatMap_map,
    List.map_flatMap]
  exact List.flatMap_congr fun s _ => (split_eq ',' s).symm

/-! ## Blanks at the ends -/

theorem trimChars_between {front back : List Char} (hfront : ∀ c ∈ front, isBlank c = true)
    (hback : ∀ c ∈ back, isBlank c = true) (cs : List Char) :
    trimChars (front ++ cs ++ back) = trimChars cs := by
  have hreverse : ∀ c ∈ back.reverse, isBlank c = true :=
    fun c hc => hback c (List.mem_reverse.mp hc)
  rw [trimChars, trimChars, List.append_assoc, List.dropWhile_append_of_pos hfront,
    List.dropWhile_append]
  split
  next hnone =>
    rw [List.dropWhile_eq_nil_iff.mpr hback, List.isEmpty_iff.mp hnone]
  next => rw [List.reverse_append, List.dropWhile_append_of_pos hreverse]

/-- Trimming takes blanks from both ends and nothing else. -/
theorem exists_trimChars (cs : List Char) :
    ∃ front back, cs = front ++ trimChars cs ++ back ∧ (∀ c ∈ front, isBlank c = true) ∧
      ∀ c ∈ back, isBlank c = true := by
  refine ⟨cs.takeWhile isBlank, ((cs.dropWhile isBlank).reverse.takeWhile isBlank).reverse, ?_, ?_,
    ?_⟩
  · have hback :=
      List.takeWhile_append_dropWhile (p := isBlank) (l := (cs.dropWhile isBlank).reverse)
    rw [trimChars, List.append_assoc, ← List.reverse_append, hback, List.reverse_reverse,
      List.takeWhile_append_dropWhile]
  · intro c hc
    exact List.all_eq_true.mp (List.all_takeWhile) c hc
  · intro c hc
    exact List.all_eq_true.mp (List.all_takeWhile) c (List.mem_reverse.mp hc)

theorem trim_between {front back : List Char} (hfront : ∀ c ∈ front, isBlank c = true)
    (hback : ∀ c ∈ back, isBlank c = true) (cs : List Char) :
    trim (String.ofList (front ++ cs ++ back)) = trim (String.ofList cs) := by
  rw [trim, String.toList_ofList, trimChars_between hfront hback, trim, String.toList_ofList]

/-- Only blanks get lost. -/
theorem mem_trimChars {c : Char} (hc : isBlank c = false) (cs : List Char) :
    c ∈ trimChars cs ↔ c ∈ cs := by
  obtain ⟨front, back, heq, hfront, hback⟩ := exists_trimChars cs
  have hnotFront : c ∉ front := fun hmem => absurd (hfront c hmem) (by simp [hc])
  have hnotBack : c ∉ back := fun hmem => absurd (hback c hmem) (by simp [hc])
  have hmem : c ∈ cs ↔ c ∈ front ++ trimChars cs ++ back := by rw [← heq]
  rw [hmem, List.mem_append, List.mem_append]
  simp [hnotFront, hnotBack]

theorem mem_toList_trim {c : Char} (hc : isBlank c = false) (s : String) :
    c ∈ (trim s).toList ↔ c ∈ s.toList := by
  rw [trim, String.toList_ofList, mem_trimChars hc]

end Text

end LogCourier
