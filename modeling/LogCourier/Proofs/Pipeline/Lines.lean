import Mathlib.Data.List.Basic
import LogCourier.Pipeline.Line

/-!
# The lines of a stretch of bytes

The line buffer works byte by byte and keeps only what is unfinished.  Here the lines of some bytes
are given at once, from all of the bytes: the stretches between newlines are cut into pieces of
`LineBuffer.maxLength`, and every piece but the last is a line.  `LineBuffer.feed_empty` says that
the buffer gives these lines and holds the last piece; since feeding composes, it does not matter
how the bytes were divided into chunks.
-/

namespace LogCourier

namespace Bytes

/-- The pieces of a stretch without newlines.  There is always at least one, and a stretch that
fills its last piece does not begin another. -/
def cut (stretch : Bytes) : List Bytes :=
  (List.range ((stretch.length - 1) / LineBuffer.maxLength + 1)).map fun i =>
    (stretch.drop (LineBuffer.maxLength * i)).take LineBuffer.maxLength

def pieces (b : Bytes) : List Bytes := (b.splitOn newline).flatMap cut

/-- The finished lines: a piece is finished by its newline or by the first byte of the next one. -/
def lines (b : Bytes) : List Bytes := b.pieces.dropLast

/-- The line that is not finished yet. -/
def rest (b : Bytes) : Bytes := b.pieces.getLastD []

/-! ## Pieces -/

theorem cut_of_le {s : Bytes} (h : s.length ≤ LineBuffer.maxLength) : s.cut = [s] := by
  have hone : (s.length - 1) / LineBuffer.maxLength = 0 := Nat.div_eq_of_lt (by
    unfold LineBuffer.maxLength at *; omega)
  simp [cut, hone, List.take_of_length_le h]

theorem cut_of_lt {s : Bytes} (h : LineBuffer.maxLength < s.length) :
    s.cut = s.take LineBuffer.maxLength :: cut (s.drop LineBuffer.maxLength) := by
  have hcount : (s.length - 1) / LineBuffer.maxLength =
      (s.length - LineBuffer.maxLength - 1) / LineBuffer.maxLength + 1 := by
    unfold LineBuffer.maxLength at *; omega
  rw [cut, hcount, List.range_succ_eq_map, List.map_cons, List.map_map]
  simp only [cut, List.length_drop, Nat.mul_zero, List.drop_zero]
  congr 1
  apply List.map_congr_left
  intro i _
  rw [Function.comp_apply, List.drop_drop, Nat.mul_succ, Nat.add_comm]

theorem length_le_of_mem_cut {s p : Bytes} (h : p ∈ s.cut) : p.length ≤ LineBuffer.maxLength := by
  obtain ⟨i, _, rfl⟩ := List.mem_map.mp h
  exact List.length_take_le _ _

theorem cut_ne_nil (s : Bytes) : s.cut ≠ [] := by
  simp [cut]

theorem pieces_ne_nil (b : Bytes) : b.pieces ≠ [] := by
  cases h : b.splitOn newline with
  | nil => exact absurd h (List.splitOn_ne_nil _ _)
  | cons s ss => simp [pieces, h, cut_ne_nil]

theorem length_rest_le (b : Bytes) : b.rest.length ≤ LineBuffer.maxLength := by
  have hlast : b.rest = b.pieces.getLast (pieces_ne_nil b) := by
    rw [rest, List.getLastD_eq_getLast?, List.getLast?_eq_some_getLast (pieces_ne_nil b)]
    rfl
  obtain ⟨s, _, hs⟩ := List.mem_flatMap.mp (hlast ▸ List.getLast_mem (pieces_ne_nil b))
  exact length_le_of_mem_cut hs

/-- Bytes without a newline are put in front of the first stretch. -/
private theorem splitOn_append {p : Bytes} (hp : newline ∉ p) (b : Bytes) :
    (p ++ b).splitOn newline = (b.splitOn newline).modifyHead (p ++ ·) := by
  induction p with
  | nil => cases h : b.splitOn newline <;> simp [h]
  | cons x p ih =>
    rw [List.mem_cons, not_or] at hp
    rw [List.cons_append, List.splitOn_cons_eq_if_modifyHead, if_neg (by simpa using Ne.symm hp.1),
      ih hp.2, List.modifyHead_modifyHead]
    rfl

theorem pieces_of_le {p : Bytes} (hp : newline ∉ p) (h : p.length ≤ LineBuffer.maxLength) :
    p.pieces = [p] := by
  rw [pieces, List.splitOn_eq_singleton hp, List.flatMap_singleton, cut_of_le h]

theorem pieces_append_newline {p : Bytes} (hp : newline ∉ p) (h : p.length ≤ LineBuffer.maxLength)
    (b : Bytes) : pieces (p ++ newline :: b) = p :: b.pieces := by
  rw [pieces, List.splitOn_append_cons_self_of_not_mem hp, List.flatMap_cons, cut_of_le h]
  rfl

/-- A full piece is finished by a byte that is not its newline, which begins the next piece. -/
theorem pieces_append_of_full {p : Bytes} (hp : newline ∉ p) (h : p.length = LineBuffer.maxLength)
    {x : UInt8} (hx : x ≠ newline) (b : Bytes) :
    pieces (p ++ x :: b) = p :: pieces (x :: b) := by
  have hsplit : (x :: b).splitOn newline = (b.splitOn newline).modifyHead (x :: ·) := by
    rw [List.splitOn_cons_eq_if_modifyHead, if_neg (by simpa using hx)]
  rw [pieces, pieces, splitOn_append hp, hsplit]
  cases hb : b.splitOn newline with
  | nil => exact absurd hb (List.splitOn_ne_nil _ _)
  | cons s ss =>
    simp only [List.modifyHead_cons, List.flatMap_cons]
    rw [cut_of_lt (by simp [h]), List.take_left' h, List.drop_left' h]
    rfl

/-- A piece that others follow is a line. -/
theorem lines_rest_of_pieces_eq_cons {b c p : Bytes} (h : b.pieces = p :: c.pieces) :
    b.lines = p :: c.lines ∧ b.rest = c.rest := by
  obtain ⟨q, qs, hc⟩ := List.exists_cons_of_ne_nil (pieces_ne_nil c)
  simp [lines, rest, h, hc]

end Bytes

/-! ## The buffer -/

namespace LineBuffer

open Bytes

theorem feed_eq {p : Bytes} (hp : newline ∉ p) (h : p.length ≤ maxLength) (chunk : Bytes) :
    feed ⟨p.toArray⟩ chunk = (⟨(rest (p ++ chunk)).toArray⟩, lines (p ++ chunk)) := by
  induction chunk generalizing p with
  | nil => simp [feed, rest, lines, pieces_of_le hp h]
  | cons x chunk ih =>
    simp only [feed] at ih ⊢
    by_cases hx : x = newline
    · -- The newline finishes the pending line, and nothing is pending after it.
      subst hx
      have hnext := ih (p := []) (by simp) (by simp)
      obtain ⟨hlines, hrest⟩ := lines_rest_of_pieces_eq_cons (pieces_append_newline hp h chunk)
      simpa [push, hlines, hrest] using Prod.ext_iff.mp hnext
    · by_cases hfull : maxLength ≤ p.length
      · have hnext := ih (p := [x]) (by simpa using Ne.symm hx) (by simp [maxLength])
        obtain ⟨hlines, hrest⟩ := lines_rest_of_pieces_eq_cons
          (pieces_append_of_full hp (Nat.le_antisymm h hfull) hx chunk)
        simpa [push, hx, hfull, hlines, hrest] using Prod.ext_iff.mp hnext
      · have hlength : (p ++ [x]).length ≤ maxLength := by
          rw [List.length_append, List.length_singleton]
          omega
        have hnext := ih (p := p ++ [x]) (by simp [hp, Ne.symm hx]) hlength
        simp [push, hx, hfull, hnext]

/-- The buffer gives the lines of what it is fed, and holds the rest. -/
theorem feed_empty (b : Bytes) : feed {} b = (⟨b.rest.toArray⟩, b.lines) :=
  feed_eq (p := []) (by simp) (by simp) b

/-- The lines that further bytes finish, for a buffer that holds the rest of earlier ones. -/
theorem feed_rest (b chunk : Bytes) :
    (feed ⟨b.rest.toArray⟩ chunk).1 = ⟨(rest (b ++ chunk)).toArray⟩ ∧
      lines (b ++ chunk) = b.lines ++ (feed ⟨b.rest.toArray⟩ chunk).2 := by
  have h := feed_empty (b ++ chunk)
  rw [feed, Stage.run_append] at h
  change ((feed (feed {} b).1 chunk).1, (feed {} b).2 ++ (feed (feed {} b).1 chunk).2) = _ at h
  rw [feed_empty] at h
  exact ⟨congrArg Prod.fst h, (congrArg Prod.snd h).symm⟩

end LineBuffer

end LogCourier
