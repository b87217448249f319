import Mathlib.Data.Nat.Digits.Lemmas
import LogCourier.Proofs.Numeral
import LogCourier.Proofs.Pipeline.Transcript
import LogCourier.Proofs.Text.Pieces

/-!
# The bodies of records

Whatever bytes a pipeline is fed, the texts that it passes on hold no newline and are never longer
than a full line, and every such text can be passed on (`Pipeline.emits_iff`).  Lines are like that
because of where the bytes are cut; a notice is, because its count has 64 bits.
-/

namespace LogCourier

namespace Bytes

/-- What a line can hold. -/
structure IsLine (b : Bytes) : Prop where
  newline_notMem : newline ∉ b
  length_le : b.length ≤ LineBuffer.maxLength

theorem isLine_nil : IsLine [] := ⟨List.not_mem_nil, Nat.zero_le _⟩

/-! ## Newlines in texts -/

theorem newline_eq_ofNat {k : Nat} (hk : k < UInt8.size) : newline = UInt8.ofNat k ↔ k = 10 := by
  rw [← UInt8.toNat_inj, UInt8.toNat_ofNat_of_lt' hk, newline]
  exact eq_comm

/-- Every byte of a longer form is above all that stand for themselves. -/
theorem newline_mem_utf8EncodeChar {c : Char} : newline ∈ String.utf8EncodeChar c ↔ c = '\n' := by
  have hvalue : c = '\n' ↔ c.val.toNat = 10 := by
    rw [Char.ext_iff, ← UInt32.toNat_inj]
    rfl
  rw [hvalue, String.utf8EncodeChar]
  have hsize : UInt8.size = 256 := rfl
  split
  next => rw [List.mem_singleton, newline_eq_ofNat (by omega)]
  next hone =>
    split
    next =>
      simp only [List.mem_cons, List.not_mem_nil, or_false]
      rw [newline_eq_ofNat (by omega), newline_eq_ofNat (by omega)]
      omega
    next =>
      split
      next =>
        simp only [List.mem_cons, List.not_mem_nil, or_false]
        rw [newline_eq_ofNat (by omega), newline_eq_ofNat (by omega), newline_eq_ofNat (by omega)]
        omega
      next =>
        simp only [List.mem_cons, List.not_mem_nil, or_false]
        rw [newline_eq_ofNat (by omega), newline_eq_ofNat (by omega), newline_eq_ofNat (by omega),
          newline_eq_ofNat (by omega)]
        omega

theorem newline_mem_ofText {s : String} : newline ∈ ofText s ↔ '\n' ∈ s.toList := by
  simp only [ofText, List.mem_flatMap, newline_mem_utf8EncodeChar, exists_eq_right]

theorem newline_notMem_toString (n : Nat) : '\n' ∉ (toString n).toList := by
  intro hmem
  exact absurd (Numeral.isDigit_of_mem_toString hmem) (by decide)

theorem length_ofText_le (s : String) : (ofText s).length ≤ 4 * s.length := by
  rw [ofText, List.length_flatMap, ← String.length_toList]
  induction s.toList with
  | nil => rfl
  | cons c cs ih =>
    have hsize : (String.utf8EncodeChar c).length ≤ 4 := by
      rw [String.length_utf8EncodeChar]
      exact c.utf8Size_le_four
    rw [List.map_cons, List.sum_cons, List.length_cons]
    omega

/-! ## Lines -/

theorem isLine_of_mem_lines {b line : Bytes} (h : line ∈ b.lines) : line.IsLine := by
  obtain ⟨stretch, hstretch, hcut⟩ := List.mem_flatMap.mp (List.mem_of_mem_dropLast h)
  refine ⟨?_, length_le_of_mem_cut hcut⟩
  obtain ⟨i, _, rfl⟩ := List.mem_map.mp hcut
  intro hmem
  exact notMem_of_mem_splitOn hstretch (List.mem_of_mem_drop (List.mem_of_mem_take hmem))

end Bytes

namespace LineRun

theorem line_notMem_notices (threshold repeats : Nat) (b : Bytes) :
    .line b ∉ notices threshold repeats := by
  intro h
  obtain ⟨j, _, hj⟩ := List.mem_map.mp h
  cases hj

theorem mem_of_line_mem_begun {threshold : Nat} {run : List Bytes} {b : Bytes}
    (h : .line b ∈ begun threshold run) : b ∈ run := by
  cases run with
  | nil => cases h
  | cons line again =>
    rcases List.mem_cons.mp h with heq | hnotice
    · cases heq
      exact List.mem_cons_self
    · exact absurd hnotice (line_notMem_notices _ _ b)

theorem mem_of_line_mem_settled {run : List Bytes} {b : Bytes} (h : .line b ∈ settled run) :
    b ∈ run := by
  match run, h with
  | [line, _], h =>
    cases List.mem_singleton.mp h
    exact List.mem_cons_self
  | _ :: _ :: _ :: _, h => cases List.mem_singleton.mp h

theorem exists_mem_of_line_mem_messages {threshold : Nat} {ended : Bool}
    {rs : List (List Bytes)} {b : Bytes} (h : .line b ∈ messages threshold ended rs) :
    ∃ run ∈ rs, b ∈ run := by
  induction rs with
  | nil => cases h
  | cons run rest ih =>
    cases rest with
    | nil =>
      rcases List.mem_append.mp h with hbegun | hended
      · exact ⟨run, List.mem_cons_self, mem_of_line_mem_begun hbegun⟩
      · cases ended with
        | false => cases hended
        | true => exact ⟨run, List.mem_cons_self, mem_of_line_mem_settled hended⟩
    | cons next rest =>
      rw [messages_cons _ _ _ (List.cons_ne_nil next rest), List.mem_append, List.mem_append] at h
      rcases h with (hbegun | hsettled) | hrest
      · exact ⟨run, List.mem_cons_self, mem_of_line_mem_begun hbegun⟩
      · exact ⟨run, List.mem_cons_self, mem_of_line_mem_settled hsettled⟩
      · obtain ⟨later, hlater, hb⟩ := ih hrest
        exact ⟨later, List.mem_cons_of_mem _ hlater, hb⟩

end LineRun

namespace PipelineCall

theorem isLine_of_mem_encoding {threshold : Nat} {ended : Bool} {bytes b : Bytes}
    (h : .line b ∈ encoding threshold ended bytes) : b.IsLine := by
  obtain ⟨run, hrun, hb⟩ := LineRun.exists_mem_of_line_mem_messages h
  apply Bytes.isLine_of_mem_lines (b := bytes)
  rw [← List.flatten_splitBy (· == ·) bytes.lines]
  exact List.mem_flatten.mpr ⟨run, hrun, hb⟩

theorem isLine_of_mem_transcript {threshold : Nat} {calls : List PipelineCall} {b : Bytes}
    (h : .line b ∈ transcript threshold calls) : b.IsLine := by
  rcases List.mem_append.mp h with hended | hcurrent
  · obtain ⟨bytes, _, hb⟩ := List.mem_flatMap.mp hended
    exact isLine_of_mem_encoding hb
  · exact isLine_of_mem_encoding hcurrent

end PipelineCall

/-! ## What is passed on -/

namespace Limiter

theorem mem_of_line_mem_run {l : Limiter} {now : Nat} {ms : List Message} {b : Bytes}
    (h : .line b ∈ (Stage.run (fun l => l.offer now) l ms).2) : .line b ∈ ms := by
  induction ms generalizing l with
  | nil => cases h
  | cons m ms ih =>
    rw [Stage.run_cons, List.mem_append] at h
    rcases h with hfirst | hrest
    · rcases l.offer_outcomes now m with ⟨_, heq⟩ | ⟨_, ⟨_, heq⟩ | ⟨n, _, heq⟩⟩
      · rw [heq] at hfirst
        cases hfirst
      · rw [heq] at hfirst
        rw [List.mem_singleton.mp hfirst]
        exact List.mem_cons_self
      · rw [heq] at hfirst
        rcases List.mem_cons.mp hfirst with hnotice | hline
        · cases hnotice
        · rw [List.mem_singleton.mp hline]
          exact List.mem_cons_self
    · exact List.mem_cons_of_mem _ (ih hrest)

end Limiter

namespace Message

/-- How many messages a notice tells of. -/
def count : Message → Nat
  | .line _ => 0
  | .repeated n | .suppressed n => n

/-- A notice between two texts that are short and hold no newline. -/
theorem isLine_notice {before after : String} (hbefore : '\n' ∉ before.toList)
    (hafter : '\n' ∉ after.toList) (hlength : before.length + after.length ≤ 100) {n : Nat}
    (hn : n ≤ Numeral.max64) : (Bytes.ofText (before ++ toString n ++ after)).IsLine where
  newline_notMem := by
    rw [Bytes.newline_mem_ofText, String.toList_append, String.toList_append, List.mem_append,
      List.mem_append, not_or, not_or]
    exact ⟨⟨hbefore, Bytes.newline_notMem_toString n⟩, hafter⟩
  length_le := by
    have hdigits : (toString n).length ≤ 20 := by
      rw [Nat.toString_eq_repr]
      refine Nat.repr_length n 20 (by decide) (Nat.lt_of_le_of_lt hn ?_)
      decide
    have hbytes := Bytes.length_ofText_le (before ++ toString n ++ after)
    rw [String.length_append, String.length_append] at hbytes
    rw [LineBuffer.maxLength]
    omega

theorem isLine_body {m : Message} (hline : ∀ b, m = .line b → b.IsLine)
    (hcount : m.count ≤ Numeral.max64) : m.body.IsLine := by
  cases m with
  | line b => exact hline b rfl
  | repeated n => exact isLine_notice (by decide) (by decide) (by decide) hcount
  | suppressed n => exact isLine_notice (by decide) (by decide) (by decide) hcount

end Message

namespace Pipeline

open PipelineCall

/-- A line that is passed on stands in the transcript. -/
theorem StandsAfter.isLine_of_mem_run {p : Pipeline} {past : List PipelineCall}
    (h : p.StandsAfter past) {calls : List (Nat × PipelineCall)} {b : Bytes}
    (hb : .line b ∈ (Stage.run Pipeline.call p calls).2) : b.IsLine := by
  induction calls generalizing p past with
  | nil => cases hb
  | cons c calls ih =>
    rw [Stage.run_cons, List.mem_append] at hb
    rcases hb with hfirst | hrest
    · rw [(p.call_eq c.1 c.2).2.2] at hfirst
      have hoffered : .line b ∈ transcript p.threshold (past ++ [c.2]) := by
        rw [h.transcript_concat]
        exact List.mem_append_right _ (Limiter.mem_of_line_mem_run hfirst)
      exact isLine_of_mem_transcript hoffered
    · exact ih (h.call c.1 c.2) hrest

/-- Whether a pipeline passes on a text in some run; a count has no more than 64 bits. -/
def Emits (limit window threshold : Nat) (b : Bytes) : Prop :=
  ∃ calls, ∃ m ∈ (Stage.run call (new limit window threshold) calls).2,
    m.count ≤ Numeral.max64 ∧ m.body = b

/-- A line that is fed with its newline is passed on. -/
theorem emits_line {limit : Nat} (hlimit : 0 < limit) (window threshold : Nat) {b : Bytes}
    (hb : b.IsLine) : Emits limit window threshold b := by
  have hlines : (b ++ [newline]).lines = [b] := by
    rw [Bytes.lines, Bytes.pieces_append_newline hb.newline_notMem hb.length_le]
    rfl
  have htranscript : transcript (max threshold 1) [.feed (b ++ [newline])] = [.line b] := by
    change encoding (max threshold 1) false (b ++ [newline]) = [.line b]
    have hrun : LineRun.runs [b] = [[b]] := LineRun.runs_replicate b 0
    rw [encoding, hlines, hrun]
    simp [LineRun.messages, LineRun.begun, LineRun.notices]
  have hrun := (run_new_eq_transcript limit window threshold [(0, .feed (b ++ [newline]))]
    (by simpa [htranscript] using Nat.succ_le_of_lt hlimit)).1
  refine ⟨[(0, .feed (b ++ [newline]))], .line b, ?_, Nat.zero_le _, rfl⟩
  rw [hrun]
  simp [htranscript]

/-- The texts that a pipeline passes on are those that can stand in a line. -/
theorem emits_iff {limit : Nat} (hlimit : 0 < limit) (window threshold : Nat) (b : Bytes) :
    Emits limit window threshold b ↔ b.IsLine := by
  refine ⟨?_, emits_line hlimit window threshold⟩
  rintro ⟨calls, m, hm, hcount, rfl⟩
  refine m.isLine_body ?_ hcount
  rintro b rfl
  exact (new_standsAfter limit window threshold).isLine_of_mem_run hm

end Pipeline

end LogCourier
