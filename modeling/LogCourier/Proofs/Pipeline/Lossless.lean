import Mathlib
import LogCourier.Proofs.Pipeline.Transcript

/-!
# Collapsing loses nothing

Runs of equal lines are collapsed into notices, and yet the lines can be read back from the
messages: a line stands for itself, and the last of the notices that follow it says how often it
came again, unless this was only once and the line itself is sent a second time
(`LineRun.restore`).  The threshold does not have to be known.  What is sent is the text of a
message, so that no line may look like a notice; then two streams of whole lines that give the same
texts are equal (`Pipeline.stream_eq_of_forwarded_eq`).
-/

namespace LogCourier

/-! ## Texts of messages -/

theorem Bytes.ofText_injective : Function.Injective ofText := by
  intro s t h
  have hbytes : s.toList.utf8Encode = t.toList.utf8Encode := congrArg List.toByteArray h
  rwa [String.utf8Encode_toList, String.utf8Encode_toList, String.toByteArray_inj] at hbytes

namespace Message

theorem body_repeated_injective {m n : Nat} (h : body (.repeated m) = body (.repeated n)) :
    m = n := by
  have htext : repeatedText m = repeatedText n := Bytes.ofText_injective h
  unfold repeatedText at htext
  have hcount := (String.append_right_inj _).mp ((String.append_left_inj _).mp htext)
  exact Nat.repr_injective hcount

/-- Whoever reads the text of the message knows the message. -/
def Legible : Message → Prop
  | .line b => ∀ n, b ≠ body (.repeated n)
  | .repeated _ => True
  | .suppressed _ => False

/-- A line that does not begin as the notices do is taken for none of them. -/
theorem legible_of_head?_ne {b : Bytes} (h : b.head? ≠ some 112) : (line b).Legible := by
  rintro n rfl
  apply h
  change (Bytes.ofText ("previous message repeated " ++ toString n ++ " times")).head? = some 112
  rw [Bytes.ofText_append, Bytes.ofText_append, List.append_assoc]
  exact List.head?_append_of_ne_nil _ (by decide)

theorem body_injOn : Set.InjOn body {m | m.Legible} := by
  rintro (b | m | m) hm (b' | n | n) hn h
  · exact congrArg line h
  · exact absurd h (hm n)
  · cases hn
  · exact absurd h.symm (hn m)
  · exact congrArg repeated (body_repeated_injective h)
  · cases hn
  · cases hm
  · cases hm
  · cases hm

theorem eq_of_map_body_eq {xs ys : List Message} (hx : ∀ m ∈ xs, m.Legible)
    (hy : ∀ m ∈ ys, m.Legible) (h : xs.map body = ys.map body) : xs = ys := by
  induction xs generalizing ys with
  | nil => exact (List.map_eq_nil_iff.mp h.symm).symm
  | cons x xs ih =>
    obtain ⟨y, ys, rfl, hbody, hrest⟩ := List.map_eq_cons_iff.mp h.symm
    rw [List.forall_mem_cons] at hx hy
    rw [body_injOn hy.1 hx.1 hbody, ih hx.2 hy.2 hrest.symm]

def isRepeated : Message → Bool
  | .repeated _ => true
  | _ => false

end Message

/-! ## Reading the lines back -/

namespace LineRun

/-- The lines that some messages stand for, where `line` is the line before them.  Of the notices
that follow each other only the last one counts, and a line that came again once is sent again. -/
def restore (line : Bytes) : List Message → List Bytes
  | [] => []
  | .line next :: ms => next :: restore next ms
  | .repeated n :: ms =>
    if n = 1 ∨ ms.head?.any Message.isRepeated then restore line ms
    else List.replicate n line ++ restore line ms
  | .suppressed _ :: ms => restore line ms

/-- Only the last notice counts. -/
theorem restore_repeated {ms : List Message} (hms : ms.head?.any Message.isRepeated = false)
    (line : Bytes) (ns : List Nat) (n : Nat) :
    restore line (ns.map .repeated ++ .repeated n :: ms) =
      (if n = 1 then [] else List.replicate n line) ++ restore line ms := by
  induction ns with
  | nil =>
    by_cases hn : n = 1
    · simp [restore, hn]
    · simp [restore, hn, hms]
  | cons k ns ih =>
    have hnotice : (ns.map Message.repeated ++ .repeated n :: ms).head?.any Message.isRepeated := by
      cases ns <;> rfl
    rw [List.map_cons, List.cons_append, restore, if_pos (Or.inr hnotice), ih]

theorem notices_eq_map (threshold k : Nat) :
    ∃ ns : List Nat, notices threshold k = ns.map .repeated :=
  ⟨(List.range (k / threshold)).map fun j => (j + 1) * threshold, List.map_map.symm⟩

/-- The messages of a run give its lines back. -/
theorem restore_run {ms : List Message} (hms : ms.head?.any Message.isRepeated = false)
    (threshold : Nat) (before line : Bytes) (k : Nat) :
    restore before (begun threshold (List.replicate (k + 1) line) ++
        settled (List.replicate (k + 1) line) ++ ms) =
      List.replicate (k + 1) line ++ restore line ms := by
  rw [settled_replicate, List.replicate_succ, begun, List.length_replicate]
  simp only [List.cons_append, restore, List.cons.injEq, true_and]
  rcases k with _ | _ | k
  · simp [notices, owed]
  · -- The notice of a single repeat, if there is one, is followed by the line itself.
    have hnotice : restore line (notices threshold 1 ++ (.line line :: ms)) =
        line :: restore line ms := by
      rw [notices_succ]
      split
      · simp [notices, restore]
      · simp [notices, restore]
    simpa [owed] using hnotice
  · obtain ⟨ns, hns⟩ := notices_eq_map threshold (k + 2)
    have hlast := restore_repeated hms line ns (k + 2)
    rw [if_neg (by omega)] at hlast
    simpa [owed, hns] using hlast

theorem head?_messages (threshold : Nat) {rs : List (List Bytes)} (hrs : ∀ run ∈ rs, run ≠ []) :
    (messages threshold true rs).head?.any Message.isRepeated = false := by
  cases rs with
  | nil => rfl
  | cons run rest =>
    obtain ⟨line, again, rfl⟩ := List.exists_cons_of_ne_nil (hrs run List.mem_cons_self)
    cases rest <;> rfl

theorem restore_messages_runs (threshold : Nat) (before : Bytes) {rs : List (List Bytes)}
    (hrs : ∀ run ∈ rs, ∃ line k, run = List.replicate (k + 1) line) :
    restore before (messages threshold true rs) = rs.flatten := by
  induction rs generalizing before with
  | nil => rfl
  | cons run rest ih =>
    rw [List.forall_mem_cons] at hrs
    obtain ⟨⟨line, k, rfl⟩, hrest⟩ := hrs
    have hhead : (messages threshold true rest).head?.any Message.isRepeated = false := by
      refine head?_messages threshold fun run hrun => ?_
      obtain ⟨line, k, rfl⟩ := hrest run hrun
      simp
    have hmessages : messages threshold true (List.replicate (k + 1) line :: rest) =
        begun threshold (List.replicate (k + 1) line) ++ settled (List.replicate (k + 1) line) ++
          messages threshold true rest := by
      cases rest with
      | nil => simp [messages]
      | cons next rest => rfl
    rw [hmessages, restore_run hhead, ih line hrest, List.flatten_cons]

/-- Whatever the threshold is, the lines can be read back from their messages. -/
theorem restore_messages (threshold : Nat) (lines : List Bytes) :
    restore [] (messages threshold true (runs lines)) = lines := by
  rw [restore_messages_runs threshold [] fun run hrun => exists_replicate_of_mem_runs hrun]
  exact List.flatten_splitBy _ _

/-! ## Messages that can be read -/

theorem legible_begun (threshold : Nat) {run : List Bytes}
    (hrun : ∀ line ∈ run, (Message.line line).Legible) : ∀ m ∈ begun threshold run, m.Legible := by
  cases run with
  | nil => simp [begun]
  | cons line again =>
    intro m hm
    rcases List.mem_cons.mp hm with rfl | hm
    · exact hrun line List.mem_cons_self
    · obtain ⟨j, _, rfl⟩ := List.mem_map.mp hm
      trivial

theorem legible_settled {run : List Bytes} (hrun : ∀ line ∈ run, (Message.line line).Legible) :
    ∀ m ∈ settled run, m.Legible := by
  rintro m hm
  unfold settled at hm
  split at hm
  · cases hm
  · cases hm
  · rw [List.mem_singleton.mp hm]
    exact hrun _ List.mem_cons_self
  · rw [List.mem_singleton.mp hm]
    trivial

theorem legible_messages (threshold : Nat) (ended : Bool) {rs : List (List Bytes)}
    (hrs : ∀ run ∈ rs, ∀ line ∈ run, (Message.line line).Legible) :
    ∀ m ∈ messages threshold ended rs, m.Legible := by
  induction rs with
  | nil => simp [messages]
  | cons run rest ih =>
    rw [List.forall_mem_cons] at hrs
    have hbegun := legible_begun threshold hrs.1
    have hsettled := legible_settled hrs.1
    cases rest with
    | nil =>
      intro m hm
      rcases List.mem_append.mp hm with hm | hm
      · exact hbegun m hm
      · split at hm
        · exact hsettled m hm
        · cases hm
    | cons next rest =>
      intro m hm
      rw [messages, List.mem_append, List.mem_append] at hm
      rcases hm with (hm | hm) | hm
      · exact hbegun m hm
      · exact hsettled m hm
      · exact ih hrs.2 m hm

/-- Lines that look like no notice are known from the texts of their messages. -/
theorem lines_eq_of_map_body_eq {threshold threshold' : Nat} {lines lines' : List Bytes}
    (hlines : ∀ line ∈ lines, (Message.line line).Legible)
    (hlines' : ∀ line ∈ lines', (Message.line line).Legible)
    (h : (messages threshold true (runs lines)).map Message.body =
      (messages threshold' true (runs lines')).map Message.body) : lines = lines' := by
  have hruns {lines : List Bytes} (hlines : ∀ line ∈ lines, (Message.line line).Legible) :
      ∀ run ∈ runs lines, ∀ line ∈ run, (Message.line line).Legible := by
    intro run hrun line hline
    apply hlines
    rw [← List.flatten_splitBy (· == ·) lines]
    exact List.mem_flatten.mpr ⟨run, hrun, hline⟩
  have hmessages := Message.eq_of_map_body_eq (legible_messages _ _ (hruns hlines))
    (legible_messages _ _ (hruns hlines')) h
  rw [← restore_messages threshold lines, hmessages, restore_messages]

end LineRun

/-! ## Streams of whole lines -/

namespace Bytes

/-- Whole lines, none of which has to be cut or looks like a notice. -/
structure Plain (b : Bytes) : Prop where
  terminated : ∀ last ∈ b.getLast?, last = newline
  length_le : ∀ line ∈ b.splitOn newline, line.length ≤ LineBuffer.maxLength
  legible : ∀ line ∈ b.splitOn newline, (Message.line line).Legible

/-- Nothing is left over. -/
theorem Plain.splitOn_eq {b : Bytes} (h : b.Plain) : b.splitOn newline = b.lines ++ [[]] := by
  have hpieces : b.pieces = b.splitOn newline := by
    rw [pieces, List.flatMap_congr fun line hline => cut_of_le (h.length_le line hline)]
    exact List.flatMap_singleton' _
  have hlast : ∃ init, b.splitOn newline = init ++ [[]] := by
    rcases List.eq_nil_or_concat b with rfl | ⟨init, last, rfl⟩
    · exact ⟨[], rfl⟩
    · have hnewline : last = newline := h.terminated last (by simp)
      rw [List.concat_eq_append, hnewline]
      exact ⟨init.splitOn newline, List.splitOn_append_cons_self _ _⟩
  obtain ⟨init, hinit⟩ := hlast
  rw [lines, hpieces, hinit, List.dropLast_concat]

theorem Plain.legible_lines {b : Bytes} (h : b.Plain) :
    ∀ line ∈ b.lines, (Message.line line).Legible := by
  intro line hline
  apply h.legible
  rw [h.splitOn_eq]
  exact List.mem_append_left _ hline

/-- Streams are known from their lines. -/
theorem Plain.eq_of_lines_eq {b b' : Bytes} (h : b.Plain) (h' : b'.Plain)
    (hlines : b.lines = b'.lines) : b = b' := by
  have hsplit : b.splitOn newline = b'.splitOn newline := by
    rw [h.splitOn_eq, hlines, ← h'.splitOn_eq]
  have hjoined := congrArg [newline].intercalate hsplit
  rwa [List.intercalate_splitOn, List.intercalate_splitOn] at hjoined

end Bytes

/-! ## Below the rate limit -/

/-- As many messages as there is room for are passed on at least. -/
theorem Limiter.HasRoom.le_length_run {l : Limiter} {n : Nat} (h : l.HasRoom n) (now : Nat)
    {ms : List Message} (hn : n ≤ ms.length) :
    n ≤ (Stage.run (fun l => l.offer now) l ms).2.length := by
  have hfirst : (ms.take n).length = n := List.length_take_of_le hn
  have hroom : l.HasRoom ((ms.take n).length + 0) := by rwa [hfirst]
  rw [← List.take_append_drop n ms, Stage.run_append, List.length_append, (hroom.run now).2, hfirst]
  exact Nat.le_add_right _ _

namespace Pipeline

open PipelineCall

/-- A pipeline that has passed on less than there was room for has passed on the transcript. -/
theorem StandsAfter.transcript_eq {p : Pipeline} {past : List PipelineCall} (h : p.StandsAfter past)
    (calls : List (Nat × PipelineCall)) {n : Nat} (hroom : p.limiter.HasRoom n)
    (hout : (Stage.run Pipeline.call p calls).2.length < n) :
    transcript p.threshold (past ++ calls.map Prod.snd) =
      transcript p.threshold past ++ (Stage.run Pipeline.call p calls).2 := by
  induction calls generalizing p past n with
  | nil => simp
  | cons c calls ih =>
    obtain ⟨now, c⟩ := c
    obtain ⟨hthreshold, hlimiter, hpassed⟩ := p.call_eq now c
    rw [Stage.run_cons, List.length_append, hpassed] at hout
    have hle : (p.offered c).length ≤ n := by
      by_contra hlong
      have hfilled := hroom.le_length_run now (Nat.le_of_not_le hlong)
      omega
    obtain ⟨rest, rfl⟩ := Nat.exists_eq_add_of_le hle
    obtain ⟨hleft, hall⟩ := hroom.run now
    rw [← hlimiter] at hleft
    have hnext := ih (h.call now c) hleft (by rw [hall] at hout; omega)
    rw [hthreshold, h.transcript_concat] at hnext
    rw [List.map_cons, List.append_cons, hnext, Stage.run_cons, hpassed, hall, List.append_assoc]

/-- The bytes of a stream that comes in chunks, each at its time. -/
def stream (chunks : List (Nat × Bytes)) : Bytes := (chunks.map Prod.snd).flatten

/-- The calls for a stream that comes in chunks and then ends. -/
def streamCalls (chunks : List (Nat × Bytes)) (ending : Nat) : List (Nat × PipelineCall) :=
  chunks.map (fun c => (c.1, .feed c.2)) ++ [(ending, .restart)]

/-- The texts that a new pipeline passes on for a stream. -/
def forwarded (limit window threshold : Nat) (chunks : List (Nat × Bytes)) (ending : Nat) :
    List Bytes :=
  (Stage.run call (new limit window threshold) (streamCalls chunks ending)).2.map Message.body

theorem transcript_streamCalls (threshold : Nat) (chunks : List (Nat × Bytes)) (ending : Nat) :
    transcript threshold ((streamCalls chunks ending).map Prod.snd) =
      encoding threshold true (stream chunks) := by
  have hcalls : (streamCalls chunks ending).map Prod.snd =
      (chunks.map Prod.snd).map .feed ++ [.restart] := by
    simp [streamCalls]
  have hgenerations := generations_feeds [] (chunks.map Prod.snd)
  rw [List.nil_append] at hgenerations
  rw [hcalls, transcript, current_restart, generations_restart, hgenerations]
  simp [generations, stream]

/-- Below the rate limit the messages of the whole stream are passed on, however it is divided. -/
theorem forwarded_eq {limit window threshold : Nat} {chunks : List (Nat × Bytes)} {ending : Nat}
    (hroom : (forwarded limit window threshold chunks ending).length < limit) :
    forwarded limit window threshold chunks ending =
      (encoding (max threshold 1) true (stream chunks)).map Message.body := by
  rw [forwarded, List.length_map] at hroom
  have hout := (new_standsAfter limit window threshold).transcript_eq (streamCalls chunks ending)
    ⟨rfl, Nat.le_of_eq (Nat.zero_add limit)⟩ hroom
  rw [forwarded, ← transcript_streamCalls _ chunks ending]
  exact congrArg (List.map Message.body) hout.symm

/-- Streams of whole lines that look like no notice are equal if the same texts are passed on for
them: each run of equal lines is told by its line and by the last notice about it. -/
theorem stream_eq_of_forwarded_eq {limit limit' window window' threshold ending ending' : Nat}
    {chunks chunks' : List (Nat × Bytes)} (hplain : (stream chunks).Plain)
    (hplain' : (stream chunks').Plain)
    (hroom : (forwarded limit window threshold chunks ending).length < limit)
    (hroom' : (forwarded limit' window' threshold chunks' ending').length < limit')
    (hsame : forwarded limit window threshold chunks ending =
      forwarded limit' window' threshold chunks' ending') :
    stream chunks = stream chunks' := by
  rw [forwarded_eq hroom, forwarded_eq hroom'] at hsame
  exact hplain.eq_of_lines_eq hplain'
    (LineRun.lines_eq_of_map_body_eq hplain.legible_lines hplain'.legible_lines hsame)

/-- One stream, divided in two ways, with a run that is told by its line and two notices. -/
theorem stream_eq_of_forwarded_eq_sample :
    let chunks : List (Nat × Bytes) := [(0, [97, 10, 97]), (7, [10, 97, 10, 98, 10])]
    let chunks' : List (Nat × Bytes) := [(3, [97, 10, 97, 10, 97, 10]), (3, []), (5, [98, 10])]
    (stream chunks).Plain ∧ (forwarded 5 1000 2 chunks 9).length < 5 ∧
      forwarded 5 1000 2 chunks 9 = forwarded 5 1000 2 chunks' 6 ∧
      stream chunks = stream chunks' := by
  intro chunks chunks'
  have hplain : (stream chunks).Plain := by
    have hlines : (stream chunks).splitOn newline = [[97], [97], [97], [98], []] := rfl
    have hheads :
        ∀ line ∈ [[97], [97], [97], [98], []], line.head? ≠ some (112 : UInt8) := by decide
    refine ⟨by rintro last ⟨rfl⟩; rfl, by simp [hlines, LineBuffer.maxLength], fun line hline => ?_⟩
    exact Message.legible_of_head?_ne (hheads line (hlines ▸ hline))
  have hroom : (forwarded 5 1000 2 chunks 9).length < 5 := by
    rw [forwarded, List.length_map]
    decide
  have hsame : forwarded 5 1000 2 chunks 9 = forwarded 5 1000 2 chunks' 6 := by
    rw [forwarded, forwarded]
    exact congrArg (List.map Message.body) (by decide)
  exact ⟨hplain, hroom, hsame, stream_eq_of_forwarded_eq hplain hplain hroom (hsame ▸ hroom) hsame⟩

end Pipeline

end LogCourier
