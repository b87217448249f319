import Mathlib.Data.List.Induction
import LogCourier.Proofs.Pipeline.Lines
import LogCourier.Proofs.Pipeline.Room
import LogCourier.Proofs.Pipeline.Runs

/-!
# What a pipeline passes on

The transcript of a sequence of calls is what the pipeline should pass on for it, said at once for
all of them: the bytes are cut into generations at the restarts, a generation into lines, and the
lines into runs.  A pipeline whose rate limit leaves room for it passes on exactly the transcript,
each message in the call that causes it.
-/

namespace LogCourier

namespace PipelineCall

/-- The bytes of the generations that a restart has ended, and those fed since the last restart. -/
def generations (calls : List PipelineCall) : List Bytes × Bytes :=
  calls.foldl (fun g c =>
    match c with
    | .feed chunk => (g.1, g.2 ++ chunk)
    | .restart => (g.1 ++ [g.2], [])) ([], [])

/-- The bytes fed since the last restart. -/
def current (calls : List PipelineCall) : Bytes := (generations calls).2

/-- The messages of a generation. -/
def encoding (threshold : Nat) (ended : Bool) (b : Bytes) : List Message :=
  LineRun.messages threshold ended (LineRun.runs b.lines)

/-- The messages of all generations, of which the last one goes on. -/
def transcript (threshold : Nat) (calls : List PipelineCall) : List Message :=
  (generations calls).1.flatMap (encoding threshold true) ++
    encoding threshold false (current calls)

theorem generations_feed (calls : List PipelineCall) (chunk : Bytes) :
    generations (calls ++ [.feed chunk]) =
      ((generations calls).1, (generations calls).2 ++ chunk) := by
  simp [generations]

theorem generations_restart (calls : List PipelineCall) :
    generations (calls ++ [.restart]) =
      ((generations calls).1 ++ [(generations calls).2], []) := by
  simp [generations]

@[simp] theorem current_feed (calls : List PipelineCall) (chunk : Bytes) :
    current (calls ++ [.feed chunk]) = current calls ++ chunk := by
  rw [current, generations_feed, current]

@[simp] theorem current_restart (calls : List PipelineCall) :
    current (calls ++ [.restart]) = [] := by
  rw [current, generations_restart]

@[simp] theorem encoding_nil (threshold : Nat) (ended : Bool) :
    encoding threshold ended [] = [] := by
  rfl

/-- The messages that a chunk adds to an open generation. -/
theorem encoding_append (threshold : Nat) (b chunk : Bytes) :
    encoding threshold false (b ++ chunk) = encoding threshold false b ++
      (Stage.run (LineRun.push threshold) (LineRun.ofLines b.lines)
        (LineBuffer.feed ⟨b.rest.toArray⟩ chunk).2).2 := by
  rw [encoding, (LineBuffer.feed_rest b chunk).2, (LineRun.run_ofLines threshold _ _).2, encoding]

theorem transcript_feed (threshold : Nat) (calls : List PipelineCall) (chunk : Bytes) :
    transcript threshold (calls ++ [.feed chunk]) = transcript threshold calls ++
      (Stage.run (LineRun.push threshold) (LineRun.ofLines (current calls).lines)
        (LineBuffer.feed ⟨(current calls).rest.toArray⟩ chunk).2).2 := by
  rw [transcript, current_feed, encoding_append, generations_feed, ← List.append_assoc, transcript]

/-- A restart adds what is owed for the run in progress. -/
theorem transcript_restart (threshold : Nat) (calls : List PipelineCall) :
    transcript threshold (calls ++ [.restart]) =
      transcript threshold calls ++ (LineRun.ofLines (current calls).lines).owed := by
  rw [transcript, current_restart, generations_restart, List.flatMap_append, List.flatMap_singleton,
    encoding_nil, List.append_nil, transcript, List.append_assoc]
  exact congrArg (_ ++ ·) (LineRun.messages_ended threshold _)

theorem transcript_isPrefix (threshold : Nat) (calls more : List PipelineCall) :
    transcript threshold calls <+: transcript threshold (calls ++ more) := by
  induction more using List.reverseRecOn with
  | nil => simp
  | append_singleton more c ih =>
    rw [← List.append_assoc]
    cases c with
    | feed chunk => exact ih.trans (transcript_feed threshold _ chunk ▸ List.prefix_append _ _)
    | restart => exact ih.trans (transcript_restart threshold _ ▸ List.prefix_append _ _)

theorem generations_feeds (calls : List PipelineCall) (chunks : List Bytes) :
    generations (calls ++ chunks.map .feed) =
      ((generations calls).1, (generations calls).2 ++ chunks.flatten) := by
  induction chunks generalizing calls with
  | nil => simp
  | cons chunk chunks ih =>
    rw [List.map_cons, List.append_cons, ih, generations_feed, List.flatten_cons, List.append_assoc]

theorem current_feeds (chunks : List Bytes) : current (chunks.map .feed) = chunks.flatten := by
  have h := generations_feeds [] chunks
  rw [List.nil_append] at h
  rw [current, h]
  rfl

/-- Without a restart there is one generation. -/
theorem transcript_feeds (threshold : Nat) (chunks : List Bytes) :
    transcript threshold (chunks.map .feed) = encoding threshold false chunks.flatten := by
  have h := generations_feeds [] chunks
  rw [List.nil_append] at h
  rw [transcript, current, h]
  rfl

end PipelineCall

/-! ## The pipeline -/

namespace Pipeline

open PipelineCall

/-- Where the first two stages stand when these calls have been made on a pipeline that had seen
nothing. -/
structure StandsAfter (p : Pipeline) (calls : List PipelineCall) : Prop where
  buffer : p.buffer = ⟨(current calls).rest.toArray⟩
  run : p.run = LineRun.ofLines (current calls).lines

theorem standsAfter_nil {p : Pipeline} : p.StandsAfter [] ↔ p.buffer = {} ∧ p.run = {} :=
  ⟨fun h => ⟨h.buffer, h.run⟩, fun h => ⟨h.1, h.2⟩⟩

theorem StandsAfter.transcript_concat {p : Pipeline} {calls : List PipelineCall}
    (h : p.StandsAfter calls) (c : PipelineCall) :
    transcript p.threshold (calls ++ [c]) = transcript p.threshold calls ++ p.offered c := by
  cases c with
  | feed chunk => rw [transcript_feed, offered, h.buffer, h.run]
  | restart => rw [transcript_restart, offered, h.run]

theorem StandsAfter.call {p : Pipeline} {calls : List PipelineCall} (h : p.StandsAfter calls)
    (now : Nat) (c : PipelineCall) : (p.call (now, c)).1.StandsAfter (calls ++ [c]) := by
  cases c with
  | feed chunk =>
    obtain ⟨_, hbuffer, hrun, _⟩ := p.feed_eq now chunk
    rw [h.buffer] at hbuffer hrun
    rw [h.run] at hrun
    constructor
    · rw [current_feed]
      exact hbuffer.trans (LineBuffer.feed_rest _ chunk).1
    · rw [current_feed, (LineBuffer.feed_rest _ chunk).2]
      exact hrun.trans (LineRun.run_ofLines _ _ _).1
  | restart =>
    obtain ⟨_, hbuffer, hrun, _⟩ := p.restart_eq now
    exact ⟨by rw [current_restart]; exact hbuffer, by rw [current_restart]; exact hrun⟩

theorem StandsAfter.calls {p : Pipeline} {past : List PipelineCall} (h : p.StandsAfter past)
    (calls : List (Nat × PipelineCall)) :
    (Stage.run Pipeline.call p calls).1.StandsAfter (past ++ calls.map Prod.snd) := by
  induction calls generalizing p past with
  | nil => simpa using h
  | cons c calls ih =>
    rw [Stage.run_cons, List.map_cons, List.append_cons]
    exact ih (h.call c.1 c.2)

/-- With room for them, a pipeline passes on the messages that further calls add to
the transcript. -/
theorem StandsAfter.run_calls {p : Pipeline} {past : List PipelineCall} (h : p.StandsAfter past)
    (calls : List (Nat × PipelineCall)) {ms : List Message} {n : Nat}
    (hms : transcript p.threshold (past ++ calls.map Prod.snd) = transcript p.threshold past ++ ms)
    (hroom : p.limiter.HasRoom (ms.length + n)) :
    (Stage.run Pipeline.call p calls).1.threshold = p.threshold ∧
      (Stage.run Pipeline.call p calls).1.limiter.HasRoom n ∧
      (Stage.run Pipeline.call p calls).2 = ms := by
  induction calls generalizing p past ms with
  | nil =>
    have hnone : ms = [] := by simpa using hms
    subst hnone
    exact ⟨rfl, hroom.mono (by simp), rfl⟩
  | cons c calls ih =>
    obtain ⟨now, c⟩ := c
    -- What is added is what this call offers, and then what the others add.
    obtain ⟨more, hmore⟩ := transcript_isPrefix p.threshold (past ++ [c]) (calls.map Prod.snd)
    rw [List.map_cons, List.append_cons] at hms
    rw [← hmore, h.transcript_concat, List.append_assoc, List.append_cancel_left_eq] at hms
    subst hms
    obtain ⟨hthreshold, hlimiter, hout⟩ := p.call_eq now c
    rw [List.length_append, Nat.add_assoc] at hroom
    obtain ⟨hleft, hpassed⟩ := hroom.run now
    have hrest : transcript (p.call (now, c)).1.threshold ((past ++ [c]) ++ calls.map Prod.snd) =
        transcript (p.call (now, c)).1.threshold (past ++ [c]) ++ more := by
      rw [hthreshold, hmore]
    have hnext := ih (h.call now c) hrest (hlimiter ▸ hleft)
    rw [Stage.run_cons]
    exact ⟨hnext.1.trans hthreshold, hnext.2.1, by rw [hnext.2.2, hout, hpassed]⟩

theorem new_standsAfter (limit window threshold : Nat) :
    (new limit window threshold).StandsAfter [] :=
  standsAfter_nil.mpr ⟨rfl, rfl⟩

private theorem run_new {limit window threshold : Nat} {calls : List (Nat × PipelineCall)}
    (hroom : (transcript (max threshold 1) (calls.map Prod.snd)).length ≤ limit) :
    (Stage.run call (new limit window threshold) calls).2 =
      transcript (max threshold 1) (calls.map Prod.snd) := by
  have hms : transcript (max threshold 1) ([] ++ calls.map Prod.snd) =
      transcript (max threshold 1) [] ++ transcript (max threshold 1) (calls.map Prod.snd) := rfl
  exact ((new_standsAfter limit window threshold).run_calls calls hms
    (n := 0) ⟨rfl, by simpa [new] using hroom⟩).2.2

/-- A new pipeline whose rate limit leaves room for the transcript of some calls passes on exactly
this transcript, and holds the rest of the bytes fed since the last restart, which is never more
than one full line.  Every call passes on what it adds to the transcript of the calls before it. -/
theorem run_new_eq_transcript (limit window threshold : Nat) (calls : List (Nat × PipelineCall))
    (hroom : (transcript (max threshold 1) (calls.map Prod.snd)).length ≤ limit) :
    (Stage.run call (new limit window threshold) calls).2 =
        transcript (max threshold 1) (calls.map Prod.snd) ∧
      (Stage.run call (new limit window threshold) calls).1.pendingLength =
        (current (calls.map Prod.snd)).rest.length ∧
      (Stage.run call (new limit window threshold) calls).1.pendingLength ≤ 1024 ∧
      ∀ before c after, calls = before ++ c :: after →
        transcript (max threshold 1) ((before ++ [c]).map Prod.snd) =
          transcript (max threshold 1) (before.map Prod.snd) ++
            (call (Stage.run call (new limit window threshold) before).1 c).2 := by
  have hstands := (new_standsAfter limit window threshold).calls calls
  have hpending : (Stage.run call (new limit window threshold) calls).1.pendingLength =
      (current (calls.map Prod.snd)).rest.length := by
    rw [pendingLength, hstands.buffer]
    rfl
  refine ⟨run_new hroom, hpending, hpending ▸ Bytes.length_rest_le _, ?_⟩
  rintro before c after rfl
  have hle (xs ys : List (Nat × PipelineCall)) :
      (transcript (max threshold 1) (xs.map Prod.snd)).length ≤
        (transcript (max threshold 1) ((xs ++ ys).map Prod.snd)).length := by
    rw [List.map_append]
    exact (transcript_isPrefix _ _ _).length_le
  rw [List.append_cons] at hroom
  have hupto := Nat.le_trans (hle (before ++ [c]) after) hroom
  have hbefore := Nat.le_trans (hle before [c]) hupto
  rw [← run_new hupto, ← run_new hbefore, Stage.run_append, Stage.run_cons, Stage.run_nil,
    List.append_nil]

/-- Two equal lines cut across chunks, with the time going back, and a partial line that is dropped:
every notice comes in the call that causes it. -/
theorem run_new_eq_transcript_sample :
    (Stage.run call (new 4 1000 0)
        [(7, .feed [97, 10, 97]), (5, .feed [10, 98]), (3, .restart)]).2 =
      [.line [97], .repeated 1, .line [97]] :=
  (run_new_eq_transcript 4 1000 0 [(7, .feed [97, 10, 97]), (5, .feed [10, 98]), (3, .restart)]
    (by decide)).1

end Pipeline

end LogCourier
