import LogCourier.Pipeline.Basic

/-!
# The pipeline as three stages in a row

A pipeline hands every byte through its three stages before it looks at the next one.  It comes to
the same when a call is put through the stages one after the other: `Pipeline.call_eq` says so for
all that a pipeline keeps, apart from its counters.
-/

namespace LogCourier

inductive PipelineCall
  | feed (chunk : Bytes)
  | restart
deriving DecidableEq, Repr

namespace Pipeline

def call (p : Pipeline) (c : Nat × PipelineCall) : Pipeline × List Message :=
  match c.2 with
  | .feed chunk => p.feed c.1 chunk
  | .restart => p.restart c.1

/-- The messages that the first two stages make of a call. -/
def offered (p : Pipeline) : PipelineCall → List Message
  | .feed chunk => (Stage.run (LineRun.push p.threshold) p.run (p.buffer.feed chunk).2).2
  | .restart => p.run.owed

/-- The last two stages in a row. -/
def collapse (threshold now : Nat) (s : LineRun × Limiter) (line : Bytes) :
    (LineRun × Limiter) × List Message :=
  Stage.pipe (LineRun.push threshold) (fun l => l.offer now) s line

theorem run_offer (now : Nat) (p : Pipeline) (ms : List Message) :
    ((Stage.run (offer now) p ms).1.threshold = p.threshold ∧
        (Stage.run (offer now) p ms).1.buffer = p.buffer ∧
        (Stage.run (offer now) p ms).1.run = p.run) ∧
      (Stage.run (offer now) p ms).1.limiter =
        (Stage.run (fun l => l.offer now) p.limiter ms).1 ∧
      (Stage.run (offer now) p ms).2 = (Stage.run (fun l => l.offer now) p.limiter ms).2 :=
  Stage.run_view (f := offer now) (v := limiter)
    (P := fun q => q.threshold = p.threshold ∧ q.buffer = p.buffer ∧ q.run = p.run)
    (fun _ _ h => h) (fun _ _ _ => ⟨rfl, rfl⟩) ⟨rfl, rfl, rfl⟩ ms

theorem complete_eq (now : Nat) (p : Pipeline) (line : Bytes) :
    ((p.complete now line).1.threshold = p.threshold ∧
        (p.complete now line).1.buffer = p.buffer) ∧
      ((p.complete now line).1.run, (p.complete now line).1.limiter) =
        (collapse p.threshold now (p.run, p.limiter) line).1 ∧
      (p.complete now line).2 = (collapse p.threshold now (p.run, p.limiter) line).2 := by
  obtain ⟨⟨hthreshold, hbuffer, hrun⟩, hlimiter, hout⟩ := run_offer now
    { p with
      run := (p.run.push p.threshold line).1
      counters := { p.counters with
        lines := p.counters.lines + 1
        duplicates := p.counters.duplicates + if p.run.last = some line then 1 else 0 } }
    (p.run.push p.threshold line).2
  exact ⟨⟨hthreshold, hbuffer⟩, Prod.ext hrun hlimiter, hout⟩

theorem run_complete (now : Nat) (p : Pipeline) (lines : List Bytes) :
    ((Stage.run (complete now) p lines).1.threshold = p.threshold ∧
        (Stage.run (complete now) p lines).1.buffer = p.buffer) ∧
      ((Stage.run (complete now) p lines).1.run, (Stage.run (complete now) p lines).1.limiter) =
        (Stage.run (collapse p.threshold now) (p.run, p.limiter) lines).1 ∧
      (Stage.run (complete now) p lines).2 =
        (Stage.run (collapse p.threshold now) (p.run, p.limiter) lines).2 :=
  Stage.run_view (f := complete now) (v := fun q => (q.run, q.limiter))
    (P := fun q => q.threshold = p.threshold ∧ q.buffer = p.buffer)
    (fun q line h => ⟨(complete_eq now q line).1.1.trans h.1,
      (complete_eq now q line).1.2.trans h.2⟩)
    (fun q line h => h.1 ▸ (complete_eq now q line).2) ⟨rfl, rfl⟩ lines

theorem push_eq (now : Nat) (p : Pipeline) (byte : UInt8) :
    (p.push now byte).1.threshold = p.threshold ∧
    ((p.push now byte).1.buffer, (p.push now byte).1.run, (p.push now byte).1.limiter) =
      (Stage.pipe LineBuffer.push (collapse p.threshold now)
        (p.buffer, p.run, p.limiter) byte).1 ∧
    (p.push now byte).2 =
      (Stage.pipe LineBuffer.push (collapse p.threshold now)
        (p.buffer, p.run, p.limiter) byte).2 := by
  obtain ⟨⟨hthreshold, hbuffer⟩, hstages, hout⟩ :=
    run_complete now { p with buffer := (p.buffer.push byte).1 } (p.buffer.push byte).2
  exact ⟨hthreshold, Prod.ext hbuffer hstages, hout⟩

theorem feed_eq (p : Pipeline) (now : Nat) (chunk : Bytes) :
    (p.feed now chunk).1.threshold = p.threshold ∧
    (p.feed now chunk).1.buffer = (p.buffer.feed chunk).1 ∧
    (p.feed now chunk).1.run =
      (Stage.run (LineRun.push p.threshold) p.run (p.buffer.feed chunk).2).1 ∧
    (p.feed now chunk).1.limiter =
      (Stage.run (fun l => l.offer now) p.limiter (p.offered (.feed chunk))).1 ∧
    (p.feed now chunk).2 =
      (Stage.run (fun l => l.offer now) p.limiter (p.offered (.feed chunk))).2 := by
  obtain ⟨hthreshold, hstages, hout⟩ := Stage.run_view (f := push now)
    (g := Stage.pipe LineBuffer.push (collapse p.threshold now))
    (v := fun q => (q.buffer, q.run, q.limiter)) (P := fun q => q.threshold = p.threshold)
    (fun q byte h => (push_eq now q byte).1.trans h)
    (fun q byte h => h ▸ (push_eq now q byte).2) (s := p) rfl chunk
  have hpipe : collapse p.threshold now =
      Stage.pipe (LineRun.push p.threshold) fun l => l.offer now := rfl
  rw [hpipe, Stage.run_pipe, Stage.run_pipe] at hstages hout
  simp only [Prod.mk.injEq] at hstages
  exact ⟨hthreshold, hstages.1, hstages.2.1, hstages.2.2, hout⟩

theorem restart_eq (p : Pipeline) (now : Nat) :
    (p.restart now).1.threshold = p.threshold ∧
    (p.restart now).1.buffer = {} ∧ (p.restart now).1.run = {} ∧
    (p.restart now).1.limiter = (Stage.run (fun l => l.offer now) p.limiter p.run.owed).1 ∧
    (p.restart now).2 = (Stage.run (fun l => l.offer now) p.limiter p.run.owed).2 := by
  obtain ⟨⟨hthreshold, _, _⟩, hlimiter, hout⟩ := run_offer now p p.run.owed
  exact ⟨hthreshold, rfl, rfl, hlimiter, hout⟩

theorem call_eq (p : Pipeline) (now : Nat) (c : PipelineCall) :
    (p.call (now, c)).1.threshold = p.threshold ∧
    (p.call (now, c)).1.limiter = (Stage.run (fun l => l.offer now) p.limiter (p.offered c)).1 ∧
    (p.call (now, c)).2 = (Stage.run (fun l => l.offer now) p.limiter (p.offered c)).2 := by
  cases c with
  | feed chunk =>
    obtain ⟨hthreshold, _, _, hlimiter, hout⟩ := p.feed_eq now chunk
    exact ⟨hthreshold, hlimiter, hout⟩
  | restart =>
    obtain ⟨hthreshold, _, _, hlimiter, hout⟩ := p.restart_eq now
    exact ⟨hthreshold, hlimiter, hout⟩

/-! ## What is counted -/

theorem emitted_run_offer (now : Nat) (p : Pipeline) (ms : List Message) :
    (Stage.run (offer now) p ms).1.counters.emitted =
      p.counters.emitted + (Stage.run (offer now) p ms).2.length :=
  Stage.run_count (n := fun q : Pipeline => q.counters.emitted) (fun _ _ => rfl) p ms

theorem emitted_complete (now : Nat) (p : Pipeline) (line : Bytes) :
    (p.complete now line).1.counters.emitted =
      p.counters.emitted + (p.complete now line).2.length :=
  emitted_run_offer now _ _

theorem emitted_push (now : Nat) (p : Pipeline) (byte : UInt8) :
    (p.push now byte).1.counters.emitted = p.counters.emitted + (p.push now byte).2.length :=
  Stage.run_count (n := fun q : Pipeline => q.counters.emitted) (emitted_complete now) _ _

/-- Every message that a call passes on is counted. -/
theorem emitted_call (p : Pipeline) (c : Nat × PipelineCall) :
    (p.call c).1.counters.emitted = p.counters.emitted + (p.call c).2.length := by
  obtain ⟨now, c⟩ := c
  cases c with
  | feed chunk =>
    exact Stage.run_count (n := fun q : Pipeline => q.counters.emitted) (emitted_push now) p chunk
  | restart => exact emitted_run_offer now p p.run.owed

end Pipeline

end LogCourier
