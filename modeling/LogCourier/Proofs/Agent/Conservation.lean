import Mathlib.Algebra.GroupWithZero.Nat
import LogCourier.Proofs.Agent.Runs
import LogCourier.Proofs.Delivery.Balance

/-!
# No message is lost from the books

What the tailers of an agent have passed on is what its transport has to account for, whatever the
order in which the files, the tailers and the transport take their steps.
-/

namespace LogCourier

namespace Running

/-- Messages that the tailers have passed on, as they have published it. -/
def emitted (r : Running) : Nat := (r.agent.tailers.map fun t => t.stats.counters.emitted).sum

theorem sum_map_set {α : Type} (f : α → Nat) {l : List α} {i : Nat} {a b : α} {n : Nat}
    (ha : l[i]? = some a) (hb : f b = f a + n) : ((l.set i b).map f).sum = (l.map f).sum + n := by
  induction l generalizing i with
  | nil => cases ha
  | cons c l ih =>
    cases i with
    | zero =>
      cases ha
      simp only [List.set_cons_zero, List.map_cons, List.sum_cons, hb]
      omega
    | succ i =>
      simp only [List.set_cons_succ, List.map_cons, List.sum_cons, ih ha]
      omega

/-- The books of an agent are in order. -/
structure Balanced (r : Running) : Prop where
  published : ∀ t ∈ r.agent.tailers, t.stats.counters = t.pipeline.counters
  transport : r.agent.transport.Sound
  load : r.emitted = r.agent.transport.load

theorem Balanced.step {r : Running} (h : r.Balanced) (clock : Clock) (now : Nat) (e : AgentEvent) :
    (r.step clock now e).Balanced := by
  have hpublished := step_tailers (P := fun t => t.stats.counters = t.pipeline.counters)
    (fun s now e => (s.step_acted now e).counters) h.published clock now e
  cases e with
  | change c => exact ⟨hpublished, h.transport, h.load⟩
  | transport e =>
    obtain ⟨hsound, hload⟩ := h.transport.step e
    exact ⟨hpublished, hsound, h.load.trans hload.symm⟩
  | tailer index e =>
    cases ht : r.agent.tailers[index]? with
    | none =>
      rw [Running.step, ht]
      exact h
    | some t =>
      rw [Running.step, ht] at hpublished ⊢
      refine ⟨hpublished, h.transport.submitAll _, ?_⟩
      -- What the tailer passes on is counted there and handed over here.
      have hacted := Tailing.step_acted ⟨r.files, t⟩ now e
      have hbefore := h.published t (List.mem_of_getElem? ht)
      have hcount : (Tailing.step ⟨r.files, t⟩ now e).1.tailer.stats.counters.emitted =
          t.stats.counters.emitted + (Tailing.step ⟨r.files, t⟩ now e).2.length := by
        rw [hacted.counters hbefore, hbefore]
        exact hacted.emitted
      have hsum := sum_map_set (fun t : Tailer => t.stats.counters.emitted) ht hcount
      have hload := h.load
      simp only [put, emitted] at hload ⊢
      rw [hsum, Transport.load_submitAll, List.length_map, hload]

theorem balanced_new (files : FileSystem) (runId : RunId) (settings : Settings) :
    (⟨files, .new runId settings⟩ : Running).Balanced where
  published t ht := by
    obtain ⟨source, _, rfl⟩ := List.mem_map.mp ht
    rfl
  transport := (Transport.sound_new settings).1
  load := by
    refine Eq.trans ?_ (Transport.sound_new settings).2.symm
    change ((settings.sources.map (Tailer.new settings)).map fun t => t.stats.counters.emitted).sum
      = 0
    induction settings.sources with
    | nil => rfl
    | cons source sources ih => exact (Nat.zero_add _).trans ih

theorem run_balanced {r : Running} (h : r.Balanced) (events : List (Clock × Nat × AgentEvent)) :
    (r.run events).Balanced := by
  induction events generalizing r with
  | nil => exact h
  | cons e events ih => exact ih (h.step e.1 e.2.1 e.2.2)

/-- In every state that an agent can come to, the messages that its tailers have passed on are those
that the transport has written, given up or failed to write, with those that wait in the queue and
the one that is being written.  Once the transport has ended, nothing waits and nothing is being
written, so that every message is counted exactly once. -/
theorem run_new_conserves (files : FileSystem) (runId : RunId) (settings : Settings)
    (events : List (Clock × Nat × AgentEvent)) :
    let r := run ⟨files, .new runId settings⟩ events
    let queue := r.agent.transport.queue
    let writing := r.agent.transport.writing
    (r.agent.tailers.map fun t => t.stats.counters.emitted).sum =
        queue.stats.sent + queue.stats.dropped + queue.stats.sendErrors + queue.items.length +
          (if writing.isSome then 1 else 0) ∧
      (r.agent.transport.ended.isSome → queue.items = [] ∧ writing = none ∧
        (r.agent.tailers.map fun t => t.stats.counters.emitted).sum =
          queue.stats.sent + queue.stats.dropped + queue.stats.sendErrors) := by
  intro r queue writing
  have h := run_balanced (balanced_new files runId settings) events
  have hwriting : writing.toList.length = if writing.isSome then 1 else 0 := by
    cases writing <;> rfl
  have hload : (r.agent.tailers.map fun t => t.stats.counters.emitted).sum =
      queue.stats.sent + queue.stats.dropped + queue.stats.sendErrors + queue.items.length +
        (if writing.isSome then 1 else 0) := by
    rw [← hwriting]
    exact h.load
  refine ⟨hload, ?_⟩
  intro hended
  obtain ⟨hitems, hnone⟩ := h.transport.eq_settled hended
  refine ⟨hitems, hnone, ?_⟩
  rw [hload, show queue.items = [] from hitems, show writing = none from hnone]
  rfl

/-- A line that comes before the collector can be reached is given up, and so is what the transport
leaves when its attempts are exhausted. -/
theorem run_new_conserves_unreached :
    let r := run
      ⟨⟨#[.directory, .file []], [([], 0), (["log"], 1)], []⟩,
        .new ⟨[]⟩ { sources := [⟨"app", "/log"⟩], maxConnectAttempts := 1 }⟩
      [(⟨""⟩, 0, .tailer 0 .attempt), (⟨""⟩, 0, .tailer 0 (.notice .changed)),
        (⟨""⟩, 1, .tailer 0 .complete), (⟨""⟩, 2, .change (.append "/log" [97, 10])),
        (⟨""⟩, 3, .tailer 0 (.notice .changed)), (⟨""⟩, 4, .tailer 0 .complete),
        (⟨""⟩, 5, .transport (.attempt (.error (.unknownName ""))))]
    r.agent.transport.ended.isSome ∧ r.agent.transport.queue.stats.dropped = 1 ∧
      (r.agent.tailers.map fun t => t.stats.counters.emitted).sum =
        r.agent.transport.queue.stats.sent + r.agent.transport.queue.stats.dropped +
          r.agent.transport.queue.stats.sendErrors :=
  ⟨rfl, rfl, ((run_new_conserves _ _ _ _).2 rfl).2.2⟩

end Running

end LogCourier
