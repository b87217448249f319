import LogCourier.Agent.Run
import LogCourier.Proofs.Delivery.Retries
import LogCourier.Proofs.Settings.Check

/-!
# An agent whose collector refuses

The attempts of such an agent are one retry delay apart, and nothing that its tailers do changes
that.  So the time at which it is asked to stop decides what comes of it: the last attempt has to be
due after the grace time (`Running.runUntil_refused`).
-/

namespace LogCourier

namespace Connector

variable {α : Type}

/-- A connector without connection, and how it has ended. -/
structure Unconnected (ended : Option (Except DeliveryError Unit)) (c : Connector α) : Prop where
  phase : c.phase ≠ .established
  ended_eq : c.ended = ended

/-- Attempts that fail go on until they are exhausted or the next one would come when the time
is over. -/
theorem connect_refused (cause : ReachError) (limit fuel now : Nat) {c : Connector α}
    (hidle : c.Idle) (hfuel : c.attempts + (fuel + 1) = c.maxAttempts) (hnow : now < limit) :
    Unconnected (if now + fuel * c.retryDelay < limit then
        some (.error (.attemptsExhausted c.remote c.maxAttempts cause.message)) else none)
      (c.connect (fun _ => .error cause) (some limit) (fuel + 1) now).1 := by
  induction fuel generalizing now c with
  | zero =>
    have hattempt := hidle.attempt_last (Nat.le_of_eq hfuel.symm) cause
    rw [connect, hattempt, Nat.zero_mul, Nat.add_zero, if_pos hnow, ← hfuel]
    exact ⟨by simp, rfl⟩
  | succ fuel ih =>
    have hattempt := hidle.attempt_more (by omega) cause
    rw [connect, hattempt]
    simp only [Option.isSome_none, Bool.false_eq_true, reduceCtorEq, false_or, Option.any_some,
      decide_eq_true_iff]
    have hsum : now + (fuel + 1) * c.retryDelay = now + c.retryDelay + fuel * c.retryDelay := by
      rw [Nat.succ_mul]
      omega
    rw [hsum]
    by_cases hover : limit ≤ now + c.retryDelay
    · rw [if_pos hover, if_neg (by omega)]
      exact ⟨by simp, rfl⟩
    · rw [if_neg hover]
      have hagain : (c.attempt (.error cause)).Idle := by
        rw [hattempt]
        exact ⟨rfl, by simp⟩
      have hleft : (c.attempt (.error cause)).attempts + (fuel + 1) =
          (c.attempt (.error cause)).maxAttempts := by
        rw [hattempt]
        simp only
        omega
      have hrest := ih (now + c.retryDelay) hagain hleft (by omega)
      rwa [hattempt] at hrest

variable {ended : Option (Except DeliveryError Unit)} {c : Connector α}

theorem Unconnected.forwardAll (h : c.Unconnected ended) (ok : α → Bool) :
    (c.forwardAll ok).1.Unconnected ended := by
  refine Stage.run_keeps (P := Unconnected ended) ?_ h c.queue.items
  intro c _ hc
  have hsame : c.take = c := by
    rw [take, if_pos (by simp [isServing, hc.phase])]
  rw [forwardNext, hsame]
  cases hwriting : c.writing with
  | none => exact hc
  | some a =>
    simp only [written, hwriting]
    exact ⟨hc.phase, hc.ended_eq⟩

theorem Unconnected.finished (h : c.Unconnected ended) : c.finished.Unconnected ended := by
  rw [Connector.finished, if_neg (by simp [isServing, h.phase])]
  exact h

end Connector

namespace Running

/-- An agent whose transport is without connection, and how it has ended. -/
def Unconnected (ended : Option (Except DeliveryError Unit)) (r : Running) : Prop :=
  ∃ c : Connector Bytes, r.agent.transport = .stream c ∧ c.Unconnected ended

variable {ended : Option (Except DeliveryError Unit)} {r : Running}

theorem Unconnected.drain (h : r.Unconnected ended) (n : Network) :
    (r.drain n).1.Unconnected ended := by
  obtain ⟨c, htransport, hc⟩ := h
  rw [Running.drain, htransport]
  exact ⟨_, rfl, hc.forwardAll _⟩

theorem Unconnected.tailer (h : r.Unconnected ended) (clock : Clock) (now index : Nat)
    (e : TailingEvent) : (r.step clock now (.tailer index e)).Unconnected ended := by
  obtain ⟨c, htransport, hc⟩ := h
  rw [step]
  split
  next => exact ⟨c, htransport, hc⟩
  next t ht =>
    simp only [put, htransport]
    exact ⟨_, rfl, hc.phase, hc.ended_eq⟩

theorem Unconnected.settleAt (h : r.Unconnected ended) (n : Network) (clock : Clock)
    (limit : Option Nat) (index fuel now : Nat) :
    (settleAt n clock limit index fuel now r).1.Unconnected ended := by
  induction fuel generalizing r now with
  | zero => exact h
  | succ fuel ih =>
    rw [Running.settleAt]
    split
    next => exact h
    next t ht =>
      simp only
      split
      next => exact h
      next e he =>
        split
        next => exact h
        next => exact ih ((h.tailer clock _ index e).drain n) _

theorem Unconnected.settle (h : r.Unconnected ended) (n : Network) (clock : Clock)
    (limit : Option Nat) (now : Nat) : (r.settle n clock limit now).1.Unconnected ended := by
  refine Stage.run_keeps (P := Unconnected ended) ?_ h _
  intro r index hr
  split
  next => exact hr
  next => exact hr.settleAt n clock limit index _ now

theorem Unconnected.stop (h : r.Unconnected ended) (clock : Clock) (now : Nat) :
    (r.stop clock now).Unconnected ended := by
  obtain ⟨c, htransport, hc⟩ := h
  rw [Running.stop, step]
  simp only [htransport]
  exact ⟨_, rfl, hc.finished⟩

theorem Unconnected.result (h : r.Unconnected ended) :
    (∃ stats, r.agent.result = .ok stats) ↔ ∀ error, ended ≠ some (.error error) := by
  obtain ⟨c, htransport, hc⟩ := h
  rw [Agent.result, htransport, Transport.ended, hc.ended_eq]
  cases ended with
  | none => simp
  | some outcome => cases outcome <;> simp

theorem unconnected_start (files : FileSystem) (runId : RunId) {settings : Settings}
    (hcheck : settings.check = .ok ()) (htcp : settings.protocol = .tcp) {n : Network}
    {cause : ReachError} (hrefused : n.reach settings.remoteAddress = .error cause) (clock : Clock)
    (shutdown : Nat) :
    Unconnected
      (if (settings.maxConnectAttempts - 1) * settings.connectRetryDelay <
          shutdown + Agent.shutdownGrace then
        some (.error (.attemptsExhausted settings.remoteAddress settings.maxConnectAttempts
          cause.message))
      else none)
      (start ⟨files, .new runId settings⟩ n clock (some shutdown) Agent.shutdownGrace) := by
  have hpos : settings.maxConnectAttempts ≠ 0 :=
    (Settings.check_eq_ok_iff.mp hcheck).maxConnectAttempts
  have hgrace : 0 < Agent.shutdownGrace := by decide
  obtain ⟨c, hc⟩ : ∃ c : Connector Bytes, c =
      { remote := settings.remoteAddress, maxAttempts := settings.maxConnectAttempts,
        retryDelay := settings.connectRetryDelay,
        queue := { capacity := DeliveryQueue.defaultCapacity } } :=
    ⟨_, rfl⟩
  have hnew : Transport.new settings = .stream c := by
    rw [Transport.new, htcp, hc]
  have hmax : max c.maxAttempts 1 = settings.maxConnectAttempts - 1 + 1 := by
    rw [hc]
    simp only
    omega
  have hidle : c.Idle := by
    rw [hc]
    exact ⟨rfl, by simp⟩
  have hbound : c.attempts + (settings.maxConnectAttempts - 1 + 1) = c.maxAttempts := by
    rw [hc]
    simp only
    omega
  have hconnected := c.connect_refused cause (shutdown + Agent.shutdownGrace)
    (settings.maxConnectAttempts - 1) 0 hidle hbound (by omega)
  rw [Nat.zero_add] at hconnected
  have hstarted : (Transport.new settings).start n (some (shutdown + Agent.shutdownGrace)) =
      .stream (c.connect (fun _ => .error cause) (some (shutdown + Agent.shutdownGrace))
        (settings.maxConnectAttempts - 1 + 1) 0).1 := by
    have hremote : n.reach c.remote = .error cause := by
      rw [hc]
      exact hrefused
    rw [hnew, Transport.start, hmax, hremote]
  rw [start]
  refine Unconnected.settle ⟨_, hstarted, ?_⟩ n clock _ 0
  rw [hc] at hconnected ⊢
  exact hconnected

/-- An agent that cannot reach its collector and is asked to stop ends without an error exactly if
its last attempt would be made after the grace time. -/
theorem runUntil_refused (files : FileSystem) (runId : RunId) {settings : Settings}
    (hcheck : settings.check = .ok ()) (htcp : settings.protocol = .tcp) {n : Network}
    {cause : ReachError} (hrefused : n.reach settings.remoteAddress = .error cause) (clock : Clock)
    (shutdown : Nat) :
    (∃ stats, runUntil ⟨files, .new runId settings⟩ n clock shutdown = .ok stats) ↔
      shutdown + Agent.shutdownGrace ≤
        (settings.maxConnectAttempts - 1) * settings.connectRetryDelay := by
  have hstarted := unconnected_start files runId hcheck htcp hrefused clock shutdown
  rw [runUntil, (hstarted.stop clock shutdown).result]
  split
  next hearly => simpa using hearly
  next hlate => simpa using hlate

end Running

end LogCourier
