import LogCourier.Proofs.Agent.Conservation
import LogCourier.Proofs.Delivery.Attempts
import LogCourier.Proofs.Settings.Check

/-!
# What comes of an agent that is asked to stop

When an agent is asked to stop, its transport goes on for the grace time.  If it is still trying
to reach its collector, its attempts can be exhausted meanwhile, and the agent then ends with an
error in spite of the request.  That is the only way: whatever else happens, the agent ends
without an error (`Running.run_new_stopped`).
-/

namespace LogCourier

open Connector

namespace Connector

theorem submitAll_waits {α : Type} (c : Connector α) (messages : List α) :
    Waits c { c with queue := (c.queue.submitAll messages).1 } := by
  induction messages generalizing c with
  | nil => exact .refl c
  | cons a messages ih => exact (c.submit_waits a).trans (ih (c.react (.submit a)))

/-- A connector that has not tried yet. -/
theorem retrying_new {α : Type} {maxAttempts : Nat} (hpos : 1 ≤ maxAttempts) (remote : String)
    (retryDelay : Nat) (queue : DeliveryQueue α) (hstats : queue.stats = {}) :
    Retrying remote maxAttempts { remote, maxAttempts, retryDelay, queue : Connector α } [] where
  remote_eq := rfl
  maxAttempts_eq := rfl
  numbered := rfl
  attempts := by rw [hstats]; rfl
  connections := by rw [hstats]; rfl
  failing := streak_nil.symm
  bounded := by simp
  earlier := streaksBelow_nil _
  exhausted := by
    rw [streak_nil]
    simp only [reduceCtorEq, exists_false, false_iff]
    omega
  error := by simp
  ready := by simp

end Connector

namespace Transport

/-- The attempt to connect that a transport makes in a step, if it makes one. -/
def tries? (t : Transport) (now : Nat) (e : TransportEvent) : Option Tried :=
  match t with
  | .stream c => c.tries? now (.transport e)
  | .datagram _ => none

/-- A transport that has made these attempts to connect.  Only the protocol with connections
makes any. -/
def Retrying (s : Settings) (t : Transport) (past : List Tried) : Prop :=
  match t with
  | .stream c => s.protocol = .tcp ∧ c.Retrying s.remoteAddress s.maxConnectAttempts past
  | .datagram _ => s.protocol = .udp ∧ past = []

variable {s : Settings} {t : Transport} {past : List Tried}

theorem retrying_new (hcheck : s.check = .ok ()) : (new s).Retrying s [] := by
  have hpos : 1 ≤ s.maxConnectAttempts :=
    Nat.one_le_iff_ne_zero.mpr (Settings.check_eq_ok_iff.mp hcheck).maxConnectAttempts
  rw [new]
  cases hprotocol : s.protocol with
  | tcp => exact ⟨hprotocol, Connector.retrying_new hpos _ _ _ rfl⟩
  | udp => exact ⟨hprotocol, rfl⟩

theorem Retrying.step (h : t.Retrying s past) (hpos : 1 ≤ s.maxConnectAttempts)
    (hsound : t.Sound) (now : Nat) (e : TransportEvent) :
    (t.step e).Retrying s (past ++ (t.tries? now e).toList) := by
  cases t with
  | stream c => exact ⟨h.1, h.2.react hpos hsound now (.transport e)⟩
  | datagram d => exact ⟨h.1, by rw [h.2]; rfl⟩

theorem Retrying.submitAll (h : t.Retrying s past) (hsound : t.Sound) (messages : List Bytes) :
    (t.submitAll messages).Retrying s past := by
  cases t with
  | stream c =>
    exact ⟨h.1, h.2.waits (c.submitAll_waits messages) (Connector.Sound.submitAll hsound messages)⟩
  | datagram d => exact h

end Transport

namespace Running

/-- The attempt to connect that an agent makes in a step, if it makes one. -/
def tries? (r : Running) (now : Nat) : AgentEvent → Option Tried
  | .transport e => r.agent.transport.tries? now e
  | .change _ | .tailer _ _ => none

/-- All attempts to connect in a run. -/
def tried (r : Running) : List (Clock × Nat × AgentEvent) → List Tried
  | [] => []
  | e :: events => (r.tries? e.2.1 e.2.2).toList ++ tried (r.step e.1 e.2.1 e.2.2) events

theorem run_append (r : Running) (xs ys : List (Clock × Nat × AgentEvent)) :
    r.run (xs ++ ys) = (r.run xs).run ys := List.foldl_append

theorem tried_append (r : Running) (xs ys : List (Clock × Nat × AgentEvent)) :
    r.tried (xs ++ ys) = r.tried xs ++ (r.run xs).tried ys := by
  induction xs generalizing r with
  | nil => rfl
  | cons e xs ih =>
    rw [List.cons_append, tried, ih, tried, run_cons, List.append_assoc]

variable {s : Settings} {r : Running} {past : List Tried}

theorem step_retrying (h : r.agent.transport.Retrying s past) (hpos : 1 ≤ s.maxConnectAttempts)
    (hbalanced : r.Balanced) (clock : Clock) (now : Nat) (e : AgentEvent) :
    (r.step clock now e).agent.transport.Retrying s (past ++ (r.tries? now e).toList) := by
  cases e with
  | transport e => exact h.step hpos hbalanced.transport now e
  | change c =>
    rw [tries?, Option.toList_none, List.append_nil]
    exact h
  | tailer index e =>
    rw [tries?, Option.toList_none, List.append_nil, step]
    split
    next => exact h
    next t ht => exact h.submitAll hbalanced.transport _

theorem run_retrying (h : r.agent.transport.Retrying s past) (hpos : 1 ≤ s.maxConnectAttempts)
    (hbalanced : r.Balanced) (events : List (Clock × Nat × AgentEvent)) :
    (r.run events).agent.transport.Retrying s (past ++ r.tried events) := by
  induction events generalizing r past with
  | nil =>
    rw [tried, List.append_nil]
    exact h
  | cons e events ih =>
    rw [tried, ← List.append_assoc, run_cons]
    exact ih (step_retrying h hpos hbalanced e.1 e.2.1 e.2.2) (hbalanced.step e.1 e.2.1 e.2.2)

/-- Whether a transport may still make an attempt to connect that does not have to succeed. -/
def Spared (s : Settings) (past : List Tried) : Prop :=
  s.protocol = .udp ∨ streak Tried.failed past < s.maxConnectAttempts

theorem result_eq_ok (h : r.agent.transport.Retrying s past) (hspared : Spared s past) :
    r.agent.result = .ok r.agent.snapshot := by
  cases htransport : r.agent.transport with
  | datagram d =>
    rw [Agent.result, htransport, Transport.ended]
    cases d.ended <;> rfl
  | stream c =>
    rw [htransport] at h
    have hless : streak Tried.failed past < s.maxConnectAttempts := by
      refine hspared.resolve_left fun hudp => ?_
      rw [h.1] at hudp
      cases hudp
    rw [Agent.result, htransport, Transport.ended]
    cases hended : c.ended with
    | none => rfl
    | some outcome =>
      cases outcome with
      | ok => rfl
      | error error =>
        have hexhausted := h.2.exhausted.mp ⟨error, hended⟩
        omega

theorem result_eq_error (h : r.agent.transport.Retrying s past) (hspared : ¬Spared s past) :
    s.protocol = .tcp ∧ ∃ last cause, past.getLast? = some (last, .error cause) ∧
      r.agent.result =
        .error (.delivery
          (.attemptsExhausted s.remoteAddress s.maxConnectAttempts cause.message)) := by
  obtain ⟨hprotocol, hexhausted⟩ := not_or.mp hspared
  cases htransport : r.agent.transport with
  | datagram d =>
    rw [htransport] at h
    exact absurd h.1 hprotocol
  | stream c =>
    rw [htransport] at h
    obtain ⟨error, hended⟩ :=
      h.2.exhausted.mpr (Nat.le_antisymm h.2.bounded (Nat.le_of_not_lt hexhausted))
    obtain ⟨last, cause, hlast, rfl⟩ := h.2.error error hended
    refine ⟨h.1, last, cause, hlast, ?_⟩
    rw [Agent.result, htransport, Transport.ended, hended]

/-- What comes of an agent that was asked to stop. -/
structure Stopped (s : Settings) (before grace : List Tried)
    (result : Except AgentError AgentStats) : Prop where
  /-- The agent ends without an error exactly if fewer attempts to connect have failed in a row than
  may be made, those before the request included. -/
  ok_iff : (∃ stats, result = .ok stats) ↔ s.protocol = .udp ∨
    streak Tried.failed (before ++ grace) < s.maxConnectAttempts
  /-- Otherwise the last attempt was made after the request, and the agent ends with its cause. -/
  error : ∀ error, result = .error error → ∃ last cause,
    grace.getLast? = some (last, .error cause) ∧
    error = .delivery (.attemptsExhausted s.remoteAddress s.maxConnectAttempts cause.message)

/-- An agent is asked to stop while its transport is still going on.  Whatever happens in the grace
time, the agent ends with an error exactly if the attempts to connect are exhausted in it. -/
theorem run_new_stopped (files : FileSystem) (runId : RunId) (settings : Settings)
    (hcheck : settings.check = .ok ()) (before grace : List (Clock × Nat × AgentEvent)) :
    let r := run ⟨files, .new runId settings⟩ before
    r.agent.transport.ended = none →
      Stopped settings (tried ⟨files, .new runId settings⟩ before) (r.tried grace)
        (r.run grace).agent.result := by
  intro r hgoing
  have hpos : 1 ≤ settings.maxConnectAttempts :=
    Nat.one_le_iff_ne_zero.mpr (Settings.check_eq_ok_iff.mp hcheck).maxConnectAttempts
  have hbalanced := balanced_new files runId settings
  have hbefore : r.agent.transport.Retrying settings (tried ⟨files, .new runId settings⟩ before) :=
    run_retrying (r := ⟨files, .new runId settings⟩) (Transport.retrying_new hcheck)
      hpos hbalanced before
  have hafter := run_retrying hbefore hpos (run_balanced hbalanced before) grace
  generalize tried ⟨files, .new runId settings⟩ before = past at hbefore hafter ⊢
  -- The attempts were not exhausted before the request.
  have hspared : Spared settings past := by
    by_contra hexhausted
    obtain ⟨_, _, _, _, hresult⟩ := result_eq_error hbefore hexhausted
    rw [Agent.result, hgoing] at hresult
    cases hresult
  by_cases hstill : Spared settings (past ++ r.tried grace)
  · have hok := result_eq_ok hafter hstill
    refine ⟨iff_of_true ⟨_, hok⟩ hstill, ?_⟩
    intro error herror
    rw [hok] at herror
    cases herror
  · obtain ⟨_, last, cause, hlast, herror⟩ := result_eq_error hafter hstill
    rw [herror]
    refine ⟨iff_of_false (by simp) hstill, ?_⟩
    intro error hsame
    cases hsame
    refine ⟨last, cause, ?_, rfl⟩
    cases hgrace : r.tried grace with
    | nil =>
      rw [hgrace, List.append_nil] at hstill
      exact absurd hspared hstill
    | cons t more =>
      rw [hgrace, List.getLast?_append_of_ne_nil _ (List.cons_ne_nil t more)] at hlast
      exact hlast

/-- The request comes after the first of two attempts, and the second one fails in the
grace time. -/
theorem exhausted_in_grace :
    let settings : Settings :=
      { sources := [⟨"app", "/log"⟩], maxConnectAttempts := 2, connectRetryDelay := 1000 }
    let files : FileSystem := ⟨#[.directory], [([], 0)], []⟩
    let attempt : AgentEvent := .transport (.attempt (.error (.system .connectionRefused)))
    let requested := run ⟨files, .new ⟨[]⟩ settings⟩ [(⟨""⟩, 0, attempt)]
    settings.check = .ok () ∧ requested.agent.transport.ended = none ∧
      1000 ≤ 100 + Agent.shutdownGrace ∧
      ∃ error, (requested.run [(⟨""⟩, 1000, attempt)]).agent.result = .error error :=
  ⟨by decide, rfl, by decide, _, rfl⟩

/-- The collector is reached in the grace time. -/
theorem run_new_stopped_connected :
    let settings : Settings := { sources := [⟨"app", "/log"⟩], maxConnectAttempts := 2 }
    let files : FileSystem := ⟨#[.directory], [([], 0)], []⟩
    let before :=
      [((⟨""⟩ : Clock), 0, AgentEvent.transport (.attempt (.error (.system .connectionRefused))))]
    let requested := run ⟨files, .new ⟨[]⟩ settings⟩ before
    settings.check = .ok () ∧ requested.agent.transport.ended = none ∧
      ∃ stats, (requested.run [(⟨""⟩, 1000, .transport (.attempt (.ok ())))]).agent.result =
        .ok stats := by
  intro settings files before requested
  have hcheck : settings.check = .ok () := by decide
  have hstopped := run_new_stopped files ⟨[]⟩ settings hcheck before
    [(⟨""⟩, 1000, .transport (.attempt (.ok ())))] rfl
  exact ⟨hcheck, rfl, hstopped.ok_iff.mpr (.inr (by decide))⟩

end Running

end LogCourier
