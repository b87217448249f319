import LogCourier.Agent.Run
import LogCourier.Proofs.Tailer.Moves

/-!
# Runs of agents

A run of an agent interleaves the steps of its tailers and its transport with the changes that other
programs make to the files.  For each tailer it is a run among files, in which the other tailers are
other programs too.
-/

namespace LogCourier

namespace Running

/-- A run: every event comes with the clock that records show, and with its time. -/
def run (r : Running) (events : List (Clock × Nat × AgentEvent)) : Running :=
  events.foldl (fun r e => r.step e.1 e.2.1 e.2.2) r

@[simp] theorem run_nil (r : Running) : r.run [] = r := rfl

theorem run_cons (r : Running) (e : Clock × Nat × AgentEvent)
    (events : List (Clock × Nat × AgentEvent)) :
    r.run (e :: events) = (r.step e.1 e.2.1 e.2.2).run events := rfl

/-- What a tailer does in a step of the agent. -/
def acts (r : Running) (index : Nat) : AgentEvent → List TailerAct
  | .tailer i e =>
    match r.agent.tailers[index]? with
    | none => []
    | some t => if i = index then Tailing.acts ⟨r.files, t⟩ e else []
  | .change _ | .transport _ => []

/-- All acts of a tailer in a run of the agent, in their order. -/
def history (r : Running) (index : Nat) : List (Clock × Nat × AgentEvent) → List TailerAct
  | [] => []
  | e :: events => r.acts index e.2.2 ++ history (r.step e.1 e.2.1 e.2.2) index events

theorem step_tailers {P : Tailer → Prop}
    (hstep : ∀ s now e, P s.tailer → P (Tailing.step s now e).1.tailer) {r : Running}
    (hr : ∀ t ∈ r.agent.tailers, P t) (clock : Clock) (now : Nat) (e : AgentEvent) :
    ∀ t ∈ (r.step clock now e).agent.tailers, P t := by
  cases e with
  | change c => exact hr
  | transport e => exact hr
  | tailer index e =>
    rw [step]
    split
    next => exact hr
    next t ht =>
      intro t' ht'
      rcases List.mem_or_eq_of_mem_set ht' with hold | rfl
      · exact hr t' hold
      · exact hstep ⟨r.files, t⟩ now e (hr t (List.mem_of_getElem? ht))

/-- What every step of a tailer keeps holds of all tailers throughout a run. -/
theorem run_tailers {P : Tailer → Prop}
    (hstep : ∀ s now e, P s.tailer → P (Tailing.step s now e).1.tailer) {r : Running}
    (hr : ∀ t ∈ r.agent.tailers, P t) (events : List (Clock × Nat × AgentEvent)) :
    ∀ t ∈ (r.run events).agent.tailers, P t := by
  induction events generalizing r with
  | nil => exact hr
  | cons e events ih => exact ih (step_tailers hstep hr e.1 e.2.1 e.2.2)

/-! ## What never changes -/

theorem map_set_of_eq {α β : Type} {f : α → β} {l : List α} {i : Nat} {a b : α}
    (ha : l[i]? = some a) (hb : f b = f a) : (l.set i b).map f = l.map f := by
  obtain ⟨hlt, rfl⟩ := List.getElem?_eq_some_iff.mp ha
  rw [List.map_set, hb, ← List.getElem_map f, List.set_getElem_self]
  rwa [List.length_map]

theorem step_sources (r : Running) (clock : Clock) (now : Nat) (e : AgentEvent) :
    (r.step clock now e).agent.tailers.map Tailer.source = r.agent.tailers.map Tailer.source := by
  cases e with
  | change c => rfl
  | transport e => rfl
  | tailer index e =>
    cases ht : r.agent.tailers[index]? with
    | none => rw [Running.step, ht]
    | some t =>
      have hsource : (Tailing.step ⟨r.files, t⟩ now e).1.tailer.source = t.source :=
        (Tailing.step_acted ⟨r.files, t⟩ now e).settings.1
      rw [Running.step, ht]
      exact map_set_of_eq ht hsource

theorem run_sources (r : Running) (events : List (Clock × Nat × AgentEvent)) :
    (r.run events).agent.tailers.map Tailer.source = r.agent.tailers.map Tailer.source := by
  induction events generalizing r with
  | nil => rfl
  | cons e events ih => exact (ih _).trans (r.step_sources e.1 e.2.1 e.2.2)

/-- The tailers of an agent follow the sources of its settings, in their order. -/
theorem run_new_sources (files : FileSystem) (runId : RunId) (s : Settings)
    (events : List (Clock × Nat × AgentEvent)) :
    (run ⟨files, .new runId s⟩ events).agent.tailers.map Tailer.source = s.sources := by
  rw [run_sources]
  change (s.sources.map (Tailer.new s)).map Tailer.source = s.sources
  rw [List.map_map]
  exact List.map_id s.sources

theorem step_formatter (r : Running) (clock : Clock) (now : Nat) (e : AgentEvent) :
    (r.step clock now e).agent.formatter = r.agent.formatter := by
  cases e with
  | change c => rfl
  | transport e => rfl
  | tailer index e =>
    rw [step]
    split <;> rfl

theorem run_formatter (r : Running) (events : List (Clock × Nat × AgentEvent)) :
    (r.run events).agent.formatter = r.agent.formatter := by
  induction events generalizing r with
  | nil => rfl
  | cons e events ih => exact (ih _).trans (r.step_formatter e.1 e.2.1 e.2.2)

end Running

end LogCourier
