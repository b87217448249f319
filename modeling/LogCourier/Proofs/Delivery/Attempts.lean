import LogCourier.Proofs.Delivery.Connections
import LogCourier.Proofs.Streak

/-!
# The attempts of a connector

A connector fails when as many attempts in a row have failed as it may make, and not before: the
attempts are those since the start or since the last connection (`Connector.Retrying`).  This holds
however the attempts, the connections and the producers take turns (`Connector.Retrying.run`): a
step is an attempt, or it leaves the count as it is (`Connector.Waits`).
-/

namespace LogCourier

namespace Connector

variable {α : Type}

/-! ## Attempts -/

/-- An attempt with what becomes of it. -/
abbrev Tried : Type := Attempt × Except ReachError Unit

def Tried.failed (t : Tried) : Bool := !t.2.toBool

/-- A connector that may make an attempt. -/
structure Idle (c : Connector α) : Prop where
  ended : c.ended = none
  phase : c.phase ≠ .established

/-- The attempt that a connector makes in a step, if it makes one. -/
def tries? (c : Connector α) (now : Nat) : ConnectorEvent α → Option Tried
  | .transport (.attempt outcome) =>
    if c.ended.isSome ∨ c.phase = .established then none
    else some (⟨c.queue.stats.connectAttempts, now⟩, outcome)
  | .transport _ | .submit _ => none

theorem tries?_eq_some {c : Connector α} {now : Nat} {e : ConnectorEvent α} {t : Tried}
    (h : c.tries? now e = some t) : c.Idle ∧
      ∃ outcome, e = .transport (.attempt outcome) ∧
        t = (⟨c.queue.stats.connectAttempts, now⟩, outcome) := by
  cases e with
  | submit a => cases h
  | transport e =>
    cases e with
    | attempt outcome =>
      rw [tries?] at h
      split at h
      next => cases h
      next hidle =>
        obtain ⟨hgoing, hphase⟩ := not_or.mp hidle
        cases h
        exact ⟨⟨Option.not_isSome_iff_eq_none.mp hgoing, hphase⟩, outcome, rfl, rfl⟩
    | take | written | inbound | lost | finished => cases h

/-- All attempts of a run in which every event has its time. -/
def tried (c : Connector α) : List (Nat × ConnectorEvent α) → List Tried
  | [] => []
  | e :: events => (c.tries? e.1 e.2).toList ++ (c.react e.2).tried events

theorem tried_append (c : Connector α) (xs ys : List (Nat × ConnectorEvent α)) :
    c.tried (xs ++ ys) = c.tried xs ++ (c.run (xs.map Prod.snd)).tried ys := by
  induction xs generalizing c with
  | nil => rfl
  | cons e xs ih =>
    rw [List.cons_append, tried, ih, tried, List.map_cons, run_cons, List.append_assoc]

theorem run_append (c : Connector α) (xs ys : List (ConnectorEvent α)) :
    c.run (xs ++ ys) = (c.run xs).run ys := List.foldl_append

/-! ## What a step does to the bound -/

/-- A connector that has made attempts.  It has failed exactly when as many attempts in a row have
failed as it may make; earlier there were fewer of them, so that no attempt is made afterwards. -/
structure Retrying (remote : String) (maxAttempts : Nat) (c : Connector α) (tried : List Tried) :
    Prop where
  remote_eq : c.remote = remote
  maxAttempts_eq : c.maxAttempts = maxAttempts
  numbered : tried.map (·.1.number) = List.range tried.length
  attempts : c.queue.stats.connectAttempts = tried.length
  connections : c.queue.stats.connections = tried.countP (·.2.toBool)
  failing : c.attempts = streak Tried.failed tried
  bounded : streak Tried.failed tried ≤ maxAttempts
  earlier : StreaksBelow Tried.failed maxAttempts tried
  exhausted : (∃ error, c.ended = some (.error error)) ↔ streak Tried.failed tried = maxAttempts
  /-- The connector fails with the number of attempts and with the cause of the last one. -/
  error : ∀ error, c.ended = some (.error error) → ∃ last cause,
    tried.getLast? = some (last, .error cause) ∧
      error = .attemptsExhausted remote maxAttempts cause.message
  ready : c.ended.isSome → c.queue.ready = false

/-- What no step changes. -/
def settings (c : Connector α) : String × Nat × Nat := (c.remote, c.maxAttempts, c.retryDelay)

theorem react_settings (c : Connector α) (e : ConnectorEvent α) :
    (c.react e).settings = c.settings := by
  cases e with
  | submit a => rfl
  | transport e =>
    cases e with
    | attempt outcome =>
      rw [react, step, attempt]
      split
      · rfl
      · cases outcome <;> rfl
    | take =>
      rw [react, step, take, DeliveryQueue.receive?]
      cases c.queue.items <;> simp only <;> split <;> rfl
    | written ok =>
      rw [react, step, written]
      cases c.writing <;> rfl
    | inbound => rfl
    | lost =>
      rw [react, step, lost]
      split <;> rfl
    | finished =>
      rw [react, step, finished]
      split <;> rfl

theorem run_settings (c : Connector α) (events : List (ConnectorEvent α)) :
    (c.run events).settings = c.settings := by
  induction events generalizing c with
  | nil => rfl
  | cons e events ih => rw [run_cons, ih, react_settings]

/-- A step without attempt. -/
structure Waits (c c' : Connector α) : Prop where
  settings : c'.settings = c.settings
  attempts : c'.attempts = c.attempts
  connectAttempts : c'.queue.stats.connectAttempts = c.queue.stats.connectAttempts
  connections : c'.queue.stats.connections = c.queue.stats.connections
  ended : c'.ended = c.ended ∨ (c.ended = none ∧ c'.ended = some (.ok ()))

theorem Waits.refl (c : Connector α) : Waits c c := ⟨rfl, rfl, rfl, rfl, .inl rfl⟩

theorem Waits.trans {c c' c'' : Connector α} (h : Waits c c') (h' : Waits c' c'') :
    Waits c c'' := by
  refine ⟨h'.settings.trans h.settings, h'.attempts.trans h.attempts,
    h'.connectAttempts.trans h.connectAttempts, h'.connections.trans h.connections, ?_⟩
  rcases h.ended with hsame | ⟨hnone, hok⟩
  · rw [← hsame]
    exact h'.ended
  · refine .inr ⟨hnone, ?_⟩
    rcases h'.ended with hsame | ⟨hgoing, _⟩
    · exact hsame.trans hok
    · rw [hok] at hgoing
      cases hgoing

theorem submit_waits (c : Connector α) (a : α) : Waits c (c.react (.submit a)) := by
  rw [react, DeliveryQueue.submit]
  split <;> exact ⟨rfl, rfl, rfl, rfl, .inl rfl⟩

theorem take_waits (c : Connector α) : Waits c c.take := by
  rw [take, DeliveryQueue.receive?]
  cases c.queue.items <;> simp only <;> split <;> exact ⟨rfl, rfl, rfl, rfl, .inl rfl⟩

theorem written_waits (c : Connector α) (ok : Bool) : Waits c (c.written ok) := by
  rw [written]
  cases c.writing with
  | none => exact .refl c
  | some a => cases ok <;> exact ⟨rfl, rfl, rfl, rfl, .inl rfl⟩

theorem lost_waits (c : Connector α) : Waits c c.lost := by
  rw [lost]
  split <;> exact ⟨rfl, rfl, rfl, rfl, .inl rfl⟩

theorem Sound.finished_waits {c : Connector α} (h : c.Sound) : Waits c c.finished := by
  rw [Connector.finished]
  split
  next hdone =>
    have hserving := (Bool.and_eq_true_iff.mp hdone).1
    exact ⟨rfl, rfl, rfl, rfl, .inr ⟨h.not_ended (isServing_iff.mp hserving).1, rfl⟩⟩
  next => exact .refl c

theorem Sound.waits {c : Connector α} (h : c.Sound) {now : Nat} {e : ConnectorEvent α}
    (hnone : c.tries? now e = none) : Waits c (c.react e) := by
  cases e with
  | submit a => exact c.submit_waits a
  | transport e =>
    cases e with
    | attempt outcome =>
      have hbusy : c.ended.isSome ∨ c.phase = .established := by
        apply Decidable.by_contra
        intro hidle
        rw [tries?, if_neg hidle] at hnone
        cases hnone
      change Waits c (c.attempt outcome)
      rw [Connector.attempt, if_pos hbusy]
      exact .refl c
    | take => exact c.take_waits
    | written ok => exact c.written_waits ok
    | inbound => exact .refl c
    | lost => exact c.lost_waits
    | finished => exact h.finished_waits

section

variable {remote : String} {maxAttempts : Nat} {c c' : Connector α} {past : List Tried}

theorem Retrying.waits (h : Retrying remote maxAttempts c past) (hwaits : Waits c c')
    (hsound : c'.Sound) : Retrying remote maxAttempts c' past := by
  have hended : ∀ error, c'.ended = some (.error error) ↔ c.ended = some (.error error) := by
    intro error
    rcases hwaits.ended with hsame | ⟨hnone, hok⟩
    · rw [hsame]
    · simp [hnone, hok]
  exact {
    remote_eq := (congrArg (·.1) hwaits.settings).trans h.remote_eq
    maxAttempts_eq := (congrArg (·.2.1) hwaits.settings).trans h.maxAttempts_eq
    numbered := h.numbered
    attempts := hwaits.connectAttempts.trans h.attempts
    connections := hwaits.connections.trans h.connections
    failing := hwaits.attempts.trans h.failing
    bounded := h.bounded
    earlier := h.earlier
    exhausted := (exists_congr hended).trans h.exhausted
    error := fun error herror => h.error error ((hended error).mp herror)
    ready := fun hsome => (hsound.idle (hsound.ended hsome)).1 }

theorem Retrying.streak_lt (h : Retrying remote maxAttempts c past) (hgoing : c.ended = none) :
    streak Tried.failed past < maxAttempts := by
  refine Nat.lt_of_le_of_ne h.bounded fun heq => ?_
  obtain ⟨error, herror⟩ := h.exhausted.mpr heq
  rw [hgoing] at herror
  cases herror

theorem numbered_concat (h : past.map (·.1.number) = List.range past.length) (now : Nat)
    (outcome : Except ReachError Unit) :
    (past ++ [((⟨past.length, now⟩, outcome) : Tried)]).map (·.1.number) =
      List.range (past ++ [((⟨past.length, now⟩, outcome) : Tried)]).length := by
  rw [List.map_append, h, List.length_append, List.length_singleton, List.range_succ]
  rfl

theorem Retrying.attempt (h : Retrying remote maxAttempts c past) (hpos : 1 ≤ maxAttempts)
    (hsound : c.Sound) (hidle : c.Idle) (now : Nat) (outcome : Except ReachError Unit) :
    Retrying remote maxAttempts (c.attempt outcome)
      (past ++ [(⟨c.queue.stats.connectAttempts, now⟩, outcome)]) := by
  have hsound' := (hsound.attempt outcome).1
  have hready : (c.attempt outcome).ended.isSome → (c.attempt outcome).queue.ready = false :=
    fun hsome => (hsound'.idle (hsound'.ended hsome)).1
  have hless := h.streak_lt hidle.ended
  have hearlier := h.earlier.concat hless (⟨c.queue.stats.connectAttempts, now⟩, outcome)
  have hnumbered := numbered_concat h.numbered now outcome
  rw [← h.attempts] at hnumbered
  rw [Connector.attempt, if_neg (by simp [hidle.ended, hidle.phase])] at hready ⊢
  cases outcome with
  | ok =>
    exact {
      remote_eq := h.remote_eq
      maxAttempts_eq := h.maxAttempts_eq
      numbered := hnumbered
      attempts := by
        rw [List.length_append, ← h.attempts]
        rfl
      connections := by
        rw [List.countP_append, ← h.connections]
        rfl
      failing := (streak_concat_of_neg _ rfl).symm
      bounded := by
        rw [streak_concat_of_neg _ rfl]
        exact Nat.zero_le _
      earlier := hearlier
      exhausted := by
        rw [streak_concat_of_neg _ rfl]
        simp only [hidle.ended, reduceCtorEq, exists_false, false_iff]
        omega
      error := by simp [hidle.ended]
      ready := hready }
  | error cause =>
    have hbound : c.maxAttempts ≤ c.attempts + 1 ↔ streak Tried.failed past + 1 = maxAttempts := by
      rw [h.maxAttempts_eq, h.failing]
      omega
    simp only at hready ⊢
    exact {
      remote_eq := h.remote_eq
      maxAttempts_eq := h.maxAttempts_eq
      numbered := hnumbered
      attempts := by
        rw [List.length_append, ← h.attempts]
        simp only
        split <;> rfl
      connections := by
        rw [List.countP_append, ← h.connections]
        simp only
        split <;> rfl
      failing := by
        rw [streak_concat_of_pos _ rfl, ← h.failing]
      bounded := by
        rw [streak_concat_of_pos _ rfl]
        exact hless
      earlier := hearlier
      exhausted := by
        rw [streak_concat_of_pos _ rfl, ← hbound]
        split
        next hlast => simp [hlast]
        next hmore => simp [hmore]
      error := by
        intro error herror
        simp only at herror
        split at herror
        next hlast =>
          refine ⟨_, cause, List.getLast?_concat, ?_⟩
          rw [h.remote_eq, h.failing, hbound.mp hlast] at herror
          simpa using herror.symm
        next => cases herror
      ready := hready }

theorem Retrying.react (h : Retrying remote maxAttempts c past) (hpos : 1 ≤ maxAttempts)
    (hsound : c.Sound) (now : Nat) (e : ConnectorEvent α) :
    Retrying remote maxAttempts (c.react e) (past ++ (c.tries? now e).toList) := by
  cases htries : c.tries? now e with
  | none =>
    rw [Option.toList_none, List.append_nil]
    exact h.waits (hsound.waits htries) (hsound.react e)
  | some t =>
    obtain ⟨hidle, outcome, rfl, rfl⟩ := tries?_eq_some htries
    exact h.attempt hpos hsound hidle now outcome

theorem Retrying.run (h : Retrying remote maxAttempts c past) (hpos : 1 ≤ maxAttempts)
    (hsound : c.Sound) (events : List (Nat × ConnectorEvent α)) :
    Retrying remote maxAttempts (c.run (events.map Prod.snd)) (past ++ c.tried events) := by
  induction events generalizing c past with
  | nil =>
    rw [tried, List.append_nil]
    exact h
  | cons e events ih =>
    rw [tried, ← List.append_assoc]
    exact ih (h.react hpos hsound e.1 e.2) (hsound.react e.2)

end

end Connector

end LogCourier
