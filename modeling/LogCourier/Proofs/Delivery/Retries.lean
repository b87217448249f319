import Mathlib.Data.List.Chain
import LogCourier.Delivery.Network
import LogCourier.Proofs.Delivery.Attempts

/-!
# How often a connector tries

`Connector.live` is the whole life of a connector: it tries until it is connected or has
failed, serves the connection until it is lost, and starts over.  Its attempts follow each
other at the times that `Connector.Lived` gives, and they are bounded as those of every
run are (`Connector.live_bounded`).
-/

namespace LogCourier

/-! ## Networks on which an attempt fails -/

namespace Network

/-- The collector is not found, or it cannot be connected to. -/
def Refuses (n : Network) (remote : String) : Prop :=
  (∃ cause, n.resolve remote = .error cause) ∨
    ∃ e cause, n.resolve remote = .ok e ∧ n.connect e = .error cause

theorem toBool_reach_eq_false (n : Network) (remote : String) :
    (n.reach remote).toBool = false ↔ n.Refuses remote := by
  cases hresolve : n.resolve remote with
  | error cause =>
    simp only [reach, Refuses, hresolve, bind, Except.bind, Except.toBool, true_iff]
    exact .inl ⟨cause, rfl⟩
  | ok e =>
    cases hconnect : n.connect e with
    | error cause =>
      simp only [reach, Refuses, hresolve, hconnect, bind, Except.bind, Except.mapError,
        Except.toBool, true_iff]
      exact .inr ⟨e, cause, rfl, hconnect⟩
    | ok =>
      simp [reach, Refuses, hresolve, hconnect, bind, Except.bind, Except.mapError, Except.toBool]

end Network

namespace Connector

variable {α : Type}

/-! ## The life of a connector -/

/-- What happens to a connection while it lasts. -/
inductive ServiceEvent (α : Type)
  | submit (a : α)
  | take
  | written (ok : Bool)
  | inbound

def ServiceEvent.event : ServiceEvent α → ConnectorEvent α
  | .submit a => .submit a
  | .take => .transport .take
  | .written ok => .transport (.written ok)
  | .inbound => .transport .inbound

/-- A connection that is lost in the end.  A message that is being written then is
finished first. -/
structure Service (α : Type) where
  /-- Every event comes with the time since the connection began. -/
  events : List (Nat × ServiceEvent α)
  lasts : Nat
  written : Bool

def Service.timeline (s : Service α) (begun : Nat) : List (Nat × ConnectorEvent α) :=
  s.events.map (fun e => (begun + e.1, e.2.event)) ++
    [(begun + s.lasts, .transport (.written s.written)), (begun + s.lasts, .transport .lost)]

/-- A connector after some time, with all that has happened to it. -/
structure Life (α : Type) where
  connector : Connector α
  time : Nat
  events : List (Nat × ConnectorEvent α)

/-- The attempts of `Connector.connect`. -/
def connectEvents (reach : Attempt → Except ReachError Unit) :
    Nat → Nat → Connector α → List (Nat × ConnectorEvent α)
  | 0, _, _ => []
  | fuel + 1, now, c =>
    let outcome := reach ⟨c.queue.stats.connectAttempts, now⟩
    let c := c.attempt outcome
    (now, .transport (.attempt outcome)) ::
      if c.ended.isSome ∨ c.phase = .established then []
      else connectEvents reach fuel (now + c.retryDelay) c

def acquire (reach : Attempt → Except ReachError Unit) (fuel now : Nat) (c : Connector α) :
    Life α where
  connector := (c.connect reach none fuel now).1
  time := (c.connect reach none fuel now).2
  events := c.connectEvents reach fuel now

/-- A connector reaches its collector, serves the connection until it is lost, and starts over, as
often as there is something to serve. -/
def live (reach : Attempt → Except ReachError Unit) (now : Nat) (c : Connector α) :
    List (Service α) → Life α
  | [] => c.acquire reach (max c.maxAttempts 1) now
  | s :: services =>
    let first := c.acquire reach (max c.maxAttempts 1) now
    if first.connector.ended.isSome then first
    else
      let served := s.timeline first.time
      let rest :=
        (first.connector.run (served.map Prod.snd)).live reach (first.time + s.lasts) services
      { rest with events := first.events ++ (served ++ rest.events) }

/-- Attempts from a time on.  One retry delay after an attempt that has failed the next one is made,
and none passes after the last one. -/
structure Timed (reach : Attempt → Except ReachError Unit) (delay now : Nat) (tried : List Tried)
    (time : Nat) : Prop where
  outcomes : ∀ t ∈ tried, t.2 = reach t.1
  first : tried.head?.map (·.1.time) = some now
  last : tried.getLast?.map (·.1.time) = some time
  paced : tried.IsChain fun t next => t.failed = true → next.1.time = t.1.time + delay

/-- A connector goes on while there are connections to serve, unless it fails. -/
structure Lived (reach : Attempt → Except ReachError Unit) (now : Nat) (c : Connector α)
    (services : Nat) (life : Life α) : Prop where
  run : life.connector = c.run (life.events.map Prod.snd)
  timed : Timed reach c.retryDelay now (c.tried life.events) life.time
  served : (∃ error, life.connector.ended = some (.error error)) ∨
    (life.connector.phase = .established ∧ life.connector.ended = none ∧
      life.connector.attempts = 0 ∧
      life.connector.queue.stats.connections = c.queue.stats.connections + services + 1 ∧
      ∀ t ∈ (c.tried life.events).getLast?, t.failed = false)

section

variable {reach : Attempt → Except ReachError Unit} {now fuel services : Nat} {c c' : Connector α}

theorem Idle.tries? (h : c.Idle) (now : Nat) (outcome : Except ReachError Unit) :
    c.tries? now (.transport (.attempt outcome)) =
      some (⟨c.queue.stats.connectAttempts, now⟩, outcome) := by
  rw [Connector.tries?, if_neg (by simp [h.ended, h.phase])]

theorem Idle.attempt_ok (h : c.Idle) :
    c.attempt (.ok ()) =
      { c with
        attempts := 0, phase := .established
        queue := c.queue.countAttempt.countConnection.setReady true } := by
  rw [Connector.attempt, if_neg (by simp [h.ended, h.phase])]

theorem Idle.attempt_last (h : c.Idle) (hlast : c.maxAttempts ≤ c.attempts + 1)
    (cause : ReachError) :
    c.attempt (.error cause) =
      { c with
        attempts := c.attempts + 1, phase := .uninitialized, queue := c.queue.countAttempt.close
        ended := some (.error (.attemptsExhausted c.remote (c.attempts + 1) cause.message)) } := by
  rw [Connector.attempt, if_neg (by simp [h.ended, h.phase])]
  simp only [if_pos hlast]

theorem Idle.attempt_more (h : c.Idle) (hmore : c.attempts + 1 < c.maxAttempts)
    (cause : ReachError) :
    c.attempt (.error cause) =
      { c with
        attempts := c.attempts + 1, phase := .uninitialized, queue := c.queue.countAttempt
        ended := none } := by
  rw [Connector.attempt, if_neg (by simp [h.ended, h.phase])]
  simp only [if_neg (Nat.not_le_of_lt hmore)]

theorem acquire_stop
    (hstop : (c.attempt (reach ⟨c.queue.stats.connectAttempts, now⟩)).ended.isSome ∨
      (c.attempt (reach ⟨c.queue.stats.connectAttempts, now⟩)).phase = .established) :
    c.acquire reach (fuel + 1) now =
      ⟨c.attempt (reach ⟨c.queue.stats.connectAttempts, now⟩), now,
        [(now, .transport (.attempt (reach ⟨c.queue.stats.connectAttempts, now⟩)))]⟩ := by
  have hconnect : c.connect reach none (fuel + 1) now =
      (c.attempt (reach ⟨c.queue.stats.connectAttempts, now⟩), now) := by
    rw [connect]
    exact if_pos (hstop.imp_right Or.inl)
  rw [acquire, hconnect, connectEvents, if_pos hstop]

theorem acquire_more (hended : c'.ended = none) (hphase : c'.phase ≠ .established)
    (hc' : c.attempt (reach ⟨c.queue.stats.connectAttempts, now⟩) = c') :
    c.acquire reach (fuel + 1) now =
      { c'.acquire reach fuel (now + c'.retryDelay) with
        events := (now, .transport (.attempt (reach ⟨c.queue.stats.connectAttempts, now⟩))) ::
          (c'.acquire reach fuel (now + c'.retryDelay)).events } := by
  have hconnect : c.connect reach none (fuel + 1) now =
      c'.connect reach none fuel (now + c'.retryDelay) := by
    rw [connect, hc']
    exact if_neg (by simp [hended, hphase])
  rw [acquire, hconnect, connectEvents, hc', if_neg (by simp [hended, hphase])]
  rfl

theorem Idle.tried_attempt (h : c.Idle) (now : Nat) (outcome : Except ReachError Unit)
    (events : List (Nat × ConnectorEvent α)) :
    c.tried ((now, .transport (.attempt outcome)) :: events) =
      (⟨c.queue.stats.connectAttempts, now⟩, outcome) :: (c.attempt outcome).tried events := by
  rw [tried, h.tries? now outcome]
  rfl

theorem Timed.single (reach : Attempt → Except ReachError Unit) (delay now number : Nat) :
    Timed reach delay now [(⟨number, now⟩, reach ⟨number, now⟩)] now := by
  refine ⟨?_, rfl, rfl, List.isChain_singleton _⟩
  simp

theorem Timed.cons {delay time : Nat} {tried : List Tried}
    (h : Timed reach delay (now + delay) tried time) (number : Nat) :
    Timed reach delay now ((⟨number, now⟩, reach ⟨number, now⟩) :: tried) time := by
  obtain ⟨t, hhead, htime⟩ := Option.map_eq_some_iff.mp h.first
  refine ⟨?_, rfl, ?_, ?_⟩
  · rw [List.forall_mem_cons]
    exact ⟨rfl, h.outcomes⟩
  · rw [List.getLast?_cons_of_ne_nil (by rintro rfl; cases hhead)]
    exact h.last
  · refine List.isChain_cons.mpr ⟨?_, h.paced⟩
    intro next hnext _
    rw [Option.mem_def, hhead, Option.some_inj] at hnext
    rw [← hnext, htime]

theorem Timed.append {delay middle later time : Nat} {xs ys : List Tried}
    (hxs : Timed reach delay now xs middle) (hok : ∀ t ∈ xs.getLast?, t.failed = false)
    (hys : Timed reach delay later ys time) : Timed reach delay now (xs ++ ys) time := by
  obtain ⟨x, hx, -⟩ := Option.map_eq_some_iff.mp hxs.first
  obtain ⟨y, hy, -⟩ := Option.map_eq_some_iff.mp hys.last
  refine ⟨?_, ?_, ?_, ?_⟩
  · intro t ht
    exact (List.mem_append.mp ht).elim (hxs.outcomes t) (hys.outcomes t)
  · rw [List.head?_append, hx, Option.some_or, ← hx]
    exact hxs.first
  · rw [List.getLast?_append, hy, Option.some_or, ← hy]
    exact hys.last
  · refine hxs.paced.append hys.paced ?_
    intro t ht _ _ hfailed
    rw [hok t ht] at hfailed
    cases hfailed

theorem Idle.lived_ok (h : c.Idle) (hout : reach ⟨c.queue.stats.connectAttempts, now⟩ = .ok ()) :
    Lived reach now c 0 (c.acquire reach (fuel + 1) now) := by
  have hok := h.attempt_ok
  have hfirst := h.tried_attempt now (.ok ()) []
  have hsingle := Timed.single reach c.retryDelay now c.queue.stats.connectAttempts
  rw [hout] at hsingle
  rw [acquire_stop (by rw [hout, hok]; exact .inr rfl), hout]
  refine ⟨rfl, ?_, .inr ⟨?_, ?_, ?_, ?_, ?_⟩⟩
  · rw [hfirst]
    exact hsingle
  · rw [hok]
  · rw [hok]
    exact h.ended
  · rw [hok]
  · rw [hok]
    rfl
  · rw [hfirst]
    simp [tried, Tried.failed, Except.toBool]

theorem Idle.lived_last (h : c.Idle) (hlast : c.maxAttempts ≤ c.attempts + 1) {cause : ReachError}
    (hout : reach ⟨c.queue.stats.connectAttempts, now⟩ = .error cause) :
    Lived reach now c 0 (c.acquire reach (fuel + 1) now) := by
  have herror := h.attempt_last hlast cause
  have hfirst := h.tried_attempt now (.error cause) []
  have hsingle := Timed.single reach c.retryDelay now c.queue.stats.connectAttempts
  rw [hout] at hsingle
  rw [acquire_stop (by rw [hout, herror]; exact .inl rfl), hout]
  refine ⟨rfl, ?_, .inl ?_⟩
  · rw [hfirst]
    exact hsingle
  · rw [herror]
    exact ⟨_, rfl⟩

/-- After an attempt that fails, the others come one retry delay later. -/
theorem Idle.lived_more (h : c.Idle) (hmore : c.attempts + 1 < c.maxAttempts) {cause : ReachError}
    (hout : reach ⟨c.queue.stats.connectAttempts, now⟩ = .error cause)
    (hrest : Lived reach (now + c.retryDelay) (c.attempt (.error cause)) 0
      ((c.attempt (.error cause)).acquire reach fuel (now + c.retryDelay))) :
    Lived reach now c 0 (c.acquire reach (fuel + 1) now) := by
  have herror := h.attempt_more hmore cause
  have hfirst := h.tried_attempt now (.error cause)
    ((c.attempt (.error cause)).acquire reach fuel (now + c.retryDelay)).events
  have hdelay : (c.attempt (.error cause)).retryDelay = c.retryDelay := by rw [herror]
  have htimed := hrest.timed
  rw [hdelay] at htimed
  have hcons := htimed.cons c.queue.stats.connectAttempts
  rw [hout] at hcons
  rw [acquire_more (by rw [herror]) (by rw [herror]; simp) (congrArg c.attempt hout), hdelay, hout]
  refine ⟨hrest.run, ?_, ?_⟩
  · rw [hfirst]
    exact hcons
  · rcases hrest.served with herror | ⟨hphase, hended, hfresh, hnumber, hlast⟩
    · exact .inl herror
    refine .inr ⟨hphase, hended, hfresh, ?_, ?_⟩
    · rw [hnumber, herror]
      rfl
    · obtain ⟨t, ht, -⟩ := Option.map_eq_some_iff.mp hrest.timed.last
      rw [hfirst, List.getLast?_cons_of_ne_nil (by rintro heq; rw [heq] at ht; cases ht)]
      exact hlast

/-- Attempts up to the bound, as long as they fail. -/
theorem acquire_lived (reach : Attempt → Except ReachError Unit) (now : Nat) (hidle : c.Idle)
    (hfuel : c.attempts + (fuel + 1) = c.maxAttempts) :
    Lived reach now c 0 (c.acquire reach (fuel + 1) now) := by
  induction fuel generalizing c now with
  | zero =>
    cases hout : reach ⟨c.queue.stats.connectAttempts, now⟩ with
    | ok => exact hidle.lived_ok hout
    | error cause => exact hidle.lived_last (Nat.le_of_eq hfuel.symm) hout
  | succ fuel ih =>
    cases hout : reach ⟨c.queue.stats.connectAttempts, now⟩ with
    | ok => exact hidle.lived_ok hout
    | error cause =>
      have hmore : c.attempts + 1 < c.maxAttempts := by omega
      refine hidle.lived_more hmore hout (ih (now + c.retryDelay) ?_ ?_)
      · rw [hidle.attempt_more hmore cause]
        exact ⟨rfl, by simp⟩
      · rw [hidle.attempt_more hmore cause]
        change c.attempts + 1 + (fuel + 1) = c.maxAttempts
        omega

/-! ## Connections that are served -/

/-- A connector with a connection. -/
structure Standing (c : Connector α) : Prop where
  ended : c.ended = none
  phase : c.phase = .established

theorem Standing.tries? (h : c.Standing) (now : Nat) (e : ConnectorEvent α) :
    c.tries? now e = none := by
  cases htries : c.tries? now e with
  | none => rfl
  | some t => exact absurd h.phase (tries?_eq_some htries).1.phase

theorem Standing.tried_cons (h : c.Standing) (e : Nat × ConnectorEvent α)
    (events : List (Nat × ConnectorEvent α)) :
    c.tried (e :: events) = (c.react e.2).tried events := by
  rw [tried, h.tries?]
  rfl

theorem waits_service (c : Connector α) (e : ServiceEvent α) : Waits c (c.react e.event) := by
  cases e with
  | submit a => exact c.submit_waits a
  | take => exact c.take_waits
  | written ok => exact c.written_waits ok
  | inbound => exact .refl c

theorem written_eq (c : Connector α) (ok : Bool) :
    (c.written ok).phase = c.phase ∧ (c.written ok).ended = c.ended ∧
      (c.written ok).writing = none := by
  rw [written]
  cases hwriting : c.writing with
  | none => exact ⟨rfl, rfl, hwriting⟩
  | some a => exact ⟨rfl, rfl, rfl⟩

theorem Standing.service (h : c.Standing) (e : ServiceEvent α) : (c.react e.event).Standing := by
  cases e with
  | submit a => exact ⟨h.ended, h.phase⟩
  | take =>
    change c.take.Standing
    rw [take, DeliveryQueue.receive?]
    cases c.queue.items <;> simp only <;> split <;> exact ⟨h.ended, h.phase⟩
  | written ok =>
    obtain ⟨hphase, hended, -⟩ := c.written_eq ok
    exact ⟨hended.trans h.ended, hphase.trans h.phase⟩
  | inbound => exact h

/-- While a connection is served no attempt is made. -/
theorem Standing.serves (h : c.Standing) (begun : Nat) (events : List (Nat × ServiceEvent α)) :
    let timeline := events.map fun e => (begun + e.1, e.2.event)
    (c.run (timeline.map Prod.snd)).Standing ∧ Waits c (c.run (timeline.map Prod.snd)) ∧
      c.tried timeline = [] := by
  induction events generalizing c with
  | nil => exact ⟨h, .refl c, rfl⟩
  | cons e events ih =>
    obtain ⟨hstanding, hwaits, htried⟩ := ih (h.service e.2)
    refine ⟨hstanding, (c.waits_service e.2).trans hwaits, ?_⟩
    rw [List.map_cons, h.tried_cons]
    exact htried

/-- A connection that is lost leaves a connector that may make its attempts again. -/
theorem Standing.timeline (h : c.Standing) (s : Service α) (begun : Nat) :
    (c.run ((s.timeline begun).map Prod.snd)).Idle ∧
      Waits c (c.run ((s.timeline begun).map Prod.snd)) ∧ c.tried (s.timeline begun) = [] := by
  obtain ⟨hserved, hwaits, htried⟩ := h.serves begun s.events
  generalize hc' : c.run ((s.events.map fun e => (begun + e.1, e.2.event)).map Prod.snd) = c'
    at hserved hwaits
  obtain ⟨hphase, hended, hwriting⟩ := c'.written_eq s.written
  have hwritten : (c'.written s.written).Standing :=
    ⟨hended.trans hserved.ended, hphase.trans hserved.phase⟩
  have hrun : c.run ((s.timeline begun).map Prod.snd) = (c'.written s.written).lost := by
    rw [Service.timeline, List.map_append, run_append, hc']
    rfl
  rw [hrun]
  refine ⟨?_, hwaits.trans ((c'.written_waits _).trans (lost_waits _)), ?_⟩
  · have hserving : (c'.written s.written).isServing = true :=
      isServing_iff.mpr ⟨hwritten.phase, hwriting⟩
    rw [lost, hserving]
    exact ⟨hwritten.ended, by simp⟩
  · rw [Service.timeline, tried_append, htried, hc', List.nil_append, hserved.tried_cons]
    exact hwritten.tried_cons _ _

theorem acquire_fresh_lived (reach : Attempt → Except ReachError Unit) (now : Nat) (hidle : c.Idle)
    (hfresh : c.attempts = 0) (hpos : 1 ≤ c.maxAttempts) :
    Lived reach now c 0 (c.acquire reach (max c.maxAttempts 1) now) := by
  have hmax : max c.maxAttempts 1 = c.maxAttempts - 1 + 1 := by omega
  rw [hmax]
  exact acquire_lived reach now hidle (by omega)

/-- The life goes on after a connection that has been served and lost. -/
theorem Lived.append {first rest : Life α} {s : Service α} (hfirst : Lived reach now c 0 first)
    (hstanding : first.connector.Standing)
    (hok : ∀ t ∈ (c.tried first.events).getLast?, t.failed = false)
    (hnumber : first.connector.queue.stats.connections = c.queue.stats.connections + 1)
    (hrest : Lived reach (first.time + s.lasts)
      (first.connector.run ((s.timeline first.time).map Prod.snd)) services rest) :
    Lived reach now c (services + 1)
      { rest with events := first.events ++ (s.timeline first.time ++ rest.events) } := by
  obtain ⟨-, hwaits, hnone⟩ := hstanding.timeline s first.time
  generalize hc' : first.connector.run ((s.timeline first.time).map Prod.snd) = c' at hwaits hrest
  have hsettings : c'.settings = c.settings := by
    rw [hwaits.settings, hfirst.run, run_settings]
  have hdelay : c'.retryDelay = c.retryDelay := congrArg (·.2.2) hsettings
  have htried : c.tried (first.events ++ (s.timeline first.time ++ rest.events)) =
      c.tried first.events ++ c'.tried rest.events := by
    rw [tried_append, ← hfirst.run, tried_append, hnone, hc', List.nil_append]
  have htimed := hrest.timed
  rw [hdelay] at htimed
  refine ⟨?_, ?_, ?_⟩
  · rw [List.map_append, run_append, ← hfirst.run, List.map_append, run_append, hc']
    exact hrest.run
  · rw [htried]
    exact hfirst.timed.append hok htimed
  · rcases hrest.served with herror | ⟨hphase, hgoing, hattempts, hmore, hlast⟩
    · exact .inl herror
    · refine .inr ⟨hphase, hgoing, hattempts, ?_, ?_⟩
      · rw [hmore, hwaits.connections, hnumber]
        omega
      · obtain ⟨t, ht, -⟩ := Option.map_eq_some_iff.mp hrest.timed.last
        rw [htried, List.getLast?_append, ht, Option.some_or, ← ht]
        exact hlast

/-- A connector that has not failed reaches its collector and serves it, again and again. -/
theorem live_lived (reach : Attempt → Except ReachError Unit) (now : Nat) (hidle : c.Idle)
    (hfresh : c.attempts = 0) (hpos : 1 ≤ c.maxAttempts) (services : List (Service α)) :
    Lived reach now c services.length (c.live reach now services) := by
  induction services generalizing c now with
  | nil => exact acquire_fresh_lived reach now hidle hfresh hpos
  | cons s services ih =>
    have hfirst := acquire_fresh_lived reach now hidle hfresh hpos
    rw [live]
    generalize c.acquire reach (max c.maxAttempts 1) now = first at hfirst
    by_cases hended : first.connector.ended.isSome
    · simp only [if_pos hended]
      refine ⟨hfirst.run, hfirst.timed, hfirst.served.imp_right ?_⟩
      rintro ⟨-, hnone, -⟩
      rw [hnone] at hended
      cases hended
    · simp only [if_neg hended]
      rcases hfirst.served with ⟨error, herror⟩ | ⟨hphase, hnone, hattempts, hnumber, hlast⟩
      · rw [herror] at hended
        exact absurd rfl hended
      · have hstanding : first.connector.Standing := ⟨hnone, hphase⟩
        obtain ⟨hagain, hwaits, -⟩ := hstanding.timeline s first.time
        refine hfirst.append hstanding hlast hnumber
          (ih _ hagain (hwaits.attempts.trans hattempts) ?_)
        have hbound := congrArg (·.2.1) hwaits.settings
        have hsame := congrArg (·.2.1) (c.run_settings (first.events.map Prod.snd))
        rw [← hfirst.run] at hsame
        exact hpos.trans_eq (hbound.trans hsame).symm

end

/-- A new connector fails after as many failed attempts in a row as it may make, and neither earlier
nor later, whether its collector is not found or cannot be connected to, however often it connects
in between. -/
theorem live_bounded {maxAttempts : Nat} (hpos : 1 ≤ maxAttempts) (remote : String)
    (retryDelay capacity : Nat) :
    let c : Connector α := { remote, maxAttempts, retryDelay, queue := { capacity } }
    (∀ events, Retrying remote maxAttempts (c.run (events.map Prod.snd)) (c.tried events)) ∧
      ∀ (networks : Attempt → Network) (now : Nat) (services : List (Service α)),
        let life := c.live (fun a => (networks a).reach remote) now services
        Retrying remote maxAttempts life.connector (c.tried life.events) ∧
          Lived (fun a => (networks a).reach remote) now c services.length life ∧
          ∀ t ∈ c.tried life.events, t.failed = true ↔ (networks t.1).Refuses remote := by
  intro c
  have hsound : c.Sound := ⟨fun _ => ⟨rfl, rfl, rfl⟩, by simp [c]⟩
  have hnew : Retrying remote maxAttempts c [] := {
    remote_eq := rfl
    maxAttempts_eq := rfl
    numbered := rfl
    attempts := rfl
    connections := rfl
    failing := streak_nil.symm
    bounded := by simp
    earlier := streaksBelow_nil _
    exhausted := by
      rw [streak_nil]
      simp only [c, reduceCtorEq, exists_false, false_iff]
      omega
    error := by simp [c]
    ready := fun _ => rfl }
  have hretrying (events : List (Nat × ConnectorEvent α)) :
      Retrying remote maxAttempts (c.run (events.map Prod.snd)) (c.tried events) := by
    have hrun := hnew.run hpos hsound events
    rwa [List.nil_append] at hrun
  refine ⟨hretrying, ?_⟩
  intro networks now services life
  have hlived : Lived (fun a => (networks a).reach remote) now c services.length life :=
    live_lived _ now ⟨rfl, by simp [c]⟩ rfl hpos services
  refine ⟨?_, hlived, ?_⟩
  · rw [hlived.run]
    exact hretrying life.events
  · intro t ht
    rw [Tried.failed, hlived.timed.outcomes t ht, Bool.not_eq_true', Network.toBool_reach_eq_false]

theorem live_bounded_unheard :
    1 ≤ 3 ∧
      (let c : Connector Bytes :=
        { remote := "collector:5000", maxAttempts := 3, retryDelay := 100,
          queue := { capacity := 8 } }
      let reach := fun _ => Network.isolated.reach "collector:5000"
      let life := c.live reach 0 []
      Retrying "collector:5000" 3 life.connector (c.tried life.events) ∧
      Lived reach 0 c 0 life) := by
  refine ⟨by decide, ?_⟩
  obtain ⟨hretrying, hlived, -⟩ :=
    (live_bounded (by decide : 1 ≤ 3) "collector:5000" 100 8).2 (fun _ => Network.isolated) 0 []
  exact ⟨hretrying, hlived⟩

/-- Two attempts may fail in a row.  The second one succeeds, and the connection is lost after fifty
milliseconds. -/
example :
    let c : Connector Nat :=
      { remote := "", maxAttempts := 2, retryDelay := 100, queue := { capacity := 8 } }
    let life := c.live (fun a => if a.number = 1 then .ok () else .error .noAddress) 0
      [⟨[(10, .submit 7), (20, .take)], 50, true⟩, ⟨[], 10, true⟩]
    (c.tried life.events).map (·.1.time) = [0, 100, 150, 250] ∧ life.time = 250 ∧
      life.connector.ended = some (.error (.attemptsExhausted "" 2 "invalid socket address")) ∧
      life.connector.queue.stats = { sent := 1, connectAttempts := 4, connections := 1 } := by
  decide

end Connector

end LogCourier
