import LogCourier.Proofs.Delivery.Connections
import LogCourier.Wire.Record

/-!
# Datagrams

However producers and the sender take turns, every accepted message that is not too short becomes
one datagram, and the datagrams are attempted in the order of the messages
(`DatagramSender.run_delivers`).  An attempt that fails is counted and not made again.  A sender
that has not found the collector refuses everything.

`DatagramSender.Take` says what taking a message can do.  `DatagramSender.Steady` holds in every
run, and `DatagramSender.Forwards` is what a step does to the datagrams that are due; both are
carried from step to step.
-/

namespace LogCourier

/-- What became of an attempt to find the collector. -/
def ConnectorEvent.outcome? {α : Type} : ConnectorEvent α → Option (Except ReachError Unit)
  | .transport (.attempt outcome) => some outcome
  | _ => none

theorem ConnectorEvent.outcome?_eq_some {α : Type} {e : ConnectorEvent α}
    {outcome : Except ReachError Unit} :
    e.outcome? = some outcome ↔ e = .transport (.attempt outcome) := by
  cases e with
  | submit => simp [outcome?]
  | transport e => cases e <;> simp [outcome?]

namespace DatagramSender

open DeliveryAct

/-! ## Messages and their datagrams -/

theorem datagram?_eq_none {message : Bytes} :
    datagram? message = none ↔ message.length < minLength := by
  rw [datagram?]
  split <;> simp [*]

theorem payload_concat (message : Bytes) : payload (message ++ [newline]) = message := by
  simp [payload]

/-- The payload is the message without the newline that ends it, if one does. -/
theorem payload_cases (message : Bytes) :
    message = payload message ++ [newline] ∨
      (message.getLast? ≠ some newline ∧ payload message = message) := by
  by_cases hlast : message.getLast? = some newline
  · obtain ⟨start, rfl⟩ := List.getLast?_eq_some_iff.mp hlast
    rw [payload_concat]
    exact Or.inl rfl
  · exact Or.inr ⟨hlast, by rw [payload, if_neg hlast]⟩

/-- A record is never too short, and its datagram is all of it but the newline. -/
theorem datagram?_record (priority : Nat) (stamp source identifier : String) (body : Bytes) :
    datagram? (Record.format priority stamp source identifier body) =
      some (Bytes.ofText (Record.header priority stamp source identifier) ++ body) := by
  have hlong : ¬(Record.format priority stamp source identifier body).length < minLength := by
    -- the blank before the body and the newline after it are enough
    have hblank : (Bytes.ofText " ").length = 1 := by decide
    rw [Record.format, Record.header, Bytes.ofText_append]
    simp only [List.length_append, List.length_singleton, hblank, minLength]
    omega
  rw [datagram?, if_neg hlong, Record.format, payload_concat]

/-! ## Acts -/

def react (s : DatagramSender) : ConnectorEvent Bytes → DatagramSender
  | .submit message => { s with queue := (s.queue.submit message).1 }
  | .transport e => s.step e

/-- The message that is given up when the next one is taken. -/
def givenUp? (s : DatagramSender) : Option Bytes :=
  if s.isServing then
    s.queue.items.head?.filter fun message => s.phase ≠ .bound ∨ message.length < minLength
  else none

/-- What becomes of messages in a step, and of their datagrams: it is these that are attempted. -/
def acts (s : DatagramSender) : ConnectorEvent Bytes → List (DeliveryAct Bytes)
  | .submit message => [if (s.queue.submit message).2 then .accepted message else .refused message]
  | .transport .take => s.givenUp?.toList.map .discarded
  | .transport (.written ok) => s.sending.toList.map fun d => .attempted d ok
  | .transport _ => []

def run (s : DatagramSender) (events : List (ConnectorEvent Bytes)) : DatagramSender :=
  events.foldl react s

/-- All acts of a run. -/
def history (s : DatagramSender) : List (ConnectorEvent Bytes) → List (DeliveryAct Bytes)
  | [] => []
  | e :: events => s.acts e ++ history (s.react e) events

theorem run_cons (s : DatagramSender) (e : ConnectorEvent Bytes)
    (events : List (ConnectorEvent Bytes)) : s.run (e :: events) = (s.react e).run events := rfl

/-- The datagrams that are due: the one that is being sent, and those of the messages that wait. -/
def pending (s : DatagramSender) : List Bytes :=
  s.sending.toList ++ s.queue.items.filterMap datagram?

/-- Taking a message either finds none, or makes the datagram the one that is being sent, or gives
the message up. -/
inductive Take (s : DatagramSender) : List (DeliveryAct Bytes) → DatagramSender → Prop
  | waits (hnone : s.isServing = true → s.queue.items = []) : Take s [] s
  | sends (message : Bytes) (items : List Bytes) (d : Bytes) (hserving : s.isServing = true)
      (hitems : s.queue.items = message :: items) (hphase : s.phase = .bound)
      (hdatagram : datagram? message = some d) :
      Take s [] { s with queue := { s.queue with items }, sending := some d }
  | givesUp (message : Bytes) (items : List Bytes) (hserving : s.isServing = true)
      (hitems : s.queue.items = message :: items)
      (hdatagram : s.phase = .bound → datagram? message = none) :
      Take s [.discarded message] { s with queue := { s.queue with items }.countDropped 1 }

theorem take_cases (s : DatagramSender) : Take s (s.acts (.transport .take)) s.take := by
  rw [acts, givenUp?, take]
  by_cases hserving : s.isServing = true
  · rw [if_pos hserving, if_neg (by simp [hserving]), DeliveryQueue.receive?]
    cases hitems : s.queue.items with
    | nil => exact .waits fun _ => hitems
    | cons message items =>
      simp only [List.head?_cons]
      split
      next d hphase hdatagram =>
        have hkept : ¬(s.phase ≠ .bound ∨ message.length < minLength) := by
          rintro (hunbound | hshort)
          · exact hunbound hphase
          · rw [datagram?_eq_none.mpr hshort] at hdatagram
            cases hdatagram
        rw [Option.filter_some_neg (by simpa using hkept)]
        exact .sends message items d hserving hitems hphase hdatagram
      next hnone =>
        have hdatagram (hphase : s.phase = .bound) : datagram? message = none := by
          cases hdatagram : datagram? message with
          | none => rfl
          | some d => exact absurd hdatagram (hnone d hphase)
        have hgiven : s.phase ≠ .bound ∨ message.length < minLength := by
          by_cases hphase : s.phase = .bound
          · exact Or.inr (datagram?_eq_none.mp (hdatagram hphase))
          · exact Or.inl hphase
        rw [Option.filter_some_pos (by simpa using hgiven)]
        exact .givesUp message items hserving hitems hdatagram
  · rw [if_neg hserving, if_pos (by simpa using hserving)]
    exact .waits fun h => absurd h hserving

/-! ## What holds in every run -/

/-- Messages are accepted from the time when the collector is found until the sender ends, and at no
other time does anything wait. -/
structure Steady (s : DatagramSender) : Prop where
  ready : s.queue.ready = true ↔ s.phase = .bound ∧ s.ended = false
  closed : s.queue.closed = s.ended
  started : s.phase = .bound ∨ s.ended = true → s.started = true
  idle : s.queue.ready = false → s.queue.items = [] ∧ s.sending = none

/-- What waits, waits for a sender that has found the collector. -/
theorem Steady.ready_of_cons {s : DatagramSender} (h : s.Steady) {message : Bytes}
    {items : List Bytes} (hitems : s.queue.items = message :: items) : s.queue.ready = true := by
  cases hready : s.queue.ready with
  | true => rfl
  | false =>
    rw [(h.idle hready).1] at hitems
    cases hitems

theorem Steady.idle_of_unbound {s : DatagramSender} (h : s.Steady) (hphase : s.phase ≠ .bound) :
    s.queue.ready = false ∧ s.queue.items = [] ∧ s.sending = none := by
  have hready : s.queue.ready = false := by
    rw [← Bool.not_eq_true, h.ready]
    exact fun hbound => hphase hbound.1
  exact ⟨hready, h.idle hready⟩

theorem Steady.submit {s : DatagramSender} (h : s.Steady) (message : Bytes) :
    (s.react (.submit message)).Steady := by
  rw [react, DeliveryQueue.submit]
  split
  next haccepts =>
    have hready : s.queue.ready = true := by
      rw [DeliveryQueue.accepts, Bool.and_eq_true, Bool.and_eq_true] at haccepts
      exact haccepts.1.1
    refine ⟨h.ready, h.closed, h.started, ?_⟩
    intro hnot
    cases hready.symm.trans hnot
  next => exact ⟨h.ready, h.closed, h.started, h.idle⟩

theorem Steady.bind {s : DatagramSender} (h : s.Steady) (outcome : Except ReachError Unit) :
    (s.bind outcome).Steady := by
  rw [DatagramSender.bind]
  split
  next => exact h
  next hfresh =>
    obtain ⟨hphase, hgoing⟩ := not_or.mp fun hstarted => hfresh (h.started hstarted)
    rw [Bool.not_eq_true] at hgoing
    obtain ⟨hready, hidle⟩ := h.idle_of_unbound hphase
    cases outcome with
    | ok =>
      exact {
        ready := ⟨fun _ => ⟨rfl, hgoing⟩, fun _ => rfl⟩
        closed := h.closed
        started := fun _ => rfl
        idle := fun hnot => by cases hnot }
    | error e =>
      refine ⟨⟨fun hyes => ?_, fun hbound => ?_⟩, h.closed, fun _ => rfl, fun _ => hidle⟩
      · cases hready.symm.trans hyes
      · cases hbound.1

theorem Take.steady {s s' : DatagramSender} {acts : List (DeliveryAct Bytes)} (h : s.Steady)
    (htake : Take s acts s') : s'.Steady := by
  cases htake with
  | waits => exact h
  | sends message items d hserving hitems hphase =>
    refine ⟨h.ready, h.closed, h.started, ?_⟩
    intro hnot
    simp [h.ready_of_cons hitems] at hnot
  | givesUp message items hserving hitems =>
    refine ⟨h.ready, h.closed, h.started, ?_⟩
    intro hnot
    simp [DeliveryQueue.countDropped, h.ready_of_cons hitems] at hnot

theorem Steady.written {s : DatagramSender} (h : s.Steady) (ok : Bool) : (s.written ok).Steady := by
  rw [DatagramSender.written]
  split
  next => exact h
  next =>
    cases ok <;> exact ⟨h.ready, h.closed, h.started, fun hnot => ⟨(h.idle hnot).1, rfl⟩⟩

theorem Steady.finished {s : DatagramSender} (h : s.Steady) : s.finished.Steady := by
  rw [DatagramSender.finished]
  split
  next hdone =>
    obtain ⟨hserving, _⟩ := Bool.and_eq_true_iff.mp hdone
    obtain ⟨⟨hstarted, _⟩, hsending⟩ := isServing_iff.mp hserving
    split
    next =>
      refine ⟨?_, rfl, fun _ => hstarted, fun _ => ⟨rfl, hsending⟩⟩
      simp [DeliveryQueue.close, DeliveryQueue.setReady]
    next hunbound =>
      refine ⟨?_, rfl, fun _ => hstarted, fun _ => ⟨rfl, hsending⟩⟩
      simp [DeliveryQueue.close, (h.idle_of_unbound hunbound).1]
  next => exact h

theorem Steady.react {s : DatagramSender} (h : s.Steady) (e : ConnectorEvent Bytes) :
    (s.react e).Steady := by
  cases e with
  | submit message => exact h.submit message
  | transport e =>
    cases e with
    | attempt outcome => exact h.bind outcome
    | take => exact s.take_cases.steady h
    | written ok => exact h.written ok
    | inbound | lost => exact h
    | finished => exact h.finished

theorem Steady.run {s : DatagramSender} (h : s.Steady) (events : List (ConnectorEvent Bytes)) :
    (s.run events).Steady := by
  induction events generalizing s with
  | nil => exact h
  | cons e events ih => exact ih (h.react e)

/-! ## Datagrams that are due -/

/-- What becomes of the datagrams in a step: those of the messages accepted become due, and
those attempted are no longer so.  The messages that are too short leave the queue as they are
given up. -/
structure Forwards (s : DatagramSender) (acts : List (DeliveryAct Bytes)) (s' : DatagramSender) :
    Prop where
  due : s.pending ++ (acts.filterMap accepted?).filterMap datagram? =
    (acts.filterMap attempted?).map Prod.fst ++ s'.pending
  short :
    (s.queue.items ++ acts.filterMap accepted?).filter (fun message => message.length < minLength) =
    acts.filterMap discarded? ++ s'.queue.items.filter fun message => message.length < minLength

theorem Forwards.of_eq {s s' : DatagramSender} (hitems : s'.queue.items = s.queue.items)
    (hsending : s'.sending = s.sending) : Forwards s [] s' := by
  constructor
  · simp [pending, hitems, hsending]
  · simp [hitems]

theorem Forwards.trans {s t u : DatagramSender} {xs ys : List (DeliveryAct Bytes)}
    (hxs : Forwards s xs t) (hys : Forwards t ys u) : Forwards s (xs ++ ys) u := by
  constructor
  · rw [List.filterMap_append, List.filterMap_append, List.filterMap_append, List.map_append,
      ← List.append_assoc, hxs.due, List.append_assoc, hys.due, List.append_assoc]
  · have hys' := hys.short
    rw [List.filter_append] at hys'
    rw [List.filterMap_append, List.filterMap_append, ← List.append_assoc,
      List.filter_append, hxs.short, List.append_assoc, hys', List.append_assoc]

theorem Take.forwards {s s' : DatagramSender} {acts : List (DeliveryAct Bytes)} (h : s.Steady)
    (htake : Take s acts s') : Forwards s acts s' := by
  cases htake with
  | waits => exact .of_eq rfl rfl
  | sends message items d hserving hitems hphase hdatagram =>
    have hsending : s.sending = none := (isServing_iff.mp hserving).2
    have hlong : ¬message.length < minLength := by simp [← datagram?_eq_none, hdatagram]
    constructor
    · simp [pending, hitems, hsending, hdatagram]
    · simp [hitems, hlong]
  | givesUp message items hserving hitems hdatagram =>
    have hsending : s.sending = none := (isServing_iff.mp hserving).2
    have hnone : datagram? message = none := hdatagram (h.ready.mp (h.ready_of_cons hitems)).1
    have hshort : message.length < minLength := datagram?_eq_none.mp hnone
    constructor
    · simp [pending, hitems, hsending, hnone, List.filterMap_cons, accepted?, attempted?]
    · simp [hitems, hshort, List.filterMap_cons, accepted?, discarded?]

theorem Steady.react_forwards {s : DatagramSender} (h : s.Steady) (e : ConnectorEvent Bytes) :
    Forwards s (s.acts e) (s.react e) := by
  cases e with
  | submit message =>
    rw [acts, DatagramSender.react, DeliveryQueue.submit]
    split
    · constructor
      · simp [pending, accepted?, attempted?]
      · simp [accepted?, discarded?]
    · constructor
      · simp [pending, List.filterMap_cons, accepted?, attempted?]
      · simp [List.filterMap_cons, accepted?, discarded?]
  | transport e =>
    cases e with
    | attempt outcome =>
      change Forwards s [] (s.bind outcome)
      rw [DatagramSender.bind]
      split
      · exact .of_eq rfl rfl
      · cases outcome <;> exact .of_eq rfl rfl
    | take => exact s.take_cases.forwards h
    | written ok =>
      rw [acts, DatagramSender.react, step, DatagramSender.written]
      cases hsending : s.sending with
      | none => exact .of_eq rfl rfl
      | some d =>
        constructor
        · cases ok <;> simp [pending, hsending, List.filterMap_cons, accepted?, attempted?]
        · cases ok <;> simp [List.filterMap_cons, accepted?, discarded?]
    | inbound | lost => exact .of_eq rfl rfl
    | finished =>
      change Forwards s [] s.finished
      rw [DatagramSender.finished]
      split
      next hdone =>
        have hitems : s.queue.items = [] := List.isEmpty_iff.mp (Bool.and_eq_true_iff.mp hdone).2
        exact .of_eq hitems.symm rfl
      next => exact .of_eq rfl rfl

theorem Steady.run_forwards {s : DatagramSender} (h : s.Steady)
    (events : List (ConnectorEvent Bytes)) : Forwards s (s.history events) (s.run events) := by
  induction events generalizing s with
  | nil => exact .of_eq rfl rfl
  | cons e events ih => exact (h.react_forwards e).trans (ih (h.react e))

/-! ## What the statistics count -/

theorem Take.counts {s s' : DatagramSender} {acts : List (DeliveryAct Bytes)}
    (htake : Take s acts s') : Connector.Counts s.queue.stats acts s'.queue.stats := by
  cases htake with
  | waits | sends => exact .refl _
  | givesUp => exact ⟨rfl, rfl, rfl⟩

theorem react_counts (s : DatagramSender) (e : ConnectorEvent Bytes) :
    Connector.Counts s.queue.stats (s.acts e) (s.react e).queue.stats := by
  cases e with
  | submit message =>
    rw [acts, react, DeliveryQueue.submit]
    split <;> exact ⟨rfl, rfl, rfl⟩
  | transport e =>
    cases e with
    | attempt outcome =>
      change Connector.Counts _ [] (s.bind outcome).queue.stats
      rw [DatagramSender.bind]
      split
      · exact .refl _
      · cases outcome <;> exact ⟨rfl, rfl, rfl⟩
    | take => exact s.take_cases.counts
    | written ok =>
      rw [acts, react, step, written]
      cases s.sending with
      | none => exact .refl _
      | some d => cases ok <;> exact ⟨rfl, rfl, rfl⟩
    | inbound | lost => exact .refl _
    | finished =>
      change Connector.Counts _ [] s.finished.queue.stats
      rw [finished]
      split
      · split <;> exact .refl _
      · exact .refl _

theorem run_counts (s : DatagramSender) (events : List (ConnectorEvent Bytes)) :
    Connector.Counts s.queue.stats (s.history events) (s.run events).queue.stats := by
  induction events generalizing s with
  | nil => exact .refl _
  | cons e events ih => exact (s.react_counts e).trans (ih (s.react e))

/-! ## Finding the collector, and the end -/

theorem Take.kept {s s' : DatagramSender} {acts : List (DeliveryAct Bytes)}
    (htake : Take s acts s') :
    (s'.phase = s.phase ∧ s'.started = s.started) ∧ s'.ended = s.ended := by
  cases htake <;> exact ⟨⟨rfl, rfl⟩, rfl⟩

theorem written_kept (s : DatagramSender) (ok : Bool) :
    ((s.written ok).phase = s.phase ∧ (s.written ok).started = s.started) ∧
      (s.written ok).ended = s.ended := by
  rw [written]
  split <;> exact ⟨⟨rfl, rfl⟩, rfl⟩

/-- Only an attempt to find the collector can change whether it is found. -/
theorem react_phase (s : DatagramSender) {e : ConnectorEvent Bytes} (he : e.outcome? = none) :
    (s.react e).phase = s.phase ∧ (s.react e).started = s.started := by
  cases e with
  | submit => exact ⟨rfl, rfl⟩
  | transport e =>
    cases e with
    | attempt => cases he
    | take => exact s.take_cases.kept.1
    | written ok => exact (s.written_kept ok).1
    | inbound | lost => exact ⟨rfl, rfl⟩
    | finished =>
      rw [react, step, finished]
      split <;> exact ⟨rfl, rfl⟩

theorem Steady.bind_bound_iff {s : DatagramSender} (h : s.Steady)
    (outcome : Except ReachError Unit) :
    ((s.bind outcome).phase = .bound ↔ s.phase = .bound ∨ s.started = false ∧ outcome = .ok ()) ∧
      (s.bind outcome).started = true := by
  rw [DatagramSender.bind]
  split
  next hstarted => simp [hstarted]
  next hfresh =>
    have hphase : s.phase ≠ .bound := fun hphase => hfresh (h.started (Or.inl hphase))
    rw [Bool.not_eq_true] at hfresh
    cases outcome <;> simp [hphase, hfresh]

/-- The first attempt decides. -/
theorem Steady.run_bound_iff {s : DatagramSender} (h : s.Steady)
    (events : List (ConnectorEvent Bytes)) :
    (s.run events).phase = .bound ↔
      s.phase = .bound ∨
        s.started = false ∧ events.findSome? ConnectorEvent.outcome? = some (.ok ()) := by
  induction events generalizing s with
  | nil =>
    change s.phase = .bound ↔ _
    simp
  | cons e events ih =>
    rw [run_cons, ih (h.react e), List.findSome?_cons]
    cases he : e.outcome? with
    | none =>
      obtain ⟨hphase, hstarted⟩ := s.react_phase he
      rw [hphase, hstarted]
    | some outcome =>
      rw [ConnectorEvent.outcome?_eq_some.mp he]
      change (s.bind outcome).phase = .bound ∨ (s.bind outcome).started = false ∧ _ ↔ _
      obtain ⟨hphase, hstarted⟩ := h.bind_bound_iff outcome
      simp [hphase, hstarted]

theorem react_ended {s : DatagramSender} {e : ConnectorEvent Bytes}
    (hended : (s.react e).ended = true) : s.ended = true ∨ e = .transport .finished := by
  cases e with
  | submit => exact Or.inl hended
  | transport e =>
    cases e with
    | attempt outcome =>
      rw [react, step, DatagramSender.bind] at hended
      split at hended
      · exact Or.inl hended
      · cases outcome <;> exact Or.inl hended
    | take => exact Or.inl (s.take_cases.kept.2.symm.trans hended)
    | written ok => exact Or.inl ((s.written_kept ok).2.symm.trans hended)
    | inbound | lost => exact Or.inl hended
    | finished => exact Or.inr rfl

/-- A sender ends only when the last producer has gone away. -/
theorem run_ended {s : DatagramSender} {events : List (ConnectorEvent Bytes)}
    (hended : (s.run events).ended = true) : s.ended = true ∨ .transport .finished ∈ events := by
  induction events generalizing s with
  | nil => exact Or.inl hended
  | cons e events ih =>
    rcases ih hended with hended | hmem
    · rcases react_ended hended with hended | rfl
      · exact Or.inl hended
      · exact Or.inr (List.mem_cons_self ..)
    · exact Or.inr (List.mem_cons_of_mem e hmem)

theorem Steady.ended_finished {s : DatagramSender} (h : s.Steady) (hphase : s.phase ≠ .bound)
    (hstarted : s.started = true) : s.finished.ended = true := by
  obtain ⟨_, hitems, hsending⟩ := h.idle_of_unbound hphase
  rw [DatagramSender.finished]
  split
  next => rfl
  next hwaits => simpa [isServing, hstarted, hitems, hsending] using hwaits

/-! ## Messages that are refused -/

theorem Steady.submit_iff {s : DatagramSender} (h : s.Steady) (message : Bytes) :
    (s.queue.submit message).2 = true ↔
      s.phase = .bound ∧ s.ended = false ∧ s.queue.items.length < s.queue.capacity := by
  rw [DeliveryQueue.submit_snd, DeliveryQueue.accepts, Bool.and_eq_true, Bool.and_eq_true,
    h.ready, h.closed, decide_eq_true_iff, Bool.not_eq_true']
  constructor
  · rintro ⟨⟨⟨hphase, hgoing⟩, _⟩, hroom⟩
    exact ⟨hphase, hgoing, hroom⟩
  · rintro ⟨hphase, hgoing, hroom⟩
    exact ⟨⟨⟨hphase, hgoing⟩, hgoing⟩, hroom⟩

/-- While the collector has not been found, a message that is handed over is refused, and nothing
else becomes of any. -/
theorem Steady.acts_of_unbound {s : DatagramSender} (h : s.Steady) (hphase : s.phase ≠ .bound)
    (e : ConnectorEvent Bytes) : s.acts e = e.submitted?.toList.map .refused := by
  obtain ⟨_, hitems, hsending⟩ := h.idle_of_unbound hphase
  cases e with
  | submit message =>
    have hrefused : ¬(s.queue.submit message).2 = true := by
      rw [h.submit_iff]
      exact fun hbound => hphase hbound.1
    rw [acts, if_neg hrefused]
    rfl
  | transport e =>
    cases e with
    | take => simp [acts, givenUp?, hitems, ConnectorEvent.submitted?]
    | written => simp [acts, hsending, ConnectorEvent.submitted?]
    | attempt | inbound | lost | finished => rfl

theorem Steady.history_of_unbound {s : DatagramSender} (h : s.Steady)
    {events : List (ConnectorEvent Bytes)} (hphase : (s.run events).phase ≠ .bound) :
    s.history events = (events.filterMap ConnectorEvent.submitted?).map .refused := by
  induction events generalizing s with
  | nil => rfl
  | cons e events ih =>
    have hbefore : s.phase ≠ .bound :=
      fun hbound => hphase ((h.run_bound_iff _).mpr (Or.inl hbound))
    rw [history, h.acts_of_unbound hbefore, ih (h.react e) hphase, filterMap_submitted?_cons,
      List.map_append]

theorem react_accepted (s : DatagramSender) (e : ConnectorEvent Bytes) :
    ((s.acts e).filterMap accepted?).Sublist e.submitted?.toList := by
  cases e with
  | submit message =>
    rw [acts]
    split
    · exact .refl _
    · exact List.nil_sublist _
  | transport e =>
    have hnone : (s.acts (.transport e)).filterMap accepted? = [] := by
      cases e with
      | take => cases hgiven : s.givenUp? <;> simp [acts, hgiven, List.filterMap_cons, accepted?]
      | written ok =>
        cases hsending : s.sending <;> simp [acts, hsending, List.filterMap_cons, accepted?]
      | attempt | inbound | lost | finished => rfl
    rw [hnone]
    exact List.nil_sublist _

/-- Messages are accepted in the order in which they are handed over. -/
theorem accepted_sublist (s : DatagramSender) (events : List (ConnectorEvent Bytes)) :
    ((s.history events).filterMap accepted?).Sublist
      (events.filterMap ConnectorEvent.submitted?) := by
  induction events generalizing s with
  | nil => exact List.nil_sublist _
  | cons e events ih =>
    rw [history, List.filterMap_append, filterMap_submitted?_cons]
    exact (s.react_accepted e).append (ih (s.react e))

/-! ## Sending what waits -/

/-- The sender's own steps: what is being sent is done, with the next of these outcomes, and the
next message is taken. -/
def turns (outcomes : List Bool) : List (ConnectorEvent Bytes) :=
  outcomes.flatMap fun ok => [.transport (.written ok), .transport .take]

theorem Take.tail {s s' : DatagramSender} {acts : List (DeliveryAct Bytes)} (htake : Take s acts s')
    (hserving : s.isServing = true) :
    s'.queue.items = s.queue.items.tail ∧ (s.queue.items = [] → s'.sending = none) := by
  cases htake with
  | waits hnone =>
    rw [hnone hserving]
    exact ⟨rfl, fun _ => (isServing_iff.mp hserving).2⟩
  | sends message items d _ hitems =>
    rw [hitems]
    exact ⟨rfl, fun hnil => by cases hnil⟩
  | givesUp message items _ hitems =>
    rw [hitems]
    exact ⟨rfl, fun hnil => by cases hnil⟩

/-- One turn takes one message from the queue of a sender that has found the collector. -/
theorem Steady.turn {s : DatagramSender} (h : s.Steady) (hphase : s.phase = .bound)
    (hgoing : s.ended = false) (ok : Bool) :
    let s' := (s.written ok).take
    (s'.Steady ∧ s'.phase = .bound ∧ s'.ended = false) ∧ s'.queue.items = s.queue.items.tail ∧
      (s.queue.items = [] → s'.sending = none) := by
  obtain ⟨⟨hphase', hstarted'⟩, hended'⟩ := s.written_kept ok
  have hwritten : (s.written ok).queue.items = s.queue.items ∧ (s.written ok).sending = none := by
    rw [DatagramSender.written]
    split
    next hsending => exact ⟨rfl, hsending⟩
    next => cases ok <;> exact ⟨rfl, rfl⟩
  have hserving : (s.written ok).isServing = true :=
    isServing_iff.mpr ⟨⟨hstarted'.trans (h.started (Or.inl hphase)), hended'.trans hgoing⟩,
      hwritten.2⟩
  have htake := (s.written ok).take_cases
  obtain ⟨⟨hphase'', _⟩, hended''⟩ := htake.kept
  refine ⟨⟨htake.steady (h.written ok), hphase''.trans (hphase'.trans hphase),
    hended''.trans (hended'.trans hgoing)⟩, ?_⟩
  rw [← hwritten.1]
  exact htake.tail hserving

/-- After as many turns as messages wait, and one more, no datagram is due. -/
theorem Steady.run_turns {s : DatagramSender} (h : s.Steady) (hphase : s.phase = .bound)
    (hgoing : s.ended = false) {outcomes : List Bool}
    (hlong : s.queue.items.length < outcomes.length) : (s.run (turns outcomes)).pending = [] := by
  induction outcomes generalizing s with
  | nil => cases hlong
  | cons ok outcomes ih =>
    obtain ⟨⟨hsteady, hphase', hgoing'⟩, htail, hnone⟩ := h.turn hphase hgoing ok
    change ((s.written ok).take.run (turns outcomes)).pending = []
    cases outcomes with
    | nil =>
      have hitems : s.queue.items = [] := List.eq_nil_of_length_eq_zero (Nat.lt_one_iff.mp hlong)
      change (s.written ok).take.pending = []
      rw [pending, hnone hitems, htail, hitems]
      rfl
    | cons ok' outcomes =>
      refine ih hsteady hphase' hgoing' ?_
      rw [htail, List.length_tail]
      rw [List.length_cons] at hlong
      have hpos : 0 < (ok' :: outcomes).length := Nat.succ_pos _
      omega

theorem accepted_turns (outcomes : List Bool) (s : DatagramSender) :
    (s.history (turns outcomes)).filterMap accepted? = [] := by
  have hnone : (turns outcomes).filterMap ConnectorEvent.submitted? = [] := by
    rw [turns, List.filterMap_flatMap]
    simp [ConnectorEvent.submitted?]
  exact List.sublist_nil.mp (hnone ▸ s.accepted_sublist (turns outcomes))

/-! ## Every run -/

/-- A sender forwards what it accepts: what is left of it, what has happened to it, and what has
become of the messages. -/
structure Delivers (s : DatagramSender) (events : List (ConnectorEvent Bytes))
    (history : List (DeliveryAct Bytes)) : Prop where
  /-- The one attempt that counts is the first. -/
  bound : s.phase = .bound ↔ events.findSome? ConnectorEvent.outcome? = some (.ok ())
  /-- From then on until the end, messages are accepted while the queue has room. -/
  accepts : ∀ message, (s.queue.submit message).2 = true ↔
    s.phase = .bound ∧ s.ended = false ∧ s.queue.items.length < s.queue.capacity
  accepted : (history.filterMap accepted?).Sublist (events.filterMap ConnectorEvent.submitted?)
  /-- Of the messages accepted, those that are long enough have one datagram each: the datagrams
  that have been attempted, in the order of the messages, and then those that are due. -/
  attempted : (history.filterMap accepted?).filterMap datagram? =
    (history.filterMap attempted?).map Prod.fst ++ s.pending
  /-- The others are given up. -/
  discarded : (history.filterMap accepted?).filter (fun message => message.length < minLength) =
    history.filterMap discarded? ++ s.queue.items.filter fun message => message.length < minLength
  /-- Nothing waits forever, whatever becomes of the datagrams. -/
  drains : s.phase = .bound → s.ended = false →
    ∀ outcomes : List Bool, s.queue.items.length < outcomes.length →
      (history.filterMap accepted?).filterMap datagram? =
        ((history ++ s.history (turns outcomes)).filterMap attempted?).map Prod.fst
  counts : Connector.Counts {} history s.queue.stats
  /-- A sender ends when the last producer has gone away, with nothing left. -/
  ended : s.ended = true →
    .transport .finished ∈ events ∧ s.queue.items = [] ∧ s.sending = none
  /-- A sender that has not found the collector refuses every message. -/
  refuses : s.phase ≠ .bound → s.queue.ready = false ∧
    history = (events.filterMap ConnectorEvent.submitted?).map .refused
  /-- It ends as soon as the last producer has gone away. -/
  waits : s.phase ≠ .bound → s.started = true → s.finished.ended = true

/-- However producers, the collector and the sender take turns, every message that is accepted
and not too short becomes one datagram, which holds the message without its newline.  No record
is too short. -/
theorem run_delivers (remote : String) (capacity : Nat) (events : List (ConnectorEvent Bytes)) :
    let s : DatagramSender := { remote, queue := { capacity } }
    Delivers (s.run events) events (s.history events) ∧
      (∀ message, (datagram? message = none ↔ message.length < minLength) ∧
        ∀ d, datagram? message = some d →
          message = d ++ [newline] ∨ (message.getLast? ≠ some newline ∧ d = message)) ∧
      ∀ priority stamp source identifier body,
        let record := Record.format priority stamp source identifier body
        ∃ d, datagram? record = some d ∧ d ++ [newline] = record := by
  intro s
  have hsteady : s.Steady := ⟨by simp [s], rfl, by simp [s], fun _ => ⟨rfl, rfl⟩⟩
  have hafter : (s.run events).Steady := hsteady.run events
  have hforwards := hsteady.run_forwards events
  have hdue := hforwards.due
  have hempty : s.pending = [] := rfl
  rw [hempty, List.nil_append] at hdue
  refine ⟨?_, ?_, ?_⟩
  · exact {
      bound := by simp [hsteady.run_bound_iff, s]
      accepts := hafter.submit_iff
      accepted := s.accepted_sublist events
      attempted := hdue
      discarded := hforwards.short
      drains := by
        intro hphase hgoing outcomes hlong
        have hturns := (hafter.run_forwards (turns outcomes)).due
        rw [accepted_turns, hafter.run_turns hphase hgoing hlong, List.filterMap_nil,
          List.append_nil, List.append_nil] at hturns
        rw [hdue, hturns, List.filterMap_append, List.map_append]
      counts := s.run_counts events
      ended := by
        intro hended
        have hready : (s.run events).queue.ready = false := by
          rw [← Bool.not_eq_true, hafter.ready, hended]
          rintro ⟨_, hgoing⟩
          cases hgoing
        exact ⟨(run_ended hended).resolve_left (by simp [s]), hafter.idle hready⟩
      refuses := fun hphase => ⟨(hafter.idle_of_unbound hphase).1,
        hsteady.history_of_unbound hphase⟩
      waits := hafter.ended_finished }
  · intro message
    refine ⟨datagram?_eq_none, ?_⟩
    intro d hdatagram
    rw [datagram?] at hdatagram
    split at hdatagram
    · cases hdatagram
    · cases hdatagram
      exact payload_cases message
  · intro priority stamp source identifier body record
    exact ⟨_, datagram?_record priority stamp source identifier body, rfl⟩

/-- A lone newline is given up, the newline of the second message is not sent, and the
third fails. -/
example :
    let s : DatagramSender := { remote := "", queue := { capacity := 8 } }
    s.history
        [.submit [1], .transport (.attempt (.ok ())), .submit [newline], .submit [1, newline],
          .transport .take, .submit [2, 3], .transport .take, .transport (.written true),
          .transport .inbound, .transport .take, .transport (.written false)] =
      [.refused [1], .accepted [newline], .accepted [1, newline], .discarded [newline],
        .accepted [2, 3], .attempted [1] true, .attempted [2, 3] false] := by
  decide

end DatagramSender

end LogCourier
