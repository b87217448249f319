import LogCourier.Proofs.Delivery.Queue

/-!
# The balance of a transport

Every message that is handed to a transport is written, given up or fails, or else it still
waits in the queue or is being written.  `Transport.load` counts all of these.  Handing messages
over raises it by their number (`load_submitAll`), and nothing that happens to the transport
changes it (`Sound.step`), as long as nothing is left behind where it would be forgotten: that
is what `Transport.Sound` says.
-/

namespace LogCourier

/-- Messages whose fate is settled. -/
def DeliveryStats.settled (s : DeliveryStats) : Nat := s.sent + s.dropped + s.sendErrors

/-! ## Queues -/

namespace DeliveryQueue

variable {α : Type}

/-- All messages handed over, apart from the one that has been taken and is being written. -/
def load (q : DeliveryQueue α) : Nat := q.stats.settled + q.items.length

@[simp] theorem load_setReady (q : DeliveryQueue α) (ready : Bool) :
    (q.setReady ready).load = q.load := rfl

@[simp] theorem load_countAttempt (q : DeliveryQueue α) : q.countAttempt.load = q.load := rfl

@[simp] theorem load_countDropped (q : DeliveryQueue α) (n : Nat) :
    (q.countDropped n).load = q.load + n := by
  simp only [load, countDropped, DeliveryStats.settled]
  omega

@[simp] theorem load_countSent (q : DeliveryQueue α) : q.countSent.load = q.load + 1 := by
  simp only [load, countSent, DeliveryStats.settled]
  omega

@[simp] theorem load_countSendError (q : DeliveryQueue α) :
    q.countSendError.load = q.load + 1 := by
  simp only [load, countSendError, DeliveryStats.settled]
  omega

@[simp] theorem load_discard (q : DeliveryQueue α) : q.discard.1.load = q.load := by
  rw [discard, load_countDropped]
  rfl

/-- Closing a queue forgets what is in it, without counting it. -/
theorem load_close {q : DeliveryQueue α} (h : q.items = []) : q.close.load = q.load := by
  rw [load, load, h]
  rfl

theorem load_receive? {q q' : DeliveryQueue α} {a : α} (h : q.receive? = some (a, q')) :
    q.load = q'.load + 1 := by
  rw [receive?] at h
  split at h
  next => cases h
  next a items hitems =>
    cases h
    rw [load, load, hitems, List.length_cons, Nat.add_assoc]

theorem load_submit (q : DeliveryQueue α) (a : α) : (q.submit a).1.load = q.load + 1 := by
  rw [submit]
  split
  · rw [load, load, List.length_append, List.length_singleton, Nat.add_assoc]
  · exact q.load_countDropped 1

theorem load_submitAll (q : DeliveryQueue α) (as : List α) :
    (q.submitAll as).1.load = q.load + as.length := by
  induction as generalizing q with
  | nil => rfl
  | cons a as ih =>
    rw [submitAll, List.length_cons]
    simp only
    rw [ih, load_submit]
    omega

end DeliveryQueue

/-! ## Connectors -/

namespace Connector

variable {α : Type}

/-- All messages handed over. -/
def load (c : Connector α) : Nat := c.queue.load + c.writing.toList.length

/-- Without a connection nothing is taken, nothing waits and nothing is being written. -/
structure Sound (c : Connector α) : Prop where
  idle : c.phase ≠ .established → c.queue.ready = false ∧ c.queue.items = [] ∧ c.writing = none
  ended : c.ended.isSome → c.phase ≠ .established

theorem Sound.attempt {c : Connector α} (h : c.Sound) (outcome : Except ReachError Unit) :
    (c.attempt outcome).Sound ∧ (c.attempt outcome).load = c.load := by
  rw [Connector.attempt]
  split
  next => exact ⟨h, rfl⟩
  next hbusy =>
    obtain ⟨hgoing, hphase⟩ := not_or.mp hbusy
    obtain ⟨hready, hitems, hwriting⟩ := h.idle hphase
    cases outcome with
    | ok =>
      exact ⟨⟨fun hne => absurd rfl hne, fun hended => absurd hended hgoing⟩, rfl⟩
    | error e =>
      simp only
      split
      next =>
        constructor
        · exact ⟨fun _ => ⟨hready, rfl, hwriting⟩, fun _ => by simp⟩
        · rw [load, load, DeliveryQueue.load_close (q := c.queue.countAttempt) hitems,
            DeliveryQueue.load_countAttempt]
      next =>
        refine ⟨⟨fun _ => ⟨hready, hitems, hwriting⟩, ?_⟩, rfl⟩
        intro hended
        cases hended

theorem isServing_iff {c : Connector α} :
    c.isServing = true ↔ c.phase = .established ∧ c.writing = none := by
  rw [isServing, Bool.and_eq_true, decide_eq_true_iff, Option.isNone_iff_eq_none]

theorem Sound.take {c : Connector α} (h : c.Sound) : c.take.Sound ∧ c.take.load = c.load := by
  rw [Connector.take]
  split
  next => exact ⟨h, rfl⟩
  next hserving =>
    obtain ⟨hphase, hwriting⟩ := isServing_iff.mp (by simpa using hserving)
    split
    next => exact ⟨h, rfl⟩
    next a queue hreceive =>
      constructor
      · exact ⟨fun hne => absurd hphase hne, h.ended⟩
      · rw [load, load, hwriting, DeliveryQueue.load_receive? hreceive]
        rfl

theorem Sound.written {c : Connector α} (h : c.Sound) (ok : Bool) :
    (c.written ok).Sound ∧ (c.written ok).load = c.load := by
  rw [Connector.written]
  split
  next => exact ⟨h, rfl⟩
  next a hwriting =>
    constructor
    · refine ⟨?_, h.ended⟩
      intro hne
      rw [(h.idle hne).2.2] at hwriting
      cases hwriting
    · rw [load, load, hwriting]
      cases ok with
      | true => exact c.queue.load_countSent
      | false => exact c.queue.load_countSendError

theorem Sound.lost {c : Connector α} (h : c.Sound) : c.lost.Sound ∧ c.lost.load = c.load := by
  rw [Connector.lost]
  split
  next => exact ⟨h, rfl⟩
  next hserving =>
    obtain ⟨hphase, hwriting⟩ := isServing_iff.mp (by simpa using hserving)
    constructor
    · exact ⟨fun _ => ⟨rfl, rfl, hwriting⟩, fun _ => by simp⟩
    · rw [load, load, DeliveryQueue.load_discard, DeliveryQueue.load_setReady]

theorem Sound.finished {c : Connector α} (h : c.Sound) :
    c.finished.Sound ∧ c.finished.load = c.load := by
  rw [Connector.finished]
  split
  next hdone =>
    obtain ⟨hserving, hempty⟩ := Bool.and_eq_true_iff.mp hdone
    obtain ⟨hphase, hwriting⟩ := isServing_iff.mp hserving
    have hitems : c.queue.items = [] := List.isEmpty_iff.mp hempty
    constructor
    · exact ⟨fun _ => ⟨rfl, rfl, hwriting⟩, fun _ => by simp⟩
    · rw [load, load, DeliveryQueue.load_close (q := c.queue.setReady false) hitems,
        DeliveryQueue.load_setReady]
  next => exact ⟨h, rfl⟩

theorem Sound.step {c : Connector α} (h : c.Sound) (e : TransportEvent) :
    (c.step e).Sound ∧ (c.step e).load = c.load := by
  cases e with
  | attempt outcome => exact h.attempt outcome
  | take => exact h.take
  | written ok => exact h.written ok
  | inbound => exact ⟨h, rfl⟩
  | lost => exact h.lost
  | finished => exact h.finished

theorem Sound.submitAll {c : Connector α} (h : c.Sound) (messages : List α) :
    Sound { c with queue := (c.queue.submitAll messages).1 } := by
  refine ⟨?_, h.ended⟩
  intro hne
  obtain ⟨hready, hitems, hwriting⟩ := h.idle hne
  obtain ⟨stats, heq⟩ := DeliveryQueue.submitAll_of_refusing (Or.inl hready) messages
  rw [heq]
  exact ⟨hready, hitems, hwriting⟩

end Connector

/-! ## Datagrams -/

namespace DatagramSender

/-- All messages handed over. -/
def load (s : DatagramSender) : Nat := s.queue.load + s.sending.toList.length

/-- When the sender has ended, nothing waits and nothing is being sent. -/
structure Sound (s : DatagramSender) : Prop where
  ended : s.ended = true → s.queue.closed = true ∧ s.queue.items = [] ∧ s.sending = none

theorem Sound.bind {s : DatagramSender} (h : s.Sound) (outcome : Except ReachError Unit) :
    (s.bind outcome).Sound ∧ (s.bind outcome).load = s.load := by
  rw [DatagramSender.bind]
  split
  · exact ⟨h, rfl⟩
  · cases outcome with
    | ok => exact ⟨⟨h.ended⟩, rfl⟩
    | error e => exact ⟨⟨h.ended⟩, rfl⟩

theorem isServing_iff {s : DatagramSender} :
    s.isServing = true ↔ (s.started = true ∧ s.ended = false) ∧ s.sending = none := by
  rw [isServing, Bool.and_eq_true, Bool.and_eq_true, Bool.not_eq_true', Option.isNone_iff_eq_none]

theorem Sound.take {s : DatagramSender} (h : s.Sound) : s.take.Sound ∧ s.take.load = s.load := by
  rw [DatagramSender.take]
  split
  next => exact ⟨h, rfl⟩
  next hserving =>
    obtain ⟨⟨_, hgoing⟩, hsending⟩ := isServing_iff.mp (by simpa using hserving)
    split
    next => exact ⟨h, rfl⟩
    next message queue hreceive =>
      split
      next d hphase hdatagram =>
        constructor
        · exact ⟨fun hended => absurd hended (by simp [hgoing])⟩
        · rw [load, load, hsending, DeliveryQueue.load_receive? hreceive]
          rfl
      next =>
        constructor
        · exact ⟨fun hended => absurd hended (by simp [hgoing])⟩
        · rw [load, load, DeliveryQueue.load_countDropped, DeliveryQueue.load_receive? hreceive]

theorem Sound.written {s : DatagramSender} (h : s.Sound) (ok : Bool) :
    (s.written ok).Sound ∧ (s.written ok).load = s.load := by
  rw [DatagramSender.written]
  split
  next => exact ⟨h, rfl⟩
  next d hsending =>
    constructor
    · constructor
      intro hended
      rw [(h.ended hended).2.2] at hsending
      cases hsending
    · rw [load, load, hsending]
      cases ok with
      | true => exact s.queue.load_countSent
      | false => exact s.queue.load_countSendError

theorem Sound.finished {s : DatagramSender} (h : s.Sound) :
    s.finished.Sound ∧ s.finished.load = s.load := by
  rw [DatagramSender.finished]
  split
  next hdone =>
    obtain ⟨hserving, hempty⟩ := Bool.and_eq_true_iff.mp hdone
    obtain ⟨_, hsending⟩ := isServing_iff.mp hserving
    have hitems : s.queue.items = [] := List.isEmpty_iff.mp hempty
    constructor
    · exact ⟨fun _ => ⟨rfl, rfl, hsending⟩⟩
    · rw [load, load]
      split
      · rw [DeliveryQueue.load_close (q := s.queue.setReady false) hitems,
          DeliveryQueue.load_setReady]
      · rw [DeliveryQueue.load_close hitems]
  next => exact ⟨h, rfl⟩

theorem Sound.step {s : DatagramSender} (h : s.Sound) (e : TransportEvent) :
    (s.step e).Sound ∧ (s.step e).load = s.load := by
  cases e with
  | attempt outcome => exact h.bind outcome
  | take => exact h.take
  | written ok => exact h.written ok
  | inbound => exact ⟨h, rfl⟩
  | lost => exact ⟨h, rfl⟩
  | finished => exact h.finished

theorem Sound.submitAll {s : DatagramSender} (h : s.Sound) (messages : List Bytes) :
    Sound { s with queue := (s.queue.submitAll messages).1 } := by
  constructor
  intro hended
  obtain ⟨hclosed, hitems, hsending⟩ := h.ended hended
  obtain ⟨stats, heq⟩ := DeliveryQueue.submitAll_of_refusing (Or.inr hclosed) messages
  rw [heq]
  exact ⟨hclosed, hitems, hsending⟩

end DatagramSender

/-! ## Transports -/

namespace Transport

/-- All messages handed over. -/
def load (t : Transport) : Nat := t.queue.load + t.writing.toList.length

def Sound : Transport → Prop
  | .stream c => c.Sound
  | .datagram s => s.Sound

theorem sound_new (s : Settings) : (new s).Sound ∧ (new s).load = 0 := by
  rw [new]
  cases s.protocol with
  | tcp => exact ⟨⟨fun _ => ⟨rfl, rfl, rfl⟩, nofun⟩, rfl⟩
  | udp => exact ⟨⟨nofun⟩, rfl⟩

theorem Sound.step {t : Transport} (h : t.Sound) (e : TransportEvent) :
    (t.step e).Sound ∧ (t.step e).load = t.load := by
  cases t with
  | stream c => exact Connector.Sound.step h e
  | datagram s => exact DatagramSender.Sound.step h e

theorem Sound.submitAll {t : Transport} (h : t.Sound) (messages : List Bytes) :
    (t.submitAll messages).Sound := by
  cases t with
  | stream c => exact Connector.Sound.submitAll h messages
  | datagram s => exact DatagramSender.Sound.submitAll h messages

theorem load_submitAll (t : Transport) (messages : List Bytes) :
    (t.submitAll messages).load = t.load + messages.length := by
  have hqueue : (t.submitAll messages).queue = (t.queue.submitAll messages).1 ∧
      (t.submitAll messages).writing = t.writing := by
    cases t <;> exact ⟨rfl, rfl⟩
  rw [load, load, hqueue.1, hqueue.2, DeliveryQueue.load_submitAll]
  omega

/-- A transport that has ended has nothing left to write. -/
theorem Sound.eq_settled {t : Transport} (h : t.Sound) (hended : t.ended.isSome) :
    t.queue.items = [] ∧ t.writing = none := by
  cases t with
  | stream c =>
    obtain ⟨_, hitems, hwriting⟩ := Connector.Sound.idle h (Connector.Sound.ended h hended)
    exact ⟨hitems, hwriting⟩
  | datagram s =>
    have htrue : s.ended = true := by
      apply Decidable.by_contra
      intro hgoing
      rw [ended, if_neg hgoing] at hended
      cases hended
    obtain ⟨_, hitems, hsending⟩ := DatagramSender.Sound.ended h htrue
    exact ⟨hitems, hsending⟩

end Transport

end LogCourier
