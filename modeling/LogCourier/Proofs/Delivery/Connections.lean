import LogCourier.Proofs.Delivery.Balance

/-!
# Connections

The messages that a connector accepts while a connection stands belong to this connection.  They are
written in the order in which they were accepted, and none of them is written on another connection:
what has not been written when the connection ends is given up (`Connector.run_keptApart`).

`Connector.acts` says what becomes of messages in a step, and `Connector.Course` what the step does
to the connection: one begins with nothing, stays, or ends with nothing left.  From this
`Connector.Booked` follows for every history.
-/

namespace LogCourier

/-- What happens to a connector to which producers hand messages over. -/
inductive ConnectorEvent (α : Type)
  /-- A producer hands a message over. -/
  | submit (a : α)
  | transport (e : TransportEvent)

def ConnectorEvent.submitted? {α : Type} : ConnectorEvent α → Option α
  | .submit a => some a
  | .transport _ => none

theorem filterMap_submitted?_cons {α : Type} (e : ConnectorEvent α)
    (events : List (ConnectorEvent α)) :
    (e :: events).filterMap ConnectorEvent.submitted? =
      e.submitted?.toList ++ events.filterMap ConnectorEvent.submitted? := by
  rw [List.filterMap_cons]
  cases e.submitted? <;> rfl

/-- What becomes of a message. -/
inductive DeliveryAct (α : Type)
  | accepted (a : α)
  | refused (a : α)
  /-- The message has been written, or writing it has failed. -/
  | attempted (a : α) (ok : Bool)
  | discarded (a : α)
deriving DecidableEq, Repr

namespace DeliveryAct

variable {α : Type}

def accepted? : DeliveryAct α → Option α
  | .accepted a => some a
  | _ => none

def attempted? : DeliveryAct α → Option (α × Bool)
  | .attempted a ok => some (a, ok)
  | _ => none

def discarded? : DeliveryAct α → Option α
  | .discarded a => some a
  | _ => none

def isSent : DeliveryAct α → Bool
  | .attempted _ ok => ok
  | _ => false

def isFailed : DeliveryAct α → Bool
  | .attempted _ ok => !ok
  | _ => false

def isDropped : DeliveryAct α → Bool
  | .refused _ | .discarded _ => true
  | _ => false

end DeliveryAct

namespace Connector

open DeliveryAct

variable {α : Type}

/-! ## Acts -/

/-- The number of the connection that stands. -/
def connection? (c : Connector α) : Option Nat :=
  if c.phase = .established then some c.queue.stats.connections else none

def react (c : Connector α) : ConnectorEvent α → Connector α
  | .submit a => { c with queue := (c.queue.submit a).1 }
  | .transport e => c.step e

/-- What becomes of messages in a step. -/
def acts (c : Connector α) : ConnectorEvent α → List (DeliveryAct α)
  | .submit a => [if (c.queue.submit a).2 then .accepted a else .refused a]
  | .transport (.written ok) => c.writing.toList.map fun a => .attempted a ok
  | .transport .lost => if c.isServing then c.queue.items.map .discarded else []
  | .transport _ => []

def run (c : Connector α) (events : List (ConnectorEvent α)) : Connector α := events.foldl react c

/-- All acts of a run, each with the number of the connection that stands when it happens. -/
def history (c : Connector α) : List (ConnectorEvent α) → List (Option Nat × DeliveryAct α)
  | [] => []
  | e :: events => ((c.acts e).map fun act => (c.connection?, act)) ++ history (c.react e) events

/-- The acts while a connection stands. -/
def during (k : Nat) (history : List (Option Nat × DeliveryAct α)) : List (DeliveryAct α) :=
  (history.filter fun p => p.1 = some k).map Prod.snd

/-- The messages accepted while a connection stands, in the order in which they are handed over. -/
def acceptedOn (k : Nat) (history : List (Option Nat × DeliveryAct α)) : List α :=
  (during k history).filterMap accepted?

/-- The messages of which the writing ends on a connection, in their order, and whether
it succeeds. -/
def attemptedOn (k : Nat) (history : List (Option Nat × DeliveryAct α)) : List (α × Bool) :=
  (during k history).filterMap attempted?

def writtenOn (k : Nat) (history : List (Option Nat × DeliveryAct α)) : List α :=
  ((attemptedOn k history).filter Prod.snd).map Prod.fst

def discardedOn (k : Nat) (history : List (Option Nat × DeliveryAct α)) : List α :=
  (during k history).filterMap discarded?

/-- The message that is being written, and those that wait. -/
def contents (c : Connector α) : List α := c.writing.toList ++ c.queue.items

/-! ## What a step does to the connection -/

/-- What is accepted joins the contents, and what is attempted or discarded leaves them, in
this order. -/
def Passes (c : Connector α) (acts : List (DeliveryAct α)) (c' : Connector α) : Prop :=
  c.contents ++ acts.filterMap accepted? =
    (acts.filterMap attempted?).map Prod.fst ++ (acts.filterMap discarded? ++ c'.contents)

/-- A connection begins, ends, or stays as it is; the same goes for its absence. -/
inductive Course (c : Connector α) (acts : List (DeliveryAct α)) (c' : Connector α) : Prop
  | begins (hbefore : c.connection? = none) (hacts : acts = [])
      (hafter : c'.connection? = some (c.queue.stats.connections + 1))
      (hnumber : c'.queue.stats.connections = c.queue.stats.connections + 1)
      (hcontents : c'.contents = []) (hended : c'.ended = none)
  | stays (hsame : c'.connection? = c.connection?)
      (hnumber : c'.queue.stats.connections = c.queue.stats.connections)
      (hpasses : Passes c acts c') (hdiscarded : acts.filterMap discarded? = [])
      (hended : c'.ended = some (.ok ()) → c.ended = some (.ok ()))
  | ends (hbefore : c.connection? = some c.queue.stats.connections) (hafter : c'.connection? = none)
      (hnumber : c'.queue.stats.connections = c.queue.stats.connections)
      (hpasses : Passes c acts c') (hcontents : c'.contents = [])
      (hended : c'.ended = some (.ok ()) → acts.filterMap discarded? = [])

theorem connection?_eq_none {c : Connector α} : c.connection? = none ↔ c.phase ≠ .established := by
  rw [connection?]
  split <;> simp [*]

theorem connection?_eq_some {c : Connector α} {k : Nat} :
    c.connection? = some k ↔ c.phase = .established ∧ c.queue.stats.connections = k := by
  rw [connection?]
  split <;> simp [*]

theorem Sound.contents_eq_nil {c : Connector α} (h : c.Sound) (hnone : c.connection? = none) :
    c.contents = [] := by
  obtain ⟨_, hitems, hwriting⟩ := h.idle (connection?_eq_none.mp hnone)
  rw [contents, hitems, hwriting]
  rfl

/-- A step that leaves the contents and the connection as they are. -/
theorem Course.unchanged {c c' : Connector α} (hsame : c'.connection? = c.connection?)
    (hnumber : c'.queue.stats.connections = c.queue.stats.connections)
    (hcontents : c'.contents = c.contents)
    (hended : c'.ended = some (.ok ()) → c.ended = some (.ok ())) : Course c [] c' :=
  .stays hsame hnumber (by rw [Passes, hcontents]; exact List.append_nil _) rfl hended

theorem Course.refl (c : Connector α) : Course c [] c := .unchanged rfl rfl rfl id

theorem submit_course (c : Connector α) (a : α) :
    Course c (c.acts (.submit a)) (c.react (.submit a)) := by
  rw [acts, react, DeliveryQueue.submit]
  split
  · refine .stays rfl rfl ?_ rfl id
    change (c.writing.toList ++ c.queue.items) ++ [a] = c.writing.toList ++ (c.queue.items ++ [a])
    exact List.append_assoc _ _ _
  · refine .stays rfl rfl ?_ rfl id
    change c.contents ++ [] = c.contents
    exact List.append_nil _

theorem Sound.attempt_course {c : Connector α} (h : c.Sound) (outcome : Except ReachError Unit) :
    Course c [] (c.attempt outcome) := by
  rw [Connector.attempt]
  split
  next => exact .refl c
  next hbusy =>
    obtain ⟨hgoing, hphase⟩ := not_or.mp hbusy
    have hnone := connection?_eq_none.mpr hphase
    cases outcome with
    | ok =>
      have hended : c.ended = none := Option.not_isSome_iff_eq_none.mp hgoing
      exact .begins hnone rfl rfl rfl (h.contents_eq_nil hnone) hended
    | error e =>
      simp only
      split
      · refine .unchanged ?_ rfl ?_ (by simp)
        · rw [hnone]
          rfl
        · rw [h.contents_eq_nil hnone, contents, (h.idle hphase).2.2]
          rfl
      · exact .unchanged (by rw [hnone]; rfl) rfl rfl (by simp)

theorem take_course (c : Connector α) : Course c [] c.take := by
  rw [take]
  split
  next => exact .refl c
  next hserving =>
    obtain ⟨_, hwriting⟩ := isServing_iff.mp (by simpa using hserving)
    rw [DeliveryQueue.receive?]
    cases hitems : c.queue.items with
    | nil => exact .refl c
    | cons a items =>
      refine .unchanged rfl rfl ?_ id
      rw [contents, contents, hwriting, hitems]
      rfl

theorem written_course (c : Connector α) (ok : Bool) :
    Course c (c.acts (.transport (.written ok))) (c.written ok) := by
  rw [acts, written]
  cases hwriting : c.writing with
  | none => exact .refl c
  | some a =>
    have hpasses (c' : Connector α) (h : c'.contents = c.queue.items) :
        Passes c [.attempted a ok] c' := by
      rw [Passes, h, contents, hwriting]
      exact List.append_nil _
    cases ok with
    | true => exact .stays rfl rfl (hpasses _ rfl) rfl id
    | false => exact .stays rfl rfl (hpasses _ rfl) rfl id

theorem Sound.not_ended {c : Connector α} (h : c.Sound) (hphase : c.phase = .established) :
    c.ended = none := by
  rw [← Option.not_isSome_iff_eq_none]
  exact fun hended => h.ended hended hphase

theorem Sound.lost_course {c : Connector α} (h : c.Sound) :
    Course c (c.acts (.transport .lost)) c.lost := by
  cases hserving : c.isServing with
  | false =>
    rw [acts, Connector.lost, hserving]
    exact .refl c
  | true =>
    obtain ⟨hphase, hwriting⟩ := isServing_iff.mp hserving
    have hacts : c.acts (.transport .lost) = c.queue.items.map .discarded := by
      rw [acts, if_pos hserving]
    have hlost : c.lost =
        { c with phase := .uninitialized, queue := (c.queue.setReady false).discard.1 } := by
      rw [Connector.lost, hserving]
      rfl
    have hgone : (c.queue.items.map DeliveryAct.discarded).filterMap discarded? = c.queue.items :=
      List.filterMap_map.trans List.filterMap_some
    have hnone {β : Type} (f : DeliveryAct α → Option β) (hf : ∀ a, f (.discarded a) = none) :
        (c.queue.items.map DeliveryAct.discarded).filterMap f = [] := by
      simp [hf]
    have hempty : c.lost.contents = [] := by
      rw [hlost, contents, hwriting]
      rfl
    refine .ends (connection?_eq_some.mpr ⟨hphase, rfl⟩) ?_ (by rw [hlost]; rfl) ?_ hempty ?_
    · rw [hlost]
      rfl
    · rw [Passes, hempty, hacts, hgone, hnone accepted? fun _ => rfl, hnone attempted? fun _ => rfl,
        contents, hwriting]
      rfl
    · intro hended
      rw [hlost] at hended
      have hnot := h.not_ended hphase
      rw [hnot] at hended
      cases hended

theorem finished_course (c : Connector α) : Course c [] c.finished := by
  rw [finished]
  split
  next hdone =>
    obtain ⟨hserving, hempty⟩ := Bool.and_eq_true_iff.mp hdone
    obtain ⟨hphase, hwriting⟩ := isServing_iff.mp hserving
    have hcontents : c.contents = [] := by
      rw [contents, hwriting, List.isEmpty_iff.mp hempty]
      rfl
    have hafter : c.writing.toList ++ [] = ([] : List α) := by
      rw [hwriting]
      rfl
    refine .ends (connection?_eq_some.mpr ⟨hphase, rfl⟩) rfl rfl ?_ hafter fun _ => rfl
    rw [Passes, hcontents]
    exact hafter.symm
  next => exact .refl c

/-- Every step lets a connection begin, end or stay. -/
theorem Sound.course {c : Connector α} (h : c.Sound) (e : ConnectorEvent α) :
    Course c (c.acts e) (c.react e) := by
  cases e with
  | submit a => exact c.submit_course a
  | transport e =>
    cases e with
    | attempt outcome => exact h.attempt_course outcome
    | take => exact c.take_course
    | written ok => exact c.written_course ok
    | inbound => exact .refl c
    | lost => exact h.lost_course
    | finished => exact c.finished_course

theorem Sound.react {c : Connector α} (h : c.Sound) (e : ConnectorEvent α) : (c.react e).Sound := by
  cases e with
  | submit a => exact h.submitAll [a]
  | transport e => exact (h.step e).1

/-! ## The books of the connections -/

theorem during_append (k : Nat) (xs ys : List (Option Nat × DeliveryAct α)) :
    during k (xs ++ ys) = during k xs ++ during k ys := by
  rw [during, List.filter_append, List.map_append]
  rfl

theorem during_tagged (k : Nat) (acts : List (DeliveryAct α)) :
    during k (acts.map fun act => (some k, act)) = acts := by
  rw [during, List.filter_eq_self.mpr (by simp), List.map_map]
  exact List.map_id acts

theorem during_append_tagged {k : Nat} {n : Option Nat} (hn : n ≠ some k)
    (xs : List (Option Nat × DeliveryAct α)) (acts : List (DeliveryAct α)) :
    during k (xs ++ acts.map fun act => (n, act)) = during k xs := by
  have hnone : during k (acts.map fun act => (n, act)) = [] := by
    rw [during, List.filter_eq_nil_iff.mpr (by simp [hn])]
    rfl
  rw [during_append, hnone, List.append_nil]

/-- What has been accepted on each connection is what has been attempted on it, followed by what has
been given up with it, or by what is still there while it stands. -/
structure Booked (c : Connector α) (history : List (Option Nat × DeliveryAct α)) : Prop where
  later : ∀ k, c.queue.stats.connections < k → during k history = []
  settled : ∀ k, acceptedOn k history = (attemptedOn k history).map Prod.fst ++
    (discardedOn k history ++ if c.connection? = some k then c.contents else [])
  lasting : ∀ k, c.connection? = some k → discardedOn k history = []
  ended : c.ended = some (.ok ()) → discardedOn c.queue.stats.connections history = []

section

variable {c c' : Connector α} {history : List (Option Nat × DeliveryAct α)}
    {acts : List (DeliveryAct α)}

/-- What has been settled stays so, if the contents go over from one connector to the other. -/
theorem Booked.settled_append (h : Booked c history) (hpasses : Passes c acts c') {k : Nat}
    (hcontents : (if c'.connection? = some k then c'.contents else []) =
      if c.connection? = some k then c'.contents else []) :
    let history' := history ++ acts.map fun act => (c.connection?, act)
    acceptedOn k history' = (attemptedOn k history').map Prod.fst ++
      (discardedOn k history' ++ if c'.connection? = some k then c'.contents else []) := by
  intro history'
  have hsettled := h.settled k
  rw [hcontents]
  by_cases hk : c.connection? = some k
  · have hnow : during k history' = during k history ++ acts := by
      rw [during_append, hk, during_tagged]
    rw [h.lasting k hk, if_pos hk, List.nil_append] at hsettled
    have hnone : (during k history).filterMap discarded? = [] := h.lasting k hk
    rw [acceptedOn, attemptedOn, discardedOn, hnow, if_pos hk, List.filterMap_append,
      List.filterMap_append, List.filterMap_append, List.map_append, hnone, List.nil_append,
      List.append_assoc, ← hpasses, ← List.append_assoc]
    exact congrArg (· ++ acts.filterMap accepted?) hsettled
  · rw [if_neg hk] at hsettled ⊢
    rw [acceptedOn, attemptedOn, discardedOn, during_append_tagged hk]
    exact hsettled

theorem Booked.course (h : Booked c history) (hcourse : Course c acts c') :
    Booked c' (history ++ acts.map fun act => (c.connection?, act)) := by
  have hlater (hnumber : c.queue.stats.connections ≤ c'.queue.stats.connections) :
      ∀ k, c'.queue.stats.connections < k →
        during k (history ++ acts.map fun act => (c.connection?, act)) = [] := by
    intro k hk
    have hne : c.connection? ≠ some k := by
      intro heq
      have hlast := (connection?_eq_some.mp heq).2
      omega
    rw [during_append_tagged hne]
    exact h.later k (Nat.lt_of_le_of_lt hnumber hk)
  cases hcourse with
  | begins hbefore hacts hafter hnumber hcontents hended =>
    subst hacts
    rw [List.map_nil, List.append_nil] at hlater ⊢
    refine ⟨hlater (by omega), ?_, ?_, ?_⟩
    · intro k
      rw [h.settled k, hbefore, hcontents, if_neg nofun, ite_self]
    · intro k hk
      rw [hafter, Option.some_inj] at hk
      rw [discardedOn, h.later k (by omega)]
      rfl
    · rw [hended]
      exact nofun
  | stays hsame hnumber hpasses hdiscarded hended =>
    have hgone (k : Nat) (hold : discardedOn k history = []) :
        discardedOn k (history ++ acts.map fun act => (c.connection?, act)) = [] := by
      by_cases hk : c.connection? = some k
      · rw [discardedOn, during_append, hk, during_tagged, List.filterMap_append, hdiscarded]
        exact List.append_eq_nil_iff.mpr ⟨hold, rfl⟩
      · rw [discardedOn, during_append_tagged hk]
        exact hold
    refine ⟨hlater (Nat.le_of_eq hnumber.symm), fun k => h.settled_append hpasses (by rw [hsame]),
      ?_, ?_⟩
    · exact fun k hk => hgone k (h.lasting k (hsame ▸ hk))
    · intro hok
      rw [hnumber]
      exact hgone _ (h.ended (hended hok))
  | ends hbefore hafter hnumber hpasses hcontents hended =>
    refine ⟨hlater (Nat.le_of_eq hnumber.symm), fun k => h.settled_append hpasses ?_, ?_, ?_⟩
    · rw [hcontents, ite_self, ite_self]
    · rw [hafter]
      exact nofun
    · intro hok
      have hold : (during c.queue.stats.connections history).filterMap discarded? = [] :=
        h.lasting _ hbefore
      rw [hnumber, discardedOn, during_append, hbefore, during_tagged, List.filterMap_append, hold,
        hended hok]
      rfl

end

/-! ## Runs -/

theorem run_cons (c : Connector α) (e : ConnectorEvent α) (events : List (ConnectorEvent α)) :
    c.run (e :: events) = (c.react e).run events := rfl

theorem Sound.run {c : Connector α} (h : c.Sound) (events : List (ConnectorEvent α)) :
    (c.run events).Sound := by
  induction events generalizing c with
  | nil => exact h
  | cons e events ih => exact ih (h.react e)

theorem Booked.run {c : Connector α} {past : List (Option Nat × DeliveryAct α)} (h : Booked c past)
    (hsound : c.Sound) (events : List (ConnectorEvent α)) :
    Booked (c.run events) (past ++ c.history events) := by
  induction events generalizing c past with
  | nil => rwa [history, List.append_nil]
  | cons e events ih =>
    rw [history, ← List.append_assoc]
    exact ih (h.course (hsound.course e)) (hsound.react e)

/-- Without a connection a message is refused, and nothing else becomes of any. -/
theorem Sound.acts_refused {c : Connector α} (h : c.Sound) (hnone : c.connection? = none)
    (e : ConnectorEvent α) : ∀ act ∈ c.acts e, ∃ a, act = .refused a := by
  obtain ⟨hready, _, hwriting⟩ := h.idle (connection?_eq_none.mp hnone)
  cases e with
  | submit a =>
    have hsubmit : (c.queue.submit a).2 = false := by
      simp [DeliveryQueue.submit, DeliveryQueue.accepts, hready]
    rw [acts, hsubmit]
    exact fun act hact => ⟨a, List.mem_singleton.mp hact⟩
  | transport e =>
    have hserving : c.isServing = false := by
      rw [← Bool.not_eq_true, isServing_iff]
      exact fun hserving => connection?_eq_none.mp hnone hserving.1
    cases e <;> simp [acts, hwriting, hserving]

theorem Sound.history_refused {c : Connector α} (h : c.Sound) (events : List (ConnectorEvent α)) :
    ∀ act, (none, act) ∈ c.history events → ∃ a, act = .refused a := by
  induction events generalizing c with
  | nil => exact fun act hact => nomatch hact
  | cons e events ih =>
    intro act hact
    rw [history, List.mem_append] at hact
    rcases hact with hact | hact
    · obtain ⟨act, hmem, heq⟩ := List.mem_map.mp hact
      obtain ⟨hnone, rfl⟩ := Prod.mk.inj heq
      exact h.acts_refused hnone e act hmem
    · exact ih (h.react e) act hact

/-! ## When messages are accepted -/

/-- While a connection stands the queue is ready, and it is closed only when the connector
has ended. -/
structure Serving (c : Connector α) : Prop where
  ready : c.phase = .established → c.queue.ready = true
  closed : c.queue.closed = true → c.ended.isSome

theorem Serving.submit {c : Connector α} (h : c.Serving) (a : α) :
    Serving { c with queue := (c.queue.submit a).1 } := by
  rw [DeliveryQueue.submit]
  split <;> exact ⟨h.ready, h.closed⟩

theorem Serving.attempt {c : Connector α} (h : c.Serving) (outcome : Except ReachError Unit) :
    (c.attempt outcome).Serving := by
  rw [Connector.attempt]
  split
  · exact h
  · cases outcome with
    | ok => exact ⟨fun _ => rfl, h.closed⟩
    | error e =>
      simp only
      split
      · exact ⟨by simp, fun _ => rfl⟩
      next hbusy _ => exact ⟨by simp, fun hclosed => absurd (Or.inl (h.closed hclosed)) hbusy⟩

theorem Serving.step {c : Connector α} (h : c.Serving) (e : TransportEvent) :
    (c.step e).Serving := by
  cases e with
  | attempt outcome => exact h.attempt outcome
  | take =>
    rw [Connector.step, Connector.take, DeliveryQueue.receive?]
    cases c.queue.items <;> simp only <;> split <;> exact ⟨h.ready, h.closed⟩
  | written ok =>
    rw [Connector.step, Connector.written]
    cases c.writing with
    | none => exact h
    | some a => cases ok <;> exact ⟨h.ready, h.closed⟩
  | inbound => exact h
  | lost =>
    rw [Connector.step, Connector.lost]
    split
    · exact h
    · exact ⟨by simp, h.closed⟩
  | finished =>
    rw [Connector.step, Connector.finished]
    split
    · exact ⟨by simp, fun _ => rfl⟩
    · exact h

theorem Serving.run {c : Connector α} (h : c.Serving) (events : List (ConnectorEvent α)) :
    (c.run events).Serving := by
  induction events generalizing c with
  | nil => exact h
  | cons e events ih =>
    cases e with
    | submit a => exact ih (h.submit a)
    | transport e => exact ih (h.step e)

/-- A message is accepted exactly when a connection stands and the queue has room for it. -/
theorem Serving.submit_iff {c : Connector α} (h : c.Serving) (hsound : c.Sound) (a : α) :
    (c.queue.submit a).2 = true ↔
      c.connection?.isSome ∧ c.queue.items.length < c.queue.capacity := by
  rw [DeliveryQueue.submit_snd, DeliveryQueue.accepts]
  by_cases hphase : c.phase = .established
  · have hopen : c.queue.closed = false := by
      rw [← Bool.not_eq_true]
      exact fun hclosed => hsound.ended (h.closed hclosed) hphase
    simp [connection?, hphase, h.ready hphase, hopen]
  · simp [connection?, hphase, (hsound.idle hphase).1]

/-! ## What the statistics count -/

/-- The statistics count the messages that are written, fail to be written and are given up. -/
structure Counts (before : DeliveryStats) (acts : List (DeliveryAct α)) (after : DeliveryStats) :
    Prop where
  sent : after.sent = before.sent + acts.countP isSent
  sendErrors : after.sendErrors = before.sendErrors + acts.countP isFailed
  dropped : after.dropped = before.dropped + acts.countP isDropped

theorem Counts.refl (stats : DeliveryStats) : Counts stats ([] : List (DeliveryAct α)) stats :=
  ⟨rfl, rfl, rfl⟩

theorem Counts.trans {s t u : DeliveryStats} {xs ys : List (DeliveryAct α)} (hxs : Counts s xs t)
    (hys : Counts t ys u) : Counts s (xs ++ ys) u := by
  refine ⟨?_, ?_, ?_⟩
  · rw [hys.sent, hxs.sent, List.countP_append, Nat.add_assoc]
  · rw [hys.sendErrors, hxs.sendErrors, List.countP_append, Nat.add_assoc]
  · rw [hys.dropped, hxs.dropped, List.countP_append, Nat.add_assoc]

theorem counts_discarded (stats : DeliveryStats) (items : List α) :
    Counts stats (items.map .discarded) { stats with dropped := stats.dropped + items.length } := by
  refine ⟨?_, ?_, ?_⟩ <;>
    simp [List.countP_map, Function.comp_def, isSent, isFailed, isDropped]

theorem react_counts (c : Connector α) (e : ConnectorEvent α) :
    Counts c.queue.stats (c.acts e) (c.react e).queue.stats := by
  cases e with
  | submit a =>
    rw [acts, react, DeliveryQueue.submit]
    split <;> exact ⟨rfl, rfl, rfl⟩
  | transport e =>
    cases e with
    | attempt outcome =>
      change Counts _ [] (c.attempt outcome).queue.stats
      rw [attempt]
      split
      · exact .refl _
      · cases outcome with
        | ok => exact ⟨rfl, rfl, rfl⟩
        | error e =>
          simp only
          split <;> exact ⟨rfl, rfl, rfl⟩
    | take =>
      change Counts _ [] c.take.queue.stats
      rw [take, DeliveryQueue.receive?]
      cases c.queue.items <;> simp only <;> split <;> exact .refl _
    | written ok =>
      rw [acts, react, step, written]
      cases c.writing with
      | none => exact .refl _
      | some a => cases ok <;> exact ⟨rfl, rfl, rfl⟩
    | inbound => exact .refl _
    | lost =>
      rw [acts, react, step, lost]
      cases c.isServing with
      | false => exact .refl _
      | true => exact counts_discarded _ _
    | finished =>
      change Counts _ [] c.finished.queue.stats
      rw [finished]
      split <;> exact .refl _

theorem run_counts (c : Connector α) (events : List (ConnectorEvent α)) :
    Counts c.queue.stats ((c.history events).map Prod.snd) (c.run events).queue.stats := by
  induction events generalizing c with
  | nil => exact .refl _
  | cons e events ih =>
    have hacts : ((c.acts e).map fun act => (c.connection?, act)).map Prod.snd = c.acts e := by
      rw [List.map_map]
      exact List.map_id (c.acts e)
    rw [run_cons, history, List.map_append, hacts]
    exact (c.react_counts e).trans (ih (c.react e))

/-! ## Messages that are all different -/

theorem react_accepted (c : Connector α) (e : ConnectorEvent α) :
    ((c.acts e).filterMap accepted?).Sublist e.submitted?.toList := by
  cases e with
  | submit a =>
    rw [acts]
    split
    · exact .refl _
    · exact List.nil_sublist _
  | transport e =>
    have hnone : (c.acts (.transport e)).filterMap accepted? = [] := by
      cases e with
      | written ok => cases hwriting : c.writing <;> simp [acts, hwriting, accepted?]
      | lost => rw [acts]; split <;> simp [accepted?]
      | attempt | take | inbound | finished => rfl
    rw [hnone]
    exact List.nil_sublist _

theorem acceptedOn_cons (c : Connector α) (e : ConnectorEvent α) (events : List (ConnectorEvent α))
    (k : Nat) :
    acceptedOn k (c.history (e :: events)) =
      (if c.connection? = some k then (c.acts e).filterMap accepted? else []) ++
        acceptedOn k ((c.react e).history events) := by
  rw [acceptedOn, history, during_append, List.filterMap_append]
  split
  next hk => rw [hk, during_tagged, acceptedOn]
  next hk =>
    rw [← List.nil_append (List.map _ _), during_append_tagged hk]
    rfl

/-- The messages accepted on one connection come in the order in which they are handed over. -/
theorem acceptedOn_sublist (c : Connector α) (events : List (ConnectorEvent α)) (k : Nat) :
    (acceptedOn k (c.history events)).Sublist (events.filterMap ConnectorEvent.submitted?) := by
  induction events generalizing c with
  | nil => exact List.nil_sublist _
  | cons e events ih =>
    rw [acceptedOn_cons, filterMap_submitted?_cons]
    refine List.Sublist.append ?_ (ih (c.react e))
    split
    · exact c.react_accepted e
    · exact List.nil_sublist _

theorem mem_acceptedOn_cons {c : Connector α} {e : ConnectorEvent α}
    {events : List (ConnectorEvent α)} {k : Nat} {a : α}
    (h : a ∈ acceptedOn k (c.history (e :: events))) :
    (c.connection? = some k ∧ e.submitted? = some a) ∨
      a ∈ acceptedOn k ((c.react e).history events) := by
  rw [acceptedOn_cons, List.mem_append] at h
  rcases h with h | h
  · split at h
    next hk => exact Or.inl ⟨hk, Option.mem_toList.mp ((c.react_accepted e).mem h)⟩
    next => cases h
  · exact Or.inr h

/-- A message that is handed over once is accepted on one connection only. -/
theorem eq_of_mem_acceptedOn {c : Connector α} {events : List (ConnectorEvent α)}
    (h : (events.filterMap ConnectorEvent.submitted?).Nodup) {a : α} {j k : Nat}
    (hj : a ∈ acceptedOn j (c.history events)) (hk : a ∈ acceptedOn k (c.history events)) :
    j = k := by
  induction events generalizing c with
  | nil => cases hj
  | cons e events ih =>
    -- what is handed over now is not handed over again
    have hlast (hnow : e.submitted? = some a) (i : Nat) :
        a ∉ acceptedOn i ((c.react e).history events) := by
      rw [List.filterMap_cons_some hnow] at h
      intro hlater
      exact (List.nodup_cons.mp h).1 ((acceptedOn_sublist _ events i).mem hlater)
    rcases mem_acceptedOn_cons hj with ⟨hfirst, hnow⟩ | hj
    · rcases mem_acceptedOn_cons hk with ⟨hsecond, _⟩ | hk
      · exact Option.some_inj.mp (hfirst.symm.trans hsecond)
      · exact absurd hk (hlast hnow k)
    · rcases mem_acceptedOn_cons hk with ⟨_, hnow⟩ | hk
      · exact absurd hj (hlast hnow j)
      · refine ih (h.sublist ?_) hj hk
        rw [List.filterMap_cons]
        split
        · exact .refl _
        · exact List.sublist_cons_self _ _

/-! ## Every run -/

/-- The connections of a run do not get messages of each other: what is left of a connector, what
has been handed over to it, and what has become of it. -/
structure KeptApart (c : Connector α) (submitted : List α)
    (history : List (Option Nat × DeliveryAct α)) : Prop where
  /-- Without a connection nothing is taken and nothing waits. -/
  idle : c.connection? = none → c.queue.ready = false ∧ c.queue.items = [] ∧ c.writing = none
  /-- While a connection stands and the queue has room, messages are accepted. -/
  accepts : ∀ a, (c.queue.submit a).2 = true ↔
    c.connection?.isSome ∧ c.queue.items.length < c.queue.capacity
  /-- While there is no connection messages are refused, and nothing else becomes of any. -/
  refused : ∀ act, (none, act) ∈ history → ∃ a, act = .refused a
  /-- Connections are counted as they begin. -/
  numbered : ∀ k, c.queue.stats.connections < k → during k history = []
  accepted : ∀ k, (acceptedOn k history).Sublist submitted
  /-- The messages accepted on a connection are those of which the writing has ended, in this order,
  and then those given up with the connection or, while it stands, the one that is being written and
  those that wait. -/
  settled : ∀ k, acceptedOn k history = (attemptedOn k history).map Prod.fst ++
    (discardedOn k history ++ if c.connection? = some k then c.contents else [])
  lasting : ∀ k, c.connection? = some k → discardedOn k history = []
  written : ∀ k, (writtenOn k history).Sublist (acceptedOn k history)
  /-- No message is written on another connection than the one on which it has been accepted. -/
  own : submitted.Nodup → ∀ a j k, a ∈ writtenOn j history → a ∈ acceptedOn k history → j = k
  counts : Counts {} (history.map Prod.snd) c.queue.stats
  /-- When the connector has ended without error, every message accepted on the last connection has
  been attempted. -/
  finished : c.ended = some (.ok ()) →
    acceptedOn c.queue.stats.connections history =
      (attemptedOn c.queue.stats.connections history).map Prod.fst

/-- However producers, the collector and the connector take turns, the messages accepted on a
connection are written on it in their order, and on no other one. -/
theorem run_keptApart (remote : String) (maxAttempts retryDelay capacity : Nat)
    (events : List (ConnectorEvent α)) :
    let c : Connector α := { remote, maxAttempts, retryDelay, queue := { capacity } }
    KeptApart (c.run events) (events.filterMap ConnectorEvent.submitted?) (c.history events) := by
  intro c
  have hsound : c.Sound := ⟨fun _ => ⟨rfl, rfl, rfl⟩, nofun⟩
  have hserving : c.Serving := ⟨nofun, nofun⟩
  have hbooked : Booked c [] := ⟨fun _ _ => rfl, fun _ => rfl, fun _ _ => rfl, fun _ => rfl⟩
  have hsound' := hsound.run events
  have hbooked' := hbooked.run hsound events
  rw [List.nil_append] at hbooked'
  have hwritten (k : Nat) :
      (writtenOn k (c.history events)).Sublist (acceptedOn k (c.history events)) := by
    rw [hbooked'.settled k]
    exact (List.filter_sublist.map Prod.fst).trans (List.sublist_append_left _ _)
  exact {
    idle := fun hnone => hsound'.idle (connection?_eq_none.mp hnone)
    accepts := (hserving.run events).submit_iff hsound'
    refused := hsound.history_refused events
    numbered := hbooked'.later
    accepted := c.acceptedOn_sublist events
    settled := hbooked'.settled
    lasting := hbooked'.lasting
    written := hwritten
    own := fun h a j k hj hk => eq_of_mem_acceptedOn h ((hwritten j).mem hj) hk
    counts := c.run_counts events
    finished := by
      intro hended
      have hnone : (c.run events).connection? = none :=
        connection?_eq_none.mpr (hsound'.ended (by rw [hended]; rfl))
      rw [hbooked'.settled, hbooked'.ended hended, hnone, if_neg nofun]
      exact List.append_nil _ }

/-- Of the first connection the second message fails and the third is given up. -/
example :
    let c : Connector Nat :=
      { remote := "", maxAttempts := 3, retryDelay := 100, queue := { capacity := 8 } }
    let history := c.history
      [.transport (.attempt (.ok ())), .submit 1, .submit 2, .submit 3, .transport .take,
        .transport (.written true), .transport .take, .transport (.written false), .transport .lost,
        .submit 4, .transport (.attempt (.ok ())), .submit 5, .transport .take,
        .transport (.written true)]
    attemptedOn 1 history = [(1, true), (2, false)] ∧ discardedOn 1 history = [3] ∧
      attemptedOn 2 history = [(5, true)] ∧ (none, .refused 4) ∈ history := by
  decide

end Connector

end LogCourier
