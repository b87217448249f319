import LogCourier.Delivery.Transport

/-!
# Handing messages over

What a queue makes of the messages that are handed over one after the other: a queue that refuses
them only counts them, and one that has room takes all of them in their order.
-/

namespace LogCourier

namespace DeliveryQueue

variable {α : Type}

@[simp] theorem items_countDropped (q : DeliveryQueue α) (n : Nat) :
    (q.countDropped n).items = q.items := rfl

@[simp] theorem items_countSent (q : DeliveryQueue α) : q.countSent.items = q.items := rfl

@[simp] theorem items_countSendError (q : DeliveryQueue α) : q.countSendError.items = q.items := rfl

theorem submit_snd (q : DeliveryQueue α) (a : α) : (q.submit a).2 = q.accepts := by
  rw [submit]
  split
  next haccepts => exact haccepts.symm
  next hrefuses => exact (Bool.eq_false_iff.mpr hrefuses).symm

theorem submitAll_append (q : DeliveryQueue α) (xs ys : List α) :
    (q.submitAll (xs ++ ys)).1 = ((q.submitAll xs).1.submitAll ys).1 := by
  induction xs generalizing q with
  | nil => rfl
  | cons a xs ih => exact ih (q.submit a).1

/-- A queue that is not ready, or closed, counts what it refuses and changes in nothing else. -/
theorem submitAll_of_refusing {q : DeliveryQueue α} (h : q.ready = false ∨ q.closed = true)
    (as : List α) : ∃ stats, (q.submitAll as).1 = { q with stats } := by
  induction as generalizing q with
  | nil => exact ⟨q.stats, rfl⟩
  | cons a as ih =>
    have hrefused : (q.submit a).1 = q.countDropped 1 := by
      have haccepts : q.accepts = false := by
        rcases h with h | h <;> simp [accepts, h]
      rw [submit, haccepts]
      rfl
    obtain ⟨stats, hstats⟩ := ih (q := q.countDropped 1) h
    refine ⟨stats, ?_⟩
    rw [submitAll]
    simp only
    rw [hrefused, hstats]
    rfl

theorem submitAll_of_room {q : DeliveryQueue α} (hready : q.ready = true)
    (hclosed : q.closed = false) {as : List α} (hroom : q.items.length + as.length ≤ q.capacity) :
    (q.submitAll as).1 = { q with items := q.items ++ as } := by
  induction as generalizing q with
  | nil =>
    rw [List.append_nil]
    rfl
  | cons a as ih =>
    rw [List.length_cons] at hroom
    have htaken : (q.submit a).1 = { q with items := q.items ++ [a] } := by
      have haccepts : q.accepts = true := by
        rw [accepts, hready, hclosed]
        simp only [Bool.not_false, Bool.and_self, Bool.true_and, decide_eq_true_iff]
        omega
      rw [submit, haccepts]
      rfl
    have hrest : (q.items ++ [a]).length + as.length ≤ q.capacity := by
      rw [List.length_append, List.length_singleton]
      omega
    rw [submitAll]
    simp only
    rw [htaken, ih (q := { q with items := q.items ++ [a] }) hready hclosed hrest,
      List.append_assoc, List.singleton_append]

end DeliveryQueue

namespace Transport

theorem submitAll_nil (t : Transport) : t.submitAll [] = t := by
  cases t <;> rfl

theorem submitAll_append (t : Transport) (xs ys : List Bytes) :
    t.submitAll (xs ++ ys) = (t.submitAll xs).submitAll ys := by
  cases t with
  | stream c =>
    rw [submitAll, submitAll, submitAll, queue, DeliveryQueue.submitAll_append]
    rfl
  | datagram s =>
    rw [submitAll, submitAll, submitAll, queue, DeliveryQueue.submitAll_append]
    rfl

theorem queue_submitAll (t : Transport) (messages : List Bytes) :
    (t.submitAll messages).queue = (t.queue.submitAll messages).1 := by
  cases t <;> rfl

end Transport

end LogCourier
