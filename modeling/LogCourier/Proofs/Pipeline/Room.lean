import LogCourier.Proofs.Pipeline.Stages

/-!
# Room below the rate limit

A pipeline that has passed on fewer messages than its rate limit allows has refused none, whatever
the times were (`Pipeline.Sparing`), and as long as there is room for them messages are passed on as
they are (`Limiter.HasRoom.run`).
-/

namespace LogCourier

namespace Limiter

/-- No message has been refused, and this many more can be let through whatever the time is. -/
def HasRoom (l : Limiter) (n : Nat) : Prop := l.refused = 0 ∧ l.slots.length + n ≤ l.limit

theorem HasRoom.mono {l : Limiter} {m n : Nat} (h : l.HasRoom n) (hm : m ≤ n) : l.HasRoom m :=
  ⟨h.1, Nat.le_trans (Nat.add_le_add_left hm _) h.2⟩

theorem length_slots_expire_le (l : Limiter) (now : Nat) :
    (l.expire now).slots.length ≤ l.slots.length :=
  List.IsSuffix.length_le (List.dropWhile_suffix _)

theorem length_slots_takeSlot (l : Limiter) (now : Nat) :
    (l.takeSlot now).slots.length = l.slots.length + 1 :=
  List.length_append

/-- An offer is refused, or it is let through, behind a notice if others have been
refused before. -/
theorem offer_outcomes (l : Limiter) (now : Nat) (m : Message) :
    l.limit ≤ (l.expire now).slots.length ∧
        l.offer now m = ({ l.expire now with refused := l.refused + 1 }, []) ∨
      (l.expire now).slots.length < l.limit ∧
        (l.refused = 0 ∧
            l.offer now m = (({ l.expire now with refused := 0 } : Limiter).takeSlot now, [m]) ∨
          ∃ n, l.refused = n + 1 ∧
            l.offer now m =
              ((({ l.expire now with refused := 0 } : Limiter).takeSlot now).takeSlot now,
                [.suppressed (n + 1), m])) := by
  by_cases hfull : (l.expire now).limit ≤ (l.expire now).slots.length
  · have hask : l.ask now = ({ l.expire now with refused := l.refused + 1 }, .refused) := by
      rw [ask, if_pos hfull]
      rfl
    refine Or.inl ⟨hfull, ?_⟩
    rw [offer, hask]
  · have hask : l.ask now = ({ l.expire now with refused := 0 }, .admitted l.refused) := by
      rw [ask, if_neg hfull]
      rfl
    refine Or.inr ⟨Nat.lt_of_not_le hfull, ?_⟩
    rw [offer, hask]
    cases l.refused with
    | zero => exact Or.inl ⟨rfl, rfl⟩
    | succ n => exact Or.inr ⟨n, rfl, rfl⟩

theorem HasRoom.offer_eq {l : Limiter} {n : Nat} (h : l.HasRoom (n + 1)) (now : Nat)
    (m : Message) :
    l.offer now m = (({ l.expire now with refused := 0 } : Limiter).takeSlot now, [m]) := by
  have hslots := l.length_slots_expire_le now
  have hroom := h.2
  rcases l.offer_outcomes now m with ⟨hfull, _⟩ | ⟨_, ⟨_, heq⟩ | ⟨_, hrefused, _⟩⟩
  · omega
  · exact heq
  · cases h.1.symm.trans hrefused

theorem HasRoom.offer {l : Limiter} {n : Nat} (h : l.HasRoom (n + 1)) (now : Nat) (m : Message) :
    (l.offer now m).1.HasRoom n := by
  have hslots := l.length_slots_expire_le now
  have hroom := h.2
  rw [h.offer_eq]
  refine ⟨rfl, ?_⟩
  rw [length_slots_takeSlot]
  change (l.expire now).slots.length + 1 + n ≤ l.limit
  omega

/-- With room for all of them, messages are passed on as they are. -/
theorem HasRoom.run {l : Limiter} {ms : List Message} {n : Nat} (h : l.HasRoom (ms.length + n))
    (now : Nat) :
    (Stage.run (fun l => l.offer now) l ms).1.HasRoom n ∧
      (Stage.run (fun l => l.offer now) l ms).2 = ms := by
  induction ms generalizing l with
  | nil => exact ⟨h.mono (Nat.le_add_left _ _), rfl⟩
  | cons m ms ih =>
    rw [List.length_cons, Nat.add_right_comm] at h
    obtain ⟨hrooms, houts⟩ := ih (h.offer now m)
    rw [Stage.run_cons]
    exact ⟨hrooms, by rw [houts, h.offer_eq, List.singleton_append]⟩

end Limiter

/-! ## The pipeline -/

namespace Pipeline

/-- Every slot that is taken goes back to a message that was passed on, and messages are refused
only when as many as the limit have been. -/
structure Sparing (p : Pipeline) : Prop where
  slots_le : p.limiter.slots.length ≤ p.counters.emitted
  refused : p.counters.emitted < p.limiter.limit → p.limiter.refused = 0

theorem Sparing.hasRoom {p : Pipeline} (h : p.Sparing) {n : Nat}
    (hn : p.counters.emitted + n < p.limiter.limit) : p.limiter.HasRoom n := by
  have hslots := h.slots_le
  exact ⟨h.refused (by omega), by omega⟩

theorem sparing_new (limit window threshold : Nat) : (new limit window threshold).Sparing :=
  ⟨Nat.le_refl _, fun _ => rfl⟩

/-- What an offer makes of the limiter, and how many messages it lets through. -/
theorem offer_cases (l : Limiter) (now : Nat) (m : Message) :
    (l.limit ≤ l.slots.length ∧
        l.offer now m = ({ l.expire now with refused := l.refused + 1 }, [])) ∨
      ∃ slots out, l.offer now m = ({ l with slots, refused := 0 }, out) ∧
        slots.length ≤ l.slots.length + out.length := by
  have hslots := l.length_slots_expire_le now
  rcases l.offer_outcomes now m with ⟨hfull, heq⟩ | ⟨_, ⟨_, heq⟩ | ⟨n, _, heq⟩⟩
  · exact Or.inl ⟨Nat.le_trans hfull hslots, heq⟩
  · refine Or.inr ⟨_, _, heq, ?_⟩
    rw [List.length_append]
    exact Nat.add_le_add_right hslots 1
  · refine Or.inr ⟨_, _, heq, ?_⟩
    rw [List.length_append, Limiter.length_slots_takeSlot]
    exact Nat.add_le_add_right hslots 2

/-- What a call leaves as it is. -/
structure Kept (p p' : Pipeline) : Prop where
  threshold : p'.threshold = p.threshold
  limit : p'.limiter.limit = p.limiter.limit
  sparing : p.Sparing → p'.Sparing

theorem Kept.refl (p : Pipeline) : Kept p p := ⟨rfl, rfl, fun h => h⟩

theorem Kept.trans {p p' p'' : Pipeline} (h : Kept p p') (h' : Kept p' p'') : Kept p p'' :=
  ⟨h'.threshold.trans h.threshold, h'.limit.trans h.limit, fun hp => h'.sparing (h.sparing hp)⟩

theorem kept_run {α : Type} {f : Pipeline → α → Pipeline × List Message}
    (hf : ∀ p a, Kept p (f p a).1) (p : Pipeline) (items : List α) :
    Kept p (Stage.run f p items).1 := by
  induction items generalizing p with
  | nil => exact .refl p
  | cons a items ih =>
    rw [Stage.run_cons]
    exact (hf p a).trans (ih _)

theorem kept_offer (now : Nat) (p : Pipeline) (m : Message) : Kept p (p.offer now m).1 := by
  rcases offer_cases p.limiter now m with ⟨hfull, heq⟩ | ⟨slots, out, heq, hslots⟩
  · refine ⟨rfl, ?_, ?_⟩
    · rw [offer, heq]
      rfl
    · intro hp
      constructor
      · rw [offer, heq]
        exact Nat.le_trans (p.limiter.length_slots_expire_le now) hp.slots_le
      · intro hlt
        rw [offer, heq] at hlt
        exact absurd hlt (Nat.not_lt.mpr (Nat.le_trans hfull hp.slots_le))
  · refine ⟨rfl, ?_, ?_⟩
    · rw [offer, heq]
    · intro hp
      constructor
      · rw [offer, heq]
        exact Nat.le_trans hslots (Nat.add_le_add_right hp.slots_le _)
      · intro _
        rw [offer, heq]

theorem kept_complete (now : Nat) (p : Pipeline) (line : Bytes) : Kept p (p.complete now line).1 :=
  have hfirst : Kept p
      { p with
        run := (p.run.push p.threshold line).1
        counters := { p.counters with
          lines := p.counters.lines + 1
          duplicates := p.counters.duplicates + if p.run.last = some line then 1 else 0 } } :=
    ⟨rfl, rfl, fun hp => ⟨hp.slots_le, hp.refused⟩⟩
  hfirst.trans (kept_run (kept_offer now) _ _)

theorem kept_push (now : Nat) (p : Pipeline) (byte : UInt8) : Kept p (p.push now byte).1 :=
  have hfirst : Kept p { p with buffer := (p.buffer.push byte).1 } :=
    ⟨rfl, rfl, fun hp => ⟨hp.slots_le, hp.refused⟩⟩
  hfirst.trans (kept_run (kept_complete now) _ _)

theorem kept_call (p : Pipeline) (c : Nat × PipelineCall) : Kept p (p.call c).1 := by
  obtain ⟨now, c⟩ := c
  cases c with
  | feed chunk => exact kept_run (kept_push now) p chunk
  | restart =>
    have h := kept_run (kept_offer now) p p.run.owed
    exact ⟨h.threshold, h.limit, fun hp => ⟨(h.sparing hp).slots_le, (h.sparing hp).refused⟩⟩

end Pipeline

end LogCourier
