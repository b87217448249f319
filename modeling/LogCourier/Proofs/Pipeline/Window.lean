import Mathlib.Data.List.Basic
import LogCourier.Proofs.Pipeline.Room

/-!
# How many messages pass within a window

A message is passed on at the time of the call that causes it.  Whenever a limiter is asked, the
slots that are taken are those of the messages passed on within the last window
(`Limiter.Holds`).  A notice takes its slot without being asked for, so that within a window one
message more than the limit can be passed on, and this happens exactly when a notice finds room
for one message only (`Pipeline.length_recent_timed_le_iff`).
-/

namespace LogCourier

namespace Limiter

/-- The messages passed on in the half-open interval of a window's length that ends at `t`. -/
def recent (window t : Nat) (passed : List (Nat × Message)) : List (Nat × Message) :=
  passed.filter fun p => p.1 ≤ t ∧ t < p.1 + window

variable {limit window now : Nat} {passed : List (Nat × Message)}

/-! ## Windows -/

theorem length_recent_mono {xs ys : List (Nat × Message)} (h : xs <+: ys) (window t : Nat) :
    (recent window t xs).length ≤ (recent window t ys).length :=
  (h.filter _).length_le

theorem recent_append (window t : Nat) (xs ys : List (Nat × Message)) :
    recent window t (xs ++ ys) = recent window t xs ++ recent window t ys :=
  List.filter_append xs ys

/-- Messages of the present are within the window. -/
theorem recent_append_now (hwindow : 0 < window) (passed : List (Nat × Message)) (now : Nat)
    (ms : List Message) :
    recent window now (passed ++ ms.map fun m => (now, m)) =
      recent window now passed ++ ms.map fun m => (now, m) := by
  have hnow : recent window now (ms.map fun m => (now, m)) = ms.map fun m => (now, m) := by
    rw [recent, List.filter_eq_self]
    intro p hp
    obtain ⟨m, _, rfl⟩ := List.mem_map.mp hp
    simpa using hwindow
  rw [recent_append, hnow]

/-- As time passes, messages only leave the window. -/
theorem recent_later {t : Nat} (hpast : ∀ p ∈ passed, p.1 ≤ t) (ht : t ≤ now) :
    recent window now passed = (recent window t passed).filter fun p => now < p.1 + window := by
  rw [recent, recent, List.filter_filter]
  refine List.filter_congr ?_
  intro p hp
  have hle := hpast p hp
  rw [← Bool.decide_and, decide_eq_decide]
  omega

/-- Before the new messages a window is as it was, and from then on the old ones only leave it. -/
theorem length_recent_append_le (window : Nat) (hpast : ∀ p ∈ passed, p.1 ≤ now)
    (ms : List Message) (t : Nat) :
    (recent window t (passed ++ ms.map fun m => (now, m))).length ≤
      max (recent window t passed).length ((recent window now passed).length + ms.length) := by
  rw [recent_append, List.length_append]
  by_cases ht : now ≤ t
  · have hold : (recent window t passed).length ≤ (recent window now passed).length := by
      rw [recent_later hpast ht]
      exact List.length_filter_le _ _
    have hnew : (recent window t (ms.map fun m => (now, m))).length ≤ ms.length :=
      Nat.le_trans (List.length_filter_le _ _) (Nat.le_of_eq (List.length_map _))
    exact Nat.le_trans (Nat.add_le_add hold hnew) (Nat.le_max_right _ _)
  · have hnone : recent window t (ms.map fun m => (now, m)) = [] := by
      rw [recent, List.filter_eq_nil_iff]
      intro p hp
      obtain ⟨m, _, rfl⟩ := List.mem_map.mp hp
      simp [ht]
    rw [hnone]
    exact Nat.le_max_left _ _

/-! ## Offers -/

/-- Every message that an offer lets through takes a slot. -/
theorem offer_slots (l : Limiter) (now : Nat) (m : Message) :
    ∃ refused, (l.offer now m).1 =
      { l with
        slots := (l.expire now).slots ++ (l.offer now m).2.map fun _ => now + l.window
        refused } := by
  rcases l.offer_outcomes now m with ⟨_, heq⟩ | ⟨_, ⟨_, heq⟩ | ⟨n, _, heq⟩⟩
  · rw [heq]
    exact ⟨l.refused + 1, by simp [expire]⟩
  · rw [heq]
    exact ⟨0, rfl⟩
  · rw [heq]
    exact ⟨0, by simp [takeSlot, expire]⟩

/-- An offer is let through only if there is room for one message; a notice of the offers refused
before it may come first. -/
theorem offer_out (l : Limiter) (now : Nat) (m : Message) :
    (l.offer now m).2 = [] ∨ (l.expire now).slots.length < l.limit ∧
      ((l.offer now m).2 = [m] ∨ ∃ n, (l.offer now m).2 = [.suppressed n, m]) := by
  rcases l.offer_outcomes now m with ⟨_, heq⟩ | ⟨hroom, ⟨_, heq⟩ | ⟨n, _, heq⟩⟩
  · exact Or.inl (by rw [heq])
  · exact Or.inr ⟨hroom, Or.inl (by rw [heq])⟩
  · exact Or.inr ⟨hroom, Or.inr ⟨n + 1, by rw [heq]⟩⟩

/-! ## The slots that are taken -/

/-- Slots that run out in their order become free from the front. -/
theorem dropWhile_eq_filter {slots : List Nat} (h : slots.Pairwise (· ≤ ·)) (now : Nat) :
    slots.dropWhile (· ≤ now) = slots.filter (now < ·) := by
  induction slots with
  | nil => rfl
  | cons slot slots ih =>
    obtain ⟨hfirst, hrest⟩ := List.pairwise_cons.mp h
    by_cases hslot : slot ≤ now
    · rw [List.dropWhile_cons_of_pos (by simpa using hslot),
        List.filter_cons_of_neg (by simpa using hslot)]
      exact ih hrest
    · have hlater : ∀ later ∈ slot :: slots, slot ≤ later := by
        rintro later (_ | ⟨_, hmem⟩)
        · exact Nat.le_refl _
        · exact hfirst later hmem
      rw [List.dropWhile_cons_of_neg (by simpa using hslot), eq_comm, List.filter_eq_self]
      intro later hmem
      have hle := hlater later hmem
      rw [decide_eq_true_iff]
      omega

/-- These messages have been passed on until now, in their order, and the slots that are taken are
those of the messages that were recent when the limiter was last asked. -/
structure Holds (l : Limiter) (passed : List (Nat × Message)) (now : Nat) : Prop where
  slots : ∃ last, last ≤ now ∧ (∀ p ∈ passed, p.1 ≤ last) ∧
    l.slots = (recent l.window last passed).map fun p => p.1 + l.window
  sorted : passed.Pairwise fun p q => p.1 ≤ q.1

variable {l : Limiter} {last : Nat}

theorem Holds.past (h : l.Holds passed last) (hlast : last ≤ now) : ∀ p ∈ passed, p.1 ≤ now := by
  obtain ⟨asked, hle, hpast, _⟩ := h.slots
  exact fun p hp => Nat.le_trans (hpast p hp) (Nat.le_trans hle hlast)

theorem Holds.mono (h : l.Holds passed last) (hlast : last ≤ now) : l.Holds passed now := by
  obtain ⟨asked, hle, hpast, hslots⟩ := h.slots
  exact ⟨⟨asked, Nat.le_trans hle hlast, hpast, hslots⟩, h.sorted⟩

theorem Holds.slots_expire (h : l.Holds passed now) :
    (l.expire now).slots = (recent l.window now passed).map fun p => p.1 + l.window := by
  obtain ⟨asked, hle, hpast, hslots⟩ := h.slots
  have hsorted : l.slots.Pairwise (· ≤ ·) := by
    rw [hslots, List.pairwise_map]
    exact (h.sorted.sublist List.filter_sublist).imp fun h => Nat.add_le_add_right h _
  rw [expire, dropWhile_eq_filter hsorted, hslots, List.filter_map, recent_later hpast hle]
  rfl

theorem Holds.offer (h : l.Holds passed now) (hwindow : 0 < l.window) (m : Message) :
    (l.offer now m).1.Holds (passed ++ (l.offer now m).2.map fun m => (now, m)) now := by
  have hpast := h.past (Nat.le_refl now)
  have hnew : ∀ p ∈ (l.offer now m).2.map fun m => (now, m), p.1 = now := by
    intro p hp
    obtain ⟨_, _, rfl⟩ := List.mem_map.mp hp
    rfl
  obtain ⟨refused, heq⟩ := l.offer_slots now m
  rw [heq]
  refine ⟨⟨now, Nat.le_refl _, ?_, ?_⟩, ?_⟩
  · intro p hp
    rcases List.mem_append.mp hp with hold | hp
    · exact hpast p hold
    · exact Nat.le_of_eq (hnew p hp)
  · have hslots : ((l.offer now m).2.map fun m => (now, m)).map (fun p => p.1 + l.window) =
        (l.offer now m).2.map fun _ => now + l.window := List.map_map
    rw [recent_append_now hwindow, List.map_append, hslots, h.slots_expire]
  · refine List.pairwise_append.mpr ⟨h.sorted, ?_, ?_⟩
    · exact List.pairwise_map.mpr (List.pairwise_of_forall fun _ _ => Nat.le_refl _)
    · intro p hp q hq
      exact Nat.le_trans (hpast p hp) (Nat.le_of_eq (hnew q hq).symm)

/-! ## Windows of what is passed on -/

/-- Every notice finds room for itself and for the message that comes after it. -/
def NoticesFit (limit window : Nat) (passed : List (Nat × Message)) : Prop :=
  ∀ before now n, before ++ [(now, .suppressed n)] <+: passed →
    (recent window now before).length + 2 ≤ limit

/-- What is passed on within a window goes beyond the limit by one message at most, and only where a
notice does not fit. -/
structure Paced (limit window : Nat) (passed : List (Nat × Message)) : Prop where
  length_le : ∀ t, (recent window t passed).length ≤ limit + 1
  length_le_of_fit : NoticesFit limit window passed → ∀ t, (recent window t passed).length ≤ limit
  /-- A notice is followed by a message at once. -/
  followed : ∀ before now n, before ++ [(now, .suppressed n)] <+: passed →
    ∃ m, before ++ [(now, .suppressed n), (now, m)] <+: passed

theorem NoticesFit.of_prefix {xs ys : List (Nat × Message)} (h : NoticesFit limit window ys)
    (hlonger : xs <+: ys) : NoticesFit limit window xs :=
  fun before now n hnotice => h before now n (hnotice.trans hlonger)

theorem Paced.append_message (h : Paced limit window passed) (hpast : ∀ p ∈ passed, p.1 ≤ now)
    (hroom : (recent window now passed).length < limit) {m : Message}
    (hm : ∀ n, m ≠ .suppressed n) :
    Paced limit window (passed ++ [(now, m)]) := by
  have hbound (t : Nat) := length_recent_append_le window hpast [m] t
  have hlonger : passed <+: passed ++ [(now, m)] := List.prefix_append _ _
  refine ⟨fun t => ?_, fun hfit t => ?_, ?_⟩
  · exact Nat.le_trans (hbound t) (Nat.max_le.mpr ⟨h.length_le t, Nat.le_succ_of_le hroom⟩)
  · have hold := h.length_le_of_fit (hfit.of_prefix hlonger) t
    exact Nat.le_trans (hbound t) (Nat.max_le.mpr ⟨hold, hroom⟩)
  · intro before t n hnotice
    rcases List.prefix_concat_iff.mp hnotice with heq | hnotice
    · obtain ⟨_, hsame⟩ := List.append_inj' heq rfl
      cases hsame
      exact absurd rfl (hm n)
    · obtain ⟨m', hnext⟩ := h.followed before t n hnotice
      exact ⟨m', hnext.trans hlonger⟩

theorem Paced.append_notice (h : Paced limit window passed) (hpast : ∀ p ∈ passed, p.1 ≤ now)
    (hroom : (recent window now passed).length < limit) (n : Nat) {m : Message}
    (hm : ∀ n, m ≠ .suppressed n) :
    Paced limit window (passed ++ [(now, .suppressed n), (now, m)]) := by
  have hbound (t : Nat) := length_recent_append_le window hpast [.suppressed n, m] t
  have hlonger : passed <+: passed ++ [(now, .suppressed n), (now, m)] := List.prefix_append _ _
  have hfirst : passed ++ [(now, .suppressed n)] <+: passed ++ [(now, .suppressed n), (now, m)] :=
    ⟨[(now, m)], by rw [List.append_assoc]; rfl⟩
  refine ⟨fun t => ?_, fun hfit t => ?_, ?_⟩
  · exact Nat.le_trans (hbound t)
      (Nat.max_le.mpr ⟨h.length_le t, Nat.succ_le_succ (Nat.succ_le_of_lt hroom)⟩)
  · have hold := h.length_le_of_fit (hfit.of_prefix hlonger) t
    exact Nat.le_trans (hbound t) (Nat.max_le.mpr ⟨hold, hfit passed now n hfirst⟩)
  · intro before t n' hnotice
    rw [List.append_cons passed] at hnotice
    rcases List.prefix_concat_iff.mp hnotice with heq | hnotice
    · obtain ⟨_, hsame⟩ := List.append_inj' heq rfl
      cases hsame
      exact absurd rfl (hm n')
    rcases List.prefix_concat_iff.mp hnotice with heq | hnotice
    · obtain ⟨rfl, hsame⟩ := List.append_inj' heq rfl
      cases hsame
      exact ⟨m, List.prefix_refl _⟩
    · obtain ⟨m', hnext⟩ := h.followed before t n' hnotice
      exact ⟨m', hnext.trans hlonger⟩

theorem Paced.offer (h : Paced l.limit l.window passed) (hholds : l.Holds passed now) {m : Message}
    (hm : ∀ n, m ≠ .suppressed n) :
    Paced l.limit l.window (passed ++ (l.offer now m).2.map fun m => (now, m)) := by
  have hpast := hholds.past (Nat.le_refl now)
  rcases l.offer_out now m with hout | ⟨hroom, hout⟩
  · rwa [hout, List.map_nil, List.append_nil]
  rw [hholds.slots_expire, List.length_map] at hroom
  rcases hout with hout | ⟨n, hout⟩
  · rw [hout]
    exact h.append_message hpast hroom hm
  · rw [hout]
    exact h.append_notice hpast hroom n hm

/-- A window goes beyond the limit exactly where a notice does not fit. -/
theorem Paced.length_recent_le_iff (h : Paced limit window passed) (hwindow : 0 < window) :
    (∀ t, (recent window t passed).length ≤ limit) ↔ NoticesFit limit window passed := by
  refine ⟨fun hle before now n hnotice => ?_, h.length_le_of_fit⟩
  obtain ⟨m, hboth⟩ := h.followed before now n hnotice
  have hcount := length_recent_mono hboth window now
  have hnow := recent_append_now hwindow before now [.suppressed n, m]
  rw [List.map_cons, List.map_cons, List.map_nil] at hnow
  rw [hnow, List.length_append] at hcount
  exact Nat.le_trans hcount (hle now)

/-! ## Runs -/

theorem paced_nil (limit window : Nat) : Paced limit window [] where
  length_le _ := Nat.zero_le _
  length_le_of_fit _ _ := Nat.zero_le _
  followed before now n h := by
    rw [List.prefix_nil] at h
    exact absurd h (by simp)

/-- A limiter and what has been passed on until now. -/
structure Passes (limit window : Nat) (l : Limiter) (passed : List (Nat × Message)) (now : Nat) :
    Prop where
  limit_eq : l.limit = limit
  window_eq : l.window = window
  holds : l.Holds passed now
  paced : Paced limit window passed

theorem passes_new (limit window : Nat) : Passes limit window { limit, window } [] 0 where
  limit_eq := rfl
  window_eq := rfl
  holds := ⟨⟨0, Nat.le_refl _, nofun, rfl⟩, List.Pairwise.nil⟩
  paced := paced_nil limit window

theorem Passes.offer (h : Passes limit window l passed now) (hwindow : 0 < window) {m : Message}
    (hm : ∀ n, m ≠ .suppressed n) :
    Passes limit window (l.offer now m).1
      (passed ++ (l.offer now m).2.map fun m => (now, m)) now := by
  obtain ⟨rfl, rfl, hholds, hpaced⟩ := h
  obtain ⟨refused, heq⟩ := l.offer_slots now m
  exact ⟨by rw [heq], by rw [heq], hholds.offer hwindow m, hpaced.offer hholds hm⟩

/-- Offers of one moment. -/
theorem Passes.run (h : Passes limit window l passed now) (hwindow : 0 < window) {ms : List Message}
    (hms : ∀ m ∈ ms, ∀ n, m ≠ .suppressed n) :
    Passes limit window (Stage.run (fun l => l.offer now) l ms).1
      (passed ++ (Stage.run (fun l => l.offer now) l ms).2.map fun m => (now, m)) now := by
  induction ms generalizing l passed with
  | nil => rwa [Stage.run_nil, List.map_nil, List.append_nil]
  | cons m ms ih =>
    obtain ⟨hm, hrest⟩ := List.forall_mem_cons.mp hms
    rw [Stage.run_cons, List.map_append, ← List.append_assoc]
    exact ih (h.offer hwindow hm) hrest

end Limiter

/-! ## The pipeline -/

namespace LineRun

theorem owed_ne_suppressed (r : LineRun) : ∀ m ∈ r.owed, ∀ n, m ≠ .suppressed n := by
  rw [owed]
  split <;> simp

/-- Only the limiter announces what it has refused. -/
theorem push_ne_suppressed (threshold : Nat) (r : LineRun) (line : Bytes) :
    ∀ m ∈ (r.push threshold line).2, ∀ n, m ≠ .suppressed n := by
  rw [push]
  split
  · split <;> simp
  · intro m hm
    rcases List.mem_append.mp hm with hm | hm
    · exact r.owed_ne_suppressed m hm
    · rw [List.mem_singleton.mp hm]
      simp

end LineRun

namespace Pipeline

open Limiter

/-- What goes out for some calls, each message with the time of the call that causes it. -/
def timed (p : Pipeline) (calls : List (Nat × PipelineCall)) : List (Nat × Message) :=
  (Stage.run (fun p c => ((p.call c).1, (p.call c).2.map fun m => (c.1, m))) p calls).2

theorem timed_cons (p : Pipeline) (c : Nat × PipelineCall) (calls : List (Nat × PipelineCall)) :
    p.timed (c :: calls) =
      ((p.call c).2.map fun m => (c.1, m)) ++ (p.call c).1.timed calls := by
  rw [timed, Stage.run_cons, timed]

theorem offered_ne_suppressed (p : Pipeline) (c : PipelineCall) :
    ∀ m ∈ p.offered c, ∀ n, m ≠ .suppressed n := by
  cases c with
  | feed chunk =>
    intro m hm
    obtain ⟨r, line, hm⟩ := Stage.exists_of_mem_run hm
    exact r.push_ne_suppressed _ _ m hm
  | restart => exact p.run.owed_ne_suppressed

theorem timed_paced {limit window : Nat} (hwindow : 0 < window) {calls : List (Nat × PipelineCall)}
    (hcalls : calls.Pairwise fun c d => c.1 ≤ d.1) {p : Pipeline} {passed : List (Nat × Message)}
    {last : Nat} (h : Passes limit window p.limiter passed last) (hlast : ∀ c ∈ calls, last ≤ c.1) :
    Paced limit window (passed ++ p.timed calls) := by
  induction calls generalizing p passed last with
  | nil =>
    rw [timed, Stage.run_nil, List.append_nil]
    exact h.paced
  | cons c calls ih =>
    obtain ⟨now, c⟩ := c
    obtain ⟨hfirst, hrest⟩ := List.pairwise_cons.mp hcalls
    obtain ⟨_, hlimiter, hout⟩ := p.call_eq now c
    have hnow : Passes limit window p.limiter passed now :=
      { h with holds := h.holds.mono (hlast _ List.mem_cons_self) }
    have hnext := hnow.run hwindow (p.offered_ne_suppressed c)
    rw [← hlimiter, ← hout] at hnext
    rw [timed_cons, ← List.append_assoc]
    exact ih hrest hnext hfirst

/-- While the time does not go back, no half-open interval of the window's length sees more than one
message above the limit, and none sees more than the limit if and only if every notice finds room
for itself and for the message that comes after it. -/
theorem length_recent_timed_le_iff (limit window threshold : Nat) (hwindow : 0 < window)
    (calls : List (Nat × PipelineCall)) (hcalls : calls.Pairwise fun c d => c.1 ≤ d.1) :
    let passed := (new limit window threshold).timed calls
    (∀ t, (recent window t passed).length ≤ limit + 1) ∧
      ((∀ t, (recent window t passed).length ≤ limit) ↔
        ∀ before now n, before ++ [(now, .suppressed n)] <+: passed →
          (recent window now before).length + 2 ≤ limit) := by
  intro passed
  have h : Paced limit window ([] ++ passed) :=
    timed_paced (p := new limit window threshold) hwindow hcalls (passes_new limit window)
      fun _ _ => Nat.zero_le _
  exact ⟨h.length_le, h.length_recent_le_iff hwindow⟩

/-- A message that is let through comes after the notice of the one refused before, and both come
within the window of a third one. -/
theorem notice_exceeds :
    ¬ ∀ t, (recent 1000 t ((new 2 1000 500).timed
      [(0, .feed [49, 10]), (500, .feed [50, 10, 51, 10]), (1000, .feed [52, 10])])).length ≤ 2 :=
  fun h => absurd (h 1000) (by decide)

theorem length_recent_timed_le_iff_sample :
    let passed := (new 2 1000 500).timed
      [(0, .feed [49, 10]), (500, .feed [50, 10, 51, 10]), (1000, .feed [52, 10])]
    passed = [(0, .line [49]), (500, .line [50]), (1000, .suppressed 1), (1000, .line [52])] ∧
      ∀ t, (recent 1000 t passed).length ≤ 3 :=
  ⟨by decide, (length_recent_timed_le_iff 2 1000 500 (by decide) _ (by decide)).1⟩

end Pipeline

end LogCourier
