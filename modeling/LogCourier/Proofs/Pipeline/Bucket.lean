import LogCourier.Proofs.Pipeline.Accounts
import LogCourier.Proofs.Streak

/-!
# The rate limit as a rule about the past

Whether a message is passed on is decided by what has been passed on before it: there has to be room
within the window that ends with the offer (`Limiter.due`).  A limiter remembers slots and a count
instead.  They say as much as the whole past (`Limiter.Tracks`), so that every offer gets the answer
that the rule gives (`Pipeline.run_new_ruled`).
-/

namespace LogCourier

namespace Limiter

/-! ## The rule -/

/-- All that has been passed on, each message with the time of its offer. -/
def passed (past : List Answer) : List (Nat × Message) :=
  past.flatMap fun a => a.2.map fun m => (a.1.time, m)

/-- How many offers have been refused since the last one that was let through. -/
def refusals (past : List Answer) : Nat := streak Answer.isRefusal past

/-- The notice of messages that have been refused, if there are any. -/
def announcement : Nat → List Message
  | 0 => []
  | n + 1 => [.suppressed (n + 1)]

/-- What is passed on for an offer, after all that has been offered before it: nothing if as many
messages as the limit have been passed on less than a window ago, notices included, and otherwise
its message, behind the notice of those refused since the last one that was let through. -/
def due (limit window : Nat) (past : List Answer) (o : Offer) : List Message :=
  if (passed past).countP (fun p => o.time < p.1 + window) < limit then
    announcement (refusals past) ++ [o.message]
  else []

/-- Offers that come after what has been offered before, each with what the rule passes on
for it. -/
def ruled (limit window : Nat) (past : List Answer) : List Offer → List Answer
  | [] => []
  | o :: offers =>
    let a := (o, due limit window past o)
    a :: ruled limit window (past ++ [a]) offers

variable {limit window now : Nat} {past : List Answer}

theorem passed_append (xs ys : List Answer) : passed (xs ++ ys) = passed xs ++ passed ys :=
  List.flatMap_append

theorem passed_concat (past : List Answer) (a : Answer) :
    passed (past ++ [a]) = passed past ++ a.2.map fun m => (a.1.time, m) := by
  rw [passed_append]
  exact congrArg (passed past ++ ·) (List.flatMap_singleton _ _)

/-- What is passed on for offers of one moment. -/
theorem passed_of_time (h : ∀ a ∈ past, a.1.time = now) :
    passed past = (past.flatMap Prod.snd).map fun m => (now, m) := by
  rw [passed, List.map_flatMap]
  refine List.flatMap_congr fun a ha => ?_
  rw [h a ha]

/-! ## The limiter follows it -/

/-- What a limiter remembers is what the rule needs of the past. -/
structure Tracks (l : Limiter) (past : List Answer) (now : Nat) : Prop where
  holds : l.Holds (passed past) now
  refused : l.refused = refusals past

variable {l : Limiter}

theorem tracks_new (limit window : Nat) : Tracks { limit, window } [] 0 where
  holds := ⟨⟨0, Nat.le_refl _, nofun, rfl⟩, List.Pairwise.nil⟩
  refused := rfl

theorem Tracks.mono (h : l.Tracks past now) {later : Nat} (hlater : now ≤ later) :
    l.Tracks past later :=
  ⟨h.holds.mono hlater, h.refused⟩

/-- The slots that are still taken are those of the messages passed on less than a window ago. -/
theorem Tracks.length_slots_expire (h : l.Tracks past now) :
    (l.expire now).slots.length = (passed past).countP fun p => now < p.1 + l.window := by
  have hpast := h.holds.past (Nat.le_refl now)
  rw [h.holds.slots_expire, List.length_map, recent, List.countP_eq_length_filter]
  refine congrArg List.length (List.filter_congr ?_)
  intro p hp
  simp [hpast p hp]

/-- An offer is answered as the rule says. -/
theorem Tracks.offer_eq {o : Offer} (h : l.Tracks past o.time) :
    (l.offer o.time o.message).2 = due l.limit l.window past o := by
  rw [due, ← h.length_slots_expire, ← h.refused]
  rcases l.offer_outcomes o.time o.message with ⟨hfull, heq⟩ | ⟨hroom, ⟨hzero, heq⟩ | ⟨n, hn, heq⟩⟩
  · rw [if_neg (Nat.not_lt.mpr hfull), heq]
  · rw [if_pos hroom, hzero, heq]
    rfl
  · rw [if_pos hroom, hn, heq]
    rfl

/-- The count starts anew with every offer that is let through. -/
theorem refused_offer (l : Limiter) (o : Offer) :
    (l.offer o.time o.message).1.refused =
      if Answer.isRefusal (o, (l.offer o.time o.message).2) then l.refused + 1 else 0 := by
  rcases l.offer_outcomes o.time o.message with ⟨_, heq⟩ | ⟨_, ⟨_, heq⟩ | ⟨n, _, heq⟩⟩
  all_goals
    rw [heq]
    rfl

theorem Tracks.offer {o : Offer} (h : l.Tracks past o.time) (hwindow : 0 < l.window) :
    (l.offer o.time o.message).1.Tracks (past ++ [(o, (l.offer o.time o.message).2)]) o.time where
  holds := by
    rw [passed_concat]
    exact h.holds.offer hwindow o.message
  refused := by
    rw [l.refused_offer, h.refused, refusals, refusals]
    cases hrefusal : Answer.isRefusal (o, (l.offer o.time o.message).2) with
    | true => exact (streak_concat_of_pos _ hrefusal).symm
    | false => exact (streak_concat_of_neg _ hrefusal).symm

/-- While the time does not go back, all offers are answered as the rule says. -/
theorem Tracks.answers_eq {last : Nat} (h : l.Tracks past last) (hwindow : 0 < l.window)
    {offers : List Offer} (hoffers : offers.Pairwise fun o o' => o.time ≤ o'.time)
    (hlast : ∀ o ∈ offers, last ≤ o.time) :
    l.answers offers = ruled l.limit l.window past offers := by
  induction offers generalizing l past last with
  | nil => rfl
  | cons o offers ih =>
    obtain ⟨hfirst, hrest⟩ := List.pairwise_cons.mp hoffers
    have hnow := h.mono (hlast o List.mem_cons_self)
    obtain ⟨_, hslots⟩ := l.offer_slots o.time o.message
    have hlimit : (l.offer o.time o.message).1.limit = l.limit := by rw [hslots]
    have hlength : (l.offer o.time o.message).1.window = l.window := by rw [hslots]
    have hrests := ih (hnow.offer hwindow) (by rwa [hlength]) hrest hfirst
    rw [answers_cons, ruled, hrests, hlimit, hlength, hnow.offer_eq]

end Limiter

/-! ## The pipeline -/

namespace Pipeline

open Limiter

/-- Passes an offer through the last stage of a pipeline; gives it with what is passed on for it. -/
def answer (p : Pipeline) (o : Offer) : Pipeline × List Answer :=
  ((p.offer o.time o.message).1, [(o, (p.offer o.time o.message).2)])

theorem run_answer_eq (p : Pipeline) (offers : List Offer) :
    (Stage.run answer p offers).2 = p.limiter.answers offers :=
  (Stage.run_view (f := answer) (g := Limiter.answer) (P := fun _ => True) (v := limiter)
    (fun _ _ h => h) (fun _ _ _ => ⟨rfl, rfl⟩) trivial offers).2.2

theorem exists_call_of_mem_offers {p : Pipeline} {calls : List (Nat × PipelineCall)} {o : Offer}
    (ho : o ∈ p.offers calls) : ∃ c ∈ calls, o.time = c.1 := by
  induction calls generalizing p with
  | nil => cases ho
  | cons c calls ih =>
    rw [offers, List.mem_append] at ho
    rcases ho with ho | ho
    · exact ⟨c, List.mem_cons_self, time_of_mem_callOffers o ho⟩
    · obtain ⟨c', hc', htime⟩ := ih ho
      exact ⟨c', List.mem_cons_of_mem _ hc', htime⟩

/-- Offers come at the times of the calls that cause them. -/
theorem pairwise_offers {calls : List (Nat × PipelineCall)}
    (hcalls : calls.Pairwise fun c d => c.1 ≤ d.1) (p : Pipeline) :
    (p.offers calls).Pairwise fun o o' => o.time ≤ o'.time := by
  induction calls generalizing p with
  | nil => exact List.Pairwise.nil
  | cons c calls ih =>
    obtain ⟨hfirst, hrest⟩ := List.pairwise_cons.mp hcalls
    rw [offers, List.pairwise_append]
    refine ⟨List.pairwise_of_forall_mem_list ?same, ih hrest _, ?later⟩
    case same =>
      intro o ho o' ho'
      rw [time_of_mem_callOffers o ho, time_of_mem_callOffers o' ho']
    case later =>
      intro o ho o' ho'
      obtain ⟨d, hd, htime⟩ := exists_call_of_mem_offers ho'
      rw [time_of_mem_callOffers o ho, htime]
      exact hfirst d hd

theorem timed_eq_passed (p : Pipeline) (calls : List (Nat × PipelineCall)) :
    p.timed calls = passed (p.answers calls) := by
  induction calls generalizing p with
  | nil => rfl
  | cons c calls ih =>
    obtain ⟨_, hlimiter, hout⟩ := p.call_eq c.1 c.2
    obtain ⟨hstate, hpassed⟩ := p.limiter.run_answer c.1 p.time_of_mem_callOffers
    rw [map_message_callOffers] at hstate hpassed
    have htime : ∀ a ∈ p.limiter.answers (p.callOffers c), a.1.time = c.1 := by
      intro a ha
      refine p.time_of_mem_callOffers a.1 ?_
      rw [← p.limiter.map_fst_answers (p.callOffers c)]
      exact List.mem_map_of_mem ha
    rw [timed_cons, ih, answers, answers, offers, answers_append, passed_append,
      passed_of_time htime, hpassed, hstate, ← hlimiter, ← hout]

/-- While the time does not go back, every message that comes to the last stage of a pipeline is
answered as the rule about the past says, wherever it comes from: from all messages that could be
offered, and so from those that the first two stages make of some calls. -/
theorem run_new_ruled (limit window threshold : Nat) (hwindow : 0 < window) :
    (∀ offers : List Offer, offers.Pairwise (fun o o' => o.time ≤ o'.time) →
        (Stage.run answer (new limit window threshold) offers).2 = ruled limit window [] offers) ∧
      ∀ calls : List (Nat × PipelineCall), calls.Pairwise (fun c d => c.1 ≤ d.1) →
        (new limit window threshold).timed calls =
          passed (ruled limit window [] ((new limit window threshold).offers calls)) := by
  have hanswers {offers : List Offer} (h : offers.Pairwise fun o o' => o.time ≤ o'.time) :
      (new limit window threshold).limiter.answers offers = ruled limit window [] offers :=
    (tracks_new limit window).answers_eq hwindow h fun _ _ => Nat.zero_le _
  constructor
  · intro offers h
    rw [run_answer_eq, hanswers h]
  · intro calls h
    rw [timed_eq_passed, answers, hanswers (pairwise_offers h _)]

/-- A slot that is taken at 0 is not yet free at 999, and it is at 1000. -/
theorem run_new_ruled_sample :
    let offers : List Offer :=
      [⟨0, {}, .line [49]⟩, ⟨500, {}, .repeated 2⟩, ⟨999, {}, .line [51]⟩, ⟨1000, {}, .line [52]⟩]
    let calls : List (Nat × PipelineCall) :=
      [(0, .feed [49, 10]), (500, .feed [50, 10]), (999, .feed [51, 10]), (1000, .feed [52, 10])]
    offers.Pairwise (fun o o' => o.time ≤ o'.time) ∧
      ((Stage.run answer (new 2 1000 500) offers).2 = ruled 2 1000 [] offers ∧
        (ruled 2 1000 [] offers).map Prod.snd =
          [[.line [49]], [.repeated 2], [], [.suppressed 1, .line [52]]]) ∧
      calls.Pairwise (fun c d => c.1 ≤ d.1) ∧
      (new 2 1000 500).timed calls = passed (ruled 2 1000 [] ((new 2 1000 500).offers calls)) := by
  intro offers calls
  have hoffers : offers.Pairwise fun o o' => o.time ≤ o'.time := by decide
  have hcalls : calls.Pairwise fun c d => c.1 ≤ d.1 := by decide
  obtain ⟨hanswers, htimed⟩ := run_new_ruled 2 1000 500 (by decide)
  exact ⟨hoffers, ⟨hanswers offers hoffers, by decide⟩, hcalls, htimed calls hcalls⟩

end Pipeline

end LogCourier
