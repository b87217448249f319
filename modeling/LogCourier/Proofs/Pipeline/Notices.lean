import Mathlib.Data.List.Induction
import LogCourier.Proofs.Pipeline.Room

/-!
# What a notice is about

Runs of equal lines are counted before the rate limit refuses anything, so that a notice can
be let through whose line has been refused.  Here every message is followed from the run of
equal lines that it tells of (`Offer`) to what the limiter answers.  The last line offered
before a notice is the one that it counts.  If that line was let through, it is the last line
passed on before the notice too, and otherwise the collector is told in between that messages
have been refused (`Pipeline.run_new_attributed`).
-/

namespace LogCourier

namespace Message

def line? : Message → Option Bytes
  | .line b => some b
  | _ => none

/-- The last line among some messages. -/
def lastLine (ms : List Message) : Option Bytes := (ms.filterMap line?).getLast?

theorem lastLine_append (xs ys : List Message) :
    lastLine (xs ++ ys) = (lastLine ys).or (lastLine xs) := by
  rw [lastLine, List.filterMap_append, List.getLast?_append, lastLine, lastLine]

theorem lastLine_append_line (xs : List Message) (b : Bytes) :
    lastLine (xs ++ [.line b]) = some b := by
  rw [lastLine_append]
  rfl

theorem lastLine_append_of_none (xs : List Message) {ys : List Message}
    (h : ∀ m ∈ ys, m.line? = none) : lastLine (xs ++ ys) = lastLine xs := by
  have hnone : lastLine ys = none := by
    rw [lastLine, List.filterMap_eq_nil_iff.mpr h]
    rfl
  rw [lastLine_append, hnone, Option.none_or]

end Message

open Message

/-! ## Offers -/

/-- A message that the limiter is asked to let through. -/
structure Offer where
  time : Nat
  /-- The run of equal lines that the message tells of, as far as it has come. -/
  run : LineRun
  message : Message
deriving DecidableEq, Repr

namespace LineRun

/-- What is offered for a finished line: a line that goes on with a run may cause a notice about it,
and any other line settles the run and begins the next one. -/
def offers (threshold now : Nat) (r : LineRun) (line : Bytes) : LineRun × List Offer :=
  let next := (r.push threshold line).1
  (next,
    if r.last = some line then (r.push threshold line).2.map (⟨now, next, ·⟩)
    else r.owed.map (⟨now, r, ·⟩) ++ [⟨now, next, .line line⟩])

theorem map_message_offers (threshold now : Nat) (r : LineRun) (line : Bytes) :
    (r.offers threshold now line).2.map Offer.message = (r.push threshold line).2 := by
  by_cases h : r.last = some line
  · simp [offers, h, Function.comp_def]
  · simp [offers, push, h, Function.comp_def]

theorem time_of_mem_offers {threshold now : Nat} {r : LineRun} {line : Bytes} :
    ∀ o ∈ (r.offers threshold now line).2, o.time = now := by
  intro o ho
  unfold offers at ho
  split at ho
  · obtain ⟨m, _, rfl⟩ := List.mem_map.mp ho
    rfl
  · rcases List.mem_append.mp ho with ho | ho
    · obtain ⟨m, _, rfl⟩ := List.mem_map.mp ho
      rfl
    · rw [List.mem_singleton.mp ho]

theorem run_offers (threshold now : Nat) (r : LineRun) (lines : List Bytes) :
    (Stage.run (offers threshold now) r lines).1 = (Stage.run (push threshold) r lines).1 ∧
      (Stage.run (offers threshold now) r lines).2.map Offer.message =
        (Stage.run (push threshold) r lines).2 := by
  induction lines generalizing r with
  | nil => exact ⟨rfl, rfl⟩
  | cons line lines ih =>
    obtain ⟨hstate, hout⟩ := ih (r.push threshold line).1
    rw [Stage.run_cons, Stage.run_cons, List.map_append, map_message_offers]
    exact ⟨hstate, congrArg ((r.push threshold line).2 ++ ·) hout⟩

/-- Every notice is about the last line that was offered before it. -/
def Attributes (offers : List Offer) : Prop :=
  ∀ before o after, offers = before ++ o :: after → ∀ n, o.message = .repeated n →
    ∃ line, o.run = ⟨some line, n⟩ ∧ lastLine (before.map Offer.message) = some line

/-- After these offers the run stands as it is: it has not begun, or its line is the last
one offered. -/
structure Stands (r : LineRun) (past : List Offer) : Prop where
  attributes : Attributes past
  led : r = {} ∨ ∃ line, r.last = some line ∧ lastLine (past.map Offer.message) = some line

variable {r : LineRun} {past : List Offer}

theorem Attributes.concat (h : Attributes past) {o : Offer}
    (ho : ∀ n, o.message = .repeated n →
      ∃ line, o.run = ⟨some line, n⟩ ∧ lastLine (past.map Offer.message) = some line) :
    Attributes (past ++ [o]) := by
  intro before o' after heq n hn
  rcases List.eq_nil_or_concat after with rfl | ⟨after, last, rfl⟩
  · obtain ⟨rfl, hsame⟩ := List.append_inj' heq rfl
    cases hsame
    exact ho n hn
  · rw [List.concat_eq_append, ← List.cons_append, ← List.append_assoc] at heq
    obtain ⟨hpast, _⟩ := List.append_inj' heq rfl
    exact h before o' after hpast n hn

theorem Attributes.concat_line (h : Attributes past) (now : Nat) (r : LineRun) (line : Bytes) :
    Attributes (past ++ [⟨now, r, .line line⟩]) :=
  h.concat fun n hn => by cases hn

/-- What is owed for a run is about its line. -/
theorem Stands.owed (h : Stands r past) (now : Nat) :
    Attributes (past ++ r.owed.map (⟨now, r, ·⟩)) := by
  rcases h.led with rfl | ⟨line, hlast, hled⟩
  · simpa [LineRun.owed] using h.attributes
  · obtain ⟨last, repeats⟩ := r
    cases hlast
    match repeats with
    | 0 => simpa [LineRun.owed] using h.attributes
    | 1 => exact h.attributes.concat_line now _ line
    | k + 2 =>
      apply h.attributes.concat
      rintro n ⟨rfl⟩
      exact ⟨line, rfl, hled⟩

theorem Stands.push (h : Stands r past) (threshold now : Nat) (line : Bytes) :
    Stands (r.offers threshold now line).1 (past ++ (r.offers threshold now line).2) := by
  by_cases hsame : r.last = some line
  · -- The run goes on, so that its line has been the last one to be offered.
    obtain ⟨last, repeats⟩ := r
    cases hsame
    have hled : lastLine (past.map Offer.message) = some line := by
      rcases h.led with hnone | ⟨line', hlast, hled⟩
      · cases hnone
      · cases hlast
        exact hled
    by_cases hnotice : (repeats + 1) % threshold = 0
    · simp only [offers, LineRun.push, if_true, hnotice, List.map_cons, List.map_nil]
      refine ⟨h.attributes.concat ?_, Or.inr ⟨line, rfl, ?_⟩⟩
      · rintro n ⟨rfl⟩
        exact ⟨line, rfl, hled⟩
      · rw [List.map_append, lastLine_append_of_none _ (by simp [line?]), hled]
    · simp only [offers, LineRun.push, if_true, hnotice, if_false, List.map_nil, List.append_nil]
      exact ⟨h.attributes, Or.inr ⟨line, rfl, hled⟩⟩
  · simp only [offers, LineRun.push, hsame, if_false, ← List.append_assoc]
    refine ⟨(h.owed now).concat_line now _ line, Or.inr ⟨line, rfl, ?_⟩⟩
    rw [List.map_append, List.map_singleton, lastLine_append_line]

theorem Stands.run (h : Stands r past) (threshold now : Nat) (lines : List Bytes) :
    Stands (Stage.run (offers threshold now) r lines).1
      (past ++ (Stage.run (offers threshold now) r lines).2) := by
  induction lines generalizing r past with
  | nil => simpa using h
  | cons line lines ih =>
    rw [Stage.run_cons, ← List.append_assoc]
    exact ih (h.push threshold now line)

end LineRun

/-! ## Answers -/

/-- An offer together with what is passed on for it. -/
abbrev Answer := Offer × List Message

namespace Limiter

def answer (l : Limiter) (o : Offer) : Limiter × List Answer :=
  ((l.offer o.time o.message).1, [(o, (l.offer o.time o.message).2)])

/-- All offers, each with what is passed on for it. -/
def answers (l : Limiter) (offers : List Offer) : List Answer := (Stage.run answer l offers).2

variable {l : Limiter}

theorem map_fst_answers (l : Limiter) (offers : List Offer) :
    (l.answers offers).map Prod.fst = offers := by
  induction offers generalizing l with
  | nil => rfl
  | cons o offers ih =>
    rw [answers, Stage.run_cons, List.map_append]
    exact congrArg (o :: ·) (ih _)

theorem answers_append (l : Limiter) (xs ys : List Offer) :
    l.answers (xs ++ ys) = l.answers xs ++ (Stage.run answer l xs).1.answers ys := by
  rw [answers, Stage.run_append, answers, answers]

/-- The answers before and after one of them are the answers to the offers there. -/
theorem answers_eq_append {offers : List Offer} {before after : List Answer}
    (h : l.answers offers = before ++ after) :
    l.answers (before.map Prod.fst) = before ∧
      (Stage.run answer l (before.map Prod.fst)).1.answers (after.map Prod.fst) = after := by
  have hoffers : offers = before.map Prod.fst ++ after.map Prod.fst := by
    rw [← l.map_fst_answers offers, h, List.map_append]
  rw [hoffers, answers_append] at h
  refine List.append_inj h ?_
  rw [← List.length_map (f := Prod.fst), map_fst_answers, List.length_map]

/-- Nothing is passed on for an offer but its message, behind the count of those refused before. -/
theorem mem_of_mem_answers {offers : List Offer} {a : Answer} (ha : a ∈ l.answers offers)
    {m : Message} (hm : m ∈ a.2) : m = a.1.message ∨ ∃ n, m = .suppressed n := by
  obtain ⟨l', o, hmem⟩ := Stage.exists_of_mem_run ha
  rw [List.mem_singleton.mp hmem] at hm ⊢
  rcases l'.offer_outcomes o.time o.message with ⟨_, heq⟩ | ⟨_, ⟨_, heq⟩ | ⟨n, _, heq⟩⟩
  · simp [heq] at hm
  · exact Or.inl (by simpa [heq] using hm)
  · rw [heq, List.mem_cons, List.mem_singleton] at hm
    exact hm.symm.imp_right fun h => ⟨n + 1, h⟩

/-- A message that is let through is the last one passed on for its offer. -/
theorem concat_of_mem_answers {offers : List Offer} {a : Answer} (ha : a ∈ l.answers offers)
    (hout : a.2 ≠ []) : ∃ first, a.2 = first ++ [a.1.message] := by
  obtain ⟨l', o, hmem⟩ := Stage.exists_of_mem_run ha
  rw [List.mem_singleton.mp hmem] at hout ⊢
  rcases l'.offer_outcomes o.time o.message with ⟨_, heq⟩ | ⟨_, ⟨_, heq⟩ | ⟨n, _, heq⟩⟩
  · simp [heq] at hout
  · exact ⟨[], by rw [heq]; rfl⟩
  · exact ⟨[.suppressed (n + 1)], by rw [heq]; rfl⟩

theorem refused_pos_of_offer {now : Nat} {m : Message} (h : (l.offer now m).2 = []) :
    0 < (l.offer now m).1.refused := by
  rcases l.offer_outcomes now m with ⟨_, heq⟩ | ⟨_, ⟨_, heq⟩ | ⟨n, _, heq⟩⟩
  · rw [heq]
    exact Nat.succ_pos _
  · simp [heq] at h
  · simp [heq] at h

/-- The limiter remembers that it has refused the last offer. -/
theorem refused_pos_of_answers {before : List Answer} {a : Answer}
    (h : l.answers ((before ++ [a]).map Prod.fst) = before ++ [a]) (hout : a.2 = []) :
    0 < (Stage.run answer l ((before ++ [a]).map Prod.fst)).1.refused := by
  rw [List.map_append, answers_append] at h
  obtain ⟨_, hlast⟩ := List.append_inj' h rfl
  rw [List.map_append, Stage.run_append]
  apply refused_pos_of_offer
  rw [← hout, ← List.singleton_inj.mp hlast]

/-- Once messages have been refused, the first thing to be passed on is their count. -/
theorem head?_answers (hrefused : 0 < l.refused) (offers : List Offer)
    (hout : (l.answers offers).flatMap Prod.snd ≠ []) :
    ∃ k, ((l.answers offers).flatMap Prod.snd).head? = some (.suppressed (k + 1)) := by
  induction offers generalizing l with
  | nil => exact absurd rfl hout
  | cons o offers ih =>
    rw [answers, Stage.run_cons, List.flatMap_append] at hout ⊢
    simp only [answer, List.flatMap_singleton] at hout ⊢
    rcases l.offer_outcomes o.time o.message with ⟨_, heq⟩ | ⟨_, ⟨hzero, _⟩ | ⟨n, _, heq⟩⟩
    · rw [heq, List.nil_append] at hout ⊢
      exact ih (Nat.succ_pos _) hout
    · omega
    · rw [heq]
      exact ⟨n, rfl⟩

/-- Offers of one moment are answered as their messages are. -/
theorem run_answer (l : Limiter) (now : Nat) {offers : List Offer}
    (hnow : ∀ o ∈ offers, o.time = now) :
    (Stage.run answer l offers).1 =
        (Stage.run (fun l => l.offer now) l (offers.map Offer.message)).1 ∧
      (l.answers offers).flatMap Prod.snd =
        (Stage.run (fun l => l.offer now) l (offers.map Offer.message)).2 := by
  induction offers generalizing l with
  | nil => exact ⟨rfl, rfl⟩
  | cons o offers ih =>
    obtain ⟨ho, hrest⟩ := List.forall_mem_cons.mp hnow
    obtain ⟨hstate, hout⟩ := ih (l.offer now o.message).1 hrest
    rw [answers, Stage.run_cons, List.map_cons, Stage.run_cons, List.flatMap_append]
    simp only [answer, List.flatMap_singleton, ho]
    exact ⟨hstate, congrArg ((l.offer now o.message).2 ++ ·) hout⟩

end Limiter

/-! ## Pipelines -/

namespace Pipeline

/-- What the limiter is asked to let through in a call. -/
def callOffers (p : Pipeline) (c : Nat × PipelineCall) : List Offer :=
  match c.2 with
  | .feed chunk => (Stage.run (LineRun.offers p.threshold c.1) p.run (p.buffer.feed chunk).2).2
  | .restart => p.run.owed.map (⟨c.1, p.run, ·⟩)

def offers (p : Pipeline) : List (Nat × PipelineCall) → List Offer
  | [] => []
  | c :: calls => p.callOffers c ++ (p.call c).1.offers calls

/-- All that the limiter is asked to let through in some calls, and what is passed on for it. -/
def answers (p : Pipeline) (calls : List (Nat × PipelineCall)) : List Answer :=
  p.limiter.answers (p.offers calls)

theorem map_message_callOffers (p : Pipeline) (c : Nat × PipelineCall) :
    (p.callOffers c).map Offer.message = p.offered c.2 := by
  obtain ⟨now, c⟩ := c
  cases c with
  | feed chunk => exact (LineRun.run_offers p.threshold now p.run _).2
  | restart => simp [callOffers, offered, Function.comp_def]

theorem time_of_mem_callOffers {p : Pipeline} {c : Nat × PipelineCall} :
    ∀ o ∈ p.callOffers c, o.time = c.1 := by
  obtain ⟨now, c⟩ := c
  intro o ho
  cases c with
  | feed chunk =>
    obtain ⟨r, line, hmem⟩ := Stage.exists_of_mem_run ho
    exact LineRun.time_of_mem_offers o hmem
  | restart =>
    obtain ⟨m, _, rfl⟩ := List.mem_map.mp ho
    rfl

/-- The answers are all that is passed on. -/
theorem flatMap_answers (p : Pipeline) (calls : List (Nat × PipelineCall)) :
    (p.answers calls).flatMap Prod.snd = (Stage.run call p calls).2 := by
  induction calls generalizing p with
  | nil => rfl
  | cons c calls ih =>
    obtain ⟨_, hlimiter, hout⟩ := p.call_eq c.1 c.2
    obtain ⟨hstate, hpassed⟩ := p.limiter.run_answer c.1 p.time_of_mem_callOffers
    rw [map_message_callOffers] at hstate hpassed
    rw [answers, offers, Limiter.answers_append, List.flatMap_append, hpassed, hstate,
      ← hlimiter, ← hout, Stage.run_cons]
    exact congrArg ((p.call c).2 ++ ·) (ih (p.call c).1)

theorem stands_call {p : Pipeline} {past : List Offer} (h : p.run.Stands past)
    (c : Nat × PipelineCall) : (p.call c).1.run.Stands (past ++ p.callOffers c) := by
  obtain ⟨now, c⟩ := c
  cases c with
  | feed chunk =>
    have hrun := (p.feed_eq now chunk).2.2.1
    rw [← (LineRun.run_offers p.threshold now p.run _).1] at hrun
    change (p.feed now chunk).1.run.Stands _
    rw [hrun]
    exact h.run p.threshold now _
  | restart =>
    change (p.restart now).1.run.Stands _
    rw [(p.restart_eq now).2.2.1]
    exact ⟨h.owed now, Or.inl rfl⟩

theorem attributes_offers {p : Pipeline} {past : List Offer} (h : p.run.Stands past)
    (calls : List (Nat × PipelineCall)) : LineRun.Attributes (past ++ p.offers calls) := by
  induction calls generalizing p past with
  | nil => simpa [offers] using h.attributes
  | cons c calls ih =>
    rw [offers, ← List.append_assoc]
    exact ih (stands_call h c)

theorem attributes_new (limit window threshold : Nat) (calls : List (Nat × PipelineCall)) :
    LineRun.Attributes ((new limit window threshold).offers calls) := by
  have hstands : LineRun.Stands (new limit window threshold).run [] :=
    ⟨fun before o after h => by simp at h, Or.inl rfl⟩
  exact attributes_offers hstands calls

/-- The last line among the offers that have been answered. -/
theorem exists_last_line {before : List Answer} {line : Bytes}
    (h : lastLine (before.map fun a => a.1.message) = some line) :
    ∃ earlier first between, before = earlier ++ first :: between ∧ first.1.message = .line line ∧
      ∀ a ∈ between, a.1.message.line? = none := by
  induction before using List.reverseRecOn with
  | nil => cases h
  | append_singleton before a ih =>
    rw [List.map_append, List.map_singleton, lastLine_append] at h
    cases hm : a.1.message with
    | line b =>
      rw [hm] at h
      cases h
      exact ⟨before, a, [], rfl, hm, nofun⟩
    | repeated n | suppressed n =>
      rw [hm] at h
      obtain ⟨earlier, first, between, rfl, hfirst, hbetween⟩ := ih h
      refine ⟨earlier, first, between ++ [a], by simp, hfirst, ?_⟩
      intro a' ha'
      rcases List.mem_append.mp ha' with ha' | ha'
      · exact hbetween a' ha'
      · rw [List.mem_singleton.mp ha', hm]
        rfl

/-- What is known of a notice that is let through: `before` has been answered before it. -/
structure Attributed (before : List Answer) (notice : Answer) (n : Nat) (line : Bytes)
    (earlier : List Answer) (first : Answer) (between : List Answer) : Prop where
  /-- The notice counts the repetitions of this line, -/
  counts : notice.1.run = ⟨some line, n⟩
  /-- which is the last one offered before it. -/
  before_eq : before = earlier ++ first :: between
  first_eq : first.1.message = .line line
  between_notices : ∀ a ∈ between, a.1.message.line? = none
  /-- If the line was let through, it is the last one passed on before the notice. -/
  passed : first.2 ≠ [] → lastLine (before.flatMap Prod.snd) = some line
  /-- If it was refused, the next thing to be passed on says that messages have been refused. -/
  announced : first.2 = [] →
    ∃ k, (between.flatMap Prod.snd ++ notice.2).head? = some (.suppressed (k + 1))

/-- Whenever a notice about a run of equal lines is let through, the last line offered before it is
the one it counts.  If that line was let through, it is the last line passed on before the notice,
and otherwise the refusal has been announced since. -/
theorem run_new_attributed (limit window threshold : Nat) (calls : List (Nat × PipelineCall)) :
    let answers := (new limit window threshold).answers calls
    (Stage.run call (new limit window threshold) calls).2 = answers.flatMap Prod.snd ∧
      ∀ before notice after n, answers = before ++ notice :: after → .repeated n ∈ notice.2 →
        ∃ line earlier first between, Attributed before notice n line earlier first between := by
  intro answers
  refine ⟨(flatMap_answers _ calls).symm, ?_⟩
  intro before notice after n hanswers hn
  have hmem {a : Answer} (ha : a ∈ before ++ [notice]) : a ∈ answers := by
    rw [hanswers, List.append_cons]
    exact List.mem_append_left _ ha
  have hmessage : notice.1.message = .repeated n := by
    rcases Limiter.mem_of_mem_answers (hmem (List.mem_append_right _ List.mem_cons_self)) hn
      with h | ⟨k, h⟩
    · exact h.symm
    · cases h
  have hoffers : (new limit window threshold).offers calls =
      before.map Prod.fst ++ notice.1 :: after.map Prod.fst := by
    rw [← List.map_cons, ← List.map_append, ← hanswers]
    exact (Limiter.map_fst_answers _ _).symm
  obtain ⟨line, hcounts, hlast⟩ :=
    attributes_new limit window threshold calls _ _ _ hoffers n hmessage
  rw [List.map_map] at hlast
  obtain ⟨earlier, first, between, rfl, hfirst, hbetween⟩ := exists_last_line hlast
  refine ⟨line, earlier, first, between, hcounts, rfl, hfirst, hbetween, ?passed, ?announced⟩
  case passed =>
    intro hout
    obtain ⟨others, hline⟩ := Limiter.concat_of_mem_answers (hmem (by simp)) hout
    rw [List.flatMap_append, List.flatMap_cons, ← List.append_assoc, lastLine_append_of_none,
      hline, hfirst, ← List.append_assoc, lastLine_append_line]
    intro m hm
    obtain ⟨a, ha, hm⟩ := List.mem_flatMap.mp hm
    rcases Limiter.mem_of_mem_answers (hmem (by simp [ha])) hm with rfl | ⟨k, rfl⟩
    · exact hbetween a ha
    · rfl
  case announced =>
    intro hout
    -- The limiter that has refused the line goes on with the offers up to the notice.
    have hsplit : answers = (earlier ++ [first]) ++ ((between ++ [notice]) ++ after) := by
      rw [hanswers]
      simp
    obtain ⟨hupto, hrest⟩ := Limiter.answers_eq_append hsplit
    have hnext := (Limiter.answers_eq_append hrest).1
    have hrefused := Limiter.refused_pos_of_answers hupto hout
    have hsome : (between ++ [notice]).flatMap Prod.snd ≠ [] := by
      rw [List.flatMap_append, List.flatMap_singleton]
      exact List.append_ne_nil_of_right_ne_nil _ (List.ne_nil_of_mem hn)
    have hhead := Limiter.head?_answers hrefused _ (hnext.symm ▸ hsome)
    rw [hnext, List.flatMap_append, List.flatMap_singleton] at hhead
    exact hhead

/-- A line is refused and comes again twice: the notice follows another line. -/
theorem notice_of_refused_line :
    ¬ ∀ before notice after n,
      (new 1 1000 2).answers
          [(0, .feed [97, 10]), (0, .feed [98, 10]), (1000, .feed [98, 10, 98, 10])] =
        before ++ notice :: after → .repeated n ∈ notice.2 →
          lastLine (before.flatMap Prod.snd) = notice.1.run.last :=
  fun h => absurd
    (h [(⟨0, ⟨some [97], 0⟩, .line [97]⟩, [.line [97]]), (⟨0, ⟨some [98], 0⟩, .line [98]⟩, [])]
      (⟨1000, ⟨some [98], 2⟩, .repeated 2⟩, [.suppressed 1, .repeated 2]) [] 2 (by decide)
      (by decide))
    (by decide)

/-- Of the two notices about a line that has been refused, the first one comes with the count of
what has been refused. -/
theorem run_new_attributed_sample :
    let calls : List (Nat × PipelineCall) :=
      [(0, .feed [97, 10]), (0, .feed [98, 10]), (1000, .feed [98, 10, 98, 10]),
        (2000, .feed [98, 10, 98, 10])]
    let before : List Answer :=
      [(⟨0, ⟨some [97], 0⟩, .line [97]⟩, [.line [97]]), (⟨0, ⟨some [98], 0⟩, .line [98]⟩, []),
        (⟨1000, ⟨some [98], 2⟩, .repeated 2⟩, [.suppressed 1, .repeated 2])]
    let notice : Answer := (⟨2000, ⟨some [98], 4⟩, .repeated 4⟩, [.repeated 4])
    (new 1 1000 2).answers calls = before ++ notice :: [] ∧ .repeated 4 ∈ notice.2 ∧
      ∃ line earlier first between, Attributed before notice 4 line earlier first between := by
  intro calls before notice
  have hanswers : (new 1 1000 2).answers calls = before ++ notice :: [] := by decide
  have hnotice : .repeated 4 ∈ notice.2 := by decide
  exact ⟨hanswers, hnotice,
    (run_new_attributed 1 1000 2 calls).2 before notice [] 4 hanswers hnotice⟩

end Pipeline

end LogCourier
