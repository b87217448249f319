import Mathlib.Algebra.GroupWithZero.Nat
import LogCourier.Proofs.Pipeline.Notices
import LogCourier.Proofs.Pipeline.Transcript
import LogCourier.Proofs.Pipeline.Window

/-!
# What a pipeline counts

Every message that reaches the limiter is either passed on or counted as suppressed, and what has
been counted is announced later or still to be announced.  The lines are those of all generations,
and those that are no duplicates differ from the line before them (`Pipeline.run_new_tallied`).

The counters are followed through the stages in two parts: a chunk comes to its lines one after the
other (`Pipeline.feed_eq_run_complete`), which settles the counts of lines, and the limiter's
answers to the offers of a call settle the other ones (`Pipeline.suppressed_call`).
-/

namespace LogCourier

/-! ## Lines that differ from the one before -/

namespace LineRun

/-- How many lines differ from the one before them; the first one comes after `before`. -/
def changes (before : Option Bytes) (lines : List Bytes) : Nat :=
  ((before :: lines.map some).zip lines).countP fun p => p.1 ≠ some p.2

variable {before : Option Bytes}

@[simp] theorem changes_nil : changes before [] = 0 := rfl

theorem changes_cons (line : Bytes) (lines : List Bytes) :
    changes before (line :: lines) =
      changes (some line) lines + if before = some line then 0 else 1 := by
  rw [changes, List.map_cons, List.zip_cons_cons, List.countP_cons, changes]
  congr 1
  by_cases h : before = some line <;> simp [h]

theorem changes_append (xs ys : List Bytes) :
    changes before (xs ++ ys) = changes before xs + changes (xs.getLast?.or before) ys := by
  induction xs generalizing before with
  | nil => simp
  | cons x xs ih =>
    rw [List.cons_append, changes_cons, ih, changes_cons, List.getLast?_cons]
    cases xs.getLast? <;> simp <;> omega

theorem last_push (threshold : Nat) (r : LineRun) (line : Bytes) :
    (r.push threshold line).1.last = some line := by
  rw [push]
  split
  next h => exact h
  next => rfl

theorem last_run_push (threshold : Nat) (r : LineRun) (lines : List Bytes) :
    (Stage.run (push threshold) r lines).1.last = lines.getLast?.or r.last := by
  induction lines generalizing r with
  | nil => rfl
  | cons line lines ih =>
    rw [Stage.run_cons, ih, last_push, List.getLast?_cons]
    cases lines.getLast? <;> rfl

theorem last_ofLines (lines : List Bytes) : (ofLines lines).last = lines.getLast? := by
  have h := last_run_push 1 {} lines
  rw [run_empty] at h
  exact h.trans Option.or_none

end LineRun

namespace PipelineCall

/-- The lines of every generation, of which the last one goes on. -/
def lines (calls : List PipelineCall) : List (List Bytes) :=
  ((generations calls).1 ++ [current calls]).map Bytes.lines

/-- A number that is counted over the lines of all generations. -/
theorem sum_lines_feed (n : List Bytes → Nat) (calls : List PipelineCall) (chunk : Bytes) {k : Nat}
    (hk : n (Bytes.lines (current calls ++ chunk)) = n (current calls).lines + k) :
    ((lines (calls ++ [.feed chunk])).map n).sum = ((lines calls).map n).sum + k := by
  rw [lines, current_feed, generations_feed, lines]
  simp only [List.map_append, List.map_cons, List.map_nil, List.sum_append, List.sum_cons,
    List.sum_nil]
  omega

theorem sum_lines_restart {n : List Bytes → Nat} (hn : n [] = 0) (calls : List PipelineCall) :
    ((lines (calls ++ [.restart])).map n).sum = ((lines calls).map n).sum := by
  have hnone : n (Bytes.lines []) = 0 := hn
  rw [lines, current_restart, generations_restart, lines]
  simp only [List.map_append, List.map_cons, List.map_nil, List.sum_append, List.sum_cons,
    List.sum_nil, hnone, Nat.add_zero]
  rfl

end PipelineCall

/-! ## Announcements -/

namespace Message

/-- How many refused messages are announced. -/
def announced : Message → Nat
  | .suppressed n => n
  | .line _ | .repeated _ => 0

def isAnnouncement : Message → Bool
  | .suppressed _ => true
  | .line _ | .repeated _ => false

@[simp] theorem announced_suppressed (n : Nat) : (suppressed n).announced = n := rfl

@[simp] theorem isAnnouncement_suppressed (n : Nat) : (suppressed n).isAnnouncement = true := rfl

theorem isAnnouncement_eq_false {m : Message} (h : ∀ n, m ≠ .suppressed n) :
    m.isAnnouncement = false ∧ m.announced = 0 := by
  cases m with
  | line | «repeated» => exact ⟨rfl, rfl⟩
  | suppressed n => exact absurd rfl (h n)

end Message

open Message

/-- Whether nothing is passed on for an offer. -/
def Answer.isRefusal (a : Answer) : Bool := a.2.isEmpty

namespace Limiter

theorem answers_cons (l : Limiter) (o : Offer) (offers : List Offer) :
    l.answers (o :: offers) =
      (o, (l.offer o.time o.message).2) :: (l.offer o.time o.message).1.answers offers := by
  rw [answers, Stage.run_cons]
  rfl

/-- What the answer to one offer adds to the books. -/
theorem offer_books (l : Limiter) {o : Offer} (ho : ∀ n, o.message ≠ .suppressed n) :
    let out := (l.offer o.time o.message).2
    (out.map announced).sum + (l.offer o.time o.message).1.refused =
        l.refused + (if Answer.isRefusal (o, out) then 1 else 0) ∧
      1 + out.countP isAnnouncement = out.length + if Answer.isRefusal (o, out) then 1 else 0 := by
  obtain ⟨hnotice, hcount⟩ := isAnnouncement_eq_false ho
  rcases l.offer_outcomes o.time o.message with ⟨_, heq⟩ | ⟨_, ⟨hzero, heq⟩ | ⟨n, hn, heq⟩⟩
  · rw [heq]
    exact ⟨Nat.zero_add _, rfl⟩
  · rw [heq]
    constructor
    · simp [hcount, hzero, takeSlot, Answer.isRefusal]
    · simp [hnotice, Answer.isRefusal]
  · rw [heq]
    constructor
    · simp [hcount, hn, takeSlot, Answer.isRefusal]
    · simp [hnotice, List.countP_cons, Answer.isRefusal]

/-- Refused messages have been announced or are still to be, and every offer but these is
passed on. -/
theorem answers_books (l : Limiter) {offers : List Offer}
    (hoffers : ∀ o ∈ offers, ∀ n, o.message ≠ .suppressed n) :
    (((l.answers offers).flatMap Prod.snd).map announced).sum +
          (Stage.run answer l offers).1.refused =
        l.refused + (l.answers offers).countP Answer.isRefusal ∧
      offers.length + ((l.answers offers).flatMap Prod.snd).countP isAnnouncement =
        ((l.answers offers).flatMap Prod.snd).length +
          (l.answers offers).countP Answer.isRefusal := by
  induction offers generalizing l with
  | nil => exact ⟨Nat.add_comm _ _, rfl⟩
  | cons o offers ih =>
    obtain ⟨ho, hrest⟩ := List.forall_mem_cons.mp hoffers
    obtain ⟨hrefused, hpassed⟩ := l.offer_books ho
    obtain ⟨hrefuseds, hpasseds⟩ := ih (l.offer o.time o.message).1 hrest
    have hlast : (Stage.run answer l (o :: offers)).1 =
        (Stage.run answer (l.offer o.time o.message).1 offers).1 := by
      rw [Stage.run_cons]
      rfl
    simp only [answers_cons, hlast, List.flatMap_cons, List.countP_cons, List.map_append,
      List.sum_append, List.countP_append, List.length_append, List.length_cons]
    constructor <;> omega

/-- An offer is refused, or its message is passed on, behind the count of those refused before. -/
theorem answers_cases {l : Limiter} {offers : List Offer} {a : Answer} (ha : a ∈ l.answers offers) :
    a.2 = [] ∨ a.2 = [a.1.message] ∨ ∃ n, a.2 = [.suppressed (n + 1), a.1.message] := by
  obtain ⟨l', o, hmem⟩ := Stage.exists_of_mem_run ha
  rw [List.mem_singleton.mp hmem]
  rcases l'.offer_outcomes o.time o.message with ⟨_, heq⟩ | ⟨_, ⟨_, heq⟩ | ⟨n, _, heq⟩⟩
  · exact .inl (by rw [heq])
  · exact .inr (.inl (by rw [heq]))
  · exact .inr (.inr ⟨n, by rw [heq]⟩)

end Limiter

/-! ## A chunk comes to its lines -/

namespace Pipeline

open PipelineCall

variable {now : Nat}

def withBuffer (p : Pipeline) (b : LineBuffer) : Pipeline := { p with buffer := b }

theorem run_offer_withBuffer (p : Pipeline) (b : LineBuffer) (ms : List Message) :
    Stage.run (offer now) (p.withBuffer b) ms =
      ((Stage.run (offer now) p ms).1.withBuffer b, (Stage.run (offer now) p ms).2) := by
  induction ms generalizing p with
  | nil => rfl
  | cons m ms ih =>
    have hfirst : (p.withBuffer b).offer now m =
        ((p.offer now m).1.withBuffer b, (p.offer now m).2) :=
      rfl
    rw [Stage.run_cons, hfirst, ih, Stage.run_cons]

theorem complete_withBuffer (p : Pipeline) (b : LineBuffer) (line : Bytes) :
    (p.withBuffer b).complete now line =
      ((p.complete now line).1.withBuffer b, (p.complete now line).2) := by
  rw [complete, complete]
  exact run_offer_withBuffer { p with run := _, counters := _ } b _

theorem run_complete_withBuffer (p : Pipeline) (b : LineBuffer) (lines : List Bytes) :
    Stage.run (complete now) (p.withBuffer b) lines =
      ((Stage.run (complete now) p lines).1.withBuffer b,
        (Stage.run (complete now) p lines).2) := by
  induction lines generalizing p with
  | nil => rfl
  | cons line lines ih => rw [Stage.run_cons, complete_withBuffer, ih, Stage.run_cons]

/-- The lines that a chunk finishes go through the last two stages one after the other. -/
theorem feed_eq_run_complete (p : Pipeline) (now : Nat) (chunk : Bytes) :
    p.feed now chunk =
      ((Stage.run (complete now) p (p.buffer.feed chunk).2).1.withBuffer (p.buffer.feed chunk).1,
        (Stage.run (complete now) p (p.buffer.feed chunk).2).2) := by
  induction chunk generalizing p with
  | nil => rfl
  | cons byte chunk ih =>
    have hpush : p.push now byte =
        ((Stage.run (complete now) p (p.buffer.push byte).2).1.withBuffer (p.buffer.push byte).1,
          (Stage.run (complete now) p (p.buffer.push byte).2).2) :=
      run_complete_withBuffer p _ _
    have hlines : p.buffer.feed (byte :: chunk) =
        (((p.buffer.push byte).1.feed chunk).1,
          (p.buffer.push byte).2 ++ ((p.buffer.push byte).1.feed chunk).2) :=
      Stage.run_cons _ _ _ _
    have hrest := ih
      ((Stage.run (complete now) p (p.buffer.push byte).2).1.withBuffer (p.buffer.push byte).1)
    rw [run_complete_withBuffer] at hrest
    rw [feed, Stage.run_cons, hpush, hlines, Stage.run_append]
    exact congrArg (fun r => (r.1, (Stage.run (complete now) p (p.buffer.push byte).2).2 ++ r.2))
      hrest

/-! ## Lines and duplicates -/

theorem lines_run_offer (now : Nat) (p : Pipeline) (ms : List Message) :
    (Stage.run (offer now) p ms).1.counters.lines = p.counters.lines ∧
      (Stage.run (offer now) p ms).1.counters.duplicates = p.counters.duplicates := by
  induction ms generalizing p with
  | nil => exact ⟨rfl, rfl⟩
  | cons m ms ih =>
    rw [Stage.run_cons]
    exact ih (p.offer now m).1

theorem lines_run_complete (now : Nat) (p : Pipeline) (lines : List Bytes) :
    (Stage.run (complete now) p lines).1.counters.lines = p.counters.lines + lines.length ∧
      (Stage.run (complete now) p lines).1.counters.duplicates + LineRun.changes p.run.last lines =
        p.counters.duplicates + lines.length := by
  induction lines generalizing p with
  | nil => exact ⟨rfl, rfl⟩
  | cons line lines ih =>
    obtain ⟨hlines, hduplicates⟩ := ih (p.complete now line).1
    have hlast : (p.complete now line).1.run.last = some line := by
      have hrun := congrArg Prod.fst (p.complete_eq now line).2.1
      change (p.complete now line).1.run = (p.run.push p.threshold line).1 at hrun
      rw [hrun, LineRun.last_push]
    obtain ⟨hfirst, hagain⟩ : (p.complete now line).1.counters.lines = p.counters.lines + 1 ∧
        (p.complete now line).1.counters.duplicates =
          p.counters.duplicates + if p.run.last = some line then 1 else 0 :=
      lines_run_offer _ _ _
    rw [hlast] at hduplicates
    rw [Stage.run_cons, LineRun.changes_cons, List.length_cons]
    simp only
    rw [hlines, hfirst]
    refine ⟨by omega, ?_⟩
    rw [hagain] at hduplicates
    by_cases hsame : p.run.last = some line
    · rw [if_pos hsame] at hduplicates ⊢
      omega
    · rw [if_neg hsame] at hduplicates ⊢
      omega

/-- What has been counted of the lines of some calls. -/
structure CountsLines (p : Pipeline) (calls : List PipelineCall) : Prop where
  lines : p.counters.lines = ((lines calls).map List.length).sum
  duplicates : p.counters.duplicates + ((PipelineCall.lines calls).map (LineRun.changes none)).sum =
    p.counters.lines

theorem CountsLines.call {p : Pipeline} {past : List PipelineCall} (h : p.CountsLines past)
    (hstands : p.StandsAfter past) (now : Nat) (c : PipelineCall) :
    (p.call (now, c)).1.CountsLines (past ++ [c]) := by
  cases c with
  | feed chunk =>
    obtain ⟨hlines, hduplicates⟩ := lines_run_complete now p (p.buffer.feed chunk).2
    have hfeed : (p.call (now, .feed chunk)).1.counters =
        (Stage.run (complete now) p (p.buffer.feed chunk).2).1.counters :=
      congrArg (fun r => r.1.counters) (p.feed_eq_run_complete now chunk)
    rw [← hfeed] at hlines hduplicates
    -- The lines that the chunk finishes come after those that stand already.
    have hmore := (LineBuffer.feed_rest (current past) chunk).2
    rw [← hstands.buffer] at hmore
    rw [hstands.run, LineRun.last_ofLines] at hduplicates
    have hlength := sum_lines_feed List.length past chunk
      (k := (p.buffer.feed chunk).2.length) (by rw [hmore, List.length_append])
    have hchanges := sum_lines_feed (LineRun.changes none) past chunk
      (k := LineRun.changes (current past).lines.getLast? (p.buffer.feed chunk).2)
      (by rw [hmore, LineRun.changes_append, Option.or_none])
    have hbefore := h.duplicates
    constructor
    · rw [hlines, h.lines, hlength]
    · rw [hchanges, hlines]
      omega
  | restart =>
    obtain ⟨hlines, hduplicates⟩ := lines_run_offer now p p.run.owed
    constructor
    · rw [sum_lines_restart rfl]
      exact hlines.trans h.lines
    · rw [sum_lines_restart LineRun.changes_nil]
      change (Stage.run (offer now) p p.run.owed).1.counters.duplicates + _ =
        (Stage.run (offer now) p p.run.owed).1.counters.lines
      rw [hlines, hduplicates]
      exact h.duplicates

theorem CountsLines.calls {p : Pipeline} {past : List PipelineCall} (h : p.CountsLines past)
    (hstands : p.StandsAfter past) (calls : List (Nat × PipelineCall)) :
    (Stage.run Pipeline.call p calls).1.CountsLines (past ++ calls.map Prod.snd) := by
  induction calls generalizing p past with
  | nil => simpa using h
  | cons c calls ih =>
    rw [Stage.run_cons, List.map_cons, List.append_cons]
    exact ih (h.call hstands c.1 c.2) (hstands.call c.1 c.2)

/-! ## Refusals -/

theorem suppressed_run_offer (p : Pipeline) {offers : List Offer}
    (hnow : ∀ o ∈ offers, o.time = now) :
    (Stage.run (offer now) p (offers.map Offer.message)).1.counters.suppressed =
      p.counters.suppressed + (p.limiter.answers offers).countP Answer.isRefusal := by
  induction offers generalizing p with
  | nil => rfl
  | cons o offers ih =>
    obtain ⟨rfl, hrest⟩ := List.forall_mem_cons.mp hnow
    rw [List.map_cons, Stage.run_cons, Limiter.answers_cons, List.countP_cons]
    simp only
    rw [ih (p.offer o.time o.message).1 hrest, Nat.add_comm (List.countP _ _), ← Nat.add_assoc]
    rfl

theorem suppressed_run_complete (p : Pipeline) (lines : List Bytes) :
    (Stage.run (complete now) p lines).1.counters.suppressed =
      p.counters.suppressed +
        (p.limiter.answers (Stage.run (LineRun.offers p.threshold now) p.run lines).2).countP
          Answer.isRefusal := by
  induction lines generalizing p with
  | nil => rfl
  | cons line lines ih =>
    have hnow : ∀ o ∈ (p.run.offers p.threshold now line).2, o.time = now :=
      LineRun.time_of_mem_offers
    have hmessages := LineRun.map_message_offers p.threshold now p.run line
    obtain ⟨⟨hthreshold, _⟩, hstages, _⟩ := p.complete_eq now line
    obtain ⟨hrun, hlimiter⟩ := Prod.mk.inj hstages
    have hfirst : (p.complete now line).1.counters.suppressed = p.counters.suppressed +
        (p.limiter.answers (p.run.offers p.threshold now line).2).countP Answer.isRefusal := by
      unfold complete
      simp only
      rw [← hmessages]
      exact suppressed_run_offer _ hnow
    have hnext : (p.complete now line).1.limiter =
        (Stage.run Limiter.answer p.limiter (p.run.offers p.threshold now line).2).1 := by
      rw [(p.limiter.run_answer now hnow).1, hmessages]
      exact hlimiter
    rw [Stage.run_cons, Stage.run_cons]
    simp only
    rw [ih (p.complete now line).1, hthreshold, hrun, hnext, hfirst, Limiter.answers_append,
      List.countP_append, Nat.add_assoc]
    rfl

/-- A call counts the offers that the limiter refuses. -/
theorem suppressed_call (p : Pipeline) (c : Nat × PipelineCall) :
    (p.call c).1.counters.suppressed =
      p.counters.suppressed + (p.limiter.answers (p.callOffers c)).countP Answer.isRefusal := by
  have hnow := p.time_of_mem_callOffers (c := c)
  obtain ⟨now, c⟩ := c
  cases c with
  | feed chunk =>
    change (p.feed now chunk).1.counters.suppressed = _
    rw [feed_eq_run_complete]
    exact suppressed_run_complete p _
  | restart =>
    have hmessages := p.map_message_callOffers (now, .restart)
    have hrun := suppressed_run_offer p hnow
    rw [hmessages] at hrun
    exact hrun

theorem limiter_call (p : Pipeline) (c : Nat × PipelineCall) :
    (p.call c).1.limiter = (Stage.run Limiter.answer p.limiter (p.callOffers c)).1 := by
  rw [(p.limiter.run_answer c.1 p.time_of_mem_callOffers).1, map_message_callOffers]
  exact (p.call_eq c.1 c.2).2.1

theorem suppressed_calls (p : Pipeline) (calls : List (Nat × PipelineCall)) :
    (Stage.run call p calls).1.counters.suppressed =
        p.counters.suppressed + (p.answers calls).countP Answer.isRefusal ∧
      (Stage.run call p calls).1.limiter =
        (Stage.run Limiter.answer p.limiter (p.offers calls)).1 := by
  induction calls generalizing p with
  | nil => exact ⟨rfl, rfl⟩
  | cons c calls ih =>
    obtain ⟨hsuppressed, hlimiter⟩ := ih (p.call c).1
    rw [Stage.run_cons, answers, offers, Limiter.answers_append, List.countP_append, ← limiter_call,
      Stage.run_append, ← limiter_call]
    simp only
    rw [hsuppressed, suppressed_call, Nat.add_assoc, answers]
    exact ⟨rfl, hlimiter⟩

/-! ## Offers -/

theorem offers_ne_suppressed (p : Pipeline) (calls : List (Nat × PipelineCall)) :
    ∀ o ∈ p.offers calls, ∀ n, o.message ≠ .suppressed n := by
  induction calls generalizing p with
  | nil => exact fun o ho => by simp [offers] at ho
  | cons c calls ih =>
    intro o ho
    rw [offers, List.mem_append] at ho
    rcases ho with ho | ho
    · apply p.offered_ne_suppressed c.2
      rw [← map_message_callOffers]
      exact List.mem_map_of_mem ho
    · exact ih (p.call c).1 o ho

/-- The messages offered are those of the transcript. -/
theorem StandsAfter.map_message_offers {p : Pipeline} {past : List PipelineCall}
    (h : p.StandsAfter past) (calls : List (Nat × PipelineCall)) :
    transcript p.threshold (past ++ calls.map Prod.snd) =
      transcript p.threshold past ++ (p.offers calls).map Offer.message := by
  induction calls generalizing p past with
  | nil => simp [offers]
  | cons c calls ih =>
    have hrest := ih (h.call c.1 c.2)
    rw [(p.call_eq c.1 c.2).1, h.transcript_concat] at hrest
    rw [List.map_cons, List.append_cons, offers, List.map_append, map_message_callOffers,
      ← List.append_assoc]
    exact hrest

/-! ## The accounts -/

/-- A pipeline on which these calls have been made, with the messages that it has passed on, and the
limiter's answers to all that it has been offered. -/
structure Accounted (threshold : Nat) (calls : List PipelineCall) (answers : List Answer)
    (p : Pipeline) (out : List Message) : Prop where
  emitted : p.counters.emitted = out.length
  /-- What has been refused has been announced, or is still to be announced. -/
  suppressed : p.counters.suppressed = (out.map announced).sum + p.limiter.refused
  lines : p.counters.lines = ((PipelineCall.lines calls).map List.length).sum
  /-- All other lines differ from the one before them in their generation, or have none. -/
  duplicates : p.counters.duplicates + ((PipelineCall.lines calls).map (LineRun.changes none)).sum =
    p.counters.lines
  offered : answers.map (fun a => a.1.message) = transcript threshold calls
  /-- Announcements are not offered: the limiter makes them itself. -/
  own : ∀ m ∈ transcript threshold calls, m.isAnnouncement = false
  passed : answers.flatMap Prod.snd = out
  /-- An offer is refused, or it is passed on, and then it may be behind an announcement. -/
  answered : ∀ a ∈ answers,
    a.2 = [] ∨ a.2 = [a.1.message] ∨ ∃ n, a.2 = [.suppressed (n + 1), a.1.message]
  refused : p.counters.suppressed = answers.countP Answer.isRefusal
  balance : (transcript threshold calls).length + out.countP isAnnouncement =
    p.counters.emitted + p.counters.suppressed

/-- Whatever calls are made on a new pipeline, at whatever times, its counters account for all lines
and for every message that has been offered. -/
theorem run_new_tallied (limit window threshold : Nat) (calls : List (Nat × PipelineCall)) :
    Accounted (max threshold 1) (calls.map Prod.snd) ((new limit window threshold).answers calls)
      (Stage.run call (new limit window threshold) calls).1
      (Stage.run call (new limit window threshold) calls).2 := by
  have hstands := new_standsAfter limit window threshold
  have hlines : (new limit window threshold).CountsLines [] := ⟨rfl, rfl⟩
  have hemitted := Stage.run_count (n := fun p : Pipeline => p.counters.emitted) emitted_call
    (new limit window threshold) calls
  have hpassed := (new limit window threshold).flatMap_answers calls
  have hoffers := (new limit window threshold).offers_ne_suppressed calls
  obtain ⟨hsuppressed, hlimiter⟩ := (new limit window threshold).suppressed_calls calls
  obtain ⟨hrefused, hbalance⟩ := (new limit window threshold).limiter.answers_books hoffers
  have hcounts := hlines.calls hstands calls
  have htranscript : ((new limit window threshold).offers calls).map Offer.message =
      transcript (max threshold 1) (calls.map Prod.snd) :=
    (hstands.map_message_offers calls).symm
  have hmessages : ((new limit window threshold).answers calls).map (fun a => a.1.message) =
      ((new limit window threshold).offers calls).map Offer.message := by
    rw [← Limiter.map_fst_answers _ ((new limit window threshold).offers calls), List.map_map]
    rfl
  rw [← hlimiter] at hrefused
  change ((((new limit window threshold).answers calls).flatMap Prod.snd).map announced).sum + _ =
    0 + _ at hrefused
  change _ + (((new limit window threshold).answers calls).flatMap Prod.snd).countP isAnnouncement =
    (((new limit window threshold).answers calls).flatMap Prod.snd).length + _ at hbalance
  change _ = 0 + _ at hemitted hsuppressed
  rw [Nat.zero_add] at hrefused hemitted hsuppressed
  rw [hpassed] at hrefused hbalance
  exact {
    emitted := hemitted
    suppressed := hsuppressed.trans hrefused.symm
    lines := hcounts.lines
    duplicates := hcounts.duplicates
    offered := hmessages.trans htranscript
    own := by
      intro m hm
      rw [← htranscript] at hm
      obtain ⟨o, ho, rfl⟩ := List.mem_map.mp hm
      exact (isAnnouncement_eq_false (hoffers o ho)).1
    passed := hpassed
    answered := fun a ha => Limiter.answers_cases ha
    refused := hsuppressed
    balance := by
      rw [hemitted, hsuppressed, ← htranscript, List.length_map]
      exact hbalance }

/-- The time goes back, a run is cut by a restart, and the notice about the refused lines is passed
on at last. -/
example :
    let p := Stage.run call (new 1 1000 2)
      [(5000, .feed [97, 10, 98, 10, 98, 10]), (0, .restart), (6000, .feed [98, 10, 99])]
    p.1.counters = { lines := 4, emitted := 3, duplicates := 1, suppressed := 2 } ∧
      p.2 = [.line [97], .suppressed 2, .line [98]] := by
  decide

end Pipeline

end LogCourier
