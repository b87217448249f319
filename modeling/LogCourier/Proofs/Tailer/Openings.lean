import LogCourier.Proofs.Streak
import LogCourier.Proofs.Tailer.Moves
import LogCourier.Proofs.Tailer.OpenCall

/-!
# How often a tailer tries to open its file

A tailer gives up when as many attempts in a row have failed as it may make, and not before; if the
bound is zero, it never does.  `Tailing.Openings` says so of every run, however often the file has
been opened, followed and let go of: `Tailing.Stay` tells what the steps in between can come to.
Each call that opens the file begins anew (`Tailing.run_new_openBounded`).
-/

namespace LogCourier

/-! ## What the other steps keep -/

namespace Tailer

/-- What an open file can change of a tailer leaves its attempts as they are. -/
structure Retains (t t' : Tailer) : Prop where
  source : t'.source = t.source
  maxOpenAttempts : t'.maxOpenAttempts = t.maxOpenAttempts
  openRetryDelay : t'.openRetryDelay = t.openRetryDelay
  attempts : t'.attempts = t.attempts
  openAttempts : t'.stats.openAttempts = t.stats.openAttempts
  reopens : t'.stats.reopens = t.stats.reopens
  opened : t'.opened.isSome = t.opened.isSome
  phase : t'.phase = t.phase ∨ t'.phase = .reading ∨ t'.phase = .watching

/-- A tailer that lets go of its file. -/
structure Released (t t' : Tailer) : Prop where
  source : t'.source = t.source
  maxOpenAttempts : t'.maxOpenAttempts = t.maxOpenAttempts
  openRetryDelay : t'.openRetryDelay = t.openRetryDelay
  attempts : t'.attempts = t.attempts
  openAttempts : t'.stats.openAttempts = t.stats.openAttempts
  reopens : t'.stats.reopens = t.stats.reopens + 1
  opened : t'.opened = none
  phase : t'.phase = .closing

variable {t t' t'' : Tailer}

theorem Retains.refl (t : Tailer) : t.Retains t := ⟨rfl, rfl, rfl, rfl, rfl, rfl, rfl, .inl rfl⟩

theorem Retains.trans (h : t.Retains t') (h' : t'.Retains t'') : t.Retains t'' where
  source := h'.source.trans h.source
  maxOpenAttempts := h'.maxOpenAttempts.trans h.maxOpenAttempts
  openRetryDelay := h'.openRetryDelay.trans h.openRetryDelay
  attempts := h'.attempts.trans h.attempts
  openAttempts := h'.openAttempts.trans h.openAttempts
  reopens := h'.reopens.trans h.reopens
  opened := h'.opened.trans h.opened
  phase := by
    rcases h'.phase with hsame | hbusy
    · rw [hsame]
      exact h.phase
    · exact .inr hbusy

theorem startRead_retains (t : Tailer) (files : FileSystem) : t.Retains (t.startRead files) := by
  rw [startRead]
  split
  next file hopen =>
    exact ⟨rfl, rfl, rfl, rfl, rfl, rfl, by rw [hopen]; rfl, .inr (.inl rfl)⟩
  next => exact .refl t

theorem observe_retains (t : Tailer) (now size : Nat) : t.Retains (t.observe now size).1 := by
  rcases t.observe_cases now size with ⟨_, heq, _⟩ | ⟨_, heq, _⟩ | ⟨_, heq, _⟩
  · rw [heq]
    exact ⟨rfl, rfl, rfl, rfl, rfl, rfl, rfl, .inl rfl⟩
  · rw [heq]
    exact ⟨rfl, rfl, rfl, rfl, rfl, rfl, rfl, .inl rfl⟩
  · rw [heq]
    exact ⟨rfl, rfl, rfl, rfl, rfl, rfl, rfl, .inl rfl⟩

theorem truncate_retains (t : Tailer) (files : FileSystem) : t.Retains (t.truncate files).1 := by
  cases htarget : files.resolveWritable t.source.path with
  | error cause =>
    rw [truncate_blocked htarget]
    exact ⟨rfl, rfl, rfl, rfl, rfl, rfl, rfl, .inl rfl⟩
  | ok target =>
    rw [truncate_emptied htarget]
    exact ⟨rfl, rfl, rfl, rfl, rfl, rfl, rfl, .inl rfl⟩

theorem loseRead_retains (t : Tailer) (cause : TaskFailure) : t.Retains (t.loseRead cause) := by
  rw [loseRead]
  split
  next file r hopen => exact ⟨rfl, rfl, rfl, rfl, rfl, rfl, by rw [hopen]; rfl, .inl rfl⟩
  next => exact .refl t

theorem check_retains (t : Tailer) (files : FileSystem) (now : Nat) :
    t.Retains (t.check files now).tailer := by
  rw [check]
  split
  next => exact .refl t
  next o hopen =>
    split
    next => exact .refl t
    next => exact .refl t
    next file hfile =>
      split
      next => exact .refl t
      next => exact (t.observe_retains now _).trans (startRead_retains _ files)

theorem complete_retains (t : Tailer) (files : FileSystem) (now : Nat) :
    t.Retains (t.complete files now).1.tailer := by
  rw [complete]
  split
  next file r hopen =>
    have hidle (phase : TailerPhase) (hphase : phase = t.phase ∨ phase = .reading ∨
      phase = .watching)
        (reader : Reader) : t.Retains { t with phase, opened := some ⟨file, reader⟩ } :=
      ⟨rfl, rfl, rfl, rfl, rfl, rfl, by rw [hopen]; rfl, hphase⟩
    split
    next => exact hidle _ (.inl rfl) _
    next => exact hidle _ (.inl rfl) _
    next b hresult =>
      have hwatching := hidle .watching (.inr (.inr rfl)) .idle
      have htaken : t.Retains (t.taken file now b) :=
        hwatching.trans ⟨rfl, rfl, rfl, rfl, rfl, rfl, rfl, .inl rfl⟩
      simp only
      split
      next => exact hwatching.trans (startRead_retains _ files)
      next =>
        split
        next => exact htaken.trans (startRead_retains _ files)
        next =>
          split
          next => exact htaken.trans (truncate_retains _ files)
          next => exact htaken
  next => exact .refl t

end Tailer

namespace Tailing

open Tailer

/-- What becomes of the file that a tailer follows. -/
inductive OpeningAct
  /-- An attempt to open it has failed. -/
  | failed
  | opened
  /-- It has been let go of. -/
  | closed
deriving DecidableEq, Repr

def OpeningAct.isAttempt : OpeningAct → Bool
  | .failed | .opened => true
  | .closed => false

def OpeningAct.isFailure : OpeningAct → Bool
  | .failed => true
  | .opened | .closed => false

def openings (s : Tailing) (now : Nat) (e : TailingEvent) : List OpeningAct :=
  if e = .attempt then
    if s.tailer.opened.isSome ∨ s.tailer.phase = .stopped then []
    else [if (s.files.resolve s.tailer.source.path).toBool then .opened else .failed]
  else if s.tailer.opened.isSome ∧ (s.step now e).1.tailer.opened.isNone then [.closed] else []

/-- All that becomes of the file in a run. -/
def openingsOf (s : Tailing) : List (Nat × TailingEvent) → List OpeningAct
  | [] => []
  | e :: events => s.openings e.1 e.2 ++ openingsOf (s.step e.1 e.2).1 events

/-- A step that is no attempt: nothing happens to a tailer without a file, and a file is followed or
let go of. -/
inductive Stay (s s' : Tailing) (out : List Message) (acts : List OpeningAct) : Prop
  | rests (hclosed : s.tailer.opened = none) (hsame : s'.tailer = s.tailer) (hout : out = [])
      (hacts : acts = [])
  | follows (hopen : s.tailer.opened.isSome) (hretains : s.tailer.Retains s'.tailer)
    (hacts : acts = [])
  | leaves (hopen : s.tailer.opened.isSome) {t : Tailer} (hretains : s.tailer.Retains t)
      (hreleased : t.Released s'.tailer) (hacts : acts = [.closed])

variable {s : Tailing} {now : Nat} {e : TailingEvent}

theorem openings_of_follows (he : e ≠ .attempt)
    (hsame : (s.step now e).1.tailer.opened.isSome = s.tailer.opened.isSome) :
    s.openings now e = [] := by
  rw [openings, if_neg he, if_neg]
  rintro ⟨hopen, hclosed⟩
  rw [← hsame, Option.isSome_iff_ne_none] at hopen
  exact hopen (Option.isNone_iff_eq_none.mp hclosed)

theorem leave_released (now : Nat) (s : Tailing) : s.tailer.Released (leave now s).1.tailer := by
  rw [leave]
  rcases s.tailer.close_cases now with ⟨_, b, _, heq, _⟩ | ⟨heq, _⟩
  · rw [heq]
    exact ⟨rfl, rfl, rfl, rfl, rfl, rfl, rfl, rfl⟩
  · rw [heq]
    exact ⟨rfl, rfl, rfl, rfl, rfl, rfl, rfl, rfl⟩

theorem leave_stay (he : e ≠ .attempt) (hopen : s.tailer.opened.isSome) {t : Tailer}
    (hretains : s.tailer.Retains t) (files : FileSystem)
    (hstep : (s.step now e).1 = (leave now ⟨files, t⟩).1) (out : List Message) :
    Stay s (s.step now e).1 out (s.openings now e) := by
  have hreleased := leave_released now ⟨files, t⟩
  rw [← hstep] at hreleased
  refine .leaves hopen hretains hreleased ?_
  rw [openings, if_neg he, if_pos ⟨hopen, Option.isNone_iff_eq_none.mpr hreleased.opened⟩]

/-- An outcome either closes the file or goes on following it. -/
theorem follow_stay (he : e ≠ .attempt) (hopen : s.tailer.opened.isSome) {o : Tailer.Outcome}
    (hretains : s.tailer.Retains o.tailer) {files : FileSystem}
    (hstep : s.step now e = follow now files o) :
    Stay s (s.step now e).1 (s.step now e).2 (s.openings now e) := by
  by_cases hclose : o.close.isSome
  · refine leave_stay he hopen hretains files ?_ _
    rw [hstep, follow, if_pos hclose]
  · have hsame : (s.step now e).1.tailer = o.tailer := by
      rw [hstep, follow, if_neg hclose]
    refine .follows hopen (by rw [hsame]; exact hretains) (openings_of_follows he ?_)
    rw [hsame, hretains.opened]

theorem step_stay (s : Tailing) (now : Nat) (he : e ≠ .attempt) :
    Stay s (s.step now e).1 (s.step now e).2 (s.openings now e) := by
  cases hopen : s.tailer.opened with
  | none =>
    have hsame : (s.step now e).1.tailer = s.tailer ∧ (s.step now e).2 = [] := by
      cases e with
      | change c => exact ⟨rfl, rfl⟩
      | attempt => exact absurd rfl he
      | notice event =>
        cases event with
        | changed => simp [step, Tailer.check, hopen, follow]
        | renamed => simp [step, hopen]
      | complete => simp [step, Tailer.complete, hopen, follow]
      | lose cause => simp [step, Tailer.loseRead, hopen]
    exact .rests hopen hsame.1 hsame.2 (openings_of_follows he (by rw [hsame.1]))
  | some o =>
    have hsome : s.tailer.opened.isSome := by
      rw [hopen]
      rfl
    cases e with
    | change c => exact .follows hsome (.refl _) (openings_of_follows he rfl)
    | attempt => exact absurd rfl he
    | notice event =>
      cases event with
      | changed => exact follow_stay he hsome (s.tailer.check_retains s.files now) rfl
      | renamed =>
        refine leave_stay he hsome (.refl _) s.files ?_ _
        rw [step, if_pos hsome]
    | complete => exact follow_stay he hsome (s.tailer.complete_retains s.files now) rfl
    | lose cause =>
      have hretains := s.tailer.loseRead_retains cause
      exact .follows hsome hretains (openings_of_follows he hretains.opened)

/-! ## The bound -/

/-- A tailer that has opened its file and let go of it any number of times.  It has given up exactly
when as many attempts in a row have failed as it may make; before, there were fewer of them. -/
structure Openings (settings : Settings) (source : Source) (t : Tailer) (acts : List OpeningAct) :
    Prop where
  source_eq : t.source = source
  maxOpenAttempts_eq : t.maxOpenAttempts = settings.maxOpenAttempts
  openRetryDelay_eq : t.openRetryDelay = settings.openRetryDelay
  openAttempts : t.stats.openAttempts = acts.countP OpeningAct.isAttempt
  reopens : t.stats.reopens = acts.count .closed
  /-- No file is opened while another one is open. -/
  balance : acts.count .opened = acts.count .closed + if t.opened.isSome then 1 else 0
  failing : t.attempts = streak OpeningAct.isFailure acts
  bounded : 0 < settings.maxOpenAttempts →
    streak OpeningAct.isFailure acts ≤ settings.maxOpenAttempts
  earlier : 0 < settings.maxOpenAttempts →
    StreaksBelow OpeningAct.isFailure settings.maxOpenAttempts acts
  stopped : t.phase = .stopped ↔ 0 < settings.maxOpenAttempts ∧
    streak OpeningAct.isFailure acts = settings.maxOpenAttempts
  following : t.opened.isSome → t.phase ≠ .retryWait ∧ t.phase ≠ .stopped
  /-- Failed attempts are behind a tailer only while it waits for the next one or has given up. -/
  fresh : t.phase ≠ .retryWait → t.phase ≠ .stopped → t.attempts = 0

theorem openings_new (settings : Settings) (source : Source) :
    Openings settings source (.new settings source) [] where
  source_eq := rfl
  maxOpenAttempts_eq := rfl
  openRetryDelay_eq := rfl
  openAttempts := rfl
  reopens := rfl
  balance := rfl
  failing := streak_nil.symm
  bounded _ := Nat.zero_le _
  earlier _ := streaksBelow_nil _
  stopped := by
    rw [streak_nil]
    simp only [Tailer.new, reduceCtorEq, false_iff]
    omega
  following := by simp [Tailer.new]
  fresh _ _ := rfl

section

variable {settings : Settings} {source : Source} {t t' : Tailer} {past : List OpeningAct}

/-- As long as a tailer has not given up, fewer attempts have failed than it may make. -/
theorem Openings.streak_lt (h : Openings settings source t past) (hphase : t.phase ≠ .stopped)
    (hpos : 0 < settings.maxOpenAttempts) :
    streak OpeningAct.isFailure past < settings.maxOpenAttempts := by
  refine Nat.lt_of_le_of_ne (h.bounded hpos) fun heq => hphase ?_
  exact h.stopped.mpr ⟨hpos, heq⟩

theorem Openings.earlier_concat (h : Openings settings source t past) (hphase : t.phase ≠ .stopped)
    (act : OpeningAct) : 0 < settings.maxOpenAttempts →
      StreaksBelow OpeningAct.isFailure settings.maxOpenAttempts (past ++ [act]) :=
  fun hpos => (h.earlier hpos).concat (h.streak_lt hphase hpos) act

theorem Openings.retains (h : Openings settings source t past) (hopen : t.opened.isSome)
    (hretains : t.Retains t') : Openings settings source t' past := by
  obtain ⟨hwait, hstop⟩ := h.following hopen
  have hphase : t'.phase ≠ .retryWait ∧ t'.phase ≠ .stopped := by
    rcases hretains.phase with hsame | hreading | hwatching
    · rw [hsame]
      exact ⟨hwait, hstop⟩
    · simp [hreading]
    · simp [hwatching]
  exact {
    source_eq := hretains.source.trans h.source_eq
    maxOpenAttempts_eq := hretains.maxOpenAttempts.trans h.maxOpenAttempts_eq
    openRetryDelay_eq := hretains.openRetryDelay.trans h.openRetryDelay_eq
    openAttempts := hretains.openAttempts.trans h.openAttempts
    reopens := hretains.reopens.trans h.reopens
    balance := by rw [hretains.opened, h.balance]
    failing := hretains.attempts.trans h.failing
    bounded := h.bounded
    earlier := h.earlier
    stopped := (iff_of_false hphase.2 hstop).trans h.stopped
    following := fun _ => hphase
    fresh := fun _ _ => hretains.attempts.trans (h.fresh hwait hstop) }

theorem Openings.stay {s s' : Tailing} {out : List Message} {acts : List OpeningAct}
    (h : Openings settings source s.tailer past) (hstay : Stay s s' out acts) :
    Openings settings source s'.tailer (past ++ acts) := by
  cases hstay with
  | rests hclosed hsame hout hacts =>
    rw [hacts, List.append_nil, hsame]
    exact h
  | follows hopen hretains hacts =>
    rw [hacts, List.append_nil]
    exact h.retains hopen hretains
  | leaves hopen hretains hreleased hacts =>
    have ht := h.retains hopen hretains
    have hfollowing := ht.following (by rw [hretains.opened]; exact hopen)
    have hnone : s'.tailer.attempts = 0 :=
      hreleased.attempts.trans (ht.fresh hfollowing.1 hfollowing.2)
    have hstreak : streak OpeningAct.isFailure (past ++ [OpeningAct.closed]) = 0 :=
      streak_concat_of_neg past rfl
    rw [hacts]
    exact {
      source_eq := hreleased.source.trans ht.source_eq
      maxOpenAttempts_eq := hreleased.maxOpenAttempts.trans ht.maxOpenAttempts_eq
      openRetryDelay_eq := hreleased.openRetryDelay.trans ht.openRetryDelay_eq
      openAttempts := by
        rw [hreleased.openAttempts, ht.openAttempts, List.countP_append]
        rfl
      reopens := by
        rw [hreleased.reopens, ht.reopens, List.count_append]
        rfl
      balance := by
        have hbefore := h.balance
        rw [if_pos hopen] at hbefore
        rw [List.count_append, List.count_append, hbefore, hreleased.opened]
        rfl
      failing := hnone.trans hstreak.symm
      bounded := by simp [hstreak]
      earlier := h.earlier_concat (h.following hopen).2 _
      stopped := by
        rw [hstreak, hreleased.phase]
        simp only [reduceCtorEq, false_iff]
        omega
      following := by simp [hreleased.opened]
      fresh := fun _ _ => hnone }

/-- A failed attempt lets the tailer wait for the next one or, if it is the last one, give up. -/
theorem Openings.failed (h : Openings settings source t past) (hclosed : t.Unopened)
    {phase : TailerPhase}
    (hphase : (phase = .stopped ∧ Exhausted t.maxOpenAttempts (t.attempts + 1)) ∨
      (phase = .retryWait ∧ ¬Exhausted t.maxOpenAttempts (t.attempts + 1))) :
    Openings settings source
      { t with
        phase, attempts := t.attempts + 1
        stats := { t.stats with openAttempts := t.stats.openAttempts + 1 } }
      (past ++ [.failed]) := by
  have hstreak : streak OpeningAct.isFailure (past ++ [OpeningAct.failed]) =
      streak OpeningAct.isFailure past + 1 := streak_concat_of_pos past rfl
  have hbalance := h.balance
  rw [hclosed.opened] at hbalance
  exact {
    source_eq := h.source_eq
    maxOpenAttempts_eq := h.maxOpenAttempts_eq
    openRetryDelay_eq := h.openRetryDelay_eq
    openAttempts := by
      rw [List.countP_append, ← h.openAttempts]
      rfl
    reopens := by
      rw [List.count_append, ← h.reopens]
      rfl
    balance := by
      rw [List.count_append, List.count_append, hbalance, hclosed.opened]
      rfl
    failing := by rw [hstreak, ← h.failing]
    bounded := by
      intro hpos
      rw [hstreak]
      exact h.streak_lt hclosed.phase hpos
    earlier := h.earlier_concat hclosed.phase _
    stopped := by
      rw [hstreak, ← h.failing, ← h.maxOpenAttempts_eq]
      rcases hphase with ⟨rfl, hlimited, hreached⟩ | ⟨rfl, hmore⟩
      · have hless := h.streak_lt hclosed.phase
        rw [← h.failing, ← h.maxOpenAttempts_eq] at hless
        simp only [true_iff]
        omega
      · simp only [reduceCtorEq, false_iff]
        rintro ⟨hpos, heq⟩
        exact hmore ⟨Nat.ne_of_gt hpos, Nat.le_of_eq heq.symm⟩
    following := by simp [hclosed.opened]
    fresh := by
      intro hwait hstop
      rcases hphase with ⟨rfl, _⟩ | ⟨rfl, _⟩
      · exact absurd rfl hstop
      · exact absurd rfl hwait }

theorem Openings.entered (h : Openings settings source t past) (hclosed : t.Unopened)
    (file : FileId) : Openings settings source (t.entered file) (past ++ [.opened]) := by
  have hstreak : streak OpeningAct.isFailure (past ++ [OpeningAct.opened]) = 0 :=
    streak_concat_of_neg past rfl
  have hbalance := h.balance
  rw [hclosed.opened] at hbalance
  exact {
    source_eq := h.source_eq
    maxOpenAttempts_eq := h.maxOpenAttempts_eq
    openRetryDelay_eq := h.openRetryDelay_eq
    openAttempts := by
      rw [List.countP_append, ← h.openAttempts]
      rfl
    reopens := by
      rw [List.count_append, ← h.reopens]
      rfl
    balance := by
      rw [List.count_append, List.count_append, hbalance]
      rfl
    failing := hstreak.symm
    bounded := by simp [hstreak]
    earlier := h.earlier_concat hclosed.phase _
    stopped := by
      rw [hstreak]
      simp only [Tailer.entered, reduceCtorEq, false_iff]
      omega
    following := by simp [Tailer.entered]
    fresh := fun _ _ => rfl }

theorem Openings.attempt {s : Tailing} (h : Openings settings source s.tailer past) (now : Nat) :
    Openings settings source s.attempt.tailer (past ++ s.openings now .attempt) := by
  by_cases hbusy : s.tailer.opened.isSome ∨ s.tailer.phase = .stopped
  · rw [openings, if_pos rfl, if_pos hbusy, List.append_nil, Tailing.attempt, if_pos hbusy]
    exact h
  · obtain ⟨hopened, hphase⟩ := not_or.mp hbusy
    have hclosed : s.tailer.Unopened := ⟨Option.not_isSome_iff_eq_none.mp hopened, hphase⟩
    rw [openings, if_pos rfl, if_neg hbusy, attempt_eq hclosed]
    cases hfile : s.files.resolve s.tailer.source.path with
    | ok file =>
      rw [attemptOpen_ok hfile]
      exact h.entered hclosed file
    | error cause =>
      by_cases hlast : Exhausted s.tailer.maxOpenAttempts (s.tailer.attempts + 1)
      · rw [attemptOpen_gaveUp hfile hlast]
        exact h.failed hclosed (.inl ⟨rfl, hlast⟩)
      · rw [attemptOpen_retry hfile hlast]
        exact h.failed hclosed (.inr ⟨rfl, hlast⟩)

theorem Openings.step {s : Tailing} (h : Openings settings source s.tailer past) (now : Nat)
    (e : TailingEvent) :
    Openings settings source (s.step now e).1.tailer (past ++ s.openings now e) := by
  by_cases he : e = .attempt
  · rw [he]
    exact h.attempt now
  · exact h.stay (s.step_stay now he)

theorem Openings.run {s : Tailing} (h : Openings settings source s.tailer past)
    (events : List (Nat × TailingEvent)) :
    Openings settings source (s.run events).1.tailer (past ++ s.openingsOf events) := by
  induction events generalizing s past with
  | nil =>
    rw [openingsOf, List.append_nil]
    exact h
  | cons e events ih =>
    rw [openingsOf, ← List.append_assoc, run_cons]
    exact ih (h.step e.1 e.2)

end

/-! ## The end -/

/-- Nothing more is attempted or passed on by a tailer that has given up. -/
theorem step_stopped {s : Tailing} (hclosed : s.tailer.opened = none)
    (hphase : s.tailer.phase = .stopped) (now : Nat) (e : TailingEvent) :
    (s.step now e).1.tailer = s.tailer ∧ (s.step now e).2 = [] ∧ s.openings now e = [] := by
  by_cases he : e = .attempt
  · rw [he, step, Tailing.attempt, openings, if_pos (.inr hphase), if_pos rfl, if_pos (.inr hphase)]
    exact ⟨rfl, rfl, rfl⟩
  · cases s.step_stay now he with
    | rests hnone hsame hout hacts => exact ⟨hsame, hout, hacts⟩
    | follows hopen | leaves hopen =>
      rw [hclosed] at hopen
      cases hopen

theorem run_stopped {s : Tailing} (hclosed : s.tailer.opened = none)
    (hphase : s.tailer.phase = .stopped) (events : List (Nat × TailingEvent)) :
    (s.run events).1.tailer = s.tailer ∧ (s.run events).2 = [] ∧ s.openingsOf events = [] := by
  induction events generalizing s with
  | nil => exact ⟨rfl, rfl, rfl⟩
  | cons e events ih =>
    obtain ⟨hsame, hout, hacts⟩ := step_stopped hclosed hphase e.1 e.2
    obtain ⟨hsames, houts, hactss⟩ := ih (s := (s.step e.1 e.2).1) (by rw [hsame, hclosed])
      (by rw [hsame, hphase])
    rw [run_cons, openingsOf]
    exact ⟨hsames.trans hsame, by rw [hout, houts, List.nil_append],
      by rw [hacts, hactss, List.nil_append]⟩

/-- How often a tailer tries to open its file, up to a moment and from there on. -/
structure OpenBounded (settings : Settings) (source : Source) (s : Tailing)
    (acts : List OpeningAct) : Prop
    extends Openings settings source s.tailer acts where
  /-- Once the tailer has given up, nothing happens to it any more. -/
  final : s.tailer.phase = .stopped → ∀ events, (s.run events).1.tailer = s.tailer ∧
    (s.run events).2 = [] ∧ s.openingsOf events = []
  /-- A call that opens the file begins whenever none is open and none has failed just now. -/
  calls : s.tailer.opened = none → s.tailer.phase ≠ .retryWait → s.tailer.phase ≠ .stopped →
    ∀ history, s.tailer.OpenCall settings.maxOpenAttempts settings.openRetryDelay history

/-- However often a new tailer has opened its file and let go of it, it gives up after as many
failed attempts in a row as it may make, and neither earlier nor later. -/
theorem run_new_openBounded (files : FileSystem) (settings : Settings) (source : Source)
    (events : List (Nat × TailingEvent)) :
    let s : Tailing := ⟨files, .new settings source⟩
    OpenBounded settings source (s.run events).1 (s.openingsOf events) := by
  intro s
  have h := (openings_new settings source).run (s := s) events
  rw [List.nil_append] at h
  refine ⟨h, ?_, ?_⟩
  · intro hphase
    have hclosed : (s.run events).1.tailer.opened = none := by
      rw [← Option.not_isSome_iff_eq_none]
      exact fun hopen => (h.following hopen).2 hphase
    exact run_stopped hclosed hphase
  · intro hopened hwait hstop history
    rw [← h.maxOpenAttempts_eq, ← h.openRetryDelay_eq]
    exact Unopened.openCall ⟨hopened, hstop⟩ (h.fresh hwait hstop) history

end Tailing

end LogCourier
