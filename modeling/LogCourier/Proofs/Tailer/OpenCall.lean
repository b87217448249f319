import LogCourier.Tailer.Run

/-!
# One call that opens a file

A tailer opens its file in a call that makes one attempt after the other, one retry delay apart,
while other programs change the files.  `Tailer.OpenCall` tells after how many attempts the call
ends, when, and how.
-/

namespace LogCourier

namespace Tailer

/-! ## One attempt -/

theorem attemptOpen_ok {t : Tailer} {files : FileSystem} {file : FileId}
    (h : files.resolve t.source.path = .ok file) :
    t.attemptOpen files =
      ({ t with
          phase := .opening, attempts := 0, opened := some { file }
          stats := { t.stats with openAttempts := t.stats.openAttempts + 1 } }, .opened) := by
  rw [attemptOpen]
  simp only [h]

/-- Whether a tailer gives up when so many attempts in a row have failed. -/
def Exhausted (bound attempts : Nat) : Prop := bound ≠ 0 ∧ bound ≤ attempts

theorem attemptOpen_gaveUp {t : Tailer} {files : FileSystem} {cause : SystemError}
    (h : files.resolve t.source.path = .error cause)
    (hlast : Exhausted t.maxOpenAttempts (t.attempts + 1)) :
    t.attemptOpen files =
      ({ t with
          phase := .opening, attempts := t.attempts + 1
          stats := { t.stats with openAttempts := t.stats.openAttempts + 1 } }, .gaveUp) := by
  rw [attemptOpen]
  simp only [h]
  exact if_pos hlast

theorem attemptOpen_retry {t : Tailer} {files : FileSystem} {cause : SystemError}
    (h : files.resolve t.source.path = .error cause)
    (hmore : ¬Exhausted t.maxOpenAttempts (t.attempts + 1)) :
    t.attemptOpen files =
      ({ t with
          phase := .retryWait, attempts := t.attempts + 1
          stats := { t.stats with openAttempts := t.stats.openAttempts + 1 } }, .retry) := by
  rw [attemptOpen]
  simp only [h]
  exact if_neg hmore

/-! ## One call -/

/-- A tailer after so many failed attempts, if it goes on. -/
def retried (t : Tailer) : Nat → Tailer
  | 0 => t
  | k + 1 =>
    { t with
      phase := .retryWait, attempts := t.attempts + (k + 1)
      stats := { t.stats with openAttempts := t.stats.openAttempts + (k + 1) } }

theorem retried_eq (t : Tailer) (k : Nat) :
    ∃ phase, t.retried k =
      { t with
        phase, attempts := t.attempts + k
        stats := { t.stats with openAttempts := t.stats.openAttempts + k } } := by
  cases k with
  | zero => exact ⟨t.phase, rfl⟩
  | succ k => exact ⟨.retryWait, rfl⟩

/-- Whether the path cannot be opened at the moment of an attempt; the first one has the
number zero. -/
def Misses (t : Tailer) (history : Nat → FileSystem) (i : Nat) : Prop :=
  ∃ cause, (history (i * t.openRetryDelay)).resolve t.source.path = .error cause

section

variable {t : Tailer} {history : Nat → FileSystem} {k : Nat}

theorem attemptOpen_retried (hmiss : t.Misses history k)
    (hmore : ¬Exhausted t.maxOpenAttempts (t.attempts + (k + 1))) :
    (t.retried k).attemptOpen (history (k * t.openRetryDelay)) = (t.retried (k + 1), .retry) := by
  obtain ⟨cause, hcause⟩ := hmiss
  obtain ⟨phase, heq⟩ := t.retried_eq k
  have hstep :=
    attemptOpen_retry (t := t.retried k) (by rw [heq]; exact hcause) (by rw [heq]; exact hmore)
  rw [hstep, heq]
  rfl

/-- As long as attempts fail and do not exhaust the bound, another one comes one retry
delay later. -/
theorem openDuring_retried (hmisses : ∀ i < k, t.Misses history i)
    (hmore : ∀ i < k, ¬Exhausted t.maxOpenAttempts (t.attempts + (i + 1))) (fuel : Nat) :
    openDuring history (k + fuel) 0 t =
      openDuring history fuel (k * t.openRetryDelay) (t.retried k) := by
  induction k generalizing fuel with
  | zero => rw [Nat.zero_add, Nat.zero_mul, retried]
  | succ k ih =>
    have hdelay : (t.retried (k + 1)).openRetryDelay = t.openRetryDelay := rfl
    have hfirst := ih (fun i hi => hmisses i (by omega)) (fun i hi => hmore i (by omega)) (fuel + 1)
    have hlast :=
      attemptOpen_retried (hmisses k (Nat.lt_succ_self k)) (hmore k (Nat.lt_succ_self k))
    rw [Nat.add_right_comm, Nat.add_assoc, hfirst, openDuring, hlast]
    simp only [hdelay]
    rw [Nat.succ_mul]

theorem openDuring_opens (hmisses : ∀ i < k, t.Misses history i)
    (hmore : ∀ i < k, ¬Exhausted t.maxOpenAttempts (t.attempts + (i + 1))) {file : FileId}
    (hfile : (history (k * t.openRetryDelay)).resolve t.source.path = .ok file) (fuel : Nat) :
    openDuring history (k + (fuel + 1)) 0 t =
      ({ t with
          phase := .opening, attempts := 0, opened := some { file }
          stats := { t.stats with openAttempts := t.stats.openAttempts + (k + 1) } },
        .opened, k * t.openRetryDelay) := by
  obtain ⟨phase, heq⟩ := t.retried_eq k
  have hlast := attemptOpen_ok (t := t.retried k) (by rw [heq]; exact hfile)
  rw [openDuring_retried hmisses hmore, openDuring, hlast, heq]
  rfl

theorem openDuring_gaveUp (hmisses : ∀ i < k + 1, t.Misses history i)
    (hmore : ∀ i < k, ¬Exhausted t.maxOpenAttempts (t.attempts + (i + 1)))
    (hlast : Exhausted t.maxOpenAttempts (t.attempts + (k + 1))) (fuel : Nat) :
    openDuring history (k + (fuel + 1)) 0 t =
      ({ t with
          phase := .opening, attempts := t.attempts + (k + 1)
          stats := { t.stats with openAttempts := t.stats.openAttempts + (k + 1) } },
        .gaveUp, k * t.openRetryDelay) := by
  obtain ⟨phase, heq⟩ := t.retried_eq k
  obtain ⟨cause, hcause⟩ := hmisses k (Nat.lt_succ_self k)
  have hlast :=
    attemptOpen_gaveUp (t := t.retried k) (by rw [heq]; exact hcause) (by rw [heq]; exact hlast)
  rw [openDuring_retried (fun i hi => hmisses i (by omega)) hmore, openDuring, hlast, heq]
  rfl

end

/-- What an attempt leaves. -/
def followed : Tailer × OpenOutcome → Tailer
  | (t, .opened) => t.begin
  | (t, .gaveUp) => { t with phase := .stopped }
  | (t, .retry) => t

/-- A tailer without a file that has not given up. -/
structure Unopened (t : Tailer) : Prop where
  opened : t.opened = none
  phase : t.phase ≠ .stopped

end Tailer

namespace Tailing

open Tailer

theorem attempt_eq {s : Tailing} (h : s.tailer.Unopened) :
    s.attempt = { s with tailer := followed (s.tailer.attemptOpen s.files) } := by
  rw [attempt, if_neg (by simp [h.opened, h.phase])]
  rcases s.tailer.attemptOpen s.files with ⟨t, outcome⟩
  cases outcome <;> rfl

/-- Attempts one retry delay apart, as steps of a tailer among files. -/
def attempts (history : Nat → FileSystem) : Nat → Nat → Tailer → Tailer
  | 0, _, t => t
  | n + 1, elapsed, t =>
    attempts history n (elapsed + t.openRetryDelay) (attempt ⟨history elapsed, t⟩).tailer

theorem openDuring_attempts {t : Tailer} (h : t.Unopened) (history : Nat → FileSystem)
    (fuel elapsed : Nat) :
    ∃ n, (openDuring history fuel elapsed t).1.stats.openAttempts = t.stats.openAttempts + n ∧
      attempts history n elapsed t =
        followed ((openDuring history fuel elapsed t).1,
          (openDuring history fuel elapsed t).2.1) := by
  induction fuel generalizing elapsed t with
  | zero => exact ⟨0, rfl, rfl⟩
  | succ fuel ih =>
    have hattempt := attempt_eq (s := ⟨history elapsed, t⟩) h
    cases hfile : (history elapsed).resolve t.source.path with
    | ok file =>
      have hopen := attemptOpen_ok hfile
      refine ⟨1, ?_, ?_⟩
      · rw [openDuring, hopen]
      · rw [attempts, attempts, openDuring, hattempt, hopen]
    | error cause =>
      by_cases hlast : Exhausted t.maxOpenAttempts (t.attempts + 1)
      · have hgaveUp := attemptOpen_gaveUp hfile hlast
        refine ⟨1, ?_, ?_⟩
        · rw [openDuring, hgaveUp]
        · rw [attempts, attempts, openDuring, hattempt, hgaveUp]
      · have hretry := attemptOpen_retry hfile hlast
        simp only [hretry] at hattempt
        obtain ⟨n, hcount, hsteps⟩ := ih (t := (t.attemptOpen (history elapsed)).1)
          (by rw [hretry]; exact ⟨h.opened, by simp⟩) (elapsed + t.openRetryDelay)
        rw [hretry] at hcount hsteps
        refine ⟨n + 1, ?_, ?_⟩
        · rw [openDuring, hretry]
          simp only
          rw [hcount]
          simp only
          omega
        · rw [attempts, hattempt, openDuring, hretry]
          exact hsteps

end Tailing

namespace Tailer

/-- A call that opens the file of a tailer, while other programs change the files.  The attempts
have the numbers from zero on, and the time of each is its number times the retry delay. -/
structure OpenCall (maxAttempts delay : Nat) (t : Tailer) (history : Nat → FileSystem) : Prop where
  /-- As long as attempts fail, and their number has not reached the bound, another one is made. -/
  waits : ∀ k, (∀ i < k, t.Misses history i) → maxAttempts = 0 ∨ k < maxAttempts → ∀ fuel,
    openDuring history (k + fuel) 0 t = openDuring history fuel (k * delay) (t.retried k)
  /-- The first attempt that can succeed does, and nothing is left of the ones before it. -/
  opens : ∀ k file, (∀ i < k, t.Misses history i) →
    (history (k * delay)).resolve t.source.path = .ok file → maxAttempts = 0 ∨ k + 1 ≤ maxAttempts →
    ∀ fuel, openDuring history (k + (fuel + 1)) 0 t =
      ({ t with
          phase := .opening, attempts := 0, opened := some { file }
          stats := { t.stats with openAttempts := t.stats.openAttempts + (k + 1) } },
        .opened, k * delay)
  /-- When as many attempts have failed as may be made, the last one ends the call. -/
  givesUp : 0 < maxAttempts → (∀ i < maxAttempts, t.Misses history i) → ∀ fuel,
    openDuring history (maxAttempts + fuel) 0 t =
      ({ t with
          phase := .opening, attempts := maxAttempts
          stats := { t.stats with openAttempts := t.stats.openAttempts + maxAttempts } },
        .gaveUp, (maxAttempts - 1) * delay)
  /-- The call is nothing but its attempts. -/
  steps : ∀ fuel, ∃ n,
    (openDuring history fuel 0 t).1.stats.openAttempts = t.stats.openAttempts + n ∧
      Tailing.attempts history n 0 t =
        followed ((openDuring history fuel 0 t).1, (openDuring history fuel 0 t).2.1)

theorem Unopened.openCall {t : Tailer} (h : t.Unopened) (hfresh : t.attempts = 0)
    (history : Nat → FileSystem) : t.OpenCall t.maxOpenAttempts t.openRetryDelay history where
  waits k hmisses hbound fuel := by
    refine openDuring_retried hmisses ?_ fuel
    rintro i hi ⟨hlimited, hreached⟩
    omega
  opens k file hmisses hfile hbound fuel := by
    refine openDuring_opens hmisses ?_ hfile fuel
    rintro i hi ⟨hlimited, hreached⟩
    omega
  givesUp hpos hmisses fuel := by
    have hlast : t.maxOpenAttempts - 1 + 1 = t.maxOpenAttempts := by omega
    have hfuel : t.maxOpenAttempts + fuel = t.maxOpenAttempts - 1 + (fuel + 1) := by omega
    have hmore (i : Nat) (hi : i < t.maxOpenAttempts - 1) :
        ¬Exhausted t.maxOpenAttempts (t.attempts + (i + 1)) := by
      rintro ⟨hlimited, hreached⟩
      omega
    have hcall := openDuring_gaveUp (by rwa [hlast]) hmore ⟨by omega, by omega⟩ fuel
    rw [hlast, hfresh, Nat.zero_add] at hcall
    rw [hfuel, hcall]
  steps fuel := Tailing.openDuring_attempts h history fuel 0

/-- The file is there after a hundred and fifty milliseconds. -/
example :
    let source : Source := ⟨"app", "/log"⟩
    let t : Tailer :=
      .new { sources := [source], maxOpenAttempts := 3, openRetryDelay := 100 } source
    let history (time : Nat) : FileSystem :=
      if time < 150 then ⟨#[.directory], [([], 0)], []⟩
      else ⟨#[.directory, .file []], [([], 0), (["log"], 1)], []⟩
    (openDuring history 3 0 t).2 = (.opened, 200) ∧
    (openDuring history 3 0 t).1.stats.openAttempts = 3 ∧
      (openDuring history 2 0 t).2 = (.retry, 200) := by
  decide

end Tailer

end LogCourier
