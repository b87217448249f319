import LogCourier.Proofs.FileSystem.Growth
import LogCourier.Proofs.Tailer.Openings
import LogCourier.Settings.Check

/-!
# How fast a tailer opens its path again

After an attempt that has failed, a tailer waits for the retry delay.  It does not wait after it
has let go of a file.  As long as no other program changes files, a file that can be read is
never let go of, and attempts are one retry delay apart.  A path that leads to something that can
be opened but not read, such as a directory, is opened again as often as one likes without any
time passing (`Tailing.run_new_paced_iff`).
-/

namespace LogCourier

/-- Whether what a path leads to can be read, if it leads anywhere. -/
def FileSystem.Readable (fs : FileSystem) (path : String) : Prop :=
  ∀ file, fs.resolve path = .ok file → (fs.content? file).isSome

/-- Whether the read under way, if there is one, has come to some bytes. -/
def Reader.Reads : Reader → Prop
  | .idle => True
  | .busy r => ∃ b, r.result = .bytes b
  | .lost => False

namespace Tailing

open Tailer

/-- What a tailer may do after the time `now` if no other program changes files: its attempts are
made when they are due, it may look at the path at any time, and a read under way may come back at
any time. -/
inductive Own (s : Tailing) (now : Nat) : Nat → TailingEvent → Prop
  | attempt (hclosed : s.tailer.Unopened) : Own s now (s.dueAt now) .attempt
  | look (hopen : s.tailer.opened.isSome) {time : Nat} (htime : now ≤ time) :
      Own s now time (.notice .changed)
  | complete (hread : s.tailer.read?.isSome) {time : Nat} (htime : now ≤
    time) : Own s now time .complete

/-- A run that is made of nothing else. -/
inductive Alone : Tailing → Nat → List (Nat × TailingEvent) → Prop
  | nil (s : Tailing) (now : Nat) : Alone s now []
  | cons {s : Tailing} {now time : Nat} {e : TailingEvent} {events : List (Nat × TailingEvent)}
      (hown : s.Own now time e) (hrest : Alone (s.step time e).1 time events) :
      Alone s now ((time, e) :: events)

/-- When the path is tried. -/
def attemptTimes (events : List (Nat × TailingEvent)) : List Nat :=
  (events.filter fun e => decide (e.2 = .attempt)).map Prod.fst

/-- Whether time passes between any two attempts, as long as no other program changes files. -/
def Paced (s : Tailing) : Prop := ∀ events, s.Alone 0 events → (attemptTimes events).IsChain (· < ·)

variable {s : Tailing} {now : Nat} {file : FileId}

/-- What is due is something that the tailer may do. -/
theorem due?_own (now : Nat) {e : TailingEvent} (h : s.due? = some e) :
    s.Own now (s.dueAt now) e := by
  have hlater : now ≤ s.dueAt now := by
    rw [dueAt]
    split
    · exact Nat.le_add_right _ _
    · exact Nat.le_refl _
  rw [due?] at h
  split at h
  next file r hopen =>
    cases h
    exact .complete (by rw [read?, hopen]; rfl) hlater
  next o _ hopen =>
    split at h
    · cases h
      exact .look (by rw [hopen]; rfl) hlater
    · cases h
  next hopen =>
    split at h
    · cases h
    · next hphase =>
      split at h
      · cases h
      · cases h
        exact .attempt ⟨hopen, hphase⟩

/-! ## A path that leads nowhere -/

/-- An attempt has failed, and another one would fail too. -/
structure Fails (s : Tailing) : Prop where
  resolve : ∃ cause, s.files.resolve s.tailer.source.path = .error cause
  opened : s.tailer.opened = none
  phase : s.tailer.phase = .retryWait ∨ s.tailer.phase = .stopped

theorem attempt_fails (hclosed : s.tailer.Unopened)
    (hresolve : ∃ cause, s.files.resolve s.tailer.source.path = .error cause) :
    s.attempt.Fails ∧ s.attempt.tailer.openRetryDelay = s.tailer.openRetryDelay := by
  obtain ⟨cause, hcause⟩ := hresolve
  rw [attempt_eq hclosed]
  by_cases hlast : Exhausted s.tailer.maxOpenAttempts (s.tailer.attempts + 1)
  · rw [attemptOpen_gaveUp hcause hlast]
    exact ⟨⟨⟨cause, hcause⟩, hclosed.opened, .inr rfl⟩, rfl⟩
  · rw [attemptOpen_retry hcause hlast]
    exact ⟨⟨⟨cause, hcause⟩, hclosed.opened, .inl rfl⟩, rfl⟩

/-- Every further attempt is made one retry delay after the one before it. -/
theorem Fails.isChain {events : List (Nat × TailingEvent)} (h : s.Fails)
    (hrun : s.Alone now events) :
    (now :: attemptTimes events).IsChain (· + s.tailer.openRetryDelay = ·) := by
  induction hrun with
  | nil s now => exact .singleton now
  | @cons s now time e events hown hrest ih =>
    cases hown with
    | attempt hclosed =>
      obtain ⟨hfails, hdelay⟩ := attempt_fails hclosed h.resolve
      have hwait : s.tailer.phase = .retryWait := h.phase.resolve_right hclosed.phase
      have hrest := ih hfails
      rw [step, hdelay] at hrest
      refine .cons_cons ?_ hrest
      rw [dueAt, if_pos hwait]
    | look hopen =>
      rw [h.opened] at hopen
      cases hopen
    | complete hread =>
      rw [read?, h.opened] at hread
      cases hread

/-! ## A file that can be read -/

/-- The path leads to the open file, which can be read. -/
structure Follows (s : Tailing) (file : FileId) : Prop where
  resolve : s.files.resolve s.tailer.source.path = .ok file
  readable : (s.files.content? file).isSome
  opened : ∃ reader, s.tailer.opened = some ⟨file, reader⟩ ∧ reader.Reads

theorem Follows.startRead (h : s.Follows file) :
    Follows { s with tailer := s.tailer.startRead s.files } file := by
  obtain ⟨reader, hopen, hreads⟩ := h.opened
  obtain ⟨_, _, heq⟩ := s.tailer.startRead_eq s.files
  refine ⟨by rw [heq]; exact h.resolve, h.readable, ?_⟩
  cases reader with
  | idle =>
    obtain ⟨b, hb⟩ := Option.isSome_iff_exists.mp h.readable
    rw [Tailer.startRead, hopen]
    simp only [FileSystem.readAt, hb]
    exact ⟨_, rfl, _, rfl⟩
  | busy r =>
    rw [Tailer.startRead, hopen]
    exact ⟨.busy r, hopen, hreads⟩
  | lost => exact hreads.elim

theorem Follows.look (h : s.Follows file) (time : Nat) :
    (s.step time (.notice .changed)).1.Follows file := by
  obtain ⟨reader, hopen, hreads⟩ := h.opened
  have hlooked :
      Follows { s with tailer := (s.tailer.observe time (s.files.size file)).1 } file := by
    have hretains := s.tailer.observe_retains time (s.files.size file)
    refine ⟨by rw [hretains.source]; exact h.resolve, h.readable, reader, ?_, hreads⟩
    rw [← hopen]
    exact (s.tailer.observe_kept time _).1
  have hstep : (s.step time (.notice .changed)).1 =
      { s with tailer := (s.tailer.observe time (s.files.size file)).1.startRead s.files } := by
    simp [step, check, hopen, h.resolve, follow]
  rw [hstep]
  exact hlooked.startRead

theorem Follows.complete (h : s.Follows file) (time : Nat) :
    (s.step time .complete).1.Follows file := by
  obtain ⟨reader, hopen, hreads⟩ := h.opened
  cases reader with
  | lost => exact hreads.elim
  | idle =>
    have hstep : (s.step time .complete).1 = s := by
      simp [step, Tailer.complete, hopen, follow]
    rw [hstep]
    exact h
  | busy r =>
    obtain ⟨offset, epoch, result⟩ := r
    obtain ⟨b, rfl⟩ := hreads
    by_cases hepoch : epoch = s.tailer.epoch
    · rw [hepoch] at hopen
      have htaken : Follows { s with tailer := s.tailer.taken file time b } file :=
        ⟨h.resolve, h.readable, .idle, rfl, trivial⟩
      rw [step, complete_current hopen]
      by_cases hfull : b.length = chunkSize
      · rw [if_pos hfull]
        exact htaken.startRead
      by_cases hpending : s.tailer.pendingTruncation
      · rw [if_neg hfull, if_pos hpending]
        have htarget : s.files.resolveWritable (s.tailer.taken file time b).source.path =
            .ok file :=
          FileSystem.resolveWritable_eq_ok.mpr ⟨h.resolve, h.readable⟩
        rw [truncate_emptied htarget]
        refine ⟨?_, ?_, .idle, rfl, trivial⟩
        · exact (FileSystem.resolve_update _ _ _ _).trans h.resolve
        · have hcontent := s.files.content?_update file file fun _ => []
          rw [if_pos rfl] at hcontent
          simpa [follow, hcontent] using h.readable
      · rw [if_neg hfull, if_neg hpending]
        exact htaken
    · have hidle :
          Follows
            { s with tailer := { s.tailer with phase := .watching, opened := some ⟨file, .idle⟩ } }
            file :=
        ⟨h.resolve, h.readable, .idle, rfl, trivial⟩
      have hstep : (s.step time .complete).1 =
          { s with tailer := { s.tailer with
              phase := .watching, opened := some ⟨file, .idle⟩ }.startRead s.files } := by
        simp [step, Tailer.complete, hopen, hepoch, follow]
      rw [hstep]
      exact hidle.startRead

/-- The file is never let go of, and the path is not tried again. -/
theorem Follows.attemptTimes_eq {events : List (Nat × TailingEvent)} (h : s.Follows file)
    (hrun : s.Alone now events) : attemptTimes events = [] := by
  induction hrun with
  | nil => rfl
  | @cons s now time e events hown hrest ih =>
    cases hown with
    | attempt hclosed =>
      obtain ⟨reader, hopen, _⟩ := h.opened
      rw [hclosed.opened] at hopen
      cases hopen
    | look => exact ih (h.look time)
    | complete => exact ih (h.complete time)

theorem attempt_follows (hclosed : s.tailer.Unopened)
    (hresolve : s.files.resolve s.tailer.source.path = .ok file)
    (hreadable : (s.files.content? file).isSome) : s.attempt.Follows file := by
  rw [attempt_eq hclosed, attemptOpen_ok hresolve]
  exact ⟨hresolve, hreadable, .idle, rfl, trivial⟩

/-- Attempts of a tailer that does not wait for one are one retry delay apart, if what its path
leads to can be read. -/
theorem isChain_of_readable {events : List (Nat × TailingEvent)} (hclosed : s.tailer.opened = none)
    (hreadable : s.files.Readable s.tailer.source.path) (hrun : s.Alone now events) :
    (attemptTimes events).IsChain (· + s.tailer.openRetryDelay = ·) := by
  cases hrun with
  | nil => exact .nil
  | @cons _ _ time e events hown hrest =>
    cases hown with
    | attempt hunopened =>
      cases hresolve : s.files.resolve s.tailer.source.path with
      | ok file =>
        have hfollows := attempt_follows hunopened hresolve (hreadable file hresolve)
        have hnone : attemptTimes events = [] := hfollows.attemptTimes_eq hrest
        change ((s.dueAt now) :: attemptTimes events).IsChain _
        rw [hnone]
        exact .singleton _
      | error cause =>
        obtain ⟨hfails, hdelay⟩ := attempt_fails hunopened ⟨cause, hresolve⟩
        rw [← hdelay]
        exact hfails.isChain hrest
    | look hopen =>
      rw [hclosed] at hopen
      cases hopen
    | complete hread =>
      rw [read?, hclosed] at hread
      cases hread

/-! ## What can be opened but not read -/

/-- What happens by itself without any time passing. -/
structure AtOnce (s : Tailing) (now : Nat) (e : TailingEvent) (s' : Tailing) : Prop where
  due : s.due? = some e
  dueAt_eq : s.dueAt now = now
  step_eq : (s.step now e).1 = s'

variable {s' : Tailing} {e : TailingEvent}

theorem AtOnce.settle (h : s.AtOnce now e s') (fuel : Nat) :
    (settle (some now) (fuel + 1) now s).1 = (settle (some now) fuel now s').1 := by
  rw [Tailing.settle, h.due]
  simp only [h.dueAt_eq]
  rw [if_neg (by simp), h.step_eq]

theorem AtOnce.alone {events : List (Nat × TailingEvent)} (h : s.AtOnce now e s')
    (hrest : s'.Alone now events) : s.Alone now ((now, e) :: events) := by
  have hown : s.Own now now e := by
    simpa only [h.dueAt_eq] using due?_own now h.due
  refine .cons hown ?_
  rw [h.step_eq]
  exact hrest

/-- The path leads to something that cannot be read. -/
structure Blocked (s : Tailing) (file : FileId) : Prop where
  resolve : s.files.resolve s.tailer.source.path = .ok file
  unreadable : s.files.content? file = none

theorem Blocked.congr (h : s.Blocked file) (hfiles : s'.files = s.files)
    (hsource : s'.tailer.source = s.tailer.source) : s'.Blocked file where
  resolve := by
    rw [hfiles, hsource]
    exact h.resolve
  unreadable := by
    rw [hfiles]
    exact h.unreadable

/-- The next attempt is due at once, and will open something that cannot be read. -/
structure Spins (s : Tailing) (file : FileId) : Prop extends Blocked s file where
  unopened : s.tailer.Unopened
  phase : s.tailer.phase ≠ .retryWait

/-- The path is opened. -/
theorem Spins.opens (h : s.Spins file) (now : Nat) :
    ∃ s', s.AtOnce now .attempt s' ∧ s'.Blocked file ∧
      s'.tailer.opened = some ⟨file, .idle⟩ ∧ s'.tailer.phase = .opened := by
  have hstep : (s.step now .attempt).1 = { s with tailer := s.tailer.entered file } := by
    rw [step, attempt_eq h.unopened, attemptOpen_ok h.resolve]
    rfl
  have hdue : s.due? = some .attempt := by
    simp [due?, h.unopened.opened, h.unopened.phase, h.phase]
  exact ⟨_, ⟨hdue, if_neg h.phase, hstep⟩, h.toBlocked.congr rfl rfl, rfl, rfl⟩

/-- What has just been opened is looked at, which starts a read that fails. -/
theorem Blocked.looks (h : s.Blocked file) (now : Nat)
    (hopen : s.tailer.opened = some ⟨file, .idle⟩) (hphase : s.tailer.phase = .opened) :
    ∃ s' r, s.AtOnce now (.notice .changed) s' ∧ s'.Blocked file ∧
      s'.tailer.opened = some ⟨file, .busy r⟩ ∧ r.result = .failed .isDirectory ∧
        s'.tailer.phase = .reading := by
  have hdue : s.due? = some (.notice .changed) ∧ s.dueAt now = now := by
    simp [due?, dueAt, hopen, hphase]
  have hstep : (s.step now (.notice .changed)).1 =
      { s with tailer := (s.tailer.observe now (s.files.size file)).1.startRead s.files } := by
    simp [step, check, hopen, h.resolve, follow]
  have hidle : (s.tailer.observe now (s.files.size file)).1.opened = some ⟨file, .idle⟩ :=
    (s.tailer.observe_kept now (s.files.size file)).1.trans hopen
  have hsource := (s.tailer.observe_retains now (s.files.size file)).source
  rw [startRead, hidle] at hstep
  simp only [FileSystem.readAt, h.unreadable] at hstep
  exact ⟨_, _, ⟨hdue.1, hdue.2, hstep⟩, h.congr rfl hsource, rfl, rfl, rfl⟩

/-- A read that has failed makes the tailer let go, and the next attempt is due. -/
theorem Blocked.leaves (h : s.Blocked file) (now : Nat) {r : Read} {cause : SystemError}
    (hopen : s.tailer.opened = some ⟨file, .busy r⟩) (hresult : r.result = .failed cause)
    (hphase : s.tailer.phase = .reading) : ∃ s', s.AtOnce now .complete s' ∧ s'.Spins file := by
  have hdue : s.due? = some .complete ∧ s.dueAt now = now := by
    simp [due?, dueAt, hopen, hphase]
  have hstep : s.step now .complete =
      leave now { s with tailer := { s.tailer with opened := some ⟨file, .idle⟩ } } := by
    rw [step, Tailer.complete, hopen]
    simp only [hresult]
    rfl
  have hreleased :=
    leave_released now { s with tailer := { s.tailer with opened := some ⟨file, .idle⟩ } }
  rw [← hstep] at hreleased
  have hfiles : (s.step now .complete).1.files = s.files := by
    rw [hstep, leave]
  refine ⟨_, ⟨hdue.1, hdue.2, rfl⟩, h.congr hfiles hreleased.source, ⟨hreleased.opened, ?_⟩, ?_⟩
  · simp [hreleased.phase]
  · simp [hreleased.phase]

/-- So it goes on: the tailer does nothing else, and no time ever passes. -/
theorem Spins.turns (h : s.Spins file) (now n : Nat) :
    ∃ events, s.Alone now events ∧ attemptTimes events = List.replicate n now ∧
      (settle (some now) (3 * n) now s).1 = (s.run events).1 := by
  induction n generalizing s with
  | zero => exact ⟨[], .nil s now, rfl, rfl⟩
  | succ n ih =>
    obtain ⟨opened, hopens, hblocked, hidle, hopened⟩ := h.opens now
    obtain ⟨looked, r, hlooks, hblocked, hbusy, hresult, hreading⟩ :=
      hblocked.looks now hidle hopened
    obtain ⟨left, hleaves, hspins⟩ := hblocked.leaves now hbusy hresult hreading
    obtain ⟨events, halone, htimes, hsettle⟩ := ih hspins
    refine ⟨(now, .attempt) :: (now, .notice .changed) :: (now, .complete) :: events, ?_, ?_, ?_⟩
    · exact hopens.alone (hlooks.alone (hleaves.alone halone))
    · rw [List.replicate_succ, ← htimes]
      rfl
    · rw [Nat.mul_succ, hopens.settle, hlooks.settle, hleaves.settle, hsettle]
      simp only [run_cons, hopens.step_eq, hlooks.step_eq, hleaves.step_eq]

/-- As long as no other program changes files, time passes between any two attempts of a new tailer
exactly if what its path leads to can be read: attempts are one retry delay apart then.  Otherwise
the path is opened any number of times while no time passes at all. -/
theorem run_new_paced_iff (files : FileSystem) (settings : Settings) (source : Source)
    (hdelay : 0 < settings.openRetryDelay) :
    let s : Tailing := ⟨files, .new settings source⟩
    (s.Paced ↔ files.Readable source.path) ∧
      (files.Readable source.path → ∀ events, s.Alone 0 events →
        (attemptTimes events).IsChain (· + settings.openRetryDelay = ·)) ∧
      (¬files.Readable source.path → ∀ n, ∃ events, s.Alone 0 events ∧
        attemptTimes events = List.replicate n 0 ∧
          (settle (some 0) (3 * n) 0 s).1 = (s.run events).1) := by
  intro s
  have hchain (hreadable : files.Readable source.path) (events : List (Nat × TailingEvent))
      (hrun : s.Alone 0 events) : (attemptTimes events).IsChain (· + settings.openRetryDelay = ·) :=
    isChain_of_readable (s := s) rfl hreadable hrun
  have hturns (hunreadable : ¬files.Readable source.path) (n : Nat) :
      ∃ events, s.Alone 0 events ∧ attemptTimes events = List.replicate n 0 ∧
        (settle (some 0) (3 * n) 0 s).1 = (s.run events).1 := by
    obtain ⟨file, hresolve, hnone⟩ : ∃ file, files.resolve source.path = .ok file ∧
        files.content? file = none := by
      simpa [FileSystem.Readable] using hunreadable
    have hspins : s.Spins file := ⟨⟨hresolve, hnone⟩, ⟨rfl, by simp [s, new]⟩, by simp [s, new]⟩
    exact hspins.turns 0 n
  refine ⟨⟨?_, ?_⟩, hchain, hturns⟩
  · intro hpaced
    by_contra hunreadable
    obtain ⟨events, hevents, htimes, _⟩ := hturns hunreadable 2
    have hstrict := hpaced events hevents
    rw [htimes] at hstrict
    simp at hstrict
  · intro hreadable events hevents
    refine (hchain hreadable events hevents).imp ?_
    intro earlier later hlater
    omega

/-- A directory is opened, looked at and let go of, and opened again at once. -/
theorem directory_reopened_at_once :
    let source : Source := ⟨"app", "/log"⟩
    let settings : Settings := { sources := [source], openRetryDelay := 3000 }
    let files : FileSystem := ⟨#[.directory, .directory], [([], 0), (["log"], 1)], []⟩
    settings.check = .ok () ∧ 0 < settings.openRetryDelay ∧
    ¬Paced ⟨files, .new settings source⟩ := by
  intro source settings files
  refine ⟨by decide, by decide, ?_⟩
  intro hpaced
  have hspins : Spins ⟨files, .new settings source⟩ 1 :=
    ⟨⟨by decide, by decide⟩, ⟨rfl, by decide⟩, by decide⟩
  obtain ⟨events, hevents, htimes, _⟩ := hspins.turns 0 2
  have hstrict := hpaced events hevents
  rw [htimes] at hstrict
  simp at hstrict

/-- A path that leads nowhere is tried twice, three seconds apart. -/
theorem run_new_paced_iff_missing :
    let source : Source := ⟨"app", "/log"⟩
    let settings : Settings := { sources := [source], openRetryDelay := 3000, maxOpenAttempts := 2 }
    let files : FileSystem := ⟨#[.directory], [([], 0)], []⟩
    0 < settings.openRetryDelay ∧ Paced ⟨files, .new settings source⟩ := by
  intro source settings files
  have hdelay : 0 < settings.openRetryDelay := by decide
  have hmissing : files.resolve source.path = .error .notFound := by decide
  have hreadable : files.Readable source.path := by
    intro file hfile
    rw [hmissing] at hfile
    cases hfile
  exact ⟨hdelay, (run_new_paced_iff files settings source hdelay).1.mpr hreadable⟩

end Tailing

end LogCourier
