import LogCourier.Proofs.Tailer.Emptying
import LogCourier.Proofs.Tailer.Regular

/-!
# What is shown of a tailer

The phase of a tailer and its statistics are kept apart from its reader and its pipeline, and
every operation sets them for itself.  While a file is followed they agree nevertheless.
`Tailing.Turn` says what a step that leaves the file open does to the reader and shows of it, and
`Tailing.Posture` what is shown after all that has happened since the file was opened.  With the
count of the bytes that steps feed (`Tailing.step_bytesRead`), this gives what is shown after
every run (`Tailing.run_new_inStep`).
-/

namespace LogCourier

namespace Tailer

theorem startRead_bytesRead (t : Tailer) (files : FileSystem) :
    (t.startRead files).stats.bytesRead = t.stats.bytesRead := by
  obtain ⟨phase, opened, heq⟩ := t.startRead_eq files
  rw [heq]

/-- A look feeds nothing, and shows nothing before it starts a read. -/
theorem observe_shown (t : Tailer) (now size : Nat) :
    (t.observe now size).1.phase = t.phase ∧
      (t.observe now size).1.stats.bytesRead = t.stats.bytesRead ∧
      (t.observeActs size).flatMap TailerAct.bytes = [] := by
  rcases t.observe_cases now size with ⟨_, heq, hacts⟩ | ⟨_, heq, hacts⟩ | ⟨_, heq, hacts⟩
  · rw [heq, hacts]
    exact ⟨rfl, rfl, rfl⟩
  · rw [heq, hacts]
    exact ⟨rfl, rfl, rfl⟩
  · rw [heq, hacts]
    exact ⟨rfl, rfl, rfl⟩

theorem taken_bytesRead (t : Tailer) (file : FileId) (now : Nat) (b : Bytes) :
    (t.taken file now b).stats.bytesRead = t.stats.bytesRead + b.length := rfl

end Tailer

namespace Tailing

variable {s s₀ s₁ s' : Tailing} {now : Nat} {e : TailingEvent} {acts : List TailerAct}
    {out : List Message}
  {t t' : Tailer} {file file' : FileId} {reader reader' : Reader}
  {past after : List (Nat × TailingEvent)}

/-! ## What a step does to the reader -/

/-- A step that leaves the file open: the reader before and after it, and what is shown. -/
inductive Turn (t : Tailer) (e : TailingEvent) (t' : Tailer) : Reader → Reader → Prop
  | rests (he : e ≠ .notice .changed) (hphase : t'.phase = t.phase) (hsize : t'.size = t.size) :
      Turn t e t' .idle .idle
  | starts (he : e = .notice .changed) (hphase : t'.phase = .reading) (hsize : t'.size.isSome)
      {r : Read} : Turn t e t' .idle (.busy r)
  /-- The read is still under way, or is followed by another one at once. -/
  | reads (hphase : t'.phase = t.phase ∨ t'.phase = .reading)
      (hsize : t.size.isSome → t'.size.isSome) {r r' : Read} : Turn t e t' (.busy r) (.busy r')
  | ends (he : e = .complete) (hphase : t'.phase = .watching)
      (hsize : t.size.isSome → t'.size.isSome) {r : Read} : Turn t e t' (.busy r) .idle

theorem turn_refl (t : Tailer) (he : e ≠ .notice .changed) (hreader : reader ≠ .lost) :
    Turn t e t reader reader := by
  cases reader with
  | idle => exact .rests he rfl rfl
  | busy r => exact .reads (Or.inl rfl) id
  | lost => exact absurd rfl hreader

theorem Move.turn (h : s.Move now e acts s' out) (he : e ≠ .notice .changed)
    (hopen : s.tailer.opened = some ⟨file, reader⟩) (hreader : reader ≠ .lost)
    (hopen' : s'.tailer.opened = some ⟨file', reader'⟩) :
    file' = file ∧ Turn s.tailer e s'.tailer reader reader' := by
  cases h with
  | changed | idle =>
    cases hopen.symm.trans hopen'
    exact ⟨rfl, turn_refl s.tailer he hreader⟩
  | lost cause =>
    cases reader with
    | idle =>
      rw [Tailer.loseRead, hopen] at hopen' ⊢
      cases hopen.symm.trans hopen'
      exact ⟨rfl, turn_refl s.tailer he hreader⟩
    | busy r =>
      rw [Tailer.loseRead, hopen] at hopen' ⊢
      cases hopen'
      refine ⟨rfl, .reads (Or.inl ?_) ?_⟩
      · rfl
      · exact id
    | lost => exact absurd rfl hreader
  | unopened hclosed | opened hclosed =>
    cases hopen.symm.trans hclosed
  | left => cases hopen'
  | looked => exact absurd rfl he
  | @stale opened offset epoch b hread =>
    cases hopen.symm.trans hread
    cases hopen'
    refine ⟨rfl, .reads (Or.inr rfl) ?_⟩
    exact id
  | @full opened offset b hread =>
    cases hopen.symm.trans hread
    cases hopen'
    refine ⟨rfl, .reads (Or.inr rfl) ?_⟩
    exact id
  | ended hread | blocked hread =>
    cases hopen.symm.trans hread
    cases hopen'
    refine ⟨rfl, .ends rfl rfl ?_⟩
    exact id
  | emptied hread =>
    cases hopen.symm.trans hread
    cases hopen'
    exact ⟨rfl, .ends rfl rfl fun _ => rfl⟩

theorem look_turn (hopen : s.tailer.opened = some ⟨file, reader⟩) (hreader : reader ≠ .lost)
    (hopen' : (s.step now (.notice .changed)).1.tailer.opened = some ⟨file', reader'⟩) :
    file' = file ∧
      Turn s.tailer (.notice .changed) (s.step now (.notice .changed)).1.tailer reader reader' := by
  obtain ⟨⟨_, hwas⟩, hstep, _⟩ := look_eq hopen'
  cases hopen.symm.trans hwas
  obtain ⟨hkept, hnoted⟩ := s.tailer.observe_kept now (s.files.size file)
  obtain ⟨hphase, _⟩ := s.tailer.observe_shown now (s.files.size file)
  have hobserved := hkept.trans hopen
  have hsize : (s.tailer.observe now (s.files.size file)).1.size.isSome := by
    rw [hnoted]
    rfl
  rw [hstep] at hopen' ⊢
  refine ⟨rfl, ?_⟩
  cases reader with
  | idle =>
    rw [Tailer.startRead, hobserved] at hopen' ⊢
    cases hopen'
    refine .starts rfl ?_ ?_
    · rfl
    · exact hsize
  | busy r =>
    -- The read under way goes on, and no other one is started.
    rw [Tailer.startRead, hobserved] at hopen' ⊢
    cases hobserved.symm.trans hopen'
    exact .reads (Or.inl hphase) fun _ => hsize
  | lost => exact absurd rfl hreader

/-- A step that does not let go of the file leaves it open in one of these ways. -/
theorem step_turn (hopen : s.tailer.opened = some ⟨file, reader⟩) (hreader : reader ≠ .lost)
    (hopen' : (s.step now e).1.tailer.opened = some ⟨file', reader'⟩) :
    file' = file ∧ Turn s.tailer e (s.step now e).1.tailer reader reader' := by
  by_cases he : e = .notice .changed
  · subst he
    exact look_turn hopen hreader hopen'
  · exact (s.step_move now e).turn he hopen hreader hopen'

/-! ## Since the file was opened -/

/-- The path is looked at in these events. -/
def Looked (events : List (Nat × TailingEvent)) : Prop := ∃ now, (now, .notice .changed) ∈ events

/-- In these events, which come after `s`, a read that was under way comes back. -/
def Returned (s : Tailing) (events : List (Nat × TailingEvent)) : Prop :=
  ∃ upto now, upto ++ [(now, .complete)] <+: events ∧ (s.run upto).1.tailer.read?.isSome

theorem looked_concat : Looked (after ++ [(now, e)]) ↔ Looked after ∨ e = .notice .changed := by
  simp [Looked, exists_or, eq_comm (a := e)]

theorem returned_concat : s.Returned (after ++ [(now, e)]) ↔
    s.Returned after ∨ e = .complete ∧ (s.run after).1.tailer.read?.isSome := by
  constructor
  · rintro ⟨upto, time, hupto, hread⟩
    rcases List.prefix_concat_iff.mp hupto with heq | hupto
    · obtain ⟨rfl, hevent⟩ := List.append_inj' heq rfl
      cases hevent
      exact Or.inr ⟨rfl, hread⟩
    · exact Or.inl ⟨upto, time, hupto, hread⟩
  · rintro (⟨upto, time, hupto, hread⟩ | ⟨rfl, hread⟩)
    · exact ⟨upto, time, hupto.trans (List.prefix_append _ _), hread⟩
    · exact ⟨after, now, List.prefix_refl _, hread⟩

/-- How a tailer stands to the file that it had just opened, as `s₁`, before these events. -/
inductive Posture (s₁ : Tailing) (after : List (Nat × TailingEvent)) (t : Tailer) : Reader → Prop
  | unlooked (hlooked : ¬Looked after) (hreturned : ¬s₁.Returned after) (hphase : t.phase = .opened)
      (hsize : t.size = none) : Posture s₁ after t .idle
  | reading (hlooked : Looked after) (hphase : t.phase = .reading)
      (hsize : t.size.isSome) {r : Read} :
      Posture s₁ after t (.busy r)
  | waiting (hlooked : Looked after) (hreturned : s₁.Returned after) (hphase : t.phase = .watching)
      (hsize : t.size.isSome) : Posture s₁ after t .idle

theorem Posture.ne_lost (h : s₁.Posture after t reader) : reader ≠ .lost := by
  cases h with
  | unlooked | reading | waiting => simp

/-- One more step that leaves the file open. -/
theorem Posture.turn {t : Tailer} (h : s₁.Posture after (s₁.run after).1.tailer reader)
    (hopen : (s₁.run after).1.tailer.opened = some ⟨file, reader⟩)
    (hturn : Turn (s₁.run after).1.tailer e t reader reader') :
    s₁.Posture (after ++ [(now, e)]) t reader' := by
  have hread {r : Read} (hbusy : reader = .busy r) : (s₁.run after).1.tailer.read?.isSome := by
    rw [Tailer.read?, hopen, hbusy]
    rfl
  cases hturn with
  | rests he hphase hsize =>
    have hlooked : Looked (after ++ [(now, e)]) ↔ Looked after :=
      looked_concat.trans (or_iff_left he)
    cases h with
    | unlooked hnone hnever hwas hunknown =>
      refine .unlooked (by rwa [hlooked]) ?_ (hphase.trans hwas) (hsize.trans hunknown)
      rw [returned_concat, Tailer.read?, hopen]
      simpa using hnever
    | waiting hsome hreturned hwas hknown =>
      exact .waiting (hlooked.mpr hsome) (returned_concat.mpr (Or.inl hreturned))
        (hphase.trans hwas) (by rwa [hsize])
  | starts he hphase hsize => exact .reading (looked_concat.mpr (Or.inr he)) hphase hsize
  | reads hphase hsize =>
    cases h with
    | reading hsome hwas hknown =>
      refine .reading (looked_concat.mpr (Or.inl hsome)) ?_ (hsize hknown)
      exact hphase.elim (fun hsame => hsame.trans hwas) id
  | ends he hphase hsize =>
    cases h with
    | reading hsome hwas hknown =>
      exact .waiting (looked_concat.mpr (Or.inl hsome))
        (returned_concat.mpr (Or.inr ⟨he, hread rfl⟩)) hphase (hsize hknown)

/-- What is shown of a tailer that follows the file opened in `s₁`, and the reader behind it. -/
structure Shown (s₁ : Tailing) (after : List (Nat × TailingEvent)) (t : Tailer) (reader : Reader) :
    Prop where
  /-- A reader that is lost would be waited for without end. -/
  present : reader ≠ .lost
  phase : t.phase = .opened ∨ t.phase = .reading ∨ t.phase = .watching
  reading : t.phase = .reading ↔ ∃ r, reader = .busy r
  watching : t.phase = .watching ↔ reader = .idle ∧ s₁.Returned after
  opened : t.phase = .opened ↔ ¬Looked after
  unlooked : ¬Looked after → t.size = none ∧ reader = .idle

theorem Posture.shown (h : s₁.Posture after t reader) : s₁.Shown after t reader := by
  cases h with
  | unlooked hlooked hreturned hphase hsize =>
    constructor
    all_goals simp [hlooked, hreturned, hphase, hsize]
  | reading hlooked hphase hsize =>
    constructor
    all_goals simp [hlooked, hphase]
  | waiting hlooked hreturned hphase hsize =>
    constructor
    all_goals simp [hlooked, hreturned, hphase]

/-- The attempt after `before` has opened the file, which has been followed throughout `after`. -/
structure FollowedSince (s₀ : Tailing) (before : List (Nat × TailingEvent)) (opening : Nat)
    (after : List (Nat × TailingEvent)) (file : FileId) : Prop where
  closed : (s₀.run before).1.tailer.opened = none
  followed : ∀ middle, middle <+: after →
    (s₀.run (before ++ (opening, .attempt) :: middle)).1.tailer.openFile? = some file

/-- Only an attempt opens a file. -/
theorem Move.eq_attempt (h : s.Move now e acts s' out) (hclosed : s.tailer.opened = none)
    (hopen : s'.tailer.opened = some ⟨file, reader⟩) : e = .attempt := by
  cases h with
  | changed | idle => cases hclosed.symm.trans hopen
  | lost cause =>
    rw [Tailer.loseRead, hclosed] at hopen
    cases hclosed.symm.trans hopen
  | unopened | opened => rfl
  | left h | looked h | stale h | full h | ended h | blocked h | emptied h =>
    rw [hclosed] at h
    cases h

theorem FollowedSince.concat {before : List (Nat × TailingEvent)} {opening : Nat}
    (h : s₀.FollowedSince before opening after file) {event : Nat × TailingEvent}
    (hopen : (s₀.run (before ++ (opening, .attempt) :: after ++ [event])).1.tailer.openFile? =
      some file) :
    s₀.FollowedSince before opening (after ++ [event]) file where
  closed := h.closed
  followed middle hmiddle := by
    rcases List.prefix_concat_iff.mp hmiddle with rfl | hmiddle
    · rwa [List.append_assoc] at hopen
    · exact h.followed middle hmiddle

/-- A file that is open has been opened by some attempt and followed since then. -/
theorem exists_posture (hclosed : s₀.tailer.opened = none)
    (hopen : (s₀.run past).1.tailer.opened = some ⟨file, reader⟩) :
    ∃ before opening after, past = before ++ (opening, .attempt) :: after ∧
      s₀.FollowedSince before opening after file ∧
      (s₀.run (before ++ [(opening, .attempt)])).1.Posture after (s₀.run past).1.tailer reader := by
  induction past using List.reverseRecOn generalizing file reader with
  | nil =>
    rw [run_nil, hclosed] at hopen
    cases hopen
  | append_singleton past event ih =>
    obtain ⟨now, e⟩ := event
    have hnext := run_concat s₀ past (now, e)
    have hmove := (s₀.run past).1.step_move now e
    rw [hnext] at hopen
    cases hwas : (s₀.run past).1.tailer.opened with
    | none =>
      obtain rfl := hmove.eq_attempt hwas hopen
      obtain ⟨hentered, _⟩ := hmove.entered hwas hopen
      rw [hnext, hentered]
      rw [hentered] at hopen
      cases hopen
      refine ⟨past, now, [], rfl, ⟨hwas, ?_⟩,
        .unlooked (by simp [Looked]) (by simp [Returned]) rfl rfl⟩
      intro middle hmiddle
      rw [List.prefix_nil.mp hmiddle, hnext, hentered]
      rfl
    | some o =>
      obtain ⟨file', reader'⟩ := o
      obtain ⟨before, opening, after, rfl, hfollowed, hposture⟩ := ih hwas
      obtain ⟨rfl, hturn⟩ := step_turn hwas hposture.ne_lost hopen
      rw [← hnext] at hturn hopen
      have hrun : (s₀.run (before ++ (opening, .attempt) :: after)).1 =
          ((s₀.run (before ++ [(opening, .attempt)])).1.run after).1 := by
        rw [← run_append, List.append_assoc]
        rfl
      rw [hrun] at hwas hposture hturn
      exact ⟨before, opening, after ++ [(now, e)], by simp,
        hfollowed.concat (Tailer.openFile?_eq_some.mpr ⟨reader, hopen⟩), hposture.turn hwas hturn⟩

/-! ## Bytes read -/

theorem leave_bytesRead (now : Nat) (s : Tailing) :
    (leave now s).1.tailer.stats.bytesRead =
      s.tailer.stats.bytesRead + (s.tailer.closeActs.flatMap TailerAct.bytes).length := by
  rw [leave]
  rcases s.tailer.close_cases now with ⟨_, b, _, heq, hacts⟩ | ⟨heq, hacts⟩
  · rw [heq, hacts, List.flatMap_cons, List.length_append]
    rfl
  · rw [heq, hacts]
    rfl

theorem Move.bytesRead (h : s.Move now e acts s' out) (he : e ≠ .attempt)
    (hnone : .emptied ∉ acts) :
    s'.tailer.stats.bytesRead =
      s.tailer.stats.bytesRead + (acts.flatMap TailerAct.bytes).length := by
  cases h with
  | changed | idle => rfl
  | lost cause =>
    obtain ⟨opened, heq⟩ := s.tailer.loseRead_eq cause
    rw [heq]
    rfl
  | unopened | opened => exact absurd rfl he
  | left => exact leave_bytesRead now s
  | @looked opened =>
    obtain ⟨_, hsame, hacts⟩ := s.tailer.observe_shown now (s.files.size opened)
    rw [Tailer.startRead_bytesRead, hsame, hacts]
    rfl
  | stale =>
    rw [Tailer.startRead_bytesRead]
    rfl
  | full =>
    rw [Tailer.startRead_bytesRead, Tailer.taken_bytesRead]
    simp [TailerAct.bytes]
  | @ended opened offset b | @blocked opened offset b =>
    have htaken := s.tailer.taken_bytesRead opened now b
    simpa [TailerAct.bytes] using htaken
  | emptied => simp at hnone

theorem attempt_bytesRead (s : Tailing) :
    s.attempt.tailer.stats.bytesRead = s.tailer.stats.bytesRead ∧
      (s.acts .attempt).flatMap TailerAct.bytes = [] := by
  by_cases hbusy : s.tailer.opened.isSome ∨ s.tailer.phase = .stopped
  · rw [acts, attempt, if_pos hbusy, if_pos hbusy]
    exact ⟨rfl, rfl⟩
  · rw [acts, attempt, if_neg hbusy, if_neg hbusy, Tailer.attemptOpen]
    cases s.files.resolve s.tailer.source.path with
    | ok file => exact ⟨rfl, rfl⟩
    | error cause =>
      refine ⟨?_, rfl⟩
      by_cases hlast : s.tailer.maxOpenAttempts ≠ 0 ∧
          s.tailer.maxOpenAttempts ≤ s.tailer.attempts + 1
      · simp only [if_pos hlast]
      · simp only [if_neg hlast]

/-- The bytes read grow by those that a step feeds. -/
theorem step_bytesRead (s : Tailing) (now : Nat) (e : TailingEvent) :
    (s.step now e).1.tailer.stats.bytesRead =
      s.tailer.stats.bytesRead + ((s.acts e).flatMap TailerAct.bytes).length := by
  by_cases he : e = .attempt
  · obtain ⟨hsame, hacts⟩ := s.attempt_bytesRead
    rw [he, hacts]
    exact hsame
  by_cases hemptied : .emptied ∈ s.acts e
  · obtain ⟨rfl, file, target, b, hemptying⟩ := exists_emptying hemptied
    obtain ⟨hstep, hacts⟩ := hemptying.step_eq now
    rw [hstep, hacts]
    simp [TailerAct.bytes, Tailer.taken_bytesRead]
  · exact (s.step_move now e).bytesRead he hemptied

theorem run_bytesRead (s : Tailing) (events : List (Nat × TailingEvent)) :
    (s.run events).1.tailer.stats.bytesRead =
      s.tailer.stats.bytesRead + ((s.history events).flatMap TailerAct.bytes).length := by
  induction events generalizing s with
  | nil => rfl
  | cons e events ih =>
    rw [run_cons, ih, step_bytesRead, history, List.flatMap_append, List.length_append,
      Nat.add_assoc]

/-! ## Every run -/

/-- What is shown of a tailer that follows a file agrees with its reader and with its pipeline. -/
structure InStep (s₀ : Tailing) (past : List (Nat × TailingEvent)) (t : Tailer) (file : FileId)
    (reader : Reader) : Prop where
  since : ∃ before opening after, past = before ++ (opening, .attempt) :: after ∧
    s₀.FollowedSince before opening after file ∧
    (s₀.run (before ++ [(opening, .attempt)])).1.Shown after t reader
  /-- The pipeline has had the calls of the acts and no others. -/
  calls : ∃ calls, calls.map Prod.snd = (s₀.history past).filterMap TailerAct.call? ∧
    Stage.run Pipeline.call s₀.tailer.pipeline calls = (t.pipeline, (s₀.run past).2)
  bytesRead : t.stats.bytesRead = ((s₀.history past).flatMap TailerAct.bytes).length
  counters : t.stats.counters = t.pipeline.counters

/-- However other programs change the files, and however looks and the ends of reads follow
each other, what is shown of a tailer that follows a file agrees with its reader and with
its pipeline. -/
theorem run_new_inStep (files : FileSystem) (settings : Settings) (source : Source)
    (past : List (Nat × TailingEvent)) {file : FileId} {reader : Reader}
    (hopen : (run ⟨files, .new settings source⟩ past).1.tailer.opened = some ⟨file, reader⟩) :
    InStep ⟨files, .new settings source⟩ past (run ⟨files, .new settings source⟩ past).1.tailer file
      reader where
  since := by
    obtain ⟨before, opening, after, hpast, hfollowed, hposture⟩ := exists_posture rfl hopen
    exact ⟨before, opening, after, hpast, hfollowed, hposture.shown⟩
  calls := exists_calls _ past
  bytesRead := by
    rw [run_bytesRead]
    exact Nat.zero_add _
  counters :=
    (run_induction (P := fun s => s.tailer.Regular settings) step_regular
      (Tailer.regular_new settings source) past).counters

/-- A line is read, and then the file is cut down to a shorter one while a read is under way.  That
read comes back stale and is followed by another one. -/
theorem run_new_inStep_shortened :
    let source : Source := ⟨"app", "/log"⟩
    let files : FileSystem := ⟨#[.directory, .file []], [([], 0), (["log"], 1)], []⟩
    let s₀ : Tailing := ⟨files, .new { sources := [source] } source⟩
    let past : List (Nat × TailingEvent) :=
      [(0, .attempt), (0, .notice .changed), (1, .complete),
        (2, .change (.append "/log" [97, 97, 10])), (2, .notice .changed), (3, .complete),
        (4, .notice .changed), (5, .change (.write "/log" [98, 10])), (5, .notice .changed),
        (6, .complete), (7, .complete)]
    let t := (s₀.run past).1.tailer
    t.opened = some { file := 1 } ∧ InStep s₀ past t 1 .idle ∧ t.phase = .watching ∧
      t.stats.bytesRead = 5 ∧ t.stats.counters = { lines := 2, emitted := 2 } := by
  intro source files s₀ past t
  have hopen : t.opened = some { file := 1 } := by decide
  exact ⟨hopen,
    run_new_inStep files { sources := [source] } source past hopen, by decide, by decide, by decide⟩

end Tailing

end LogCourier
