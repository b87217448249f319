import LogCourier.Proofs.Tailer.Acts
import LogCourier.Tailer.Run

/-!
# The steps of a tailer among files

`Tailing.Move` says once what a step of a tailer among files can come to, and `Tailing.acts` lists
the acts of a step.  Both are true to the steps (`step_move`), so that a property of all steps is
shown by going through the moves.  The first such property is that the acts tell all (`step_acted`).
-/

namespace LogCourier

namespace Tailer

/-! ## The acts of a step -/

def checkActs (t : Tailer) (files : FileSystem) : List TailerAct :=
  match t.opened with
  | none => []
  | some o =>
    match files.resolve t.source.path with
    | .error _ => t.closeActs
    | .ok file => if file ≠ o.file then t.closeActs else t.observeActs (files.size file)

def completeActs (t : Tailer) (files : FileSystem) : List TailerAct :=
  match t.opened with
  | some ⟨_, .busy r⟩ =>
    match r.result with
    | .bytes b =>
      if r.epoch ≠ t.epoch then []
      else if b.length = chunkSize ∨ t.pendingTruncation = false then [.fed b]
      else
        match files.resolveWritable t.source.path with
        | .error _ => [.fed b]
        | .ok _ => [.fed b, .emptied]
    | _ => [.restarted]
  | _ => []

/-- The tailer that has just opened a file and is about to follow it. -/
def entered (t : Tailer) (file : FileId) : Tailer :=
  { t with
    phase := .opened
    attempts := 0
    size := none
    epoch := t.epoch + 1
    pendingTruncation := false
    opened := some { file }
    stats := { t.stats with openAttempts := t.stats.openAttempts + 1 } }

/-- The tailer that has passed on what its read came back with. -/
def taken (t : Tailer) (file : FileId) (now : Nat) (b : Bytes) : Tailer :=
  ({ t with phase := .watching, opened := some { file } }.consume now b).1

theorem taken_acted (now : Nat) (t : Tailer) (file : FileId) (b : Bytes) :
    t.Acted now [.fed b] (t.taken file now b) (t.consume now b).2 :=
  have h := consume_acted now t b
  ⟨h.pipeline, h.offset, h.epoch, h.counters, h.settings⟩

theorem truncate_blocked {t : Tailer} {files : FileSystem} {cause : SystemError}
    (h : files.resolveWritable t.source.path = .error cause) :
    t.truncate files = ({ t with pendingTruncation := false }, files) := by
  rw [truncate, h]

theorem truncate_emptied {t : Tailer} {files : FileSystem} {target : FileId}
    (h : files.resolveWritable t.source.path = .ok target) :
    t.truncate files =
      ({ t with
          offset := 0
          size := some 0
          epoch := t.epoch + 1
          pendingTruncation := false
          stats := { t.stats with truncations := t.stats.truncations + 1 } },
        files.update target fun _ => []) := by
  rw [truncate, h]

theorem complete_current {t : Tailer} {file : FileId} {offset : Nat} {b : Bytes}
    (hread : t.opened = some ⟨file, .busy ⟨offset, t.epoch, .bytes b⟩⟩) (files : FileSystem)
    (now : Nat) :
    t.complete files now =
      if b.length = chunkSize then
        (⟨(t.taken file now b).startRead files, (t.consume now b).2, none⟩, files)
      else if t.pendingTruncation then
        (⟨((t.taken file now b).truncate files).1, (t.consume now b).2, none⟩,
          ((t.taken file now b).truncate files).2)
      else (⟨t.taken file now b, (t.consume now b).2, none⟩, files) := by
  simp only [complete, hread, ne_eq, not_true_eq_false, if_false]
  rfl

end Tailer

namespace Tailing

def acts (s : Tailing) : TailingEvent → List TailerAct
  | .change _ | .lose _ => []
  | .attempt =>
    if s.tailer.opened.isSome ∨ s.tailer.phase = .stopped then []
    else
      match s.files.resolve s.tailer.source.path with
      | .error _ => []
      | .ok file => [.opened file]
  | .notice .changed => s.tailer.checkActs s.files
  | .notice .renamed => if s.tailer.opened.isSome then s.tailer.closeActs else []
  | .complete => s.tailer.completeActs s.files

/-! ## What a step can come to -/

/-- The outcomes of a step: its acts, the tailer among files after it, and what goes out. -/
inductive Move (s : Tailing) (now : Nat) :
    TailingEvent → List TailerAct → Tailing → List Message → Prop
  | changed (c : FileChange) :
      Move s now (.change c) [] { s with files := s.files.changed c } []
  | lost (cause : TaskFailure) :
      Move s now (.lose cause) [] { s with tailer := s.tailer.loseRead cause } []
  /-- Nothing is to be done. -/
  | idle (e : TailingEvent) : Move s now e [] s []
  | unopened (hclosed : s.tailer.opened = none) (phase : TailerPhase) (attempts : Nat)
      (stats : TailerStats) (hstats : stats.counters = s.tailer.stats.counters) :
      Move s now .attempt [] { s with tailer := { s.tailer with phase, attempts, stats } } []
  | opened (hclosed : s.tailer.opened = none) {file : FileId}
      (hfile : s.files.resolve s.tailer.source.path = .ok file) :
      Move s now .attempt [.opened file] { s with tailer := s.tailer.entered file } []
  | left (hopen : s.tailer.opened.isSome) (e : TailingEvent) :
      Move s now e s.tailer.closeActs (leave now s).1 (leave now s).2
  | looked {file : FileId} {reader : Reader} (hopen : s.tailer.opened = some ⟨file, reader⟩)
      (hfile : s.files.resolve s.tailer.source.path = .ok file) :
      Move s now (.notice .changed) (s.tailer.observeActs (s.files.size file))
        { s with tailer := (s.tailer.observe now (s.files.size file)).1.startRead s.files }
        (s.tailer.observe now (s.files.size file)).2
  /-- What was read in an earlier epoch is read again. -/
  | stale {file : FileId} {offset epoch : Nat} {b : Bytes}
      (hread : s.tailer.opened = some ⟨file, .busy ⟨offset, epoch, .bytes b⟩⟩)
      (hepoch : epoch ≠ s.tailer.epoch) :
      Move s now .complete []
        { s with tailer :=
            { s.tailer with phase := .watching, opened := some { file } }.startRead s.files } []
  /-- There may be more to read. -/
  | full {file : FileId} {offset : Nat} {b : Bytes}
      (hread : s.tailer.opened = some ⟨file, .busy ⟨offset, s.tailer.epoch, .bytes b⟩⟩)
      (hfull : b.length = Tailer.chunkSize) :
      Move s now .complete [.fed b]
        { s with tailer := (s.tailer.taken file now b).startRead s.files }
        (s.tailer.consume now b).2
  /-- The end of the file. -/
  | ended {file : FileId} {offset : Nat} {b : Bytes}
      (hread : s.tailer.opened = some ⟨file, .busy ⟨offset, s.tailer.epoch, .bytes b⟩⟩)
      (hshort : b.length ≠ Tailer.chunkSize) (hpending : s.tailer.pendingTruncation = false) :
      Move s now .complete [.fed b] { s with tailer := s.tailer.taken file now b }
        (s.tailer.consume now b).2
  /-- The file should be emptied and cannot be. -/
  | blocked {file : FileId} {offset : Nat} {b : Bytes}
      (hread : s.tailer.opened = some ⟨file, .busy ⟨offset, s.tailer.epoch, .bytes b⟩⟩)
      (hshort : b.length ≠ Tailer.chunkSize) (hpending : s.tailer.pendingTruncation = true) :
      Move s now .complete [.fed b]
        { s with tailer := { s.tailer.taken file now b with pendingTruncation := false } }
        (s.tailer.consume now b).2
  | emptied {file : FileId} {offset : Nat} {b : Bytes}
      (hread : s.tailer.opened = some ⟨file, .busy ⟨offset, s.tailer.epoch, .bytes b⟩⟩)
      (hshort : b.length ≠ Tailer.chunkSize) (hpending : s.tailer.pendingTruncation = true)
      (files : FileSystem) (stats : TailerStats)
      (hstats : stats.counters = (s.tailer.taken file now b).stats.counters) :
      Move s now .complete [.fed b, .emptied]
        { files, tailer := { s.tailer.taken file now b with
            offset := 0, size := some 0, epoch := s.tailer.epoch + 1, pendingTruncation := false
            stats } }
        (s.tailer.consume now b).2

theorem attempt_move (s : Tailing) (now : Nat) :
    s.Move now .attempt (s.acts .attempt) s.attempt [] := by
  by_cases hbusy : s.tailer.opened.isSome ∨ s.tailer.phase = .stopped
  · rw [acts, attempt, if_pos hbusy, if_pos hbusy]
    exact .idle _
  · have hclosed : s.tailer.opened = none := by
      rw [← Option.not_isSome_iff_eq_none]
      exact fun h => hbusy (Or.inl h)
    rw [acts, attempt, if_neg hbusy, if_neg hbusy, Tailer.attemptOpen]
    cases hfile : s.files.resolve s.tailer.source.path with
    | ok file => exact .opened hclosed hfile
    | error cause =>
      simp only
      split
      next t h =>
        split at h <;> cases h
      next t h =>
        split at h
        · cases h
          exact .unopened hclosed _ _ _ rfl
        · cases h
      next t h =>
        split at h
        · cases h
        · cases h
          exact .unopened hclosed _ _ _ rfl

theorem check_move (s : Tailing) (now : Nat) :
    s.Move now (.notice .changed) (s.tailer.checkActs s.files)
      (follow now s.files (s.tailer.check s.files now)).1
      (follow now s.files (s.tailer.check s.files now)).2 := by
  rw [Tailer.checkActs, Tailer.check]
  cases hopen : s.tailer.opened with
  | none => exact .idle _
  | some o =>
    have hsome : s.tailer.opened.isSome := by rw [hopen]; rfl
    cases hfile : s.files.resolve s.tailer.source.path with
    | error cause =>
      cases cause with
      | notFound => exact .left hsome _
      | _ => exact .left hsome _
    | ok file =>
      obtain ⟨opened, reader⟩ := o
      simp only
      split
      · exact .left hsome _
      · next h =>
        have hsame : file = opened := Decidable.of_not_not h
        subst hsame
        exact .looked hopen hfile

/-- A read that fails, or does not come back, leaves a tailer whose file has to be closed. -/
theorem failed_move {s : Tailing} {file : FileId} {r : Read}
    (hopen : s.tailer.opened = some ⟨file, .busy r⟩) (hresult : ∀ b, r.result ≠ .bytes b)
    (reader : Reader) (hreader : ∀ r', reader ≠ .busy r') (now : Nat) :
    s.Move now .complete [.restarted]
      (leave now { s with tailer := { s.tailer with opened := some ⟨file, reader⟩ } }).1
      (leave now { s with tailer := { s.tailer with opened := some ⟨file, reader⟩ } }).2 := by
  have hmove : s.Move now .complete s.tailer.closeActs (leave now s).1 (leave now s).2 :=
    .left (by rw [hopen]; rfl) .complete
  obtain ⟨hclose, hacts⟩ := Tailer.close_without hopen hresult hreader now
  rw [leave, ← hclose, hacts] at hmove
  exact hmove

/-- A read of the present epoch comes back. -/
theorem current_move {s : Tailing} {file : FileId} {offset : Nat} {b : Bytes}
    (hread : s.tailer.opened = some ⟨file, .busy ⟨offset, s.tailer.epoch, .bytes b⟩⟩) (now : Nat) :
    s.Move now .complete (s.tailer.completeActs s.files)
      (follow now (s.tailer.complete s.files now).2 (s.tailer.complete s.files now).1).1
      (follow now (s.tailer.complete s.files now).2 (s.tailer.complete s.files now).1).2 := by
  rw [Tailer.complete_current hread, Tailer.completeActs, hread]
  simp only [ne_eq, not_true_eq_false, if_false]
  by_cases hfull : b.length = Tailer.chunkSize
  · rw [if_pos (Or.inl hfull), if_pos hfull]
    exact .full hread hfull
  · cases hpending : s.tailer.pendingTruncation with
    | false =>
      rw [if_neg hfull, if_pos (Or.inr rfl)]
      exact .ended hread hfull hpending
    | true =>
      rw [if_neg hfull, if_neg (by simp [hfull]), if_pos rfl]
      cases htarget : s.files.resolveWritable s.tailer.source.path with
      | error cause =>
        rw [Tailer.truncate_blocked (t := s.tailer.taken file now b) htarget]
        exact .blocked hread hfull hpending
      | ok target =>
        rw [Tailer.truncate_emptied (t := s.tailer.taken file now b) htarget]
        exact .emptied hread hfull hpending _ _ rfl

theorem complete_move (s : Tailing) (now : Nat) :
    s.Move now .complete (s.tailer.completeActs s.files)
      (follow now (s.tailer.complete s.files now).2 (s.tailer.complete s.files now).1).1
      (follow now (s.tailer.complete s.files now).2 (s.tailer.complete s.files now).1).2 := by
  cases hopen : s.tailer.opened with
  | none =>
    rw [Tailer.completeActs, Tailer.complete, hopen]
    exact .idle _
  | some o =>
    obtain ⟨file, reader⟩ := o
    cases reader with
    | idle | lost =>
      rw [Tailer.completeActs, Tailer.complete, hopen]
      exact .idle _
    | busy r =>
      obtain ⟨offset, epoch, result⟩ := r
      cases result with
      | abandoned cause =>
        have hmove := failed_move hopen (by simp) .lost (by simp) now
        rw [Tailer.completeActs, Tailer.complete, hopen]
        exact hmove
      | failed cause =>
        have hmove := failed_move hopen (by simp) .idle (by simp) now
        rw [Tailer.completeActs, Tailer.complete, hopen]
        exact hmove
      | bytes b =>
        by_cases hepoch : epoch = s.tailer.epoch
        · subst hepoch
          exact current_move hopen now
        · rw [Tailer.completeActs, Tailer.complete, hopen]
          simp only [ne_eq, hepoch, not_false_eq_true, if_true]
          exact .stale hopen hepoch

/-- A look at a path that still leads to the open file. -/
theorem step_look {s : Tailing} {file : FileId} {reader : Reader}
    (hopen : s.tailer.opened = some ⟨file, reader⟩)
    (hfile : s.files.resolve s.tailer.source.path = .ok file) (now : Nat) :
    s.step now (.notice .changed) =
        ({ s with tailer := (s.tailer.observe now (s.files.size file)).1.startRead s.files },
          (s.tailer.observe now (s.files.size file)).2) ∧
      s.acts (.notice .changed) = s.tailer.observeActs (s.files.size file) := by
  simp only [step, acts, Tailer.check, Tailer.checkActs, hopen, hfile]
  rw [if_neg (not_not_intro rfl), if_neg (not_not_intro rfl)]
  exact ⟨rfl, rfl⟩

/-- A read of the present epoch comes back, and the file is not to be emptied. -/
theorem step_complete {s : Tailing} {file : FileId} {offset : Nat} {b : Bytes}
    (hread : s.tailer.opened = some ⟨file, .busy ⟨offset, s.tailer.epoch, .bytes b⟩⟩)
    (hpending : s.tailer.pendingTruncation = false) (now : Nat) :
    (s.step now .complete).1 =
        { s with tailer :=
            if b.length = Tailer.chunkSize then (s.tailer.taken file now b).startRead s.files
            else s.tailer.taken file now b } ∧
      s.acts .complete = [.fed b] := by
  simp only [step, acts, Tailer.completeActs, Tailer.complete_current hread, hread, hpending]
  rw [if_neg (not_not_intro rfl), if_pos (Or.inr trivial)]
  refine ⟨?_, rfl⟩
  split
  · rfl
  · rfl

/-- The moves are all that a step can come to. -/
theorem step_move (s : Tailing) (now : Nat) (e : TailingEvent) :
    s.Move now e (s.acts e) (s.step now e).1 (s.step now e).2 := by
  cases e with
  | change c => exact .changed c
  | attempt => exact s.attempt_move now
  | notice event =>
    cases event with
    | changed => exact s.check_move now
    | renamed =>
      rw [acts, step]
      split
      next hopen => exact .left hopen _
      next => exact .idle _
  | complete => exact s.complete_move now
  | lose cause => exact .lost cause

/-- An attempt that opens a file. -/
theorem Move.entered {s s' : Tailing} {now : Nat} {acts : List TailerAct} {out : List Message}
    (h : s.Move now .attempt acts s' out) (hclosed : s.tailer.opened = none) {file : FileId}
    {reader : Reader} (hopen : s'.tailer.opened = some ⟨file, reader⟩) :
    s' = { s with tailer := s.tailer.entered file } ∧
      s.files.resolve s.tailer.source.path = .ok file := by
  cases h with
  | idle | unopened =>
    rw [hclosed] at hopen
    cases hopen
  | opened _ hfile =>
    cases hopen
    exact ⟨rfl, hfile⟩
  | left hsome =>
    rw [hclosed] at hsome
    cases hsome

/-! ## The acts tell all -/

theorem leave_acted (s : Tailing) (now : Nat) :
    s.tailer.Acted now s.tailer.closeActs (leave now s).1.tailer (leave now s).2 :=
  have h := Tailer.close_acted now s.tailer
  ⟨h.pipeline, h.offset, h.epoch, h.counters, h.settings⟩

theorem Move.acted {s s' : Tailing} {now : Nat} {e : TailingEvent} {acts : List TailerAct}
    {out : List Message} (h : s.Move now e acts s' out) :
    s.tailer.Acted now acts s'.tailer out := by
  cases h with
  | changed c => exact .refl now _
  | lost cause => exact Tailer.loseRead_acted now _ cause
  | idle => exact .refl now _
  | unopened hclosed phase attempts stats hstats => exact .nil rfl rfl rfl hstats ⟨rfl, rfl⟩
  | opened hclosed hfile => exact ⟨rfl, rfl, rfl, fun h => h, rfl, rfl⟩
  | left hopen => exact s.leave_acted now
  | looked hopen hfile => exact (Tailer.observe_acted now s.tailer _).startRead s.files
  | @stale file offset epoch b hread hepoch =>
    have h : s.tailer.Acted now []
        { s.tailer with phase := .watching, opened := some { file } } [] :=
      .nil rfl rfl rfl rfl ⟨rfl, rfl⟩
    exact h.startRead s.files
  | full hread hfull => exact (Tailer.taken_acted now s.tailer _ _).startRead s.files
  | ended hread => exact Tailer.taken_acted now s.tailer _ _
  | @blocked file offset b hread =>
    have h := Tailer.taken_acted now s.tailer file b
    exact ⟨h.pipeline, h.offset, h.epoch, h.counters, h.settings⟩
  | @emptied file offset b hread hshort hpending files stats hstats =>
    have h := Tailer.taken_acted now s.tailer file b
    exact ⟨h.pipeline, rfl, rfl, fun hc => hstats.trans (h.counters hc), h.settings⟩

theorem step_acted (s : Tailing) (now : Nat) (e : TailingEvent) :
    s.tailer.Acted now (s.acts e) (s.step now e).1.tailer (s.step now e).2 :=
  (s.step_move now e).acted

/-! ## Runs -/

/-- A run: every event comes with its time. -/
def run (s : Tailing) (events : List (Nat × TailingEvent)) : Tailing × List Message :=
  Stage.run (fun s e => s.step e.1 e.2) s events

/-- All acts of a run, in their order. -/
def history (s : Tailing) : List (Nat × TailingEvent) → List TailerAct
  | [] => []
  | e :: events => s.acts e.2 ++ history (s.step e.1 e.2).1 events

@[simp] theorem run_nil (s : Tailing) : s.run [] = (s, []) := rfl

theorem run_cons (s : Tailing) (e : Nat × TailingEvent) (events : List (Nat × TailingEvent)) :
    s.run (e :: events) =
      (((s.step e.1 e.2).1.run events).1,
        (s.step e.1 e.2).2 ++ ((s.step e.1 e.2).1.run events).2) := by
  rw [run, Stage.run_cons]
  rfl

theorem run_append (s : Tailing) (xs ys : List (Nat × TailingEvent)) :
    (s.run (xs ++ ys)).1 = ((s.run xs).1.run ys).1 := by
  rw [run, Stage.run_append, run, run]

theorem run_concat (s : Tailing) (events : List (Nat × TailingEvent)) (e : Nat × TailingEvent) :
    (s.run (events ++ [e])).1 = ((s.run events).1.step e.1 e.2).1 := by
  rw [run_append, run_cons, run_nil]

theorem history_append (s : Tailing) (xs ys : List (Nat × TailingEvent)) :
    s.history (xs ++ ys) = s.history xs ++ (s.run xs).1.history ys := by
  induction xs generalizing s with
  | nil => rfl
  | cons e xs ih =>
    rw [List.cons_append, history, ih, history, List.append_assoc, run_cons]

theorem history_concat (s : Tailing) (events : List (Nat × TailingEvent))
    (e : Nat × TailingEvent) :
    s.history (events ++ [e]) = s.history events ++ (s.run events).1.acts e.2 := by
  rw [history_append, history, history, List.append_nil]

/-- What every step keeps holds throughout a run. -/
theorem run_induction {P : Tailing → Prop} (hstep : ∀ s now e, P s → P (s.step now e).1)
    {s : Tailing} (hs : P s) (events : List (Nat × TailingEvent)) : P (s.run events).1 := by
  induction events generalizing s with
  | nil => exact hs
  | cons e events ih =>
    rw [run_cons]
    exact ih (hstep s e.1 e.2 hs)

end Tailing

end LogCourier
