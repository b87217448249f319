import Mathlib.Data.List.Induction
import LogCourier.Proofs.Tailer.Moves

/-!
# Reads stay current

A read under way carries the offset and the epoch of its start.  `Tailer.Current` ties them to those
of the tailer: as long as the epochs agree, so do the offsets.  Every move keeps it.  What it gives
for a run is `Tailing.exists_heldSince`: a read whose epoch is not over was started in the run, and
the tailer has not moved in the file since then.
-/

namespace LogCourier

/-! ## Reads under way -/

namespace Tailer

/-- Whatever a read under way comes back with was read after the first look, and at the offset of
the tailer unless its epoch is over. -/
def Current (t : Tailer) : Prop :=
  ∀ offset epoch b, t.read? = some ⟨offset, epoch, .bytes b⟩ →
    t.size.isSome ∧ epoch ≤ t.epoch ∧ (epoch = t.epoch → offset = t.offset)

theorem current_of_read?_eq_none {t : Tailer} (h : t.read? = none) : t.Current := by
  intro offset epoch b hread
  rw [h] at hread
  cases hread

theorem read?_eq_some {t : Tailer} {r : Read} :
    t.read? = some r ↔ ∃ file, t.opened = some ⟨file, .busy r⟩ := by
  constructor
  · intro h
    unfold read? at h
    split at h
    next file r' hopen =>
      cases h
      exact ⟨file, hopen⟩
    next => cases h
  · rintro ⟨file, hopen⟩
    rw [read?, hopen]

theorem Current.of_opened {t : Tailer} (h : t.Current) {file : FileId} {offset epoch : Nat}
    {b : Bytes} (hread : t.opened = some ⟨file, .busy ⟨offset, epoch, .bytes b⟩⟩) :
    t.size.isSome ∧ epoch ≤ t.epoch ∧ (epoch = t.epoch → offset = t.offset) :=
  h offset epoch b (read?_eq_some.mpr ⟨file, hread⟩)

/-- A read that is under way after `startRead` was so before, or has just been started. -/
theorem startRead_read {t : Tailer} {files : FileSystem} {file : FileId} {offset epoch : Nat}
    {b : Bytes} (h : (t.startRead files).opened = some ⟨file, .busy ⟨offset, epoch, .bytes b⟩⟩) :
    t.opened = some ⟨file, .busy ⟨offset, epoch, .bytes b⟩⟩ ∨
      t.opened = some { file } ∧ (t.startRead files).offset = offset ∧
        (t.startRead files).epoch = epoch ∧ files.readAt file offset chunkSize = .ok b := by
  obtain ⟨phase, opened, heq⟩ := t.startRead_eq files
  have hoffset : (t.startRead files).offset = t.offset := by rw [heq]
  have hepoch : (t.startRead files).epoch = t.epoch := by rw [heq]
  rw [hoffset, hepoch]
  unfold startRead at h
  split at h
  next opened hopen =>
    cases hcontent : files.readAt opened t.offset chunkSize with
    | error cause =>
      rw [hcontent] at h
      cases h
    | ok content =>
      rw [hcontent] at h
      cases h
      exact Or.inr ⟨hopen, rfl, rfl, hcontent⟩
  next => exact Or.inl h

theorem Current.startRead {t : Tailer} (h : t.Current) (hsize : t.size.isSome)
    (files : FileSystem) : (t.startRead files).Current := by
  intro offset epoch b hread
  obtain ⟨file, hopen⟩ := read?_eq_some.mp hread
  obtain ⟨phase, opened, heq⟩ := t.startRead_eq files
  rcases startRead_read hopen with hwas | ⟨_, hoffset, hepoch, _⟩
  · rw [heq]
    exact h.of_opened hwas
  · refine ⟨?_, Nat.le_of_eq hepoch.symm, fun _ => hoffset.symm⟩
    rw [heq]
    exact hsize

theorem Current.observe {t : Tailer} (h : t.Current) (now size : Nat) :
    (t.observe now size).1.Current := by
  obtain ⟨hopened, hsize⟩ := t.observe_kept now size
  intro offset epoch b hread
  rw [read?, hopened] at hread
  obtain ⟨hlooked, hle, hoffset⟩ := h offset epoch b hread
  rw [hsize]
  refine ⟨rfl, ?_⟩
  rcases t.observe_cases now size with ⟨hnone, _⟩ | ⟨_, heq, _⟩ | ⟨_, heq, _⟩
  · rw [hnone] at hlooked
    cases hlooked
  · -- A reset begins a new epoch, to which no read under way belongs.
    rw [heq]
    change epoch ≤ t.epoch + 1 ∧ (epoch = t.epoch + 1 → offset = 0)
    exact ⟨Nat.le_succ_of_le hle, fun h => absurd h (Nat.ne_of_lt (Nat.lt_succ_of_le hle))⟩
  · rw [heq]
    exact ⟨hle, hoffset⟩

end Tailer

namespace Tailing

variable {s s' : Tailing} {now : Nat} {e : TailingEvent} {acts : List TailerAct}
  {out : List Message}

theorem Move.current (h : s.Move now e acts s' out) (hs : s.tailer.Current) :
    s'.tailer.Current := by
  cases h with
  | changed c => exact hs
  | lost cause =>
    rw [Tailer.loseRead]
    split
    · intro offset epoch b hread
      cases hread
    · exact hs
  | idle => exact hs
  | unopened hclosed =>
    apply Tailer.current_of_read?_eq_none
    rw [Tailer.read?]
    simp only [hclosed]
  | opened => exact Tailer.current_of_read?_eq_none rfl
  | left => exact Tailer.current_of_read?_eq_none rfl
  | looked => exact (hs.observe now _).startRead (by rw [(s.tailer.observe_kept now _).2]; rfl) _
  | @stale file offset epoch b hread =>
    have hsize := (hs.of_opened hread).1
    have hidle : Tailer.Current { s.tailer with phase := .watching, opened := some { file } } :=
      Tailer.current_of_read?_eq_none rfl
    exact hidle.startRead hsize _
  | @full file offset b hread =>
    have hsize := (hs.of_opened hread).1
    have hidle : (s.tailer.taken file now b).Current := Tailer.current_of_read?_eq_none rfl
    exact hidle.startRead hsize _
  | ended => exact Tailer.current_of_read?_eq_none rfl
  | blocked => exact Tailer.current_of_read?_eq_none rfl
  | emptied => exact Tailer.current_of_read?_eq_none rfl

/-- A read that is under way after a step was so before, or has just been started. -/
theorem Move.read (h : s.Move now e acts s' out) {file : FileId} {offset epoch : Nat} {b : Bytes}
    (hread : s'.tailer.opened = some ⟨file, .busy ⟨offset, epoch, .bytes b⟩⟩) :
    s.tailer.opened = some ⟨file, .busy ⟨offset, epoch, .bytes b⟩⟩ ∨
      s'.tailer.offset = offset ∧ s'.tailer.epoch = epoch ∧
        s'.files.readAt file offset Tailer.chunkSize = .ok b := by
  cases h with
  | changed c => exact Or.inl hread
  | lost cause =>
    rw [Tailer.loseRead] at hread
    split at hread
    · cases hread
    · exact Or.inl hread
  | idle => exact Or.inl hread
  | unopened hclosed =>
    simp only [hclosed] at hread
    cases hread
  | opened => cases hread
  | left => cases hread
  | looked =>
    rcases Tailer.startRead_read hread with hwas | ⟨_, hbegun⟩
    · rw [(s.tailer.observe_kept now _).1] at hwas
      exact Or.inl hwas
    · exact Or.inr hbegun
  | stale =>
    rcases Tailer.startRead_read hread with hwas | ⟨_, hbegun⟩
    · cases hwas
    · exact Or.inr hbegun
  | full =>
    rcases Tailer.startRead_read hread with hwas | ⟨_, hbegun⟩
    · cases hwas
    · exact Or.inr hbegun
  | ended => cases hread
  | blocked => cases hread
  | emptied => cases hread

/-! ## Reads in a run -/

theorem Move.epoch_le (h : s.Move now e acts s' out) : s.tailer.epoch ≤ s'.tailer.epoch := by
  rw [h.acted.epoch]
  exact TailerAct.le_foldl_moveEpoch _ _

theorem run_current {s : Tailing} (hs : s.tailer.Current) (events : List (Nat × TailingEvent)) :
    (s.run events).1.tailer.Current :=
  run_induction (P := fun s => s.tailer.Current)
    (fun s now e hs => (s.step_move now e).current hs) hs events

/-- A tailer that begins without a file has no read under way. -/
theorem run_current_of_closed {s : Tailing} (hclosed : s.tailer.opened = none)
    (events : List (Nat × TailingEvent)) : (s.run events).1.tailer.Current :=
  run_current (Tailer.current_of_read?_eq_none (by rw [Tailer.read?, hclosed])) events

theorem run_epoch_le (s : Tailing) (events : List (Nat × TailingEvent)) :
    s.tailer.epoch ≤ (s.run events).1.tailer.epoch :=
  run_induction (P := fun s' => s.tailer.epoch ≤ s'.tailer.epoch)
    (fun s now e hs => Nat.le_trans hs (s.step_move now e).epoch_le) (Nat.le_refl _) events

/-- After `before`, the event `e` has started a read of the file at the offset and in the epoch of
that moment, and throughout `after` it has been under way and neither of them has changed. -/
structure HeldSince (s : Tailing) (before : List (Nat × TailingEvent)) (e : Nat × TailingEvent)
    (after : List (Nat × TailingEvent)) (file : FileId) (offset epoch : Nat) (b : Bytes) :
    Prop where
  started : (s.run before).1.tailer.opened ≠ some ⟨file, .busy ⟨offset, epoch, .bytes b⟩⟩
  content : (s.run (before ++ [e])).1.files.readAt file offset Tailer.chunkSize = .ok b
  held : ∀ middle, middle <+: after →
    (s.run (before ++ e :: middle)).1.tailer.opened =
        some ⟨file, .busy ⟨offset, epoch, .bytes b⟩⟩ ∧
      (s.run (before ++ e :: middle)).1.tailer.offset = offset ∧
      (s.run (before ++ e :: middle)).1.tailer.epoch = epoch

/-- A read under way was started in the run. -/
theorem exists_started {s : Tailing} (hs : s.tailer.opened = none)
    {events : List (Nat × TailingEvent)} {file : FileId} {offset epoch : Nat} {b : Bytes}
    (hread : (s.run events).1.tailer.opened =
      some ⟨file, .busy ⟨offset, epoch, .bytes b⟩⟩) :
    ∃ before e after, events = before ++ e :: after ∧
      (s.run before).1.tailer.opened ≠ some ⟨file, .busy ⟨offset, epoch, .bytes b⟩⟩ ∧
      (s.run (before ++ [e])).1.files.readAt file offset Tailer.chunkSize = .ok b ∧
      ∀ middle, middle <+: after → (s.run (before ++ e :: middle)).1.tailer.opened =
        some ⟨file, .busy ⟨offset, epoch, .bytes b⟩⟩ := by
  induction events using List.reverseRecOn with
  | nil =>
    rw [run_nil, hs] at hread
    cases hread
  | append_singleton events e ih =>
    by_cases hbefore :
        (s.run events).1.tailer.opened = some ⟨file, .busy ⟨offset, epoch, .bytes b⟩⟩
    · obtain ⟨before, e', after, rfl, hstarted, hcontent, hheld⟩ := ih hbefore
      refine ⟨before, e', after ++ [e], by simp, hstarted, hcontent, ?_⟩
      intro middle hmiddle
      rcases List.prefix_concat_iff.mp hmiddle with rfl | hmiddle
      · rwa [List.append_assoc, List.cons_append] at hread
      · exact hheld middle hmiddle
    · rw [run_concat] at hread
      rcases ((s.run events).1.step_move e.1 e.2).read hread with hwas | ⟨_, _, hcontent⟩
      · exact absurd hwas hbefore
      · refine ⟨events, e, [], rfl, hbefore, ?_, ?_⟩
        · rwa [run_concat]
        · intro middle hmiddle
          rw [List.prefix_nil.mp hmiddle, run_concat]
          exact hread

/-- A read of the current epoch was started in the run, where the tailer still is in the file. -/
theorem exists_heldSince {s : Tailing} (hs : s.tailer.opened = none)
    {events : List (Nat × TailingEvent)} {file : FileId} {offset : Nat} {b : Bytes}
    (hread : (s.run events).1.tailer.opened =
      some ⟨file, .busy ⟨offset, (s.run events).1.tailer.epoch, .bytes b⟩⟩) :
    ∃ before e after, events = before ++ e :: after ∧
      s.HeldSince before e after file (s.run events).1.tailer.offset
        (s.run events).1.tailer.epoch b := by
  have hcurrent := (run_current_of_closed hs events).of_opened hread
  rw [← hcurrent.2.2 rfl]
  obtain ⟨before, e, after, heq, hstarted, hcontent, hheld⟩ := exists_started hs hread
  refine ⟨before, e, after, heq, hstarted, hcontent, ?_⟩
  intro middle hmiddle
  obtain ⟨rest, rfl⟩ := hmiddle
  have hopen := hheld middle (List.prefix_append _ _)
  obtain ⟨_, hle, hoffset⟩ := (run_current_of_closed hs (before ++ e :: middle)).of_opened hopen
  -- Epochs only grow, so that the epoch of the read has lasted from its start to the end.
  have hlast : (s.run (before ++ e :: middle)).1.tailer.epoch ≤ (s.run events).1.tailer.epoch := by
    have hle := run_epoch_le (s.run (before ++ e :: middle)).1 rest
    rwa [← run_append, List.append_assoc, List.cons_append, ← heq] at hle
  have hepoch := Nat.le_antisymm hlast hle
  exact ⟨hopen, (hoffset hepoch.symm).symm, hepoch⟩

end Tailing

end LogCourier
