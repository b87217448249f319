import LogCourier.Proofs.Tailer.Emptying

/-!
# Files that have grown too large

A look that finds the open file larger than the limit has it emptied once it has been read to its
end.  From then on only emptying it, trying to, or letting go of it changes that
(`Move.pending_before`).  A look that finds the file cut down in the meantime does not: a file is
emptied that has not been larger than the limit since.  So the last size is within the limit if and
only if the tailer has found the file truncated after that look (`Tailing.run_pending_overlong`).
-/

namespace LogCourier

namespace Tailing

variable {s s₀ s' : Tailing} {now : Nat} {e : TailingEvent} {acts : List TailerAct}
    {out : List Message}

theorem run_truncateLimit (s : Tailing) (events : List (Nat × TailingEvent)) :
    (s.run events).1.tailer.truncateLimit = s.tailer.truncateLimit :=
  run_induction (P := fun s' => s'.tailer.truncateLimit = s.tailer.truncateLimit)
    (fun s' now e h => (s'.step_acted now e).settings.2.trans h) rfl events

/-! ## What a step changes -/

/-- Between looks, a file that is to be emptied has been so before, and has the size of the
last look. -/
theorem Move.pending_before (h : s.Move now e acts s' out) (he : e ≠ .notice .changed)
    (hopen : s'.tailer.opened.isSome) (hpending : s'.tailer.pendingTruncation = true) :
    s.tailer.opened.isSome ∧ s.tailer.pendingTruncation = true ∧ s'.tailer.size = s.tailer.size ∧
      .truncated ∉ acts := by
  have hsize : s'.tailer.size = s.tailer.size := by
    rcases h.size_cases he with hsame | ⟨_, hnone, _⟩
    · exact hsame
    · cases hnone.symm.trans hpending
  cases h with
  | changed | idle => exact ⟨hopen, hpending, hsize, List.not_mem_nil⟩
  | lost cause =>
    obtain ⟨opened, heq⟩ := s.tailer.loseRead_eq cause
    refine ⟨?_, by rwa [heq] at hpending, hsize, List.not_mem_nil⟩
    rw [Tailer.loseRead] at hopen
    split at hopen
    next hwas =>
      rw [hwas]
      rfl
    next => exact hopen
  | unopened hclosed =>
    simp only [hclosed] at hopen
    cases hopen
  | opened | blocked | emptied => cases hpending
  | left => cases hopen
  | looked => exact absurd rfl he
  | @stale file offset epoch b hread =>
    obtain ⟨phase, opened, heq⟩ :=
      Tailer.startRead_eq { s.tailer with phase := .watching, opened := some { file } } s.files
    exact ⟨by rw [hread]; rfl, by rwa [heq] at hpending, hsize, List.not_mem_nil⟩
  | @full file offset b hread =>
    obtain ⟨phase, opened, heq⟩ := (s.tailer.taken file now b).startRead_eq s.files
    exact ⟨by rw [hread]; rfl, by rwa [heq] at hpending, hsize, by simp⟩
  | ended hread hshort hnone => cases hnone.symm.trans hpending

/-- A look that keeps the file open takes note of its size.  A file that was larger than the limit,
and is not any more, is found truncated. -/
theorem step_look_noted (hopen : (s.step now (.notice .changed)).1.tailer.opened.isSome) :
    ∃ file, s.tailer.openFile? = some file ∧
      (s.step now (.notice .changed)).1.tailer.size = some (s.files.size file) ∧
      (s.step now (.notice .changed)).1.tailer.pendingTruncation =
        (s.tailer.pendingTruncation ||
          (decide (0 < s.tailer.truncateLimit) &&
            decide (s.tailer.truncateLimit < s.files.size file))) ∧
      ∀ last, s.tailer.size = some last → s.files.size file < last →
        .truncated ∈ s.acts (.notice .changed) := by
  obtain ⟨⟨file, reader⟩, hstill⟩ := Option.isSome_iff_exists.mp hopen
  obtain ⟨hwas, hstep, hacts⟩ := look_eq hstill
  obtain ⟨phase, opened, heq⟩ := (s.tailer.observe now (s.files.size file)).1.startRead_eq s.files
  refine ⟨file, Tailer.openFile?_eq_some.mpr hwas, ?_, ?_, ?_⟩
  · rw [hstep, heq]
    exact (s.tailer.observe_kept now _).2
  · rw [hstep, heq]
    rcases s.tailer.observe_cases now (s.files.size file) with ⟨_, h, _⟩ | ⟨_, h, _⟩ | ⟨_, h, _⟩
    · rw [h]
      rfl
    · rw [h]
      rfl
    · rw [h]
      rfl
  · intro last hlast hshort
    rw [hacts, (Tailer.observe_shorter hlast (Or.inl hshort) now).2]
    exact List.mem_cons_self

/-! ## The look that found too much -/

/-- The look after `before` has found the open file larger than the limit, and throughout `after` it
has been to be emptied. -/
structure Overlong (s₀ : Tailing) (before : List (Nat × TailingEvent)) (now : Nat)
    (after : List (Nat × TailingEvent)) : Prop where
  limit_pos : 0 < s₀.tailer.truncateLimit
  exceeded : ∃ file, (s₀.run before).1.tailer.openFile? = some file ∧
    s₀.tailer.truncateLimit < (s₀.run before).1.files.size file
  pending : ∀ middle, middle <+: after →
    (s₀.run (before ++ (now, .notice .changed) :: middle)).1.tailer.pendingTruncation = true
  /-- The last look has found the file that large too, unless it has been found truncated since. -/
  last : ∃ last, (s₀.run (before ++ (now, .notice .changed) :: after)).1.tailer.size = some last ∧
    (s₀.tailer.truncateLimit < last ↔
      .truncated ∉ (s₀.run (before ++ [(now, .notice .changed)])).1.history after)

/-- A look finds more in the file than the limit allows. -/
theorem overlong_look (hpos : 0 < s₀.tailer.truncateLimit) {before : List (Nat × TailingEvent)}
    {file : FileId}
    (hopen : (s₀.run before).1.tailer.openFile? = some file)
    (hsize : (s₀.run (before ++ [(now, .notice .changed)])).1.tailer.size =
      some ((s₀.run before).1.files.size file))
    (hpending : (s₀.run (before ++ [(now, .notice .changed)])).1.tailer.pendingTruncation = true)
    (hlarge : s₀.tailer.truncateLimit < (s₀.run before).1.files.size file) :
    s₀.Overlong before now [] where
  limit_pos := hpos
  exceeded := ⟨file, hopen, hlarge⟩
  pending middle hmiddle := by rwa [List.prefix_nil.mp hmiddle]
  last := ⟨_, hsize, iff_of_true hlarge List.not_mem_nil⟩

/-- The file is still to be emptied after one more step. -/
theorem Overlong.concat {before after : List (Nat × TailingEvent)}
    (h : s₀.Overlong before now after) {event : Nat × TailingEvent}
    (hpending :
      (s₀.run (before ++ (now, .notice .changed) :: after ++ [event])).1.tailer.pendingTruncation =
        true)
    (hlast : ∃ last,
      (s₀.run (before ++ (now, .notice .changed) :: after ++ [event])).1.tailer.size = some last ∧
        (s₀.tailer.truncateLimit < last ↔
          .truncated ∉ (s₀.run (before ++ [(now, .notice .changed)])).1.history after ∧
            .truncated ∉ (s₀.run (before ++ (now, .notice .changed) :: after)).1.acts event.2)) :
    s₀.Overlong before now (after ++ [event]) where
  limit_pos := h.limit_pos
  exceeded := h.exceeded
  pending middle hmiddle := by
    rcases List.prefix_concat_iff.mp hmiddle with rfl | hmiddle
    · rwa [List.append_assoc, List.cons_append] at hpending
    · exact h.pending middle hmiddle
  last := by
    obtain ⟨last, hsize, hiff⟩ := hlast
    rw [List.append_assoc, List.cons_append] at hsize
    refine ⟨last, hsize, ?_⟩
    rw [hiff, history_concat, List.mem_append, not_or, ← run_append, List.append_assoc]
    rfl

/-- A file that is to be emptied has been found larger than the limit. -/
theorem exists_overlong (hclosed : s₀.tailer.opened = none) {past : List (Nat × TailingEvent)}
    (hopen : (s₀.run past).1.tailer.opened.isSome)
    (hpending : (s₀.run past).1.tailer.pendingTruncation = true) :
    ∃ before now after, past = before ++ (now, .notice .changed) :: after ∧
      s₀.Overlong before now after := by
  induction past using List.reverseRecOn with
  | nil =>
    rw [run_nil, hclosed] at hopen
    cases hopen
  | append_singleton past event ih =>
    obtain ⟨now, e⟩ := event
    have hlimit := run_truncateLimit s₀ past
    rw [run_concat] at hopen hpending
    by_cases he : e = .notice .changed
    · subst he
      obtain ⟨file, hfile, hsize, hnoted, htruncated⟩ := step_look_noted hopen
      by_cases hlarge : 0 < s₀.tailer.truncateLimit ∧
          s₀.tailer.truncateLimit < (s₀.run past).1.files.size file
      · refine ⟨past, now, [], rfl, overlong_look hlarge.1 hfile ?_ ?_ hlarge.2⟩
        · rwa [run_concat]
        · rwa [run_concat]
      · -- The look finds the file within the limit, so that it has been to be emptied before.
        have hbefore : (s₀.run past).1.tailer.pendingTruncation = true := by
          rw [hnoted, hlimit, Bool.or_eq_true, Bool.and_eq_true, decide_eq_true_iff,
            decide_eq_true_iff] at hpending
          exact hpending.resolve_right hlarge
        obtain ⟨reader, hopened⟩ := Tailer.openFile?_eq_some.mp hfile
        obtain ⟨before, look, after, rfl, h⟩ := ih (by rw [hopened]; rfl) hbefore
        have hsmall : ¬ s₀.tailer.truncateLimit <
            (s₀.run (before ++ (look, .notice .changed) :: after)).1.files.size file :=
          fun hlonger => hlarge ⟨h.limit_pos, hlonger⟩
        obtain ⟨last, hlast, hiff⟩ := h.last
        refine ⟨before, look, after ++ [(now, .notice .changed)], by simp,
          h.concat ?_ ⟨_, ?_, iff_of_false hsmall ?_⟩⟩
        · rwa [run_concat]
        · rwa [run_concat]
        · rintro ⟨hnever, hnot⟩
          have hlonger := hiff.mpr hnever
          exact hnot (htruncated last hlast (by omega))
    · obtain ⟨hopened, hbefore, hsize, hnone⟩ :=
        ((s₀.run past).1.step_move now e).pending_before he hopen hpending
      obtain ⟨before, look, after, rfl, h⟩ := ih hopened hbefore
      obtain ⟨last, hlast, hiff⟩ := h.last
      refine ⟨before, look, after ++ [(now, e)], by simp, h.concat ?_ ⟨last, ?_, ?_⟩⟩
      · rwa [run_concat]
      · rw [run_concat]
        exact hsize.trans hlast
      · rw [hiff]
        exact (and_iff_left hnone).symm

/-- However other programs change the files, a file that is to be emptied, or is emptied, has been
found larger than the limit.  If it has been found truncated since, the last look may have found it
within the limit. -/
theorem run_pending_overlong (hclosed : s₀.tailer.opened = none)
    (past : List (Nat × TailingEvent)) :
    let s := (s₀.run past).1
    s.tailer.opened.isSome ∧ s.tailer.pendingTruncation = true ∨ (∃ e, .emptied ∈ s.acts e) →
      ∃ before now after, past = before ++ (now, .notice .changed) :: after ∧
        s₀.Overlong before now after := by
  rintro s (⟨hopen, hpending⟩ | ⟨e, hemptied⟩)
  · exact exists_overlong hclosed hopen hpending
  · obtain ⟨_, file, target, b, hemptying⟩ := exists_emptying hemptied
    obtain ⟨offset, hread⟩ := hemptying.read
    exact exists_overlong hclosed (by rw [hread]; rfl) hemptying.pending

/-- A file has grown beyond the limit and is cut down to a single byte while a read is under way.
The look that finds it truncated has it emptied nevertheless, as soon as that byte has been read. -/
theorem shortened_emptied :
    let source : Source := ⟨"app", "/log"⟩
    let files : FileSystem := ⟨#[.directory, .file [97, 97, 97]], [([], 0), (["log"], 1)], []⟩
    let s₀ : Tailing := ⟨files, .new { sources := [source], truncateLimit := 2 } source⟩
    let s := (s₀.run [(0, .attempt), (0, .notice .changed), (1, .change (.write "/log" [98])),
      (1, .notice .changed), (2, .complete)]).1
    ¬ (s.tailer.pendingTruncation = true → 0 < s.tailer.truncateLimit ∧
        ∀ last, s.tailer.size = some last → s.tailer.truncateLimit < last) ∧
      ¬ ∀ e, .emptied ∈ s.acts e → ∀ last, s.tailer.size = some last →
        s.tailer.truncateLimit < last := by
  intro source files s₀ s
  constructor
  · exact fun h => absurd ((h (by decide)).2 1 (by decide)) (by decide)
  · exact fun h => absurd (h .complete (by decide) 1 (by decide)) (by decide)

theorem run_pending_overlong_shortened :
    let source : Source := ⟨"app", "/log"⟩
    let files : FileSystem := ⟨#[.directory, .file [97, 97, 97]], [([], 0), (["log"], 1)], []⟩
    let s₀ : Tailing := ⟨files, .new { sources := [source], truncateLimit := 2 } source⟩
    let past : List (Nat × TailingEvent) :=
      [(0, .attempt), (0, .notice .changed), (1, .change (.write "/log" [98])),
        (1, .notice .changed), (2, .complete)]
    s₀.tailer.opened = none ∧ .emptied ∈ (s₀.run past).1.acts .complete ∧
      ∃ before now after, past = before ++ (now, .notice .changed) :: after ∧
        s₀.Overlong before now after := by
  intro source files s₀ past
  have hemptied : .emptied ∈ (s₀.run past).1.acts .complete := by decide
  exact ⟨rfl, hemptied, run_pending_overlong rfl past (Or.inr ⟨.complete, hemptied⟩)⟩

end Tailing

end LogCourier
