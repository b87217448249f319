import LogCourier.Proofs.Pipeline.Transcript
import LogCourier.Proofs.Tailer.Reads

/-!
# Episodes

The acts of a run come in episodes, one for every file that is opened: the file is opened, looked
at, read and let go of.  `Episode.next?` says in which order the acts of an episode come, and that a
file is let go of, or read anew, only with a restart of the pipeline.
-/

namespace LogCourier

/-- How far a tailer has come with a file. -/
inductive Episode
  | closed
  /-- Opened, and not looked at yet. -/
  | fresh (file : FileId)
  | following (file : FileId)
  /-- Found too short, and about to be read anew. -/
  | cut (file : FileId)
deriving DecidableEq, Repr

namespace Episode

/-- Where an act leads, if it can come there. -/
def next? : Episode → TailerAct → Option Episode
  | .closed, .opened file => some (.fresh file)
  | .fresh file, .skipped _ => some (.following file)
  | .following file, .fed _ => some (.following file)
  | .following file, .emptied => some (.following file)
  | .following file, .truncated => some (.cut file)
  | .cut file, .restarted => some (.following file)
  | .fresh _, .restarted => some .closed
  | .following _, .restarted => some .closed
  | _, _ => none

/-- Only the opening of a file leads to a file that has not been looked at. -/
theorem eq_concat_opened {acts : List TailerAct} {file : FileId}
    (h : acts.foldlM next? .closed = some (.fresh file)) :
    ∃ before, acts = before ++ [.opened file] := by
  cases acts using List.reverseRecOn with
  | nil => cases h
  | append_singleton before act =>
    rw [List.foldlM_append] at h
    obtain ⟨e, _, h⟩ := Option.bind_eq_some_iff.mp h
    rw [List.foldlM_cons] at h
    obtain ⟨e', hnext, h⟩ := Option.bind_eq_some_iff.mp h
    cases h
    cases e <;> cases act <;> cases hnext
    exact ⟨before, rfl⟩

/-- From bytes of a file to bytes of a file that is opened later, or that is read anew, the pipeline
is restarted. -/
theorem restarted_mem {acts : List TailerAct} {file file' : FileId}
    (h : acts.foldlM next? (.following file) = some (.following file'))
    (hacts : (∃ opened, .opened opened ∈ acts) ∨ .truncated ∈ acts) : .restarted ∈ acts := by
  induction acts with
  | nil => simp at hacts
  | cons act acts ih =>
    rw [List.foldlM_cons] at h
    obtain ⟨e, hnext, h⟩ := Option.bind_eq_some_iff.mp h
    cases act with
    | opened | skipped => cases hnext
    | restarted => exact List.mem_cons_self
    | fed | emptied =>
      cases hnext
      exact List.mem_cons_of_mem _ (ih h (by simpa using hacts))
    | truncated =>
      cases hnext
      -- After a file has been found too short, nothing but a restart comes.
      cases acts with
      | nil => cases h
      | cons act acts =>
        rw [List.foldlM_cons] at h
        obtain ⟨e, hnext, _⟩ := Option.bind_eq_some_iff.mp h
        cases act <;> cases hnext
        exact List.mem_cons_of_mem _ List.mem_cons_self

/-- Bytes are fed only while a file is followed. -/
theorem exists_between {xs ys zs : List TailerAct} {b b' : Bytes} {e e' : Episode}
    (h : (xs ++ .fed b :: ys ++ .fed b' :: zs).foldlM next? e = some e') :
    ∃ file file', ys.foldlM next? (.following file) = some (.following file') := by
  rw [List.foldlM_append] at h
  obtain ⟨second, hfirst, hrest⟩ := Option.bind_eq_some_iff.mp h
  rw [List.foldlM_append] at hfirst
  obtain ⟨first, _, hbetween⟩ := Option.bind_eq_some_iff.mp hfirst
  rw [List.foldlM_cons] at hbetween hrest
  obtain ⟨_, hnext, hbetween⟩ := Option.bind_eq_some_iff.mp hbetween
  obtain ⟨_, hnext', _⟩ := Option.bind_eq_some_iff.mp hrest
  cases first <;> cases hnext
  cases second <;> cases hnext'
  exact ⟨_, _, hbetween⟩

end Episode

/-! ## The episode of a tailer -/

namespace Tailer

def episode (t : Tailer) : Episode :=
  match t.opened with
  | none => .closed
  | some o => if t.size.isSome then .following o.file else .fresh o.file

theorem episode_of_closed {t : Tailer} (h : t.opened = none) : t.episode = .closed := by
  rw [episode, h]

theorem episode_of_size {t : Tailer} {file : FileId} {reader : Reader}
    (hopen : t.opened = some ⟨file, reader⟩) (hsize : t.size.isSome) :
    t.episode = .following file := by
  rw [episode, hopen]
  exact if_pos hsize

theorem episode_startRead {t : Tailer} {file : FileId} {reader : Reader}
    (hopen : t.opened = some ⟨file, reader⟩) (hsize : t.size.isSome) (files : FileSystem) :
    (t.startRead files).episode = .following file := by
  obtain ⟨reader', hopen'⟩ := startRead_file hopen files
  obtain ⟨phase, opened, heq⟩ := t.startRead_eq files
  refine episode_of_size hopen' ?_
  rw [heq]
  exact hsize

theorem episode_loseRead (t : Tailer) (cause : TaskFailure) :
    (t.loseRead cause).episode = t.episode := by
  unfold loseRead
  split
  next file r hopen =>
    rw [episode, episode, hopen]
  next => rfl

end Tailer

namespace Tailing

variable {s s' : Tailing} {now : Nat} {e : TailingEvent} {acts : List TailerAct}
  {out : List Message}

theorem close_episode {t : Tailer} (hs : t.Current) (hopen : t.opened.isSome) :
    t.closeActs.foldlM Episode.next? t.episode = some .closed := by
  obtain ⟨⟨file, reader⟩, hopen⟩ := Option.isSome_iff_exists.mp hopen
  rcases t.close_cases 0 with ⟨offset, b, hread, _, hacts⟩ | ⟨_, hacts⟩
  · rw [hacts, Tailer.episode_of_size hopen (hs _ _ _ hread).1]
    rfl
  · rw [hacts, Tailer.episode, hopen]
    cases t.size <;> rfl

theorem observe_episode {t : Tailer} {file : FileId} {reader : Reader}
    (hopen : t.opened = some ⟨file, reader⟩) (size : Nat) :
    (t.observeActs size).foldlM Episode.next? t.episode = some (.following file) := by
  rw [Tailer.episode, hopen]
  rcases t.observe_cases 0 size with ⟨hsize, _, hacts⟩ | ⟨hsize, _, hacts⟩ | ⟨hsize, _, hacts⟩
  · rw [hacts, hsize]
    rfl
  · rw [hacts, hsize]
    rfl
  · rw [hacts, hsize]
    rfl

/-- The acts of a step come in the order of episodes. -/
theorem Move.episode (h : s.Move now e acts s' out) (hs : s.tailer.Current) :
    acts.foldlM Episode.next? s.tailer.episode = some s'.tailer.episode := by
  cases h with
  | changed => rfl
  | lost cause =>
    rw [Tailer.episode_loseRead]
    rfl
  | idle => rfl
  | unopened => rfl
  | opened hclosed =>
    rw [Tailer.episode_of_closed hclosed]
    rfl
  | left hopen => exact close_episode hs hopen
  | looked hopen =>
    obtain ⟨hopened, hsize⟩ := s.tailer.observe_kept now (s.files.size _)
    rw [observe_episode hopen, Tailer.episode_startRead (hopened.trans hopen) (by rw [hsize]; rfl)]
  | @stale file offset epoch b hread =>
    have hsize := (hs.of_opened hread).1
    rw [Tailer.episode_of_size hread hsize]
    exact congrArg some (Tailer.episode_startRead
      (t := { s.tailer with phase := .watching, opened := some { file } }) rfl hsize _).symm
  | @full file offset b hread =>
    have hsize := (hs.of_opened hread).1
    rw [Tailer.episode_of_size hread hsize]
    exact congrArg some
      (Tailer.episode_startRead (t := s.tailer.taken file now b) rfl hsize _).symm
  | @ended file offset b hread =>
    have hsize := (hs.of_opened hread).1
    rw [Tailer.episode_of_size hread hsize]
    exact congrArg some (Tailer.episode_of_size (t := s.tailer.taken file now b) rfl hsize).symm
  | @blocked file offset b hread =>
    have hsize := (hs.of_opened hread).1
    rw [Tailer.episode_of_size hread hsize]
    exact congrArg some (Tailer.episode_of_size (t := s.tailer.taken file now b) rfl hsize).symm
  | @emptied file offset b hread =>
    have hsize := (hs.of_opened hread).1
    rw [Tailer.episode_of_size hread hsize]
    rfl

theorem history_episode {s : Tailing} (hs : s.tailer.Current)
    (events : List (Nat × TailingEvent)) :
    (s.history events).foldlM Episode.next? s.tailer.episode =
      some (s.run events).1.tailer.episode := by
  induction events generalizing s with
  | nil => rfl
  | cons e events ih =>
    have hmove := s.step_move e.1 e.2
    rw [history, List.foldlM_append, hmove.episode hs, run_cons]
    exact ih (hmove.current hs)

end Tailing

end LogCourier
