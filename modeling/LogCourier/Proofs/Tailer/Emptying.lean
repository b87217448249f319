import LogCourier.Proofs.FileSystem.Growth
import LogCourier.Proofs.Tailer.Reads

/-!
# What a tailer does to files

All that a tailer does to files is to empty one of them, when a read has come to its end and the
file has grown too large (`Tailing.Emptying`).  The file is looked up by its path.  At every
look the path is compared with the open file, but not when the file is emptied: a file that has
taken over the path since the last look is emptied in place of the open one.  No other file is
ever touched (`Tailing.run_step_spares`).
-/

namespace LogCourier

namespace Tailer

variable {t : Tailer}

/-- The file that the tailer has open. -/
def openFile? (t : Tailer) : Option FileId := t.opened.map OpenFile.file

theorem openFile?_eq_some {file : FileId} :
    t.openFile? = some file ↔ ∃ reader, t.opened = some ⟨file, reader⟩ := by
  rw [openFile?, Option.map_eq_some_iff]
  constructor
  · rintro ⟨⟨_, reader⟩, hopen, rfl⟩
    exact ⟨reader, hopen⟩
  · rintro ⟨reader, hopen⟩
    exact ⟨_, hopen, rfl⟩

theorem emptied_notMem_closeActs (t : Tailer) : .emptied ∉ t.closeActs := by
  rcases t.close_cases 0 with ⟨_, _, _, _, hacts⟩ | ⟨_, hacts⟩
  · simp [hacts]
  · simp [hacts]

theorem emptied_notMem_observeActs (t : Tailer) (size : Nat) : .emptied ∉ t.observeActs size := by
  rcases t.observe_cases 0 size with ⟨_, _, hacts⟩ | ⟨_, _, hacts⟩ | ⟨_, _, hacts⟩
  · simp [hacts]
  · simp [hacts]
  · simp [hacts]

end Tailer

namespace Tailing

variable {s s' : Tailing} {now : Nat} {e : TailingEvent} {acts : List TailerAct}
    {out : List Message}

/-! ## Emptying a file -/

/-- The read under way has come to the end of the open file, which is to be emptied, and the path
leads to the target. -/
structure Emptying (s : Tailing) (file target : FileId) (b : Bytes) : Prop where
  read : ∃ offset, s.tailer.opened = some ⟨file, .busy ⟨offset, s.tailer.epoch, .bytes b⟩⟩
  short : b.length ≠ Tailer.chunkSize
  pending : s.tailer.pendingTruncation = true
  target : s.files.resolveWritable s.tailer.source.path = .ok target

/-- The target is emptied, and the tailer begins at its start. -/
theorem Emptying.step_eq {file target : FileId} {b : Bytes} (h : s.Emptying file target b)
    (now : Nat) :
    (s.step now .complete).1 =
        { files := s.files.update target fun _ => []
          tailer := { s.tailer.taken file now b with
            offset := 0
            size := some 0
            epoch := s.tailer.epoch + 1
            pendingTruncation := false
            stats := { (s.tailer.taken file now b).stats with
              truncations := s.tailer.stats.truncations + 1 } } } ∧
      s.acts .complete = [.fed b, .emptied] := by
  obtain ⟨offset, hread⟩ := h.read
  constructor
  · rw [step, Tailer.complete_current hread, if_neg h.short, if_pos h.pending,
      Tailer.truncate_emptied (t := s.tailer.taken file now b) h.target]
    rfl
  · have hmore : ¬ (b.length = Tailer.chunkSize ∨ s.tailer.pendingTruncation = false) := by
      simp [h.short, h.pending]
    rw [acts, Tailer.completeActs, hread]
    simp only
    rw [if_neg (not_not_intro rfl), if_neg hmore, h.target]

theorem Move.ended_of_emptied (h : s.Move now e acts s' out) (hemptied : .emptied ∈ acts) :
    e = .complete ∧ ∃ file offset b,
      s.tailer.opened = some ⟨file, .busy ⟨offset, s.tailer.epoch, .bytes b⟩⟩ ∧
        b.length ≠ Tailer.chunkSize ∧ s.tailer.pendingTruncation = true := by
  cases h with
  | changed | lost | idle | unopened | stale => cases hemptied
  | opened | full | ended | blocked => simp at hemptied
  | left => exact absurd hemptied s.tailer.emptied_notMem_closeActs
  | looked => exact absurd hemptied (s.tailer.emptied_notMem_observeActs _)
  | emptied hread hshort hpending => exact ⟨rfl, _, _, _, hread, hshort, hpending⟩

/-- Files are emptied in this way only. -/
theorem exists_emptying (h : .emptied ∈ s.acts e) :
    e = .complete ∧ ∃ file target b, s.Emptying file target b := by
  obtain ⟨rfl, file, offset, b, hread, hshort, hpending⟩ := (s.step_move 0 e).ended_of_emptied h
  refine ⟨rfl, file, ?_⟩
  cases htarget : s.files.resolveWritable s.tailer.source.path with
  | ok target => exact ⟨target, b, ⟨offset, hread⟩, hshort, hpending, htarget⟩
  | error cause => simp [Tailing.acts, Tailer.completeActs, hread, hshort, hpending, htarget] at h

/-- Nothing else is done to files. -/
theorem Move.files_eq (h : s.Move now e acts s' out) (he : ∀ c, e ≠ .change c)
    (hnone : .emptied ∉ acts) : s'.files = s.files := by
  cases h with
  | changed c => exact absurd rfl (he c)
  | emptied => simp at hnone
  | lost | idle | unopened | opened | left | looked | stale | full | ended | blocked => rfl

/-! ## The last look -/

/-- The tailer keeps a file open only if the path leads to it. -/
theorem resolve_of_look {file : FileId} {reader : Reader}
    (h : (s.step now (.notice .changed)).1.tailer.opened = some ⟨file, reader⟩) :
    s.files.resolve s.tailer.source.path = .ok file := by
  rw [step, Tailer.check] at h
  cases hopen : s.tailer.opened with
  | none =>
    rw [hopen] at h
    change s.tailer.opened = _ at h
    rw [hopen] at h
    cases h
  | some o =>
    obtain ⟨opened, reader'⟩ := o
    rw [hopen] at h
    cases hfile : s.files.resolve s.tailer.source.path with
    | error cause =>
      rw [hfile] at h
      cases cause <;> cases h
    | ok found =>
      rw [hfile] at h
      simp only at h
      split at h
      next => cases h
      next hsame =>
        obtain rfl : found = opened := Decidable.of_not_not hsame
        have hkept : (s.tailer.observe now (s.files.size found)).1.opened =
            some ⟨found, reader'⟩ := by
          rw [(s.tailer.observe_kept now _).1, hopen]
        obtain ⟨reader'', hstill⟩ := Tailer.startRead_file hkept s.files
        change ((s.tailer.observe now (s.files.size found)).1.startRead s.files).opened = _ at h
        rw [hstill] at h
        cases h
        rfl

/-- A look opens no file. -/
theorem Move.open_before_look (h : s.Move now (.notice .changed) acts s' out) {file : FileId}
    {reader : Reader} (hopen : s'.tailer.opened = some ⟨file, reader⟩) :
    ∃ reader', s.tailer.opened = some ⟨file, reader'⟩ := by
  cases h with
  | idle => exact ⟨reader, hopen⟩
  | left => cases hopen
  | @looked opened reader' hwas =>
    have hkept := (s.tailer.observe_kept now (s.files.size opened)).1.trans hwas
    obtain ⟨reader'', hstill⟩ := Tailer.startRead_file hkept s.files
    cases hstill.symm.trans hopen
    exact ⟨reader', hwas⟩

/-- A look that keeps a file open takes note of its size. -/
theorem look_eq {file : FileId} {reader : Reader}
    (h : (s.step now (.notice .changed)).1.tailer.opened = some ⟨file, reader⟩) :
    (∃ reader', s.tailer.opened = some ⟨file, reader'⟩) ∧
      (s.step now (.notice .changed)).1 =
        { s with tailer := (s.tailer.observe now (s.files.size file)).1.startRead s.files } ∧
      s.acts (.notice .changed) = s.tailer.observeActs (s.files.size file) := by
  obtain ⟨reader', hwas⟩ := (s.step_move now _).open_before_look h
  obtain ⟨hstep, hacts⟩ := step_look hwas (resolve_of_look h) now
  exact ⟨⟨reader', hwas⟩, by rw [hstep], hacts⟩

/-- The size changes at looks, and when a new epoch begins with nothing known or nothing there. -/
theorem Move.size_cases (h : s.Move now e acts s' out) (he : e ≠ .notice .changed) :
    s'.tailer.size = s.tailer.size ∨ s'.tailer.epoch = s.tailer.epoch + 1 ∧
      s'.tailer.pendingTruncation = false ∧ ∀ last, s'.tailer.size = some last → last = 0 := by
  cases h with
  | changed | idle | unopened => exact Or.inl rfl
  | lost cause =>
    obtain ⟨opened, heq⟩ := s.tailer.loseRead_eq cause
    left
    rw [heq]
  | opened => exact Or.inr ⟨rfl, rfl, nofun⟩
  | left =>
    left
    rcases s.tailer.close_cases now with ⟨_, b, _, heq, _⟩ | ⟨heq, _⟩
    · rw [leave, heq]
      rfl
    · rw [leave, heq]
      rfl
  | looked => exact absurd rfl he
  | @stale file =>
    obtain ⟨phase, opened, heq⟩ :=
      Tailer.startRead_eq { s.tailer with phase := .watching, opened := some { file } } s.files
    left
    rw [heq]
  | @full file offset b =>
    obtain ⟨phase, opened, heq⟩ := (s.tailer.taken file now b).startRead_eq s.files
    left
    rw [heq]
    rfl
  | ended | blocked => exact Or.inl rfl
  | emptied =>
    refine Or.inr ⟨rfl, rfl, ?_⟩
    rintro _ ⟨rfl⟩
    rfl

/-- Between looks, a file that has been looked at stays open until it is let go of. -/
theorem Move.looked_before (h : s.Move now e acts s' out) (hs : s.tailer.Current)
    (he : e ≠ .notice .changed) {file : FileId} {reader : Reader}
    (hopen : s'.tailer.opened = some ⟨file, reader⟩) (hsize : s'.tailer.size.isSome) :
    (∃ reader', s.tailer.opened = some ⟨file, reader'⟩) ∧ s.tailer.size.isSome := by
  cases h with
  | changed | idle | unopened => exact ⟨⟨reader, hopen⟩, hsize⟩
  | lost cause =>
    obtain ⟨opened, heq⟩ := s.tailer.loseRead_eq cause
    rw [heq] at hsize
    refine ⟨?_, hsize⟩
    rw [Tailer.loseRead] at hopen
    split at hopen
    next hwas =>
      cases hopen
      exact ⟨_, hwas⟩
    next => exact ⟨reader, hopen⟩
  | opened => cases hsize
  | left => cases hopen
  | looked => exact absurd rfl he
  | @stale opened offset epoch b hread =>
    obtain ⟨reader', hstill⟩ := Tailer.startRead_file (t := { s.tailer with
      phase := .watching, opened := some { file := opened } }) rfl s.files
    rw [hstill] at hopen
    cases hopen
    exact ⟨⟨_, hread⟩, (hs.of_opened hread).1⟩
  | @full opened offset b hread =>
    obtain ⟨reader', hstill⟩ := Tailer.startRead_file (t := s.tailer.taken opened now b) rfl s.files
    rw [hstill] at hopen
    cases hopen
    exact ⟨⟨_, hread⟩, (hs.of_opened hread).1⟩
  | ended hread | blocked hread | emptied hread =>
    cases hopen
    exact ⟨⟨_, hread⟩, (hs.of_opened hread).1⟩

theorem run_source (s : Tailing) (events : List (Nat × TailingEvent)) :
    (s.run events).1.tailer.source = s.tailer.source :=
  run_induction (P := fun s' => s'.tailer.source = s.tailer.source)
    (fun s' now e h => (s'.step_acted now e).settings.1.trans h) rfl events

/-- A file that has been looked at was the one at the path at the last look. -/
theorem exists_last_look (hs : s.tailer.opened = none) {events : List (Nat × TailingEvent)}
    {file : FileId} {reader : Reader} (hopen : (s.run events).1.tailer.opened = some ⟨file, reader⟩)
    (hsize : (s.run events).1.tailer.size.isSome) :
    ∃ before now after, events = before ++ (now, .notice .changed) :: after ∧
      (∀ e ∈ after, e.2 ≠ .notice .changed) ∧
      (s.run before).1.files.resolve s.tailer.source.path = .ok file := by
  induction events using List.reverseRecOn generalizing reader with
  | nil =>
    rw [run_nil, hs] at hopen
    cases hopen
  | append_singleton events e ih =>
    obtain ⟨now, e⟩ := e
    rw [run_concat] at hopen hsize
    by_cases he : e = .notice .changed
    · subst he
      refine ⟨events, now, [], rfl, by simp, ?_⟩
      rw [← run_source s events]
      exact resolve_of_look hopen
    · obtain ⟨⟨reader', hwas⟩, hlooked⟩ :=
        ((s.run events).1.step_move now e).looked_before (run_current_of_closed hs events)
          he hopen hsize
      obtain ⟨before, t, after, rfl, hafter, hfile⟩ := ih hwas hlooked
      refine ⟨before, t, after ++ [(now, e)], by simp, ?_, hfile⟩
      intro e' he'
      rcases List.mem_append.mp he' with he' | he'
      · exact hafter e' he'
      · rw [List.mem_singleton.mp he']
        exact he

/-! ## The files that are not open -/

/-- What becomes of the files in a step of the tailer, which has come to `s` after `past`. -/
structure Spares (s₀ : Tailing) (past : List (Nat × TailingEvent)) (s : Tailing) (e : TailingEvent)
    (files : FileSystem) : Prop where
  names : files.names = s.files.names ∧ files.workingDirectory = s.files.workingDirectory
  regular : ∀ id, (files.content? id).isSome = (s.files.content? id).isSome
  idle : .emptied ∉ s.acts e → files = s.files
  /-- The contents of the files that are not open stay as they are, unless a file is emptied and the
  path leads to another one than the open one, in which there is something. -/
  others : (∀ id, s.tailer.openFile? ≠ some id → files.content? id = s.files.content? id) ↔
    (.emptied ∈ s.acts e → ∀ target, s.files.resolveWritable s.tailer.source.path = .ok target →
      s.tailer.openFile? = some target ∨ s.files.content? target = some [])
  /-- At the last look the path has led to the open file. -/
  looked : .emptied ∈ s.acts e → ∃ before t after file,
    past = before ++ (t, .notice .changed) :: after ∧ (∀ e ∈ after, e.2 ≠ .notice .changed) ∧
      s.tailer.openFile? = some file ∧
      (s₀.run before).1.files.resolve s.tailer.source.path = .ok file

/-- Emptying the target spares all files that are not open if and only if the target is open,
or empty. -/
theorem content?_update_others (s : Tailing) (target : FileId)
    (htarget : (s.files.content? target).isSome) :
    (∀ id, s.tailer.openFile? ≠ some id →
        (s.files.update target fun _ => []).content? id = s.files.content? id) ↔
      s.tailer.openFile? = some target ∨ s.files.content? target = some [] := by
  constructor
  · intro h
    by_cases hopen : s.tailer.openFile? = some target
    · exact Or.inl hopen
    · right
      obtain ⟨content, hcontent⟩ := Option.isSome_iff_exists.mp htarget
      rw [← h target hopen, FileSystem.content?_update, if_pos rfl, hcontent]
      rfl
  · intro h id hid
    rw [FileSystem.content?_update]
    split
    next hsame =>
      subst hsame
      rcases h with hopen | hempty
      · exact absurd hopen hid
      · rw [hempty]
        rfl
    next => rfl

/-- However other programs change the files, a step of the tailer spares the files that it does not
have open, unless it empties a file and another one has taken over the path since the last look. -/
theorem run_step_spares {s₀ : Tailing} (hclosed : s₀.tailer.opened = none)
    (past : List (Nat × TailingEvent)) (now : Nat) {e : TailingEvent} (he : ∀ c, e ≠ .change c) :
    Spares s₀ past (s₀.run past).1 e ((s₀.run past).1.step now e).1.files := by
  have hcurrent := run_current
    (Tailer.current_of_read?_eq_none (by rw [Tailer.read?, hclosed] : s₀.tailer.read? = none)) past
  have hsource := run_source s₀ past
  generalize hs : (s₀.run past).1 = s at hcurrent hsource ⊢
  by_cases hemptied : .emptied ∈ s.acts e
  · obtain ⟨rfl, file, target, b, hemptying⟩ := exists_emptying hemptied
    obtain ⟨offset, hread⟩ := hemptying.read
    have hopen : s.tailer.openFile? = some file := Tailer.openFile?_eq_some.mpr ⟨_, hread⟩
    have htarget := (FileSystem.resolveWritable_eq_ok.mp hemptying.target).2
    rw [(hemptying.step_eq now).1]
    refine ⟨⟨rfl, rfl⟩, ?regular, fun h => absurd hemptied h, ?others, ?looked⟩
    case regular =>
      intro id
      rw [FileSystem.content?_update]
      split
      · exact Option.isSome_map
      · rfl
    case others =>
      rw [s.content?_update_others target htarget]
      constructor
      · intro h _ target' htarget'
        rw [hemptying.target] at htarget'
        cases htarget'
        exact h
      · exact fun h => h hemptied target hemptying.target
    case looked =>
      intro _
      have hsize := (hcurrent.of_opened hread).1
      rw [← hs] at hread hsize
      obtain ⟨before, t, after, heq, hafter, hfile⟩ := exists_last_look hclosed hread hsize
      rw [← hsource] at hfile
      exact ⟨before, t, after, file, heq, hafter, hopen, hfile⟩
  · have hsame : (s.step now e).1.files = s.files := (s.step_move now e).files_eq he hemptied
    rw [hsame]
    refine ⟨⟨rfl, rfl⟩, fun _ => rfl, fun _ => rfl, ?_, fun h => absurd h hemptied⟩
    exact ⟨fun _ h => absurd h hemptied, fun _ _ _ => rfl⟩

/-- A file has grown beyond the limit, and another one takes over the path while the read that is to
be the last is under way: it is emptied in place of the open one. -/
theorem replaced_emptied :
    let source : Source := ⟨"app", "/log"⟩
    let files : FileSystem := ⟨#[.directory, .file [97, 97, 97]], [([], 0), (["log"], 1)], []⟩
    let s₀ : Tailing := ⟨files, .new { sources := [source], truncateLimit := 2 } source⟩
    let s := (s₀.run [(0, .attempt), (0, .notice .changed),
      (1, .change (.replace "/log" [98, 10]))]).1
    ¬ ∀ id, s.tailer.openFile? ≠ some id →
      (s.step 2 .complete).1.files.content? id = s.files.content? id :=
  fun h => absurd (h 2) (by decide)

theorem run_step_spares_replaced :
    let source : Source := ⟨"app", "/log"⟩
    let files : FileSystem := ⟨#[.directory, .file [97, 97, 97]], [([], 0), (["log"], 1)], []⟩
    let s₀ : Tailing := ⟨files, .new { sources := [source], truncateLimit := 2 } source⟩
    let past : List (Nat × TailingEvent) :=
      [(0, .attempt), (0, .notice .changed), (1, .change (.replace "/log" [98, 10]))]
    let s := (s₀.run past).1
    s₀.tailer.opened = none ∧ .emptied ∈ s.acts .complete ∧
      Spares s₀ past s .complete (s.step 2 .complete).1.files :=
  ⟨rfl, by decide, run_step_spares rfl _ 2 nofun⟩

end Tailing

end LogCourier
