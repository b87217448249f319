import LogCourier.Proofs.Tailer.Drained

/-!
# Where a tailer waits

A tailer waits for news once a read has come back that has reached the end of the file.  By then it
has read all that stood in the file when this read was *started* (`Tailing.exists_lastRead`).  A
look while the read is under way takes note of the size and starts no other one.  So, while files
are only appended to, the tailer waits below the last size that it has seen if and only if such a
look has found more in the file than has been read (`Tailing.run_append_idle`).
-/

namespace LogCourier

theorem Tailer.startRead_not_idle (t : Tailer) (files : FileSystem) (file : FileId) :
    (t.startRead files).opened ≠ some { file } := by
  unfold startRead
  split
  next =>
    intro h
    cases h
  next hbusy => exact hbusy file

/-- Only files with a content are read. -/
theorem FileSystem.exists_content_of_readAt {files : FileSystem} {file : FileId}
    {offset count : Nat} {b : Bytes} (h : files.readAt file offset count = .ok b) :
    ∃ content, files.content? file = some content := by
  rw [readAt] at h
  cases hcontent : files.content? file with
  | some content => exact ⟨content, rfl⟩
  | none =>
    rw [hcontent] at h
    cases h

namespace Tailing

variable {s s₀ s' : Tailing} {now : Nat} {e : TailingEvent} {acts : List TailerAct}
    {out : List Message}
  {file : FileId} {past before during : List (Nat × TailingEvent)} {start : Nat × TailingEvent}

/-! ## Coming to wait -/

/-- The read under way has reached the end of the file, and coming back with `b` it leaves the
tailer as `t`, without another one. -/
structure Settles (s : Tailing) (acts : List TailerAct) (file : FileId) (b : Bytes) (t : Tailer) :
    Prop where
  read : ∃ offset, s.tailer.opened = some ⟨file, .busy ⟨offset, s.tailer.epoch, .bytes b⟩⟩
  short : b.length ≠ Tailer.chunkSize
  emptied : .emptied ∈ acts → t.offset = 0 ∧ t.size = some 0
  fed : .emptied ∉ acts → t.offset = s.tailer.offset + b.length ∧ t.size = s.tailer.size

/-- Between looks, a tailer comes to wait only in this way. -/
theorem Move.settles (h : s.Move now e acts s' out) (he : e ≠ .notice .changed)
    (hidle : s'.tailer.opened = some { file }) (hsize : s'.tailer.size.isSome) :
    s'.tailer = s.tailer ∨ e = .complete ∧ ∃ b, s.Settles acts file b s'.tailer := by
  cases h with
  | changed | idle => exact Or.inl rfl
  | lost cause =>
    left
    unfold Tailer.loseRead at hidle ⊢
    split
    next hbusy =>
      simp only [hbusy] at hidle
      cases hidle
    next => rfl
  | unopened hclosed =>
    simp only [hclosed] at hidle
    cases hidle
  | opened => cases hsize
  | left => cases hidle
  | looked => exact absurd rfl he
  | stale => exact absurd hidle (Tailer.startRead_not_idle _ _ _)
  | full => exact absurd hidle (Tailer.startRead_not_idle _ _ _)
  | @ended _ offset b hread hshort =>
    cases hidle
    exact Or.inr ⟨rfl, b, ⟨offset, hread⟩, hshort, by simp, fun _ => ⟨rfl, rfl⟩⟩
  | @blocked _ offset b hread hshort =>
    cases hidle
    exact Or.inr ⟨rfl, b, ⟨offset, hread⟩, hshort, by simp, fun _ => ⟨rfl, rfl⟩⟩
  | @emptied _ offset b hread hshort =>
    cases hidle
    exact Or.inr ⟨rfl, b, ⟨offset, hread⟩, hshort, fun _ => ⟨rfl, rfl⟩, by simp⟩

/-- A tailer that waits has been left so by a read, and nothing has happened to it since. -/
theorem exists_settles (hclosed : s₀.tailer.opened = none)
    (hidle : (s₀.run past).1.tailer.opened = some { file })
    (hsize : (s₀.run past).1.tailer.size.isSome) :
    ∃ before finish after b, past = before ++ (finish, .complete) :: after ∧
      (s₀.run before).1.Settles ((s₀.run before).1.acts .complete) file b (s₀.run past).1.tailer ∧
      ∀ middle, middle <+: after →
        (s₀.run (before ++ (finish, .complete) :: middle)).1.tailer = (s₀.run past).1.tailer := by
  induction past using List.reverseRecOn with
  | nil =>
    rw [run_nil, hclosed] at hidle
    cases hidle
  | append_singleton past event ih =>
    obtain ⟨now, e⟩ := event
    rw [run_concat] at hidle hsize ⊢
    -- A look that keeps the file open never leaves the tailer without a read.
    have he : e ≠ .notice .changed := by
      rintro rfl
      obtain ⟨_, hstep, _⟩ := look_eq hidle
      rw [hstep] at hidle
      exact Tailer.startRead_not_idle _ _ _ hidle
    rcases ((s₀.run past).1.step_move now e).settles he hidle hsize with hsame | ⟨rfl, b, hsettles⟩
    · rw [hsame] at hidle hsize
      obtain ⟨before, finish, after, b, rfl, hsettles, hstayed⟩ := ih hidle hsize
      refine ⟨before, finish, after ++ [(now, e)], b, by simp, by rwa [hsame], ?_⟩
      intro middle hmiddle
      rcases List.prefix_concat_iff.mp hmiddle with rfl | hmiddle
      · rw [← List.cons_append, ← List.append_assoc, run_concat]
      · exact (hstayed middle hmiddle).trans hsame.symm
    · refine ⟨past, now, [], b, rfl, hsettles, ?_⟩
      intro middle hmiddle
      rw [List.prefix_nil.mp hmiddle, run_concat]

/-! ## The last read -/

/-- The last read of the file in a run, which was started after `before`, when `read` stood in the
file, and was under way throughout `during`.  It has come back, and nothing has happened to the
tailer since. -/
structure LastRead (s₀ : Tailing) (past : List (Nat × TailingEvent)) (file : FileId)
    (before : List (Nat × TailingEvent)) (start : Nat × TailingEvent)
    (during : List (Nat × TailingEvent)) (read : Bytes) : Prop where
  held : ∃ offset epoch b, s₀.HeldSince before start during file offset epoch b
  content_eq : (s₀.run (before ++ [start])).1.files.content? file = some read
  back : ∃ finish after, past = before ++ start :: during ++ (finish, .complete) :: after ∧
    ∀ middle, middle <+: after →
      (s₀.run (before ++ start :: during ++ (finish, .complete) :: middle)).1.tailer =
        (s₀.run past).1.tailer
  emptied : .emptied ∈ (s₀.run (before ++ start :: during)).1.acts .complete →
    (s₀.run past).1.tailer.offset = 0 ∧ (s₀.run past).1.tailer.size = some 0
  /-- All that stood in the file has been read, and the last look came before the read was back. -/
  fed : .emptied ∉ (s₀.run (before ++ start :: during)).1.acts .complete →
    read.length ≤ (s₀.run past).1.tailer.offset ∧
      (s₀.run past).1.tailer.size = (s₀.run (before ++ start :: during)).1.tailer.size

/-- However other programs change the files, a tailer that waits has read all that stood in the file
when its last read was started. -/
theorem exists_lastRead (hclosed : s₀.tailer.opened = none)
    (hidle : (s₀.run past).1.tailer.opened = some { file })
    (hsize : (s₀.run past).1.tailer.size.isSome) :
    ∃ before start during read, LastRead s₀ past file before start during read := by
  obtain ⟨upto, finish, after, b, hpast, hsettles, hstayed⟩ := exists_settles hclosed hidle hsize
  obtain ⟨offset, hread⟩ := hsettles.read
  obtain ⟨before, start, during, rfl, hheld⟩ := exists_heldSince hclosed hread
  obtain ⟨read, hcontent⟩ := FileSystem.exists_content_of_readAt hheld.content
  refine ⟨before, start, during, read, ⟨_, _, _, hheld⟩, hcontent, ⟨finish, after, hpast, hstayed⟩,
    hsettles.emptied, ?_⟩
  intro hnone
  obtain ⟨hoffset, hsame⟩ := hsettles.fed hnone
  refine ⟨?_, hsame⟩
  rw [hoffset]
  exact length_le_of_readAt hcontent hheld.content hsettles.short

/-! ## Looks while a read is under way -/

/-- A look after the start of the read has found more than this in the file. -/
def Finds (s₀ : Tailing) (before : List (Nat × TailingEvent)) (start : Nat × TailingEvent)
    (during : List (Nat × TailingEvent)) (file : FileId) (length : Nat) : Prop :=
  ∃ upto now, upto ++ [(now, .notice .changed)] <+: during ∧
    length < (s₀.run (before ++ start :: upto)).1.files.size file

theorem finds_concat {event : Nat × TailingEvent} {length : Nat} :
    s₀.Finds before start (during ++ [event]) file length ↔
      s₀.Finds before start during file length ∨ event.2 = .notice .changed ∧
        length < (s₀.run (before ++ start :: during)).1.files.size file := by
  constructor
  · rintro ⟨upto, now, hupto, hlonger⟩
    rcases List.prefix_concat_iff.mp hupto with heq | hupto
    · obtain ⟨rfl, hevent⟩ := List.append_inj' heq rfl
      cases hevent
      exact Or.inr ⟨rfl, hlonger⟩
    · exact Or.inl ⟨upto, now, hupto, hlonger⟩
  · rintro (⟨upto, now, hupto, hlonger⟩ | ⟨hevent, hlonger⟩)
    · exact ⟨upto, now, hupto.trans (List.prefix_append _ _), hlonger⟩
    · obtain ⟨now, e⟩ := event
      cases hevent
      exact ⟨during, now, List.prefix_refl _, hlonger⟩

/-- In the same epoch, a look finds the file as long as it was, or longer. -/
theorem look_of_epoch_eq {reader : Reader} {last : Nat}
    (hopen : (s.step now (.notice .changed)).1.tailer.opened = some ⟨file, reader⟩)
    (hepoch : (s.step now (.notice .changed)).1.tailer.epoch = s.tailer.epoch)
    (hlast : s.tailer.size = some last) :
    (s.step now (.notice .changed)).1.tailer.size = some (s.files.size file) ∧
      last ≤ s.files.size file := by
  obtain ⟨_, hstep, _⟩ := look_eq hopen
  obtain ⟨phase, opened, heq⟩ := (s.tailer.observe now (s.files.size file)).1.startRead_eq s.files
  rw [hstep, heq] at hepoch ⊢
  refine ⟨(s.tailer.observe_kept now _).2, ?_⟩
  by_contra hshorter
  rw [(Tailer.observe_shorter hlast (Or.inl (by omega)) now).1] at hepoch
  exact Nat.succ_ne_self _ hepoch

/-- While a read is under way, the size that the tailer knows of comes to exceed a bound only by a
look that finds it so. -/
theorem HeldSince.size_iff {offset epoch length known : Nat} {b : Bytes}
    (h : s₀.HeldSince before start during file offset epoch b)
    (hknown : (s₀.run (before ++ [start])).1.tailer.size = some known) (hle : known ≤ length) :
    ∃ last, (s₀.run (before ++ start :: during)).1.tailer.size = some last ∧
      (length < last ↔ s₀.Finds before start during file length) := by
  induction during using List.reverseRecOn with
  | nil =>
    refine ⟨known, hknown, iff_of_false (Nat.not_lt.mpr hle) ?_⟩
    rintro ⟨upto, now, hupto, _⟩
    simp at hupto
  | append_singleton during event ih =>
    obtain ⟨now, e⟩ := event
    obtain ⟨last, hlast, hiff⟩ := ih ⟨h.started, h.content, fun middle hmiddle =>
      h.held middle (hmiddle.trans (List.prefix_append _ _))⟩
    obtain ⟨_, _, hepoch⟩ := h.held during (List.prefix_append _ _)
    obtain ⟨hopen, _, hepoch'⟩ := h.held _ (List.prefix_refl _)
    have hrun : (s₀.run (before ++ start :: (during ++ [(now, e)]))).1 =
        ((s₀.run (before ++ start :: during)).1.step now e).1 := by
      rw [← List.cons_append, ← List.append_assoc, run_concat]
    rw [hrun] at hopen hepoch' ⊢
    rw [finds_concat, ← hiff]
    -- The epoch lasts while the read is under way, so that no look finds the file truncated.
    by_cases he : e = .notice .changed
    · subst he
      obtain ⟨hsize, hgrown⟩ := look_of_epoch_eq hopen (hepoch'.trans hepoch.symm) hlast
      refine ⟨_, hsize, ?_⟩
      constructor
      · exact fun hlonger => Or.inr ⟨rfl, hlonger⟩
      · rintro (hlonger | ⟨_, hlonger⟩)
        · exact Nat.lt_of_lt_of_le hlonger hgrown
        · exact hlonger
    · refine ⟨last, ?_, ?_⟩
      · rcases ((s₀.run (before ++ start :: during)).1.step_move now e).size_cases he with
          hsame | ⟨hnext, _⟩
        · exact hsame.trans hlast
        · rw [hepoch, hepoch'] at hnext
          exact absurd hnext.symm (Nat.succ_ne_self _)
      · simp [he]

/-! ## While files are only appended to -/

/-- The file is at least as long as it was at the last look.  What is no regular file has no length,
and cannot be read. -/
def Fits (s : Tailing) : Prop :=
  ∀ file reader last, s.tailer.opened = some ⟨file, reader⟩ → s.tailer.size = some last →
    (∃ content, s.files.content? file = some content ∧ last ≤ content.length) ∨
      reader ≠ .idle ∧ ∀ offset epoch b, reader ≠ .busy ⟨offset, epoch, .bytes b⟩

theorem Fits.of_read (h : s.Fits) (hs : s.tailer.Current) {offset epoch : Nat} {b : Bytes}
    (hread : s.tailer.opened = some ⟨file, .busy ⟨offset, epoch, .bytes b⟩⟩) :
    ∃ last content, s.tailer.size = some last ∧ s.files.content? file = some content ∧
      last ≤ content.length := by
  obtain ⟨last, hlast⟩ := Option.isSome_iff_exists.mp (hs.of_opened hread).1
  rcases h _ _ _ hread hlast with ⟨content, hcontent, hle⟩ | ⟨_, hnot⟩
  · exact ⟨last, content, hlast, hcontent, hle⟩
  · exact absurd rfl (hnot _ _ _)

theorem fits_of_content {files : FileSystem} {t : Tailer} {reader : Reader} {last : Nat}
    {content : Bytes} (hopen : t.opened = some ⟨file, reader⟩) (hlast : t.size = some last)
    (hcontent : files.content? file = some content) (hle : last ≤ content.length) :
    (⟨files, t⟩ : Tailing).Fits := by
  intro file' reader' last' hopen' hlast'
  cases hopen.symm.trans hopen'
  cases hlast.symm.trans hlast'
  exact Or.inl ⟨content, hcontent, hle⟩

theorem fits_startRead {files : FileSystem} {t : Tailer} {reader : Reader} {last : Nat}
    {content : Bytes} (hopen : t.opened = some ⟨file, reader⟩) (hlast : t.size = some last)
    (hcontent : files.content? file = some content) (hle : last ≤ content.length) :
    (⟨files, t.startRead files⟩ : Tailing).Fits := by
  obtain ⟨reader', hstill⟩ := Tailer.startRead_file hopen files
  obtain ⟨phase, opened, heq⟩ := t.startRead_eq files
  exact fits_of_content hstill (by rw [heq]; exact hlast) hcontent hle

/-- A look at something that cannot be read. -/
theorem fits_startRead_of_none {files : FileSystem} {t : Tailer} {reader : Reader}
    (hopen : t.opened = some ⟨file, reader⟩) (hnone : files.content? file = none)
    (hreader : ∀ offset epoch b, reader ≠ .busy ⟨offset, epoch, .bytes b⟩) :
    (⟨files, t.startRead files⟩ : Tailing).Fits := by
  intro file' reader' last hopen' _
  right
  cases reader with
  | idle =>
    rw [Tailer.startRead, hopen] at hopen'
    simp only [FileSystem.readAt, hnone] at hopen'
    cases hopen'
    simp
  | busy read =>
    rw [Tailer.startRead, hopen] at hopen'
    cases hopen.symm.trans hopen'
    exact ⟨by simp, hreader⟩
  | lost =>
    rw [Tailer.startRead, hopen] at hopen'
    cases hopen.symm.trans hopen'
    simp

theorem Move.fits (h : s.Move now e acts s' out) (hs : s.tailer.Current) (hfits : s.Fits)
    (hgrows : ∀ c, e = .change c → s.files.Grows (s.files.changed c)) (hnone : .emptied ∉ acts) :
    s'.Fits := by
  cases h with
  | changed c =>
    intro file reader last hopen hlast
    rcases hfits file reader last hopen hlast with ⟨content, hcontent, hle⟩ | hfails
    · obtain ⟨more, hmore⟩ := (hgrows c rfl).content? hcontent
      exact Or.inl ⟨_, hmore, by rw [List.length_append]; omega⟩
    · exact Or.inr hfails
  | lost cause =>
    intro file reader last hopen hlast
    obtain ⟨opened, heq⟩ := s.tailer.loseRead_eq cause
    rw [Tailer.loseRead] at hopen
    split at hopen
    next =>
      cases hopen
      exact Or.inr (by simp)
    next =>
      rw [heq] at hlast
      exact hfits file reader last hopen hlast
  | idle => exact hfits
  | unopened hclosed =>
    intro file reader last hopen
    simp only [hclosed] at hopen
    cases hopen
  | opened =>
    intro file reader last _ hlast
    cases hlast
  | left =>
    intro file reader last hopen
    cases hopen
  | @looked opened reader hopen hfile =>
    obtain ⟨hkept, hsize⟩ := s.tailer.observe_kept now (s.files.size opened)
    cases hcontent : s.files.content? opened with
    | some content =>
      exact fits_startRead (hkept.trans hopen)
        hsize hcontent (Nat.le_of_eq (size_of_content hcontent))
    | none =>
      refine fits_startRead_of_none (hkept.trans hopen) hcontent ?_
      rintro offset epoch b rfl
      obtain ⟨_, content, _, hsome, _⟩ := hfits.of_read hs hopen
      cases hcontent.symm.trans hsome
  | @stale opened offset epoch b hread =>
    obtain ⟨last, content, hlast, hcontent, hle⟩ := hfits.of_read hs hread
    exact fits_startRead (t :=
      { s.tailer with phase := .watching, opened := some { file := opened } })
      rfl hlast hcontent hle
  | @full opened offset b hread =>
    obtain ⟨last, content, hlast, hcontent, hle⟩ := hfits.of_read hs hread
    exact fits_startRead (t := s.tailer.taken opened now b) rfl hlast hcontent hle
  | ended hread | blocked hread =>
    obtain ⟨last, content, hlast, hcontent, hle⟩ := hfits.of_read hs hread
    exact fits_of_content rfl hlast hcontent hle
  | emptied => simp at hnone

theorem step_fits (hs : s.tailer.Current) (hfits : s.Fits) (now : Nat) (e : TailingEvent)
    (hgrows : ∀ c, e = .change c → s.files.Grows (s.files.changed c)) : (s.step now e).1.Fits := by
  by_cases hemptied : .emptied ∈ s.acts e
  · -- Whichever file is emptied, the open one keeps a content, and the size is set to nothing.
    obtain ⟨rfl, opened, target, b, hemptying⟩ := exists_emptying hemptied
    obtain ⟨offset, hread⟩ := hemptying.read
    obtain ⟨_, content, _, hcontent, _⟩ := hfits.of_read hs hread
    rw [(hemptying.step_eq now).1]
    have hafter :
        ∃ content', (s.files.update target fun _ => []).content? opened = some content' := by
      rw [FileSystem.content?_update, hcontent]
      split
      · exact ⟨[], rfl⟩
      · exact ⟨content, rfl⟩
    obtain ⟨content', hcontent'⟩ := hafter
    exact fits_of_content rfl rfl hcontent' (Nat.zero_le _)
  · exact (s.step_move now e).fits hs hfits hgrows hemptied

/-- Other programs do nothing but append to files. -/
def Appends (past : List (Nat × TailingEvent)) : Prop :=
  ∀ e ∈ past, ∀ c, e.2 = .change c → ∃ path data, c = .append path data

theorem run_fits (hclosed : s₀.tailer.opened = none) (happends : Appends past) :
    (s₀.run past).1.Fits := by
  induction past using List.reverseRecOn with
  | nil =>
    intro file reader last hopen
    rw [run_nil, hclosed] at hopen
    cases hopen
  | append_singleton past event ih =>
    have hfits := ih fun e he => happends e (List.mem_append_left _ he)
    rw [run_concat]
    refine step_fits (run_current_of_closed hclosed past) hfits event.1 event.2 ?_
    intro c hc
    obtain ⟨path, data, rfl⟩ := happends event (by simp) c hc
    exact FileSystem.grows_append _ path data

/-- While other programs only append to files, a tailer that waits has either just emptied its file
or read all that stood in it when the last read was started.  It waits below the last size that it
has seen if and only if a look while that read was under way has found more than has been read. -/
theorem run_append_idle (hclosed : s₀.tailer.opened = none) (happends : Appends past) {last : Nat} :
    let s := (s₀.run past).1
    s.tailer.opened = some { file } → s.tailer.size = some last →
      ∃ before start during read, LastRead s₀ past file before start during read ∧
        (s.tailer.offset < last ↔
          .emptied ∉ (s₀.run (before ++ start :: during)).1.acts .complete ∧
            s₀.Finds before start during file s.tailer.offset) := by
  intro s hidle hlast
  obtain ⟨before, start, during, read, h⟩ :=
    exists_lastRead hclosed hidle (by rw [hlast]; rfl)
  refine ⟨before, start, during, read, h, ?_⟩
  by_cases hemptied : .emptied ∈ (s₀.run (before ++ start :: during)).1.acts .complete
  · obtain ⟨hoffset, hsize⟩ := h.emptied hemptied
    cases hsize.symm.trans hlast
    exact iff_of_false (Nat.not_lt_zero _) fun hwaits => hwaits.1 hemptied
  · obtain ⟨hread, hsize⟩ := h.fed hemptied
    obtain ⟨offset, epoch, b, hheld⟩ := h.held
    -- What has been seen before the read was started, the read comes to.
    have hbegun : Appends (before ++ [start]) := by
      obtain ⟨finish, after, rfl, _⟩ := h.back
      have hupto : before ++ [start] <+: before ++ start :: during ++
          (finish, .complete) :: after :=
        ⟨during ++ (finish, .complete) :: after, by simp⟩
      exact fun e he => happends e (hupto.subset he)
    obtain ⟨known, content, hknown, hcontent, hle⟩ :=
      (run_fits hclosed hbegun).of_read (run_current_of_closed hclosed _)
        (hheld.held [] List.nil_prefix).1
    cases hcontent.symm.trans h.content_eq
    obtain ⟨last', hlast', hiff⟩ := hheld.size_iff hknown (Nat.le_trans hle hread)
    cases (hsize.trans hlast').symm.trans hlast
    rw [hiff]
    exact (and_iff_right hemptied).symm

/-- A line is appended while a read is under way that finds nothing, and a look sees it. -/
theorem appended_waits :
    let source : Source := ⟨"app", "/log"⟩
    let files : FileSystem := ⟨#[.directory, .file []], [([], 0), (["log"], 1)], []⟩
    let s₀ : Tailing := ⟨files, .new { sources := [source] } source⟩
    let s := (s₀.run [(0, .attempt), (0, .notice .changed), (1, .change (.append "/log" [97, 10])),
      (1, .notice .changed), (2, .complete)]).1
    ¬ ∀ file last, s.tailer.opened = some { file } → s.tailer.size = some last →
      last ≤ s.tailer.offset :=
  fun h => absurd (h 1 2 (by decide) (by decide)) (by decide)

theorem run_append_idle_appended :
    let source : Source := ⟨"app", "/log"⟩
    let files : FileSystem := ⟨#[.directory, .file []], [([], 0), (["log"], 1)], []⟩
    let s₀ : Tailing := ⟨files, .new { sources := [source] } source⟩
    let past : List (Nat × TailingEvent) :=
      [(0, .attempt), (0, .notice .changed), (1, .change (.append "/log" [97, 10])),
        (1, .notice .changed), (2, .complete)]
    let s := (s₀.run past).1
    s₀.tailer.opened = none ∧ Appends past ∧ s.tailer.opened = some { file := 1 } ∧
      s.tailer.size = some 2 ∧
      ∃ before start during read, LastRead s₀ past 1 before start during read ∧
        (s.tailer.offset < 2 ↔
          .emptied ∉ (s₀.run (before ++ start :: during)).1.acts .complete ∧
            s₀.Finds before start during 1 s.tailer.offset) := by
  intro source files s₀ past s
  have happends : Appends past := by
    simp [Appends, past]
  have hidle : s.tailer.opened = some { file := 1 } := by decide
  have hlast : s.tailer.size = some 2 := by decide
  exact ⟨rfl, happends, hidle, hlast, run_append_idle rfl happends hidle hlast⟩

end Tailing

end LogCourier
