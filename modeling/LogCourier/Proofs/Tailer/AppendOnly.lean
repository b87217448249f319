import LogCourier.Proofs.FileSystem.Growth
import LogCourier.Proofs.Tailer.Moves

/-!
# Following a file that only grows

While a file is only appended to, a tailer that has opened it feeds what stands in it from the size
at the first look up to its offset, and nothing else happens to it (`Following.run`).
`Tailing.Following` is the invariant: it holds from the first look on, wherever reads begin and end
and however the file grows while they are under way.
-/

namespace LogCourier

/-- What happens around a tailer while files are only appended to. -/
inductive FollowStep
  /-- Another program appends to some file. -/
  | append (path : String) (data : Bytes)
  | look
  /-- The read under way comes back. -/
  | complete
deriving DecidableEq, Repr

def FollowStep.tailing : FollowStep → TailingEvent
  | .append path data => .change (.append path data)
  | .look => .notice .changed
  | .complete => .complete

namespace Tailing

/-- Steps with their times, as events. -/
def follows (steps : List (Nat × FollowStep)) : List (Nat × TailingEvent) :=
  steps.map fun e => (e.1, e.2.tailing)

theorem follows_cons (e : Nat × FollowStep) (steps : List (Nat × FollowStep)) :
    follows (e :: steps) = (e.1, e.2.tailing) :: follows steps := rfl

theorem follows_append (xs ys : List (Nat × FollowStep)) :
    follows (xs ++ ys) = follows xs ++ follows ys :=
  List.map_append

/-! ## Before the first look -/

/-- The tailer has opened the file, in which this stood then, and not looked at it. -/
structure Waiting (s : Tailing) (file : FileId) (t : Tailer) (before : Bytes) : Prop where
  tailer : s.tailer = t.entered file
  resolves : s.files.resolve t.source.path = .ok file
  content : ∃ more, s.files.content? file = some (before ++ more)

theorem Waiting.step {s : Tailing} {file : FileId} {t : Tailer} {before : Bytes}
    (h : s.Waiting file t before) (now : Nat) {e : FollowStep} (he : e ≠ .look) :
    (s.step now e.tailing).1.Waiting file t before ∧ s.acts e.tailing = [] := by
  cases e with
  | look => exact absurd rfl he
  | append path data =>
    obtain ⟨some, hsome⟩ := h.content
    obtain ⟨hresolves, more, hmore⟩ := FileSystem.exists_appended h.resolves hsome path data
    rw [List.append_assoc] at hmore
    exact ⟨⟨h.tailer, hresolves, some ++ more, hmore⟩, rfl⟩
  | complete =>
    have hopen : s.tailer.opened = some { file } := by
      rw [h.tailer]
      rfl
    have hstep : (s.step now .complete).1 = s := by
      rw [Tailing.step, Tailer.complete, hopen]
      rfl
    constructor
    · change (s.step now .complete).1.Waiting file t before
      rwa [hstep]
    · change s.tailer.completeActs s.files = []
      rw [Tailer.completeActs, hopen]

theorem Waiting.run {s : Tailing} {file : FileId} {t : Tailer} {before : Bytes}
    (h : s.Waiting file t before) {steps : List (Nat × FollowStep)}
    (hsteps : ∀ e ∈ steps, e.2 ≠ .look) :
    (s.run (follows steps)).1.Waiting file t before ∧ s.history (follows steps) = [] := by
  induction steps generalizing s with
  | nil => exact ⟨h, rfl⟩
  | cons e steps ih =>
    obtain ⟨hnext, hacts⟩ := h.step e.1 (hsteps e List.mem_cons_self)
    obtain ⟨hlast, hhistory⟩ := ih hnext fun e' he' => hsteps e' (List.mem_cons_of_mem _ he')
    rw [follows_cons, run_cons, history, hacts]
    exact ⟨hlast, hhistory⟩

/-! ## From the first look on -/

/-- The tailer has fed what stands in the file from `start` to its offset, and a read under way
brings what comes next. -/
structure Following (s : Tailing) (file : FileId) (start epoch : Nat) (content fed : Bytes) :
    Prop where
  resolves : s.files.resolve s.tailer.source.path = .ok file
  content_eq : s.files.content? file = some content
  epoch_eq : s.tailer.epoch = epoch
  pending : s.tailer.pendingTruncation = false
  looked : ∃ last, s.tailer.size = some last ∧ last ≤ content.length
  start_le : start ≤ s.tailer.offset
  offset_le : s.tailer.offset ≤ content.length
  fed_eq : fed = (content.drop start).take (s.tailer.offset - start)
  reader : s.tailer.opened = some { file } ∨
    ∃ b, s.tailer.opened = some ⟨file, .busy ⟨s.tailer.offset, epoch, .bytes b⟩⟩ ∧
      b <+: content.drop s.tailer.offset

/-- Whether the file may still be emptied does not matter if it never gets large enough. -/
def Keeps (limit size : Nat) : Prop := limit = 0 ∨ size ≤ limit

theorem noted_pending {t : Tailer} {size : Nat} (hpending : t.pendingTruncation = false)
    (hkeeps : Keeps t.truncateLimit size) : (t.noted size).pendingTruncation = false := by
  rw [Tailer.noted]
  simp only [hpending, Bool.false_or, Bool.and_eq_false_iff, decide_eq_false_iff_not]
  rcases hkeeps with h | h
  · exact Or.inl (by omega)
  · exact Or.inr (by omega)

theorem size_of_content {fs : FileSystem} {file : FileId} {b : Bytes}
    (h : fs.content? file = some b) : fs.size file = b.length := by
  rw [FileSystem.size, h]

/-- A read that is started takes the bytes at the offset. -/
theorem startRead_content {t : Tailer} {files : FileSystem} {file : FileId} {content : Bytes}
    (hopen : t.opened = some { file }) (hcontent : files.content? file = some content) :
    t.startRead files =
      { t with
        phase := .reading
        opened := some ⟨file, .busy ⟨t.offset, t.epoch,
          .bytes ((content.drop t.offset).take Tailer.chunkSize)⟩⟩ } := by
  rw [Tailer.startRead, hopen]
  simp only [FileSystem.readAt, hcontent]

variable {s : Tailing} {file : FileId} {start epoch : Nat} {content fed : Bytes}

theorem Following.append (h : s.Following file start epoch content fed) (now : Nat) (path : String)
    (data : Bytes) :
    ∃ more, (s.step now (.change (.append path data))).1.Following file start epoch
      (content ++ more) fed := by
  obtain ⟨hresolves, more, hmore⟩ := FileSystem.exists_appended h.resolves h.content_eq path data
  obtain ⟨last, hlast, hle⟩ := h.looked
  have hlength : content.length ≤ (content ++ more).length := by simp
  refine ⟨more, hresolves, hmore, h.epoch_eq, h.pending,
    ⟨last, hlast, Nat.le_trans hle hlength⟩, h.start_le, Nat.le_trans h.offset_le hlength, ?_, ?_⟩
  · -- What has been fed lies within the old content.
    have hstart := Nat.le_trans h.start_le h.offset_le
    have hoffset := h.offset_le
    change fed = ((content ++ more).drop start).take (s.tailer.offset - start)
    rw [List.drop_append_of_le_length hstart,
      List.take_append_of_le_length (by rw [List.length_drop]; omega)]
    exact h.fed_eq
  · rcases h.reader with hidle | ⟨b, hbusy, hb⟩
    · exact Or.inl hidle
    · refine Or.inr ⟨b, hbusy, ?_⟩
      change b <+: (content ++ more).drop s.tailer.offset
      rw [List.drop_append_of_le_length h.offset_le]
      exact hb.trans (List.prefix_append _ _)

theorem Following.startRead {t : Tailer} {files : FileSystem}
    (h : (⟨files, t⟩ : Tailing).Following file start epoch content fed) :
    (⟨files, t.startRead files⟩ : Tailing).Following file start epoch content fed := by
  rcases h.reader with hidle | ⟨b, hbusy, hb⟩
  · rw [startRead_content hidle h.content_eq]
    refine ⟨h.resolves, h.content_eq, h.epoch_eq, h.pending, h.looked, h.start_le, h.offset_le,
      h.fed_eq, Or.inr ⟨(content.drop t.offset).take Tailer.chunkSize, ?_, List.take_prefix _ _⟩⟩
    rw [← h.epoch_eq]
  · have heq : t.startRead files = t := by
      rw [Tailer.startRead, show t.opened = _ from hbusy]
    rw [heq]
    exact h

/-- A look finds nothing that the tailer does not know of, apart from the new size. -/
theorem Following.look (h : s.Following file start epoch content fed)
    (hkeeps : Keeps s.tailer.truncateLimit (s.files.size file)) (now : Nat) :
    (s.step now (.notice .changed)).1.Following file start epoch content fed ∧
      s.acts (.notice .changed) = [] := by
  obtain ⟨reader, hopen⟩ : ∃ reader, s.tailer.opened = some ⟨file, reader⟩ := by
    rcases h.reader with hidle | ⟨b, hbusy, _⟩
    · exact ⟨.idle, hidle⟩
    · exact ⟨_, hbusy⟩
  obtain ⟨hstep, hacts⟩ := step_look hopen h.resolves now
  obtain ⟨last, hlast, hle⟩ := h.looked
  have hsize := size_of_content h.content_eq
  have hlong : ¬ (s.files.size file < last ∨ s.files.size file < s.tailer.offset) := by
    rw [hsize, not_or]
    exact ⟨Nat.not_lt.mpr hle, Nat.not_lt.mpr h.offset_le⟩
  obtain ⟨hobserve, hnone⟩ := Tailer.observe_longer hlast hlong now
  rw [hstep, hacts, hobserve, hnone]
  refine ⟨startRead ?_, rfl⟩
  exact ⟨h.resolves, h.content_eq, h.epoch_eq, noted_pending h.pending hkeeps,
    ⟨_, rfl, Nat.le_of_eq hsize⟩, h.start_le, h.offset_le, h.fed_eq, h.reader⟩

theorem Following.taken (h : s.Following file start epoch content fed) {b : Bytes}
    (hb : b <+: content.drop s.tailer.offset) (now : Nat) :
    (⟨s.files, s.tailer.taken file now b⟩ : Tailing).Following file start epoch content
      (fed ++ b) := by
  have hstart := h.start_le
  have hoffset := h.offset_le
  have hlength := hb.length_le
  rw [List.length_drop] at hlength
  refine ⟨h.resolves, h.content_eq, h.epoch_eq, h.pending, h.looked,
    Nat.le_trans h.start_le (Nat.le_add_right _ _), ?_, ?_, Or.inl rfl⟩
  · change s.tailer.offset + b.length ≤ content.length
    omega
  · change fed ++ b = (content.drop start).take (s.tailer.offset + b.length - start)
    have hsplit : s.tailer.offset + b.length - start = (s.tailer.offset - start) + b.length := by
      omega
    rw [hsplit, List.take_add, List.drop_drop, Nat.add_sub_cancel' hstart, ← h.fed_eq]
    exact congrArg (fed ++ ·) (List.prefix_iff_eq_take.mp hb)

theorem Following.complete (h : s.Following file start epoch content fed) (now : Nat) :
    ∃ chunks : List Bytes,
      (s.step now .complete).1.Following file start epoch content (fed ++ chunks.flatten) ∧
        s.acts .complete = chunks.map .fed := by
  rcases h.reader with hidle | ⟨b, hbusy, hb⟩
  · refine ⟨[], ?_, ?_⟩
    · rw [Tailing.step, Tailer.complete, hidle, List.flatten_nil, List.append_nil]
      exact h
    · rw [acts, Tailer.completeActs, hidle]
      rfl
  · rw [← h.epoch_eq] at hbusy
    obtain ⟨hstep, hacts⟩ := step_complete hbusy h.pending now
    refine ⟨[b], ?_, hacts⟩
    rw [hstep, List.flatten_singleton]
    split
    · exact (h.taken hb now).startRead
    · exact h.taken hb now

/-- The first look: what stands in the file is skipped. -/
theorem Waiting.look {t : Tailer} {before : Bytes} (h : s.Waiting file t before)
    (hkeeps : Keeps t.truncateLimit (s.files.size file)) (now : Nat) :
    (∃ content, (s.step now (.notice .changed)).1.Following file (s.files.size file) (t.epoch + 1)
        content []) ∧
      s.acts (.notice .changed) = [.skipped (s.files.size file)] := by
  obtain ⟨more, hcontent⟩ := h.content
  have hsize := size_of_content hcontent
  have hopen : s.tailer.opened = some { file } := by
    rw [h.tailer]
    rfl
  have hpath : s.files.resolve s.tailer.source.path = .ok file := by
    rw [h.tailer]
    exact h.resolves
  have hnone : s.tailer.size = none := by
    rw [h.tailer]
    rfl
  obtain ⟨hstep, hacts⟩ := step_look hopen hpath now
  obtain ⟨hobserve, hskips⟩ := Tailer.observe_first hnone now (s.files.size file)
  rw [hstep, hacts, hobserve, hskips]
  refine ⟨⟨before ++ more, Following.startRead ?_⟩, rfl⟩
  rw [h.tailer]
  refine ⟨h.resolves, hcontent, rfl,
    noted_pending (t := { t.entered file with offset := _ }) rfl hkeeps,
    ⟨_, rfl, Nat.le_of_eq hsize⟩, Nat.le_refl _, Nat.le_of_eq hsize, ?_, Or.inl rfl⟩
  change [] = ((before ++ more).drop _).take (s.files.size file - s.files.size file)
  rw [Nat.sub_self, List.take_zero]

theorem Following.step (h : s.Following file start epoch content fed)
    (hkeeps : Keeps s.tailer.truncateLimit (s.files.size file)) (now : Nat) (e : FollowStep) :
    ∃ (more : Bytes) (chunks : List Bytes),
      (s.step now e.tailing).1.Following file start epoch (content ++ more)
          (fed ++ chunks.flatten) ∧
        s.acts e.tailing = chunks.map .fed := by
  cases e with
  | append path data =>
    obtain ⟨more, hnext⟩ := h.append now path data
    exact ⟨more, [], by rwa [List.flatten_nil, List.append_nil], rfl⟩
  | look =>
    obtain ⟨hnext, hacts⟩ := h.look hkeeps now
    exact ⟨[], [], by rwa [List.flatten_nil, List.append_nil, List.append_nil], hacts⟩
  | complete =>
    obtain ⟨chunks, hnext, hacts⟩ := h.complete now
    exact ⟨[], chunks, by rwa [List.append_nil], hacts⟩

/-- Whatever the order of the steps, the invariant holds after them. -/
theorem Following.run (h : s.Following file start epoch content fed)
    {steps : List (Nat × FollowStep)}
    (hkeeps : ∀ before, before <+: steps →
      Keeps s.tailer.truncateLimit ((s.run (follows before)).1.files.size file)) :
    ∃ (content' : Bytes) (chunks : List Bytes),
      (s.run (follows steps)).1.Following file start epoch content' (fed ++ chunks.flatten) ∧
        s.history (follows steps) = chunks.map .fed := by
  induction steps generalizing s content fed with
  | nil => exact ⟨content, [], by rwa [List.flatten_nil, List.append_nil], rfl⟩
  | cons e steps ih =>
    obtain ⟨now, e⟩ := e
    obtain ⟨more, chunks, hnext, hacts⟩ := h.step (hkeeps [] List.nil_prefix) now e
    have hlimit := (s.step_acted now e.tailing).settings.2
    have hrest : ∀ before, before <+: steps →
        Keeps (s.step now e.tailing).1.tailer.truncateLimit
          (((s.step now e.tailing).1.run (follows before)).1.files.size file) := by
      intro before hbefore
      have hkept := hkeeps ((now, e) :: before) (List.cons_prefix_cons.mpr ⟨rfl, hbefore⟩)
      rw [hlimit]
      rwa [follows_cons, run_cons] at hkept
    obtain ⟨content', chunks', hlast, hhistory⟩ := ih hnext hrest
    rw [List.append_assoc, ← List.flatten_append] at hlast
    refine ⟨content', chunks ++ chunks', ?_, ?_⟩
    · rw [follows_cons, run_cons]
      exact hlast
    · rw [follows_cons, history, hacts, List.map_append]
      exact congrArg (chunks.map TailerAct.fed ++ ·) hhistory

/-- A run that begins before the first look and goes beyond it. -/
theorem Waiting.run_look {t : Tailer} {before : Bytes} (h : s.Waiting file t before)
    {upto after : List (Nat × FollowStep)} {now : Nat} (hupto : ∀ e ∈ upto, e.2 ≠ .look)
    (hkeeps : ∀ steps, steps <+: upto ++ (now, .look) :: after →
      Keeps t.truncateLimit ((s.run (follows steps)).1.files.size file)) :
    ∃ (content : Bytes) (chunks : List Bytes),
      (s.run (follows (upto ++ (now, .look) :: after))).1.Following file
          ((s.run (follows upto)).1.files.size file) (t.epoch + 1) content chunks.flatten ∧
        s.history (follows (upto ++ (now, .look) :: after)) =
          .skipped ((s.run (follows upto)).1.files.size file) :: chunks.map .fed := by
  obtain ⟨hwaiting, hnothing⟩ := h.run hupto
  obtain ⟨⟨content, hfollowing⟩, hskips⟩ :=
    hwaiting.look (hkeeps upto (List.prefix_append _ _)) now
  have hsplit (steps : List (Nat × FollowStep)) :
      (s.run (follows (upto ++ (now, .look) :: steps))).1 =
        (((s.run (follows upto)).1.step now (.notice .changed)).1.run (follows steps)).1 := by
    rw [follows_append, run_append, follows_cons, run_cons]
    rfl
  have hlimit : ((s.run (follows upto)).1.step now (.notice .changed)).1.tailer.truncateLimit =
      t.truncateLimit := by
    rw [((s.run (follows upto)).1.step_acted now _).settings.2, hwaiting.tailer]
    rfl
  have hafter (steps : List (Nat × FollowStep)) (hsteps : steps <+: after) :
      Keeps ((s.run (follows upto)).1.step now (.notice .changed)).1.tailer.truncateLimit
        ((((s.run (follows upto)).1.step now (.notice .changed)).1.run
          (follows steps)).1.files.size file) := by
    rw [hlimit, ← hsplit]
    exact hkeeps _ ((List.prefix_append_right_inj _).mpr (List.cons_prefix_cons.mpr ⟨rfl, hsteps⟩))
  obtain ⟨content', chunks, hlast, hhistory⟩ := hfollowing.run hafter
  refine ⟨content', chunks, ?_, ?_⟩
  · rw [hsplit]
    exact hlast
  · rw [follows_append, history_append, follows_cons, history]
    change s.history (follows upto) ++
      ((s.run (follows upto)).1.acts (.notice .changed) ++ _) = _
    rw [hnothing, hskips]
    exact congrArg (TailerAct.skipped _ :: ·) hhistory

end Tailing

end LogCourier
