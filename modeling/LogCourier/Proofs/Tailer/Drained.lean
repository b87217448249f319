import LogCourier.Proofs.Tailer.AppendOnly
import LogCourier.Proofs.Tailer.Emptying

/-!
# What is lost when a file is emptied

A file that is only appended to is emptied when a read comes back that has reached its end.  By then
all that stood in the file when this read was *started* has been fed, or skipped at the first look.
What has been appended while the read was under way is emptied unread: every byte lies below the
tailer's offset if and only if nothing has been (`Tailing.run_follow_empties`).

`Tailing.Trailing` is the invariant: neither the tailer nor its read under way is ever beyond the
end of the file.  Since a new epoch begins when the file is emptied, the file has only grown while
the read was under way (`run_grows`).
-/

namespace LogCourier

namespace Tailing

variable {s : Tailing} {file : FileId} {content : Bytes}

/-! ## Never beyond the end of the file -/

/-- The tailer follows the file, in which this stands now, and has not gone beyond its end. -/
structure Trailing (s : Tailing) (file : FileId) (content : Bytes) : Prop where
  resolves : s.files.resolve s.tailer.source.path = .ok file
  content_eq : s.files.content? file = some content
  looked : ∀ last, s.tailer.size = some last →
    last ≤ content.length ∧ s.tailer.offset ≤ content.length
  reader : s.tailer.opened = some { file } ∨
    s.tailer.size.isSome ∧ ∃ b,
      s.tailer.opened = some ⟨file, .busy ⟨s.tailer.offset, s.tailer.epoch, .bytes b⟩⟩ ∧
        s.tailer.offset + b.length ≤ content.length

theorem Trailing.of_read (h : s.Trailing file content) {opened : FileId}
    {offset epoch : Nat} {b : Bytes}
    (hread : s.tailer.opened = some ⟨opened, .busy ⟨offset, epoch, .bytes b⟩⟩) :
    opened = file ∧ s.tailer.offset + b.length ≤ content.length := by
  rcases h.reader with hidle | ⟨_, b', hbusy, hb⟩
  · cases hread.symm.trans hidle
  · cases hread.symm.trans hbusy
    exact ⟨rfl, hb⟩

/-- Only this file can be emptied. -/
theorem Trailing.of_emptying (h : s.Trailing file content) {opened target : FileId} {b : Bytes}
    (hemptying : s.Emptying opened target b) : opened = file ∧ target = file := by
  obtain ⟨offset, hread⟩ := hemptying.read
  have htarget := (FileSystem.resolveWritable_eq_ok.mp hemptying.target).1
  refine ⟨(h.of_read hread).1, ?_⟩
  cases htarget.symm.trans h.resolves
  rfl

theorem Trailing.append (h : s.Trailing file content) (now : Nat) (path : String) (data : Bytes) :
    ∃ more, (s.step now (.change (.append path data))).1.Trailing file (content ++ more) := by
  obtain ⟨hresolves, more, hmore⟩ := FileSystem.exists_appended h.resolves h.content_eq path data
  have hlength : content.length ≤ (content ++ more).length := by simp
  refine ⟨more, hresolves, hmore, ?_, ?_⟩
  · intro last hlast
    obtain ⟨hle, hoffset⟩ := h.looked last hlast
    exact ⟨Nat.le_trans hle hlength, Nat.le_trans hoffset hlength⟩
  · rcases h.reader with hidle | ⟨hsize, b, hbusy, hb⟩
    · exact Or.inl hidle
    · exact Or.inr ⟨hsize, b, hbusy, Nat.le_trans hb hlength⟩

theorem Trailing.startRead {t : Tailer} {files : FileSystem}
    (h : (⟨files, t⟩ : Tailing).Trailing file content) {last : Nat} (hlast : t.size = some last) :
    (⟨files, t.startRead files⟩ : Tailing).Trailing file content := by
  rcases h.reader with hidle | ⟨_, b, hbusy, _⟩
  · have hoffset : t.offset ≤ content.length := (h.looked last hlast).2
    rw [startRead_content hidle h.content_eq]
    refine ⟨h.resolves, h.content_eq, h.looked, Or.inr ⟨?_, _, rfl, ?_⟩⟩
    · change t.size.isSome
      rw [hlast]
      rfl
    · change t.offset + ((content.drop t.offset).take Tailer.chunkSize).length ≤ content.length
      rw [List.length_take, List.length_drop]
      omega
  · have heq : t.startRead files = t := by
      rw [Tailer.startRead, show t.opened = _ from hbusy]
    rw [heq]
    exact h

theorem Trailing.look (h : s.Trailing file content) (now : Nat) :
    (s.step now (.notice .changed)).1.Trailing file content := by
  obtain ⟨reader, hopen⟩ : ∃ reader, s.tailer.opened = some ⟨file, reader⟩ := by
    rcases h.reader with hidle | ⟨_, b, hbusy, _⟩
    · exact ⟨.idle, hidle⟩
    · exact ⟨_, hbusy⟩
  have hsize := size_of_content h.content_eq
  rw [(step_look hopen h.resolves now).1]
  cases hlast : s.tailer.size with
  | none =>
    rw [(Tailer.observe_first hlast now _).1, hsize]
    apply startRead _ rfl
    refine ⟨h.resolves, h.content_eq, ?_, ?_⟩
    · rintro _ ⟨rfl⟩
      exact ⟨Nat.le_refl _, Nat.le_refl _⟩
    · rcases h.reader with hidle | ⟨hlooked, _⟩
      · exact Or.inl hidle
      · rw [hlast] at hlooked
        cases hlooked
  | some last =>
    obtain ⟨hle, hoffset⟩ := h.looked last hlast
    have hlong : ¬ (s.files.size file < last ∨ s.files.size file < s.tailer.offset) := by
      rw [hsize]
      omega
    rw [(Tailer.observe_longer hlast hlong now).1, hsize]
    apply startRead _ rfl
    refine ⟨h.resolves, h.content_eq, ?_, ?_⟩
    · rintro _ ⟨rfl⟩
      exact ⟨Nat.le_refl _, hoffset⟩
    · rcases h.reader with hidle | ⟨_, b, hbusy, hb⟩
      · exact Or.inl hidle
      · exact Or.inr ⟨rfl, b, hbusy, hb⟩

/-- When the file is emptied, the tailer begins anew with nothing in it. -/
theorem Trailing.emptied (h : s.Trailing file content) {b : Bytes}
    (hemptying : s.Emptying file file b) (now : Nat) :
    (s.step now .complete).1.Trailing file [] := by
  rw [(hemptying.step_eq now).1]
  refine ⟨?_, ?_, ?_, Or.inl rfl⟩
  · rw [FileSystem.resolve_update]
    exact h.resolves
  · rw [FileSystem.content?_update, if_pos rfl, h.content_eq]
    rfl
  · rintro _ ⟨rfl⟩
    exact ⟨Nat.le_refl _, Nat.le_refl _⟩

theorem Trailing.complete (h : s.Trailing file content) (now : Nat) :
    ∃ content', (s.step now .complete).1.Trailing file content' := by
  rcases h.reader with hidle | ⟨hsize, b, hbusy, hb⟩
  · refine ⟨content, ?_⟩
    rw [Tailing.step, Tailer.complete, hidle]
    exact h
  obtain ⟨last, hlast⟩ := Option.isSome_iff_exists.mp hsize
  have htaken : (⟨s.files, s.tailer.taken file now b⟩ : Tailing).Trailing file content :=
    ⟨h.resolves, h.content_eq, fun last hlast => ⟨(h.looked last hlast).1, hb⟩, Or.inl rfl⟩
  cases hpending : s.tailer.pendingTruncation with
  | false =>
    refine ⟨content, ?_⟩
    rw [(step_complete hbusy hpending now).1]
    split
    · exact htaken.startRead hlast
    · exact htaken
  | true =>
    by_cases hfull : b.length = Tailer.chunkSize
    · refine ⟨content, ?_⟩
      rw [Tailing.step, Tailer.complete_current hbusy, if_pos hfull]
      exact htaken.startRead hlast
    · have hwritable : s.files.resolveWritable s.tailer.source.path = .ok file := by
        rw [FileSystem.resolveWritable_eq_ok, h.content_eq]
        exact ⟨h.resolves, rfl⟩
      exact ⟨[], h.emptied ⟨⟨_, hbusy⟩, hfull, hpending, hwritable⟩ now⟩

theorem Trailing.step (h : s.Trailing file content) (now : Nat) (e : FollowStep) :
    ∃ content', (s.step now e.tailing).1.Trailing file content' := by
  cases e with
  | append path data =>
    obtain ⟨more, hmore⟩ := h.append now path data
    exact ⟨_, hmore⟩
  | look => exact ⟨content, h.look now⟩
  | complete => exact h.complete now

theorem Trailing.run (h : s.Trailing file content) (steps : List (Nat × FollowStep)) :
    ∃ content', (s.run (follows steps)).1.Trailing file content' := by
  induction steps generalizing s content with
  | nil => exact ⟨content, h⟩
  | cons e steps ih =>
    obtain ⟨content', hnext⟩ := h.step e.1 e.2
    rw [follows_cons, run_cons]
    exact ih hnext

theorem step_attempt (hclosed : s.tailer.opened = none) (hgoing : s.tailer.phase ≠ .stopped)
    (hfile : s.files.resolve s.tailer.source.path = .ok file) (now : Nat) :
    (s.step now .attempt).1 = { s with tailer := s.tailer.entered file } := by
  have hfree : ¬ (s.tailer.opened.isSome ∨ s.tailer.phase = .stopped) := by
    simp [hclosed, hgoing]
  rw [Tailing.step, attempt, if_neg hfree, Tailer.attemptOpen, hfile]
  rfl

/-- A tailer that opens a file follows it from then on. -/
theorem trailing_attempt (hclosed : s.tailer.opened = none) (hgoing : s.tailer.phase ≠ .stopped)
    (hfile : s.files.resolve s.tailer.source.path = .ok file)
    (hcontent : s.files.content? file = some content) (now : Nat) :
    (s.step now .attempt).1.Trailing file content := by
  rw [step_attempt hclosed hgoing hfile]
  exact ⟨hfile, hcontent, by simp [Tailer.entered], Or.inl rfl⟩

/-! ## While a read is under way -/

theorem step_grows (s : Tailing) (now : Nat) (e : FollowStep)
    (hepoch : (s.step now e.tailing).1.tailer.epoch = s.tailer.epoch) :
    s.files.Grows (s.step now e.tailing).1.files := by
  have hnone : .emptied ∉ s.acts e.tailing := by
    intro hemptied
    obtain ⟨he, _, _, _, hemptying⟩ := exists_emptying hemptied
    rw [he, (hemptying.step_eq now).1] at hepoch
    exact Nat.succ_ne_self _ hepoch
  cases e with
  | append path data => exact s.files.grows_append path data
  | look | complete =>
    rw [(s.step_move now _).files_eq (fun _ h => by cases h) hnone]
    exact .refl _

/-- For as long as an epoch lasts, the files only grow. -/
theorem run_grows {s : Tailing} {steps : List (Nat × FollowStep)}
    (hepoch : (s.run (follows steps)).1.tailer.epoch = s.tailer.epoch) :
    s.files.Grows (s.run (follows steps)).1.files := by
  induction steps generalizing s with
  | nil => exact .refl _
  | cons e steps ih =>
    rw [follows_cons, run_cons] at hepoch ⊢
    have hnext := (s.step_move e.1 e.2.tailing).epoch_le
    have hlast := run_epoch_le (s.step e.1 e.2.tailing).1 (follows steps)
    have hsame : (s.step e.1 e.2.tailing).1.tailer.epoch = s.tailer.epoch :=
      Nat.le_antisymm (hepoch ▸ hlast) hnext
    exact (s.step_grows e.1 e.2 hsame).trans (ih (hepoch.trans hsame.symm))

/-- A read that does not fill its chunk has come to the end of what stood there. -/
theorem length_le_of_readAt {files : FileSystem} {offset : Nat} {b : Bytes}
    (hcontent : files.content? file = some content)
    (hread : files.readAt file offset Tailer.chunkSize = .ok b)
    (hshort : b.length ≠ Tailer.chunkSize) : content.length ≤ offset + b.length := by
  rw [FileSystem.readAt, hcontent] at hread
  cases hread
  rw [List.length_take, List.length_drop] at hshort ⊢
  omega

/-! ## The moment of emptying -/

/-- Once `b` has been fed, every byte in the file lies below the offset. -/
def Drained (s : Tailing) (file : FileId) (b : Bytes) : Prop :=
  ∀ content, s.files.content? file = some content → content.length ≤ s.tailer.offset + b.length

/-- The step from `s`, reached by `past`, to `s'` feeds `b` and empties the file.  `read` stood in
it when the read under way was started, and `more` has been appended since. -/
structure Empties (s₀ : Tailing) (past : List (Nat × TailingEvent)) (s : Tailing)
    (acts : List TailerAct) (s' : Tailing) (file : FileId) (b read more : Bytes) : Prop where
  started : ∃ before start after, past = before ++ start :: after ∧
    s₀.HeldSince before start after file s.tailer.offset s.tailer.epoch b ∧
    (s₀.run (before ++ [start])).1.files.content? file = some read
  /-- What stood in the file at that time has been fed or skipped. -/
  offset_eq : s.tailer.offset + b.length = read.length
  content_eq : s.files.content? file = some (read ++ more)
  acts_eq : acts = [.fed b, .emptied]
  emptied : s'.files.content? file = some []

theorem Empties.drained_iff {s₀ s' : Tailing} {past : List (Nat × TailingEvent)}
    {acts : List TailerAct} {b read more : Bytes} (h : Empties s₀ past s acts s' file b read more) :
    s.Drained file b ↔ more = [] := by
  rw [← List.length_eq_zero_iff]
  constructor
  · intro hdrained
    have hle := hdrained _ h.content_eq
    rw [h.offset_eq, List.length_append] at hle
    omega
  · intro hmore content hcontent
    rw [h.content_eq] at hcontent
    cases hcontent
    rw [List.length_append, hmore, h.offset_eq]
    exact Nat.le_refl _

/-- A part of a run is a run of the steps before and of those after. -/
theorem exists_steps {a start : Nat × TailingEvent} {before after : List (Nat × TailingEvent)}
    {steps : List (Nat × FollowStep)} (h : a :: follows steps = before ++ start :: after) :
    ∃ upto rest, before ++ [start] = a :: follows upto ∧ after = follows rest := by
  cases before with
  | nil =>
    obtain ⟨rfl, rfl⟩ := List.cons.inj h
    exact ⟨[], steps, rfl, rfl⟩
  | cons first before =>
    obtain ⟨rfl, htail⟩ := List.cons.inj h
    obtain ⟨upto, rest, rfl, hupto, hrest⟩ :=
      List.map_eq_append_iff.mp (htail.trans (List.append_cons before start after))
    exact ⟨upto, rest, by rw [List.cons_append, ← hupto]; rfl, hrest.symm⟩

/-- However appends, looks and reads follow each other once a file has been opened, it is emptied
only when all that stood in it at the start of the last read has been fed or skipped, and what has
been appended since then is lost. -/
theorem run_follow_empties {s₀ : Tailing} {old : Bytes} (hclosed : s₀.tailer.opened = none)
    (hgoing : s₀.tailer.phase ≠ .stopped)
    (hfile : s₀.files.resolve s₀.tailer.source.path = .ok file)
    (hold : s₀.files.content? file = some old) (now₀ : Nat) (steps : List (Nat × FollowStep))
    (now : Nat) (e : FollowStep) :
    let past := (now₀, .attempt) :: follows steps
    let s := (s₀.run past).1
    .emptied ∈ s.acts e.tailing → ∃ b read more,
      Empties s₀ past s (s.acts e.tailing) (s.step now e.tailing).1 file b read more ∧
        (s.Drained file b ↔ more = []) := by
  intro past s hemptied
  have htrailing (upto : List (Nat × FollowStep)) :
      ∃ content, (s₀.run ((now₀, .attempt) :: follows upto)).1.Trailing file content := by
    rw [run_cons]
    exact (trailing_attempt hclosed hgoing hfile hold now₀).run upto
  obtain ⟨he, opened, target, b, hemptying⟩ := exists_emptying hemptied
  obtain ⟨offset, hread⟩ := hemptying.read
  obtain ⟨content, hnow⟩ := htrailing steps
  obtain ⟨rfl, rfl⟩ := hnow.of_emptying hemptying
  obtain ⟨before, start, after, hpast, hheld⟩ := exists_heldSince hclosed hread
  obtain ⟨upto, rest, hupto, rfl⟩ := exists_steps hpast
  obtain ⟨hbegun, hbegunOffset, hbegunEpoch⟩ := hheld.held [] List.nil_prefix
  obtain ⟨read, hthen⟩ := htrailing upto
  rw [← hupto] at hthen
  have hoffset : s.tailer.offset + b.length = read.length := by
    have hle := (hthen.of_read hbegun).2
    rw [hbegunOffset] at hle
    exact Nat.le_antisymm hle (length_le_of_readAt hthen.content_eq hheld.content hemptying.short)
  have hsplit : s = ((s₀.run (before ++ [start])).1.run (follows rest)).1 := by
    rw [← run_append, List.append_assoc]
    exact congrArg (fun events => (s₀.run events).1) hpast
  have hgrows : (s₀.run (before ++ [start])).1.files.Grows s.files := by
    rw [hsplit]
    apply run_grows
    rw [← hsplit]
    exact hbegunEpoch.symm
  obtain ⟨more, hmore⟩ := hgrows.content? hthen.content_eq
  have hafter : (s.step now e.tailing).1.files.content? target = some [] := by
    rw [he]
    exact (hnow.emptied hemptying now).content_eq
  have hacts : s.acts e.tailing = [.fed b, .emptied] := by
    rw [he]
    exact (hemptying.step_eq now).2
  have hempties : Empties s₀ past s (s.acts e.tailing) (s.step now e.tailing).1 target
      b read more :=
    ⟨⟨before, start, follows rest, hpast, hheld, hthen.content_eq⟩, hoffset, hmore, hacts, hafter⟩
  exact ⟨b, read, more, hempties, hempties.drained_iff⟩

/-- A line is appended while the read that is to be the last is under way. -/
theorem appended_emptied :
    let source : Source := ⟨"app", "/log"⟩
    let files : FileSystem := ⟨#[.directory, .file [97, 97, 97]], [([], 0), (["log"], 1)], []⟩
    let s₀ : Tailing := ⟨files, .new { sources := [source], truncateLimit := 2 } source⟩
    let s := (s₀.run [(0, .attempt), (0, .notice .changed),
      (1, .change (.append "/log" [98, 10]))]).1
    ¬ ∀ b, s.acts .complete = [.fed b, .emptied] → s.Drained 1 b :=
  fun h => absurd (h [] (by decide) _ rfl) (by decide)

theorem run_follow_empties_appended :
    let source : Source := ⟨"app", "/log"⟩
    let files : FileSystem := ⟨#[.directory, .file [97, 97, 97]], [([], 0), (["log"], 1)], []⟩
    let s₀ : Tailing := ⟨files, .new { sources := [source], truncateLimit := 2 } source⟩
    let past := (0, .attempt) :: follows [(0, .look), (1, .append "/log" [98, 10])]
    let s := (s₀.run past).1
    .emptied ∈ s.acts .complete ∧ ∃ b read more,
      Empties s₀ past s (s.acts .complete) (s.step 2 .complete).1 1 b read more ∧
        (s.Drained 1 b ↔ more = []) := by
  intro source files s₀ past s
  have hemptied : .emptied ∈ s.acts .complete := by decide
  exact ⟨hemptied, run_follow_empties rfl (by decide) (by decide) rfl 0
    [(0, .look), (1, .append "/log" [98, 10])] 2 .complete hemptied⟩

end Tailing

end LogCourier
