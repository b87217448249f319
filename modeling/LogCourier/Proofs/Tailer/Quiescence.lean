import LogCourier.Proofs.Tailer.Drained
import LogCourier.Proofs.Tailer.Overlong
import LogCourier.Proofs.Tailer.Regular

/-!
# Reading until nothing is left

When nothing else happens to a file, a look at it is followed by as many reads as it takes to
come to its end, one of which does not fill its chunk (`Draining.drain`).  Then the file is
emptied if it has grown too long, and otherwise the tailer rests at its end: `Tailing.Rested`
holds from the first look on, after any number of rounds in which bytes are appended and
looked at (`Tailing.run_new_quiesces`).
-/

namespace LogCourier

namespace Tailing

/-! ## Reads that come back one after the other -/

/-- So many reads come back, each at its time. -/
def completions (times : Nat → Nat) (n : Nat) : List (Nat × TailingEvent) :=
  (List.range n).map fun i => (times i, .complete)

@[simp] theorem completions_zero (times : Nat → Nat) : completions times 0 = [] := rfl

theorem completions_succ (times : Nat → Nat) (n : Nat) :
    completions times (n + 1) = (times 0, .complete) :: completions (fun i => times (i + 1)) n := by
  rw [completions, List.range_succ_eq_map, List.map_cons, List.map_map]
  rfl

/-- Whether a file of this content is emptied once it has been read. -/
def Overflows (limit : Nat) (content : Bytes) : Prop := 0 < limit ∧ limit < content.length

instance (limit : Nat) (content : Bytes) : Decidable (Overflows limit content) :=
  inferInstanceAs (Decidable (_ ∧ _))

/-- What is left of it then. -/
def remains (limit : Nat) (content : Bytes) : Bytes :=
  if Overflows limit content then [] else content

variable {s : Tailing} {file : FileId} {content : Bytes}

/-- All of the file has been read, and no read is under way. -/
structure Rested (s : Tailing) (file : FileId) (content : Bytes) : Prop where
  resolves : s.files.resolve s.tailer.source.path = .ok file
  content_eq : s.files.content? file = some content
  reader : s.tailer.opened = some { file }
  size : s.tailer.size = some content.length
  offset : s.tailer.offset = content.length
  pending : s.tailer.pendingTruncation = false

/-- A read is under way that takes what comes next in the file. -/
structure Draining (s : Tailing) (file : FileId) (content : Bytes) : Prop where
  resolves : s.files.resolve s.tailer.source.path = .ok file
  content_eq : s.files.content? file = some content
  reader : s.tailer.opened = some ⟨file, .busy ⟨s.tailer.offset, s.tailer.epoch,
    .bytes ((content.drop s.tailer.offset).take Tailer.chunkSize)⟩⟩
  size : s.tailer.size = some content.length
  offset : s.tailer.offset ≤ content.length
  pending : s.tailer.pendingTruncation = decide (Overflows s.tailer.truncateLimit content)

/-! ## One read -/

/-- A read that fills its chunk is followed by another one. -/
theorem Draining.full (h : s.Draining file content)
    (hfull : Tailer.chunkSize ≤ content.length - s.tailer.offset) (now : Nat) :
    (s.step now .complete).1.Draining file content ∧
      (s.step now .complete).1.tailer.offset = s.tailer.offset + Tailer.chunkSize ∧
      (s.step now .complete).1.tailer.stats.truncations = s.tailer.stats.truncations ∧
      s.acts .complete = [.fed ((content.drop s.tailer.offset).take Tailer.chunkSize)] := by
  have hlength :
      ((content.drop s.tailer.offset).take Tailer.chunkSize).length = Tailer.chunkSize := by
    rw [List.length_take, List.length_drop, Nat.min_eq_left hfull]
  have hstep : (s.step now .complete).1 =
      { s with tailer := (s.tailer.taken file now
        ((content.drop s.tailer.offset).take Tailer.chunkSize)).startRead s.files } := by
    rw [step, Tailer.complete_current h.reader, if_pos hlength]
    rfl
  have hacts : s.acts .complete =
      [.fed ((content.drop s.tailer.offset).take Tailer.chunkSize)] := by
    rw [acts, Tailer.completeActs, h.reader]
    simp only
    rw [if_neg (not_not_intro rfl), if_pos (Or.inl hlength)]
  have hoffset : (s.tailer.taken file now
      ((content.drop s.tailer.offset).take Tailer.chunkSize)).offset =
      s.tailer.offset + Tailer.chunkSize := congrArg (s.tailer.offset + ·) hlength
  have hbound : s.tailer.offset + Tailer.chunkSize ≤ content.length :=
    Nat.add_le_of_le_sub' h.offset hfull
  rw [hstep, startRead_content rfl h.content_eq, hacts]
  exact ⟨⟨h.resolves, h.content_eq, rfl, h.size, hoffset ▸ hbound, h.pending⟩, hoffset, rfl, rfl⟩

/-- A read that does not fill its chunk is the last one. -/
theorem Draining.short (h : s.Draining file content)
    (hshort : content.length - s.tailer.offset < Tailer.chunkSize) (now : Nat) :
    (s.step now .complete).1.Rested file (remains s.tailer.truncateLimit content) ∧
      (s.step now .complete).1.tailer.stats.truncations = s.tailer.stats.truncations +
        (if Overflows s.tailer.truncateLimit content then 1 else 0) ∧
      s.acts .complete = .fed (content.drop s.tailer.offset) ::
        if Overflows s.tailer.truncateLimit content then [.emptied] else [] := by
  have hall :
      (content.drop s.tailer.offset).take Tailer.chunkSize = content.drop s.tailer.offset := by
    apply List.take_of_length_le
    rw [List.length_drop]
    exact Nat.le_of_lt hshort
  have hlength : (content.drop s.tailer.offset).length ≠ Tailer.chunkSize := by
    rw [List.length_drop]
    exact Nat.ne_of_lt hshort
  have hreader := h.reader
  rw [hall] at hreader
  by_cases hover : Overflows s.tailer.truncateLimit content
  · have hwritable : s.files.resolveWritable s.tailer.source.path = .ok file :=
      FileSystem.resolveWritable_eq_ok.mpr ⟨h.resolves, by rw [h.content_eq]; rfl⟩
    obtain ⟨hstep, hacts⟩ := Emptying.step_eq
      ⟨⟨_, hreader⟩, hlength, h.pending.trans (decide_eq_true hover), hwritable⟩ now
    rw [hstep, hacts, remains, if_pos hover, if_pos hover, if_pos hover]
    refine ⟨⟨?_, ?_, rfl, rfl, rfl, rfl⟩, rfl, rfl⟩
    · rw [FileSystem.resolve_update]
      exact h.resolves
    · rw [FileSystem.content?_update, if_pos rfl, h.content_eq]
      rfl
  · obtain ⟨hstep, hacts⟩ := step_complete hreader (h.pending.trans (decide_eq_false hover)) now
    rw [hstep, hacts, remains, if_neg hover, if_neg hover, if_neg hover, if_neg hlength]
    refine ⟨⟨h.resolves, h.content_eq, rfl, h.size, ?_, ?_⟩, rfl, rfl⟩
    · change s.tailer.offset + (content.drop s.tailer.offset).length = content.length
      rw [List.length_drop, Nat.add_sub_cancel' h.offset]
    · exact h.pending.trans (decide_eq_false hover)

/-! ## All reads -/

theorem reads_succ {unread m : Nat} (h : unread / Tailer.chunkSize = m + 1) :
    Tailer.chunkSize ≤ unread ∧ (unread - Tailer.chunkSize) / Tailer.chunkSize = m := by
  change unread / 4096 = m + 1 at h
  change 4096 ≤ unread ∧ (unread - 4096) / 4096 = m
  omega

/-- The reads come to the end of the file after so many of them and not before, and then it is
emptied or left as it is. -/
structure Drains (s : Tailing) (file : FileId) (content : Bytes) (times : Nat → Nat) (n : Nat) :
    Prop where
  busy : ∀ i < n, (s.run (completions times i)).1.tailer.read?.isSome
  rested : (s.run (completions times n)).1.Rested file (remains s.tailer.truncateLimit content)
  truncations : (s.run (completions times n)).1.tailer.stats.truncations =
    s.tailer.stats.truncations + if Overflows s.tailer.truncateLimit content then 1 else 0
  acts : ∃ chunks : List Bytes, chunks.flatten = content.drop s.tailer.offset ∧
    s.history (completions times n) =
      chunks.map .fed ++ if Overflows s.tailer.truncateLimit content then [.emptied] else []

theorem Draining.busy (h : s.Draining file content) : s.tailer.read?.isSome := by
  rw [Tailer.read?, h.reader]
  rfl

theorem run_completions_succ (s : Tailing) (times : Nat → Nat) (n : Nat) :
    (s.run (completions times (n + 1))).1 =
      ((s.step (times 0) .complete).1.run (completions (fun i => times (i + 1)) n)).1 := by
  rw [completions_succ, run_cons]

theorem Draining.drain_last (h : s.Draining file content)
    (hshort : content.length - s.tailer.offset < Tailer.chunkSize) (times : Nat → Nat) :
    s.Drains file content times 1 := by
  obtain ⟨hrested, htruncations, hacts⟩ := h.short hshort (times 0)
  refine ⟨?_, ?_, ?_, [content.drop s.tailer.offset], List.flatten_singleton, ?_⟩
  · intro i hi
    rw [Nat.lt_one_iff.mp hi]
    exact h.busy
  · rw [run_completions_succ]
    exact hrested
  · rw [run_completions_succ]
    exact htruncations
  · rw [completions_succ, completions_zero, history, history, List.append_nil, hacts]
    rfl

theorem Draining.drain_more (h : s.Draining file content)
    (hfull : Tailer.chunkSize ≤ content.length - s.tailer.offset) (times : Nat → Nat) {n : Nat}
    (hrest : (s.step (times 0) .complete).1.Drains file content (fun i => times (i + 1)) n) :
    s.Drains file content times (n + 1) := by
  obtain ⟨_, hoffset, htruncations, hacts⟩ := h.full hfull (times 0)
  have hlimit := (s.step_acted (times 0) .complete).settings.2
  obtain ⟨chunks, hchunks, hhistory⟩ := hrest.acts
  have hrested := hrest.rested
  have hcount := hrest.truncations
  rw [hlimit] at hrested hcount hhistory
  rw [htruncations] at hcount
  refine ⟨?_, ?_, ?_, (content.drop s.tailer.offset).take Tailer.chunkSize :: chunks, ?_, ?_⟩
  · intro i hi
    cases i with
    | zero => exact h.busy
    | succ i =>
      rw [run_completions_succ]
      exact hrest.busy i (Nat.lt_of_succ_lt_succ hi)
  · rw [run_completions_succ]
    exact hrested
  · rw [run_completions_succ]
    exact hcount
  · rw [List.flatten_cons, hchunks, hoffset, ← List.drop_drop]
    exact List.take_append_drop _ _
  · rw [completions_succ, history, hacts, hhistory]
    rfl

/-- A file that is left alone is read to its end. -/
theorem Draining.drain (h : s.Draining file content) (times : Nat → Nat) :
    s.Drains file content times ((content.length - s.tailer.offset) / Tailer.chunkSize + 1) := by
  generalize hm : (content.length - s.tailer.offset) / Tailer.chunkSize = m
  induction m generalizing s times with
  | zero =>
    refine h.drain_last ?_ times
    exact Nat.lt_of_div_eq_zero (by decide) hm
  | succ m ih =>
    obtain ⟨hfull, hless⟩ := reads_succ hm
    obtain ⟨hnext, hoffset, _⟩ := h.full hfull (times 0)
    refine h.drain_more hfull times (ih hnext _ ?_)
    rw [hoffset, ← Nat.sub_sub, hless]

/-! ## Looks -/

/-- A look that takes note of the size starts a read. -/
theorem noted_draining {files : FileSystem} {t : Tailer} (hreader : t.opened = some { file })
    (hresolves : files.resolve t.source.path = .ok file)
    (hcontent : files.content? file = some content) (hoffset : t.offset ≤ content.length)
    (hpending : t.pendingTruncation = false) :
    (⟨files, (t.noted content.length).startRead files⟩ : Tailing).Draining file content ∧
      ((t.noted content.length).startRead files).offset = t.offset ∧
      ((t.noted content.length).startRead files).stats = t.stats := by
  rw [startRead_content (t := t.noted content.length) hreader hcontent]
  refine ⟨⟨hresolves, hcontent, rfl, rfl, hoffset, ?_⟩, rfl, rfl⟩
  change (t.pendingTruncation || (decide (0 < t.truncateLimit) && decide _)) = _
  rw [hpending, Bool.false_or, ← Bool.decide_and]
  rfl

/-- The first look skips all that stands in the file. -/
theorem first_look (hreader : s.tailer.opened = some { file })
    (hresolves : s.files.resolve s.tailer.source.path = .ok file)
    (hcontent : s.files.content? file = some content) (hsize : s.tailer.size = none)
    (hpending : s.tailer.pendingTruncation = false) (now : Nat) :
    (s.step now (.notice .changed)).1.Draining file content ∧
      (s.step now (.notice .changed)).1.tailer.offset = content.length ∧
      (s.step now (.notice .changed)).1.tailer.stats = s.tailer.stats ∧
      s.acts (.notice .changed) = [.skipped content.length] := by
  obtain ⟨hstep, hacts⟩ := step_look hreader hresolves now
  obtain ⟨hobserve, hskips⟩ := Tailer.observe_first hsize now content.length
  rw [size_of_content hcontent] at hstep hacts
  rw [hstep, hacts, hobserve, hskips]
  obtain ⟨hdraining, hoffset, hstats⟩ :=
    noted_draining (t := { s.tailer with offset := content.length })
    hreader hresolves hcontent (Nat.le_refl _) hpending
  exact ⟨hdraining, hoffset, hstats, rfl⟩

/-- A later look starts to read what has been appended. -/
theorem later_look {last : Nat} (hreader : s.tailer.opened = some { file })
    (hresolves : s.files.resolve s.tailer.source.path = .ok file)
    (hcontent : s.files.content? file = some content) (hsize : s.tailer.size = some last)
    (hlast : last ≤ content.length) (hoffset : s.tailer.offset ≤ content.length)
    (hpending : s.tailer.pendingTruncation = false) (now : Nat) :
    (s.step now (.notice .changed)).1.Draining file content ∧
      (s.step now (.notice .changed)).1.tailer.offset = s.tailer.offset ∧
      (s.step now (.notice .changed)).1.tailer.stats = s.tailer.stats ∧
      s.acts (.notice .changed) = [] := by
  have hlong : ¬(content.length < last ∨ content.length < s.tailer.offset) := by omega
  obtain ⟨hstep, hacts⟩ := step_look hreader hresolves now
  obtain ⟨hobserve, hnone⟩ := Tailer.observe_longer hsize hlong now
  rw [size_of_content hcontent] at hstep hacts
  rw [hstep, hacts, hobserve, hnone]
  obtain ⟨hdraining, hsame, hstats⟩ := noted_draining hreader hresolves hcontent hoffset hpending
  exact ⟨hdraining, hsame, hstats, rfl⟩

/-! ## Rounds -/

/-- Some bytes are appended to the file, the tailer looks at it, and its reads come back. -/
structure Round where
  data : Bytes
  appended : Nat
  looked : Nat
  completed : Nat → Nat

/-- What begins a round in which the tailer is to read some bytes. -/
def Round.begin (path : String) (r : Round) : List (Nat × TailingEvent) :=
  [(r.appended, .change (.append path r.data)), (r.looked, .notice .changed)]

/-- How many reads it takes to read so many bytes until nothing is left. -/
def reads (unread : Nat) : Nat := unread / Tailer.chunkSize + 1

def Round.events (path : String) (r : Round) : List (Nat × TailingEvent) :=
  r.begin path ++ completions r.completed (reads r.data.length)

/-- After it has begun, a round goes on until no read is under way, which leaves the tailer at the
end of its file. -/
structure Rests (limit : Nat) (s : Tailing) (file : FileId) (begun : List (Nat × TailingEvent))
    (times : Nat → Nat) (checked data : Bytes) : Prop where
  unread : (s.run begun).1.files.size file - (s.run begun).1.tailer.offset = data.length
  busy : ∀ i < reads data.length,
    (s.run (begun ++ completions times i)).1.tailer.read?.isSome
  rested : (s.run (begun ++ completions times (reads data.length))).1.Rested file
    (remains limit checked)
  truncations :
    (s.run (begun ++ completions times (reads data.length))).1.tailer.stats.truncations =
    s.tailer.stats.truncations + if Overflows limit checked then 1 else 0
  fed : ∃ chunks : List Bytes, chunks.flatten = data ∧
    (s.history (begun ++ completions times (reads data.length))).filterMap TailerAct.call? =
      chunks.map .feed

theorem Draining.rests {s₀ : Tailing} {begun : List (Nat × TailingEvent)} {data : Bytes}
    (h : (s₀.run begun).1.Draining file content)
    (hdata : content.drop (s₀.run begun).1.tailer.offset = data)
    (htruncations : (s₀.run begun).1.tailer.stats.truncations = s₀.tailer.stats.truncations)
    (hcalls : (s₀.history begun).filterMap TailerAct.call? = []) (times : Nat → Nat) :
    Rests s₀.tailer.truncateLimit s₀ file begun times content data := by
  have hlength : content.length - (s₀.run begun).1.tailer.offset = data.length := by
    rw [← hdata, List.length_drop]
  have hlimit := s₀.run_truncateLimit begun
  have hdrains := h.drain times
  rw [hlength] at hdrains
  obtain ⟨chunks, hchunks, hhistory⟩ := hdrains.acts
  refine ⟨?_, ?_, ?_, ?_, chunks, hchunks.trans hdata, ?_⟩
  · rw [size_of_content h.content_eq, hlength]
  · intro i hi
    rw [run_append]
    exact hdrains.busy i hi
  · rw [run_append, ← hlimit]
    exact hdrains.rested
  · rw [run_append, ← hlimit, ← htruncations]
    exact hdrains.truncations
  · have hcall : (if Overflows (s₀.run begun).1.tailer.truncateLimit content then
        [TailerAct.emptied] else []).filterMap TailerAct.call? = [] := by
      split <;> rfl
    rw [history_append, List.filterMap_append, hcalls, List.nil_append, reads, hhistory,
      List.filterMap_append, hcall, List.append_nil, TailerAct.filterMap_call?_fed]

/-- What has been appended since the tailer has come to rest is read. -/
theorem Rested.rests (h : s.Rested file content) (r : Round) :
    Rests s.tailer.truncateLimit s file (r.begin s.tailer.source.path) r.completed
      (content ++ r.data) r.data := by
  have hregular : (s.files.content? file).isSome := by
    rw [h.content_eq]
    rfl
  have happend : (s.step r.appended (.change (.append s.tailer.source.path r.data))).1 =
      { s with files := s.files.update file (· ++ r.data) } := by
    rw [step, FileSystem.changed_append h.resolves hregular]
  have hresolves : (s.files.update file (· ++ r.data)).resolve s.tailer.source.path = .ok file := by
    rw [FileSystem.resolve_update]
    exact h.resolves
  have hcontent : (s.files.update file (· ++ r.data)).content? file = some (content ++ r.data) := by
    rw [FileSystem.content?_update, if_pos rfl, h.content_eq]
    rfl
  have hlonger : content.length ≤ (content ++ r.data).length := by simp
  obtain ⟨hdraining, hoffset, hstats, hacts⟩ := later_look
    (s := { s with files := s.files.update file (· ++ r.data) }) h.reader hresolves hcontent h.size
    hlonger (h.offset ▸ hlonger) h.pending r.looked
  have hrun : (s.run (r.begin s.tailer.source.path)).1 =
      (Tailing.step { s with files := s.files.update file (· ++ r.data) } r.looked
        (.notice .changed)).1 := by
    rw [Round.begin, run_cons, happend, run_cons, run_nil]
  rw [← hrun] at hdraining hoffset hstats
  refine hdraining.rests ?_ (congrArg TailerStats.truncations hstats) ?_ r.completed
  · rw [hoffset, h.offset]
    exact List.drop_left
  · rw [Round.begin, history, happend, history, hacts]
    rfl

/-- A tailer that opens its file skips what stands in it. -/
theorem opened_rests (hclosed : s.tailer.opened = none) (hgoing : s.tailer.phase ≠ .stopped)
    (hfile : s.files.resolve s.tailer.source.path = .ok file)
    (hcontent : s.files.content? file = some content) (opened looked : Nat) (times : Nat → Nat) :
    Rests s.tailer.truncateLimit s file [(opened, .attempt), (looked, .notice .changed)] times
      content [] := by
  have hopen := step_attempt hclosed hgoing hfile opened
  have hacts : (s.acts .attempt).filterMap TailerAct.call? = [] := by
    rw [acts, if_neg (by simp [hclosed, hgoing]), hfile]
    rfl
  obtain ⟨hdraining, hoffset, hstats, hskips⟩ := first_look
    (s := { s with tailer := s.tailer.entered file }) rfl hfile hcontent rfl rfl looked
  have hrun : (s.run [(opened, .attempt), (looked, .notice .changed)]).1 =
      (Tailing.step { s with tailer := s.tailer.entered file } looked (.notice .changed)).1 := by
    rw [run_cons, hopen, run_cons, run_nil]
  rw [← hrun] at hdraining hoffset hstats
  refine hdraining.rests ?_ ?_ ?_ times
  · rw [hoffset]
    exact List.drop_length
  · rw [hstats]
    rfl
  · rw [history, hopen, history, hskips, List.filterMap_append, hacts]
    rfl

/-- After any number of rounds the tailer is at rest, and their bytes have been fed. -/
theorem Rested.rounds (h : s.Rested file content) (rounds : List Round) :
    ∃ content',
      (s.run (rounds.flatMap (Round.events s.tailer.source.path))).1.Rested file content' ∧
      ∃ chunks : List Bytes, chunks.flatten = (rounds.map Round.data).flatten ∧
        (s.history (rounds.flatMap (Round.events s.tailer.source.path))).filterMap TailerAct.call? =
          chunks.map .feed := by
  induction rounds generalizing s content with
  | nil => exact ⟨content, h, [], rfl, rfl⟩
  | cons r rounds ih =>
    have hfirst := h.rests r
    obtain ⟨chunks, hchunks, hcalls⟩ := hfirst.fed
    obtain ⟨content', hrested, more, hmore, hcalls'⟩ := ih hfirst.rested
    rw [run_source] at hrested hcalls'
    rw [List.flatMap_cons, run_append, history_append]
    refine ⟨content', hrested, chunks ++ more, ?_, ?_⟩
    · rw [List.flatten_append, hchunks, hmore, List.map_cons, List.flatten_cons]
    · rw [List.filterMap_append, List.map_append, ← hcalls, ← hcalls']
      rfl

/-! ## Every round -/

/-- What has come of a new tailer that has done nothing but feed. -/
theorem run_new_feeds (files : FileSystem) (settings : Settings) (source : Source)
    {events : List (Nat × TailingEvent)} {chunks : List Bytes}
    (hcalls : ((⟨files, .new settings source⟩ : Tailing).history events).filterMap TailerAct.call? =
      chunks.map .feed) :
    ((⟨files, .new settings source⟩ : Tailing).run events).1.tailer.pipeline.StandsAfter
        [.feed chunks.flatten] ∧
      ((PipelineCall.encoding (max settings.repeatThreshold 1) false chunks.flatten).length ≤
          settings.rateLimit →
        ((⟨files, .new settings source⟩ : Tailing).run events).2 =
          PipelineCall.encoding (max settings.repeatThreshold 1) false chunks.flatten) := by
  obtain ⟨calls, hsnd, hrun⟩ := exists_calls ⟨files, .new settings source⟩ events
  rw [hcalls] at hsnd
  change Stage.run Pipeline.call
    (.new settings.rateLimit settings.rateWindow settings.repeatThreshold) calls = _ at hrun
  constructor
  · have hstands := (Pipeline.new_standsAfter settings.rateLimit settings.rateWindow
      settings.repeatThreshold).calls calls
    rw [hrun, hsnd, List.nil_append] at hstands
    have hsame : PipelineCall.current [.feed chunks.flatten] =
        PipelineCall.current (chunks.map .feed) := (PipelineCall.current_feeds chunks).symm
    exact ⟨by rw [hsame]; exact hstands.buffer, by rw [hsame]; exact hstands.run⟩
  · intro hroom
    have hout := (Pipeline.run_new_eq_transcript settings.rateLimit settings.rateWindow
      settings.repeatThreshold calls (by rw [hsnd, PipelineCall.transcript_feeds]; exact hroom)).1
    rw [hrun, hsnd, PipelineCall.transcript_feeds] at hout
    exact hout

/-- A tailer that has opened a file, has read all that has been appended to it in some rounds, and
reads what is appended in one more. -/
structure Quiesces (settings : Settings) (file : FileId) (path : String) (s : Tailing)
    (events : List (Nat × TailingEvent)) (data : Bytes) (r : Round) : Prop where
  /-- What is left in the file has been read, and the next round reads what is appended to it. -/
  rests : ∃ content, (s.run events).1.Rested file content ∧
    Rests settings.truncateLimit (s.run events).1 file (r.begin path) r.completed
      (content ++ r.data) r.data
  /-- All that has been appended has been fed, nothing else has been, and the pipeline has never
  been restarted. -/
  fed : ∃ chunks : List Bytes, chunks.flatten = data ∧
    (s.history events).filterMap TailerAct.call? = chunks.map .feed
  /-- The pipeline stands as if nothing had been emptied in between. -/
  joined : (s.run events).1.tailer.pipeline.StandsAfter [.feed data]
  passed : (PipelineCall.encoding (max settings.repeatThreshold 1) false data).length ≤
      settings.rateLimit →
    (s.run events).2 = PipelineCall.encoding (max settings.repeatThreshold 1) false data

/-- A new tailer skips what stands in its file, and then reads what is appended in one round after
the other, whether the file is emptied in between or not. -/
theorem run_new_quiesces {files : FileSystem} {source : Source} {file : FileId} {content : Bytes}
    (hfile : files.resolve source.path = .ok file) (hcontent : files.content? file = some content)
    (settings : Settings) (opened looked : Nat) (completed : Nat → Nat) (rounds : List Round)
    (r : Round) :
    let s : Tailing := ⟨files, .new settings source⟩
    let begun : List (Nat × TailingEvent) := [(opened, .attempt), (looked, .notice .changed)]
    let events :=
      begun ++ completions completed (reads 0) ++ rounds.flatMap (Round.events source.path)
    Rests settings.truncateLimit s file begun completed content [] ∧
      Quiesces settings file source.path s events (rounds.map Round.data).flatten r := by
  intro s begun events
  have hlimit : s.tailer.truncateLimit = settings.truncateLimit := rfl
  have hsource : s.tailer.source = source := rfl
  have hfirst := opened_rests (s := s) rfl (by simp [s, Tailer.new]) hfile hcontent opened looked
    completed
  rw [hlimit] at hfirst
  obtain ⟨skipped, hnothing, hskipped⟩ := hfirst.fed
  obtain ⟨content', hrested, chunks, hchunks, hcalls⟩ := hfirst.rested.rounds rounds
  rw [run_source, hsource] at hrested hcalls
  have hfed : (s.history events).filterMap TailerAct.call? = (skipped ++ chunks).map .feed := by
    rw [history_append, List.filterMap_append, List.map_append, ← hcalls, ← hskipped]
    rfl
  have hdata : (skipped ++ chunks).flatten = (rounds.map Round.data).flatten := by
    rw [List.flatten_append, hnothing, hchunks]
    rfl
  have hrun : (s.run events).1.Rested file content' := by
    rw [run_append]
    exact hrested
  obtain ⟨hstands, hpassed⟩ := run_new_feeds files settings source hfed
  rw [hdata] at hstands hpassed
  refine ⟨hfirst, ⟨content', hrun, ?_⟩, ⟨skipped ++ chunks, hdata, hfed⟩, hstands, hpassed⟩
  have hnext := hrun.rests r
  rwa [run_truncateLimit, hlimit, run_source, hsource] at hnext

/-- The file is emptied in the middle of a line. -/
theorem run_new_quiesces_cut :
    let source : Source := ⟨"app", "/log"⟩
    let files : FileSystem := ⟨#[.directory, .file [120]], [([], 0), (["log"], 1)], []⟩
    let s : Tailing := ⟨files, .new { sources := [source], truncateLimit := 2 } source⟩
    let begun : List (Nat × TailingEvent) := [(0, .attempt), (0, .notice .changed)]
    let rounds : List Round := [⟨[97, 97], 1, 1, fun _ => 1⟩, ⟨[98, 10], 2, 2, fun _ => 2⟩]
    let events :=
      begun ++ completions (fun _ => 0) (reads 0) ++ rounds.flatMap (Round.events "/log")
    files.resolve "/log" = .ok 1 ∧ files.content? 1 = some [120] ∧
      Rests 2 s 1 begun (fun _ => 0) [120] [] ∧ (s.run events).2 = [.line [97, 97, 98]] := by
  intro source files s begun rounds events
  have hfile : files.resolve source.path = .ok 1 := by decide
  have hcontent : files.content? 1 = some [120] := rfl
  obtain ⟨hfirst, hrounds⟩ := run_new_quiesces hfile hcontent
    { sources := [source], truncateLimit := 2 } 0 0 (fun _ => 0) rounds ⟨[], 3, 3, fun _ => 3⟩
  have hline : PipelineCall.encoding 500 false (rounds.map Round.data).flatten =
      [.line [97, 97, 98]] := by
    decide
  exact ⟨hfile, hcontent, hfirst, (hrounds.passed (by decide)).trans hline⟩

end Tailing

end LogCourier
