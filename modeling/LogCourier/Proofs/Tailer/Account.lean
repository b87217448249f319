import LogCourier.Proofs.Tailer.Episodes

/-!
# The account of a run

Every step of every run of a tailer is accounted for: where the bytes come from that it feeds, where
its offset goes, what becomes of a read that is under way when the file is let go of, and where the
pipeline is restarted.
-/

namespace LogCourier

namespace Tailing

variable {s s' : Tailing} {now : Nat} {e : TailingEvent} {acts : List TailerAct}
  {out : List Message}

/-! ## The acts of a move -/

theorem closeActs_eq (t : Tailer) :
    (∃ file offset b, t.opened = some ⟨file, .busy ⟨offset, t.epoch, .bytes b⟩⟩ ∧
        t.closeActs = [.fed b, .restarted]) ∨
      t.closeActs = [.restarted] := by
  rcases t.close_cases 0 with ⟨offset, b, hread, _, hacts⟩ | ⟨_, hacts⟩
  · obtain ⟨file, hopen⟩ := Tailer.read?_eq_some.mp hread
    exact Or.inl ⟨file, offset, b, hopen, hacts⟩
  · exact Or.inr hacts

/-- What the acts of a step have to do with the bytes that it feeds: they are fed first of all, and
once, and they are what the read under way came back with. -/
def Feeds (t : Tailer) (acts : List TailerAct) (b : Bytes) (t' : Tailer) : Prop :=
  ∃ file more, acts = .fed b :: more ∧ (∀ b', .fed b' ∉ more) ∧
    t.opened = some ⟨file, .busy ⟨t.offset, t.epoch, .bytes b⟩⟩ ∧
    t'.opened ≠ some ⟨file, .busy ⟨t.offset, t.epoch, .bytes b⟩⟩

theorem feeds_of_read {t t' : Tailer} (ht : t.Current) {file : FileId} {offset : Nat}
    {b b' : Bytes} {more : List TailerAct}
    (hread : t.opened = some ⟨file, .busy ⟨offset, t.epoch, .bytes b'⟩⟩)
    (hmore : ∀ b', .fed b' ∉ more)
    (hnext : t'.opened ≠ some ⟨file, .busy ⟨offset, t.epoch, .bytes b'⟩⟩)
    (hfed : TailerAct.fed b ∈ .fed b' :: more) : Feeds t (.fed b' :: more) b t' := by
  have hoffset := (ht.of_opened hread).2.2 rfl
  rcases List.mem_cons.mp hfed with heq | hlater
  · cases heq
    rw [hoffset] at hread hnext
    exact ⟨file, more, rfl, hmore, hread, hnext⟩
  · exact absurd hlater (hmore b)

theorem Move.feeds (h : s.Move now e acts s' out) (hs : s.tailer.Current) {b : Bytes}
    (hfed : .fed b ∈ acts) : Feeds s.tailer acts b s'.tailer := by
  cases h with
  | changed | lost | idle | unopened | stale => cases hfed
  | opened => simp at hfed
  | left =>
    rcases closeActs_eq s.tailer with ⟨file, offset, b', hread, hacts⟩ | hacts
    · rw [hacts] at hfed ⊢
      exact feeds_of_read hs hread (by simp) nofun hfed
    · rw [hacts] at hfed
      simp at hfed
  | looked =>
    rcases s.tailer.observe_cases now (s.files.size _) with
      ⟨_, _, hacts⟩ | ⟨_, _, hacts⟩ | ⟨_, _, hacts⟩
    · rw [hacts] at hfed
      simp at hfed
    · rw [hacts] at hfed
      simp at hfed
    · rw [hacts] at hfed
      cases hfed
  | @full file offset b' hread hfull =>
    refine feeds_of_read hs hread (by simp) ?_ hfed
    intro hread'
    rcases Tailer.startRead_read hread' with hwas | ⟨_, hoffset, _⟩
    · cases hwas
    · -- The next read starts a whole chunk further on.
      obtain ⟨phase, opened, heq⟩ := (s.tailer.taken file now b').startRead_eq s.files
      have hwas := (hs.of_opened hread).2.2 rfl
      have hmoved : s.tailer.offset + b'.length = offset := by
        rw [heq] at hoffset
        exact hoffset
      rw [hfull, hwas, Tailer.chunkSize] at hmoved
      omega
  | ended hread => exact feeds_of_read hs hread (by simp) nofun hfed
  | blocked hread => exact feeds_of_read hs hread (by simp) nofun hfed
  | emptied hread => exact feeds_of_read hs hread (by simp) nofun hfed

/-- The first look at a file is the one that comes with nothing known of its size. -/
theorem Move.skips (h : s.Move now e acts s' out) {n : Nat} (hskipped : .skipped n ∈ acts) :
    ∃ file reader, s.tailer.opened = some ⟨file, reader⟩ ∧ s.tailer.size = none ∧
      n = s.files.size file := by
  cases h with
  | changed | lost | idle | unopened | stale => cases hskipped
  | opened | full | ended | blocked | emptied => simp at hskipped
  | left =>
    rcases closeActs_eq s.tailer with ⟨file, offset, b', hread, hacts⟩ | hacts
    · rw [hacts] at hskipped
      simp at hskipped
    · rw [hacts] at hskipped
      simp at hskipped
  | looked hopen =>
    rcases s.tailer.observe_cases now (s.files.size _) with
      ⟨hsize, _, hacts⟩ | ⟨_, _, hacts⟩ | ⟨_, _, hacts⟩
    · rw [hacts] at hskipped
      exact ⟨_, _, hopen, hsize, by simpa using hskipped⟩
    · rw [hacts] at hskipped
      simp at hskipped
    · rw [hacts] at hskipped
      cases hskipped

/-- The offset moves on by what is fed, is set to the size at the first look, or goes back to the
start with a new epoch. -/
theorem Move.offset (h : s.Move now e acts s' out) :
    s'.tailer.offset = s.tailer.offset + (acts.flatMap TailerAct.bytes).length ∨
      (∃ n, acts = [.skipped n] ∧ s'.tailer.offset = n) ∨
      s'.tailer.offset = 0 ∧ s.tailer.epoch < s'.tailer.epoch := by
  have hacted := h.acted
  have hoffset := hacted.offset
  have hepoch := hacted.epoch
  cases h with
  | changed | lost | idle | unopened | stale | opened => exact Or.inl hoffset
  | full | ended | blocked =>
    left
    simpa [TailerAct.bytes, TailerAct.moveOffset] using hoffset
  | emptied => exact Or.inr (Or.inr ⟨rfl, Nat.lt_succ_self _⟩)
  | left =>
    left
    rcases closeActs_eq s.tailer with ⟨file, offset, b', hread, hacts⟩ | hacts
    · rw [hacts] at hoffset ⊢
      simpa [TailerAct.bytes, TailerAct.moveOffset] using hoffset
    · rw [hacts] at hoffset ⊢
      exact hoffset
  | looked hopen =>
    rcases s.tailer.observe_cases now (s.files.size _) with
      ⟨hsize, _, hacts⟩ | ⟨_, _, hacts⟩ | ⟨_, _, hacts⟩
    · rw [hacts] at hoffset ⊢
      exact Or.inr (Or.inl ⟨_, rfl, hoffset⟩)
    · rw [hacts] at hoffset hepoch
      exact Or.inr (Or.inr ⟨hoffset, hepoch ▸ Nat.lt_succ_self _⟩)
    · rw [hacts] at hoffset ⊢
      exact Or.inl hoffset

/-- A read of this epoch that is under way when the file is let go of is fed then. -/
theorem Move.closes (h : s.Move now e acts s' out) {file : FileId} {offset : Nat} {b : Bytes}
    (hread : s.tailer.opened = some ⟨file, .busy ⟨offset, s.tailer.epoch, .bytes b⟩⟩)
    (hclosed : s'.tailer.opened = none) : acts = [.fed b, .restarted] := by
  cases h with
  | changed | idle =>
    rw [hread] at hclosed
    cases hclosed
  | lost cause =>
    rw [Tailer.loseRead, hread] at hclosed
    cases hclosed
  | unopened hnone | opened hnone =>
    rw [hread] at hnone
    cases hnone
  | left => exact (Tailer.close_current (Tailer.read?_eq_some.mpr ⟨file, hread⟩) rfl rfl 0).2
  | looked hopen =>
    refine absurd hclosed (Tailer.startRead_ne_none ?_ _)
    rw [(s.tailer.observe_kept now _).1, hopen]
    exact Option.some_ne_none _
  | stale hread' hepoch =>
    rw [hread] at hread'
    cases hread'
    exact absurd rfl hepoch
  | full => exact absurd hclosed (Tailer.startRead_ne_none (Option.some_ne_none _) _)
  | ended | blocked | emptied => cases hclosed

/-- No file is opened without an act that says so. -/
theorem Move.opens (h : s.Move now e acts s' out) (hclosed : s.tailer.opened = none)
    {file : FileId} {reader : Reader} (hopen : s'.tailer.opened = some ⟨file, reader⟩) :
    acts = [.opened file] := by
  cases h with
  | changed | idle | unopened =>
    rw [hclosed] at hopen
    cases hopen
  | lost cause =>
    rw [Tailer.loseRead, hclosed, hclosed] at hopen
    cases hopen
  | opened =>
    cases hopen
    rfl
  | left h | looked h | stale h | full h | ended h | blocked h | emptied h =>
    rw [hclosed] at h
    cases h

/-! ## Runs -/

/-- The pipeline stands where the calls of the acts have brought it. -/
theorem run_standsAfter {s : Tailing} (hs : s.tailer.pipeline.StandsAfter [])
    (events : List (Nat × TailingEvent)) :
    (s.run events).1.tailer.pipeline.StandsAfter
      ((s.history events).filterMap TailerAct.call?) := by
  induction events using List.reverseRecOn with
  | nil => exact hs
  | append_singleton events e ih =>
    have hcalls := ih.calls (TailerAct.calls e.1 ((s.run events).1.acts e.2))
    rw [((s.run events).1.step_acted e.1 e.2).pipeline, TailerAct.map_snd_calls] at hcalls
    rw [run_concat, history_concat, List.filterMap_append]
    exact hcalls

/-- The account of a step that follows a run. -/
structure Accounted (s₀ : Tailing) (past : List (Nat × TailingEvent)) (s : Tailing) (now : Nat)
    (e : TailingEvent) : Prop where
  /-- The pipeline has the calls of the acts and no others, and what they give goes out; the offset
  and the epoch move as the acts tell. -/
  acted : s.tailer.Acted now (s.acts e) (s.step now e).1.tailer (s.step now e).2
  /-- What is fed was read at the offset where the tailer is, from the file that is open, in the
  present epoch. -/
  fed : ∀ b, .fed b ∈ s.acts e → Feeds s.tailer (s.acts e) b (s.step now e).1.tailer ∧
    ∃ file before e' after, past = before ++ e' :: after ∧
      s₀.HeldSince before e' after file s.tailer.offset s.tailer.epoch b
  offset : (s.step now e).1.tailer.offset =
        s.tailer.offset + ((s.acts e).flatMap TailerAct.bytes).length ∨
      (∃ n, s.acts e = [.skipped n] ∧ (s.step now e).1.tailer.offset = n) ∨
      (s.step now e).1.tailer.offset = 0 ∧ s.tailer.epoch < (s.step now e).1.tailer.epoch
  /-- The offset is set to a size only once for every file that is opened, and before anything else
  is done with it. -/
  skipped : ∀ n, .skipped n ∈ s.acts e → ∃ file reader before,
    s.tailer.opened = some ⟨file, reader⟩ ∧ n = s.files.size file ∧
      s₀.history past = before ++ [.opened file]
  opened : s.tailer.opened = none → ∀ file reader,
    (s.step now e).1.tailer.opened = some ⟨file, reader⟩ → s.acts e = [.opened file]
  /-- A read of the present epoch that is under way when the file is let go of is fed then. -/
  closed : ∀ file offset b,
    s.tailer.opened = some ⟨file, .busy ⟨offset, s.tailer.epoch, .bytes b⟩⟩ →
      (s.step now e).1.tailer.opened = none → s.acts e = [.fed b, .restarted]
  /-- From bytes of a file to bytes of a file that is opened later, or that has been found
  truncated, the pipeline is restarted. -/
  restarted : ∀ xs b ys b' zs,
    s₀.history (past ++ [(now, e)]) = xs ++ .fed b :: ys ++ .fed b' :: zs →
      (∃ file, .opened file ∈ ys) ∨ .truncated ∈ ys → .restarted ∈ ys
  /-- What the pipeline holds comes from the bytes fed since its last restart. -/
  stands : (s.step now e).1.tailer.pipeline.StandsAfter
    ((s₀.history (past ++ [(now, e)])).filterMap TailerAct.call?)

/-- Whatever other programs do to the files, and in whichever order the steps come, every step of a
tailer is accounted for. -/
theorem run_new_accounted (files : FileSystem) (settings : Settings) (source : Source)
    (past : List (Nat × TailingEvent)) (now : Nat) (e : TailingEvent) :
    Accounted ⟨files, .new settings source⟩ past (run ⟨files, .new settings source⟩ past).1 now
      e := by
  generalize hs₀ : (⟨files, .new settings source⟩ : Tailing) = s₀
  have hnone : s₀.tailer.opened = none := by
    rw [← hs₀]
    rfl
  have hnew : s₀.tailer.pipeline.StandsAfter [] := by
    rw [← hs₀]
    exact Pipeline.new_standsAfter _ _ _
  have hcurrent₀ : s₀.tailer.Current :=
    Tailer.current_of_read?_eq_none (by rw [Tailer.read?, hnone])
  have hmove := (s₀.run past).1.step_move now e
  have hcurrent := run_current hcurrent₀ past
  have hnext : (s₀.run (past ++ [(now, e)])).1 = ((s₀.run past).1.step now e).1 :=
    run_concat s₀ past (now, e)
  refine ⟨hmove.acted, ?fed, hmove.offset, ?skipped, ?opened, ?closed, ?restarted, ?stands⟩
  case fed =>
    intro b hfed
    obtain ⟨file, _, _, _, hread, _⟩ := hmove.feeds hcurrent hfed
    exact ⟨hmove.feeds hcurrent hfed, file, exists_heldSince hnone hread⟩
  case skipped =>
    intro n hskipped
    obtain ⟨file, reader, hopen, hsize, hn⟩ := hmove.skips hskipped
    have hfresh : (s₀.run past).1.tailer.episode = .fresh file := by
      rw [Tailer.episode, hopen, hsize]
      rfl
    have hepisode := history_episode hcurrent₀ past
    rw [hfresh, Tailer.episode_of_closed hnone] at hepisode
    obtain ⟨before, hbefore⟩ := Episode.eq_concat_opened hepisode
    exact ⟨file, reader, before, hopen, hn, hbefore⟩
  case opened => exact fun hclosed file reader hopen => hmove.opens hclosed hopen
  case closed => exact fun file offset b hread hclosed => hmove.closes hread hclosed
  case restarted =>
    intro xs b ys b' zs hhistory hys
    have hepisode := history_episode hcurrent₀ (past ++ [(now, e)])
    rw [hhistory] at hepisode
    obtain ⟨file, file', hbetween⟩ := Episode.exists_between hepisode
    exact Episode.restarted_mem hbetween hys
  case stands =>
    have hstands := run_standsAfter hnew (past ++ [(now, e)])
    rwa [hnext] at hstands

end Tailing

end LogCourier
