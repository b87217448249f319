import LogCourier.Proofs.Pipeline.Stages
import LogCourier.Tailer.Step

/-!
# The acts of a tailer

Whatever a tailer does comes down to a few acts: it opens a file, sets its place in the file, feeds
bytes to its pipeline or restarts it.  `Tailer.Acted` says that some acts are all that has happened
to a tailer: its pipeline has had their calls and nothing else, and its offset and its epoch have
moved as they tell.  This file shows it for each operation of a tailer.
-/

namespace LogCourier

inductive TailerAct
  /-- A file has been opened. -/
  | opened (file : FileId)
  /-- The first look at the file: what stands in it is skipped. -/
  | skipped (size : Nat)
  /-- A later look finds the file shorter than it was, or than what has been read of it. -/
  | truncated
  /-- The tailer has emptied its file. -/
  | emptied
  | fed (bytes : Bytes)
  /-- The pipeline has been restarted. -/
  | restarted
deriving DecidableEq, Repr

namespace TailerAct

/-- The call that an act makes on the pipeline, if it makes one. -/
def call? : TailerAct → Option PipelineCall
  | .fed bytes => some (.feed bytes)
  | .restarted => some .restart
  | _ => none

/-- The bytes that an act feeds. -/
def bytes : TailerAct → Bytes
  | .fed b => b
  | _ => []

def moveOffset (offset : Nat) : TailerAct → Nat
  | .skipped size => size
  | .fed bytes => offset + bytes.length
  | .truncated | .emptied => 0
  | .opened _ | .restarted => offset

def moveEpoch (epoch : Nat) : TailerAct → Nat
  | .opened _ | .truncated | .emptied => epoch + 1
  | .skipped _ | .fed _ | .restarted => epoch

theorem le_moveEpoch (epoch : Nat) (act : TailerAct) : epoch ≤ moveEpoch epoch act := by
  cases act with
  | opened | truncated | emptied => exact Nat.le_succ epoch
  | skipped | fed | restarted => exact Nat.le_refl epoch

theorem le_foldl_moveEpoch (epoch : Nat) (acts : List TailerAct) :
    epoch ≤ acts.foldl moveEpoch epoch := by
  induction acts generalizing epoch with
  | nil => exact Nat.le_refl _
  | cons act acts ih => exact Nat.le_trans (le_moveEpoch epoch act) (ih _)

/-- The calls that acts of one moment make on the pipeline. -/
def calls (now : Nat) (acts : List TailerAct) : List (Nat × PipelineCall) :=
  (acts.filterMap call?).map fun c => (now, c)

theorem filterMap_call?_fed (chunks : List Bytes) :
    (chunks.map fed).filterMap call? = chunks.map .feed := by
  rw [List.filterMap_map]
  exact congrFun List.filterMap_eq_map chunks

theorem flatMap_bytes_fed (chunks : List Bytes) :
    (chunks.map fed).flatMap bytes = chunks.flatten := by
  rw [List.flatMap_map]
  exact List.flatMap_id

theorem map_snd_calls (now : Nat) (acts : List TailerAct) :
    (calls now acts).map Prod.snd = acts.filterMap call? := by
  rw [calls, List.map_map]
  exact List.map_id _

theorem calls_append (now : Nat) (xs ys : List TailerAct) :
    calls now (xs ++ ys) = calls now xs ++ calls now ys := by
  rw [calls, List.filterMap_append, List.map_append, calls, calls]

end TailerAct

namespace Tailer

open TailerAct

/-- These acts are what has happened to a tailer, and these messages have come of it. -/
structure Acted (now : Nat) (t : Tailer) (acts : List TailerAct) (t' : Tailer)
    (out : List Message) : Prop where
  pipeline : Stage.run Pipeline.call t.pipeline (calls now acts) = (t'.pipeline, out)
  offset : t'.offset = acts.foldl moveOffset t.offset
  epoch : t'.epoch = acts.foldl moveEpoch t.epoch
  /-- Counters that were up to date are so again. -/
  counters : t.stats.counters = t.pipeline.counters → t'.stats.counters = t'.pipeline.counters
  settings : t'.source = t.source ∧ t'.truncateLimit = t.truncateLimit

variable {now : Nat} {t t' t'' : Tailer}

theorem Acted.trans {xs ys : List TailerAct} {out more : List Message}
    (h : Acted now t xs t' out) (h' : Acted now t' ys t'' more) :
    Acted now t (xs ++ ys) t'' (out ++ more) where
  pipeline := by
    rw [calls_append, Stage.run_append, h.pipeline, h'.pipeline]
  offset := by rw [h'.offset, h.offset, List.foldl_append]
  epoch := by rw [h'.epoch, h.epoch, List.foldl_append]
  counters hc := h'.counters (h.counters hc)
  settings := ⟨h'.settings.1.trans h.settings.1, h'.settings.2.trans h.settings.2⟩

/-- Nothing has happened that the acts tell of. -/
theorem Acted.nil (hpipeline : t'.pipeline = t.pipeline) (hoffset : t'.offset = t.offset)
    (hepoch : t'.epoch = t.epoch) (hcounters : t'.stats.counters = t.stats.counters)
    (hsettings : t'.source = t.source ∧ t'.truncateLimit = t.truncateLimit) :
    Acted now t [] t' [] where
  pipeline := by rw [hpipeline]; rfl
  offset := hoffset
  epoch := hepoch
  counters hc := by rw [hcounters, hpipeline, hc]
  settings := hsettings

theorem Acted.refl (now : Nat) (t : Tailer) : Acted now t [] t [] :=
  .nil rfl rfl rfl rfl ⟨rfl, rfl⟩

theorem Acted.emitted {acts : List TailerAct} {out : List Message} (h : Acted now t acts t' out) :
    t'.pipeline.counters.emitted = t.pipeline.counters.emitted + out.length := by
  have hcount := Stage.run_count (n := fun p : Pipeline => p.counters.emitted)
    Pipeline.emitted_call t.pipeline (calls now acts)
  rwa [h.pipeline] at hcount

/-! ## Operations -/

theorem consume_acted (now : Nat) (t : Tailer) (b : Bytes) :
    Acted now t [.fed b] (t.consume now b).1 (t.consume now b).2 where
  pipeline := by
    rw [calls]
    simp [call?, Pipeline.call, consume]
  offset := rfl
  epoch := rfl
  counters _ := rfl
  settings := ⟨rfl, rfl⟩

theorem restart_acted (now : Nat) (t : Tailer) :
    Acted now t [.restarted] (t.restart now).1 (t.restart now).2 where
  pipeline := by
    rw [calls]
    simp [call?, Pipeline.call, restart]
  offset := rfl
  epoch := rfl
  counters _ := rfl
  settings := ⟨rfl, rfl⟩

theorem startRead_eq (t : Tailer) (files : FileSystem) :
    ∃ phase opened, t.startRead files = { t with phase, opened } := by
  unfold startRead
  split
  · exact ⟨_, _, rfl⟩
  · exact ⟨t.phase, t.opened, rfl⟩

theorem startRead_file {file : FileId} {reader : Reader}
    (hopen : t.opened = some ⟨file, reader⟩) (files : FileSystem) :
    ∃ reader', (t.startRead files).opened = some ⟨file, reader'⟩ := by
  cases reader with
  | idle =>
    rw [startRead, hopen]
    exact ⟨_, rfl⟩
  | busy r =>
    rw [startRead, hopen]
    exact ⟨.busy r, hopen⟩
  | lost =>
    rw [startRead, hopen]
    exact ⟨.lost, hopen⟩

theorem startRead_ne_none (h : t.opened ≠ none) (files : FileSystem) :
    (t.startRead files).opened ≠ none := by
  obtain ⟨o, hopen⟩ := Option.ne_none_iff_exists'.mp h
  obtain ⟨reader, hstill⟩ := startRead_file hopen files
  rw [hstill]
  exact Option.some_ne_none _

theorem Acted.startRead {acts : List TailerAct} {out : List Message}
    (h : Acted now t acts t' out) (files : FileSystem) :
    Acted now t acts (t'.startRead files) out := by
  obtain ⟨phase, opened, heq⟩ := t'.startRead_eq files
  rw [heq]
  exact ⟨h.pipeline, h.offset, h.epoch, h.counters, h.settings⟩

theorem loseRead_eq (t : Tailer) (cause : TaskFailure) :
    ∃ opened, t.loseRead cause = { t with opened } := by
  unfold loseRead
  split
  · exact ⟨_, rfl⟩
  · exact ⟨t.opened, rfl⟩

theorem loseRead_acted (now : Nat) (t : Tailer) (cause : TaskFailure) :
    Acted now t [] (t.loseRead cause) [] := by
  obtain ⟨opened, h⟩ := t.loseRead_eq cause
  rw [h]
  exact .nil rfl rfl rfl rfl ⟨rfl, rfl⟩

/-- What a look that finds a file of this size does. -/
def observeActs (t : Tailer) (size : Nat) : List TailerAct :=
  match t.size with
  | none => [.skipped size]
  | some last => if size < last ∨ size < t.offset then [.truncated, .restarted] else []

/-- The size is kept until the next look. -/
def noted (t : Tailer) (size : Nat) : Tailer :=
  { t with
    size := some size
    pendingTruncation :=
      t.pendingTruncation || (decide (0 < t.truncateLimit) && decide (t.truncateLimit < size)) }

theorem observe_first (h : t.size = none) (now size : Nat) :
    t.observe now size = ({ t with offset := size }.noted size, []) ∧
      t.observeActs size = [.skipped size] := by
  rw [observe, observeActs, h]
  exact ⟨rfl, rfl⟩

theorem observe_shorter {last size : Nat} (h : t.size = some last)
    (hshort : size < last ∨ size < t.offset) (now : Nat) :
    t.observe now size =
        (({ t with offset := 0, epoch := t.epoch + 1 }.restart now).1.noted size,
          ({ t with offset := 0, epoch := t.epoch + 1 }.restart now).2) ∧
      t.observeActs size = [.truncated, .restarted] := by
  simp only [observe, observeActs, h]
  rw [if_pos hshort, if_pos hshort]
  exact ⟨rfl, rfl⟩

theorem observe_longer {last size : Nat} (h : t.size = some last)
    (hlong : ¬ (size < last ∨ size < t.offset)) (now : Nat) :
    t.observe now size = (t.noted size, []) ∧ t.observeActs size = [] := by
  simp only [observe, observeActs, h]
  rw [if_neg hlong, if_neg hlong]
  exact ⟨rfl, rfl⟩

/-- A first look skips what is there, a look that finds the file too short resets the offset, and
any other look only takes note of the size. -/
theorem observe_cases (now : Nat) (t : Tailer) (size : Nat) :
    (t.size = none ∧ t.observe now size = ({ t with offset := size }.noted size, []) ∧
        t.observeActs size = [.skipped size]) ∨
      (t.size.isSome ∧ t.observe now size =
          (({ t with offset := 0, epoch := t.epoch + 1 }.restart now).1.noted size,
            ({ t with offset := 0, epoch := t.epoch + 1 }.restart now).2) ∧
        t.observeActs size = [.truncated, .restarted]) ∨
      (t.size.isSome ∧ t.observe now size = (t.noted size, []) ∧ t.observeActs size = []) := by
  cases h : t.size with
  | none => exact Or.inl ⟨rfl, observe_first h now size⟩
  | some last =>
    right
    by_cases hshort : size < last ∨ size < t.offset
    · exact Or.inl ⟨rfl, observe_shorter h hshort now⟩
    · exact Or.inr ⟨rfl, observe_longer h hshort now⟩

theorem observe_kept (t : Tailer) (now size : Nat) :
    (t.observe now size).1.opened = t.opened ∧ (t.observe now size).1.size = some size := by
  rcases t.observe_cases now size with ⟨_, heq, _⟩ | ⟨_, heq, _⟩ | ⟨_, heq, _⟩
  · rw [heq]
    exact ⟨rfl, rfl⟩
  · rw [heq]
    exact ⟨rfl, rfl⟩
  · rw [heq]
    exact ⟨rfl, rfl⟩

theorem observe_acted (now : Nat) (t : Tailer) (size : Nat) :
    Acted now t (t.observeActs size) (t.observe now size).1 (t.observe now size).2 := by
  rcases t.observe_cases now size with ⟨_, heq, hacts⟩ | ⟨_, heq, hacts⟩ | ⟨_, heq, hacts⟩
  · rw [heq, hacts]
    exact ⟨rfl, rfl, rfl, fun h => h, rfl, rfl⟩
  · have hreset : Acted now t [.truncated] { t with offset := 0, epoch := t.epoch + 1 } [] :=
      ⟨rfl, rfl, rfl, fun h => h, rfl, rfl⟩
    have hrestart := hreset.trans (restart_acted now _)
    rw [heq, hacts]
    exact ⟨hrestart.pipeline, rfl, rfl, hrestart.counters, rfl, rfl⟩
  · rw [heq, hacts]
    exact .nil rfl rfl rfl rfl ⟨rfl, rfl⟩

/-- Letting go of the file feeds what the read under way came back with, if it is of this epoch. -/
def closeActs (t : Tailer) : List TailerAct :=
  match t.read? with
  | some ⟨_, epoch, .bytes b⟩ => if epoch = t.epoch then [.fed b, .restarted] else [.restarted]
  | _ => [.restarted]

/-- The file is let go of, and the pipeline restarted. -/
def release (t : Tailer) (now : Nat) : Tailer × List Message :=
  { t with phase := .closing, opened := none }.restart now

theorem release_acted (now : Nat) (t : Tailer) :
    Acted now t [.restarted] (t.release now).1 (t.release now).2 :=
  have h := restart_acted now { t with phase := .closing, opened := none }
  ⟨h.pipeline, rfl, rfl, h.counters, rfl, rfl⟩

theorem close_current {r : Read} {b : Bytes} (hread : t.read? = some r)
    (hresult : r.result = .bytes b) (hepoch : r.epoch = t.epoch) (now : Nat) :
    t.close now = (((t.consume now b).1.release now).1,
        (t.consume now b).2 ++ ((t.consume now b).1.release now).2) ∧
      t.closeActs = [.fed b, .restarted] := by
  obtain ⟨offset, epoch, result⟩ := r
  cases hresult
  simp only [close, closeActs, hread]
  rw [if_pos hepoch, if_pos hepoch]
  exact ⟨rfl, rfl⟩

/-- Only a read of this epoch that has come to something is waited for. -/
theorem close_other (h : ∀ r b, t.read? = some r → r.result = .bytes b → r.epoch ≠ t.epoch)
    (now : Nat) : t.close now = t.release now ∧ t.closeActs = [.restarted] := by
  cases hread : t.read? with
  | none =>
    rw [close, closeActs, hread]
    exact ⟨rfl, rfl⟩
  | some r =>
    obtain ⟨offset, epoch, result⟩ := r
    cases result with
    | bytes b =>
      have hepoch : epoch ≠ t.epoch := h _ b hread rfl
      simp only [close, closeActs, hread]
      rw [if_neg hepoch, if_neg hepoch]
      exact ⟨rfl, rfl⟩
    | failed cause =>
      rw [close, closeActs, hread]
      exact ⟨rfl, rfl⟩
    | abandoned cause =>
      rw [close, closeActs, hread]
      exact ⟨rfl, rfl⟩

/-- The file is let go of with the bytes of a read of this epoch, or without any. -/
theorem close_cases (now : Nat) (t : Tailer) :
    (∃ offset b, t.read? = some ⟨offset, t.epoch, .bytes b⟩ ∧
        t.close now = (((t.consume now b).1.release now).1,
          (t.consume now b).2 ++ ((t.consume now b).1.release now).2) ∧
        t.closeActs = [.fed b, .restarted]) ∨
      t.close now = t.release now ∧ t.closeActs = [.restarted] := by
  by_cases h : ∃ r b, t.read? = some r ∧ r.result = .bytes b ∧ r.epoch = t.epoch
  · obtain ⟨⟨offset, epoch, result⟩, b, hread, rfl, rfl⟩ := h
    exact Or.inl ⟨offset, b, hread, close_current hread rfl rfl now⟩
  · right
    apply close_other
    intro r b hread hresult hepoch
    exact h ⟨r, b, hread, hresult, hepoch⟩

theorem close_acted (now : Nat) (t : Tailer) :
    Acted now t t.closeActs (t.close now).1 (t.close now).2 := by
  rcases t.close_cases now with ⟨offset, b, _, heq, hacts⟩ | ⟨heq, hacts⟩
  · rw [heq, hacts]
    exact (consume_acted now t b).trans (release_acted now _)
  · rw [heq, hacts]
    exact release_acted now t

/-- A read that came to nothing leaves nothing behind. -/
theorem close_without {file : FileId} {r : Read} {reader : Reader}
    (hopen : t.opened = some ⟨file, .busy r⟩) (hresult : ∀ b, r.result ≠ .bytes b)
    (hreader : ∀ r', reader ≠ .busy r') (now : Nat) :
    { t with opened := some ⟨file, reader⟩ }.close now = t.close now ∧
      t.closeActs = [.restarted] := by
  have hnone : { t with opened := some ⟨file, reader⟩ }.read? = none := by
    cases reader with
    | busy r' => exact absurd rfl (hreader r')
    | idle => rfl
    | lost => rfl
  have hread : t.read? = some r := by
    rw [read?, hopen]
  have hafter : { t with opened := some ⟨file, reader⟩ }.close now =
      { t with opened := some ⟨file, reader⟩ }.release now := by
    rw [close, hnone]
    rfl
  have hbefore : t.close now = t.release now ∧ t.closeActs = [.restarted] := by
    apply close_other
    intro r' b h hb
    rw [hread] at h
    cases h
    exact absurd hb (hresult b)
  refine ⟨?_, hbefore.2⟩
  rw [hafter, hbefore.1]
  rfl

end Tailer

end LogCourier
