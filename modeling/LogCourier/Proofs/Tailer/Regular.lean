import LogCourier.Proofs.Pipeline.Transcript
import LogCourier.Proofs.Tailer.Moves

/-!
# What every tailer of an agent keeps

`Tailer.Regular` says what holds of a tailer at any time: it goes by the settings, its counters are
published, nothing has been refused below the rate limit, and a tailer without a file has a pipeline
that is as good as new.  With it, the messages of a run can be read off its acts
(`Tailing.run_eq_encoding`).
-/

namespace LogCourier

open PipelineCall

structure Tailer.Regular (settings : Settings) (t : Tailer) : Prop where
  truncateLimit : t.truncateLimit = settings.truncateLimit
  threshold : t.pipeline.threshold = max settings.repeatThreshold 1
  limit : t.pipeline.limiter.limit = settings.rateLimit
  sparing : t.pipeline.Sparing
  counters : t.stats.counters = t.pipeline.counters
  fresh : t.opened = none → t.pipeline.StandsAfter []

namespace Tailer

theorem regular_new (settings : Settings) (source : Source) :
    (new settings source).Regular settings where
  truncateLimit := rfl
  threshold := rfl
  limit := rfl
  sparing := Pipeline.sparing_new _ _ _
  counters := rfl
  fresh _ := Pipeline.new_standsAfter _ _ _

theorem close_fresh (now : Nat) (t : Tailer) : (t.close now).1.pipeline.StandsAfter [] := by
  have hrelease (t : Tailer) : (t.release now).1.pipeline.StandsAfter [] := by
    obtain ⟨_, hbuffer, hrun, _⟩ := t.pipeline.restart_eq now
    exact Pipeline.standsAfter_nil.mpr ⟨hbuffer, hrun⟩
  rcases t.close_cases now with ⟨_, b, _, heq, _⟩ | ⟨heq, _⟩
  · rw [heq]
    exact hrelease _
  · rw [heq]
    exact hrelease t

end Tailer

namespace Tailing

variable {s s' : Tailing} {now : Nat} {e : TailingEvent} {acts : List TailerAct}
  {out : List Message}

/-- A tailer is without a file only before it opens one and after it has let go of one. -/
theorem Move.fresh (h : s.Move now e acts s' out)
    (hs : s.tailer.opened = none → s.tailer.pipeline.StandsAfter [])
    (hclosed : s'.tailer.opened = none) : s'.tailer.pipeline.StandsAfter [] := by
  cases h with
  | changed | idle => exact hs hclosed
  | lost cause =>
    obtain ⟨opened, heq⟩ := s.tailer.loseRead_eq cause
    have hnone : s.tailer.opened = none := by
      rw [Tailer.loseRead] at hclosed
      split at hclosed
      · cases hclosed
      · exact hclosed
    rw [heq]
    exact hs hnone
  | unopened hnone => exact hs hnone
  | left => exact Tailer.close_fresh now _
  | looked hopen =>
    refine absurd hclosed (Tailer.startRead_ne_none ?_ _)
    rw [(s.tailer.observe_kept now _).1, hopen]
    exact Option.some_ne_none _
  | stale => exact absurd hclosed (Tailer.startRead_ne_none (Option.some_ne_none _) _)
  | full => exact absurd hclosed (Tailer.startRead_ne_none (Option.some_ne_none _) _)
  | opened | ended | blocked | emptied => cases hclosed

theorem step_regular {settings : Settings} (s : Tailing) (now : Nat) (e : TailingEvent)
    (h : s.tailer.Regular settings) : (s.step now e).1.tailer.Regular settings := by
  have hacted := s.step_acted now e
  have hkept := Pipeline.kept_run Pipeline.kept_call s.tailer.pipeline
    (TailerAct.calls now (s.acts e))
  rw [hacted.pipeline] at hkept
  exact ⟨hacted.settings.2.trans h.truncateLimit, hkept.threshold.trans h.threshold,
    hkept.limit.trans h.limit, hkept.sparing h.sparing, hacted.counters h.counters,
    (s.step_move now e).fresh h.fresh⟩

/-! ## The messages of a run -/

theorem exists_calls (s : Tailing) (events : List (Nat × TailingEvent)) :
    ∃ calls, calls.map Prod.snd = (s.history events).filterMap TailerAct.call? ∧
      Stage.run Pipeline.call s.tailer.pipeline calls =
        ((s.run events).1.tailer.pipeline, (s.run events).2) := by
  induction events generalizing s with
  | nil => exact ⟨[], rfl, rfl⟩
  | cons e events ih =>
    obtain ⟨calls, hcalls, hrun⟩ := ih (s.step e.1 e.2).1
    refine ⟨TailerAct.calls e.1 (s.acts e.2) ++ calls, ?_, ?_⟩
    · rw [List.map_append, TailerAct.map_snd_calls, hcalls, history, List.filterMap_append]
    · rw [Stage.run_append, (s.step_acted e.1 e.2).pipeline, hrun, run_cons]

/-- A run that does nothing but feed, on a pipeline that is as good as new, passes on the encoding
of what it feeds. -/
theorem run_eq_encoding {s : Tailing} (hs : s.tailer.pipeline.StandsAfter [])
    (hsparing : s.tailer.pipeline.Sparing) {events : List (Nat × TailingEvent)}
    {chunks : List Bytes}
    (hcalls : (s.history events).filterMap TailerAct.call? = chunks.map .feed)
    (hroom : s.tailer.pipeline.counters.emitted +
      (encoding s.tailer.pipeline.threshold false chunks.flatten).length <
        s.tailer.pipeline.limiter.limit) :
    (s.run events).2 = encoding s.tailer.pipeline.threshold false chunks.flatten := by
  obtain ⟨calls, hsnd, hrun⟩ := s.exists_calls events
  have hms : transcript s.tailer.pipeline.threshold ([] ++ calls.map Prod.snd) =
      transcript s.tailer.pipeline.threshold [] ++
        encoding s.tailer.pipeline.threshold false chunks.flatten := by
    rw [List.nil_append, hsnd, hcalls, transcript_feeds]
    rfl
  have hout := (hs.run_calls calls hms (n := 0) (hsparing.hasRoom hroom)).2.2
  rw [hrun] at hout
  exact hout

end Tailing

end LogCourier
