import LogCourier.Proofs.Agent.Runs
import LogCourier.Proofs.Settings.Check

/-!
# Two views of the statistics

The statistics of a source are looked for among the tailers, and the first tailer that has the
source's id is the one that counts.  All statistics together are a map, and there the last one
counts.  The two views agree because the check lets no id occur twice and a tailer keeps its source
for good (`Running.run_new_agrees`).
-/

namespace LogCourier

namespace Agent

/-! ## Tailers with different ids -/

variable {a : Agent}

/-- Each tailer is found under its id. -/
theorem status?_of_mem (h : (a.tailers.map fun t => t.source.id).Nodup) {t : Tailer}
    (ht : t ∈ a.tailers) : a.status? t.source.id = some t.status := by
  have hfound : a.tailers.find? (·.source.id == t.source.id) = some t := by
    cases hfind : a.tailers.find? (·.source.id == t.source.id) with
    | none => simpa using List.find?_eq_none.mp hfind t ht
    | some t' =>
      have hid : t'.source.id = t.source.id := by simpa using List.find?_some hfind
      rw [List.inj_on_of_nodup_map h (List.mem_of_find?_eq_some hfind) ht hid]
  rw [status?, hfound]
  rfl

theorem status?_isSome_iff (id : String) :
    (a.status? id).isSome ↔ id ∈ a.tailers.map fun t => t.source.id := by
  rw [status?, Option.isSome_map, List.find?_isSome, List.mem_map]
  simp only [beq_iff_eq]

theorem pairwise_entries (h : (a.tailers.map fun t => t.source.id).Nodup) :
    (a.tailers.map fun t => (t.source.id, t.status)).Pairwise fun x y =>
      ¬compare x.1 y.1 = .eq := by
  rw [List.pairwise_map]
  refine (List.pairwise_map.mp h).imp ?_
  intro t t' hne heq
  exact hne (Std.LawfulEqCmp.eq_of_compare heq)

theorem mem_snapshot_iff (id : String) :
    id ∈ a.snapshot.tailers ↔ id ∈ a.tailers.map fun t => t.source.id := by
  rw [snapshot, Std.TreeMap.mem_ofList, List.contains_iff_mem, List.map_map]
  rfl

theorem getElem?_snapshot_of_mem (h : (a.tailers.map fun t => t.source.id).Nodup) {t : Tailer}
    (ht : t ∈ a.tailers) : a.snapshot.tailers[t.source.id]? = some t.status :=
  Std.TreeMap.getElem?_ofList_of_mem Std.ReflCmp.compare_self (pairwise_entries h)
    (List.mem_map.mpr ⟨t, ht, rfl⟩)

theorem status?_eq_getElem? (h : (a.tailers.map fun t => t.source.id).Nodup) (id : String) :
    a.status? id = a.snapshot.tailers[id]? := by
  by_cases hid : id ∈ a.tailers.map fun t => t.source.id
  · obtain ⟨t, ht, rfl⟩ := List.mem_map.mp hid
    rw [status?_of_mem h ht, getElem?_snapshot_of_mem h ht]
  · have hnone : a.status? id = none := by
      rw [← Option.not_isSome_iff_eq_none, status?_isSome_iff]
      exact hid
    rw [hnone, Std.TreeMap.getElem?_eq_none]
    rwa [mem_snapshot_iff]

/-- The views of an agent that follows these sources. -/
structure Agrees (a : Agent) (sources : List Source) : Prop where
  /-- There is one tailer for each source. -/
  tailers : a.tailers.map Tailer.source = sources
  size : a.snapshot.tailers.size = sources.length
  mem : ∀ id, id ∈ a.snapshot.tailers ↔ id ∈ sources.map Source.id
  isSome : ∀ id, (a.status? id).isSome ↔ id ∈ sources.map Source.id
  agree : ∀ id, a.status? id = a.snapshot.tailers[id]?
  /-- What is found under the id of a source is the phase that its own tailer is in, and all that
  this tailer has counted. -/
  own : ∀ (index : Nat) (source : Source), sources[index]? = some source →
    ∃ t, a.tailers[index]? = some t ∧ t.source = source ∧
      a.status? source.id = some
        { phase := t.phase
          stats :=
            { bytesRead := t.stats.bytesRead
              counters := t.stats.counters
              openAttempts := t.stats.openAttempts
              reopens := t.stats.reopens
              truncations := t.stats.truncations } }

theorem agrees_of_nodup {sources : List Source} (htailers : a.tailers.map Tailer.source = sources)
    (hdistinct : (sources.map Source.id).Nodup) : a.Agrees sources := by
  have hids : sources.map Source.id = a.tailers.map fun t => t.source.id := by
    rw [← htailers, List.map_map]
    rfl
  rw [hids] at hdistinct
  refine ⟨htailers, ?size, ?mem, ?isSome, status?_eq_getElem? hdistinct, ?own⟩
  case size =>
    rw [snapshot, Std.TreeMap.size_ofList (pairwise_entries hdistinct), List.length_map, ← htailers,
      List.length_map]
  case mem =>
    rw [hids]
    exact mem_snapshot_iff
  case isSome =>
    rw [hids]
    exact status?_isSome_iff
  case own =>
    intro index source hsource
    rw [← htailers, List.getElem?_map, Option.map_eq_some_iff] at hsource
    obtain ⟨t, ht, rfl⟩ := hsource
    exact ⟨t, ht, rfl, status?_of_mem hdistinct (List.mem_of_getElem? ht)⟩

/-- Under an id that occurs twice, each view shows another tailer. -/
example :
    let t : Tailer := .new {} ⟨"web", "/log"⟩
    let a : Agent := { new ⟨[]⟩ {} with tailers := [t, { t with phase := .stopped }] }
    (a.status? "web").map TailerStatus.phase = some .opening ∧
      (a.snapshot.tailers["web"]?).map TailerStatus.phase = some .stopped := by
  decide

end Agent

namespace Running

/-! ## Every run -/

/-- In every state that an agent with settings that pass the check can come to, there are statistics
for each configured id and for no other one, and both views show the same ones: those of the tailer
of this source. -/
theorem run_new_agrees (files : FileSystem) (runId : RunId) {s : Settings} (hs : s.check = .ok ())
    (events : List (Clock × Nat × AgentEvent)) :
    (run ⟨files, .new runId s⟩ events).agent.Agrees s.sources := by
  exact Agent.agrees_of_nodup (run_new_sources files runId s events)
    (Settings.check_eq_ok_iff.mp hs).distinct

/-- One source is followed, and what it has counted is not what the other one has, whose path leads
nowhere. -/
theorem run_new_agrees_sample :
    let s : Settings := { sources := [⟨"web", "/log"⟩, ⟨"db", "/none"⟩] }
    let r := run ⟨⟨#[.directory, .file []], [([], 0), (["log"], 1)], []⟩, .new ⟨[]⟩ s⟩
      [(⟨""⟩, 0, .tailer 0 .attempt), (⟨""⟩, 0, .tailer 1 .attempt),
        (⟨""⟩, 0, .tailer 0 (.notice .changed)), (⟨""⟩, 1, .tailer 0 .complete),
        (⟨""⟩, 2, .change (.append "/log" [97, 10])), (⟨""⟩, 2, .tailer 0 (.notice .changed)),
        (⟨""⟩, 3, .tailer 0 .complete), (⟨""⟩, 3, .tailer 1 .attempt)]
    s.check = .ok () ∧ r.agent.Agrees s.sources ∧
      r.agent.status? "web" =
        some ⟨.watching,
          { bytesRead := 2, counters := { lines := 1, emitted := 1 }, openAttempts := 1 }⟩ ∧
      r.agent.status? "db" = some ⟨.retryWait, { openAttempts := 2 }⟩ :=
  ⟨by decide, run_new_agrees _ _ (by decide) _, by decide, by decide⟩

end Running

end LogCourier
