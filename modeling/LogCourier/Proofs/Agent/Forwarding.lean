import LogCourier.Proofs.Agent.Runs
import LogCourier.Proofs.Delivery.Queue
import LogCourier.Proofs.Tailer.AppendOnly
import LogCourier.Proofs.Tailer.Regular
import LogCourier.Proofs.Wire.Decoding

/-!
# Exactly once and in order

While the file of a tailer is only appended to, the agent hands the records of what is appended to
its transport, each once and in the order of the file.
-/

namespace LogCourier

open PipelineCall

def FollowStep.agent (index : Nat) : FollowStep → AgentEvent
  | .append path data => .change (.append path data)
  | .look => .tailer index (.notice .changed)
  | .complete => .tailer index .complete

namespace Tailing

/-- What a tailer passes on in each step, with the clock that its records show. -/
def passed (s : Tailing) : List (Clock × Nat × FollowStep) → List (Clock × List Message)
  | [] => []
  | e :: steps =>
    (e.1, (s.step e.2.1 e.2.2.tailing).2) :: passed (s.step e.2.1 e.2.2.tailing).1 steps

theorem map_fst_passed (s : Tailing) (steps : List (Clock × Nat × FollowStep)) :
    (s.passed steps).map Prod.fst = steps.map Prod.fst := by
  induction steps generalizing s with
  | nil => rfl
  | cons e steps ih => rw [passed, List.map_cons, List.map_cons, ih]

theorem flatMap_snd_passed (s : Tailing) (steps : List (Clock × Nat × FollowStep)) :
    (s.passed steps).flatMap Prod.snd = (s.run (follows (steps.map Prod.snd))).2 := by
  induction steps generalizing s with
  | nil => rfl
  | cons e steps ih =>
    rw [passed, List.flatMap_cons, ih, List.map_cons, follows_cons, run_cons]

end Tailing

namespace Settings

/-- The record of a message of a source: `<PRIORITY>TIMESTAMP SOURCE IDENTIFIER BODY` and
a newline. -/
def record (s : Settings) (source : Source) (clock : Clock) (m : Message) : Bytes :=
  Bytes.ofText ("<" ++ toString (s.facility.code * 8 + s.severity.code) ++ ">" ++
      clock.now ++ " " ++ source.id ++ " " ++ s.identifier ++ " ") ++
    (match m with
      | .line b => b
      | .repeated n => Bytes.ofText ("previous message repeated " ++ toString n ++ " times")
      | .suppressed n => Bytes.ofText ("suppressed " ++ toString n ++ " messages")) ++
    [newline]

/-- The records of what a tailer passes on. -/
def records (s : Settings) (source : Source) (passed : List (Clock × List Message)) : List Bytes :=
  passed.flatMap fun p => p.2.map (s.record source p.1)

theorem length_records (s : Settings) (source : Source) (passed : List (Clock × List Message)) :
    (s.records source passed).length = (passed.flatMap Prod.snd).length := by
  induction passed with
  | nil => rfl
  | cons p passed ih =>
    rw [records, List.flatMap_cons, List.length_append, List.length_map, List.flatMap_cons,
      List.length_append, ← ih, records]

end Settings

theorem Tailer.record_formatter (t : Tailer) (s : Settings) (clock : Clock) :
    t.record s.formatter clock = s.record t.source clock := by
  funext m
  cases m <;> rfl

namespace Running

/-- Steps around the tailer at a place, as events of the agent. -/
def followed (index : Nat) (steps : List (Clock × Nat × FollowStep)) :
    List (Clock × Nat × AgentEvent) :=
  steps.map fun e => (e.1, e.2.1, e.2.2.agent index)

/-! ## One tailer of an agent -/

variable {settings : Settings} {r : Running} {index : Nat} {file : FileId} {t : Tailer}

theorem step_tailer (ht : r.agent.tailers[index]? = some t)
    (hformatter : r.agent.formatter = settings.formatter) (clock : Clock) (now : Nat)
    (e : TailingEvent) :
    (r.step clock now (.tailer index e)).files = (Tailing.step ⟨r.files, t⟩ now e).1.files ∧
      (r.step clock now (.tailer index e)).agent.tailers[index]? =
        some (Tailing.step ⟨r.files, t⟩ now e).1.tailer ∧
      (r.step clock now (.tailer index e)).agent.transport = r.agent.transport.submitAll
        ((Tailing.step ⟨r.files, t⟩ now e).2.map (settings.record t.source clock)) ∧
      r.acts index (.tailer index e) = Tailing.acts ⟨r.files, t⟩ e := by
  have hsource : (Tailing.step ⟨r.files, t⟩ now e).1.tailer.source = t.source :=
    (Tailing.step_acted ⟨r.files, t⟩ now e).settings.1
  have hlt : index < r.agent.tailers.length := (List.getElem?_eq_some_iff.mp ht).1
  rw [step, acts, ht]
  refine ⟨rfl, List.getElem?_set_self hlt, ?_, if_pos rfl⟩
  rw [← hsource, ← Tailer.record_formatter, ← hformatter]
  rfl

theorem step_follow (ht : r.agent.tailers[index]? = some t)
    (hformatter : r.agent.formatter = settings.formatter) (clock : Clock) (now : Nat)
    (e : FollowStep) :
    (r.step clock now (e.agent index)).files =
        (Tailing.step ⟨r.files, t⟩ now e.tailing).1.files ∧
      (r.step clock now (e.agent index)).agent.tailers[index]? =
        some (Tailing.step ⟨r.files, t⟩ now e.tailing).1.tailer ∧
      (r.step clock now (e.agent index)).agent.transport = r.agent.transport.submitAll
        ((Tailing.step ⟨r.files, t⟩ now e.tailing).2.map (settings.record t.source clock)) ∧
      r.acts index (e.agent index) = Tailing.acts ⟨r.files, t⟩ e.tailing := by
  cases e with
  | append path data => exact ⟨rfl, ht, (r.agent.transport.submitAll_nil).symm, rfl⟩
  | look => exact step_tailer ht hformatter clock now _
  | complete => exact step_tailer ht hformatter clock now _

theorem run_follow (ht : r.agent.tailers[index]? = some t)
    (hformatter : r.agent.formatter = settings.formatter)
    (steps : List (Clock × Nat × FollowStep)) :
    (r.run (followed index steps)).files =
        (Tailing.run ⟨r.files, t⟩ (Tailing.follows (steps.map Prod.snd))).1.files ∧
      (r.run (followed index steps)).agent.tailers[index]? =
        some (Tailing.run ⟨r.files, t⟩ (Tailing.follows (steps.map Prod.snd))).1.tailer ∧
      (r.run (followed index steps)).agent.transport = r.agent.transport.submitAll
        (settings.records t.source (Tailing.passed ⟨r.files, t⟩ steps)) ∧
      r.history index (followed index steps) =
        Tailing.history ⟨r.files, t⟩ (Tailing.follows (steps.map Prod.snd)) := by
  induction steps generalizing r t with
  | nil => exact ⟨rfl, ht, (r.agent.transport.submitAll_nil).symm, rfl⟩
  | cons e steps ih =>
    obtain ⟨clock, now, e⟩ := e
    obtain ⟨hfiles, ht', htransport, hacts⟩ := step_follow ht hformatter clock now e
    obtain ⟨hlast, htailer, hsent, hhistory⟩ := ih ht' ((r.step_formatter _ _ _).trans hformatter)
    rw [hfiles] at hlast htailer hsent hhistory
    rw [followed, List.map_cons, run_cons, List.map_cons, Tailing.follows_cons, Tailing.run_cons]
    refine ⟨hlast, htailer, ?_, ?_⟩
    · have hsource : (Tailing.step ⟨r.files, t⟩ now e.tailing).1.tailer.source = t.source :=
        (Tailing.step_acted ⟨r.files, t⟩ now e.tailing).settings.1
      rw [htransport, hsource, ← Transport.submitAll_append] at hsent
      exact hsent
    · rw [history, hacts]
      exact congrArg (Tailing.acts ⟨r.files, t⟩ e.tailing ++ ·) hhistory

/-! ## Following one file -/

/-- The bytes that a tailer feeds in a run. -/
def fed (r : Running) (index : Nat) (events : List (Clock × Nat × AgentEvent)) : Bytes :=
  (r.history index events).flatMap TailerAct.bytes

/-- The messages that the bytes come to which a tailer feeds in a run. -/
def produced (settings : Settings) (r : Running) (index : Nat)
    (events : List (Clock × Nat × AgentEvent)) : List Message :=
  encoding (max settings.repeatThreshold 1) false (r.fed index events)

/-- In a run of an agent with these settings, the tailer at this place has just opened the file. -/
structure Entered (settings : Settings) (index : Nat) (file : FileId) (r : Running) (t : Tailer) :
    Prop where
  tailer : r.agent.tailers[index]? = some t
  opened : t.opened = some { file }
  reached : ∃ files runId past clock now t₀,
    (run ⟨files, .new runId settings⟩ past).agent.tailers[index]? = some t₀ ∧
      t₀.opened = none ∧
      r = (run ⟨files, .new runId settings⟩ past).step clock now (.tailer index .attempt)

/-- The state of an agent after steps around a tailer that had just opened a file, of which `before`
is what stood in it then. -/
structure Forwarded (settings : Settings) (r : Running) (index : Nat) (file : FileId) (t : Tailer)
    (before : Bytes) (steps : List (Clock × Nat × FollowStep)) (t' : Tailer) (content : Bytes) :
    Prop where
  tailer : (r.run (followed index steps)).agent.tailers[index]? = some t'
  content_eq : (r.run (followed index steps)).files.content? file = some content
  /-- From the first look on, wherever the tailer was in an earlier file. -/
  looked_offset_le : (∃ e ∈ steps, e.2.2 = .look) → t'.offset ≤ content.length
  /-- All the time, unless the tailer was farther in an earlier file than this one is long. -/
  offset_le : t.offset ≤ before.length → t'.offset ≤ content.length
  epoch : t'.epoch = t.epoch
  unlooked : (∀ e ∈ steps, e.2.2 ≠ .look) →
    t'.offset = t.offset ∧ r.history index (followed index steps) = []
  /-- After the first look nothing happens but that bytes are fed: those that stand in the file from
  its size at that look up to the offset. -/
  looked : ∀ upto e after, steps = upto ++ e :: after → (∀ e ∈ upto, e.2.2 ≠ .look) →
    e.2.2 = .look →
      let start := (r.run (followed index upto)).files.size file
      start ≤ t'.offset ∧
        (∃ chunks : List Bytes, r.history index (followed index steps) =
          .skipped start :: chunks.map .fed) ∧
        r.fed index (followed index steps) = (content.drop start).take (t'.offset - start)
  source : settings.sources[index]? = some t.source
  /-- Each step hands over the records of what it adds to the encoding of the bytes, with
  its clock. -/
  queued : ∃ passed : List (Clock × List Message),
    passed.map Prod.fst = steps.map Prod.fst ∧
      passed.flatMap Prod.snd = r.produced settings index (followed index steps) ∧
      (r.run (followed index steps)).agent.transport.queue.items =
        r.agent.transport.queue.items ++
          passed.flatMap fun p => p.2.map (settings.record t.source p.1)

theorem Entered.formatter (h : r.Entered settings index file t) :
    r.agent.formatter = settings.formatter := by
  obtain ⟨_, runId, _, _, _, _, _, _, rfl⟩ := h.reached
  rw [step_formatter, run_formatter, Settings.formatter_new]

/-- The tailer follows the source that is configured at its place. -/
theorem Entered.source (h : r.Entered settings index file t) :
    settings.sources[index]? = some t.source := by
  obtain ⟨files, runId, past, _, _, _, _, _, hr⟩ := h.reached
  rw [← run_new_sources files runId settings past, ← step_sources _ _ _ _, ← hr, List.getElem?_map,
    h.tailer]
  rfl

theorem Entered.exists_waiting (h : r.Entered settings index file t) {before : Bytes}
    (hbefore : r.files.content? file = some before) :
    ∃ t₀ : Tailer, t₀.Regular settings ∧ t₀.opened = none ∧ t = t₀.entered file ∧
      Tailing.Waiting ⟨r.files, t⟩ file t₀ before := by
  obtain ⟨files, runId, past, clock, now, t₀, ht₀, hclosed, rfl⟩ := h.reached
  have hregular : t₀.Regular settings := by
    refine run_tailers (P := fun t => t.Regular settings)
      (fun s now e hs => s.step_regular now e hs) ?_ past t₀ (List.mem_of_getElem? ht₀)
    intro t ht
    obtain ⟨source, _, rfl⟩ := List.mem_map.mp ht
    exact Tailer.regular_new settings source
  have hformatter : (run ⟨files, .new runId settings⟩ past).agent.formatter = settings.formatter :=
    run_formatter _ past
  obtain ⟨hfiles, htailer, _⟩ := step_tailer ht₀ hformatter clock now .attempt
  have hsame := h.tailer
  rw [htailer] at hsame
  obtain rfl := Option.some.inj hsame
  obtain ⟨hentered, hfile⟩ := (Tailing.step_move ⟨_, t₀⟩ now .attempt).entered hclosed h.opened
  rw [hentered] at hfiles ⊢
  rw [hfiles] at hbefore ⊢
  exact ⟨t₀, hregular, hclosed, rfl, rfl, hfile, [], by rw [List.append_nil]; exact hbefore⟩

/-- Before the first look nothing happens. -/
theorem Entered.run_unlooked (h : r.Entered settings index file t) {before : Bytes}
    (hbefore : r.files.content? file = some before) {steps : List (Clock × Nat × FollowStep)}
    (hsteps : ∀ e ∈ steps, e.2.2 ≠ .look) :
    (r.run (followed index steps)).agent.tailers[index]? = some t ∧
      (∃ more, (r.run (followed index steps)).files.content? file = some (before ++ more)) ∧
      r.history index (followed index steps) = [] := by
  obtain ⟨t₀, _, _, rfl, hwaiting⟩ := h.exists_waiting hbefore
  obtain ⟨hfiles, htailer, _, hhistory⟩ := run_follow h.tailer h.formatter steps
  have hnone : ∀ e ∈ steps.map Prod.snd, e.2 ≠ .look := List.forall_mem_map.mpr hsteps
  obtain ⟨hlast, hnothing⟩ := hwaiting.run hnone
  rw [hlast.tailer] at htailer
  rw [hnothing] at hhistory
  exact ⟨htailer, hfiles ▸ hlast.content, hhistory⟩

/-- From the first look on, the tailer follows the file. -/
theorem Entered.run_looked (h : r.Entered settings index file t) {before : Bytes}
    (hbefore : r.files.content? file = some before)
    {upto after : List (Clock × Nat × FollowStep)} {e : Clock × Nat × FollowStep}
    (hupto : ∀ e ∈ upto, e.2.2 ≠ .look) (he : e.2.2 = .look)
    (hkeeps : ∀ steps, steps <+: upto ++ e :: after → settings.truncateLimit = 0 ∨
      (r.run (followed index steps)).files.size file ≤ settings.truncateLimit) :
    ∃ (t' : Tailer) (content : Bytes) (chunks : List Bytes),
      (r.run (followed index (upto ++ e :: after))).agent.tailers[index]? = some t' ∧
        Tailing.Following ⟨(r.run (followed index (upto ++ e :: after))).files, t'⟩ file
          ((r.run (followed index upto)).files.size file) t.epoch content chunks.flatten ∧
        r.history index (followed index (upto ++ e :: after)) =
          .skipped ((r.run (followed index upto)).files.size file) :: chunks.map .fed := by
  obtain ⟨clock, now, e⟩ := e
  obtain rfl : e = .look := he
  obtain ⟨t₀, hregular, _, rfl, hwaiting⟩ := h.exists_waiting hbefore
  obtain ⟨hfiles, htailer, _, hhistory⟩ :=
    run_follow h.tailer h.formatter (upto ++ (clock, now, .look) :: after)
  have hkept (steps : List (Nat × FollowStep))
      (hsteps : steps <+: (upto ++ (clock, now, .look) :: after).map Prod.snd) :
      Tailing.Keeps t₀.truncateLimit
        ((Tailing.run ⟨r.files, t₀.entered file⟩ (Tailing.follows steps)).1.files.size file) := by
    obtain ⟨steps, hle, rfl⟩ := List.prefix_map_iff.mp hsteps
    have hsize := hkeeps steps hle
    rwa [(run_follow h.tailer h.formatter steps).1, ← hregular.truncateLimit] at hsize
  rw [htailer, hfiles, hhistory, (run_follow h.tailer h.formatter upto).1]
  rw [List.map_append, List.map_cons] at hkept ⊢
  have hnone : ∀ e ∈ upto.map Prod.snd, e.2 ≠ .look := List.forall_mem_map.mpr hupto
  obtain ⟨content, chunks, hlast, hfeeds⟩ := hwaiting.run_look hnone hkept
  exact ⟨_, content, chunks, rfl, hlast, hfeeds⟩

/-- With room for them, the records of what is fed are queued, if nothing else is done than
to feed. -/
theorem Entered.exists_queued (h : r.Entered settings index file t) {before : Bytes}
    (hbefore : r.files.content? file = some before)
    (hready : r.agent.transport.queue.ready = true)
    (hopen : r.agent.transport.queue.closed = false)
    {steps : List (Clock × Nat × FollowStep)} (chunks : List Bytes)
    (hcalls : (r.history index (followed index steps)).filterMap TailerAct.call? =
      chunks.map .feed)
    (hfed : r.fed index (followed index steps) = chunks.flatten)
    (hlimit : t.stats.counters.emitted + (r.produced settings index (followed index steps)).length <
      settings.rateLimit)
    (hcapacity : r.agent.transport.queue.items.length +
      (r.produced settings index (followed index steps)).length ≤
        r.agent.transport.queue.capacity) :
    ∃ passed : List (Clock × List Message), passed.map Prod.fst = steps.map Prod.fst ∧
      passed.flatMap Prod.snd = r.produced settings index (followed index steps) ∧
      (r.run (followed index steps)).agent.transport.queue.items =
        r.agent.transport.queue.items ++ settings.records t.source passed := by
  obtain ⟨t₀, hregular, hclosed, rfl, _⟩ := h.exists_waiting hbefore
  obtain ⟨_, _, htransport, hhistory⟩ := run_follow h.tailer h.formatter steps
  have hproduced : r.produced settings index (followed index steps) =
      encoding t₀.pipeline.threshold false chunks.flatten := by
    rw [produced, hfed, hregular.threshold]
  have hroom : t₀.pipeline.counters.emitted +
      (encoding t₀.pipeline.threshold false chunks.flatten).length < t₀.pipeline.limiter.limit := by
    rwa [← hproduced, ← hregular.counters, hregular.limit]
  rw [hhistory] at hcalls
  have hout := Tailing.run_eq_encoding (s := ⟨r.files, t₀.entered file⟩) (hregular.fresh hclosed)
    hregular.sparing hcalls hroom
  have hpassed : (Tailing.passed ⟨r.files, t₀.entered file⟩ steps).flatMap Prod.snd =
      r.produced settings index (followed index steps) := by
    rw [Tailing.flatMap_snd_passed, hout, hproduced]
    rfl
  refine ⟨Tailing.passed ⟨r.files, t₀.entered file⟩ steps, Tailing.map_fst_passed _ _, hpassed, ?_⟩
  rw [htransport, Transport.queue_submitAll,
    DeliveryQueue.submitAll_of_room hready hopen (by rwa [Settings.length_records, hpassed])]

theorem exists_first_look {steps : List (Clock × Nat × FollowStep)}
    (h : ∃ e ∈ steps, e.2.2 = .look) :
    ∃ upto e after, steps = upto ++ e :: after ∧ (∀ e ∈ upto, e.2.2 ≠ .look) ∧ e.2.2 = .look := by
  obtain ⟨e, he, hlook⟩ := h
  have hfound : (steps.find? fun e => e.2.2 = .look).isSome := by
    rw [List.find?_isSome]
    exact ⟨e, he, by simpa using hlook⟩
  obtain ⟨first, hfirst⟩ := Option.isSome_iff_exists.mp hfound
  obtain ⟨hlook', upto, after, hsteps, hupto⟩ := List.find?_eq_some_iff_append.mp hfirst
  refine ⟨upto, first, after, hsteps, ?_, by simpa using hlook'⟩
  intro e he
  simpa using hupto e he

/-- A tailer that has just opened a regular file forwards exactly what is appended to it after the
first look, once and in its order, however appends, looks and the ends of reads follow each other:
the rate limit and the queue have to leave room for what the bytes come to, and the file must not
get so large that it is to be emptied. -/
theorem run_follow_forwards (h : r.Entered settings index file t) {before : Bytes}
    (hbefore : r.files.content? file = some before)
    (hready : r.agent.transport.queue.ready = true)
    (hopen : r.agent.transport.queue.closed = false)
    (steps : List (Clock × Nat × FollowStep))
    (hkeeps : ∀ upto, upto <+: steps → settings.truncateLimit = 0 ∨
      (r.run (followed index upto)).files.size file ≤ settings.truncateLimit)
    (hlimit : t.stats.counters.emitted + (r.produced settings index (followed index steps)).length <
      settings.rateLimit)
    (hcapacity : r.agent.transport.queue.items.length +
      (r.produced settings index (followed index steps)).length ≤
        r.agent.transport.queue.capacity) :
    ∃ t' content, r.Forwarded settings index file t before steps t' content := by
  by_cases hlook : ∃ e ∈ steps, e.2.2 = .look
  case neg =>
    have hnone : ∀ e ∈ steps, e.2.2 ≠ .look := fun e he heq => hlook ⟨e, he, heq⟩
    obtain ⟨htailer, ⟨more, hcontent⟩, hhistory⟩ := h.run_unlooked hbefore hnone
    refine ⟨t, before ++ more, htailer, hcontent, fun hlooked => absurd hlooked hlook, ?offset, rfl,
      fun _ => ⟨rfl, hhistory⟩, ?looked, h.source, ?queued⟩
    case offset =>
      intro hle
      rw [List.length_append]
      exact Nat.le_trans hle (Nat.le_add_right _ _)
    case looked =>
      rintro upto e after rfl _ he
      exact absurd he (hnone e (by simp))
    case queued =>
      refine h.exists_queued hbefore hready hopen [] ?_ ?_ hlimit hcapacity
      · rw [hhistory]
        rfl
      · rw [fed, hhistory]
        rfl
  case pos =>
    obtain ⟨upto, e, after, rfl, hupto, he⟩ := exists_first_look hlook
    obtain ⟨t', content, chunks, htailer, hlast, hfeeds⟩ := h.run_looked hbefore hupto he hkeeps
    refine ⟨t', content, htailer, hlast.content_eq, fun _ => hlast.offset_le,
      fun _ => hlast.offset_le, hlast.epoch_eq, ?unlooked, ?looked, h.source, ?queued⟩
    case unlooked => exact fun hnone => absurd he (hnone e (by simp))
    case looked =>
      intro upto' e' after' hsteps hupto' he' start
      rw [hsteps] at hkeeps
      obtain ⟨t'', content', chunks', htailer', hlast', hfeeds'⟩ :=
        h.run_looked hbefore hupto' he' hkeeps
      rw [← hsteps] at htailer' hlast' hfeeds'
      obtain rfl : t' = t'' := Option.some.inj (htailer.symm.trans htailer')
      obtain rfl : content = content' :=
        Option.some.inj (hlast.content_eq.symm.trans hlast'.content_eq)
      refine ⟨hlast'.start_le, ⟨chunks', hfeeds'⟩, ?_⟩
      rw [fed, hfeeds', List.flatMap_cons, TailerAct.flatMap_bytes_fed]
      exact hlast'.fed_eq
    case queued =>
      refine h.exists_queued hbefore hready hopen chunks ?_ ?_ hlimit hcapacity
      · rw [hfeeds]
        exact TailerAct.filterMap_call?_fed chunks
      · rw [fed, hfeeds, List.flatMap_cons, TailerAct.flatMap_bytes_fed]
        rfl

/-- A line that is there at the first look is left alone, and one that is appended while a read is
under way goes out behind the one that the read was for. -/
theorem run_follow_forwards_sample :
    let s : Settings := { sources := [⟨"app", "/log"⟩], truncateLimit := 0 }
    let fs : FileSystem := ⟨#[.directory, .file [120, 10]], [([], 0), (["log"], 1)], []⟩
    let r := (run ⟨fs, .new ⟨[]⟩ s⟩ [(⟨""⟩, 0, .transport (.attempt (.ok ())))]).step ⟨""⟩ 0
      (.tailer 0 .attempt)
    let steps : List (Clock × Nat × FollowStep) :=
      [(⟨""⟩, 0, .look), (⟨""⟩, 1, .complete), (⟨""⟩, 2, .append "/log" [97, 10]), (⟨""⟩, 3, .look),
        (⟨""⟩, 4, .append "/log" [98, 10]), (⟨""⟩, 5, .look), (⟨""⟩, 6, .complete),
        (⟨""⟩, 7, .look), (⟨""⟩, 8, .complete)]
    r.produced s 0 (followed 0 steps) = [.line [97], .line [98]] ∧
      ∃ t t' content, r.Forwarded s 0 1 t [120, 10] steps t' content := by
  intro s fs r steps
  refine ⟨by decide, (Tailer.new s ⟨"app", "/log"⟩).entered 1, ?_⟩
  exact run_follow_forwards ⟨by decide, rfl, fs, ⟨[]⟩, _, ⟨""⟩, 0, _, rfl, rfl, rfl⟩
    rfl rfl rfl steps (fun _ _ => Or.inl rfl) (by decide) (by decide)

/-- A tailer comes to a shorter file with the offset that it had in the one before, and until it
looks at the file it stands beyond the file's end: it has read four bytes of a file that was
replaced by one of a single byte, and another byte is appended. -/
theorem entered_beyond_end :
    let s : Settings := { sources := [⟨"app", "/log"⟩], truncateLimit := 0 }
    let fs : FileSystem := ⟨#[.directory, .file []], [([], 0), (["log"], 1)], []⟩
    let past : List (Clock × Nat × AgentEvent) :=
      [(⟨""⟩, 0, .transport (.attempt (.ok ()))), (⟨""⟩, 0, .tailer 0 .attempt),
        (⟨""⟩, 0, .tailer 0 (.notice .changed)), (⟨""⟩, 1, .tailer 0 .complete),
        (⟨""⟩, 2, .change (.append "/log" [97, 97, 97, 10])),
        (⟨""⟩, 2, .tailer 0 (.notice .changed)), (⟨""⟩, 3, .tailer 0 .complete),
        (⟨""⟩, 4, .change (.replace "/log" [98])), (⟨""⟩, 4, .tailer 0 (.notice .changed))]
    let r := (run ⟨fs, .new ⟨[]⟩ s⟩ past).step ⟨""⟩ 4 (.tailer 0 .attempt)
    let steps : List (Clock × Nat × FollowStep) := [(⟨""⟩, 5, .append "/log" [99])]
    ∃ t t' : Tailer, r.Entered s 0 2 t ∧ r.agent.transport.queue.ready = true ∧
      r.agent.transport.queue.closed = false ∧ r.produced s 0 (followed 0 steps) = [] ∧
      (r.run (followed 0 steps)).agent.tailers[0]? = some t' ∧
      (r.run (followed 0 steps)).files.content? 2 = some [98, 99] ∧
      ¬ t'.offset ≤ [98, 99].length := by
  intro s fs past r steps
  have hsame (r : Running) : (r.run (followed 0 steps)).agent = r.agent := rfl
  have hopened : (r.agent.tailers[0]?.bind (·.opened)) = some { file := 2 } := by decide
  have hoffset : (r.agent.tailers[0]?.map (·.offset)) = some 4 := by decide
  have hclosed : ((run ⟨fs, .new ⟨[]⟩ s⟩ past).agent.tailers[0]?.map (·.opened)) = some none := by
    decide
  obtain ⟨t, ht, htoffset⟩ := Option.map_eq_some_iff.mp hoffset
  obtain ⟨t₀, ht₀, hnone⟩ := Option.map_eq_some_iff.mp hclosed
  rw [ht] at hopened
  refine ⟨t, t, ⟨ht, hopened, fs, ⟨[]⟩, past, ⟨""⟩, 4, t₀, ht₀, hnone, rfl⟩, by decide, by decide,
    by decide, by rw [hsame, ht], by decide, ?_⟩
  rw [htoffset]
  decide

end Running

end LogCourier
