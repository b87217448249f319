import Mathlib.Data.List.SplitBy
import LogCourier.Pipeline.Run
import LogCourier.Stage

/-!
# The messages of a list of lines

The collapsing stage keeps the last line and a count.  Here the lines are given all at once and are
divided into maximal runs of equal lines, and the messages are read off these runs: the line, a
notice for every multiple of the threshold, and what the end of the run adds.  `LineRun.run_empty`
says that the stage gives these messages and stands where the last run stands.
-/

namespace LogCourier

namespace LineRun

/-- The maximal runs of equal lines that follow each other. -/
def runs (lines : List Bytes) : List (List Bytes) := lines.splitBy (· == ·)

/-- The notices of a run that has come this far: one for every multiple of the threshold. -/
def notices (threshold repeats : Nat) : List Message :=
  (List.range (repeats / threshold)).map fun j => .repeated ((j + 1) * threshold)

/-- The messages of a run before it ends. -/
def begun (threshold : Nat) : List Bytes → List Message
  | [] => []
  | line :: again => .line line :: notices threshold again.length

/-- What the end of a run adds: its line once more after a single repeat, a notice after several. -/
def settled : List Bytes → List Message
  | [] => []
  | [_] => []
  | [line, _] => [.line line]
  | _ :: again => [.repeated again.length]

/-- The messages of runs that follow each other; every run but the last has ended, and the last one
may have. -/
def messages (threshold : Nat) (ended : Bool) : List (List Bytes) → List Message
  | [] => []
  | [run] => begun threshold run ++ if ended then settled run else []
  | run :: next :: runs =>
    begun threshold run ++ settled run ++ messages threshold ended (next :: runs)

/-- Where the collapsing stage stands after some lines. -/
def ofLines (lines : List Bytes) : LineRun :=
  match (runs lines).getLast? with
  | none => {}
  | some run => { last := run.head?, repeats := run.length - 1 }

/-! ## One run -/

theorem notices_succ (threshold k : Nat) :
    notices threshold (k + 1) = notices threshold k ++
      if (k + 1) % threshold = 0 then [.repeated (k + 1)] else [] := by
  rw [notices, Nat.succ_div]
  by_cases h : threshold ∣ k + 1
  · have hk : (k / threshold + 1) * threshold = k + 1 := by
      have hdiv := Nat.succ_div (a := k) (b := threshold)
      rw [if_pos h] at hdiv
      rw [← hdiv, Nat.div_mul_cancel h]
    rw [if_pos h, if_pos (Nat.mod_eq_zero_of_dvd h), List.range_succ, List.map_append,
      List.map_singleton, hk]
    rfl
  · rw [if_neg h, if_neg (fun hmod => h (Nat.dvd_of_mod_eq_zero hmod)), List.append_nil]
    rfl

private theorem begun_replicate (threshold : Nat) (line : Bytes) (k : Nat) :
    begun threshold (List.replicate (k + 1) line) = .line line :: notices threshold k := by
  simp [List.replicate_succ, begun]

/-- The end of a run adds what is owed for it. -/
theorem settled_replicate (line : Bytes) (k : Nat) :
    settled (List.replicate (k + 1) line) = owed { last := some line, repeats := k } := by
  match k with
  | 0 => rfl
  | 1 => rfl
  | k + 2 => simp [List.replicate_succ, settled, owed]

/-! ## All runs -/

private theorem isChain_replicate (line : Bytes) (k : Nat) :
    (List.replicate k line).IsChain fun x y => (x == y) = true :=
  List.isChain_replicate_of_rel k (beq_self_eq_true line)

theorem runs_replicate (line : Bytes) (k : Nat) :
    runs (List.replicate (k + 1) line) = [List.replicate (k + 1) line] :=
  List.splitBy_of_isChain (by simp) (isChain_replicate line (k + 1))

/-- A different line begins a run of its own. -/
theorem runs_replicate_append {line next : Bytes} (hne : line ≠ next) (k : Nat)
    (lines : List Bytes) :
    runs (List.replicate (k + 1) line ++ next :: lines) =
      List.replicate (k + 1) line :: runs (next :: lines) := by
  rw [runs, List.splitBy_append_cons]
  · exact congrArg (· ++ _) (runs_replicate line k)
  · simpa [List.getLast?_replicate] using hne

theorem runs_cons_ne_nil (line : Bytes) (lines : List Bytes) : runs (line :: lines) ≠ [] :=
  List.splitBy_ne_nil.mpr (List.cons_ne_nil _ _)

theorem messages_cons (threshold : Nat) (ended : Bool) (run : List Bytes)
    {rest : List (List Bytes)} (h : rest ≠ []) :
    messages threshold ended (run :: rest) =
      begun threshold run ++ settled run ++ messages threshold ended rest := by
  cases rest with
  | nil => exact absurd rfl h
  | cons next rest => rfl

theorem exists_replicate_of_mem_runs {lines run : List Bytes} (h : run ∈ runs lines) :
    ∃ line k, run = List.replicate (k + 1) line := by
  obtain ⟨line, again, rfl⟩ := List.exists_cons_of_ne_nil (List.ne_nil_of_mem_splitBy h)
  have hchain : (line :: again).IsChain (· = ·) := by
    simpa using List.isChain_of_mem_splitBy h
  exact ⟨line, again.length,
    congrArg (line :: ·) (List.isChain_cons_eq_iff_eq_replicate.mp hchain)⟩

/-- The end of the last run adds what the stage still owes. -/
theorem messages_ended (threshold : Nat) (lines : List Bytes) :
    messages threshold true (runs lines) =
      messages threshold false (runs lines) ++ (ofLines lines).owed := by
  have hruns (run : List Bytes) (h : run ∈ runs lines) := exists_replicate_of_mem_runs h
  rw [ofLines]
  generalize runs lines = rs at hruns ⊢
  induction rs with
  | nil => rfl
  | cons run rest ih =>
    cases rest with
    | nil =>
      obtain ⟨line, k, rfl⟩ := hruns run (by simp)
      simp [messages, settled_replicate, List.head?_replicate]
    | cons next rest =>
      have hnext := ih fun r hr => hruns r (List.mem_cons_of_mem _ hr)
      simp only [messages, List.getLast?_cons_cons, List.append_assoc] at hnext ⊢
      rw [hnext]

/-- A stage in the middle of a run goes on with the run's line put in front of what follows. -/
theorem run_push (threshold : Nat) (line : Bytes) (k : Nat) (lines : List Bytes) :
    (Stage.run (push threshold) { last := some line, repeats := k } lines).1 =
        ofLines (List.replicate (k + 1) line ++ lines) ∧
      messages threshold false (runs (List.replicate (k + 1) line ++ lines)) =
        begun threshold (List.replicate (k + 1) line) ++
          (Stage.run (push threshold) { last := some line, repeats := k } lines).2 := by
  induction lines generalizing line k with
  | nil => simp [ofLines, runs_replicate, messages, List.head?_replicate]
  | cons next lines ih =>
    by_cases hne : line = next
    · -- The run goes on; the count decides whether it gives a notice.
      subst hne
      have hshift : List.replicate (k + 1) line ++ line :: lines =
          List.replicate (k + 1 + 1) line ++ lines := by
        rw [List.replicate_succ' (n := k + 1), List.append_assoc, List.singleton_append]
      obtain ⟨hstate, hout⟩ := ih line (k + 1)
      rw [Stage.run_cons, hshift]
      simp only [push, if_true]
      refine ⟨hstate, hout.trans ?_⟩
      rw [begun_replicate, begun_replicate, notices_succ, List.cons_append, List.cons_append,
        List.append_assoc]
    · obtain ⟨hstate, hout⟩ := ih next 0
      simp only [Nat.zero_add, List.replicate_one, List.singleton_append] at hstate hout
      rw [Stage.run_cons]
      simp only [push, Option.some.injEq, if_neg hne]
      constructor
      · rw [hstate, ofLines, ofLines, runs_replicate_append hne, List.getLast?_cons,
          List.getLast?_eq_some_getLast (runs_cons_ne_nil next lines)]
        rfl
      · rw [runs_replicate_append hne, messages_cons _ _ _ (runs_cons_ne_nil next lines), hout,
          settled_replicate]
        simp [begun, notices]

/-- From its beginning the stage gives the messages of the lines, the last run still open. -/
theorem run_empty (threshold : Nat) (lines : List Bytes) :
    Stage.run (push threshold) {} lines =
      (ofLines lines, messages threshold false (runs lines)) := by
  cases lines with
  | nil => rfl
  | cons line lines =>
    obtain ⟨hstate, hout⟩ := run_push threshold line 0 lines
    simp only [Nat.zero_add, List.replicate_one, List.singleton_append] at hstate hout
    rw [Stage.run_cons]
    simp only [push, reduceCtorEq, if_false]
    rw [hstate, hout]
    simp [begun, notices, owed]

/-- The messages that further lines add. -/
theorem run_ofLines (threshold : Nat) (lines more : List Bytes) :
    (Stage.run (push threshold) (ofLines lines) more).1 = ofLines (lines ++ more) ∧
      messages threshold false (runs (lines ++ more)) =
        messages threshold false (runs lines) ++
          (Stage.run (push threshold) (ofLines lines) more).2 := by
  have h := run_empty threshold (lines ++ more)
  rw [Stage.run_append, run_empty] at h
  exact ⟨congrArg Prod.fst h, (congrArg Prod.snd h).symm⟩

end LineRun

end LogCourier
