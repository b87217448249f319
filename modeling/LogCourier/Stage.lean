/-! # Stages

A stage keeps a state and answers each item with any number of results. Stages are run over whole
lists; `run_append` says that it does not matter where such a list is cut, and `run_pipe` that two
stages in a row can be run one after the other over the whole list.
-/

namespace LogCourier.Stage

variable {σ τ α β γ : Type}

/-- Runs a stage over the items from a state; the results keep the order of the items. -/
def run (step : σ → α → σ × List β) (s : σ) (items : List α) : σ × List β :=
  let last := items.foldl
    (fun (acc : σ × Array β) a => ((step acc.1 a).1, acc.2 ++ (step acc.1 a).2)) (s, #[])
  (last.1, last.2.toList)

private theorem foldl_eq (step : σ → α → σ × List β) (items : List α) (s : σ) (done : Array β) :
    items.foldl (fun (acc : σ × Array β) a => ((step acc.1 a).1, acc.2 ++ (step acc.1 a).2))
        (s, done) =
      ((run step s items).1, done ++ (run step s items).2) := by
  induction items generalizing s done with
  | nil => simp [run]
  | cons a items ih =>
    simp only [run, List.foldl_cons]
    rw [ih, ih]
    refine Prod.ext rfl (Array.toList_inj.1 ?_)
    simp

@[simp] theorem run_nil (step : σ → α → σ × List β) (s : σ) : run step s [] = (s, []) := rfl

@[simp] theorem run_cons (step : σ → α → σ × List β) (s : σ) (a : α) (items : List α) :
    run step s (a :: items) =
      ((run step (step s a).1 items).1, (step s a).2 ++ (run step (step s a).1 items).2) := by
  conv => lhs; unfold run
  simp only [List.foldl_cons]
  rw [foldl_eq]
  simp

theorem run_append (step : σ → α → σ × List β) (s : σ) (xs ys : List α) :
    run step s (xs ++ ys) =
      ((run step (run step s xs).1 ys).1,
        (run step s xs).2 ++ (run step (run step s xs).1 ys).2) := by
  induction xs generalizing s with
  | nil => simp
  | cons a xs ih => simp [ih]

/-- What every answer keeps is kept throughout a run. -/
theorem run_keeps {f : σ → α → σ × List β} {P : σ → Prop} (hkeep : ∀ s a, P s → P (f s a).1) {s : σ}
    (hs : P s) (items : List α) : P (run f s items).1 := by
  induction items generalizing s with
  | nil => exact hs
  | cons a items ih =>
    rw [run_cons]
    exact ih (hkeep s a hs)

/-- What a stage does is said by another one on what can be seen of its state, where an invariant of
the stage may be used. -/
theorem run_view {f : σ → α → σ × List β} {g : τ → α → τ × List β} {P : σ → Prop} {v : σ → τ}
    (hkeep : ∀ s a, P s → P (f s a).1)
    (hview : ∀ s a, P s → v (f s a).1 = (g (v s) a).1 ∧ (f s a).2 = (g (v s) a).2)
    {s : σ} (hs : P s) (items : List α) :
    P (run f s items).1 ∧ v (run f s items).1 = (run g (v s) items).1 ∧
      (run f s items).2 = (run g (v s) items).2 := by
  induction items generalizing s with
  | nil => exact ⟨hs, rfl, rfl⟩
  | cons a items ih =>
    obtain ⟨hstate, hout⟩ := hview s a hs
    obtain ⟨hP, hstates, houts⟩ := ih (hkeep s a hs)
    rw [hstate] at hstates houts
    simp only [run_cons]
    exact ⟨hP, hstates, by rw [hout, houts]⟩

/-- Every result is the answer to some item. -/
theorem exists_of_mem_run {f : σ → α → σ × List β} {s : σ} {items : List α} {b : β}
    (h : b ∈ (run f s items).2) : ∃ s a, b ∈ (f s a).2 := by
  induction items generalizing s with
  | nil => cases h
  | cons a items ih =>
    rw [run_cons, List.mem_append] at h
    rcases h with h | h
    · exact ⟨s, a, h⟩
    · exact ih h

/-- A number that grows by one with every result. -/
theorem run_count {f : σ → α → σ × List β} {n : σ → Nat}
    (h : ∀ s a, n (f s a).1 = n s + (f s a).2.length) (s : σ) (items : List α) :
    n (run f s items).1 = n s + (run f s items).2.length := by
  induction items generalizing s with
  | nil => rfl
  | cons a items ih =>
    rw [run_cons, ih, h, List.length_append, Nat.add_assoc]

/-! ## Stages in a row -/

/-- The results of one stage are the items of the next. -/
def pipe (f : σ → α → σ × List β) (g : τ → β → τ × List γ) (s : σ × τ) (a : α) :
    (σ × τ) × List γ :=
  (((f s.1 a).1, (run g s.2 (f s.1 a).2).1), (run g s.2 (f s.1 a).2).2)

theorem run_pipe (f : σ → α → σ × List β) (g : τ → β → τ × List γ) (s : σ × τ)
    (items : List α) :
    run (pipe f g) s items =
      (((run f s.1 items).1, (run g s.2 (run f s.1 items).2).1),
        (run g s.2 (run f s.1 items).2).2) := by
  induction items generalizing s with
  | nil => rfl
  | cons a items ih => simp only [run_cons, ih, pipe, run_append]

end LogCourier.Stage
