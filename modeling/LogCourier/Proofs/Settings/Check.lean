import Mathlib.Data.List.Nodup
import LogCourier.Proofs.Outcome
import LogCourier.Settings.Check

/-!
# Settings that pass the check

The check goes through the settings one after the other and stops at the first fault.
`Settings.Valid` says at once what all settings have to be like (`Settings.check_eq_ok_iff`).
-/

namespace LogCourier

namespace Settings

/-- What an agent can run with. -/
structure Valid (s : Settings) : Prop where
  sources_ne_nil : s.sources ≠ []
  ids : ∀ x ∈ s.sources, Text.isBlankText x.id = false
  paths : ∀ x ∈ s.sources, FileSystem.isAbsolute x.path = true
  distinct : (s.sources.map Source.id).Nodup
  remoteHost : s.remoteHost ≠ ""
  remotePort : s.remotePort ≠ 0
  maxConnectAttempts : s.maxConnectAttempts ≠ 0
  rateLimit : s.rateLimit ≠ 0
  rateWindow : s.rateWindow ≠ 0
  repeatThreshold : s.repeatThreshold ≠ 0
  pollInterval : leastPollInterval ≤ s.pollInterval

theorem checkSources_eq_ok_iff {seen : List String} {xs : List Source} :
    checkSources seen xs = .ok () ↔
      (∀ x ∈ xs, Text.isBlankText x.id = false ∧ FileSystem.isAbsolute x.path = true ∧
          x.id ∉ seen) ∧
        (xs.map Source.id).Nodup := by
  induction xs generalizing seen with
  | nil => simp [checkSources]
  | cons x xs ih =>
    rw [List.forall_mem_cons, List.map_cons, List.nodup_cons]
    simp only [checkSources, ite_error_eq_ok_iff, ih, List.contains_eq_mem, decide_eq_true_eq,
      Bool.not_eq_true', Bool.not_eq_true, Bool.not_eq_false, List.mem_cons, not_or,
      List.mem_map, not_exists, not_and]
    constructor
    · rintro ⟨hblank, hpath, hseen, hall, hdistinct⟩
      exact ⟨⟨⟨hblank, hpath, hseen⟩,
        fun y hy => ⟨(hall y hy).1, (hall y hy).2.1, (hall y hy).2.2.2⟩⟩,
        fun y hy => (hall y hy).2.2.1, hdistinct⟩
    · rintro ⟨⟨⟨hblank, hpath, hseen⟩, hall⟩, hnew, hdistinct⟩
      exact ⟨hblank, hpath, hseen,
        fun y hy => ⟨(hall y hy).1, (hall y hy).2.1, hnew y hy, (hall y hy).2.2⟩, hdistinct⟩

theorem check_eq_ok_iff {s : Settings} : s.check = .ok () ↔ s.Valid := by
  rw [check, ite_error_eq_ok_iff]
  constructor
  · rintro ⟨hsome, h⟩
    split at h
    next => cases h
    next hchecked =>
      obtain ⟨hall, hdistinct⟩ := checkSources_eq_ok_iff.mp hchecked
      simp only [ite_error_eq_ok_iff] at h
      obtain ⟨hhost, hport, hattempts, hlimit, hwindow, hthreshold, hpoll, -⟩ := h
      exact {
        sources_ne_nil := by simpa using hsome
        ids := fun x hx => (hall x hx).1
        paths := fun x hx => (hall x hx).2.1
        distinct := hdistinct
        remoteHost := hhost
        remotePort := hport
        maxConnectAttempts := hattempts
        rateLimit := hlimit
        rateWindow := hwindow
        repeatThreshold := hthreshold
        pollInterval := Nat.le_of_not_lt hpoll }
  · intro h
    have hchecked : checkSources [] s.sources = .ok () :=
      checkSources_eq_ok_iff.mpr ⟨fun x hx => ⟨h.ids x hx, h.paths x hx, List.not_mem_nil⟩,
        h.distinct⟩
    refine ⟨by simpa using h.sources_ne_nil, ?_⟩
    rw [hchecked]
    simp only [ite_error_eq_ok_iff]
    exact ⟨h.remoteHost, h.remotePort, h.maxConnectAttempts, h.rateLimit, h.rateWindow,
      h.repeatThreshold, Nat.not_lt.mpr h.pollInterval, trivial⟩

end Settings

end LogCourier
