import LogCourier.Agent.Basic
import LogCourier.Proofs.Pipeline.Bodies
import LogCourier.Proofs.Pipeline.Lossless
import LogCourier.Proofs.Settings.Check

/-!
# Reading records back

The collector is sent one record after the other, without anything in between.  Between the
timestamp and the body of a record stand the id of its source and the identifier of the agent, each
with a blank behind it, and both may hold blanks themselves.  If what stands there for one source
begins what stands there for another, a body can make up for the difference, and the collector
cannot tell the two; otherwise it can read all records back (`Settings.wire_decodes_iff_apart`).
-/

namespace LogCourier

/-- What follows the first newline, and what comes before it, are known from the whole. -/
theorem Bytes.append_newline_inj {b c more rest : Bytes} (hb : newline ∉ b) (hc : newline ∉ c)
    (h : b ++ newline :: more = c ++ newline :: rest) : b = c ∧ more = rest := by
  have hsplit := congrArg (·.splitOn newline) h
  simp only [List.splitOn_append_cons_self_of_not_mem hb,
    List.splitOn_append_cons_self_of_not_mem hc] at hsplit
  have hsame : b = c := (List.cons.inj hsplit).1
  rw [hsame, List.append_cancel_left_eq] at h
  exact ⟨hsame, (List.cons.inj h).2⟩

namespace Settings

/-- What is the same in all records of an agent with these settings. -/
def formatter (s : Settings) : Formatter where
  facility := s.facility
  severity := s.severity
  identifier := s.identifier

/-- An agent starts with the formatter of its settings. -/
theorem formatter_new (runId : RunId) (s : Settings) :
    (Agent.new runId s).formatter = s.formatter := rfl

/-- What a record says between its timestamp and its body. -/
def lead (s : Settings) (source : Source) : Bytes :=
  Bytes.ofText (source.id ++ " " ++ s.identifier ++ " ")

/-- What a record says before its lead. -/
def opening (s : Settings) (clock : Clock) : Bytes :=
  Bytes.ofText ("<" ++ toString (priority s.facility s.severity) ++ ">" ++ clock.now ++ " ")

/-- A record without its newline. -/
def recordLine (s : Settings) (clock : Clock) (x : Source × Bytes) : Bytes :=
  s.opening clock ++ (s.lead x.1 ++ x.2)

/-- What the collector is sent for bodies of sources, one after the other. -/
def wire (s : Settings) (clock : Clock) (xs : List (Source × Bytes)) : Bytes :=
  xs.flatMap fun x => s.formatter.format clock x.1.id x.2

theorem format_eq (s : Settings) (clock : Clock) (x : Source × Bytes) :
    s.formatter.format clock x.1.id x.2 = s.recordLine clock x ++ [newline] := by
  rw [Formatter.format, Record.format, Record.header, recordLine, opening, lead,
    ← List.append_assoc, ← Bytes.ofText_append]
  simp only [formatter, String.append_assoc]

theorem wire_cons (s : Settings) (clock : Clock) (x : Source × Bytes) (xs : List (Source × Bytes)) :
    s.wire clock (x :: xs) =
      s.opening clock ++ (s.lead x.1 ++ (x.2 ++ newline :: s.wire clock xs)) := by
  rw [wire, List.flatMap_cons, ← wire, format_eq, recordLine]
  simp only [List.append_assoc, List.singleton_append]

/-- Bodies of configured sources, as a pipeline with the limits of the settings passes them on. -/
def Sendable (s : Settings) (xs : List (Source × Bytes)) : Prop :=
  ∀ x ∈ xs, x.1 ∈ s.sources ∧ Pipeline.Emits s.rateLimit s.rateWindow s.repeatThreshold x.2

/-- Whether what the collector is sent tells the bodies, their order and their sources. -/
def Decodes (s : Settings) (clock : Clock) : Prop :=
  ∀ xs ys, s.Sendable xs → s.Sendable ys → s.wire clock xs = s.wire clock ys → xs = ys

/-- No lead of a source begins that of another one, unless what the other one has more can stand in
no body. -/
def Apart (s : Settings) : Prop :=
  ∀ x ∈ s.sources, ∀ y ∈ s.sources, ∀ more, s.lead y = s.lead x ++ more →
    x = y ∨ newline ∉ more ∧ LineBuffer.maxLength < more.length

section

variable {s : Settings} {clock : Clock}

theorem Sendable.head {x : Source × Bytes} {xs : List (Source × Bytes)} (hlimit : 0 < s.rateLimit)
    (h : s.Sendable (x :: xs)) : x.1 ∈ s.sources ∧ x.2.IsLine ∧ s.Sendable xs := by
  obtain ⟨hsource, hemits⟩ := h x List.mem_cons_self
  exact ⟨hsource, (Pipeline.emits_iff hlimit _ _ _).mp hemits,
    fun y hy => h y (List.mem_cons_of_mem x hy)⟩

/-- Two records that the rest of the bytes begin with have the same source, if the lead of one
begins that of the other. -/
theorem Apart.eq_of_lead (h : s.Apart) {x y : Source} (hx : x ∈ s.sources) (hy : y ∈ s.sources)
    {b c more rest later : Bytes} (hb : b.IsLine) (hc : c.IsLine)
    (hlead : s.lead y = s.lead x ++ more)
    (hrest : b ++ newline :: rest = more ++ (c ++ newline :: later)) : x = y := by
  rcases h x hx y hy more hlead with heq | ⟨hmore, hlong⟩
  · exact heq
  · rw [← List.append_assoc] at hrest
    have hbody : b = more ++ c := (Bytes.append_newline_inj hb.newline_notMem
      (by simp [hmore, hc.newline_notMem]) hrest).1
    have hlength := hb.length_le
    rw [hbody, List.length_append] at hlength
    omega

theorem Apart.decodes (h : s.Apart) (hlimit : 0 < s.rateLimit) (clock : Clock) :
    s.Decodes clock := by
  intro xs ys hxs hys hwire
  induction xs generalizing ys with
  | nil =>
    cases ys with
    | nil => rfl
    | cons y ys =>
      rw [wire_cons] at hwire
      simp [wire] at hwire
  | cons x xs ih =>
    cases ys with
    | nil =>
      rw [wire_cons] at hwire
      simp [wire] at hwire
    | cons y ys =>
      obtain ⟨hx, hb, hxs⟩ := hxs.head hlimit
      obtain ⟨hy, hc, hys⟩ := hys.head hlimit
      rw [wire_cons, wire_cons, List.append_cancel_left_eq] at hwire
      have hsource : x.1 = y.1 := by
        rcases List.append_eq_append_iff.mp hwire with ⟨more, hlead, hrest⟩ | ⟨more, hlead, hrest⟩
        · exact h.eq_of_lead hx hy hb hc hlead hrest
        · exact (h.eq_of_lead hy hx hc hb hlead hrest).symm
      rw [hsource, List.append_cancel_left_eq] at hwire
      obtain ⟨hbody, hmore⟩ := Bytes.append_newline_inj hb.newline_notMem hc.newline_notMem hwire
      rw [ih ys hxs hys hmore, Prod.ext hsource hbody]

/-- Newlines in leads are those of the identifier, if the ids have none. -/
theorem count_newline_lead {x : Source} (hx : '\n' ∉ x.id.toList) :
    (s.lead x).count newline = (Bytes.ofText s.identifier).count newline := by
  have hblank : (Bytes.ofText " ").count newline = 0 := by decide
  have hid : (Bytes.ofText x.id).count newline = 0 :=
    List.count_eq_zero.mpr fun hmem => hx (Bytes.newline_mem_ofText.mp hmem)
  rw [lead, Bytes.ofText_append, Bytes.ofText_append, Bytes.ofText_append, List.count_append,
    List.count_append, List.count_append, hid, hblank]
  omega

theorem Decodes.apart (h : s.Decodes clock) (hlimit : 0 < s.rateLimit)
    (hids : ∀ x ∈ s.sources, '\n' ∉ x.id.toList) : s.Apart := by
  intro x hx y hy more hlead
  have hmore : newline ∉ more := by
    have hcount := congrArg (List.count newline) hlead
    rw [List.count_append, count_newline_lead (hids x hx), count_newline_lead (hids y hy)] at hcount
    exact List.count_eq_zero.mp (by omega)
  rw [or_iff_not_imp_right]
  intro hshort
  have hline : more.IsLine := ⟨hmore, Nat.le_of_not_lt fun hlong => hshort ⟨hmore, hlong⟩⟩
  -- What the lead of `y` has more is sent as a body of `x`, and nothing at all as one of `y`.
  have hemits {b : Bytes} (hb : b.IsLine) :
      Pipeline.Emits s.rateLimit s.rateWindow s.repeatThreshold b :=
    (Pipeline.emits_iff hlimit _ _ _).mpr hb
  have hsame : s.wire clock [(x, more)] = s.wire clock [(y, [])] := by
    rw [wire_cons, wire_cons, hlead]
    simp only [List.append_assoc, List.nil_append]
  have heq := h [(x, more)] [(y, [])] (by simpa [Sendable] using ⟨hx, hemits hline⟩)
    (by simpa [Sendable] using ⟨hy, hemits Bytes.isLine_nil⟩) hsame
  exact congrArg Prod.fst (List.cons.inj heq).1

/-- Cut at its newlines, what the collector is sent falls into its records, if no header
holds one. -/
theorem splitOn_wire (hids : ∀ x ∈ s.sources, '\n' ∉ x.id.toList)
    (hidentifier : '\n' ∉ s.identifier.toList) (hnow : '\n' ∉ clock.now.toList)
    (hlimit : 0 < s.rateLimit) {xs : List (Source × Bytes)} (hxs : s.Sendable xs) :
    (s.wire clock xs).splitOn newline = xs.map (s.recordLine clock) ++ [[]] := by
  have hopening : newline ∉ s.opening clock := by
    rw [opening, Bytes.newline_mem_ofText]
    simp only [String.toList_append, List.mem_append, not_or]
    exact ⟨⟨⟨⟨by decide, Bytes.newline_notMem_toString _⟩, by decide⟩, hnow⟩, by decide⟩
  have hlead (x : Source) (hx : x ∈ s.sources) : newline ∉ s.lead x := by
    rw [lead, Bytes.newline_mem_ofText]
    simp [hids x hx, hidentifier]
  induction xs with
  | nil => rfl
  | cons x xs ih =>
    obtain ⟨hx, hb, hxs⟩ := hxs.head hlimit
    have hline : newline ∉ s.recordLine clock x := by
      simp only [recordLine, List.mem_append, not_or]
      exact ⟨hopening, hlead x.1 hx, hb.newline_notMem⟩
    have hwire : s.wire clock (x :: xs) = s.recordLine clock x ++ newline :: s.wire clock xs := by
      rw [wire_cons, recordLine]
      simp only [List.append_assoc]
    rw [hwire, List.splitOn_append_cons_self_of_not_mem hline, ih hxs]
    rfl

/-- Settings that pass the check have records that can be read back if their leads are apart,
and only then as long as no id holds a newline.  If no header holds one, the records are found
at the newlines. -/
theorem wire_decodes_iff_apart (hcheck : s.check = .ok ()) (clock : Clock) :
    (s.Apart → s.Decodes clock) ∧
      ((∀ x ∈ s.sources, '\n' ∉ x.id.toList) →
        (s.Decodes clock ↔ s.Apart) ∧
          ('\n' ∉ s.identifier.toList → '\n' ∉ clock.now.toList → ∀ xs, s.Sendable xs →
            (s.wire clock xs).splitOn newline = xs.map (s.recordLine clock) ++ [[]])) := by
  have hlimit : 0 < s.rateLimit := Nat.pos_of_ne_zero (check_eq_ok_iff.mp hcheck).rateLimit
  refine ⟨fun happart => happart.decodes hlimit clock, fun hids => ⟨⟨?_, ?_⟩, ?_⟩⟩
  · exact fun hdecodes => hdecodes.apart hlimit hids
  · exact fun happart => happart.decodes hlimit clock
  · exact fun hidentifier hnow xs hxs => splitOn_wire hids hidentifier hnow hlimit hxs

end

/-- Two sources whose ids and paths pass the check.  A body of the first that begins with the
identifier is taken for one of the second. -/
theorem blank_misread :
    let s : Settings := { sources := [⟨"a", "/a.log"⟩, ⟨"a i", "/b.log"⟩], identifier := "i" }
    let clock : Clock := ⟨"Jan  1 00:00:00"⟩
    s.check = .ok () ∧ clock.now.length = 15 ∧ ¬ s.Decodes clock := by
  intro s clock
  refine ⟨by decide, by decide, ?_⟩
  intro h
  have hemits {b : Bytes} (hb : newline ∉ b) (hlength : b.length ≤ LineBuffer.maxLength) :
      Pipeline.Emits s.rateLimit s.rateWindow s.repeatThreshold b :=
    Pipeline.emits_line (by decide) _ _ ⟨hb, hlength⟩
  have heq := h [(⟨"a", "/a.log"⟩, [105, 32, 120])] [(⟨"a i", "/b.log"⟩, [120])]
    (by simpa [Sendable, s] using hemits (by decide) (by decide))
    (by simpa [Sendable, s] using hemits (by decide) (by decide)) (by decide)
  have hids := congrArg (fun xs => xs.map fun x => x.1.id) heq
  exact absurd hids (by decide)

/-- Both ids hold the identifier, but neither begins the other. -/
theorem wire_decodes_iff_apart_sample :
    let s : Settings := { sources := [⟨"a i", "/a.log"⟩, ⟨"b i", "/b.log"⟩], identifier := "i" }
    s.check = .ok () ∧ s.Decodes ⟨"Jan  1 00:00:00"⟩ := by
  intro s
  have hcheck : s.check = .ok () := by decide
  have hapart : s.Apart := by
    have hfirst (x : Source) (hx : x ∈ s.sources) : ∃ c rest, s.lead x = c :: rest ∧
        x = if c = 97 then ⟨"a i", "/a.log"⟩ else ⟨"b i", "/b.log"⟩ := by
      rcases List.mem_pair.mp hx with rfl | rfl
      · exact ⟨97, [32, 105, 32, 105, 32], by decide, rfl⟩
      · exact ⟨98, [32, 105, 32, 105, 32], by decide, rfl⟩
    intro x hx y hy more hlead
    obtain ⟨c, rest, hleadx, hx⟩ := hfirst x hx
    obtain ⟨d, later, hleady, hy⟩ := hfirst y hy
    rw [hleadx, hleady, List.cons_append] at hlead
    rw [hx, hy, (List.cons.inj hlead).1]
    exact .inl rfl
  exact ⟨hcheck, (wire_decodes_iff_apart hcheck ⟨"Jan  1 00:00:00"⟩).1 hapart⟩

end Settings

end LogCourier
