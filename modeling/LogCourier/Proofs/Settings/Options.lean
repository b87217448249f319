import LogCourier.CommandLine
import LogCourier.Proofs.Numeral
import LogCourier.Proofs.Outcome

/-!
# What the command line can say

Reading the command line goes from one argument to the next and only ever adds to what has been
given (`Arguments.Extends`).  In the end every option but the sources has been given once at most,
and a port is written the way numbers are (`Arguments.Tidy`); and every option that an argument
names has the value that the argument says (`Arguments.read_gives`).
-/

namespace LogCourier

namespace Text

theorem cutChars?_append {c : Char} {before : List Char} (h : c ∉ before) (rest : List Char) :
    cutChars? c (before ++ c :: rest) = some (before, rest) := by
  induction before with
  | nil => exact if_pos rfl
  | cons d before ih =>
    rw [List.mem_cons, not_or] at h
    rw [List.cons_append, cutChars?, if_neg (Ne.symm h.1), ih h.2]
    rfl

end Text

namespace Arguments

theorem readNumber16?_le {text : String} {n : Nat} (h : readNumber16? text = some n) :
    n ≤ Numeral.max16 := by
  rw [readNumber16?] at h
  split at h
  next => cases h
  next cs hcs =>
    split at h
    next m hm =>
      split at h
      next => cases h
      next =>
        cases h
        exact Numeral.readDigits_le hm (Nat.zero_le _)
    next => cases h

/-! ## What is given -/

/-- Options that may be given once are given once at most, and ports are written as numbers are. -/
structure Tidy (a : Arguments) : Prop where
  once : ∀ o, o ≠ .source → (a.valuesOf o).length ≤ 1
  ports : ∀ v ∈ a.valuesOf .remotePort, ∃ p ≤ Numeral.max16, v = toString p

/-- What has been given stays given. -/
structure Extends (a a' : Arguments) : Prop where
  given : a.given <+: a'.given
  tidy : a.Tidy → a'.Tidy

variable {a a' a'' : Arguments} {r r' : Reading} {o : CommandOption} {value : String}

theorem Extends.refl (a : Arguments) : a.Extends a := ⟨List.prefix_rfl, id⟩

theorem Extends.trans (h : a.Extends a') (h' : a'.Extends a'') : a.Extends a'' :=
  ⟨h.given.trans h'.given, fun ha => h'.tidy (h.tidy ha)⟩

/-- What is given decides. -/
theorem Extends.of_given_eq (h : a'.given = a.given) : a.Extends a' where
  given := List.prefix_iff_eq_take.mpr (by rw [h, List.take_length])
  tidy ha := by
    have hvalues : a'.valuesOf = a.valuesOf := by
      funext o
      rw [valuesOf, h, valuesOf]
    exact ⟨by rw [hvalues]; exact ha.once, by rw [hvalues]; exact ha.ports⟩

theorem valuesOf_concat (a : Arguments) (o o' : CommandOption) (v : String) :
    { a with given := a.given ++ [(o, v)] }.valuesOf o' =
      a.valuesOf o' ++ if o = o' then [v] else [] := by
  rw [valuesOf, List.filterMap_append, valuesOf]
  congr 1
  by_cases h : o = o'
  · simp [h]
  · simp [h]

theorem valuesOf_eq_nil (h : a.given.lookup o = none) : a.valuesOf o = [] := by
  rw [valuesOf, List.filterMap_eq_nil_iff]
  rintro ⟨given, v⟩ hx
  have hne := List.lookup_eq_none_iff.mp h _ hx
  rw [bne_iff_ne] at hne
  exact if_neg hne.symm

theorem checked_port {v : String} (h : checked .remotePort value = .ok v) :
    ∃ p ≤ Numeral.max16, v = toString p := by
  rw [checked] at h
  split at h
  next p hp =>
    cases h
    exact ⟨p, readNumber16?_le hp, rfl⟩
  next => cases h

theorem give_eq_ok (h : give a o value = .ok a') :
    (o = .source ∨ a.valuesOf o = []) ∧
      ∃ v, checked o value = .ok v ∧ a' = { a with given := a.given ++ [(o, v)] } := by
  rw [give] at h
  split at h
  next => cases h
  next hfree =>
    obtain ⟨v, hv, hgiven⟩ := bind_eq_ok.mp h
    cases hgiven
    refine ⟨?_, v, hv, rfl⟩
    by_cases ho : o = .source
    · exact .inl ho
    · refine .inr (valuesOf_eq_nil (Option.not_isSome_iff_eq_none.mp fun hgiven => ?_))
      exact hfree ⟨ho, hgiven⟩

theorem give_extends (h : give a o value = .ok a') : a.Extends a' := by
  obtain ⟨hfree, v, hv, rfl⟩ := give_eq_ok h
  refine ⟨List.prefix_append _ _, fun ha => ⟨?_, ?_⟩⟩
  · intro o' ho'
    rw [valuesOf_concat]
    by_cases heq : o = o'
    · have hnone : a.valuesOf o' = [] := by
        rw [← heq] at ho' ⊢
        exact hfree.resolve_left ho'
      rw [if_pos heq, hnone]
      exact Nat.le_refl 1
    · rw [if_neg heq, List.append_nil]
      exact ha.once o' ho'
  · intro w hw
    rw [valuesOf_concat, List.mem_append] at hw
    rcases hw with hold | hnew
    · exact ha.ports w hold
    · split at hnew
      next heq =>
        rw [List.mem_singleton] at hnew
        rw [hnew]
        rw [heq] at hv
        exact checked_port hv
      next => cases hnew

theorem settle_extends (h : settle r = .ok r') : r.arguments.Extends r'.arguments := by
  rw [settle] at h
  split at h
  next =>
    cases h
    exact .refl _
  next => cases h
  next o v _ =>
    obtain ⟨a, ha, hr⟩ := bind_eq_ok.mp h
    cases hr
    exact give_extends ha
  next path _ =>
    split at h
    next => cases h
    next =>
      cases h
      exact .of_given_eq rfl

/-- The pending argument is settled, and nothing is taken back afterwards. -/
def Settles (r r' : Reading) : Prop :=
  ∃ settled, settle r = .ok settled ∧ settled.arguments.Extends r'.arguments

theorem Settles.extends (h : Settles r r') : r.arguments.Extends r'.arguments := by
  obtain ⟨settled, hsettled, hmore⟩ := h
  exact (settle_extends hsettled).trans hmore

theorem Settles.trans {r'' : Reading} (h : Settles r r') (h' : r'.arguments.Extends r''.arguments) :
    Settles r r'' := by
  obtain ⟨settled, hsettled, hmore⟩ := h
  exact ⟨settled, hsettled, hmore.trans h'⟩

theorem askVersion_settles (h : askVersion r = .ok r') : Settles r r' := by
  rw [askVersion] at h
  obtain ⟨settled, hsettled, h⟩ := bind_eq_ok.mp h
  refine ⟨settled, hsettled, ?_⟩
  split at h
  next => cases h
  next =>
    cases h
    exact .of_given_eq rfl

theorem askHelp_ne_ok (r r' : Reading) : askHelp r ≠ .ok r' := by
  intro h
  obtain ⟨_, _, h⟩ := bind_eq_ok.mp h
  cases h

theorem readLong_settles {text : String} (h : readLong r text = .ok r') : Settles r r' := by
  rw [readLong] at h
  split at h
  next name value _ =>
    split at h
    next o v _ =>
      obtain ⟨settled, hsettled, h⟩ := bind_eq_ok.mp h
      obtain ⟨a, ha, h⟩ := bind_eq_ok.mp h
      cases h
      exact ⟨settled, hsettled, give_extends ha⟩
    next o _ =>
      obtain ⟨settled, hsettled, h⟩ := bind_eq_ok.mp h
      cases h
      exact ⟨settled, hsettled, .refl _⟩
    next =>
      split at h
      next =>
        split at h
        next => cases h
        next =>
          split at h
          next => exact askVersion_settles h
          next => exact absurd h (askHelp_ne_ok r r')
      next => cases h

theorem readShort_extends {cs : List Char} (h : readShort r cs = .ok r') :
    r.arguments.Extends r'.arguments := by
  fun_induction readShort r cs with
  | case1 r =>
    cases h
    exact .refl _
  | case2 r cs ih =>
    obtain ⟨asked, hasked, h⟩ := bind_eq_ok.mp h
    exact (askVersion_settles hasked).extends.trans (ih asked h)
  | case3 r cs => exact absurd h (askHelp_ne_ok r r')
  | case4 => cases h

theorem readShort_settles {c : Char} {cs : List Char} (h : readShort r (c :: cs) = .ok r') :
    Settles r r' := by
  rw [readShort.eq_def] at h
  split at h
  next heq => cases heq
  next =>
    obtain ⟨asked, hasked, h⟩ := bind_eq_ok.mp h
    exact (askVersion_settles hasked).trans (readShort_extends h)
  next => exact absurd h (askHelp_ne_ok r r')
  next => cases h

theorem readFile_settles {path : String} (h : readFile r path = .ok r') : Settles r r' := by
  rw [readFile] at h
  split at h
  next => cases h
  next =>
    obtain ⟨settled, hsettled, h⟩ := bind_eq_ok.mp h
    cases h
    exact ⟨settled, hsettled, .refl _⟩

theorem foldlM_readFile_extends {paths : List String} (h : paths.foldlM readFile r = .ok r') :
    r.arguments.Extends r'.arguments := by
  induction paths generalizing r with
  | nil =>
    cases h
    exact .refl _
  | cons path paths ih =>
    rw [List.foldlM_cons] at h
    obtain ⟨next, hnext, h⟩ := bind_eq_ok.mp h
    exact (readFile_settles hnext).extends.trans (ih h)

/-- One argument is read, which settles the one before it unless it is its value, and then
the others. -/
theorem readAll_cons {arg : String} {args : List String} (harg : arg ≠ "--")
    (h : readAll r (arg :: args) = .ok r') :
    ∃ next,
      (Settles r next ∨
        ∃ o, r.pending = some (.option o none) ∧ next.arguments = r.arguments) ∧
      readAll next args = .ok r' := by
  rw [readAll, if_neg harg] at h
  split at h
  next =>
    obtain ⟨next, hnext, h⟩ := bind_eq_ok.mp h
    exact ⟨next, .inl (readLong_settles hnext), h⟩
  next =>
    obtain ⟨next, hnext, h⟩ := bind_eq_ok.mp h
    exact ⟨next, .inl (readShort_settles hnext), h⟩
  next =>
    obtain ⟨next, hnext, h⟩ := bind_eq_ok.mp h
    refine ⟨next, ?_, h⟩
    rw [readPlain] at hnext
    split at hnext
    next o hpending =>
      cases hnext
      exact .inr ⟨o, hpending, rfl⟩
    next => exact .inl (readFile_settles hnext)

theorem readAll_extends {args : List String} (h : readAll r args = .ok r') :
    r.arguments.Extends r'.arguments := by
  induction args generalizing r with
  | nil => exact settle_extends h
  | cons arg args ih =>
    by_cases harg : arg = "--"
    · rw [readAll, if_pos harg] at h
      obtain ⟨last, hlast, h⟩ := bind_eq_ok.mp h
      exact (foldlM_readFile_extends hlast).trans (settle_extends h)
    · obtain ⟨next, hnext, h⟩ := readAll_cons harg h
      rcases hnext with hsettles | ⟨_, _, hsame⟩
      · exact hsettles.extends.trans (ih h)
      · rw [← hsame]
        exact ih h

/-- An option that has its value is settled by whatever comes next. -/
theorem readAll_settles {args : List String} (hpending : r.pending = some (.option o (some value)))
    (h : readAll r args = .ok r') : Settles r r' := by
  cases args with
  | nil => exact ⟨r', h, .refl _⟩
  | cons arg args =>
    by_cases harg : arg = "--"
    · rw [readAll, if_pos harg] at h
      obtain ⟨last, hfiles, hlast⟩ := bind_eq_ok.mp h
      cases args with
      | nil =>
        cases hfiles
        exact ⟨r', hlast, .refl _⟩
      | cons path paths =>
        rw [List.foldlM_cons] at hfiles
        obtain ⟨next, hnext, hmore⟩ := bind_eq_ok.mp hfiles
        exact (readFile_settles hnext).trans
          ((foldlM_readFile_extends hmore).trans (settle_extends hlast))
    · obtain ⟨next, hnext, h⟩ := readAll_cons harg h
      rcases hnext with hsettles | ⟨_, hnone, _⟩
      · exact hsettles.trans (readAll_extends h)
      · rw [hpending] at hnone
        cases hnone

/-- A value has been given to an option, in the form in which it is kept. -/
def Gives (a : Arguments) (o : CommandOption) (value : String) : Prop :=
  ∃ v, checked o value = .ok v ∧ (o, v) ∈ a.given

theorem Gives.extends (h : a.Gives o value) (h' : a.Extends a') : a'.Gives o value := by
  obtain ⟨v, hv, hmem⟩ := h
  exact ⟨v, hv, h'.given.subset hmem⟩

theorem give_gives (h : give a o value = .ok a') : a'.Gives o value := by
  obtain ⟨_, v, hv, rfl⟩ := give_eq_ok h
  exact ⟨v, hv, List.mem_append_right _ (List.mem_singleton_self _)⟩

theorem Settles.gives (h : Settles r r') (hpending : r.pending = some (.option o (some value))) :
    r'.arguments.Gives o value := by
  obtain ⟨settled, hsettled, hmore⟩ := h
  rw [settle, hpending] at hsettled
  obtain ⟨a, ha, hr⟩ := bind_eq_ok.mp hsettled
  cases hr
  exact (give_gives ha).extends hmore

/-- The arguments that give a value to an option: both in one, or one after the other. -/
inductive Assigns (o : CommandOption) (value : String) : List String → Prop
  | joined : Assigns o value ["--" ++ o.name ++ "=" ++ value]
  | apart (hvalue : value.toList.head? ≠ some '-') : Assigns o value ["--" ++ o.name, value]

theorem ofName?_name (o : CommandOption) : CommandOption.ofName? o.name = some o := by
  cases o <;> rfl

theorem sign_notMem_name (o : CommandOption) : '=' ∉ o.name.toList := by
  cases o <;> decide

theorem readLong_joined (h : readLong r (o.name ++ "=" ++ value) = .ok r') :
    r'.arguments.Gives o value := by
  have htext : (o.name ++ "=" ++ value).toList = o.name.toList ++ '=' :: value.toList := by
    rw [String.append_assoc, String.toList_append, String.toList_append]
    rfl
  have hcut : Text.cut? '=' (o.name ++ "=" ++ value) = some (o.name, value) := by
    rw [Text.cut?, htext, Text.cutChars?_append (sign_notMem_name o)]
    simp only [Option.map_some, String.ofList_toList]
  rw [readLong, hcut] at h
  simp only [ofName?_name] at h
  obtain ⟨settled, hsettled, h⟩ := bind_eq_ok.mp h
  obtain ⟨a, ha, h⟩ := bind_eq_ok.mp h
  cases h
  exact give_gives ha

theorem readLong_name (h : readLong r o.name = .ok r') : r'.pending = some (.option o none) := by
  have hcut : Text.cut? '=' o.name = none := by
    cases o <;> rfl
  rw [readLong, hcut] at h
  simp only [ofName?_name] at h
  obtain ⟨settled, hsettled, h⟩ := bind_eq_ok.mp h
  cases h
  rfl

theorem readAll_long {text : String} (htext : text ≠ "") {args : List String}
    (h : readAll r (("--" ++ text) :: args) = .ok r') :
    ∃ next, readLong r text = .ok next ∧ readAll next args = .ok r' := by
  have hlist : ("--" ++ text).toList = '-' :: '-' :: text.toList := by
    rw [String.toList_append]
    rfl
  have harg : "--" ++ text ≠ "--" := by
    intro heq
    rw [heq] at hlist
    exact htext (by simpa using hlist)
  rw [readAll, if_neg harg, hlist] at h
  obtain ⟨next, hnext, h⟩ := bind_eq_ok.mp h
  rw [String.ofList_toList] at hnext
  exact ⟨next, hnext, h⟩

/-- An option that has no value yet takes the next argument. -/
theorem readAll_value {args : List String} (hpending : r.pending = some (.option o none))
    (hvalue : value.toList.head? ≠ some '-') (h : readAll r (value :: args) = .ok r') :
    readAll { r with pending := some (.option o (some value)) } args = .ok r' := by
  have harg : value ≠ "--" := by
    rintro rfl
    exact hvalue rfl
  rw [readAll, if_neg harg] at h
  split at h
  next cs hcs =>
    rw [hcs] at hvalue
    exact absurd rfl hvalue
  next c cs _ hcs =>
    rw [hcs] at hvalue
    exact absurd rfl hvalue
  next =>
    obtain ⟨next, hnext, h⟩ := bind_eq_ok.mp h
    rw [readPlain, hpending] at hnext
    cases hnext
    exact h

theorem Assigns.gives {assigned after : List String} (hassigns : Assigns o value assigned)
    (h : readAll r (assigned ++ after) = .ok r') : r'.arguments.Gives o value := by
  cases hassigns with
  | joined =>
    have hjoined : "--" ++ o.name ++ "=" ++ value = "--" ++ (o.name ++ "=" ++ value) := by
      simp only [String.append_assoc]
    rw [hjoined] at h
    obtain ⟨next, hnext, h⟩ := readAll_long (by simp) h
    exact (readLong_joined hnext).extends (readAll_extends h)
  | apart hvalue =>
    obtain ⟨next, hnext, h⟩ := readAll_long (by cases o <;> decide) h
    exact (readAll_settles rfl (readAll_value (readLong_name hnext) hvalue h)).gives rfl

end Arguments

end LogCourier
