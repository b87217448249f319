import LogCourier.Json.Decoder
import LogCourier.Proofs.Outcome

/-!
# What decoders leave

No decoder leaves more of a document than it is given (`Scan.Shortens`), so as many rounds as there
are characters left are enough for any list or object.
-/

namespace LogCourier.Json

/-! ## Numbers -/

namespace Number

theorem gather_length {n count n' count' : Nat} {cs rest : List Char}
    (h : gather n count cs = (n', count', rest)) : rest.length ≤ cs.length := by
  induction cs generalizing n count with
  | nil =>
    cases h
    exact Nat.le_refl _
  | cons c cs ih =>
    rw [gather] at h
    split at h
    · cases h
      exact Nat.le_refl _
    · split at h
      · cases h
        exact Nat.le_refl _
      · exact Nat.le_succ_of_le (ih h)

theorem dropWhile_length (cs : List Char) :
    (cs.dropWhile isDigit).length ≤ cs.length :=
  (List.dropWhile_suffix isDigit).length_le

theorem toFloat_length {positive : Bool} {significand : Nat} {exponent : Int}
    {cs rest : List Char} {n : Number}
    (h : (do return (← toFloat positive significand exponent, cs)) = Except.ok (n, rest)) :
    rest.length ≤ cs.length := by
  cases hx : toFloat positive significand exponent with
  | error e =>
    rw [hx] at h
    cases h
  | ok x =>
    rw [hx] at h
    cases h
    exact Nat.le_refl _

theorem exponentPart_length {positive : Bool} {significand : Nat} {places : Int}
    {cs rest : List Char} {n : Number}
    (h : exponentPart positive significand places cs = .ok (n, rest)) :
    rest.length ≤ cs.length := by
  unfold exponentPart at h
  split at h
  next sign left hsign =>
    have hleft : left.length ≤ cs.length := by
      split at hsign <;> cases hsign
      · exact Nat.le_succ _
      · exact Nat.le_succ _
      · exact Nat.le_refl _
    split at h
    · cases h
    · split at h
      · cases h
      · exact Nat.le_trans (toFloat_length h) (Nat.le_trans (dropWhile_length _) hleft)

theorem maybeExponent_length {positive : Bool} {significand : Nat} {places : Int}
    {cs rest : List Char} {n : Number}
    (h : maybeExponent positive significand places cs = .ok (n, rest)) :
    rest.length ≤ cs.length := by
  unfold maybeExponent at h
  split at h
  · exact Nat.le_succ_of_le (exponentPart_length h)
  · exact Nat.le_succ_of_le (exponentPart_length h)
  · exact toFloat_length h

theorem fractionPart_length {positive : Bool} {significand : Nat} {places : Int}
    {cs rest : List Char} {n : Number}
    (h : fractionPart positive significand places cs = .ok (n, rest)) :
    rest.length ≤ cs.length := by
  unfold fractionPart at h
  split at h
  next n count left hgather =>
    have hleft := gather_length hgather
    split at h
    · split at h
      · cases h
      · exact Nat.le_trans (maybeExponent_length h) hleft
    · split at h
      · exact Nat.le_trans (maybeExponent_length h) (Nat.le_trans (dropWhile_length _) hleft)
      · split at h
        · cases h
        · exact Nat.le_trans (maybeExponent_length h) hleft

theorem longPart_length {positive : Bool} {significand : Nat} {cs rest : List Char}
    {n : Number} (h : longPart positive significand cs = .ok (n, rest)) :
    rest.length ≤ cs.length := by
  have hleft := dropWhile_length cs
  unfold longPart at h
  split at h
  next left hpoint =>
    rw [hpoint, List.length_cons] at hleft
    exact Nat.le_trans (fractionPart_length h) (Nat.le_of_succ_le hleft)
  next => exact Nat.le_trans (maybeExponent_length h) hleft

theorem readChars_length {positive : Bool} {cs rest : List Char} {n : Number}
    (h : readChars positive cs = .ok (n, rest)) : rest.length ≤ cs.length := by
  unfold readChars at h
  split at h
  · cases h
  · split at h
    · cases h
    · split at h
      · cases h
      · split at h
        next n count left hgather =>
          have hleft := gather_length hgather
          split at h
          · exact Nat.le_trans (fractionPart_length h) (Nat.le_of_succ_le hleft)
          · exact Nat.le_trans (exponentPart_length h) (Nat.le_of_succ_le hleft)
          · exact Nat.le_trans (exponentPart_length h) (Nat.le_of_succ_le hleft)
          · split at h
            · exact Nat.le_trans (longPart_length h) hleft
            · cases h
              exact hleft

end Number

/-! ## Scans -/

namespace Scan

variable {α β : Type}

theorem stringBody_length {cs rest : List Char} {read text : String}
    (h : stringBody cs read = .ok (text, rest)) : rest.length < cs.length := by
  fun_induction stringBody cs read with
  | case1 => cases h
  | case2 =>
    cases h
    exact Nat.lt_succ_self _
  | case3 => cases h
  | case4 read left c left' _ hlt ih => exact Nat.lt_succ_of_lt (Nat.lt_trans (ih h) hlt)
  | case5 => cases h
  | case6 read c left _ _ _ ih => exact Nat.lt_succ_of_lt (ih h)

/-- A scan that leaves no more than it is given. -/
def Shortens (d : Scan α) : Prop :=
  ∀ ⦃cs : List Char⦄ ⦃a : α⦄ ⦃rest : List Char⦄, d cs = .ok (a, rest) → rest.length ≤ cs.length

theorem Shortens.pure (a : α) : Shortens (pure a) := by
  intro cs b rest h
  cases h
  exact Nat.le_refl _

theorem Shortens.throw (e : Fault) : Shortens (throw e : Scan α) := by
  intro cs b rest h
  cases h

theorem Shortens.bind {d : Scan α} {f : α → Scan β} (hd : d.Shortens)
    (hf : ∀ a, (f a).Shortens) : (d >>= f).Shortens := by
  intro cs b rest h
  obtain ⟨⟨a, left⟩, hleft, hrest⟩ := bind_eq_ok.mp h
  exact Nat.le_trans (hf a hrest) (hd hleft)

theorem Shortens.lift (x : Except Fault α) : Shortens (liftM x : Scan α) := by
  intro cs a rest h
  obtain ⟨_, _, h⟩ := bind_eq_ok.mp h
  cases h
  exact Nat.le_refl _

theorem shortens_throw_bind {e : Fault} {f : α → Scan β} :
    ((throw e : Scan α) >>= f).Shortens := by
  intro cs b rest h
  cases h

/-- A scan after a check that it may not get past. -/
theorem shortens_unless {p : Prop} [Decidable p] {e : Fault} {f : PUnit → Scan α}
    (hf : ∀ u, (f u).Shortens) : (if p then throw e >>= f else f ⟨⟩).Shortens := by
  split
  · exact shortens_throw_bind
  · exact hf ⟨⟩

theorem shortens_get : (get : Scan (List Char)).Shortens := by
  intro cs a rest h
  cases h
  exact Nat.le_refl _

theorem shortens_look : look.Shortens := by
  intro cs c? rest h
  cases h
  exact Nat.le_refl _

theorem shortens_peek : peek.Shortens := by
  intro cs c? rest h
  cases h
  exact (List.dropWhile_suffix isBlank).length_le

theorem shortens_skip : skip.Shortens := by
  intro cs u rest h
  cases h
  exact (List.tail_suffix cs).length_le

theorem shortens_word (w : List Char) : (word w).Shortens := by
  induction w with
  | nil => exact .pure ()
  | cons c w ih =>
    refine .bind shortens_look fun c? => ?_
    split
    · exact .throw _
    · refine .bind shortens_skip fun _ => ?_
      split
      · exact ih
      · exact .throw _

theorem shortens_stringRest : stringRest.Shortens := by
  intro cs text rest h
  exact Nat.le_of_lt (stringBody_length h)

theorem shortens_number (positive : Bool) : (number positive).Shortens := by
  intro cs n rest h
  exact Number.readChars_length h

end Scan

/-! ## Decoders -/

namespace Decoder

open Scan

variable {α σ : Type}

theorem shortens_wrongType (expected : String) : (wrongType expected : Scan α).Shortens := by
  refine .bind shortens_look fun c? => ?_
  split
  · exact .bind shortens_skip fun _ => .bind (shortens_word _) fun _ => .throw _
  · exact .bind shortens_skip fun _ => .bind (shortens_word _) fun _ => .throw _
  · exact .bind shortens_skip fun _ => .bind (shortens_word _) fun _ => .throw _
  · exact .bind shortens_skip fun _ => .bind (shortens_number _) fun _ => .throw _
  · exact .bind shortens_skip fun _ => .bind shortens_stringRest fun _ => .throw _
  · exact .throw _
  · exact .throw _
  · split
    · exact .bind (shortens_number _) fun _ => .throw _
    · exact .throw _
  · exact .throw _

theorem shortens_string (expected : String) : (string expected).Shortens := by
  refine .bind shortens_peek fun c? => ?_
  split
  · exact .throw _
  · exact .bind shortens_skip fun _ => shortens_stringRest
  · exact shortens_wrongType expected

theorem shortens_natural (largest : Nat) (expected : String) :
    (natural largest expected).Shortens := by
  refine .bind shortens_peek fun c? => ?_
  split
  · exact .throw _
  · exact .bind shortens_skip fun _ => .bind (shortens_number _) fun _ => .lift _
  · split
    · exact .bind (shortens_number _) fun _ => .lift _
    · exact shortens_wrongType expected

theorem shortens_optional {d : Scan α} (hd : d.Shortens) : (optional d).Shortens := by
  refine .bind shortens_peek fun c? => ?_
  split
  · exact .bind shortens_skip fun _ => .bind (shortens_word _) fun _ => .pure _
  · exact .bind hd fun _ => .pure _

theorem shortens_colon : colon.Shortens := by
  refine .bind shortens_peek fun c? => ?_
  split
  · exact shortens_skip
  · exact .throw _
  · exact .throw _

theorem shortens_null : null.Shortens := by
  refine .bind shortens_peek fun c? => ?_
  split
  · exact .throw _
  · exact .bind shortens_skip fun _ => shortens_word _
  · exact shortens_wrongType _

theorem shortens_firstKey : firstKey.Shortens := by
  refine .bind shortens_peek fun c? => ?_
  split
  · exact .bind shortens_skip fun _ => shortens_stringRest
  · exact .throw _
  · exact .throw _
  · exact .throw _

theorem shortens_oneOf (choices : List (String × α)) : (oneOf choices).Shortens := by
  refine .bind shortens_peek fun c? => ?_
  split
  · exact .throw _
  · exact .bind (shortens_string _) fun _ => .lift _
  · refine .bind shortens_skip fun _ => .bind shortens_firstKey fun _ => .bind (.lift _) fun a => ?_
    refine .bind shortens_colon fun _ => .bind shortens_null fun _ => ?_
    refine .bind shortens_peek fun c? => ?_
    split
    · exact .bind shortens_skip fun _ => .pure a
    · exact .throw _
    · exact .throw _
  · exact .throw _

theorem shortens_moreElements (first : Bool) : (moreElements first).Shortens := by
  refine .bind shortens_peek fun c? => ?_
  split
  · exact .throw _
  · exact .pure _
  · split
    · exact .pure _
    · refine shortens_unless fun _ => .bind shortens_skip fun _ => .bind shortens_peek fun c? => ?_
      split
      · exact .throw _
      · exact .pure _
      · exact .throw _

theorem shortens_endList : endList.Shortens := by
  refine .bind shortens_peek fun c? => ?_
  split
  · exact shortens_skip
  · refine .bind shortens_skip fun _ => .bind shortens_peek fun _ => ?_
    split
    · exact .throw _
    · exact .throw _
  · exact .throw _
  · exact .throw _

theorem shortens_elements {d : Scan α} (hd : d.Shortens) (fuel : Nat) (first : Bool) :
    (elements d fuel first).Shortens := by
  induction fuel generalizing first with
  | zero => exact .throw _
  | succ fuel ih =>
    refine .bind (shortens_moreElements first) fun more => ?_
    split
    · exact .bind hd fun _ => .bind (ih false) fun _ => .pure _
    · exact .pure _

theorem shortens_list {d : Scan α} (hd : d.Shortens) : (list d).Shortens := by
  refine .bind shortens_peek fun c? => ?_
  split
  · exact .throw _
  · exact .bind shortens_skip fun _ => .bind shortens_get fun _ =>
      .bind (shortens_elements hd _ _) fun _ => .bind shortens_endList fun _ => .pure _
  · exact shortens_wrongType _

theorem shortens_moreKeys (first : Bool) : (moreKeys first).Shortens := by
  refine .bind shortens_peek fun c? => ?_
  split
  · exact .throw _
  · exact .pure _
  next c _ =>
    cases first with
    | true =>
      rw [if_pos rfl]
      split
      · exact .pure _
      · exact shortens_throw_bind
    | false =>
      refine shortens_unless fun _ => .bind shortens_skip fun _ => .bind shortens_peek fun c? => ?_
      split
      · exact .pure _
      · exact .throw _
      · exact .throw _
      · exact .throw _

variable {fields : List (Member σ)}

theorem shortens_byName (hfields : ∀ field ∈ fields, field.decode.Shortens) (fuel : Nat)
    (first : Bool) (seen : List String) (s : σ) : (byName fields fuel first seen s).Shortens := by
  induction fuel generalizing first seen s with
  | zero => exact .throw _
  | succ fuel ih =>
    refine .bind (shortens_moreKeys first) fun more => ?_
    split
    · refine .bind shortens_skip fun _ => .bind shortens_stringRest fun key => ?_
      split
      · exact .throw _
      next field hfield =>
        exact shortens_unless fun _ => .bind shortens_colon fun _ =>
          .bind (hfields field (List.mem_of_find?_eq_some hfield)) fun put => ih _ _ _
    · exact .pure _

theorem shortens_byPosition (hfields : ∀ field ∈ fields, field.decode.Shortens) (expected : String)
    (n : Nat) (s : σ) : (byPosition expected n fields s).Shortens := by
  induction fields generalizing n s with
  | nil => exact .pure _
  | cons field fields ih =>
    refine .bind (shortens_moreElements _) fun more => ?_
    split
    · exact .bind (hfields field List.mem_cons_self) fun put =>
        ih (fun field hfield => hfields field (List.mem_cons_of_mem _ hfield)) _ _
    · exact .throw _

theorem shortens_record (hfields : ∀ field ∈ fields, field.decode.Shortens) (name : String)
    (start : σ) : (record name fields start).Shortens := by
  refine .bind shortens_peek fun c? => ?_
  split
  · exact .throw _
  · exact .bind shortens_skip fun _ => .bind (shortens_byPosition hfields _ _ _) fun _ =>
      .bind shortens_endList fun _ => .pure _
  · refine .bind shortens_skip fun _ => .bind shortens_get fun _ =>
      .bind (shortens_byName hfields _ _ _ _) fun r => ?_
    dsimp only
    split
    · exact .throw _
    · exact .bind shortens_skip fun _ => .pure _
  · exact shortens_wrongType _

end Decoder

end LogCourier.Json
