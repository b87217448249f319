import LogCourier.Proofs.Json.Remainder
import Mathlib.Data.List.Nodup

/-!
# Objects and lists that are read as records

Which texts are lists and objects is said by relations between a text, what stands in it and what is
left of it (`Listing`, `Object`), without any decoder.  A decoder of lists reads them and nothing
else (`Decoder.list_run`), and so does a decoder of records, from objects with different names or
from lists of all values (`Decoder.record_run`).
-/

namespace LogCourier.Json

open Scan

variable {α γ σ κ : Type} {β : κ → Type}

/-- The first character that is not blank is this one, and this is what follows it. -/
def Next (text : List Char) (c : Char) (rest : List Char) : Prop :=
  text.dropWhile isBlank = c :: rest

theorem Next.length_lt {text rest : List Char} {c : Char} (h : Next text c rest) :
    rest.length < text.length := by
  have hle := (List.dropWhile_suffix isBlank (l := text)).length_le
  rw [h, List.length_cons] at hle
  exact hle

/-- What stands between the opening and the closing character of a list or an object, from an item
or its comma on. -/
inductive Items {ε : Type} (close : Char) (item : List Char → ε → List Char → Prop) :
    Bool → List Char → List ε → List Char → Prop
  | close {first : Bool} {text rest : List Char} :
    Next text close rest → Items close item first text [] rest
  | first {text left rest : List Char} {e : ε} {es : List ε} :
    item text e left → Items close item false left es rest →
      Items close item true text (e :: es) rest
  | next {text start left rest : List Char} {e : ε} {es : List ε} :
    Next text ',' start → item start e left → Items close item false left es rest →
      Items close item false text (e :: es) rest

/-- An entry of an object: a name in quotes, a colon, and the value of that name. -/
def Entry (name : κ → String) (value : (k : κ) → List Char → β k → List Char → Prop)
    (text : List Char) (e : Sigma β) (rest : List Char) : Prop :=
  ∃ quoted named after, Next text '"' quoted ∧ stringRest quoted = .ok (name e.1, named) ∧
    Next named ':' after ∧ value e.1 after e.2 rest

/-- An element may begin here: there is something, and it does not end the list. -/
def Opens (text left : List Char) : Prop := ∃ c rest, Next text c rest ∧ c ≠ ']' ∧ c :: rest = left

/-- An element of a list. -/
def Element {ε : Type} (value : List Char → ε → List Char → Prop) (text : List Char) (e : ε)
    (rest : List Char) : Prop :=
  ∃ left, Opens text left ∧ value left e rest

/-- An object, with the entries between its braces. -/
def Object (name : κ → String) (value : (k : κ) → List Char → β k → List Char → Prop)
    (text : List Char) (es : List (Sigma β)) (rest : List Char) : Prop :=
  ∃ body, Next text '\x7b' body ∧ Items '\x7d' (Entry name value) true body es rest

/-- A list, with the elements between its brackets. -/
def Listing {ε : Type} (value : List Char → ε → List Char → Prop) (text : List Char) (es : List ε)
    (rest : List Char) : Prop :=
  ∃ body, Next text '[' body ∧ Items ']' (Element value) true body es rest

/-- Where an item begins: here if it is the first one, and else after a comma. -/
def Begins (first : Bool) (text start : List Char) : Prop :=
  if first then text = start else Next text ',' start

theorem Begins.length_lt {first : Bool} {text start : List Char} (h : Begins first text start) :
    start.length < text.length + first.toNat := by
  cases first with
  | true =>
    cases h
    exact Nat.lt_succ_self _
  | false => exact Next.length_lt h

theorem Opens.length_le {text left : List Char} (h : Opens text left) :
    left.length ≤ text.length := by
  obtain ⟨c, rest, hnext, _, rfl⟩ := h
  exact hnext.length_lt

section

variable {ε : Type} {close : Char} {item : List Char → ε → List Char → Prop} {first : Bool}
  {text rest : List Char} {es : List ε}

theorem items_iff :
    Items close item first text es rest ↔
      (es = [] ∧ Next text close rest) ∨ ∃ start e es' left, es = e :: es' ∧
        Begins first text start ∧ item start e left ∧ Items close item false left es' rest := by
  constructor
  · intro h
    cases h with
    | close h => exact .inl ⟨rfl, h⟩
    | first he hes => exact .inr ⟨_, _, _, _, rfl, rfl, he, hes⟩
    | next hstart he hes => exact .inr ⟨_, _, _, _, rfl, hstart, he, hes⟩
  · rintro (⟨rfl, h⟩ | ⟨start, e, es', left, rfl, hstart, he, hes⟩)
    · exact .close h
    · cases first with
      | true =>
        cases hstart
        exact .first he hes
      | false => exact .next hstart he hes

theorem Items.length_pos (h : Items close item first text es rest) :
    0 < text.length + first.toNat := by
  cases h with
  | close h => exact Nat.add_pos_left (Nat.zero_lt_of_lt h.length_lt) _
  | first => exact Nat.succ_pos _
  | next h => exact Nat.zero_lt_of_lt h.length_lt

end

/-! ## Runs of scans -/

namespace Scan

theorem bind_run {d : Scan α} {f : α → Scan γ} {cs rest : List Char} {b : γ} :
    (d >>= f) cs = .ok (b, rest) ↔ ∃ a left, d cs = .ok (a, left) ∧ f a left = .ok (b, rest) := by
  refine bind_eq_ok.trans ?_
  exact Prod.exists

theorem peek_bind (f : Option Char → Scan α) (cs : List Char) :
    (peek >>= f) cs = f (cs.dropWhile isBlank).head? (cs.dropWhile isBlank) := rfl

theorem look_bind (f : Option Char → Scan α) (cs : List Char) : (look >>= f) cs = f cs.head? cs :=
  rfl

theorem skip_bind (f : Unit → Scan α) (cs : List Char) : (skip >>= f) cs = f () cs.tail := rfl

theorem get_bind (f : List Char → Scan α) (cs : List Char) :
    ((get : Scan (List Char)) >>= f) cs = f cs cs := rfl

theorem skip_run {cs rest : List Char} {u : Unit} : skip cs = .ok (u, rest) ↔ cs.tail = rest := by
  constructor
  · intro h
    cases h
    rfl
  · rintro rfl
    rfl

theorem pure_run {a b : α} {cs rest : List Char} :
    (pure a : Scan α) cs = .ok (b, rest) ↔ a = b ∧ cs = rest := by
  constructor
  · intro h
    cases h
    exact ⟨rfl, rfl⟩
  · rintro ⟨rfl, rfl⟩
    rfl

theorem map_run {f : α → γ} {d : Scan α} {cs rest : List Char} {b : γ} :
    (f <$> d) cs = .ok (b, rest) ↔ ∃ a, d cs = .ok (a, rest) ∧ f a = b := by
  rw [map_eq_pure_bind, bind_run]
  simp only [pure_run]
  constructor
  · rintro ⟨a, _, ha, rfl, rfl⟩
    exact ⟨a, ha, rfl⟩
  · rintro ⟨a, ha, rfl⟩
    exact ⟨a, rest, ha, rfl, rfl⟩

theorem throw_run {e : Fault} {cs : List Char} {r : α × List Char} :
    (throw e : Scan α) cs = .ok r ↔ False :=
  iff_of_false (fun h => by cases h) id

theorem throw_bind {e : Fault} {f : γ → Scan α} : (throw e >>= f) = throw e := rfl

/-- A scan that gives nothing. -/
def Fails (d : Scan α) : Prop := ∀ cs r, d cs ≠ .ok r

theorem Fails.throw (e : Fault) : Fails (throw e : Scan α) := fun _ _ => throw_run.mp

theorem Fails.bind {d : Scan α} {f : α → Scan γ} (hf : ∀ a, (f a).Fails) : (d >>= f).Fails := by
  rintro cs ⟨b, rest⟩ h
  obtain ⟨a, left, _, h⟩ := bind_run.mp h
  exact hf a left _ h

theorem word_run {w cs rest : List Char} {u : Unit} :
    word w cs = .ok (u, rest) ↔ cs = w ++ rest := by
  induction w generalizing cs with
  | nil => simp [word, pure_run]
  | cons c w ih =>
    rw [word, look_bind]
    cases cs with
    | nil => simp [throw_run]
    | cons d cs =>
      by_cases h : d = c
      · subst h
        simp [skip_bind, ih]
      · simp [h, skip_bind, throw_run]

end Scan

namespace Decoder

theorem colon_run {cs rest : List Char} {u : Unit} :
    colon cs = .ok (u, rest) ↔ Next cs ':' rest := by
  rw [colon, peek_bind, Next]
  cases cs.dropWhile isBlank with
  | nil => simp [throw_run]
  | cons c left =>
    by_cases hc : c = ':'
    · subst hc
      simp [skip_run]
    · simp [hc, throw_run]

theorem endList_run {cs rest : List Char} {u : Unit} :
    endList cs = .ok (u, rest) ↔ Next cs ']' rest := by
  rw [endList, peek_bind, Next]
  cases cs.dropWhile isBlank with
  | nil => simp [throw_run]
  | cons c left =>
    by_cases hc : c = ']'
    · subst hc
      simp [skip_run]
    · by_cases hcomma : c = ','
      · subst hcomma
        simp only [List.head?_cons, skip_bind, peek_bind]
        split <;> simp [throw_run]
      · simp [hc, throw_run]

theorem moreElements_run {first : Bool} {cs left : List Char} {more : Bool} :
    moreElements first cs = .ok (more, left) ↔
      if more then ∃ start, Begins first cs start ∧ Opens start left
      else ∃ rest, Next cs ']' rest ∧ ']' :: rest = left := by
  rw [moreElements, peek_bind]
  simp only [Begins, Opens, Next]
  cases htext : cs.dropWhile isBlank with
  | nil => cases first <;> simp [htext, throw_run]
  | cons c text =>
    by_cases hclose : c = ']'
    · subst hclose
      cases first <;> cases more <;> simp [htext, pure_run]
    · cases first with
      | true => cases more <;> simp [htext, hclose, pure_run, and_assoc]
      | false =>
        by_cases hcomma : c = ','
        · subst hcomma
          simp only [List.head?_cons, Bool.false_eq_true, ↓reduceIte, bne_self_eq_false, skip_bind,
            List.tail_cons, peek_bind, List.cons.injEq, true_and, ne_eq, exists_eq_left',
            Char.reduceEq, false_and, exists_const, if_false_right]
          cases text.dropWhile isBlank with
          | nil => simp [throw_run]
          | cons d text =>
            by_cases hend : d = ']'
            · subst hend
              simp [throw_run]
            · cases more <;> simp [hend, pure_run, and_assoc]
        · cases more <;> simp [hclose, hcomma, throw_bind, throw_run]

theorem moreKeys_run {first : Bool} {cs left : List Char} {more : Bool} :
    moreKeys first cs = .ok (more, left) ↔
      if more then
        ∃ start, Begins first cs start ∧ ∃ quoted, Next start '"' quoted ∧ '"' :: quoted = left
      else ∃ rest, Next cs '\x7d' rest ∧ '\x7d' :: rest = left := by
  rw [moreKeys, peek_bind]
  simp only [Begins, Next]
  cases htext : cs.dropWhile isBlank with
  | nil => cases first <;> simp [htext, throw_run]
  | cons c text =>
    by_cases hclose : c = '\x7d'
    · subst hclose
      cases first <;> cases more <;> simp [htext, pure_run]
    · cases first with
      | true =>
        by_cases hquote : c = '"'
        · subst hquote
          cases more <;> simp [htext, pure_run]
        · cases more <;> simp [htext, hclose, hquote, throw_bind, throw_run]
      | false =>
        by_cases hcomma : c = ','
        · subst hcomma
          simp only [List.head?_cons, Bool.false_eq_true, ↓reduceIte, bne_self_eq_false, skip_bind,
            List.tail_cons, peek_bind, List.cons.injEq, true_and, exists_eq_left', Char.reduceEq,
            false_and, exists_const, if_false_right]
          cases text.dropWhile isBlank with
          | nil => simp [throw_run]
          | cons d text =>
            by_cases hquote : d = '"'
            · subst hquote
              cases more <;> simp [pure_run]
            · by_cases hend : d = '\x7d'
              · subst hend
                simp [throw_run]
              · simp [hquote, throw_run]
        · cases more <;> simp [hclose, hcomma, throw_bind, throw_run]

theorem fails_wrongType (expected : String) : (wrongType expected : Scan α).Fails := by
  refine .bind fun c? => ?_
  split
  · exact .bind fun _ => .bind fun _ => .throw _
  · exact .bind fun _ => .bind fun _ => .throw _
  · exact .bind fun _ => .bind fun _ => .throw _
  · exact .bind fun _ => .bind fun _ => .throw _
  · exact .bind fun _ => .bind fun _ => .throw _
  · exact .throw _
  · exact .throw _
  · split
    · exact .bind fun _ => .throw _
    · exact .throw _
  · exact .throw _

theorem wrongType_run {expected : String} {cs : List Char} {r : α × List Char} :
    wrongType expected cs = .ok r ↔ False :=
  iff_of_false (fails_wrongType expected cs r) id

/-! ## Lists -/

/-- What a decoder makes of a text. -/
def Reads (d : Scan α) (text : List Char) (a : α) (rest : List Char) : Prop :=
  d text = .ok (a, rest)

theorem elements_run {d : Scan α} (hd : d.Shortens) {fuel : Nat} {first : Bool} {cs : List Char}
    (hfuel : cs.length + first.toNat ≤ fuel) {as : List α} {left : List Char} :
    elements d fuel first cs = .ok (as, left) ↔
      ∃ rest, Items ']' (Element (Reads d)) first cs as rest ∧ ']' :: rest = left := by
  induction fuel generalizing first cs as with
  | zero =>
    constructor
    · intro h
      cases h
    · rintro ⟨rest, h, _⟩
      exact absurd h.length_pos (Nat.not_lt.mpr hfuel)
  | succ fuel ih =>
    -- What is left after an element is shorter, so the rounds that are left are enough for it.
    have hafter {start here after : List Char} {a : α} (hstart : Begins first cs start)
        (hopens : Opens start here) (ha : Reads d here a after) :
        after.length + false.toNat ≤ fuel :=
      Nat.le_of_lt_succ (Nat.lt_of_le_of_lt (Nat.le_trans (hd ha) hopens.length_le)
        (Nat.lt_of_lt_of_le hstart.length_lt hfuel))
    rw [elements, bind_run]
    constructor
    · rintro ⟨more, here, hmore, h⟩
      rw [moreElements_run] at hmore
      cases more with
      | false =>
        cases h
        obtain ⟨rest, hclose, rfl⟩ := hmore
        exact ⟨rest, .close hclose, rfl⟩
      | true =>
        obtain ⟨start, hstart, hopens⟩ := hmore
        obtain ⟨a, after, ha, h⟩ := bind_run.mp h
        obtain ⟨as', out, has, h⟩ := bind_run.mp h
        cases h
        obtain ⟨rest, hitems, rfl⟩ := (ih (hafter hstart hopens ha)).mp has
        exact ⟨rest, items_iff.mpr (.inr ⟨start, a, as', after, rfl, hstart, ⟨here, hopens, ha⟩,
          hitems⟩), rfl⟩
    · rintro ⟨rest, hitems, rfl⟩
      rcases items_iff.mp hitems with
        ⟨rfl, hclose⟩ | ⟨start, a, as', after, rfl, hstart, ⟨here, hopens, ha⟩, has⟩
      · exact ⟨false, _, moreElements_run.mpr ⟨rest, hclose, rfl⟩, rfl⟩
      · refine ⟨true, here, moreElements_run.mpr ⟨start, hstart, hopens⟩, ?_⟩
        refine bind_run.mpr ⟨a, after, ha, bind_run.mpr ⟨as', _, ?_, rfl⟩⟩
        exact (ih (hafter hstart hopens ha)).mpr ⟨rest, has, rfl⟩

theorem next_cons {c : Char} (hc : isBlank c = false) {text rest : List Char} :
    Next (c :: text) c rest ↔ text = rest := by
  rw [Next, List.dropWhile_cons_of_neg (by simp [hc])]
  simp

/-- A list is read as its elements. -/
theorem list_run {d : Scan α} (hd : d.Shortens) {cs rest : List Char} {as : List α} :
    list d cs = .ok (as, rest) ↔ Listing (Reads d) cs as rest := by
  rw [list, peek_bind]
  simp only [Listing, Next]
  cases cs.dropWhile isBlank with
  | nil => simp [throw_run]
  | cons c body =>
    by_cases hc : c = '['
    · subst hc
      have hfuel : body.length + true.toNat ≤ body.length + 1 := Nat.le_refl _
      simp only [List.head?_cons, skip_bind, get_bind, List.tail_cons, bind_run, pure_run,
        endList_run, elements_run hd hfuel]
      constructor
      · rintro ⟨as', _, ⟨rest', hitems, rfl⟩, _, left', hend, rfl, rfl⟩
        obtain rfl := (next_cons rfl).mp hend
        exact ⟨body, rfl, hitems⟩
      · rintro ⟨_, h, hitems⟩
        cases h
        exact ⟨as, _, ⟨rest, hitems, rfl⟩, (), rest, (next_cons rfl).mpr rfl, rfl, rfl⟩
    · simp [hc, wrongType_run]

/-! ## Records -/

/-- Fields with different names, each of which reads a value and puts it in its own place. -/
structure Describes (ks : List κ) (field : κ → Member σ) (name : κ → String)
    (value : (k : κ) → List Char → β k → List Char → Prop) (set : (k : κ) → β k → σ → σ) :
    Prop where
  complete : ∀ k, k ∈ ks
  name_eq : ∀ k, (field k).name = name k
  name_inj : ∀ k k', name k = name k' → k = k'
  decode : ∀ k cs put rest,
    (field k).decode cs = .ok (put, rest) ↔ ∃ v, value k cs v rest ∧ set k v = put
  shortens : ∀ k, (field k).decode.Shortens

/-- What entries make of a record. -/
def filled (set : (k : κ) → β k → σ → σ) (es : List (Sigma β)) (s : σ) : σ :=
  es.foldl (fun s e => set e.1 e.2 s) s

/-- What a place of a record holds in the end: what an entry has put there, or else what it
held before. -/
theorem get_filled (get : (k : κ) → σ → β k) {set : (k : κ) → β k → σ → σ}
    (hself : ∀ k v s, get k (set k v s) = v)
    (hother : ∀ k k' v s, k' ≠ k → get k' (set k v s) = get k' s)
    {es : List (Sigma β)} (hes : (es.map Sigma.fst).Nodup) (s : σ) (k : κ) (v : β k) :
    get k (filled set es s) = v ↔ ⟨k, v⟩ ∈ es ∨ k ∉ es.map Sigma.fst ∧ get k s = v := by
  induction es generalizing s with
  | nil => simp [filled]
  | cons e es ih =>
    rw [List.map_cons, List.nodup_cons] at hes
    change get k (filled set es (set e.1 e.2 s)) = v ↔ _
    rw [ih hes.2, List.map_cons, List.mem_cons, List.mem_cons]
    by_cases hk : k = e.1
    · obtain ⟨k', v'⟩ := e
      obtain rfl : k = k' := hk
      simp [hes.1, hself, eq_comm, or_comm]
    · have hne : (⟨k, v⟩ : Sigma β) ≠ e := fun h => hk (congrArg Sigma.fst h)
      rw [hother _ _ _ _ hk]
      simp [hk, hne]

section

variable {ks : List κ} {field : κ → Member σ} {name : κ → String}
  {value : (k : κ) → List Char → β k → List Char → Prop} {set : (k : κ) → β k → σ → σ}

theorem Describes.find (h : Describes ks field name value set) {key : String} {f : Member σ} :
    (ks.map field).find? (·.name == key) = some f ↔ ∃ k, field k = f ∧ name k = key := by
  constructor
  · intro hfind
    obtain ⟨k, _, rfl⟩ := List.mem_map.mp (List.mem_of_find?_eq_some hfind)
    have hname : (field k).name = key := by simpa using List.find?_some hfind
    exact ⟨k, rfl, (h.name_eq k).symm.trans hname⟩
  · rintro ⟨k, rfl, rfl⟩
    cases hfind : (ks.map field).find? (·.name == name k) with
    | none =>
      have hne := List.find?_eq_none.mp hfind (field k) (List.mem_map_of_mem (h.complete k))
      exact absurd (beq_iff_eq.mpr (h.name_eq k)) hne
    | some f =>
      obtain ⟨k', _, rfl⟩ := List.mem_map.mp (List.mem_of_find?_eq_some hfind)
      have hname : (field k').name = name k := by simpa using List.find?_some hfind
      rw [h.name_inj k' k ((h.name_eq k').symm.trans hname)]

theorem Describes.contains_iff (h : Describes ks field name value set) {seen : List κ} {k : κ} :
    (seen.map name).contains (name k) = true ↔ k ∈ seen := by
  rw [List.contains_iff_mem, List.mem_map]
  constructor
  · rintro ⟨k', hk', hname⟩
    rwa [← h.name_inj k' k hname]
  · exact fun hk => ⟨k, hk, rfl⟩

theorem Describes.missing_eq_none (h : Describes ks field name value set) {seen : List κ} :
    ((ks.map field).find? fun f => !f.isOptional && !(seen.map name).contains f.name) = none ↔
      ∀ k, (field k).isOptional = false → k ∈ seen := by
  simp only [List.find?_eq_none, List.forall_mem_map, h.name_eq, Bool.and_eq_true,
    Bool.not_eq_true', not_and, Bool.not_eq_false, h.contains_iff]
  exact ⟨fun hall k => hall k (h.complete k), fun hall k _ => hall k⟩

theorem Describes.entry_length (h : Describes ks field name value set) {text rest : List Char}
    {e : Sigma β} (he : Entry name value text e rest) : rest.length < text.length := by
  obtain ⟨quoted, named, after, hquoted, hname, hafter, hvalue⟩ := he
  have hle := h.shortens e.1 ((h.decode e.1 after (set e.1 e.2) rest).mpr ⟨e.2, hvalue, rfl⟩)
  exact Nat.lt_of_le_of_lt hle (Nat.lt_trans hafter.length_lt
    (Nat.lt_of_le_of_lt (shortens_stringRest hname) hquoted.length_lt))

/-- One round: the object ends, or an entry is read whose name has not been there. -/
theorem byName_succ (h : Describes ks field name value set) {fuel : Nat} {first : Bool}
    {cs left : List Char} {seen : List κ} {s : σ} {r : List String × σ} :
    byName (ks.map field) (fuel + 1) first (seen.map name) s cs = .ok (r, left) ↔
      (∃ rest, Next cs '\x7d' rest ∧ '\x7d' :: rest = left ∧ (seen.map name, s) = r) ∨
        ∃ start e after, Begins first cs start ∧ Entry name value start e after ∧ e.1 ∉ seen ∧
          byName (ks.map field) fuel false ((e.1 :: seen).map name) (set e.1 e.2 s) after =
            .ok (r, left) := by
  rw [byName, bind_run]
  constructor
  · rintro ⟨more, here, hmore, hrun⟩
    rw [moreKeys_run] at hmore
    cases more with
    | false =>
      cases hrun
      obtain ⟨rest, hclose, rfl⟩ := hmore
      exact .inl ⟨rest, hclose, rfl, rfl⟩
    | true =>
      obtain ⟨start, hstart, quoted, hquoted, rfl⟩ := hmore
      rw [if_pos rfl, skip_bind, List.tail_cons, bind_run] at hrun
      obtain ⟨key, named, hkey, hrun⟩ := hrun
      cases hfind : (ks.map field).find? (·.name == key) with
      | none =>
        rw [hfind] at hrun
        cases hrun
      | some f =>
        rw [hfind] at hrun
        obtain ⟨k, rfl, rfl⟩ := h.find.mp hfind
        by_cases hk : k ∈ seen
        · simp only [if_pos (h.contains_iff.mpr hk)] at hrun
          cases hrun
        · simp only [if_neg (mt h.contains_iff.mp hk)] at hrun
          obtain ⟨_, after, hcolon, hrun⟩ := bind_run.mp hrun
          obtain ⟨put, here, hput, hrun⟩ := bind_run.mp hrun
          obtain ⟨v, hv, rfl⟩ := (h.decode k after put here).mp hput
          exact .inr ⟨start, ⟨k, v⟩, here, hstart,
            ⟨quoted, named, after, hquoted, hkey, colon_run.mp hcolon, hv⟩, hk, hrun⟩
  · rintro (⟨rest, hclose, rfl, rfl⟩ | ⟨start, ⟨k, v⟩, here, hstart,
      ⟨quoted, named, after, hquoted, hkey, hcolon, hv⟩, hk, hrun⟩)
    · exact ⟨false, _, moreKeys_run.mpr ⟨rest, hclose, rfl⟩, rfl⟩
    · refine ⟨true, _, moreKeys_run.mpr ⟨start, hstart, quoted, hquoted, rfl⟩, ?_⟩
      rw [if_pos rfl, skip_bind, List.tail_cons, bind_run]
      refine ⟨_, named, hkey, ?_⟩
      simp only [h.find.mpr ⟨k, rfl, rfl⟩, if_neg (mt h.contains_iff.mp hk)]
      exact bind_run.mpr ⟨(), after, colon_run.mpr hcolon,
        bind_run.mpr ⟨_, here, (h.decode k after _ here).mpr ⟨v, hv, rfl⟩, hrun⟩⟩

/-- The entries of an object, of which none is there twice. -/
theorem byName_run (h : Describes ks field name value set) {fuel : Nat} {first : Bool}
    {cs left : List Char} (hfuel : cs.length + first.toNat ≤ fuel) {seen : List κ}
    (hseen : seen.Nodup) {s : σ} {r : List String × σ} :
    byName (ks.map field) fuel first (seen.map name) s cs = .ok (r, left) ↔
      ∃ es rest, Items '\x7d' (Entry name value) first cs es rest ∧ '\x7d' :: rest = left ∧
        ((es.map Sigma.fst).reverse ++ seen).Nodup ∧
        (((es.map Sigma.fst).reverse ++ seen).map name, filled set es s) = r := by
  induction fuel generalizing first cs seen s with
  | zero =>
    constructor
    · intro h
      cases h
    · rintro ⟨es, rest, h, _⟩
      exact absurd h.length_pos (Nat.not_lt.mpr hfuel)
  | succ fuel ih =>
    have hafter {start after : List Char} {e : Sigma β} (hstart : Begins first cs start)
        (he : Entry name value start e after) : after.length + false.toNat ≤ fuel :=
      Nat.le_of_lt_succ
        (Nat.lt_trans (h.entry_length he) (Nat.lt_of_lt_of_le hstart.length_lt hfuel))
    -- The names that have been seen are kept last first.
    have hsplit (e : Sigma β) (es : List (Sigma β)) :
        ((e :: es).map Sigma.fst).reverse ++ seen = (es.map Sigma.fst).reverse ++ e.1 :: seen := by
      simp
    rw [byName_succ h]
    constructor
    · rintro (⟨rest, hclose, rfl, rfl⟩ | ⟨start, e, after, hstart, he, hk, hrun⟩)
      · exact ⟨[], rest, .close hclose, rfl, hseen, rfl⟩
      · obtain ⟨es, rest, hes, hleft, hnodup, hr⟩ :=
          (ih (hafter hstart he) (List.nodup_cons.mpr ⟨hk, hseen⟩)).mp hrun
        rw [← hsplit] at hnodup hr
        exact ⟨e :: es, rest, items_iff.mpr (.inr ⟨start, e, es, after, rfl, hstart, he, hes⟩),
          hleft, hnodup, hr⟩
    · rintro ⟨es, rest, hitems, hleft, hnodup, hr⟩
      rcases items_iff.mp hitems with
        ⟨rfl, hclose⟩ | ⟨start, e, es', after, rfl, hstart, he, hes⟩
      · exact .inl ⟨rest, hclose, hleft, hr⟩
      · rw [hsplit] at hnodup hr
        have hseen' : (e.1 :: seen).Nodup := (List.nodup_append.mp hnodup).2.1
        exact .inr ⟨start, e, after, hstart, he, (List.nodup_cons.mp hseen').1,
          (ih (hafter hstart he) hseen').mpr ⟨es', rest, hes, hleft, hnodup, hr⟩⟩

/-- The values of a record in the order of its fields, up to the end of the list. -/
theorem byPosition_run (h : Describes ks field name value set) {expected : String} {n : Nat}
    {cs rest : List Char} {ks' : List κ} {s s' : σ} :
    (do
      let s ← byPosition expected n (ks'.map field) s
      endList
      return s : Scan σ) cs = .ok (s', rest) ↔
      ∃ es, Items ']' (Element fun text (e : Sigma β) => value e.1 text e.2) (n == 0) cs es rest ∧
        es.map Sigma.fst = ks' ∧ filled set es s = s' := by
  induction ks' generalizing n cs s with
  | nil =>
    constructor
    · intro hrun
      obtain ⟨_, here, hs, hrun⟩ := bind_run.mp hrun
      cases hs
      obtain ⟨_, left, hend, hrun⟩ := bind_run.mp hrun
      cases hrun
      exact ⟨[], .close (endList_run.mp hend), rfl, rfl⟩
    · rintro ⟨es, hitems, hes, rfl⟩
      rcases items_iff.mp hitems with ⟨rfl, hclose⟩ | ⟨_, e, es', _, rfl, _⟩
      · exact bind_run.mpr ⟨s, cs, rfl, bind_run.mpr ⟨(), rest, endList_run.mpr hclose, rfl⟩⟩
      · cases hes
  | cons k ks' ih =>
    rw [List.map_cons, byPosition, bind_assoc, bind_run]
    constructor
    · rintro ⟨more, here, hmore, hrun⟩
      cases more with
      | false => exact absurd hrun (by simp [throw_bind, throw_run])
      | true =>
        obtain ⟨start, hstart, hopens⟩ := moreElements_run.mp hmore
        rw [if_pos rfl, bind_assoc, bind_run] at hrun
        obtain ⟨put, after, hput, hrun⟩ := hrun
        obtain ⟨v, hv, rfl⟩ := (h.decode k here put after).mp hput
        obtain ⟨es, hes, rfl, rfl⟩ := ih.mp hrun
        exact ⟨⟨k, v⟩ :: es, items_iff.mpr (.inr ⟨start, _, es, after, rfl, hstart,
          ⟨here, hopens, hv⟩, hes⟩), rfl, rfl⟩
    · rintro ⟨es, hitems, hks, rfl⟩
      rcases items_iff.mp hitems with
        ⟨rfl, _⟩ | ⟨start, ⟨k', v⟩, es', after, rfl, hstart, ⟨here, hopens, hv⟩, hes⟩
      · cases hks
      · cases hks
        refine ⟨true, here, moreElements_run.mpr ⟨start, hstart, hopens⟩, ?_⟩
        rw [if_pos rfl, bind_assoc, bind_run]
        exact ⟨_, after, (h.decode k' here _ after).mpr ⟨v, hv, rfl⟩, ih.mpr ⟨es', hes, rfl, rfl⟩⟩

/-- A record is read from an object that has no name twice and leaves out nothing but what is
optional, or from a list of all values. -/
theorem record_run (h : Describes ks field name value set) {shape : String} {start s : σ}
    {cs rest : List Char} :
    record shape (ks.map field) start cs = .ok (s, rest) ↔
      ∃ es, filled set es start = s ∧
        ((Object name value cs es rest ∧ (es.map Sigma.fst).Nodup ∧
            ∀ k, (field k).isOptional = false → k ∈ es.map Sigma.fst) ∨
          (Listing (fun text (e : Sigma β) => value e.1 text e.2) cs es rest ∧
            es.map Sigma.fst = ks)) := by
  rw [record, peek_bind]
  simp only [Object, Listing, Next]
  cases cs.dropWhile isBlank with
  | nil => simp [throw_run]
  | cons c body =>
    by_cases hlist : c = '['
    · subst hlist
      refine (byPosition_run h).trans ?_
      simp [and_comm, and_assoc]
    · by_cases hobject : c = '\x7b'
      · subst hobject
        have hfuel : body.length + true.toNat ≤ body.length + 1 := Nat.le_refl _
        simp only [List.head?_cons, skip_bind, get_bind, List.tail_cons, bind_run]
        have hnone : ([] : List κ).Nodup := List.nodup_nil
        constructor
        · rintro ⟨r, left, hrun, hend⟩
          obtain ⟨es, rest', hitems, rfl, hnodup, rfl⟩ := (byName_run h hfuel hnone).mp hrun
          rw [List.append_nil] at hnodup hend
          cases hmissing : (ks.map field).find? fun f =>
              !f.isOptional && !((es.map Sigma.fst).reverse.map name).contains f.name with
          | some f =>
            rw [hmissing] at hend
            cases hend
          | none =>
            rw [hmissing] at hend
            cases hend
            refine ⟨es, rfl, .inl ⟨⟨body, rfl, hitems⟩, List.nodup_reverse.mp hnodup, ?_⟩⟩
            exact fun k hk => List.mem_reverse.mp (h.missing_eq_none.mp hmissing k hk)
        · rintro ⟨es, rfl, ⟨⟨_, hbody, hitems⟩, hnodup, hall⟩ | ⟨⟨_, hbody, _⟩, _⟩⟩
          · cases hbody
            refine ⟨_, _, (byName_run h hfuel hnone).mpr ⟨es, rest, hitems, rfl, ?_, rfl⟩, ?_⟩
            · rw [List.append_nil]
              exact List.nodup_reverse.mpr hnodup
            · rw [List.append_nil, h.missing_eq_none.mpr fun k hk =>
                List.mem_reverse.mpr (hall k hk)]
              rfl
          · cases hbody
      · simp [hlist, hobject, wrongType_run]

end

/-! ## Values that may be null -/

/-- What stands here: null, or else a value. -/
inductive OrNull (value : List Char → α → List Char → Prop) (text : List Char) :
    Option α → List Char → Prop
  | null {rest : List Char} :
    Next text 'n' ('u' :: 'l' :: 'l' :: rest) → OrNull value text none rest
  | value {a : α} {rest : List Char} : (text.dropWhile isBlank).head? ≠ some 'n' →
    value (text.dropWhile isBlank) a rest → OrNull value text (some a) rest

theorem optional_run {d : Scan α} {cs rest : List Char} {a? : Option α} :
    optional d cs = .ok (a?, rest) ↔ OrNull (Reads d) cs a? rest := by
  rw [optional, peek_bind]
  by_cases hn : (cs.dropWhile isBlank).head? = some 'n'
  · obtain ⟨text, htext⟩ := List.head?_eq_some_iff.mp hn
    simp only [htext, List.head?_cons, skip_bind, List.tail_cons, bind_run, word_run, pure_run]
    constructor
    · rintro ⟨_, _, rfl, rfl, rfl⟩
      exact .null htext
    · intro h
      cases h with
      | null h =>
        rw [Next, htext] at h
        cases h
        exact ⟨(), _, rfl, rfl, rfl⟩
      | value hne _ => exact absurd hn hne
  · simp only [bind_run, pure_run]
    constructor
    · rintro ⟨a, _, ha, rfl, rfl⟩
      exact .value hn ha
    · intro h
      cases h with
      | null h =>
        rw [h] at hn
        exact absurd rfl hn
      | value _ ha => exact ⟨_, _, ha, rfl, rfl⟩

/-- A document is one value, with nothing but blanks after it. -/
theorem document_eq_ok_iff {d : Scan α} {text : String} {a : α} :
    document d text = .ok a ↔ ∃ rest, Reads d text.toList a rest ∧ rest.all isBlank = true := by
  have hend (a' : α) (rest : List Char) :
      (if rest.all isBlank then pure a' else throw Fault.trailingCharacters : Except Fault α) =
        .ok a ↔ a' = a ∧ rest.all isBlank = true := by
    by_cases hblank : rest.all isBlank = true
    · simp [hblank, pure, Except.pure]
    · simp [hblank, throw, throwThe, MonadExceptOf.throw]
  rw [document, bind_eq_ok, Prod.exists]
  simp only [hend]
  constructor
  · rintro ⟨_, rest, ha, rfl, hblank⟩
    exact ⟨rest, ha, hblank⟩
  · rintro ⟨rest, ha, hblank⟩
    exact ⟨a, rest, ha, rfl, hblank⟩

end Decoder

end LogCourier.Json
