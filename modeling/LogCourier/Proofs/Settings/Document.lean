import LogCourier.Proofs.Json.Records
import LogCourier.Proofs.Settings.Setting
import LogCourier.Settings.Document

/-!
# What a settings file says

A document names each setting once at most, by its member, and says for it what the value there is
read as, if it is not null (`Setting.Document`).  This is what the layer of the document says, and a
document that says nothing in this sense cannot be read (`Layer.ofDocument_eq_ok_iff`).
-/

namespace LogCourier

open Json Json.Scan Json.Decoder

/-! ## Sources -/

namespace Source

/-- What is said of a source. -/
inductive Part
  | id
  | path
deriving DecidableEq, Repr

namespace Part

def all : List Part := [.id, .path]

/-- The member of a source that gives a part of it. -/
def member : Part → String
  | .id => "id"
  | .path => "path"

def decode : Part → Scan String
  | .id => string "a string"
  | .path => string "path string"

end Part

def get (s : Source) : Part → String
  | .id => s.id
  | .path => s.path

def set (s : Source) : Part → String → Source
  | .id, text => { s with id := text }
  | .path, text => { s with path := text }

/-- What a source is written as: an object that names each part once, or a list of both. -/
def Written (text : List Char) (s : Source) (rest : List Char) : Prop :=
  ∃ es : List ((_ : Part) × String),
    ((Object Part.member (fun p => Reads p.decode) text es rest ∧ (es.map Sigma.fst).Nodup ∧
          ∀ p, p ∈ es.map Sigma.fst) ∨
        Listing (fun text (e : (_ : Part) × String) => Reads e.1.decode text e.2) text es rest ∧
          es.map Sigma.fst = Part.all) ∧
      ∀ p, ⟨p, s.get p⟩ ∈ es

/-- The field of a source that gives a part of it. -/
def field (p : Part) : Member Source where
  name := p.member
  decode := do
    let text ← p.decode
    return fun s => s.set p text
  isOptional := false

theorem describes :
    Describes Part.all field Part.member (fun p => Reads p.decode)
      (fun p text s => s.set p text) where
  complete p := by cases p <;> decide
  name_eq _ := rfl
  name_inj p p' h := by
    cases p <;> cases p' <;> first | rfl | exact absurd h (by decide)
  decode p cs put rest := by
    rw [field, bind_pure_comp]
    exact map_run
  shortens p := by
    refine .bind ?_ fun _ => .pure _
    cases p <;> exact shortens_string _

theorem ext_get {s s' : Source} (h : ∀ p, s.get p = s'.get p) : s = s' := by
  cases s
  cases s'
  rw [mk.injEq]
  exact ⟨h .id, h .path⟩

theorem filled_eq_iff {es : List ((_ : Part) × String)} (hes : (es.map Sigma.fst).Nodup)
    (hall : ∀ p, p ∈ es.map Sigma.fst) {start s : Source} :
    filled (fun p text s => s.set p text) es start = s ↔ ∀ p, ⟨p, s.get p⟩ ∈ es := by
  have hget (p : Part) (text : String) :
      (filled (fun p text s => s.set p text) es start).get p = text ↔ ⟨p, text⟩ ∈ es := by
    refine (get_filled (fun p s => s.get p) ?_ ?_ hes start p text).trans ?_
    · intro p text s
      cases p <;> rfl
    · intro p p' text s hne
      cases p <;> cases p' <;> first | rfl | exact absurd rfl hne
    · exact or_iff_left fun h => h.1 (hall p)
  constructor
  · rintro rfl p
    exact (hget p _).mp rfl
  · exact fun h => ext_get fun p => (hget p _).mpr (h p)

theorem sourceFields_eq : Layer.sourceFields = Part.all.map field := rfl

theorem shortens_decodeSource : Layer.decodeSource.Shortens := by
  rw [Layer.decodeSource, sourceFields_eq]
  exact shortens_record (List.forall_mem_map.mpr fun p _ => describes.shortens p) _ _

theorem reads_decodeSource : Reads Layer.decodeSource = Written := by
  have hall (es : List ((_ : Part) × String)) (hes : es.map Sigma.fst = Part.all) :
      (es.map Sigma.fst).Nodup ∧ ∀ p, p ∈ es.map Sigma.fst := by
    rw [hes]
    exact ⟨by decide, fun p => by cases p <;> decide⟩
  have hrequired (p : Part) : (field p).isOptional = false := rfl
  funext text s rest
  rw [Reads, Layer.decodeSource, sourceFields_eq, eq_iff_iff, record_run describes]
  simp only [hrequired, forall_const]
  refine exists_congr fun es => ?_
  rw [and_comm]
  refine and_congr_right fun hes => ?_
  rcases hes with ⟨_, hnodup, hparts⟩ | ⟨_, hes⟩
  · exact filled_eq_iff hnodup hparts
  · exact filled_eq_iff (hall es hes).1 (hall es hes).2

end Source

/-! ## Settings -/

namespace Setting

/-- The member of a settings file that gives a setting. -/
def member : Setting → String
  | .sources => "streams"
  | .remoteHost => "remote_host"
  | .remotePort => "remote_port"
  | .protocol => "remote_proto"
  | .maxOpenAttempts => "max_open_attempts"
  | .openRetryDelay => "open_retry_delay_ms"
  | .maxConnectAttempts => "max_connect_attempts"
  | .connectRetryDelay => "connect_retry_delay_ms"
  | .rateLimit => "rate_limit"
  | .rateWindow => "rate_time_ms"
  | .truncateLimit => "truncate_limit"
  | .repeatThreshold => "repeat_threshold"
  | .pollInterval => "poll_interval_ms"
  | .identifier => "identifier"
  | .facility => "facility"
  | .severity => "severity"
  | .logLevel => "log_level"
  | .logFile => "log_file"
  | .pidFile => "pid_file"

/-- What the value of a setting is written as. -/
def Written : (k : Setting) → List Char → k.Value → List Char → Prop
  | .sources => Listing Source.Written
  | .remoteHost | .identifier | .logLevel => Reads (string "a string")
  | .protocol => Reads Layer.decodeProtocol
  | .facility => Reads Layer.decodeFacility
  | .severity => Reads Layer.decodeSeverity
  | .logFile | .pidFile => fun text v rest =>
    ∃ path, Reads (string "path string") text path rest ∧ some path = v
  | .remotePort => Reads (natural Numeral.max16 "u16")
  | .maxOpenAttempts | .maxConnectAttempts | .rateLimit | .repeatThreshold =>
    Reads (natural Numeral.max32 "u32")
  | .openRetryDelay | .connectRetryDelay | .rateWindow | .truncateLimit | .pollInterval =>
    Reads (natural Numeral.max64 "u64")

/-- What stands in a document under the member of a setting: null, or else a value. -/
def Stands (k : Setting) : List Char → Option k.Value → List Char → Prop := OrNull k.Written

/-- The entries of a settings file: an object that names each setting once at most, or a list of the
values of all settings. -/
def Entries (text : List Char) (es : List ((k : Setting) × Option k.Value)) (rest : List Char) :
    Prop :=
  Object member Stands text es rest ∧ (es.map Sigma.fst).Nodup ∨
    Listing (fun text (e : (k : Setting) × Option k.Value) => e.1.Stands text e.2) text es rest ∧
      es.map Sigma.fst = all

/-- What a document says about the settings: for each of them the value of its entry, unless there
is none or it is null. -/
def Document (json : String) (given : Values) : Prop :=
  ∃ es rest, Entries json.toList es rest ∧ rest.all isBlank = true ∧
    ∀ k v, given k = some v ↔ ⟨k, some v⟩ ∈ es

/-- How the value of a setting is read from a settings file. -/
def decode : (k : Setting) → Scan k.Value
  | .sources => list Layer.decodeSource
  | .remoteHost | .identifier | .logLevel => string "a string"
  | .protocol => Layer.decodeProtocol
  | .facility => Layer.decodeFacility
  | .severity => Layer.decodeSeverity
  | .logFile | .pidFile => some <$> string "path string"
  | .remotePort => natural Numeral.max16 "u16"
  | .maxOpenAttempts | .maxConnectAttempts | .rateLimit | .repeatThreshold =>
    natural Numeral.max32 "u32"
  | .openRetryDelay | .connectRetryDelay | .rateWindow | .truncateLimit | .pollInterval =>
    natural Numeral.max64 "u64"

/-- The field of a settings file that gives a setting. -/
def field (k : Setting) : Member Layer where
  name := k.member
  decode := do
    let v ← optional k.decode
    return fun l => l.set k v
  isOptional := true

end Setting

theorem optional_map {α γ : Type} (f : α → γ) (d : Scan α) :
    Decoder.optional (f <$> d) = Option.map f <$> Decoder.optional d := by
  rw [Decoder.optional, Decoder.optional, map_bind]
  congr 1
  funext c?
  split
  · simp only [map_bind, map_pure, Option.map_none]
  · simp only [map_bind, map_pure, bind_map_left, Option.map_some]

namespace Layer

theorem member_path_eq (name : String) (put : Layer → Option (Option String) → Layer) :
    (member name (string "path string") fun l p => put l (p.map some)) =
      ⟨name, do
        let v ← Decoder.optional (some <$> string "path string")
        return fun l => put l v, true⟩ := by
  rw [member, optional_map, bind_map_left]

/-- Each setting has the member of its name, and what stands there is put into it. -/
theorem members_eq : members = Setting.all.map Setting.field := by
  simp only [members, Setting.all, List.map_cons, List.map_nil, List.cons.injEq, and_true]
  refine ⟨rfl, rfl, rfl, rfl, rfl, rfl, rfl, rfl, rfl, rfl, rfl, rfl, rfl, rfl, rfl,
    rfl, rfl, ?_, ?_⟩
  · exact member_path_eq "log_file" fun l v => { l with logFile := v }
  · exact member_path_eq "pid_file" fun l v => { l with pidFile := v }

end Layer

namespace Setting

theorem shortens_decode (k : Setting) : k.decode.Shortens := by
  cases k with
  | sources => exact shortens_list Source.shortens_decodeSource
  | remoteHost | identifier | logLevel => exact shortens_string _
  | protocol | facility | severity => exact shortens_oneOf _
  | logFile | pidFile => exact .bind (shortens_string _) fun _ => .pure _
  | _ => exact shortens_natural _ _

theorem mem_all (k : Setting) : k ∈ all := by
  cases k <;> decide

theorem reads_decode (k : Setting) : Reads k.decode = k.Written := by
  cases k with
  | sources =>
    have hlist (text : List Char) (sources : List Source) (rest : List Char) :
        Reads (list Layer.decodeSource) text sources rest =
          Listing Source.Written text sources rest := by
      rw [← Source.reads_decodeSource]
      exact propext (list_run Source.shortens_decodeSource)
    funext text sources rest
    exact hlist text sources rest
  | logFile | pidFile =>
    funext text v rest
    exact propext map_run
  | _ => rfl

theorem describes : Describes all field member Stands fun k v l => l.set k v where
  complete := mem_all
  name_eq _ := rfl
  name_inj k k' h :=
    List.inj_on_of_nodup_map (by decide : (all.map member).Nodup) (mem_all k) (mem_all k') h
  decode k cs put rest := by
    rw [field, bind_pure_comp, map_run, Stands, ← reads_decode]
    exact exists_congr fun v => and_congr_left fun _ => optional_run
  shortens k := .bind (shortens_optional k.shortens_decode) fun _ => .pure _

theorem Entries.nodup {text rest : List Char} {es : List ((k : Setting) × Option k.Value)}
    (h : Entries text es rest) : (es.map Sigma.fst).Nodup := by
  rcases h with ⟨_, hnodup⟩ | ⟨_, hall⟩
  · exact hnodup
  · rw [hall]
    decide

theorem get?_filled {es : List ((k : Setting) × Option k.Value)} (hes : (es.map Sigma.fst).Nodup)
    (k : Setting) (v : k.Value) :
    (filled (fun k v (l : Layer) => l.set k v) es {}).get? k = some v ↔ ⟨k, some v⟩ ∈ es := by
  have hnone : Layer.get? {} k = none := by
    cases k <;> rfl
  refine (get_filled (fun k (l : Layer) => l.get? k) (fun k v l => l.get?_set_self k v)
    (fun k k' v l h => l.get?_set_of_ne h v) hes {} k (some v)).trans ?_
  simp [hnone]

end Setting

namespace Layer

theorem decode_run {cs rest : List Char} {l : Layer} :
    decode cs = .ok (l, rest) ↔
      ∃ es, filled (fun k v (l : Layer) => l.set k v) es {} = l ∧ Setting.Entries cs es rest := by
  have hoptional (k : Setting) : k.field.isOptional = true := rfl
  rw [decode, members_eq, record_run Setting.describes]
  simp only [hoptional, Bool.true_eq_false, IsEmpty.forall_iff, implies_true, and_true]
  rfl

/-- The layer of a document says what the document says. -/
theorem ofDocument_eq_ok_iff {json : String} {given : Setting.Values} :
    (∃ l, ofDocument json = .ok l ∧ l.get? = given) ↔ Setting.Document json given := by
  have hmap (l : Layer) : ofDocument json = .ok l ↔ document decode json = .ok l := by
    rw [ofDocument]
    cases document decode json <;> simp [Except.mapError]
  simp only [hmap, document_eq_ok_iff]
  constructor
  · rintro ⟨l, ⟨rest, hl, hblank⟩, rfl⟩
    obtain ⟨es, rfl, hes⟩ := decode_run.mp hl
    exact ⟨es, rest, hes, hblank, Setting.get?_filled hes.nodup⟩
  · rintro ⟨es, rest, hes, hblank, hgiven⟩
    refine ⟨_, ⟨rest, decode_run.mpr ⟨es, rfl, hes⟩, hblank⟩, ?_⟩
    funext k
    exact Option.ext fun v => (Setting.get?_filled hes.nodup k v).trans (hgiven k v).symm

end Layer

end LogCourier
