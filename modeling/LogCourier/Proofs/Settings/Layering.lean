import LogCourier.Program.Start
import LogCourier.Proofs.Settings.Document
import LogCourier.Proofs.Settings.Options

/-!
# Where the value of each setting comes from

A setting is decided by the command line, or else by the environment, or else by the
settings file, or else by its default: `Setting.chosen` says so for all settings
alike.  Loading follows it for each of them, and fails with the first fault of what
has been chosen (`Program.loadSettings_layered`).
-/

namespace LogCourier

namespace Setting

/-- The variable that a setting is read from. -/
def key : Setting → String
  | .sources => Variables.sources
  | .remoteHost => Variables.remoteHost
  | .remotePort => Variables.remotePort
  | .protocol => Variables.protocol
  | .maxOpenAttempts => Variables.maxOpenAttempts
  | .openRetryDelay => Variables.openRetryDelay
  | .maxConnectAttempts => Variables.maxConnectAttempts
  | .connectRetryDelay => Variables.connectRetryDelay
  | .rateLimit => Variables.rateLimit
  | .rateWindow => Variables.rateWindow
  | .truncateLimit => Variables.truncateLimit
  | .repeatThreshold => Variables.repeatThreshold
  | .pollInterval => Variables.pollInterval
  | .identifier => Variables.identifier
  | .facility => Variables.facility
  | .severity => Variables.severity
  | .logLevel => Variables.logLevel
  | .logFile => Variables.logFile
  | .pidFile => Variables.pidFile

/-- The option of the command line that gives a setting, if there is one. -/
def option? : Setting → Option CommandOption
  | .sources => some .source
  | .remoteHost => some .remoteHost
  | .remotePort => some .remotePort
  | .protocol => some .protocol
  | .identifier => some .identifier
  | .facility => some .facility
  | .severity => some .severity
  | .logLevel => some .logLevel
  | .logFile => some .logFile
  | .pidFile => some .pidFile
  | .maxOpenAttempts | .openRetryDelay | .maxConnectAttempts | .connectRetryDelay | .rateLimit
    | .rateWindow
  | .truncateLimit | .repeatThreshold | .pollInterval => none

/-- A value that is read without the blanks around it. -/
def readTrimmed {α : Type} (k : Setting) (read : String → Except ValueError α) (text : String) :
    Except SettingsError α :=
  (read (Text.trim text)).mapError (.badValue k.key text)

/-- What a setting is according to a text; a blank text for a file says that there is none. -/
def read : (k : Setting) → String → Except SettingsError k.Value
  | .sources => Source.readList Variables.sources
  | .remoteHost => fun text => .ok (Text.trim text)
  | .remotePort => readTrimmed .remotePort (Numeral.read Numeral.max16)
  | .protocol => readTrimmed .protocol Protocol.read
  | .maxOpenAttempts => readTrimmed .maxOpenAttempts (Numeral.read Numeral.max32)
  | .openRetryDelay => readTrimmed .openRetryDelay (Numeral.read Numeral.max64)
  | .maxConnectAttempts => readTrimmed .maxConnectAttempts (Numeral.read Numeral.max32)
  | .connectRetryDelay => readTrimmed .connectRetryDelay (Numeral.read Numeral.max64)
  | .rateLimit => readTrimmed .rateLimit (Numeral.read Numeral.max32)
  | .rateWindow => readTrimmed .rateWindow (Numeral.read Numeral.max64)
  | .truncateLimit => readTrimmed .truncateLimit (Numeral.read Numeral.max64)
  | .repeatThreshold => readTrimmed .repeatThreshold (Numeral.read Numeral.max32)
  | .pollInterval => readTrimmed .pollInterval (Numeral.read Numeral.max64)
  | .identifier | .logLevel => fun text => .ok text
  | .facility => readTrimmed .facility Facility.read
  | .severity => readTrimmed .severity Severity.read
  | .logFile | .pidFile => fun text =>
    .ok (if Text.trim text = "" then none else some (Text.trim text))

end Setting

/-! ## The environment -/

namespace Variables

/-- What the variables say about a setting, if they say anything. -/
def get? (vars : Variables) (k : Setting) : Except SettingsError (Option k.Value) :=
  match vars k.key with
  | none => .ok none
  | some text => some <$> k.read text

/-- A setting that any text is good for. -/
theorem get?_of_total {vars : Variables} {k : Setting} {f : String → k.Value}
    (h : ∀ text, k.read text = .ok (f text)) : vars.get? k = .ok ((vars k.key).map f) := by
  rw [get?]
  cases vars k.key with
  | none => rfl
  | some text =>
    simp only [h]
    rfl

end Variables

theorem findSome?_cons_or {α β : Type} (f : α → Option β) (a : α) (l : List α) :
    (a :: l).findSome? f = (f a).or (l.findSome? f) := by
  rw [List.findSome?_cons]
  cases f a <;> rfl

namespace Layer

theorem value_eq {α : Type} (vars : Variables) (k : Setting) (read : String → Except ValueError α) :
    value vars k.key read =
      match vars k.key with
      | none => .ok none
      | some text => some <$> k.readTrimmed read text := by
  rw [value]
  cases vars k.key with
  | none => rfl
  | some text =>
    simp only [Setting.readTrimmed]
    cases read (Text.trim text) <;> rfl

theorem ofVariables_eq (vars : Variables) :
    ofVariables vars =
      (vars.get? .sources : Except SettingsError (Option (List Source))) >>= fun sources => do
        let remotePort ← value vars Variables.remotePort (Numeral.read Numeral.max16)
        let protocol ← value vars Variables.protocol Protocol.read
        let maxOpenAttempts ← value vars Variables.maxOpenAttempts (Numeral.read Numeral.max32)
        let openRetryDelay ← value vars Variables.openRetryDelay (Numeral.read Numeral.max64)
        let maxConnectAttempts ← value vars Variables.maxConnectAttempts
          (Numeral.read Numeral.max32)
        let connectRetryDelay ← value vars Variables.connectRetryDelay (Numeral.read Numeral.max64)
        let rateLimit ← value vars Variables.rateLimit (Numeral.read Numeral.max32)
        let rateWindow ← value vars Variables.rateWindow (Numeral.read Numeral.max64)
        let truncateLimit ← value vars Variables.truncateLimit (Numeral.read Numeral.max64)
        let repeatThreshold ← value vars Variables.repeatThreshold (Numeral.read Numeral.max32)
        let pollInterval ← value vars Variables.pollInterval (Numeral.read Numeral.max64)
        let facility ← value vars Variables.facility Facility.read
        let severity ← value vars Variables.severity Severity.read
        return {
          sources, remotePort, protocol, maxOpenAttempts, openRetryDelay, maxConnectAttempts,
          connectRetryDelay, rateLimit, rateWindow, truncateLimit, repeatThreshold, pollInterval,
          facility, severity
          remoteHost := (vars Variables.remoteHost).map Text.trim
          identifier := vars Variables.identifier
          logLevel := vars Variables.logLevel
          logFile := (vars Variables.logFile).map fileName
          pidFile := (vars Variables.pidFile).map fileName } := by
  rw [ofVariables, Variables.get?, Setting.key]
  cases vars Variables.sources <;> rfl

theorem ofVariables_get? {vars : Variables} {l : Layer} (h : ofVariables vars = .ok l)
    (k : Setting) : vars.get? k = .ok (l.get? k) := by
  rw [ofVariables_eq] at h
  simp only [bind_eq_ok] at h
  obtain ⟨sources, hsources, remotePort, hremotePort, protocol, hprotocol, maxOpenAttempts,
    hmaxOpenAttempts, openRetryDelay, hopenRetryDelay, maxConnectAttempts, hmaxConnectAttempts,
    connectRetryDelay, hconnectRetryDelay, rateLimit, hrateLimit, rateWindow, hrateWindow,
    truncateLimit, htruncateLimit, repeatThreshold, hrepeatThreshold, pollInterval, hpollInterval,
    facility, hfacility, severity, hseverity, h⟩ := h
  cases h
  cases k with
  | sources => exact hsources
  | remotePort => exact (value_eq vars .remotePort _).symm.trans hremotePort
  | protocol => exact (value_eq vars .protocol _).symm.trans hprotocol
  | maxOpenAttempts => exact (value_eq vars .maxOpenAttempts _).symm.trans hmaxOpenAttempts
  | openRetryDelay => exact (value_eq vars .openRetryDelay _).symm.trans hopenRetryDelay
  | maxConnectAttempts => exact (value_eq vars .maxConnectAttempts _).symm.trans hmaxConnectAttempts
  | connectRetryDelay => exact (value_eq vars .connectRetryDelay _).symm.trans hconnectRetryDelay
  | rateLimit => exact (value_eq vars .rateLimit _).symm.trans hrateLimit
  | rateWindow => exact (value_eq vars .rateWindow _).symm.trans hrateWindow
  | truncateLimit => exact (value_eq vars .truncateLimit _).symm.trans htruncateLimit
  | repeatThreshold => exact (value_eq vars .repeatThreshold _).symm.trans hrepeatThreshold
  | pollInterval => exact (value_eq vars .pollInterval _).symm.trans hpollInterval
  | facility => exact (value_eq vars .facility _).symm.trans hfacility
  | severity => exact (value_eq vars .severity _).symm.trans hseverity
  | remoteHost => exact Variables.get?_of_total fun _ => rfl
  | logFile | pidFile => exact Variables.get?_of_total fun _ => rfl
  | identifier | logLevel =>
    exact (Variables.get?_of_total (f := id) fun _ => rfl).trans
      (congrArg Except.ok (congrFun Option.map_id _))

theorem fault?_value {vars : Variables} {α β : Type} (k : Setting)
    {read : String → Except ValueError α} {f : Option α → Except SettingsError β}
    {rest : Option SettingsError} (h : ∀ a, fault? (f a) = rest) :
    fault? (value vars k.key read >>= f) =
      (fault? (match vars k.key with
        | none => .ok none
        | some text => some <$> k.readTrimmed read text)).or rest := by
  rw [← value_eq]
  exact fault?_bind h

/-- The first setting that cannot be read is at fault. -/
theorem fault?_ofVariables (vars : Variables) :
    fault? (ofVariables vars) = Setting.all.findSome? fun k => fault? (vars.get? k) := by
  have htotal (k : Setting) (f : String → k.Value) (h : ∀ text, k.read text = .ok (f text)) :
      fault? (vars.get? k) = none := by
    rw [Variables.get?_of_total h]
    rfl
  simp only [Setting.all, findSome?_cons_or, List.findSome?_nil]
  rw [htotal .remoteHost _ fun _ => rfl, htotal .identifier id fun _ => rfl,
    htotal .logLevel id fun _ => rfl, htotal .logFile _ fun _ => rfl,
    htotal .pidFile _ fun _ => rfl]
  simp only [Option.none_or]
  rw [ofVariables_eq]
  exact fault?_bind fun _ => fault?_value .remotePort fun _ => fault?_value .protocol fun _ =>
    fault?_value .maxOpenAttempts fun _ => fault?_value .openRetryDelay fun _ =>
    fault?_value .maxConnectAttempts fun _ => fault?_value .connectRetryDelay fun _ =>
    fault?_value .rateLimit fun _ => fault?_value .rateWindow fun _ =>
    fault?_value .truncateLimit fun _ => fault?_value .repeatThreshold fun _ =>
    fault?_value .pollInterval fun _ => fault?_value .facility fun _ =>
    fault?_value .severity fun _ => rfl

end Layer

/-! ## The command line -/

theorem lookup_filterMap_key {l : List CommandOption} (hkeys : (l.map CommandOption.key).Nodup)
    (value? : CommandOption → Option String) (name : String) :
    (l.filterMap fun o => (value? o).map (o.key, ·)).lookup name =
      (l.find? fun o => o.key == name).bind value? := by
  induction l with
  | nil => rfl
  | cons o l ih =>
    rw [List.map_cons, List.nodup_cons] at hkeys
    have hrest := ih hkeys.2
    by_cases hkey : o.key = name
    · rw [List.find?_cons_of_pos (by simpa using hkey), Option.bind_some]
      cases hvalue : value? o with
      | none =>
        have hnone : (l.find? fun o => o.key == name) = none := by
          rw [List.find?_eq_none]
          intro o' ho' hsame
          rw [beq_iff_eq, ← hkey] at hsame
          exact hkeys.1 (hsame ▸ List.mem_map_of_mem ho')
        rw [List.filterMap_cons_none (by rw [hvalue]; rfl), hrest, hnone]
        rfl
      | some v =>
        rw [List.filterMap_cons_some (by rw [hvalue]; rfl), hkey, List.lookup_cons_self]
    · rw [List.find?_cons_of_neg (by simpa using hkey)]
      cases hvalue : value? o with
      | none => rw [List.filterMap_cons_none (by rw [hvalue]; rfl), hrest]
      | some v =>
        have hother : (name == o.key) = false := beq_eq_false_iff_ne.mpr (Ne.symm hkey)
        rw [List.filterMap_cons_some (by rw [hvalue]; rfl), List.lookup_cons, hother]
        exact hrest

namespace Arguments

/-- What the command line says about a setting. -/
def said? (a : Arguments) (k : Setting) : Option String := k.option?.bind a.override?

theorem lookup_overrides (a : Arguments) (name : String) :
    a.overrides.lookup name = (CommandOption.all.find? fun o => o.key == name).bind a.override? :=
  lookup_filterMap_key (by decide) a.override? name

theorem overlay_key (a : Arguments) (vars : Variables) (k : Setting) :
    a.overlay vars k.key = (a.said? k).or (vars k.key) := by
  have hoption : (CommandOption.all.find? fun o => o.key == k.key) = k.option? := by
    cases k <;> decide
  rw [overlay, Variables.overlaid, lookup_overrides, hoption, said?]

theorem overlay_settingsFile (a : Arguments) (vars : Variables) :
    a.overlay vars Variables.settingsFile = vars Variables.settingsFile := by
  have hnone : (CommandOption.all.find? fun o => o.key == Variables.settingsFile) = none := by
    decide
  rw [overlay, Variables.overlaid, lookup_overrides, hnone]
  rfl

end Arguments

/-! ## The settings file -/

/-- What the file at a path says about the settings, or why it says nothing: it cannot be read, or
it is not text, or the text is not a document of settings. -/
inductive FileReader.Says (read : FileReader) (path : String) :
    Except SettingsError Setting.Values → Prop
  | unreadable {cause : SystemError} :
    read path = .error cause → Says read path (.error (.unreadable path cause))
  | notText {bytes : Bytes} :
    read path = .ok bytes → String.fromUTF8? bytes.toByteArray = none →
      Says read path (.error (.notText path))
  | badDocument {bytes : Bytes} {json : String} {fault : Json.Fault} :
    read path = .ok bytes → String.fromUTF8? bytes.toByteArray = some json →
      (∀ given, ¬Setting.Document json given) →
        Json.Decoder.document Layer.decode json = .error fault →
          Says read path (.error (.badDocument fault))
  | document {bytes : Bytes} {json : String} {given : Setting.Values} :
    read path = .ok bytes → String.fromUTF8? bytes.toByteArray = some json →
      Setting.Document json given → Says read path (.ok given)

theorem Layer.map_get?_ofFile_iff {read : FileReader} {path : String}
    {file : Except SettingsError Setting.Values} :
    (ofFile read path).map get? = file ↔ read.Says path file := by
  constructor
  · rintro rfl
    rw [ofFile]
    cases hread : read path with
    | error cause => exact .unreadable hread
    | ok bytes =>
      simp only
      cases htext : String.fromUTF8? bytes.toByteArray with
      | none => exact .notText hread htext
      | some json =>
        simp only
        cases hlayer : ofDocument json with
        | ok l => exact .document hread htext (ofDocument_eq_ok_iff.mp ⟨l, hlayer, rfl⟩)
        | error e =>
          have hnone (given : Setting.Values) : ¬Setting.Document json given := by
            intro hgiven
            obtain ⟨l, hl, _⟩ := ofDocument_eq_ok_iff.mpr hgiven
            rw [hlayer] at hl
            cases hl
          rw [ofDocument] at hlayer
          cases hfault : Json.Decoder.document decode json with
          | ok l =>
            rw [hfault] at hlayer
            cases hlayer
          | error fault =>
            rw [hfault] at hlayer
            cases hlayer
            exact .badDocument hread htext hnone hfault
  · intro h
    rw [ofFile]
    cases h with
    | unreadable hread =>
      rw [hread]
      rfl
    | notText hread htext =>
      simp only [hread, htext]
      rfl
    | badDocument hread htext _ hfault =>
      simp only [hread, htext, ofDocument, hfault]
      rfl
    | document hread htext hgiven =>
      obtain ⟨l, hl, rfl⟩ := ofDocument_eq_ok_iff.mpr hgiven
      simp only [hread, htext, hl]
      rfl

namespace Arguments

/-- What the settings file says: the one that is given, or else the one that a variable names, or
else nothing. -/
def FileSays (a : Arguments) (read : FileReader) (vars : Variables)
    (file : Except SettingsError Setting.Values) : Prop :=
  match a.file.or (vars Variables.settingsFile) with
  | none => file = .ok fun _ => none
  | some path => read.Says path file

/-- The layer of the settings file. -/
def fileLayer (a : Arguments) (read : FileReader) (vars : Variables) : Except SettingsError Layer :=
  match a.file.or (vars Variables.settingsFile) with
  | none => .ok {}
  | some path => Layer.ofFile read path

theorem map_get?_fileLayer_iff {a : Arguments} {read : FileReader} {vars : Variables}
    {file : Except SettingsError Setting.Values} :
    (a.fileLayer read vars).map Layer.get? = file ↔ a.FileSays read vars file := by
  have hnone : Layer.get? {} = fun _ => none := by
    funext k
    cases k <;> rfl
  rw [fileLayer, FileSays]
  cases a.file.or (vars Variables.settingsFile) with
  | none => rw [← hnone, eq_comm, Except.map]
  | some path => exact Layer.map_get?_ofFile_iff

/-- Whatever depends only on what the layer says depends only on what the file says. -/
theorem exists_fileLayer_iff {a : Arguments} {read : FileReader} {vars : Variables}
    {P : Setting.Values → Prop} :
    (∃ file, a.fileLayer read vars = .ok file ∧ P file.get?) ↔
      ∃ file, a.FileSays read vars (.ok file) ∧ P file := by
  simp only [← map_get?_fileLayer_iff]
  cases a.fileLayer read vars <;> simp [Except.map]

end Arguments

/-! ## All layers -/

namespace Setting

/-- What a setting is read from: the command line, or else the environment. -/
def text? (k : Setting) (a : Arguments) (vars : Variables) : Option String :=
  (a.said? k).or (vars k.key)

/-- The value of a setting: what it is read from, or else the settings file, or else its default. -/
def chosen (k : Setting) (a : Arguments) (vars : Variables) (file : Values) :
    Except SettingsError k.Value :=
  match k.text? a vars with
  | none => .ok ((file k).getD (Settings.defaults.get k))
  | some text => k.read text

variable {a : Arguments} {vars : Variables} {file : Values} {layer : Layer}

theorem chosen_eq (k : Setting) :
    k.chosen a vars file =
      (fun said : Option k.Value => said.getD ((file k).getD (Settings.defaults.get k))) <$>
        (a.overlay vars).get? k := by
  rw [chosen, Variables.get?, a.overlay_key, text?]
  cases (a.said? k).or (vars k.key) with
  | none => rfl
  | some text =>
    simp only
    cases k.read text <;> rfl

theorem fault?_chosen (k : Setting) :
    fault? (k.chosen a vars file) = fault? ((a.overlay vars).get? k) := by
  rw [chosen_eq]
  cases (a.overlay vars).get? k <;> rfl

theorem fault?_ofVariables_overlay (a : Arguments) (vars : Variables) (file : Values) :
    fault? (Layer.ofVariables (a.overlay vars)) =
      all.findSome? fun k => fault? (k.chosen a vars file) := by
  rw [Layer.fault?_ofVariables]
  congr 1
  funext k
  exact k.fault?_chosen.symm

theorem chosen_of_ofVariables {v : Layer} (h : Layer.ofVariables (a.overlay vars) = .ok v)
    (k : Setting) :
    k.chosen a vars layer.get? = .ok (((Settings.defaults.overlaid layer).overlaid v).get k) := by
  rw [chosen_eq, Layer.ofVariables_get? h k, Settings.get_overlaid, Settings.get_overlaid]
  rfl

theorem ofVariables_of_chosen {s : Settings}
    (h : ∀ k : Setting, k.chosen a vars layer.get? = .ok (s.get k)) :
    ∃ v, Layer.ofVariables (a.overlay vars) = .ok v ∧
      s = (Settings.defaults.overlaid layer).overlaid v := by
  have hnone : fault? (Layer.ofVariables (a.overlay vars)) = none := by
    rw [fault?_ofVariables_overlay a vars layer.get?, List.findSome?_eq_none_iff]
    intro k _
    rw [h k]
    rfl
  obtain ⟨v, hv⟩ := fault?_eq_none.mp hnone
  refine ⟨v, hv, Settings.ext_get fun k => ?_⟩
  exact Except.ok.inj ((h k).symm.trans (chosen_of_ofVariables hv k))

end Setting

namespace Program

variable {read : FileReader} {vars : Variables} {args : List String} {a : Arguments}

theorem loadSettings_eq (read : FileReader) (vars : Variables) (a : Arguments) :
    loadSettings read vars a =
      a.fileLayer read vars >>= fun file => Layer.ofVariables (a.overlay vars) >>= fun v =>
        ((Settings.defaults.overlaid file).overlaid v).check >>= fun _ =>
          pure ((Settings.defaults.overlaid file).overlaid v) := by
  rw [loadSettings, Settings.load, a.overlay_settingsFile, Arguments.fileLayer]
  cases a.file.or (vars Variables.settingsFile) <;> rfl

theorem loadSettings_eq_ok (s : Settings) :
    loadSettings read vars a = .ok s ↔ ∃ file, a.FileSays read vars (.ok file) ∧
      (∀ k : Setting, k.chosen a vars file = .ok (s.get k)) ∧ s.check = .ok () := by
  rw [loadSettings_eq, ← Arguments.exists_fileLayer_iff]
  simp only [bind_eq_ok]
  constructor
  · rintro ⟨file, hfile, v, hv, _, hcheck, hs⟩
    cases hs
    exact ⟨file, hfile, Setting.chosen_of_ofVariables hv, hcheck⟩
  · rintro ⟨file, hfile, hchosen, hcheck⟩
    obtain ⟨v, hv, rfl⟩ := Setting.ofVariables_of_chosen hchosen
    exact ⟨file, hfile, v, hv, (), hcheck, rfl⟩

end Program

end LogCourier
