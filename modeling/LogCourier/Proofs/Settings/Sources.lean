import LogCourier.Proofs.Settings.Layering
import LogCourier.Proofs.Text.Pieces

/-!
# Sources from the command line

Every option for a source says `id=/path`, and may be given again.  All of them become one
list, which is read as the variable for the sources is: it is cut at every comma, also at
those within a path.  As long as the options hold no commas they mean one source each, and
not otherwise (`Program.loadSettings_sources_iff`).
-/

namespace LogCourier

namespace Source

/-- The source that a text names: its id stands before the first equals sign, its path after it, and
blanks around them do not count. -/
def ofText (text : String) : Source where
  id := Text.trim (String.ofList (text.toList.takeWhile (· ≠ '=')))
  path := Text.trim (String.ofList (text.toList.dropWhile (· ≠ '=')).tail)

/-- The entries of a list with commas; blank ones do not count. -/
def entries (text : String) : List String :=
  ((Text.split ',' text).map Text.trim).filter (· ≠ "")

/-! ## One source -/

theorem ofText_eq {id : List Char} (h : '=' ∉ id) (path : List Char) :
    ofText (String.ofList (id ++ '=' :: path)) =
      { id := Text.trim (String.ofList id), path := Text.trim (String.ofList path) } := by
  have hid : ∀ c ∈ id, decide (c ≠ '=') = true := by
    intro c hc
    rw [decide_eq_true_iff]
    exact fun heq => h (heq ▸ hc)
  rw [ofText, String.toList_ofList, List.takeWhile_append_of_pos hid,
    List.dropWhile_append_of_pos hid]
  simp

/-- Blanks around a text do not matter to the source that it names. -/
theorem ofText_trim {text : String} (h : '=' ∈ text.toList) :
    ofText (Text.trim text) = ofText text := by
  obtain ⟨front, back, heq, hfront, hback⟩ := Text.exists_trimChars text.toList
  have hsign : '=' ∈ Text.trimChars text.toList := (Text.mem_trimChars (by decide) _).mpr h
  obtain ⟨id, path, hcut, hid⟩ := List.eq_append_cons_of_mem hsign
  have hwhole : text = String.ofList ((front ++ id) ++ '=' :: (path ++ back)) := by
    rw [← String.ofList_toList (s := text), heq, hcut]
    simp
  have hfirst : '=' ∉ front ++ id := by
    rw [List.mem_append, not_or]
    exact ⟨fun hmem => absurd (hfront _ hmem) (by decide), hid⟩
  have hnone : ∀ c ∈ ([] : List Char), Text.isBlank c = true := by simp
  have hidTrim := Text.trim_between hfront hnone id
  have hpathTrim := Text.trim_between hnone hback path
  rw [List.append_nil] at hidTrim
  rw [List.nil_append] at hpathTrim
  rw [Text.trim, hcut, ofText_eq hid, hwhole, ofText_eq hfirst, hidTrim, hpathTrim]

/-- A character that is no equals sign and no blank stands in the id or the path if it stands in
the text. -/
theorem mem_ofText {c : Char} (hsign : c ≠ '=') (hblank : Text.isBlank c = false) (text : String) :
    c ∈ (ofText text).id.toList ∨ c ∈ (ofText text).path.toList ↔ c ∈ text.toList := by
  rw [ofText, Text.mem_toList_trim hblank, Text.mem_toList_trim hblank, String.toList_ofList,
    String.toList_ofList]
  have hparts := List.takeWhile_append_dropWhile (p := fun d => decide (d ≠ '=')) (l := text.toList)
  have hrest : c ∈ (text.toList.dropWhile fun d => decide (d ≠ '=')).tail ↔
      c ∈ text.toList.dropWhile fun d => decide (d ≠ '=') := by
    cases hdrop : text.toList.dropWhile fun d => decide (d ≠ '=') with
    | nil => rfl
    | cons d rest =>
      have hd := List.head?_dropWhile_not (fun d => decide (d ≠ '=')) text.toList
      rw [hdrop] at hd
      have heq : d = '=' := by simpa using hd
      rw [List.tail_cons, List.mem_cons, or_iff_right (heq ▸ hsign)]
  rw [hrest, ← List.mem_append, hparts]

/-! ## Lists of sources -/

theorem entries_intercalate {texts : List String} (h : texts ≠ []) :
    entries (",".intercalate texts) = texts.flatMap entries := by
  rw [entries, Text.split_intercalate h, List.map_flatMap, List.filter_flatMap]
  rfl

/-- A text without commas is one entry. -/
theorem entries_of_notMem {text : String} (hcomma : ',' ∉ text.toList) (hsign : '=' ∈ text.toList) :
    entries text = [Text.trim text] := by
  have hsome : Text.trim text ≠ "" := by
    intro hempty
    have hmem := (Text.mem_toList_trim (by decide) text).mpr hsign
    rw [hempty] at hmem
    exact absurd hmem (by decide)
  rw [entries, Text.split_of_notMem hcomma, List.map_singleton,
    List.filter_cons_of_pos (by simpa using hsome), List.filter_nil]

theorem comma_notMem_of_mem_entries {text entry : String} (h : entry ∈ entries text) :
    ',' ∉ entry.toList := by
  obtain ⟨piece, hpiece, rfl⟩ := List.mem_map.mp (List.mem_of_mem_filter h)
  rw [Text.mem_toList_trim (by decide)]
  exact Text.notMem_of_mem_split hpiece

/-- A list that can be read gives the sources that its entries name. -/
theorem readList_eq_ok {key text : String} {sources : List Source}
    (h : readList key text = .ok sources) : sources = (entries text).map ofText := by
  refine eq_map_of_mapM_eq_ok (fun entry source hentry => ?_) h
  rw [Text.cut?] at hentry
  cases hcut : Text.cutChars? '=' entry.toList with
  | none =>
    rw [hcut] at hentry
    cases hentry
  | some parts =>
    obtain ⟨id, path⟩ := parts
    rw [hcut] at hentry
    cases hentry
    obtain ⟨heq, hid⟩ := Text.eq_of_cutChars? hcut
    rw [← String.ofList_toList (s := entry), heq, ofText_eq hid]

/-- Entries name what the options mean if and only if no option holds a comma. -/
theorem flatMap_entries_eq_iff {texts : List String} (h : ∀ text ∈ texts, '=' ∈ text.toList) :
    texts.flatMap (fun text => (entries text).map ofText) = texts.map ofText ↔
      ∀ text ∈ texts, ',' ∉ text.toList := by
  constructor
  · intro heq text htext hcomma
    -- The comma is in what the option means, and no entry holds one.
    have hmem : ofText text ∈ texts.flatMap fun text => (entries text).map ofText := by
      rw [heq]
      exact List.mem_map_of_mem htext
    obtain ⟨other, _, hother⟩ := List.mem_flatMap.mp hmem
    obtain ⟨entry, hentry, hsame⟩ := List.mem_map.mp hother
    have hin := (mem_ofText (by decide) (by decide) text).mpr hcomma
    rw [← hsame, mem_ofText (by decide) (by decide)] at hin
    exact comma_notMem_of_mem_entries hentry hin
  · intro hcommas
    rw [← List.flatMap_singleton' (texts.map ofText), List.flatMap_map]
    refine List.flatMap_congr fun text htext => ?_
    rw [entries_of_notMem (hcommas text htext) (h text htext), List.map_singleton,
      ofText_trim (h text htext)]

end Source

namespace Program

open Source

/-- The options for sources are read as one list. -/
theorem chosen_sources {a : Arguments} (hsome : a.valuesOf .source ≠ []) (vars : Variables)
    (file : Setting.Values) :
    Setting.sources.chosen a vars file =
      readList Variables.sources (",".intercalate (a.valuesOf .source)) := by
  have hsaid : a.said? .sources = some (",".intercalate (a.valuesOf .source)) := by
    change a.override? .source = _
    rw [Arguments.override?]
    cases hvalues : a.valuesOf .source with
    | nil => exact absurd hvalues hsome
    | cons text texts => rfl
  rw [Setting.chosen, Setting.text?, hsaid, Option.some_or]
  rfl

/-- If the options for sources all have an equals sign and settings are loaded, the sources are
those that the entries of the options name, in their order.  They are one for each option, with the
id before its first equals sign and the path after it, if and only if no option holds a comma. -/
theorem loadSettings_sources_iff (read : FileReader) (vars : Variables) {a : Arguments}
    {s : Settings} (hsome : a.valuesOf .source ≠ [])
    (hsigns : ∀ text ∈ a.valuesOf .source, '=' ∈ text.toList)
    (hs : loadSettings read vars a = .ok s) :
    s.sources = (a.valuesOf .source).flatMap (fun text => (entries text).map ofText) ∧
      (s.sources = (a.valuesOf .source).map ofText ↔
        ∀ text ∈ a.valuesOf .source, ',' ∉ text.toList) := by
  obtain ⟨file, _, hchosen, _⟩ := (loadSettings_eq_ok s).mp hs
  have hread := hchosen .sources
  rw [chosen_sources hsome] at hread
  have hsources :
      s.sources = (a.valuesOf .source).flatMap fun text => (entries text).map ofText := by
    rw [← List.map_flatMap, ← entries_intercalate hsome]
    exact readList_eq_ok hread
  refine ⟨hsources, ?_⟩
  rw [hsources, flatMap_entries_eq_iff hsigns]

/-- One option with a comma in its path becomes two sources. -/
theorem comma_divides :
    let a : Arguments := { given := [(.source, "a=/x,b=/y")] }
    Arguments.read ["--stream", "a=/x,b=/y"] = .ok a ∧
      ¬ ∀ s, loadSettings (fun _ => .error .notFound) (fun _ => none) a = .ok s →
        s.sources = (a.valuesOf .source).map ofText := by
  intro a
  have hvalues : a.valuesOf .source = ["a=/x,b=/y"] := by decide
  refine ⟨rfl, fun h => ?_⟩
  have hs : loadSettings (fun _ => .error .notFound) (fun _ => none) a =
      .ok { sources := [⟨"a", "/x"⟩, ⟨"b", "/y"⟩] } := by
    refine (loadSettings_eq_ok _).mpr ⟨fun _ => none, rfl, fun k => ?_, rfl⟩
    cases k with
    | sources =>
      rw [chosen_sources (by decide), hvalues]
      rfl
    | _ => rfl
  exact absurd (h _ hs) (by decide)

/-- Blanks and further equals signs do no harm. -/
theorem loadSettings_sources_iff_sample :
    let a : Arguments := { given := [(.source, " web = /srv/a=b c "), (.source, "db=/srv/db")] }
    let s : Settings := { sources := [⟨"web", "/srv/a=b c"⟩, ⟨"db", "/srv/db"⟩] }
    a.valuesOf .source ≠ [] ∧ (∀ text ∈ a.valuesOf .source, '=' ∈ text.toList) ∧
      loadSettings (fun _ => .error .notFound) (fun _ => none) a = .ok s ∧
      s.sources = (a.valuesOf .source).map ofText := by
  intro a s
  have hvalues : a.valuesOf .source = [" web = /srv/a=b c ", "db=/srv/db"] := by decide
  have hsome : a.valuesOf .source ≠ [] := by decide
  have hsigns : ∀ text ∈ a.valuesOf .source, '=' ∈ text.toList := by decide
  have hs : loadSettings (fun _ => .error .notFound) (fun _ => none) a = .ok s := by
    refine (loadSettings_eq_ok _).mpr ⟨fun _ => none, rfl, fun k => ?_, rfl⟩
    cases k with
    | sources =>
      rw [chosen_sources hsome, hvalues]
      rfl
    | _ => rfl
  have hcommas : ∀ text ∈ a.valuesOf .source, ',' ∉ text.toList := by decide
  exact ⟨hsome, hsigns, hs, (loadSettings_sources_iff _ _ hsome hsigns hs).2.mpr hcommas⟩

end Program

end LogCourier
