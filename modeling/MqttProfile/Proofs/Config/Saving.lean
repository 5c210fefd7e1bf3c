import MqttProfile.Proofs.Config.Loading
import MqttProfile.Proofs.Config.Settings

/-!
# Saving the configuration

A configuration that is saved is not always loaded again.  Its texts are put between quotes as they are, so those
with quotes, backslashes or control characters are lost or spoil the whole file.  With a port that has too many
digits nothing is saved in the first place.

* `Storable` says which configurations are loaded as they were;
* `read_fileText` and `storable_of_read` are about the text of the file, `ofTable_savedTable` about the table in it;
* `saved_config_loaded_iff` is the result.
-/

namespace MqttProfile

open Toml

namespace Config

/-! ## The saved file -/

/-- The settings at the head of the file. -/
def headSettings (config : Config) : List (String × Setting) :=
  [("api_base_url", .text config.apiBaseUrl), ("request_timeout", .number config.requestTimeout),
   ("default_host", .text config.defaultHost), ("ws_port", .integer config.wsPort),
   ("wss_port", .integer config.wssPort), ("url_path", .text config.urlPath),
   ("url_rederive_on_settings_load", .text config.rederive.name), ("log_level", .text config.logLevel)]

/-- The settings in the section of the paths. -/
def pathSettings (config : Config) : List (String × Setting) :=
  config.endpoints.toList.map fun (name, path) => (name, .text path)

/-- The section of the paths, for a way in which each setting is written. -/
def pathSection (write : Setting → List Char) (config : Config) : List Char :=
  '\n' :: '[' :: ("endpoints".toList ++ ']' :: '\n' :: settingLines write [] config.pathSettings)

/-- The text of the file, for a way in which each setting is written. -/
def settingsText (write : Setting → List Char) (config : Config) : List Char :=
  settingLines write (config.pathSection write) config.headSettings

/-- The texts of a configuration. -/
def texts (config : Config) : List String :=
  [config.apiBaseUrl, config.defaultHost, config.urlPath, config.logLevel]
    ++ config.endpoints.toList.map fun (_, path) => path

/-- A configuration that can be stored: its texts are plain and its integers have few enough digits. -/
structure Storable (config : Config) : Prop where
  plain : ∀ s ∈ config.texts, Plain s.toList
  wsPort : (Text.ofNat config.wsPort.natAbs).length ≤ Text.digitLimit
  wssPort : (Text.ofNat config.wssPort.natAbs).length ≤ Text.digitLimit

/-- The text of lines that are written with line feeds. -/
theorem toList_join_lines (settings : List (String × Setting)) (cs : List Char) :
    (String.join ((settings.map fun (name, setting) => line name setting.written).map (· ++ "\n"))).toList ++ cs
      = settingLines (·.written.toList) cs settings := by
  induction settings with
  | nil => rfl
  | cons entry settings ih =>
    obtain ⟨name, setting⟩ := entry
    rw [settingLines, ← ih]
    simp [String.join_cons, line, entryStart]

/-- The text of the file is made of lines of settings. -/
theorem fileText_toList (config : Config) :
    (fileText (config.mapPaths Json.str)).toList = config.settingsText (·.written.toList) := by
  have hlines : fileLines (config.mapPaths Json.str)
      = (config.headSettings.map fun (name, setting) => line name setting.written)
        ++ (["", "[endpoints]"] ++ config.pathSettings.map fun (name, setting) => line name setting.written) := rfl
  have hheader : (String.join (["", "[endpoints]"].map (· ++ "\n"))).toList
      = '\n' :: '[' :: ("endpoints".toList ++ [']', '\n']) := by decide
  rw [fileText, hlines, List.map_append, List.map_append, String.join_append, String.join_append,
    String.toList_append, String.toList_append, hheader, settingsText, ← toList_join_lines config.headSettings,
    pathSection, ← toList_join_lines config.pathSettings]
  simp

theorem fresh_of_names {settings : List (String × Setting)}
    (hbare : ∀ name ∈ settings.map (·.1), name.toList ≠ [] ∧ name.toList.all isBare = true)
    (hdistinct : (settings.map (·.1)).Nodup) : Fresh [] settings :=
  ⟨fun entry hentry => isBareName_of_all (hbare entry.1 (List.mem_map_of_mem hentry)), hdistinct, fun _ _ => rfl⟩

theorem fresh_headSettings (config : Config) : Fresh [] config.headSettings := by
  have hnames : config.headSettings.map (·.1) = ["api_base_url", "request_timeout", "default_host", "ws_port",
    "wss_port", "url_path", "url_rederive_on_settings_load", "log_level"] := rfl
  apply fresh_of_names <;> rw [hnames] <;> decide

theorem fresh_pathSettings (config : Config) : Fresh [] config.pathSettings := by
  have hnames : config.pathSettings.map (·.1) = ["client_credentials", "connections", "connectivity_settings",
    "password_policy"] := rfl
  apply fresh_of_names <;> rw [hnames] <;> decide

/-! ## Reading the saved file -/

/-- The table of a list of settings. -/
def tableOf (settings : List (String × Setting)) : Table :=
  settings.map fun entry => (entry.1, entry.2.value)

/-- The table that the file is made of. -/
def savedTable (config : Config) : Table :=
  tableOf config.headSettings ++ [("endpoints", .table (tableOf config.pathSettings))]

theorem isBareName_endpoints : IsBareName "endpoints".toList :=
  isBareName_of_all (by decide)

/-- The document with the head of the file. -/
def headRead (config : Config) : Document :=
  ⟨tableOf config.headSettings, [], [], [], []⟩

/-- The document with the header of the section, too. -/
def headerRead (config : Config) : Document :=
  ⟨tableOf config.headSettings ++ [("endpoints", .table [])], ["endpoints"], [["endpoints"]], [], []⟩

/-- The document with the whole file. -/
def allRead (config : Config) : Document :=
  ⟨config.savedTable, ["endpoints"], [["endpoints"]], [], []⟩

/-- The head of a document is open from its start. -/
theorem inSection_head : InSection [] id := by
  constructor
  · intro inner name value hnew
    unfold Table.putAt Table.changeAt Table.add?
    rw [id, hnew]
    rfl
  · intro inner name s h
    exact h

/-- The section of the paths is open behind its header. -/
theorem inSection_paths (config : Config) :
    InSection ["endpoints"] fun inner => tableOf config.headSettings ++ [("endpoints", .table inner)] := by
  have hnew : List.lookup "endpoints" (tableOf config.headSettings) = none := rfl
  have hlookup : ∀ inner, List.lookup "endpoints" (tableOf config.headSettings ++ [("endpoints", Toml.table inner)])
      = some (.table inner) := by
    intro inner
    rw [List.lookup_append, hnew]
    rfl
  constructor
  · intro inner name value hfree
    have hadd : Table.add? name value inner = some (inner ++ [(name, value)]) := by
      unfold Table.add?
      rw [hfree]
    have hreplace := Table.replace_append hnew (.table inner) (.table (inner ++ [(name, value)]))
    rw [Table.putAt, Table.changeAt, hlookup]
    show (Table.changeAt true (Table.add? name value) [] inner).map _ = _
    rw [Table.changeAt, hadd, ← hreplace]
    rfl
  · intro inner name s h
    exact ⟨inner, hlookup inner, h⟩

/-- The header opens the section of the paths. -/
theorem readLines_pathSection (config : Config) (fuel : ℕ) :
    readLines (fuel + 2) config.headRead (config.pathSection Setting.found)
      = readLines fuel config.headerRead (settingLines Setting.found [] config.pathSettings) := by
  have hopen : config.headRead.endSection.openTable [String.ofList "endpoints".toList] = some config.headerRead := by
    rw [String.ofList_toList]
    rfl
  rw [pathSection, readLines_empty]
  exact readLines_header isBareName_endpoints hopen fuel _

/-- The ends of lines are joined in the texts of the file only. -/
theorem joinLineEnds_settingsText (config : Config) :
    joinLineEnds (config.settingsText (·.written.toList)) = config.settingsText Setting.found := by
  have hsection : joinLineEnds (config.pathSection (·.written.toList)) = config.pathSection Setting.found := by
    rw [pathSection, joinLineEnds_cons (by decide), joinLineEnds_cons (by decide), joinLineEnds_front isBareName_endpoints.ne_return,
      joinLineEnds_cons (by decide), joinLineEnds_cons (by decide),
      joinLineEnds_settingLines (fresh_pathSettings config).bare]
    rfl
  rw [settingsText, joinLineEnds_settingLines (fresh_headSettings config).bare, hsection]
  rfl

/-- The lines of settings are as long as they are many, at least. -/
theorem length_settingLines (write : Setting → List Char) (rest : List Char) (settings : List (String × Setting)) :
    settings.length + rest.length ≤ (settingLines write rest settings).length := by
  induction settings with
  | nil => simp [settingLines]
  | cons entry settings ih =>
    obtain ⟨name, setting⟩ := entry
    simp only [settingLines, entryStart, List.length_append, List.length_cons]
    omega

/-- The fuel for the lines of the file behind its head, and some that is left. -/
def fuelOfPaths (config : Config) (fuel : ℕ) : ℕ := fuel + 1 + config.pathSettings.length

/-- The file is read with enough fuel for all its lines. -/
theorem exists_read_fileText (config : Config) :
    ∃ fuel, Toml.read (fileText (config.mapPaths Json.str))
      = (readLines (config.fuelOfPaths fuel + 2 + config.headSettings.length) .empty
          (config.settingsText Setting.found)).map (·.root) := by
  have hpaths := length_settingLines Setting.found [] config.pathSettings
  have hsection : (settingLines Setting.found [] config.pathSettings).length + 2
      ≤ (config.pathSection Setting.found).length := by
    simp only [pathSection, List.length_cons, List.length_append]
    omega
  have hhead : config.headSettings.length + (config.pathSection Setting.found).length
      ≤ (config.settingsText Setting.found).length := length_settingLines _ _ _
  obtain ⟨fuel, hfuel⟩ := Nat.exists_eq_add_of_le
    (show config.pathSettings.length + 2 + config.headSettings.length
      ≤ (config.settingsText Setting.found).length by omega)
  have hlength : (config.settingsText Setting.found).length + 1
      = config.fuelOfPaths fuel + 2 + config.headSettings.length := by
    rw [fuelOfPaths]
    omega
  refine ⟨fuel, ?_⟩
  rw [← hlength]
  unfold Toml.read
  rw [fileText_toList, joinLineEnds_settingsText]

/-- The settings of a storable configuration are readable. -/
theorem Storable.readable_headSettings {config : Config} (h : config.Storable) (husual : config.requestTimeout.Usual) :
    ∀ entry ∈ config.headSettings, entry.2.Readable := by
  have hname : Plain config.rederive.name.toList := by
    cases config.rederive <;> decide
  simp only [headSettings, List.forall_mem_cons]
  exact ⟨h.plain _ (by simp [texts]), husual, h.plain _ (by simp [texts]), h.wsPort, h.wssPort,
    h.plain _ (by simp [texts]), hname, h.plain _ (by simp [texts]), fun _ hmem => absurd hmem List.not_mem_nil⟩

theorem Storable.readable_pathSettings {config : Config} (h : config.Storable) :
    ∀ entry ∈ config.pathSettings, entry.2.Readable := by
  intro entry hentry
  obtain ⟨path, hpath, rfl⟩ := List.mem_map.mp hentry
  exact h.plain path.2 (List.mem_append_right _ (List.mem_map_of_mem hpath))

/-- A configuration whose settings are readable is storable. -/
theorem storable_of_readable {config : Config} (hhead : ∀ entry ∈ config.headSettings, entry.2.Readable)
    (hpaths : ∀ entry ∈ config.pathSettings, entry.2.Readable) : config.Storable := by
  simp only [headSettings, List.forall_mem_cons] at hhead
  obtain ⟨hurl, -, hhost, hwsPort, hwssPort, hpath, -, hlevel, -⟩ := hhead
  refine ⟨fun s hs => ?_, hwsPort, hwssPort⟩
  rcases List.mem_append.mp hs with hs | hs
  · simp only [List.mem_cons, List.not_mem_nil, or_false] at hs
    rcases hs with rfl | rfl | rfl | rfl
    · exact hurl
    · exact hhost
    · exact hpath
    · exact hlevel
  · obtain ⟨path, hmem, rfl⟩ := List.mem_map.mp hs
    exact hpaths _ (List.mem_map_of_mem hmem)

/-- The file of a storable configuration is read as its table. -/
theorem read_fileText {config : Config} (h : config.Storable) (husual : config.requestTimeout.Usual) :
    Toml.read (fileText (config.mapPaths Json.str)) = .ok config.savedTable := by
  obtain ⟨fuel, hread⟩ := exists_read_fileText config
  have hall : readLines (config.fuelOfPaths fuel + 2 + config.headSettings.length) .empty
      (config.settingsText Setting.found) = .ok config.allRead :=
    calc _ = readLines (config.fuelOfPaths fuel + 2) config.headRead (config.pathSection Setting.found) :=
          readLines_settings inSection_head (fresh_headSettings config) (h.readable_headSettings husual) _
      _ = readLines (config.fuelOfPaths fuel) config.headerRead (settingLines Setting.found [] config.pathSettings) :=
          readLines_pathSection config _
      _ = readLines (fuel + 1) config.allRead [] :=
          readLines_settings (inSection_paths config) (fresh_pathSettings config) h.readable_pathSettings _
      _ = .ok config.allRead := readLines_nil fuel _
  rw [hread, hall]
  rfl

/-- The texts that are found in a table in the place of those of a configuration are the same. -/
structure OnlyTexts (config : Config) (table : Table) : Prop where
  head : ∀ name s body, (name, .text s) ∈ config.headSettings → Table.Holds [] name body table → body = s
  paths : ∀ name s body, (name, .text s) ∈ config.pathSettings → Table.Holds ["endpoints"] name body table → body = s

/-- If the file of a configuration is read and only the texts of the configuration are found, it is storable. -/
theorem storable_of_read {config : Config} (husual : config.requestTimeout.Usual) {table : Table}
    (hread : Toml.read (fileText (config.mapPaths Json.str)) = .ok table) (htexts : config.OnlyTexts table) :
    config.Storable := by
  obtain ⟨fuel, hfuel⟩ := exists_read_fileText config
  rw [hfuel] at hread
  obtain ⟨final, hfinal, rfl⟩ := exists_of_map_eq_ok hread
  have hnumbers : ∀ name x, (name, .number x) ∈ config.headSettings → x.Usual := by
    intro name x hx
    have htimeout : name = "request_timeout" ∧ x = config.requestTimeout := by simpa [headSettings] using hx
    rw [htimeout.2]
    exact husual
  have hnoNumbers : ∀ name x, (name, .number x) ∈ config.pathSettings → x.Usual := by
    intro name x hx
    simp [pathSettings] at hx
  have hempty : Continues [] := by
    intro c hc
    cases hc
  have hsection : Continues (config.pathSection Setting.found) := by
    intro c hc
    cases hc
    decide
  have hheadReadable : ∀ entry ∈ config.headSettings, entry.2.Readable :=
    readable_of_readLines inSection_head (fresh_headSettings config) hsection hnumbers hfinal htexts.head
  refine storable_of_readable hheadReadable ?_
  -- the section of the paths is read behind the head
  have hlater : readLines (config.fuelOfPaths fuel) config.headerRead
      (settingLines Setting.found [] config.pathSettings) = .ok final := by
    rw [← hfinal, ← readLines_pathSection]
    exact (readLines_settings inSection_head (fresh_headSettings config) hheadReadable _).symm
  exact readable_of_readLines (inSection_paths config) (fresh_pathSettings config) hempty hnoNumbers hlater
    htexts.paths

/-! ## The configuration of a table -/

/-- The table of a configuration is read as the configuration. -/
theorem ofTable_savedTable (config : Config) : ofTable config.savedTable = .ok config := by
  have hrederive : rederiveOf? config.savedTable = some config.rederive := by
    show Rederive.choices.lookup config.rederive.name = some config.rederive
    cases config.rederive <;> rfl
  have htimeout : numberOr standard.requestTimeout "request_timeout" config.savedTable = .ok config.requestTimeout :=
    rfl
  unfold ofTable
  rw [htimeout, hrederive]
  rfl

/-- A choice is found under its name. -/
theorem eq_name_of_lookup {name : String} {choice : Rederive} (h : Rederive.choices.lookup name = some choice) :
    name = choice.name := by
  obtain ⟨front, back, hsplit, -⟩ := List.lookup_eq_some_iff.mp h
  have hmem : (name, choice) ∈ Rederive.choices := by
    rw [hsplit]
    simp
  simp only [Rederive.choices, List.mem_cons, Prod.mk.injEq, List.not_mem_nil, or_false] at hmem
  rcases hmem with ⟨rfl, rfl⟩ | ⟨rfl, rfl⟩ | ⟨rfl, rfl⟩ <;> rfl

theorem textOr_of_holds {table : Table} {name body : String} (h : Table.Holds [] name body table) (default : String) :
    textOr default name table = body := by
  unfold textOr
  rw [show table.lookup name = some (.text body) from h]

/-- The choice of a table is the one it names. -/
theorem rederiveOf_of_holds {table : Table} {body : String} {choice : Rederive}
    (h : Table.Holds [] "url_rederive_on_settings_load" body table) (hchoice : rederiveOf? table = some choice) :
    body = choice.name := by
  unfold rederiveOf? at hchoice
  rw [show table.lookup "url_rederive_on_settings_load" = some (.text body) from h] at hchoice
  exact eq_name_of_lookup hchoice

/-- Of the values in a section, texts are kept under their names. -/
theorem lookup_filterMap_text {inner : Table} {name body : String} (h : inner.lookup name = some (.text body)) :
    (inner.filterMap fun (name, value) =>
      match value with
      | .text path => some (name, path)
      | _ => none).lookup name = some body := by
  induction inner with
  | nil => cases h
  | cons entry inner ih =>
    obtain ⟨n, v⟩ := entry
    rw [List.lookup_cons] at h
    by_cases hn : name = n
    · subst hn
      rw [beq_self_eq_true] at h
      cases h
      simp
    · have hne : (name == n) = false := beq_eq_false_iff_ne.mpr hn
      rw [hne] at h
      cases v <;> simp [List.lookup_cons, hne, ih h]

theorem eq_of_mem_update {updates : List (String × String)} {name body path : String} {paths : ServicePaths}
    (hbody : updates.lookup name = some body) (hpath : (name, path) ∈ (paths.update updates).toList) :
    body = path := by
  simp only [ServicePaths.update, ServicePaths.toList, List.mem_cons, Prod.mk.injEq, List.not_mem_nil,
    or_false] at hpath
  rcases hpath with ⟨rfl, rfl⟩ | ⟨rfl, rfl⟩ | ⟨rfl, rfl⟩ | ⟨rfl, rfl⟩ <;> rw [hbody] <;> rfl

/-- The paths of a section are the paths of the configuration that it sets. -/
theorem endpointsOf_of_holds {table : Table} {name body path : String}
    (h : Table.Holds ["endpoints"] name body table) (hpath : (name, path) ∈ (endpointsOf table).toList) :
    body = path := by
  obtain ⟨inner, hinner, hbody⟩ := h
  unfold endpointsOf at hpath
  rw [hinner] at hpath
  exact eq_of_mem_update (lookup_filterMap_text hbody) hpath

/-- A configuration that differs from the standard one in its timeout only is storable. -/
theorem storable_standard (timeout : Binary64) : Storable { standard with requestTimeout := timeout } := by
  refine ⟨?_, ?_, ?_⟩
  · show ∀ s ∈ standard.texts, Plain s.toList
    decide
  · show (Text.ofNat standard.wsPort.natAbs).length ≤ Text.digitLimit
    decide
  · show (Text.ofNat standard.wssPort.natAbs).length ≤ Text.digitLimit
    decide

/-- The texts of a table that is not void are those of the configuration that it sets. -/
theorem eq_standard_or_onlyTexts {table : Table} {loaded : Config} (h : ofTable table = .ok loaded)
    (timeout : Binary64) : loaded = standard ∨ OnlyTexts { loaded with requestTimeout := timeout } table := by
  unfold ofTable at h
  obtain ⟨found, -, h⟩ := exists_of_bind_eq_ok h
  cases hchoice : rederiveOf? table with
  | none =>
    rw [hchoice] at h
    cases h
    exact .inl rfl
  | some choice =>
    rw [hchoice] at h
    cases h
    refine .inr ⟨fun name s body hs hholds => ?_, fun name s body hs hholds => ?_⟩
    · simp only [headSettings, List.mem_cons, Prod.mk.injEq, Setting.text.injEq, reduceCtorEq, and_false,
        List.not_mem_nil, or_false, false_or] at hs
      rcases hs with ⟨rfl, rfl⟩ | ⟨rfl, rfl⟩ | ⟨rfl, rfl⟩ | ⟨rfl, rfl⟩ | ⟨rfl, rfl⟩
      · exact (textOr_of_holds hholds _).symm
      · exact (textOr_of_holds hholds _).symm
      · exact (textOr_of_holds hholds _).symm
      · exact rederiveOf_of_holds hholds hchoice
      · exact (textOr_of_holds hholds _).symm
    · obtain ⟨path, hpath, heq⟩ := List.mem_map.mp hs
      cases heq
      exact endpointsOf_of_holds hholds hpath

/-! ## Saving and loading -/

/-- Of the integers that are written only the ports may have too many digits. -/
theorem writable_mapPaths (config : Config) :
    (config.mapPaths Json.str).writable = (Text.writable config.wsPort && Text.writable config.wssPort) := by
  simp [writable, mapPaths, ServicePaths.map, ServicePaths.toList, Json.writable]

/-- What is saved is what is loaded. -/
theorem load_of_save {config loaded : Config}
    (h : (save (config.mapPaths Json.str)).bind load = .ok loaded) :
    ofText (fileText (config.mapPaths Json.str)) = .ok loaded := by
  rw [save] at h
  split at h
  · rw [bind_ok, load, fromUTF8_toUTF8] at h
    exact h
  · cases h

/-- A configuration that is loaded once it is saved, be it with another timeout, is storable. -/
theorem storable_of_load {config loaded : Config} {timeout : Binary64} (husual : config.requestTimeout.Usual)
    (hload : (save (config.mapPaths Json.str)).bind load = .ok loaded)
    (hsame : { loaded with requestTimeout := timeout } = config) : config.Storable := by
  have hstandard : loaded = standard → config.Storable := by
    rintro rfl
    rw [← hsame]
    exact storable_standard timeout
  have htext := load_of_save hload
  unfold ofText at htext
  split at htext
  · rename_i table hread
    rcases eq_standard_or_onlyTexts htext timeout with hvoid | htexts
    · exact hstandard hvoid
    · rw [hsame] at htexts
      exact storable_of_read husual hread htexts
  · cases htext
    exact hstandard rfl
  · cases htext

/-- A storable configuration is loaded once it is saved. -/
theorem Storable.load_save {config : Config} (h : config.Storable) (husual : config.requestTimeout.Usual) :
    (save (config.mapPaths Json.str)).bind load = .ok config := by
  have hwritable : (config.mapPaths Json.str).writable = true := by
    rw [writable_mapPaths, Bool.and_eq_true]
    exact ⟨decide_eq_true h.wsPort, decide_eq_true h.wssPort⟩
  rw [save, if_pos hwritable, bind_ok, load, fromUTF8_toUTF8]
  show ofText (fileText (config.mapPaths Json.str)) = .ok config
  unfold ofText
  rw [read_fileText h husual]
  exact ofTable_savedTable config

theorem agrees_self (config : Config) : config.agrees config = true ↔ config.requestTimeout ≠ .nan := by
  have hself : ∀ x : Binary64, x.numericEq x = true ↔ x ≠ .nan := by
    intro x
    cases x <;> simp [Binary64.numericEq]
  unfold agrees
  rw [Bool.and_eq_true, decide_eq_true_eq, hself]
  exact and_iff_left rfl

/-- A configuration that agrees with another one has the same settings except for the timeout, which is a number. -/
theorem of_agrees {a b : Config} (h : a.agrees b = true) :
    { a with requestTimeout := b.requestTimeout } = b ∧ b.requestTimeout ≠ .nan := by
  unfold agrees at h
  rw [Bool.and_eq_true, decide_eq_true_eq] at h
  refine ⟨h.2, fun hnan => ?_⟩
  have hequal := h.1
  rw [hnan] at hequal
  cases ha : a.requestTimeout <;> rw [ha] at hequal <;> cases hequal

/-- A configuration is loaded as it was saved exactly if it is storable: if its texts have no quotes, backslashes and
control characters but tabs, and its ports have no more digits than are converted. -/
theorem saved_config_loaded_iff (config : Config) (h : config.requestTimeout.Usual) :
    ((save (config.mapPaths Json.str)).bind load = .ok config ↔ config.Storable)
      ∧ ((∃ loaded, (save (config.mapPaths Json.str)).bind load = .ok loaded ∧ loaded.agrees config = true)
        ↔ config.Storable ∧ config.requestTimeout ≠ .nan) := by
  refine ⟨⟨fun hload => storable_of_load h hload rfl,
    fun hstorable => hstorable.load_save h⟩, ?_, ?_⟩
  · rintro ⟨loaded, hload, hagrees⟩
    obtain ⟨hsame, hnumber⟩ := of_agrees hagrees
    exact ⟨storable_of_load h hload hsame, hnumber⟩
  · rintro ⟨hstorable, hnumber⟩
    exact ⟨config, hstorable.load_save h, (agrees_self config).mpr hnumber⟩

theorem usual_standard : standard.requestTimeout.Usual :=
  Binary64.usual_nearest false 10 Nat.one_pos

/-- A text with other marks is read back, and so is a port below zero. -/
theorem marked_level_loaded :
    (save ({ standard with wsPort := -1, logLevel := "[a] = 'b' # \t" }.mapPaths Json.str)).bind load
      = .ok { standard with wsPort := -1, logLevel := "[a] = 'b' # \t" } := by
  refine (saved_config_loaded_iff { standard with wsPort := -1, logLevel := "[a] = 'b' # \t" }
    usual_standard).1.mpr ⟨?_, ?_, ?_⟩
  · show ∀ s ∈ ["http://localhost:8083", "localhost", Transport.defaultPath, "[a] = 'b' # \t"]
      ++ standard.endpoints.toList.map (·.2), Plain s.toList
    decide
  · show (Text.ofNat 1).length ≤ Text.digitLimit
    decide
  · show (Text.ofNat 8085).length ≤ Text.digitLimit
    decide

/-- A quote in a text is not read back. -/
theorem quoted_level_not_loaded :
    ¬∃ loaded, (save ({ standard with logLevel := "a\"b" }.mapPaths Json.str)).bind load = .ok loaded
      ∧ loaded.agrees { standard with logLevel := "a\"b" } = true := by
  rintro ⟨loaded, hload, hagrees⟩
  have hstorable : Storable { standard with logLevel := "a\"b" } :=
    storable_of_load usual_standard hload (of_agrees hagrees).1
  have hplain := hstorable.plain "a\"b" (by simp [texts])
  revert hplain
  decide

end Config

end MqttProfile
