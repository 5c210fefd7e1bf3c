import MqttProfile.Config.Basic
import MqttProfile.Json.Display
import MqttProfile.Toml.Document

/-!
# The configuration file

The configuration is kept in a TOML file.  Texts are written between quotes as they are, without escapes,
so not every text can be read back.  A file that cannot be read as TOML counts as none, unless an integer in
it has too many digits; a setting of the wrong kind counts as missing.  A configuration that holds an integer
with too many digits is not saved.
-/

namespace MqttProfile

namespace Config

/-- Where the file is, from the home directory. -/
def filePath : List String := [".config", "mqttwizard", "config.toml"]

/-! ## Writing -/

def line (name value : String) : String := name ++ " = " ++ value

def textLine (name value : String) : String := line name ("\"" ++ value ++ "\"")

/-- The lines of the file. -/
def fileLines (config : Config Json) : List String :=
  [textLine "api_base_url" config.apiBaseUrl.display,
   line "request_timeout" config.requestTimeout.text,
   textLine "default_host" config.defaultHost,
   line "ws_port" (Text.decimal config.wsPort),
   line "wss_port" (Text.decimal config.wssPort),
   textLine "url_path" config.urlPath,
   textLine "url_rederive_on_settings_load" config.rederive.name,
   textLine "log_level" config.logLevel,
   "",
   "[endpoints]"]
    ++ config.endpoints.toList.map fun (name, path) => textLine name path.display

/-- The text of the file, whatever integers it holds. -/
def fileText (config : Config Json) : String :=
  String.join (config.fileLines.map (· ++ "\n"))

/-- Whether every integer that the file holds can be written. -/
def writable (config : Config Json) : Bool :=
  config.apiBaseUrl.writable && Text.writable config.wsPort && Text.writable config.wssPort
    && config.endpoints.toList.all fun (_, path) => path.writable

/-! ## Reading -/

/-- What is found in the place of the file. -/
inductive File where
  | missing
  | directory
  | content (bytes : ByteArray)

/-- The text in a table, or a default. -/
def textOr (default name : String) (table : Toml.Table) : String :=
  match table.lookup name with
  | some (.text s) => s
  | _ => default

/-- The integer in a table, or a default. -/
def integerOr (default : Int) (name : String) (table : Toml.Table) : Int :=
  match table.lookup name with
  | some (.integer n) => n
  | some (.boolean b) => Json.ofBit b
  | _ => default

/-- An integer as a binary64 number. -/
def numberOfInteger (n : Int) : Except Fault Binary64 :=
  match Binary64.ofInt? n with
  | some x => .ok x
  | none => .error .outOfRange

/-- The number in a table, or a default; an integer may be out of range. -/
def numberOr (default : Binary64) (name : String) (table : Toml.Table) :
    Except Fault Binary64 :=
  match table.lookup name with
  | some (.float x) => .ok x
  | some (.integer n) => numberOfInteger n
  | some (.boolean b) => numberOfInteger (Json.ofBit b)
  | _ => .ok default

/-- The choice that a table makes, or none if it makes an unknown one. -/
def rederiveOf? (table : Toml.Table) : Option Rederive :=
  match table.lookup "url_rederive_on_settings_load" with
  | some (.text s) => Rederive.choices.lookup s
  | _ => some standard.rederive

/-- The paths that a table sets. -/
def endpointsOf (table : Toml.Table) : ServicePaths :=
  match table.lookup "endpoints" with
  | some (.table entries) =>
    ServicePaths.standard.update <| entries.filterMap fun (name, value) =>
      match value with
      | .text path => some (name, path)
      | _ => none
  | _ => .standard

/-- The configuration that a table sets.  One unknown choice makes the whole table void. -/
def ofTable (table : Toml.Table) : Except Fault Config := do
  let requestTimeout ← numberOr standard.requestTimeout "request_timeout" table
  match rederiveOf? table with
  | none => return standard
  | some rederive =>
    return {
      apiBaseUrl := textOr standard.apiBaseUrl "api_base_url" table
      requestTimeout
      defaultHost := textOr standard.defaultHost "default_host" table
      wsPort := integerOr standard.wsPort "ws_port" table
      wssPort := integerOr standard.wssPort "wss_port" table
      urlPath := textOr standard.urlPath "url_path" table
      rederive
      logLevel := textOr standard.logLevel "log_level" table
      endpoints := endpointsOf table }

/-- The configuration in a text. -/
def ofText (s : String) : Except Fault Config :=
  match Toml.read s with
  | .ok table => ofTable table
  | .error .malformed => .ok standard
  | .error .tooLong => .error .badValue

/-- The configuration in what is found in the place of the file. -/
def load : File → Except Fault Config
  | .missing | .directory => .ok standard
  | .content bytes => match String.fromUTF8? bytes with
    | some s => ofText s
    | none => .error .malformedText

/-- What is found in the place of the file once a configuration is saved. -/
def save (config : Config Json) : Except Fault File :=
  if config.writable then .ok (.content config.fileText.toUTF8) else .error .badValue

end Config

end MqttProfile
