import MqttProfile.Connectivity

/-!
# Application configuration

Where the services are, which endpoints are known before any settings load, and what a load of settings
does to the address of a draft.
-/

namespace MqttProfile

/-- In which flows a load of settings derives the address anew. -/
inductive Rederive where
  /-- While a profile is created, but not while one is edited. -/
  | create
  | always
  | never
deriving DecidableEq, Repr

namespace Rederive

def choices : List (String × Rederive) :=
  [("create", .create), ("always", .always), ("never", .never)]

def name : Rederive → String
  | .create => "create"
  | .always => "always"
  | .never => "never"

/-- Whether the address is derived anew in a flow that edits a profile or creates one. -/
def applies (choice : Rederive) (editing : Bool) : Bool :=
  match choice with
  | .create => !editing
  | .always => true
  | .never => false

end Rederive

/-- The paths of the services. -/
structure ServicePaths (Path : Type := String) where
  clientCredentials : Path
  connections : Path
  connectivitySettings : Path
  passwordPolicy : Path
deriving DecidableEq, Repr

namespace ServicePaths

/-- The paths of an unchanged server. -/
def standard : ServicePaths where
  clientCredentials := "/api/mqtt/client/credentials"
  connections := "/api/ws/connection"
  connectivitySettings := "/api/admin/settings/connectivity"
  passwordPolicy := "/api/noauth/userPasswordPolicy"

/-- Applies a function to every path. -/
def map {α β : Type} (f : α → β) (paths : ServicePaths α) : ServicePaths β where
  clientCredentials := f paths.clientCredentials
  connections := f paths.connections
  connectivitySettings := f paths.connectivitySettings
  passwordPolicy := f paths.passwordPolicy

/-- The paths by name. -/
def toList {α : Type} (paths : ServicePaths α) : List (String × α) :=
  [("client_credentials", paths.clientCredentials),
   ("connections", paths.connections),
   ("connectivity_settings", paths.connectivitySettings),
   ("password_policy", paths.passwordPolicy)]

/-- The paths with some replaced; names that are no path are ignored. -/
def update {α : Type} (paths : ServicePaths α) (updates : List (String × α)) : ServicePaths α where
  clientCredentials := (updates.lookup "client_credentials").getD paths.clientCredentials
  connections := (updates.lookup "connections").getD paths.connections
  connectivitySettings := (updates.lookup "connectivity_settings").getD paths.connectivitySettings
  passwordPolicy := (updates.lookup "password_policy").getD paths.passwordPolicy

/-- Reads paths; missing ones are those of an unchanged server. -/
def ofJson : Json → Intake ServicePaths :=
  Intake.document fun members =>
    let path (name : String) (default : String) : Intake String :=
      Intake.field members [name] default Intake.text
    let start : Intake _ := .ok ServicePaths.mk
    start
      |>.also (path "client_credentials" standard.clientCredentials)
      |>.also (path "connections" standard.connections)
      |>.also (path "connectivity_settings" standard.connectivitySettings)
      |>.also (path "password_policy" standard.passwordPolicy)

end ServicePaths

/-- The configuration of the application.  The address of its server and the paths are texts, but a change
that is not yet saved may put other values there. -/
structure Config (Path : Type := String) where
  apiBaseUrl : Path
  requestTimeout : Binary64
  defaultHost : String
  wsPort : Int
  wssPort : Int
  urlPath : String
  rederive : Rederive
  logLevel : String
  endpoints : ServicePaths Path
deriving DecidableEq, Repr

namespace Config

/-- The configuration that is used where nothing is configured. -/
def standard : Config where
  apiBaseUrl := "http://localhost:8083"
  requestTimeout := .nearest false 10 1
  defaultHost := "localhost"
  wsPort := 8084
  wssPort := 8085
  urlPath := Transport.defaultPath
  rederive := .create
  logLevel := "INFO"
  endpoints := .standard

/-- Reads a configuration; missing settings are those of the standard one. -/
def ofJson : Json → Intake Config :=
  Intake.document fun members =>
    let setting {α : Type} (name : String) (default : α) (read : Json → Intake α) : Intake α :=
      Intake.field members [name] default read
    let start : Intake _ := .ok Config.mk
    start
      |>.also (setting "api_base_url" standard.apiBaseUrl Intake.text)
      |>.also (setting "request_timeout" standard.requestTimeout Intake.number)
      |>.also (setting "default_host" standard.defaultHost Intake.text)
      |>.also (setting "ws_port" standard.wsPort Intake.int)
      |>.also (setting "wss_port" standard.wssPort Intake.int)
      |>.also (setting "url_path" standard.urlPath Intake.text)
      |>.also (setting "url_rederive_on_settings_load" standard.rederive
        (Intake.choice Rederive.choices))
      |>.also (setting "log_level" standard.logLevel Intake.text)
      |>.also (setting "endpoints" standard.endpoints ServicePaths.ofJson)

/-- Applies a function to the address of the server and to every path. -/
def mapPaths {α β : Type} (f : α → β) (config : Config α) : Config β :=
  { config with apiBaseUrl := f config.apiBaseUrl, endpoints := config.endpoints.map f }

/-- The configuration with another server. -/
def withApiBaseUrl {α : Type} (config : Config α) (url : α) : Config α :=
  { config with apiBaseUrl := url }

/-- The configuration with some paths replaced; names that are no path are ignored. -/
def withEndpoints {α : Type} (config : Config α) (updates : List (String × α)) : Config α :=
  { config with endpoints := config.endpoints.update updates }

/-- The endpoints that are known before any settings load. -/
def defaultEndpoints {α : Type} (config : Config α) : Endpoints where
  plain := ⟨config.defaultHost, config.wsPort⟩
  secure := ⟨config.defaultHost, config.wssPort⟩

/-- Whether two configurations have equal settings, numbers being compared as numbers: one whose timeout
is not a number equals none. -/
def agrees {α : Type} [DecidableEq α] (a b : Config α) : Bool :=
  a.requestTimeout.numericEq b.requestTimeout
    && decide ({ a with requestTimeout := b.requestTimeout } = b)

end Config

end MqttProfile
