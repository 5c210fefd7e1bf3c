import MqttProfile.Credential.Reference
import MqttProfile.Draft.Event
import MqttProfile.Profile.Basic

/-!
# Collaborators

What a draft needs from outside: a store that issues and looks up credentials, a store that saves
profiles, and a source of connectivity settings.  Each works in a world `σ` and may fail; a failure may
have changed the world all the same.
-/

namespace MqttProfile

/-- A store of credentials. -/
structure CredentialStore (σ : Type) where
  /-- Issues credentials of a name for a client identifier and a user name. -/
  issue : (name clientId username : Json) → σ → Except Error CredentialReference × σ
  /-- Looks up credentials by their identifier. -/
  fetch : (id : Json) → σ → Except Error CredentialReference × σ

/-- A store of profiles. -/
structure ProfileStore (σ : Type) where
  /-- Saves a profile; the answer is the profile as it is stored. -/
  save : Profile → σ → Except Error Profile × σ

/-- A source of connectivity settings; it may have none. -/
structure SettingsSource (σ : Type) where
  fetch : σ → Except Error (Option ConnectivitySettings) × σ

/-- Stores that break down on every call. -/
def CredentialStore.broken {σ : Type} (message : String) : CredentialStore σ where
  issue _ _ _ world := (.error (.breakdown message), world)
  fetch _ world := (.error (.breakdown message), world)

/-- A store of profiles that breaks down on every call. -/
def ProfileStore.broken {σ : Type} (message : String) : ProfileStore σ where
  save _ world := (.error (.breakdown message), world)

/-- A source of settings that breaks down on every call. -/
def SettingsSource.broken {σ : Type} (message : String) : SettingsSource σ where
  fetch world := (.error (.breakdown message), world)

/-- A source of settings that always has the same ones. -/
def SettingsSource.constant {σ : Type} (settings : Option ConnectivitySettings) :
    SettingsSource σ where
  fetch world := (.ok settings, world)

/-! ## Worlds of two parts -/

/-- An operation on the first part of a world. -/
def onFirst {α σ τ : Type} (operation : σ → α × σ) (world : σ × τ) : α × σ × τ :=
  let (result, part) := operation world.1
  (result, part, world.2)

/-- An operation on the second part of a world. -/
def onSecond {α σ τ : Type} (operation : τ → α × τ) (world : σ × τ) : α × σ × τ :=
  let (result, part) := operation world.2
  (result, world.1, part)

/-- A store of credentials in the first part of a world. -/
def CredentialStore.onFirst {σ τ : Type} (store : CredentialStore σ) : CredentialStore (σ × τ) where
  issue name clientId username := MqttProfile.onFirst (store.issue name clientId username)
  fetch id := MqttProfile.onFirst (store.fetch id)

/-- A store of credentials in the second part of a world. -/
def CredentialStore.onSecond {σ τ : Type} (store : CredentialStore τ) : CredentialStore (σ × τ) where
  issue name clientId username := MqttProfile.onSecond (store.issue name clientId username)
  fetch id := MqttProfile.onSecond (store.fetch id)

/-- A store of profiles in the first part of a world. -/
def ProfileStore.onFirst {σ τ : Type} (store : ProfileStore σ) : ProfileStore (σ × τ) where
  save profile := MqttProfile.onFirst (store.save profile)

/-- A store of profiles in the second part of a world. -/
def ProfileStore.onSecond {σ τ : Type} (store : ProfileStore τ) : ProfileStore (σ × τ) where
  save profile := MqttProfile.onSecond (store.save profile)

/-- A source of settings in the second part of a world. -/
def SettingsSource.onSecond {σ τ : Type} (source : SettingsSource τ) : SettingsSource (σ × τ) where
  fetch := MqttProfile.onSecond source.fetch

/-! ## Drafts that use a collaborator -/

namespace Draft

variable {σ : Type}

/-- A draft that edits a profile, with the credential that the profile is linked to attached. -/
def openProfile (config : Config) (store : CredentialStore σ) (pageIsSecure : Bool) (profile : Profile)
    (g : Generator) (world : σ) : Except Error Draft × Generator × σ :=
  match Draft.ofProfile config pageIsSecure profile g with
  | (.error error, g) => (.error error, g, world)
  | (.ok draft, g) =>
    let id := profile.configuration.clientCredentialsId
    if id = .null then (.ok draft, g, world)
    else match store.fetch id world with
      | (.error error, world) => (.error error, g, world)
      | (.ok reference, world) =>
        let (draft, g) := draft.changeReference (some reference) g
        (draft, g, world)

/-- The draft with the settings of a source loaded; it stays as it is when the source fails.  Only the
source may fail without a word: settings that cannot be taken over are an error. -/
def loadFrom (config : Config) (source : SettingsSource σ) (draft : Draft) (world : σ) :
    Except Error Draft × σ :=
  match source.fetch world with
  | (.error _, world) => (.ok draft, world)
  | (.ok settings, world) => (draft.loadSettings config settings, world)

end Draft

end MqttProfile
