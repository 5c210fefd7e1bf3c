import MqttProfile.Text.Blank
import MqttProfile.Text.Number
import MqttProfile.Binary64.Basic
import MqttProfile.Binary64.Shortest
import MqttProfile.Binary64.Reader
import MqttProfile.Fault
import MqttProfile.Json.Basic
import MqttProfile.Json.Printer
import MqttProfile.Json.Reader
import MqttProfile.Json.Encoding
import MqttProfile.Text.Printable
import MqttProfile.Json.Display
import MqttProfile.Json.Number
import MqttProfile.Json.Agreement
import MqttProfile.Intake
import MqttProfile.Measure
import MqttProfile.Error
import MqttProfile.Conversion
import MqttProfile.Password.Policy
import MqttProfile.Password.Report
import MqttProfile.Password.Session
import MqttProfile.Transport
import MqttProfile.Connectivity
import MqttProfile.Identifier.Twister
import MqttProfile.Identifier.Generator
import MqttProfile.Field
import MqttProfile.Credential.Reference
import MqttProfile.LastWill
import MqttProfile.Version
import MqttProfile.Profile.Configuration
import MqttProfile.Profile.Basic
import MqttProfile.Draft.Version5
import MqttProfile.Draft.Identity
import MqttProfile.Config.Basic
import MqttProfile.Draft.Basic
import MqttProfile.Draft.Properties
import MqttProfile.Draft.Event
import MqttProfile.Store.Basic
import MqttProfile.Assembly.Check
import MqttProfile.Assembly.Basic
import MqttProfile.Store.Memory
import MqttProfile.Service.Network
import MqttProfile.Service.Collaborators
import MqttProfile.Form.LastWill
import MqttProfile.Form.Connectivity
import MqttProfile.Form.Measure
import MqttProfile.Form.Password
import MqttProfile.Form.Service
import MqttProfile.Form.View
import MqttProfile.Form.Event
import MqttProfile.Toml.Basic
import MqttProfile.Toml.Text
import MqttProfile.Toml.Scalar
import MqttProfile.Toml.Document
import MqttProfile.Config.File
import MqttProfile.Config.Logging
import MqttProfile.Proofs.Success
import MqttProfile.Proofs.Draft.Reached
import MqttProfile.Proofs.Draft.Started
import MqttProfile.Proofs.Entered
import MqttProfile.Proofs.Draft.WellFormed
import MqttProfile.Proofs.Assembly.Outcome
import MqttProfile.Proofs.Assembly.Password
import MqttProfile.Proofs.Assembly.LinkedIdentity
import MqttProfile.Proofs.Measure
import MqttProfile.Proofs.Assembly.Legal
import MqttProfile.Proofs.Json.RoundTrip
import MqttProfile.Proofs.Identifier
import MqttProfile.Proofs.Json.Ascii
import MqttProfile.Proofs.Credential
import MqttProfile.Proofs.Store.Memory
import MqttProfile.Proofs.LastWill
import MqttProfile.Proofs.Assembly.Settled
import MqttProfile.Proofs.Store.Reopened
import MqttProfile.Proofs.Service.Refusal
import MqttProfile.Proofs.Assembly.Effects
import MqttProfile.Proofs.Assembly.Noninterference
import MqttProfile.Proofs.Draft.VersionGate
import MqttProfile.Proofs.Draft.Modes
import MqttProfile.Proofs.Assembly.PasswordDemand
import MqttProfile.Proofs.Assembly.CustomLink
import MqttProfile.Proofs.Store.Issued
import MqttProfile.Proofs.Draft.Address
import MqttProfile.Proofs.Json.Decimals
import MqttProfile.Proofs.Assembly.Transport
import MqttProfile.Proofs.Password.Session
import MqttProfile.Proofs.Draft.Commuting
import MqttProfile.Proofs.Draft.Repeating
import MqttProfile.Proofs.Json.Names
import MqttProfile.Proofs.WillMessage
import MqttProfile.Proofs.Password.Satisfiable
import MqttProfile.Proofs.Profile
import MqttProfile.Proofs.Binary64.Nearest
import MqttProfile.Proofs.Binary64.Shortest
import MqttProfile.Proofs.Toml.Text
import MqttProfile.Proofs.Toml.Number
import MqttProfile.Proofs.Toml.Document
import MqttProfile.Proofs.Config.Loading
import MqttProfile.Proofs.Config.Settings
import MqttProfile.Proofs.Config.Saving
import MqttProfile.Proofs.Draft.Invariant
import MqttProfile.Proofs.Draft.Selecting
import MqttProfile.Proofs.Draft.Endpoints
import MqttProfile.Proofs.Draft.Drawing
import MqttProfile.Proofs.Store.Profiles
import MqttProfile.Proofs.Assembly.Trimmed
import MqttProfile.Proofs.Password.Relaxed
