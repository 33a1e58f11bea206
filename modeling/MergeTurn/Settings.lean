import MergeTurn.File.Path
import MergeTurn.Json.Printer
import MergeTurn.Net.SocketAddress
import MergeTurn.Text.Blank
import MergeTurn.Text.Decimal
import MergeTurn.Text.Quoted
import MergeTurn.Time.Span

set_option autoImplicit false

/-!
# Settings

The service is set up by environment variables. A blank variable counts as one that is not set.

## Main definitions

* `MergeTurn.Settings` — the settings of the service.
* `MergeTurn.Settings.load` — settings from variables.
* `MergeTurn.Settings.registryFile` — where the registry is kept.
* `MergeTurn.Settings.debugText` — the text that shows settings without their secrets.
-/

namespace MergeTurn

open Net (SocketAddress)

/-- Why variables are refused. -/
inductive SettingsError where
  | missing (variableName : String)
  | invalid (variableName given : String)
deriving DecidableEq, Repr

/-- The message for variables that are refused. -/
def SettingsError.message : SettingsError → String
  | .missing v => "missing required environment variable " ++ v
  | .invalid v given => "invalid value for " ++ v ++ ": " ++ Text.quoted given

/-- The settings of the service. -/
structure Settings where
  bind : SocketAddress
  /-- What webhooks are signed with. -/
  secret : List UInt8
  /-- Without a token statuses are only logged. -/
  token : Option String
  /-- Without a file everything is kept in memory alone. -/
  stateFile : Option File.Path
  context : String
  debounce : Time.Span

namespace Settings

/-- The variable for the address. -/
def bindVariable : String := "MERGE_QUEUE_BIND"

/-- The variable for the secret. -/
def secretVariable : String := "GITHUB_WEBHOOK_SECRET"

/-- The variable for the token. -/
def tokenVariable : String := "GITHUB_TOKEN"

/-- The variable for the file. -/
def fileVariable : String := "MERGE_QUEUE_STATE_FILE"

/-- The variable for the context. -/
def contextVariable : String := "MERGE_QUEUE_STATUS_CONTEXT"

/-- The variable for the debounce. -/
def debounceVariable : String := "MERGE_QUEUE_CHECKS_DEBOUNCE_MS"

/-- The address without a setting: port 3000 on all interfaces. -/
def defaultBind : SocketAddress := .v4 ⟨0, 0, 0, 0⟩ 3000

/-- The context without a setting. -/
def defaultContext : String := "merge-queue"

/-- The debounce without a setting. -/
def defaultDebounce : Time.Span := .ofSeconds 2

/-- The settings with nothing set but the secret. -/
def ofSecret (secret : List UInt8) : Settings :=
  ⟨defaultBind, secret, none, none, defaultContext, defaultDebounce⟩

/-- An address, from a variable that may not be set. -/
def readBind : Option String → Except SettingsError SocketAddress
  | none => .ok defaultBind
  | some s =>
    match SocketAddress.ofText? s with
    | some a => .ok a
    | none => .error (.invalid bindVariable s)

/-- A debounce, from a variable that may not be set. -/
def readDebounce : Option String → Except SettingsError Time.Span
  | none => .ok defaultDebounce
  | some s =>
    match Text.word? UInt64.size s with
    | some ms => .ok (.ofMillis ms)
    | none => .error (.invalid debounceVariable s)

/-- Settings from variables. -/
def load (lookup : String → Option String) : Except SettingsError Settings := do
  let get (v : String) : Option String := (lookup v).filter fun s => !Text.isBlankText s
  match get secretVariable with
  | none => .error (.missing secretVariable)
  | some secret =>
    let bind ← readBind (get bindVariable)
    let debounce ← readDebounce (get debounceVariable)
    return ⟨bind, Json.utf8 secret, get tokenVariable, (get fileVariable).map File.Path.ofText,
      (get contextVariable).getD defaultContext, debounce⟩

/-- Where the registry is kept: beside the state file. -/
def registryFile (s : Settings) : Option File.Path :=
  s.stateFile.map (·.withExtension "pr-info.json")

/-- The text of a value that may be absent. -/
def debugOption (toText : String → String) : Option String → String
  | none => "None"
  | some s => "Some(" ++ toText s ++ ")"

/-- The text that shows settings without their secrets. -/
def debugText (s : Settings) : String :=
  "ServiceConfig \x7b bind: " ++ s.bind.toText ++
    ", github_token: " ++ debugOption (fun _ => "\"<redacted>\"") s.token ++
    ", state_file: " ++ debugOption Text.quotedPath (s.stateFile.map (·.toText)) ++
    ", status_context: " ++ Text.quoted s.context ++
    ", checks_debounce: " ++ s.debounce.toText ++ ", .. \x7d"

end Settings

end MergeTurn
