import MergeTurn.Service.Calls
import MergeTurn.Wire.Basic

set_option autoImplicit false

/-!
# Payloads of webhooks

A webhook has a kind, and a payload with far more in it than the service wants to know. Kinds and
actions that the service does not act on are passed over.

## Main definitions

* `MergeTurn.Webhook.Event` — what a webhook tells.
* `MergeTurn.Webhook.PayloadError` — why a payload is refused.
* `MergeTurn.Webhook.parse` — the event of a kind and a payload.

## Design

A payload is read in two steps: first its form, by typed readers that skip what they do not know,
then its meaning. An action that is passed over needs only the form to be right.
-/

namespace MergeTurn.Webhook

open Json (Fault Row required optional readRecord readText)

/-! ## Events -/

/-- What happened to a pull request. -/
inductive PullAction where
  | opened
  | reopened
  /-- Commits were added. -/
  | synchronized
  | closed (closing : Closing)
deriving DecidableEq, Repr

/-- What a webhook tells. -/
inductive Event where
  /-- Something happened to a pull request, which is now as given. -/
  | pull (action : PullAction) (p : Pull)
  | check (change : CheckChange)
  /-- The webhook was set up. -/
  | ping
deriving DecidableEq, Repr

/-- Why a payload is refused. -/
inductive PayloadError where
  /-- It is not JSON, or not of the form that its kind has. -/
  | form
  /-- A member has a value that means nothing. -/
  | value (member given : String)
deriving DecidableEq, Repr

/-- The message for a payload that is refused. -/
def PayloadError.message : PayloadError → String
  | .form => "JSON parse error: not a payload of this kind"
  | .value member given => "invalid field value for " ++ member ++ ": " ++ given

/-! ## The form of payloads -/

/-- The members of a pull request in a payload. -/
structure PullPart where
  number : UInt64
  title : String
  pageUrl : String
  statusUrl : String
  author : String
  assignees : List String
  merged : Option Bool
  merger : Option String
  headCommit : Option String
  branch : String
deriving DecidableEq, Repr

/-- The payload of a webhook about a pull request. -/
structure PullPayload where
  action : String
  pull : PullPart
  repo : Repo
  installation : Option InstallationId
deriving DecidableEq, Repr

/-- The payload of a webhook about a status. -/
structure CheckPayload where
  commit : String
  state : String
  context : String
  repo : Repo
deriving DecidableEq, Repr

def loginField : Json.Field String := required "login" readText

/-- Somebody's name. -/
def readUser : Json → Except Fault String :=
  readRecord [loginField.slot] fun row => row.get loginField

def ownerField : Json.Field String := required "owner" readUser
def nameField : Json.Field String := required "name" readText

/-- A repository. -/
def readRepo : Json → Except Fault Repo :=
  readRecord [ownerField.slot, nameField.slot] fun row => do
    return ⟨← row.get ownerField, ← row.get nameField⟩

def idField : Json.Field UInt64 := required "id" Wire.readUInt64

/-- An installation. -/
def readInstallation : Json → Except Fault InstallationId :=
  readRecord [idField.slot] fun row => do return ⟨← row.get idField⟩

def commitField : Json.Field (Option String) := optional "sha" readText
def refField : Json.Field String := required "ref" readText

/-- A branch, and its last commit if that is given. -/
def readBranch : Json → Except Fault (Option String × String) :=
  readRecord [commitField.slot, refField.slot] fun row => do
    return (← row.get commitField, ← row.get refField)

def numberField : Json.Field UInt64 := required "number" Wire.readUInt64
def titleField : Json.Field String := required "title" readText
def pageUrlField : Json.Field String := required "html_url" readText
def statusUrlField : Json.Field String := required "statuses_url" readText
def userField : Json.Field String := required "user" readUser

/-- The people assigned. They may be left out, but not null. -/
def assigneesField : Json.Field (List String) := ⟨"assignees", Json.readList readUser, some []⟩

def mergedField : Json.Field (Option Bool) := optional "merged" Json.readBool
def mergerField : Json.Field (Option String) := optional "merged_by" readUser
def headField : Json.Field (Option String × String) := required "head" readBranch
def baseField : Json.Field (Option String × String) := required "base" readBranch

/-- A pull request. -/
def readPullPart : Json → Except Fault PullPart :=
  readRecord [numberField.slot, titleField.slot, pageUrlField.slot, statusUrlField.slot,
      userField.slot, assigneesField.slot, mergedField.slot, mergerField.slot, headField.slot,
      baseField.slot] fun row => do
    return ⟨← row.get numberField, ← row.get titleField, ← row.get pageUrlField,
      ← row.get statusUrlField, ← row.get userField, ← row.get assigneesField,
      ← row.get mergedField, ← row.get mergerField, (← row.get headField).1,
      (← row.get baseField).2⟩

def actionField : Json.Field String := required "action" readText
def pullField : Json.Field PullPart := required "pull_request" readPullPart
def repositoryField : Json.Field Repo := required "repository" readRepo
def installationField : Json.Field (Option InstallationId) :=
  optional "installation" readInstallation

/-- The payload of a webhook about a pull request. -/
def readPullPayload : Json → Except Fault PullPayload :=
  readRecord [actionField.slot, pullField.slot, repositoryField.slot, installationField.slot]
    fun row => do
      return ⟨← row.get actionField, ← row.get pullField, ← row.get repositoryField,
        ← row.get installationField⟩

def shaField : Json.Field String := required "sha" readText
def stateField : Json.Field String := required "state" readText
def contextField : Json.Field String := required "context" readText

/-- The payload of a webhook about a status. -/
def readCheckPayload : Json → Except Fault CheckPayload :=
  readRecord [shaField.slot, stateField.slot, contextField.slot, repositoryField.slot]
    fun row => do
      return ⟨← row.get shaField, ← row.get stateField, ← row.get contextField,
        ← row.get repositoryField⟩

/-! ## The meaning of payloads -/

/-- The commit that a member names. A name that is left out is none. -/
def parseCommit (member : String) (name : Option String) : Except PayloadError CommitId :=
  match CommitId.ofText? (name.getD "") with
  | some commit => .ok commit
  | none => .error (.value member (name.getD ""))

/-- How a pull request was closed. A merge of which nobody is named is its author's. -/
def PullPart.closing (p : PullPart) : Closing :=
  if p.merged.getD false then .merged (p.merger.getD p.author) else .dropped

/-- What the action of a payload means, if the service acts on it. -/
def PullPayload.action? (p : PullPayload) : Option PullAction :=
  if p.action = "opened" then some .opened
  else if p.action = "reopened" then some .reopened
  else if p.action = "synchronize" then some .synchronized
  else if p.action = "closed" then some (.closed p.pull.closing)
  else none

/-- The event of a payload about a pull request, if the service acts on it. -/
def PullPayload.event (p : PullPayload) : Except PayloadError (Option Event) :=
  match p.action? with
  | none => .ok none
  | some action =>
    match parseCommit "pull_request.head.sha" p.pull.headCommit with
    | .error e => .error e
    | .ok head =>
      .ok (some (.pull action ⟨p.repo, ⟨p.pull.number⟩, p.pull.statusUrl, p.installation,
        p.pull.branch, p.pull.title, p.pull.author, p.pull.pageUrl, p.pull.assignees, head⟩))

/-- The event of a payload about a status. -/
def CheckPayload.event (p : CheckPayload) : Except PayloadError Event :=
  match CheckState.words.lookup p.state with
  | none => .error (.value "state" p.state)
  | some state =>
    match parseCommit "sha" (some p.commit) with
    | .error e => .error e
    | .ok commit => .ok (.check ⟨p.repo, commit, state, p.context⟩)

/-- A payload of a form that it has to be of. -/
def decodePayload {α : Type} (read : Json → Except Fault α) (bs : List UInt8) :
    Except PayloadError α :=
  match Json.decode read bs with
  | .ok a => .ok a
  | .error _ => .error .form

/-- The event of a webhook, if the service acts on it. -/
def parse (kind : String) (payload : List UInt8) : Except PayloadError (Option Event) :=
  if kind = "pull_request" then decodePayload readPullPayload payload >>= PullPayload.event
  else if kind = "status" then do
    return some (← (← decodePayload readCheckPayload payload).event)
  else if kind = "ping" then .ok (some .ping)
  else .ok none

end MergeTurn.Webhook
