import MergeTurn.Booking
import MergeTurn.Json.Decode
import MergeTurn.Json.Printer

set_option autoImplicit false

/-!
# Names, statuses, bookings and pull requests as JSON

Each type has an encoding as an object with fixed members and a reader for it. Readers accept the
members in any order, among others that they do not know.

## Main definitions

* `MergeTurn.Wire.encodeRepo`, `MergeTurn.Wire.readRepo`, and likewise for `Lane`, `Booking`,
  `Pull`, `CheckState`, `StatusTarget` and `StatusReport`.
-/

namespace MergeTurn.Wire

open Json (Fault Row required optional readRecord readText)

/-! ## Scalars -/

/-- A 64-bit word. -/
def readUInt64 (v : Json) : Except Fault UInt64 :=
  (Json.readNat UInt64.size v).map UInt64.ofNat

/-- A 32-bit word. -/
def readUInt32 (v : Json) : Except Fault UInt32 :=
  (Json.readNat UInt32.size v).map UInt32.ofNat

def encodeUInt64 (n : UInt64) : Json := Json.nat n.toNat

def encodeNumber (n : PullNumber) : Json := encodeUInt64 n.val

/-- The number of a pull request. -/
def readNumber (v : Json) : Except Fault PullNumber :=
  (readUInt64 v).map PullNumber.mk

def encodeInstallation (n : InstallationId) : Json := encodeUInt64 n.val

/-- The number of an installation. -/
def readInstallation (v : Json) : Except Fault InstallationId :=
  (readUInt64 v).map InstallationId.mk

def encodeCommit (c : CommitId) : Json := Json.text c.text

/-- The name of a commit, taken as it is. -/
def readCommit (v : Json) : Except Fault CommitId :=
  (readText v).map CommitId.mk

def encodeTimestamp (t : Time.Timestamp) : Json := Json.text t.toText

/-- A point in time. -/
def readTimestamp (v : Json) : Except Fault Time.Timestamp := do
  match Time.Timestamp.ofText? (← readText v) with
  | some t => .ok t
  | none => .error .wrongShape

def encodeState (s : CheckState) : Json := Json.text s.word

/-- The state of a status. -/
def readState (v : Json) : Except Fault CheckState :=
  Json.readWord CheckState.words v

/-! ## Repositories and lanes -/

def ownerField : Json.Field String := required "owner" readText
def repoNameField : Json.Field String := required "repo" readText
def branchField : Json.Field String := required "branch" readText

def encodeRepo (r : Repo) : Json :=
  Json.object [("owner", Json.text r.owner), ("repo", Json.text r.name)]

/-- A repository. -/
def readRepo : Json → Except Fault Repo :=
  readRecord [ownerField.slot, repoNameField.slot] fun row => do
    return ⟨← row.get ownerField, ← row.get repoNameField⟩

def encodeLane (l : Lane) : Json :=
  Json.object [("owner", Json.text l.repo.owner), ("repo", Json.text l.repo.name),
    ("branch", Json.text l.branch)]

/-- A lane. -/
def readLane : Json → Except Fault Lane :=
  readRecord [ownerField.slot, repoNameField.slot, branchField.slot] fun row => do
    return ⟨⟨← row.get ownerField, ← row.get repoNameField⟩, ← row.get branchField⟩

/-! ## Bookings -/

def numberField : Json.Field PullNumber := required "pull_request_number" readNumber
def usernameField : Json.Field String := required "username" readText
def bookedAtField : Json.Field Time.Timestamp := required "created_at" readTimestamp

def encodeBooking (b : Booking) : Json :=
  Json.object [("pull_request_number", encodeNumber b.number), ("username", Json.text b.username),
    ("created_at", encodeTimestamp b.bookedAt)]

/-- A booking. -/
def readBooking : Json → Except Fault Booking :=
  readRecord [numberField.slot, usernameField.slot, bookedAtField.slot] fun row => do
    return ⟨← row.get numberField, ← row.get usernameField, ← row.get bookedAtField⟩

/-! ## Statuses -/

def installationField : Json.Field (Option InstallationId) :=
  optional "installation_id" readInstallation
def statusUrlField : Json.Field String := required "status_url" readText

def encodeTarget (t : StatusTarget) : Json :=
  Json.object [("installation_id", Json.option encodeInstallation t.installation),
    ("status_url", Json.text t.statusUrl)]

/-- Where a status is posted. -/
def readTarget : Json → Except Fault StatusTarget :=
  readRecord [installationField.slot, statusUrlField.slot] fun row => do
    return ⟨← row.get installationField, ← row.get statusUrlField⟩

def stateField : Json.Field CheckState := required "state" readState
def descriptionField : Json.Field String := required "description" readText
def targetUrlField : Json.Field (Option String) := optional "target_url" readText

def encodeReport (r : StatusReport) : Json :=
  Json.object [("state", encodeState r.state), ("description", Json.text r.description),
    ("target_url", Json.option Json.text r.targetUrl)]

/-- A status to post. -/
def readReport : Json → Except Fault StatusReport :=
  readRecord [stateField.slot, descriptionField.slot, targetUrlField.slot] fun row => do
    return ⟨← row.get stateField, ← row.get descriptionField, ← row.get targetUrlField⟩

/-! ## Pull requests -/

def repoField : Json.Field Repo := required "repo" readRepo
def titleField : Json.Field String := required "title" readText
def authorField : Json.Field String := required "author" readText
def pageUrlField : Json.Field String := required "human_url" readText
def assigneesField : Json.Field (List String) := required "assignees" (Json.readList readText)
def headField : Json.Field CommitId := required "sha" readCommit

def encodePull (p : Pull) : Json :=
  Json.object [("repo", encodeRepo p.repo), ("pull_request_number", encodeNumber p.number),
    ("status_url", Json.text p.statusUrl),
    ("installation_id", Json.option encodeInstallation p.installation),
    ("branch", Json.text p.branch), ("title", Json.text p.title), ("author", Json.text p.author),
    ("human_url", Json.text p.pageUrl), ("assignees", Json.array Json.text p.assignees),
    ("sha", encodeCommit p.head)]

/-- What is known about a pull request. -/
def readPull : Json → Except Fault Pull :=
  readRecord [repoField.slot, numberField.slot, statusUrlField.slot, installationField.slot,
      branchField.slot, titleField.slot, authorField.slot, pageUrlField.slot, assigneesField.slot,
      headField.slot] fun row => do
    return ⟨← row.get repoField, ← row.get numberField, ← row.get statusUrlField,
      ← row.get installationField, ← row.get branchField, ← row.get titleField,
      ← row.get authorField, ← row.get pageUrlField, ← row.get assigneesField,
      ← row.get headField⟩

end MergeTurn.Wire
