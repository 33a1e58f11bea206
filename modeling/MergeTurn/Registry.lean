import MergeTurn.Store.Snapshot

set_option autoImplicit false

/-!
# The registry of pull requests

Every webhook about a pull request says all that is known about it. The registry keeps the last
word on each open one, so that statuses can be posted later. It may keep a copy in a file. Since
the next webhook brings it up to date again, a copy that cannot be written is done without.

## Main definitions

* `MergeTurn.Registry` — the pull requests on record.
* `MergeTurn.Registry.get?`, `MergeTurn.Registry.findByHead?` — looking one up.
* `MergeTurn.Registry.record`, `MergeTurn.Registry.forget` — how the registry changes.
-/

namespace MergeTurn

/-- The pull requests on record. -/
structure Registry where
  entries : Std.ExtTreeMap PullKey Pull
  backing : Option Backing

/-- The content of a registry's file. -/
structure RegistrySnapshot where
  version : UInt32
  savedAt : Time.Timestamp
  entries : List Pull

namespace Wire

open Json (Fault required readRecord)

def entriesField : Json.Field (List Pull) := required "entries" (Json.readList readPull)

def encodeRegistrySnapshot (s : RegistrySnapshot) : Json :=
  Json.object [("schema_version", Json.nat s.version.toNat),
    ("saved_at", encodeTimestamp s.savedAt), ("entries", Json.array encodePull s.entries)]

/-- The content of a registry's file. -/
def readRegistrySnapshot : Json → Except Fault RegistrySnapshot :=
  readRecord [versionField.slot, savedAtField.slot, entriesField.slot] fun row => do
    return ⟨← row.get versionField, ← row.get savedAtField, ← row.get entriesField⟩

end Wire

namespace Registry

/-- An empty registry without a file. -/
def volatile : Registry := ⟨∅, none⟩

/-- Pull requests by repository and number. Of two with one key the later counts. -/
def index (pulls : List Pull) : Std.ExtTreeMap PullKey Pull :=
  .ofList (pulls.map fun p => (p.key, p))

/-- The registry that a file holds. -/
def load (b : Backing) : Except StoreError Registry :=
  match b.load Wire.readRegistrySnapshot RegistrySnapshot.version with
  | .error e => .error e
  | .ok none => .ok ⟨∅, some b⟩
  | .ok (some snapshot) => .ok ⟨index snapshot.entries, some b⟩

/-- The pull requests on record, by owner, repository and number. -/
def pulls (r : Registry) : List Pull :=
  r.entries.toList.map (·.2)

/-- The number of pull requests on record. -/
def size (r : Registry) : Nat := r.entries.size

/-- What is known about a pull request. -/
def get? (key : PullKey) (r : Registry) : Option Pull :=
  r.entries[key]?

/-- A pull request of a repository whose last commit is the given one. -/
def findByHead? (repo : Repo) (head : CommitId) (r : Registry) : Option Pull :=
  r.pulls.find? fun p => p.repo == repo && p.head == head

/-- The registry after an attempt to write it to its file. -/
def save (r : Registry) : Registry :=
  { r with backing := r.backing.map fun b =>
      (b.save (Wire.encodeRegistrySnapshot ⟨formVersion, b.clock, r.pulls⟩)).2 }

/-- The registry with the last word on a pull request. -/
def record (p : Pull) (r : Registry) : Registry :=
  save { r with entries := r.entries.insert p.key p }

/-- The registry without a pull request. -/
def forget (key : PullKey) (r : Registry) : Registry :=
  save { r with entries := r.entries.erase key }

/-- The registry with a change to its file from outside. -/
def withCell (f : File.Cell → File.Cell) (r : Registry) : Registry :=
  { r with backing := r.backing.map fun b => { b with cell := f b.cell } }

/-- A new registry in the place of this one: what the file holds, or nothing without a file. -/
def reload (r : Registry) : Except StoreError Registry :=
  match r.backing with
  | none => .ok volatile
  | some b => load b

end Registry

end MergeTurn
