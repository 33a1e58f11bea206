import MergeTurn.Store.Form
import MergeTurn.Store.Shelves
import MergeTurn.Wire.Basic

set_option autoImplicit false

/-!
# Snapshots of a store

## Main definitions

* `MergeTurn.StoreSnapshot` — the content of a store's file.
* `MergeTurn.Wire.encodeStoreSnapshot`, `MergeTurn.Wire.readStoreSnapshot` — its form.
-/

namespace MergeTurn

/-- The content of a store's file. -/
structure StoreSnapshot where
  version : UInt32
  savedAt : Time.Timestamp
  shelves : Shelves

namespace Wire

open Json (Fault required readRecord)

def versionField : Json.Field UInt32 := required "schema_version" readUInt32
def savedAtField : Json.Field Time.Timestamp := required "saved_at" readTimestamp

def listsField : Json.Field (List (String × List Booking)) :=
  required "lists" (Json.readEntries (Json.readList readBooking))

def setsField : Json.Field (List (String × List PullNumber)) :=
  required "sets" (Json.readEntries (Json.readList readNumber))

def encodeShelfLists (s : Shelves) : Json :=
  Json.object (s.lists.toList.map fun (k, bs) => (k, Json.array encodeBooking bs))

def encodeShelfSets (s : Shelves) : Json :=
  Json.object (s.sets.toList.map fun (k, ns) => (k, Json.array encodeNumber ns.toList))

def encodeStoreSnapshot (s : StoreSnapshot) : Json :=
  Json.object [("schema_version", Json.nat s.version.toNat),
    ("saved_at", encodeTimestamp s.savedAt), ("lists", encodeShelfLists s.shelves),
    ("sets", encodeShelfSets s.shelves)]

/-- Shelves from named lists and sets. Of two with one name the later counts. -/
def shelvesOfEntries (lists : List (String × List Booking))
    (sets : List (String × List PullNumber)) : Shelves :=
  ⟨Std.ExtTreeMap.ofList lists,
    Std.ExtTreeMap.ofList (sets.map fun (k, ns) => (k, Std.ExtTreeSet.ofList ns))⟩

/-- The content of a store's file. -/
def readStoreSnapshot : Json → Except Fault StoreSnapshot :=
  readRecord [versionField.slot, savedAtField.slot, listsField.slot, setsField.slot] fun row => do
    return ⟨← row.get versionField, ← row.get savedAtField,
      shelvesOfEntries (← row.get listsField) (← row.get setsField)⟩

end Wire

end MergeTurn
