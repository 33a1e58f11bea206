import MergeTurn.Store.Snapshot

set_option autoImplicit false

/-!
# Stores in memory

A store that holds its shelves in memory, and may keep a copy of them in a file. A change is
written to the file before it is made, so a write that fails changes nothing in memory.

## Main definitions

* `MergeTurn.Memory` — a store in memory.
* `MergeTurn.Memory.volatile`, `MergeTurn.Memory.load` — new stores, without and with a file.
* `MergeTurn.Memory.read`, `MergeTurn.Memory.replace` — what its primitives are made of.
-/

namespace MergeTurn

/-- A store in memory. -/
structure Memory where
  shelves : Shelves
  backing : Option Backing
  /-- Whether the store can be reached. -/
  online : Bool

namespace Memory

/-- An empty store without a file. -/
def volatile : Memory := ⟨Shelves.empty, none, true⟩

/-- The store that a file holds. -/
def load (b : Backing) : Except StoreError Memory :=
  match b.load Wire.readStoreSnapshot StoreSnapshot.version with
  | .error e => .error e
  | .ok none => .ok ⟨Shelves.empty, some b, true⟩
  | .ok (some snapshot) => .ok ⟨snapshot.shelves, some b, true⟩

/-- What happens to a call while the store cannot be reached. -/
def offline : StoreError := .unavailable "memory store marked offline"

/-- The document for shelves that are saved at a time. -/
def document (clock : Time.Timestamp) (s : Shelves) : Json :=
  Wire.encodeStoreSnapshot ⟨formVersion, clock, s⟩

/-- Reads from the shelves. -/
def read {α : Type} (f : Shelves → α) (m : Memory) : Except StoreError α × Memory :=
  if m.online then (.ok (f m.shelves), m) else (.error offline, m)

/-- Puts other shelves in the place of the present ones, in the file first. -/
def replace {α : Type} (answer : α) (s : Shelves) (m : Memory) : Except StoreError α × Memory :=
  if m.online then
    match m.backing with
    | none => (.ok answer, { m with shelves := s })
    | some b =>
      match b.save (document b.clock s) with
      | (true, b) => (.ok answer, { m with shelves := s, backing := some b })
      | (false, b) => (.error .file, { m with backing := some b })
  else (.error offline, m)

instance : Store Memory where
  isMember scope n m := m.read (·.hasMember scope n)
  addMember scope n m := m.replace () (m.shelves.addMember scope n)
  removeMember scope n m := m.replace () (m.shelves.removeMember scope n)
  append key b m := m.replace ((m.shelves.bookings key).length + 1) (m.shelves.append key b)
  removeFirst key n m :=
    m.replace ((m.shelves.bookings key).any (·.number == n)) (m.shelves.removeFirst key n)
  readRange key limit m := m.read (·.front key limit)
  length key m := m.read fun s => (s.bookings key).length

/-- The store with a change to its file from outside. -/
def withCell (f : File.Cell → File.Cell) (m : Memory) : Memory :=
  { m with backing := m.backing.map fun b => { b with cell := f b.cell } }

/-- A new store in the place of this one: what the file holds, or nothing without a file. -/
def reload (m : Memory) : Except StoreError Memory :=
  match m.backing with
  | none => .ok volatile
  | some b => load b

end Memory

end MergeTurn
