import MergeTurn.File.Path

set_option autoImplicit false

/-!
# Files that are written as a whole

A file is only ever replaced as a whole: the directories on the way to it are made, the new content
is written to a draft beside it, the draft is renamed to the file when it is complete, and then the
directory is synced, so that the renaming lasts. A write that fails before the renaming leaves the
file as it was. One that fails after it has replaced the file all the same.

## Main definitions

* `MergeTurn.File.Slot` — what there is under a path.
* `MergeTurn.File.Cell` — a path with the state of the disk it lies on.
* `MergeTurn.File.Cell.write` — replacing the file.

## Main results

* `MergeTurn.File.Cell.write_fst` — when a write succeeds.
* `MergeTurn.File.Cell.write_of_takes`, `MergeTurn.File.Cell.write_of_not_takes` — what a write
  leaves.

## Design

The directory is opened under the name that stands before the name of the file. A path that is
nothing but a name has an empty one there, which cannot be opened. So whether a write fails after
the renaming is up to the path as well as to the disk.
-/

namespace MergeTurn.File

/-- What there is under a path. -/
inductive Slot where
  | absent
  | file (content : List UInt8)
  | directory
deriving DecidableEq

/-- A path with the state of the disk it lies on. -/
structure Cell where
  path : Path
  slot : Slot
  /-- Whether the disk takes nothing, so that no draft gets so far as to be renamed. -/
  full : Bool
  /-- Whether directories cannot be synced. -/
  unsynced : Bool
deriving DecidableEq

namespace Cell

/-- A file name in the current directory, which is named. -/
def plainPath : Path := .ofText "./state.json"

/-- A path with nothing under it, on a disk in order. -/
def absent (path : Path := plainPath) : Cell := ⟨path, .absent, false, false⟩

/-- A file on a disk in order. -/
def ofBytes (content : List UInt8) (path : Path := plainPath) : Cell :=
  ⟨path, .file content, false, false⟩

/-- Whether a draft gets so far as to be renamed to the file. -/
def takes (c : Cell) : Bool :=
  c.path.namesFile && c.slot != .directory && !c.full

/-- Whether the directory of the file can be opened and synced. -/
def syncs (c : Cell) : Bool :=
  c.path.namesFolder && !c.unsynced

/-- Whether the file can be written without a failure. -/
def isWritable (c : Cell) : Bool := c.takes && c.syncs

/-- Replaces the file: whether all steps succeeded, and the cell after them. The directory is synced
last, when the file has been replaced. -/
def write (content : List UInt8) (c : Cell) : Bool × Cell :=
  if c.takes then (c.syncs, { c with slot := .file content }) else (false, c)

/-- The cell with its file replaced from outside, where a directory stays as it is. -/
def overwrite (content : List UInt8) (c : Cell) : Cell :=
  if c.slot = .directory then c else { c with slot := .file content }

/-- The cell with its file replaced by a directory. -/
def obstruct (c : Cell) : Cell := { c with slot := .directory }

/-- The cell without the directory that stood in the way of its file. -/
def clear (c : Cell) : Cell :=
  if c.slot = .directory then { c with slot := .absent } else c

/-! ## What a write does -/

variable (content : List UInt8) {c : Cell}

/-- A draft that is renamed is in the place of the file, whether or not the directory is synced. -/
theorem write_of_takes (h : c.takes = true) :
    c.write content = (c.syncs, { c with slot := .file content }) := if_pos h

/-- A draft that is not renamed leaves the file as it was. -/
theorem write_of_not_takes (h : ¬ c.takes = true) : c.write content = (false, c) := if_neg h

/-- A write succeeds if the draft is renamed and the directory is synced. -/
@[simp] theorem write_fst (c : Cell) : (c.write content).1 = c.isWritable := by
  by_cases h : c.takes = true
  · simp [write_of_takes content h, isWritable, h]
  · simp [write_of_not_takes content h, isWritable, h]

/-- A file that was replaced can be replaced again. -/
@[simp] theorem takes_write (c : Cell) : (c.write content).2.takes = c.takes := by
  by_cases h : c.takes = true
  · rw [write_of_takes content h, h]
    simp only [takes, Bool.and_eq_true] at h ⊢
    exact ⟨⟨h.1.1, rfl⟩, h.2⟩
  · rw [write_of_not_takes content h]

/-- A write does not change whether the directory can be synced. -/
@[simp] theorem syncs_write (c : Cell) : (c.write content).2.syncs = c.syncs := by
  unfold write
  split <;> rfl

/-- A write goes to the path of the file. -/
@[simp] theorem path_write (c : Cell) : (c.write content).2.path = c.path := by
  unfold write
  split <;> rfl

/-- What could be written can be written again. -/
@[simp] theorem isWritable_write (c : Cell) : (c.write content).2.isWritable = c.isWritable := by
  rw [isWritable, takes_write, syncs_write, isWritable]

end Cell

end MergeTurn.File
