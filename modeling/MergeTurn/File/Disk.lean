import Mathlib.Logic.Function.Basic
import MergeTurn.File.Cell
import MergeTurn.File.Path

set_option autoImplicit false

/-!
# Replacing files on a disk

A file is replaced in steps. The new content is written to a draft beside it, piece by piece, and
when it is complete the draft is renamed to the file. The process may end between any two steps.

## Main definitions

* `MergeTurn.File.Place` — a name in a directory.
* `MergeTurn.File.Path.draft` — the path of the draft of a file.
* `MergeTurn.File.Disk` — what there is at each place.
* `MergeTurn.File.Disk.step`, `MergeTurn.File.Disk.follow` — the steps of replacing a file.
* `MergeTurn.File.Disk.run` — the steps of all who write to the disk, in any order.
* `MergeTurn.File.Attempt` — an attempt to replace a file.

## Design

A step that is not possible leaves the disk as it is. The directories that files lie in are taken to
be there: they were made before the draft. That they are synced afterwards is no step, since it
changes nothing that can be read.
-/

namespace MergeTurn.File

/-- A name in a directory. -/
structure Place where
  directory : List Char
  name : List Char
deriving DecidableEq

namespace Path

/-- The place that a path leads to. A path without a final name leads to a directory, of which
nothing is said here. -/
def place? (p : Path) : Option Place :=
  p.split?.map fun (directory, name) => ⟨directory, name⟩

/-- The path of the draft of a file. -/
def draft (p : Path) : Path :=
  p.withExtension "json.tmp"

end Path

/-- What there is at each place. -/
abbrev Disk := Place → Slot

/-- The steps of replacing a file. -/
inductive Step where
  /-- The draft is made, or emptied if it was there. -/
  | create
  /-- A piece of the content is put at the end of the draft. -/
  | write (piece : List UInt8)
  /-- The draft is put in the place of the file. -/
  | rename

namespace Disk

/-- One step of replacing the file at one place by way of the draft at another. Unless the path ends
in the name of the file, nothing can be renamed to it. -/
def stepAt (file draft : Place) (named : Bool) (s : Step) (d : Disk) : Disk :=
  match s, d draft with
  | .create, .directory => d
  | .create, _ => Function.update d draft (.file [])
  | .write piece, .file content => Function.update d draft (.file (content ++ piece))
  | .write _, _ => d
  | .rename, .file content =>
    if named && d file != .directory then
      Function.update (Function.update d draft .absent) file (.file content)
    else d
  | .rename, _ => d

/-- One step of replacing the file at a path. -/
def step (p : Path) (s : Step) (d : Disk) : Disk :=
  match p.place?, p.draft.place? with
  | some file, some draft => d.stepAt file draft p.namesFile s
  | _, _ => d

/-- The disk after steps of replacing the file at a path. -/
def follow (p : Path) (steps : List Step) (d : Disk) : Disk :=
  steps.foldl (fun d s => d.step p s) d

/-- The disk after steps of several writers, each of which replaces a file of its own. -/
def run {ι : Type} (path : ι → Path) (history : List (ι × Step)) (d : Disk) : Disk :=
  history.foldl (fun d e => d.step (path e.1) e.2) d

end Disk

/-- An attempt to replace a file: the pieces that are written to the draft before the attempt ends,
and whether it ends with the renaming. -/
structure Attempt where
  pieces : List (List UInt8)
  completed : Bool

namespace Attempt

/-- The steps of an attempt. -/
def steps (a : Attempt) : List Step :=
  .create :: a.pieces.map .write ++ if a.completed then [.rename] else []

/-- What an attempt does to the file, seen as a whole. -/
def cell (a : Attempt) (c : Cell) : Cell :=
  if a.completed then (c.write a.pieces.flatten).2 else c

end Attempt

end MergeTurn.File
