import MergeTurn.File.Cell
import MergeTurn.Json.Decode
import MergeTurn.Json.Printer
import MergeTurn.Store.Basic
import MergeTurn.Time.Timestamp

set_option autoImplicit false

/-!
# Forms in files

What is to outlive the process is kept in files, each with one document. A document says in which
version of the form it is written, and at what time.

## Main definitions

* `MergeTurn.formVersion` — the version of the form that is written and read.
* `MergeTurn.Backing` — a file for documents.
* `MergeTurn.Backing.save`, `MergeTurn.Backing.load` — writing and reading it.
-/

namespace MergeTurn

/-- The version of the form that files are written in. No other is read. -/
def formVersion : UInt32 := 1

/-- A file for documents, and the time that the next one is stamped with. -/
structure Backing where
  cell : File.Cell
  clock : Time.Timestamp

namespace Backing

/-- Writes a document to the file: whether that succeeded, and the file after it. -/
def save (document : Json) (b : Backing) : Bool × Backing :=
  let written := b.cell.write (Json.utf8 document.pretty)
  (written.1, { b with cell := written.2 })

/-- A value from the document in a file, or nothing if there is no file. The file has to be
readable, hold what was asked for, and be of the right version. -/
def load {α : Type} (read : Json → Except Json.Fault α) (version : α → UInt32) (b : Backing) :
    Except StoreError (Option α) :=
  match b.cell.slot with
  | .absent => .ok none
  | .directory => .error .file
  | .file content =>
    match Json.decode read content with
    | .error _ => .error .content
    | .ok a =>
      if version a = formVersion then .ok (some a)
      else .error (.version formVersion (version a))

variable (document : Json) {b : Backing}

/-- Saving succeeds exactly if the file can be written. -/
@[simp] theorem save_fst (b : Backing) : (b.save document).1 = b.cell.isWritable :=
  b.cell.write_fst _

/-- A file that could be written can be written again. -/
@[simp] theorem isWritable_save (b : Backing) :
    (b.save document).2.cell.isWritable = b.cell.isWritable :=
  b.cell.isWritable_write _

/-- A document is written to the path of the file. -/
@[simp] theorem path_save (b : Backing) : (b.save document).2.cell.path = b.cell.path :=
  b.cell.path_write _

/-- A document that gets into the file is all that is in it. -/
theorem slot_save (h : b.cell.takes = true) :
    (b.save document).2.cell.slot = .file (Json.utf8 document.pretty) := by
  simp [save, File.Cell.write_of_takes _ h]

/-- A document that does not get into the file leaves it as it was. -/
theorem save_of_not_takes (h : ¬ b.cell.takes = true) : b.save document = (false, b) := by
  simp [save, File.Cell.write_of_not_takes _ h]

end Backing

end MergeTurn
