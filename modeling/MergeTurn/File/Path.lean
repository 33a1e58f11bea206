set_option autoImplicit false

/-!
# File names and extensions

The files of the service lie side by side: each gets its path from that of the state file by
another extension.

## Main definitions

* `MergeTurn.File.Path` — a path, as the characters it is written with.
* `MergeTurn.File.Path.split?` — what stands before the final name, and the final name.
* `MergeTurn.File.Path.namesFile`, `MergeTurn.File.Path.namesFolder` — whether a path ends in its
  final name, and whether anything stands before that.
* `MergeTurn.File.Path.stem` — a file name without its extension.
* `MergeTurn.File.Path.setExtension`, `MergeTurn.File.Path.withExtension` — a path with its
  extension replaced.

## Design

A path has a final name unless it ends in `..` or names nothing but the root or the current
directory. Slashes and single dots behind the final name do not count. What follows the last dot
of a name is its extension, but a dot at the beginning of a name starts none.

What stands before the final name names the directory of the file. It may be empty, and there is no
directory without a name: `state.json` names none, although `./state.json` is the same file.
-/

namespace MergeTurn.File

/-- A path, as the characters it is written with. -/
structure Path where
  chars : List Char
deriving DecidableEq, Repr

/-- A path from a text. -/
def Path.ofText (s : String) : Path := ⟨s.toList⟩

/-- The text of a path. -/
def Path.toText (p : Path) : String := String.ofList p.chars

/-- Characters in reverse without the slashes, and the single dots behind slashes, at their front:
those that end a path without naming anything. -/
def dropTrailing : List Char → List Char
  | '/' :: r => dropTrailing r
  | '.' :: '/' :: r => dropTrailing r
  | r => r

/-- What stands before the final name of a path, up to its last slash, and the final name. -/
def Path.split? (p : Path) : Option (List Char × List Char) :=
  let r := dropTrailing p.chars.reverse
  let name := (r.takeWhile (· ≠ '/')).reverse
  if name = [] ∨ name = ['.'] ∨ name = ['.', '.'] then none
  else some ((r.dropWhile (· ≠ '/')).reverse, name)

/-- Whether a path ends in its final name. With a slash or a dot behind that it is the path of a
directory. -/
def Path.namesFile (p : Path) : Bool :=
  p.split?.any fun (before, name) => before ++ name == p.chars

/-- Whether a path names the directory that its file lies in. -/
def Path.namesFolder (p : Path) : Bool :=
  p.split?.any fun (before, _) => !before.isEmpty

/-- A file name divided at its last dot. A name whose only dot is its first character is not
divided. -/
def divide (name : List Char) : List Char × Option (List Char) :=
  match name.reverse.span (· ≠ '.') with
  | (extension, '.' :: r) => if r.isEmpty then (name, none) else (r.reverse, some extension.reverse)
  | _ => (name, none)

/-- A file name without its extension. -/
def stem (name : List Char) : List Char :=
  (divide name).1

/-- The extension of the final name of a path. -/
def Path.extension? (p : Path) : Option (List Char) :=
  p.split?.bind fun (_, name) => (divide name).2

/-- A path whose final name has another extension, or a first one. A path without a final name is
left as it is. -/
def Path.setExtension (p : Path) (extension : String) : Path :=
  match p.split? with
  | none => p
  | some (before, name) => ⟨before ++ stem name ++ '.' :: extension.toList⟩

/-- A path with its extension replaced, or a new one if it had none. As many characters as the old
extension has are taken off the end before the new one is set, so a path whose final name is two
dots and an extension ends up without a final name. -/
def Path.withExtension (p : Path) (extension : String) : Path :=
  let old := (p.extension?.map List.length).getD 0
  Path.setExtension ⟨p.chars.take (p.chars.length - old)⟩ extension

example : ((Path.ofText "dir.d/state").withExtension "x").toText = "dir.d/state.x" ∧
    ((Path.ofText "a.b.c").withExtension "x").toText = "a.b.x" ∧
    ((Path.ofText ".hidden").withExtension "x").toText = ".hidden.x" ∧
    ((Path.ofText "dir/").withExtension "x").toText = "dir.x" ∧
    ((Path.ofText "dir.d/.").withExtension "x").toText = "dir.x" ∧
    ((Path.ofText "a/..").withExtension "x").toText = "a/.." := by decide +kernel

end MergeTurn.File
