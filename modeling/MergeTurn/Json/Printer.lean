import MergeTurn.Json.Basic
import MergeTurn.Text.Quoted

set_option autoImplicit false

/-!
# Writing JSON

Documents are written in two layouts, without blanks and with one element or member a line.

## Main definitions

* `MergeTurn.Json.stringChars` — the written form of a string.
* `MergeTurn.Json.compact` — a document without blanks.
* `MergeTurn.Json.pretty` — a document with one element or member a line, indented by two blanks.
-/

namespace MergeTurn.Json

/-- The written form of one character of a string: quote, backslash and control characters are
escaped, all else stands as it is. -/
def escapeChar (c : Char) : List Char :=
  if c = '"' then ['\\', '"']
  else if c = '\\' then ['\\', '\\']
  else if c = '\x08' then ['\\', 'b']
  else if c = '\x0c' then ['\\', 'f']
  else if c = '\n' then ['\\', 'n']
  else if c = '\r' then ['\\', 'r']
  else if c = '\t' then ['\\', 't']
  else if c.toNat < 0x20 then
    ['\\', 'u', '0', '0', Text.hexDigit (c.toNat / 16), Text.hexDigit (c.toNat % 16)]
  else [c]

/-- The written form of a string. -/
def stringChars (s : String) : List Char :=
  '"' :: s.toList.flatMap escapeChar ++ ['"']

/-- The word for an absent value. It also stands where a document has no text of its own. -/
def nullChars : List Char := ['n', 'u', 'l', 'l']

/-- The written form of a truth value. -/
def boolChars : Bool → List Char
  | true => ['t', 'r', 'u', 'e']
  | false => ['f', 'a', 'l', 's', 'e']

/-- The written form of a number. -/
def numChars : Numeral → List Char
  | .natural n => Nat.toDigits 10 n
  | .other _ => nullChars

/-- The written form of a string or of what stands for one. -/
def keyChars : Option String → List Char
  | some s => stringChars s
  | none => stringChars ""

mutual

/-- A document without blanks. -/
def compactChars : Json → List Char
  | .null => nullChars
  | .bool b => boolChars b
  | .num n => numChars n
  | .str (some s) => stringChars s
  | .str none => nullChars
  | .arr es => '[' :: es.compactChars
  | .obj ms => '\x7b' :: ms.compactChars
  | .cut => nullChars

/-- Elements without blanks, with the closing bracket. -/
def Elements.compactChars : Elements → List Char
  | .nil => [']']
  | .cut => [']']
  | .cons v .nil => v.compactChars ++ [']']
  | .cons v es => v.compactChars ++ ',' :: es.compactChars

/-- Members without blanks, with the closing brace. -/
def Members.compactChars : Members → List Char
  | .nil => ['\x7d']
  | .cut => ['\x7d']
  | .cons k v .nil => keyChars k ++ ':' :: v.compactChars ++ ['\x7d']
  | .cons k v ms => keyChars k ++ ':' :: v.compactChars ++ ',' :: ms.compactChars

end

/-- A line break and the blanks before a line at a given depth. -/
def newline (depth : Nat) : List Char :=
  '\n' :: List.replicate (2 * depth) ' '

mutual

/-- A document at a given depth, with one element or member a line. -/
def prettyChars (depth : Nat) : Json → List Char
  | .null => nullChars
  | .bool b => boolChars b
  | .num n => numChars n
  | .str (some s) => stringChars s
  | .str none => nullChars
  | .arr .nil => ['[', ']']
  | .arr es => '[' :: es.prettyChars depth
  | .obj .nil => ['\x7b', '\x7d']
  | .obj ms => '\x7b' :: ms.prettyChars depth
  | .cut => nullChars

/-- Elements of an array at a given depth, one a line, with the closing bracket. -/
def Elements.prettyChars (depth : Nat) : Elements → List Char
  | .nil => [']']
  | .cut => [']']
  | .cons v .nil => newline (depth + 1) ++ v.prettyChars (depth + 1) ++ newline depth ++ [']']
  | .cons v es => newline (depth + 1) ++ v.prettyChars (depth + 1) ++ ',' :: es.prettyChars depth

/-- Members of an object at a given depth, one a line, with the closing brace. -/
def Members.prettyChars (depth : Nat) : Members → List Char
  | .nil => ['\x7d']
  | .cut => ['\x7d']
  | .cons k v .nil =>
    newline (depth + 1) ++ keyChars k ++ ':' :: ' ' :: v.prettyChars (depth + 1) ++
      newline depth ++ ['\x7d']
  | .cons k v ms =>
    newline (depth + 1) ++ keyChars k ++ ':' :: ' ' :: v.prettyChars (depth + 1) ++
      ',' :: ms.prettyChars depth

end

/-- The text of a document, without blanks. -/
def compact (v : Json) : String :=
  String.ofList v.compactChars

/-- The text of a document, with one element or member a line. -/
def pretty (v : Json) : String :=
  String.ofList (v.prettyChars 0)

/-- The bytes of a text. -/
def utf8 (s : String) : List UInt8 :=
  s.toUTF8.toList

example : (object [("a", array nat [1, 2]), ("b", text "\x01\"")]).compact =
    "\x7b\"a\":[1,2],\"b\":\"\\u0001\\\"\"\x7d" := by decide

end MergeTurn.Json
