import MergeTurn.Text.Printable

set_option autoImplicit false

/-!
# Quoted text

Messages and summaries show a text between double quotes, with what could mislead a reader
written as an escape.

## Main definitions

* `MergeTurn.Text.hexDigit` — the hexadecimal digit of a number below sixteen.
* `MergeTurn.Text.escape` — the written form of one character inside quotes.
* `MergeTurn.Text.quoted` — a text between double quotes.
* `MergeTurn.Text.quotedPath` — a file path between double quotes, where a single quote is
  escaped too.
-/

namespace MergeTurn.Text

/-- The lower-case hexadecimal digit of a number below sixteen. -/
def hexDigit (n : Nat) : Char :=
  if n < 10 then Char.ofNat (0x30 + n) else Char.ofNat (0x57 + n)

/-- The hexadecimal digits of a number, without leading zeros. -/
def hexDigits (n : Nat) : List Char :=
  Nat.toDigits 16 n

/-- The written form of one character inside double quotes: the usual short escapes, the code
point in hexadecimal for a character that is not shown as it stands, and else the character. -/
def escape (c : Char) : List Char :=
  if c = '"' then ['\\', '"']
  else if c = '\\' then ['\\', '\\']
  else if c = '\n' then ['\\', 'n']
  else if c = '\r' then ['\\', 'r']
  else if c = '\t' then ['\\', 't']
  else if c = '\x00' then ['\\', '0']
  else if isShown c then [c]
  else ['\\', 'u', '\x7b'] ++ hexDigits c.toNat ++ ['\x7d']

/-- A text between double quotes. -/
def quoted (s : String) : String :=
  String.ofList ('"' :: s.toList.flatMap escape ++ ['"'])

/-- A file path between double quotes: as `quoted`, and a single quote is escaped too. -/
def quotedPath (s : String) : String :=
  let escapeInPath (c : Char) : List Char := if c = '\'' then ['\\', '\''] else escape c
  String.ofList ('"' :: s.toList.flatMap escapeInPath ++ ['"'])

example : quoted "a\"b" = "\"a\\\"b\"" := by decide
example : quoted "esc\x1bx" = "\"esc\\u\x7b1b\x7dx\"" := by decide

end MergeTurn.Text
