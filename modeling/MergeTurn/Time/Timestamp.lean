import MergeTurn.Text.Blank
import MergeTurn.Time.Calendar

set_option autoImplicit false

/-!
# Points in time

Bookings and snapshots are stamped with points in time to the nanosecond. In text they have the
form of RFC 3339. They are read with any offset and some freedom in blanks and leading zeros,
and always written in UTC.

## Main definitions

* `MergeTurn.Time.Timestamp` — a point in time.
* `MergeTurn.Time.Timestamp.toText` — its text, with as few fraction digits of 0, 3, 6 or 9 as lose
  nothing.
* `MergeTurn.Time.Timestamp.ofText?` — the point in time that a text names.

## Design

A leap second is kept as the second before it with a full second more of nanoseconds, so it can
stand only at the end of a minute; the type says so.
-/

namespace MergeTurn.Time

/-- A point in time, in seconds since the beginning of 1970 in UTC without leap seconds, and
nanoseconds. Within a leap second the nanoseconds run on past a full second. -/
structure Timestamp where
  seconds : Int
  nanos : Nat
  nanos_lt : nanos < 1000000000 ∨ (nanos < 2000000000 ∧ seconds % 60 = 59) := by decide
deriving DecidableEq

/-- The beginning of 1970. -/
def Timestamp.epoch : Timestamp := ⟨0, 0, by decide⟩

/-! ## Writing -/

/-- A natural number with leading zeros up to a number of digits. -/
def zeroPadded (width n : Nat) : List Char :=
  let ds := Nat.toDigits 10 n
  List.replicate (width - ds.length) '0' ++ ds

/-- The written form of a year: four digits, or a sign and at least four digits for a year before
the first or after the ten thousandth. -/
def yearChars (year : Int) : List Char :=
  if 0 ≤ year ∧ year ≤ 9999 then zeroPadded 4 year.toNat
  else (if year < 0 then '-' else '+') :: zeroPadded 4 year.natAbs

/-- The written form of a fraction of a second. -/
def fractionChars (nanos : Nat) : List Char :=
  if nanos = 0 then []
  else if nanos % 1000000 = 0 then '.' :: zeroPadded 3 (nanos / 1000000)
  else if nanos % 1000 = 0 then '.' :: zeroPadded 6 (nanos / 1000)
  else '.' :: zeroPadded 9 nanos

/-- The written form of a point in time. -/
def Timestamp.toChars (t : Timestamp) : List Char :=
  let date := Date.ofDayNumber (t.seconds / 86400)
  let second := (t.seconds % 86400).toNat
  let leap := t.nanos / 1000000000
  yearChars date.year ++ '-' :: zeroPadded 2 date.month ++ '-' :: zeroPadded 2 date.day ++
    'T' :: zeroPadded 2 (second / 3600) ++ ':' :: zeroPadded 2 (second / 60 % 60) ++
    ':' :: zeroPadded 2 (second % 60 + leap) ++ fractionChars (t.nanos % 1000000000) ++ ['Z']

/-- The text of a point in time. -/
def Timestamp.toText (t : Timestamp) : String :=
  String.ofList t.toChars

/-! ## Reading -/

/-- A text without its leading blanks. -/
def skipBlank (cs : List Char) : List Char :=
  cs.dropWhile Text.isBlank

/-- A number of at most `width` digits behind blanks, and what follows. -/
def readNumber (width : Nat) (cs : List Char) : Option (Nat × List Char) :=
  let ds := ((skipBlank cs).takeWhile Char.isDigit).take width
  if ds.isEmpty then none
  else some (ds.foldl (fun n d => 10 * n + (d.toNat - '0'.toNat)) 0, (skipBlank cs).drop ds.length)

/-- A year behind blanks, and what follows: at most four digits, or a sign and any number. -/
def readYear (cs : List Char) : Option (Int × List Char) :=
  match skipBlank cs with
  | '+' :: r => readSigned 1 r
  | '-' :: r => readSigned (-1) r
  | r => (readNumber 4 r).map fun (n, r) => ((n : Int), r)
where
  readSigned (sign : Int) (r : List Char) : Option (Int × List Char) :=
    if r.head?.any Char.isDigit then
      (readNumber r.length r).map fun (n, r) => (sign * (n : Int), r)
    else none

/-- A given character behind blanks, and what follows. -/
def readMark (mark : Char) (cs : List Char) : Option (List Char) :=
  match skipBlank cs with
  | c :: r => if c = mark then some r else none
  | [] => none

/-- The nanoseconds of a fraction of a second, if there is one, and what follows. Digits after the
ninth are passed over. -/
def readFraction : List Char → Option (Nat × List Char)
  | '.' :: r =>
    let ds := r.takeWhile Char.isDigit
    let nine := ds.take 9
    if ds.isEmpty then none
    else
      let n := nine.foldl (fun n d => 10 * n + (d.toNat - '0'.toNat)) 0
      some (n * Nat.pow 10 (9 - nine.length), r.dropWhile Char.isDigit)
  | r => some (0, r)

/-- Two digits and what follows. -/
def readTwoDigits : List Char → Option (Nat × List Char)
  | a :: b :: r =>
    if a.isDigit ∧ b.isDigit then
      some (10 * (a.toNat - '0'.toNat) + (b.toNat - '0'.toNat), r)
    else none
  | _ => none

/-- An offset from UTC in seconds and what follows: `Z`, `UTC`, or a sign, hours and minutes, with
colons and blanks between them. -/
def readOffset : List Char → Option (Int × List Char)
  | 'Z' :: r => some (0, r)
  | 'z' :: r => some (0, r)
  | '+' :: r => readHours 1 r
  | '-' :: r => readHours (-1) r
  | '−' :: r => readHours (-1) r
  | u :: t :: c :: r =>
    if u.toLower = 'u' ∧ t.toLower = 't' ∧ c.toLower = 'c' then some (0, r) else none
  | _ => none
where
  readHours (sign : Int) (r : List Char) : Option (Int × List Char) := do
    let (hours, r) ← readTwoDigits r
    let (minutes, r) ← readTwoDigits (r.dropWhile fun c => c == ':' || Text.isBlank c)
    if minutes < 60 ∧ hours < 24 then some (sign * (hours * 3600 + minutes * 60), r) else none

/-- The years whose days can be named. -/
def isNamedYear (year : Int) : Bool :=
  -262143 ≤ year && year ≤ 262142

/-- The point in time of a date, a time of day and an offset from UTC, if there is such a time. -/
def Timestamp.ofParts? (date : Date) (hour minute second nanos : Nat) (offset : Int) :
    Option Timestamp :=
  if date.isValid ∧ isNamedYear date.year ∧ hour < 24 ∧ minute < 60 ∧ second ≤ 60 then
    let leap := second / 60
    let seconds := date.dayNumber * 86400 + hour * 3600 + minute * 60 + (second - leap) - offset
    let total := nanos + leap * 1000000000
    if h : total < 1000000000 ∨ (total < 2000000000 ∧ seconds % 60 = 59) then
      if isNamedYear (Date.ofDayNumber (seconds / 86400)).year then some ⟨seconds, total, h⟩
      else none
    else none
  else none

/-- The point in time that a text names. Date and time are divided by a `T` or a blank. -/
def Timestamp.ofChars? (cs : List Char) : Option Timestamp := do
  let (year, r) ← readYear cs
  let r ← readMark '-' r
  let (month, r) ← readNumber 2 r
  let r ← readMark '-' r
  let (day, r) ← readNumber 2 r
  let r ← match r with
    | c :: r => if c = 'T' ∨ c = 't' ∨ c = ' ' then some r else none
    | [] => none
  let (hour, r) ← readNumber 2 r
  let r ← readMark ':' r
  let (minute, r) ← readNumber 2 r
  let r ← readMark ':' r
  let (second, r) ← readNumber 2 r
  let (nanos, r) ← readFraction r
  let (offset, r) ← readOffset (skipBlank r)
  if (skipBlank r).isEmpty then
    Timestamp.ofParts? ⟨year, month, day⟩ hour minute second nanos offset
  else none

/-- The point in time that a text names. -/
def Timestamp.ofText? (s : String) : Option Timestamp :=
  Timestamp.ofChars? s.toList

example : (Timestamp.ofText? "2024-01-01T00:30:00+01:00").map Timestamp.toText =
    some "2023-12-31T23:30:00Z" := by decide +kernel

example : (Timestamp.ofText? "2016-12-31T23:59:60.5Z").map Timestamp.toText =
    some "2016-12-31T23:59:60.500Z" := by decide +kernel

end MergeTurn.Time
