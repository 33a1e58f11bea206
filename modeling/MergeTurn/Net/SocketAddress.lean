import MergeTurn.Text.Decimal
import MergeTurn.Text.Hex

set_option autoImplicit false

/-!
# Addresses to listen on

An address to listen on is an IPv4 address or a bracketed IPv6 address, and a port.

## Main definitions

* `MergeTurn.Net.SocketAddress` — an address with its port.
* `MergeTurn.Net.SocketAddress.ofText?` — the address that a text names.
* `MergeTurn.Net.SocketAddress.toText` — its canonical text.

## Design

The readers take a part off the front of a text and return the rest. The canonical text of an
IPv6 address leaves out the first of the longest runs of two or more zero groups, and shows an
address that stands for an IPv4 address in that form.
-/

namespace MergeTurn.Net

/-- The four bytes of an IPv4 address. -/
structure Ipv4 where
  a : UInt8
  b : UInt8
  c : UInt8
  d : UInt8
deriving DecidableEq, Repr

/-- An address to listen on. -/
inductive SocketAddress where
  | v4 (ip : Ipv4) (port : UInt16)
  /-- An IPv6 address of eight groups, with the number of its zone. -/
  | v6 (groups : List UInt16) (zone : UInt32) (port : UInt16)
deriving DecidableEq, Repr

/-! ## Reading -/

/-- A decimal number below a bound, and what follows. -/
def readDecimal (bound : Nat) (cs : List Char) : Option (Nat × List Char) := do
  let ds := cs.takeWhile Char.isDigit
  let n ← Text.natural? ds
  if n < bound then some (n, cs.dropWhile Char.isDigit) else none

/-- A byte of an IPv4 address, at most three digits without leading zeros, and what follows. -/
def readOctet (cs : List Char) : Option (UInt8 × List Char) := do
  let ds := cs.takeWhile Char.isDigit
  if 3 < ds.length ∨ (ds.head? = some '0' ∧ 1 < ds.length) then none
  else
    let (n, r) ← readDecimal 256 cs
    return (UInt8.ofNat n, r)

/-- A given character, and what follows. -/
def readChar (c : Char) : List Char → Option (List Char)
  | d :: r => if d = c then some r else none
  | [] => none

/-- An IPv4 address and what follows. -/
def readIpv4 (cs : List Char) : Option (Ipv4 × List Char) := do
  let (a, r) ← readOctet cs
  let (b, r) ← readOctet (← readChar '.' r)
  let (c, r) ← readOctet (← readChar '.' r)
  let (d, r) ← readOctet (← readChar '.' r)
  return (⟨a, b, c, d⟩, r)

/-- A group of an IPv6 address, at most four hexadecimal digits, and what follows. -/
def readGroup (cs : List Char) : Option (UInt16 × List Char) :=
  let isHex := fun c => (Text.digitValue? c).isSome
  let ds := cs.takeWhile isHex
  if ds.isEmpty ∨ 4 < ds.length then none
  else
    let n := ds.foldl (fun n d => 16 * n + (Text.digitValue? d).getD 0) 0
    some (UInt16.ofNat n, cs.dropWhile isHex)

/-- The two groups that an IPv4 address fills. -/
def Ipv4.groups (ip : Ipv4) : List UInt16 :=
  [ip.a.toUInt16 * 256 + ip.b.toUInt16, ip.c.toUInt16 * 256 + ip.d.toUInt16]

/-- As many groups of an IPv6 address as there are, up to a number, whether an IPv4 address ended
them, and what follows. An IPv4 address may stand for the last two groups. All groups but the
first follow a colon. -/
def readGroups : Nat → Bool → List Char → List UInt16 × Bool × List Char
  | 0, _, cs => ([], false, cs)
  | left + 1, first, cs =>
    let behind := if first then some cs else readChar ':' cs
    match behind.bind fun r => if 0 < left then readIpv4 r else none with
    | some (ip, r) => (ip.groups, true, r)
    | none =>
      match behind.bind readGroup with
      | some (g, r) =>
        let (gs, dotted, r) := readGroups left false r
        (g :: gs, dotted, r)
      | none => ([], false, cs)

/-- The groups of an IPv6 address and what follows. A double colon stands for the groups that are
missing, at least one. -/
def readIpv6 (cs : List Char) : Option (List UInt16 × List Char) := do
  let (head, dotted, r) := readGroups 8 true cs
  if head.length = 8 then return (head, r)
  else if dotted then none
  else
    let r ← readChar ':' (← readChar ':' r)
    let (tail, _, r) := readGroups (7 - head.length) true r
    return (head ++ List.replicate (8 - head.length - tail.length) 0 ++ tail, r)

/-- A port behind its colon, up to the end. -/
def readPort (cs : List Char) : Option UInt16 := do
  let (n, r) ← readDecimal UInt16.size (← readChar ':' cs)
  if r.isEmpty then some (UInt16.ofNat n) else none

/-- The zone of an IPv6 address behind its percent sign, or zero, and what follows. -/
def readZone (cs : List Char) : UInt32 × List Char :=
  match readChar '%' cs >>= readDecimal UInt32.size with
  | some (n, r) => (UInt32.ofNat n, r)
  | none => (0, cs)

/-- The address that characters name. -/
def SocketAddress.ofChars? (cs : List Char) : Option SocketAddress :=
  match (do let (ip, r) ← readIpv4 cs; return .v4 ip (← readPort r) : Option SocketAddress) with
  | some address => some address
  | none => do
    let (groups, r) ← readIpv6 (← readChar '[' cs)
    let (zone, r) := readZone r
    let port ← readPort (← readChar ']' r)
    return .v6 groups zone port

/-- The address that a text names. -/
def SocketAddress.ofText? (s : String) : Option SocketAddress :=
  SocketAddress.ofChars? s.toList

/-! ## Writing -/

/-- The written form of an IPv4 address. -/
def Ipv4.toText (ip : Ipv4) : String :=
  ".".intercalate ([ip.a, ip.b, ip.c, ip.d].map fun b => toString b.toNat)

/-- The length of the run of zero groups at the front. -/
def zeroRun (groups : List UInt16) : Nat :=
  (groups.takeWhile (· == 0)).length

/-- The place and the length of the first of the longest runs of zero groups. -/
def longestZeroRun (groups : List UInt16) : Nat × Nat :=
  (List.range groups.length).foldl (fun best i =>
    let n := zeroRun (groups.drop i)
    if best.2 < n then (i, n) else best) (0, 0)

/-- Groups in hexadecimal with colons between them. -/
def groupsText (groups : List UInt16) : String :=
  ":".intercalate (groups.map fun g => String.ofList (Text.hexDigits g.toNat))

/-- The canonical text of an IPv6 address. -/
def ipv6Text (groups : List UInt16) : String :=
  match groups with
  | [0, 0, 0, 0, 0, 0xffff, g, h] =>
    "::ffff:" ++ Ipv4.toText ⟨(g / 256).toUInt8, g.toUInt8, (h / 256).toUInt8, h.toUInt8⟩
  | _ =>
    let (start, length) := longestZeroRun groups
    if 1 < length then
      groupsText (groups.take start) ++ "::" ++ groupsText (groups.drop (start + length))
    else groupsText groups

/-- The canonical text of an address. -/
def SocketAddress.toText : SocketAddress → String
  | .v4 ip port => ip.toText ++ ":" ++ toString port.toNat
  | .v6 groups zone port =>
    "[" ++ ipv6Text groups ++ (if zone = 0 then "" else "%" ++ toString zone.toNat) ++ "]:" ++
      toString port.toNat

example : (SocketAddress.ofText? "[1:0:0:2:0:0:0:3]:1").map SocketAddress.toText =
    some "[1:0:0:2::3]:1" := by decide +kernel

end MergeTurn.Net
