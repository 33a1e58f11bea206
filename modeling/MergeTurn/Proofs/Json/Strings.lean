import Mathlib.Data.List.Basic
import Mathlib.Tactic.IntervalCases
import MergeTurn.Json.Printer
import MergeTurn.Json.Reader

set_option autoImplicit false

/-!
# Strings that are written can be read

The same string can be written in many ways: a character by its bytes, by a short escape, or by the
numbers of its one or two units. However it is written, it is read as the characters it stands for.
A unit that is half of a pair and stands alone is no character, and a string with such a unit stands
for no text.

## Main definitions

* `MergeTurn.Json.charBytes` — the bytes of characters.
* `MergeTurn.Json.WritesChar` — a text is a written form of a character.
* `MergeTurn.Json.WritesChars` — a text is a written form of what a string holds.

## Main results

* `MergeTurn.Json.utf8?_charBytes` — bytes of characters are text.
* `MergeTurn.Json.readString_of_writes` — a written string is read as what it holds.
* `MergeTurn.Json.writesChars_stringBody` — strings are printed in one of the ways to write them.

## Design

Two units make up one character only if they follow each other. So a unit is known to stand alone
only by what follows it, and the written forms are put together from the closing quote backwards.
-/

namespace MergeTurn.Json

/-! ## Bytes of characters -/

/-- The bytes of characters. -/
def charBytes (cs : List Char) : List UInt8 :=
  cs.flatMap String.utf8EncodeChar

@[simp] lemma charBytes_nil : charBytes [] = [] := rfl

@[simp] lemma charBytes_cons (c : Char) (cs : List Char) :
    charBytes (c :: cs) = String.utf8EncodeChar c ++ charBytes cs := rfl

@[simp] lemma charBytes_append (cs ds : List Char) :
    charBytes (cs ++ ds) = charBytes cs ++ charBytes ds :=
  List.flatMap_append

/-- Walking through an array of bytes collects what is left of it. -/
lemma toList_loop (b : ByteArray) (i : Nat) (r : List UInt8) :
    ByteArray.toList.loop b i r = r.reverse ++ b.data.toList.drop i := by
  fun_induction ByteArray.toList.loop b i r with
  | case1 i r h ih =>
    have hi : i < b.data.toList.length := by simpa using h
    have hsize : i < b.data.size := by simpa using hi
    have hget : b.get! i = b.data.toList[i] := getElem!_pos b.data i hsize
    rw [ih, List.drop_eq_getElem_cons hi, hget]
    simp
  | case2 i r h =>
    have hi : b.data.toList.length ≤ i := by simpa using h
    simp [List.drop_eq_nil_of_le hi]

/-- The bytes of an array in order. -/
lemma byteArray_toList (b : ByteArray) : b.toList = b.data.toList := by
  rw [ByteArray.toList, toList_loop]
  rfl

/-- The bytes of a text are those of its characters. -/
lemma utf8_ofList (cs : List Char) : utf8 (String.ofList cs) = charBytes cs := by
  simp [utf8, charBytes, String.ofList, List.utf8Encode, byteArray_toList]

/-- The bytes of characters are text. -/
lemma utf8?_charBytes (s : String) : utf8? (charBytes s.toList) = some s := by
  have hbytes : charBytes s.toList = s.toByteArray.data.toList := by
    rw [← utf8_ofList, String.ofList_toList, utf8, byteArray_toList, String.toUTF8]
  have hv : (⟨(charBytes s.toList).toArray⟩ : ByteArray) = s.toByteArray := by
    rw [hbytes]
  rw [utf8?, hv, String.fromUTF8?, dif_pos s.isValidUTF8]
  rfl

/-- A character of the first 128 is one byte. -/
lemma utf8EncodeChar_of_lt {c : Char} (h : c.toNat < 128) :
    String.utf8EncodeChar c = [UInt8.ofNat c.toNat] := by
  have hsize : c.utf8Size = 1 := by
    rw [Char.utf8Size_eq_one_iff, UInt32.le_iff_toNat_le]
    have hval : c.val.toNat = c.toNat := rfl
    rw [hval]
    exact Nat.le_of_lt_succ h
  rw [String.utf8EncodeChar_eq_singleton hsize]
  rfl

/-- All bytes of any other character are at least 128. -/
lemma le_of_mem_utf8EncodeChar {c : Char} (h : ¬ c.toNat < 128) {b : UInt8}
    (hb : b ∈ String.utf8EncodeChar c) : 0x80 ≤ b := by
  have hor : ∀ x y : UInt8, 0x80 ≤ y → 0x80 ≤ x ||| y := by
    intro x y hy
    rw [UInt8.le_iff_toNat_le] at hy ⊢
    rw [UInt8.toNat_or]
    exact Nat.le_trans hy Nat.right_le_or
  have hpos := c.utf8Size_pos
  have hfour := c.utf8Size_le_four
  have hone : c.utf8Size ≠ 1 := by
    rw [Ne, Char.utf8Size_eq_one_iff, UInt32.le_iff_toNat_le]
    exact fun hle => h (Nat.lt_succ_of_le hle)
  obtain hsize | hsize | hsize : c.utf8Size = 2 ∨ c.utf8Size = 3 ∨ c.utf8Size = 4 := by omega
  · rw [String.utf8EncodeChar_eq_cons_cons hsize] at hb
    simp only [List.mem_cons, List.not_mem_nil, or_false] at hb
    rcases hb with rfl | rfl <;> exact hor _ _ (by decide)
  · rw [String.utf8EncodeChar_eq_cons_cons_cons hsize] at hb
    simp only [List.mem_cons, List.not_mem_nil, or_false] at hb
    rcases hb with rfl | rfl | rfl <;> exact hor _ _ (by decide)
  · rw [String.utf8EncodeChar_eq_cons_cons_cons_cons hsize] at hb
    simp only [List.mem_cons, List.not_mem_nil, or_false] at hb
    rcases hb with rfl | rfl | rfl | rfl <;> exact hor _ _ (by decide)

/-! ## Pieces of strings -/

/-- A byte that stands for itself in a string. -/
def Verbatim (b : UInt8) : Prop :=
  ¬ b < 0x20 ∧ b ≠ 0x22 ∧ b ≠ 0x5c

/-- A byte that stands for itself is a piece of the string. -/
lemma lexString_verbatim {b : UInt8} (h : Verbatim b) (r : List UInt8) :
    lexString (b :: r) = (lexString r).map fun (ps, t) => (.byte b :: ps, t) := by
  rw [lexString.eq_def]
  split
  · next heq => cases heq
  · next heq => cases heq; exact absurd rfl h.2.1
  · next heq => cases heq; exact absurd rfl h.2.2
  · next heq => cases heq; exact absurd rfl h.2.2
  · next heq =>
    cases heq
    rw [if_neg (by rintro (hlt | heq); exacts [h.1 hlt, h.2.2 heq])]
    cases lexString r <;> rfl

/-- Bytes that stand for themselves are pieces of the string. -/
lemma lexString_verbatims {bs : List UInt8} (h : ∀ b ∈ bs, Verbatim b) (r : List UInt8) :
    lexString (bs ++ r) = (lexString r).map fun (ps, t) => (bs.map .byte ++ ps, t) := by
  induction bs with
  | nil => simp
  | cons b bs ih =>
    obtain ⟨hb, hbs⟩ := List.forall_mem_cons.1 h
    rw [List.cons_append, lexString_verbatim hb, ih hbs]
    cases lexString r <;> rfl

/-- A short escape is a piece of the string. -/
lemma lexString_shortEscape {e b : UInt8} (h : shortEscape? e = some b) (r : List UInt8) :
    lexString (0x5c :: e :: r) = (lexString r).map fun (ps, t) => (.byte b :: ps, t) := by
  have hu : e ≠ 0x75 := by
    rintro rfl
    cases h
  rw [lexString.eq_def]
  split
  · next heq => cases heq
  · next heq => cases heq
  · next heq => cases heq; exact absurd rfl hu
  · next heq =>
    cases heq
    rw [h]
    cases lexString r <;> rfl
  · next hne heq =>
    cases heq
    exact (hne e r rfl rfl).elim

/-- An escape by four digits is a piece of the string. -/
lemma lexString_unit {a b c d : UInt8} {n : Nat} (h : fourDigits? a b c d = some n)
    (r : List UInt8) :
    lexString (0x5c :: 0x75 :: a :: b :: c :: d :: r) =
      (lexString r).map fun (ps, t) => (.unit n :: ps, t) := by
  rw [lexString, h]
  cases lexString r <;> rfl

/-- Bytes spell themselves. -/
lemma spell_bytes (bs : List UInt8) (ps : List Piece) :
    spell (bs.map .byte ++ ps) = (spell ps).map (bs ++ ·) := by
  induction bs with
  | nil => simp
  | cons b bs ih => simp [spell, ih, Function.comp_def]

/-- A unit that is no surrogate spells a code point of its own. -/
lemma spell_unit {n : Nat} (h : n < 0xd800 ∨ 0xdfff < n) (ps : List Piece) :
    spell (.unit n :: ps) = (spell ps).map (codeBytes n ++ ·) := by
  rw [spell.eq_def]
  dsimp only
  rw [if_pos h]

/-- A unit of the upper half and one of the lower half spell a code point together. -/
lemma spell_pair {n m : Nat} (hn : 0xd800 ≤ n ∧ n ≤ 0xdbff) (hm : 0xdc00 ≤ m ∧ m ≤ 0xdfff)
    (ps : List Piece) :
    spell (.unit n :: .unit m :: ps) =
      (spell ps).map (codeBytes (0x10000 + (n - 0xd800) * 0x400 + (m - 0xdc00)) ++ ·) := by
  rw [spell.eq_def]
  dsimp only
  rw [if_neg (by omega), if_neg (by omega), if_pos hm]

/-- A surrogate that is not followed by its other half spells nothing. -/
lemma spell_unpaired {n : Nat} (hn : 0xd800 ≤ n ∧ n ≤ 0xdfff) {ps : List Piece}
    (h : n ≤ 0xdbff → ∀ m qs, ps = .unit m :: qs → ¬ (0xdc00 ≤ m ∧ m ≤ 0xdfff)) :
    spell (.unit n :: ps) = none := by
  rw [spell.eq_def]
  dsimp only
  rw [if_neg (by omega)]
  split_ifs with hupper
  · rfl
  · split
    · next m qs => rw [if_neg (h (Nat.le_of_not_lt hupper) m qs rfl)]
    · rfl

/-! ## Ways to write a character -/

/-- The short escapes: what stands behind the backslash, and for which character. -/
def shortEscapes : List (UInt8 × Char) :=
  [(0x22, '"'), (0x5c, '\\'), (0x2f, '/'), (0x62, '\x08'), (0x66, '\x0c'), (0x6e, '\n'),
    (0x72, '\r'), (0x74, '\t')]

/-- A text is an escape by the four hexadecimal digits of a number. -/
inductive HexEscape : List UInt8 → Nat → Prop
  | digits {a b c d : UInt8} {n : Nat} (h : fourDigits? a b c d = some n) :
    HexEscape [0x5c, 0x75, a, b, c, d] n

/-- A text is a written form of a character in a string: its bytes, unless it has to be escaped, a
short escape, or the number of the character or of its two halves. -/
inductive WritesChar : List UInt8 → Char → Prop
  | plain {c : Char} (hc : 0x20 ≤ c.toNat) (hquote : c ≠ '"') (hslash : c ≠ '\\') :
    WritesChar (String.utf8EncodeChar c) c
  | short {e : UInt8} {c : Char} (h : (e, c) ∈ shortEscapes) : WritesChar [0x5c, e] c
  | unit {bs : List UInt8} {c : Char} (h : HexEscape bs c.toNat) : WritesChar bs c
  | pair {bs bs' : List UInt8} {c : Char} (hc : 0x10000 ≤ c.toNat)
    (h : HexEscape bs (0xd800 + (c.toNat - 0x10000) / 0x400))
    (h' : HexEscape bs' (0xdc00 + (c.toNat - 0x10000) % 0x400)) : WritesChar (bs ++ bs') c

/-- A text is a written form of what a string holds, with the closing quote: of characters, or of
nothing if a surrogate stands in it without its other half. -/
inductive WritesChars : List UInt8 → Option (List Char) → Prop
  | done : WritesChars [0x22] (some [])
  | cons {bs cs : List UInt8} {c : Char} {s : Option (List Char)} (h : WritesChar bs c)
    (hs : WritesChars cs s) : WritesChars (bs ++ cs) (s.map (c :: ·))
  | unpaired {bs cs : List UInt8} {n : Nat} {s : Option (List Char)} (h : HexEscape bs n)
    (hn : 0xd800 ≤ n ∧ n ≤ 0xdfff)
    (hfree : n ≤ 0xdbff → ∀ bs' m r, HexEscape bs' m → cs = bs' ++ r → ¬ (0xdc00 ≤ m ∧ m ≤ 0xdfff))
    (hs : WritesChars cs s) : WritesChars (bs ++ cs) none

/-! ## Reading what is written -/

/-- A written character is read as pieces that spell the character. -/
def Reads (written : List UInt8) (c : Char) : Prop :=
  ∃ ps, (∀ r, lexString (written ++ r) = (lexString r).map fun (qs, t) => (ps ++ qs, t)) ∧
    ∀ qs, spell (ps ++ qs) = (spell qs).map (String.utf8EncodeChar c ++ ·)

/-- An escape by a number is a piece of the string. -/
lemma HexEscape.lexString_append {bs : List UInt8} {n : Nat} (h : HexEscape bs n)
    (r : List UInt8) :
    lexString (bs ++ r) = (lexString r).map fun (ps, t) => (.unit n :: ps, t) := by
  cases h with
  | digits h => exact lexString_unit h r

/-- The first piece of a string is a unit only if the string begins with an escape by its number. -/
lemma exists_hexEscape {bs r : List UInt8} {m : Nat} {ps : List Piece}
    (h : lexString bs = some (.unit m :: ps, r)) : ∃ bs' t, HexEscape bs' m ∧ bs = bs' ++ t := by
  rw [lexString.eq_def] at h
  split at h
  · cases h
  · cases h
  · next a b c d t =>
    split at h
    · next n qs s hn hlex =>
      cases h
      exact ⟨_, t, .digits hn, rfl⟩
    · cases h
  · split at h <;> cases h
  · split at h
    · cases h
    · split at h <;> cases h

/-- The bytes of a character that needs no escape stand for themselves. -/
lemma verbatim_of_mem {c : Char} (hc : 0x20 ≤ c.toNat) (hquote : c ≠ '"') (hslash : c ≠ '\\')
    {b : UInt8} (hb : b ∈ String.utf8EncodeChar c) : Verbatim b := by
  by_cases hlt : c.toNat < 128
  · have hquote' : c.toNat ≠ 0x22 := fun e => hquote (Char.toNat_inj.1 e)
    have hslash' : c.toNat ≠ 0x5c := fun e => hslash (Char.toNat_inj.1 e)
    rw [utf8EncodeChar_of_lt hlt, List.mem_singleton] at hb
    subst hb
    have hval : (UInt8.ofNat c.toNat).toNat = c.toNat :=
      UInt8.toNat_ofNat_of_lt' (Nat.lt_trans hlt (by decide))
    refine ⟨?_, fun e => ?_, fun e => ?_⟩
    · rw [UInt8.lt_iff_toNat_lt, hval]
      exact Nat.not_lt.2 hc
    · exact hquote' (hval.symm.trans (congrArg UInt8.toNat e))
    · exact hslash' (hval.symm.trans (congrArg UInt8.toNat e))
  · have hle : 0x80 ≤ b := le_of_mem_utf8EncodeChar hlt hb
    rw [UInt8.le_iff_toNat_le] at hle
    refine ⟨?_, ?_, ?_⟩
    · rw [UInt8.lt_iff_toNat_lt]
      exact fun hb => absurd (Nat.lt_of_le_of_lt hle hb) (by decide)
    · rintro rfl
      exact absurd hle (by decide)
    · rintro rfl
      exact absurd hle (by decide)

/-- A short escape stands for the one byte of its character. -/
lemma shortEscape?_of_mem {e : UInt8} {c : Char} (h : (e, c) ∈ shortEscapes) :
    ∃ b, shortEscape? e = some b ∧ String.utf8EncodeChar c = [b] := by
  have hall : ∀ p ∈ shortEscapes, ∃ b ∈ shortEscape? p.1, String.utf8EncodeChar p.2 = [b] := by
    decide
  exact hall _ h

/-- A character is no surrogate. -/
lemma toNat_not_surrogate (c : Char) : c.toNat < 0xd800 ∨ 0xdfff < c.toNat ∧ c.toNat < 0x110000 :=
  c.valid

/-- Every written character is read as the character. -/
lemma WritesChar.reads {bs : List UInt8} {c : Char} (h : WritesChar bs c) : Reads bs c := by
  cases h with
  | plain hc hquote hslash =>
    exact ⟨(String.utf8EncodeChar c).map .byte,
      lexString_verbatims fun b => verbatim_of_mem hc hquote hslash, spell_bytes _⟩
  | short h =>
    obtain ⟨b, hb, hc⟩ := shortEscape?_of_mem h
    exact ⟨[.byte b], lexString_shortEscape hb, fun qs => by rw [hc]; rfl⟩
  | unit h =>
    refine ⟨[.unit c.toNat], h.lexString_append, fun qs => ?_⟩
    rw [List.singleton_append, spell_unit ((toNat_not_surrogate c).imp_right And.left), codeBytes,
      Char.ofNat_toNat]
  | @pair bs bs' _ hc h h' =>
    have hlt : c.toNat < 0x110000 := by
      have := toNat_not_surrogate c
      omega
    refine ⟨[.unit (0xd800 + (c.toNat - 0x10000) / 0x400),
      .unit (0xdc00 + (c.toNat - 0x10000) % 0x400)], fun r => ?_, fun qs => ?_⟩
    · rw [List.append_assoc, h.lexString_append, h'.lexString_append, Option.map_map]
      rfl
    · have hcode : 0x10000 + (0xd800 + (c.toNat - 0x10000) / 0x400 - 0xd800) * 0x400 +
          (0xdc00 + (c.toNat - 0x10000) % 0x400 - 0xdc00) = c.toNat := by omega
      rw [List.cons_append, List.cons_append, List.nil_append, spell_pair (by omega) (by omega),
        hcode, codeBytes, Char.ofNat_toNat]

/-- A written string is read up to its closing quote, as pieces that spell what it holds.

**Proof sketch.** By induction on the written form, from the closing quote on. What follows a
surrogate that stands alone is known in full, so its first piece is known not to be the other
half. -/
lemma lexString_of_writes {bs : List UInt8} {s : Option (List Char)} (h : WritesChars bs s) :
    ∃ ps, (∀ r, lexString (bs ++ r) = some (ps, r)) ∧ spell ps = s.map charBytes := by
  induction h with
  | done => exact ⟨[], fun r => rfl, rfl⟩
  | cons h hs ih =>
    obtain ⟨qs, hlex, hspell⟩ := ih
    obtain ⟨ps, hread, hps⟩ := h.reads
    refine ⟨ps ++ qs, fun r => ?_, ?_⟩
    · rw [List.append_assoc, hread, hlex]
      rfl
    · rw [hps, hspell, Option.map_map, Option.map_map]
      rfl
  | @unpaired bs cs n s h hn hfree hs ih =>
    obtain ⟨ps, hlex, -⟩ := ih
    refine ⟨.unit n :: ps, fun r => ?_, spell_unpaired hn fun hupper m qs hps => ?_⟩
    · rw [List.append_assoc, h.lexString_append, hlex]
      rfl
    · have hcs := hlex []
      rw [List.append_nil, hps] at hcs
      obtain ⟨bs', t, hm, ht⟩ := exists_hexEscape hcs
      exact hfree hupper bs' m t hm ht

/-- A written string is read as the text that it holds. -/
theorem readString_of_writes {bs : List UInt8} {s : Option (List Char)} (h : WritesChars bs s)
    (r : List UInt8) : readString (bs ++ r) = some (s.map String.ofList, r) := by
  obtain ⟨ps, hlex, hspell⟩ := lexString_of_writes h
  rw [readString, hlex, Option.map_some]
  dsimp only
  rw [hspell]
  cases s with
  | none => rfl
  | some cs =>
    have htext := utf8?_charBytes (String.ofList cs)
    rw [String.toList_ofList] at htext
    exact congrArg (fun t => some (t, r)) htext

/-! ## Printing -/

/-- A control character is printed as an escape by its number. -/
lemma hexEscape_control {n : Nat} (h : n < 0x20) :
    HexEscape (charBytes ['\\', 'u', '0', '0', Text.hexDigit (n / 16), Text.hexDigit (n % 16)]) n := by
  have hdigits : ∃ a b : UInt8,
      charBytes ['\\', 'u', '0', '0', Text.hexDigit (n / 16), Text.hexDigit (n % 16)] =
        [0x5c, 0x75, 0x30, 0x30, a, b] ∧ fourDigits? 0x30 0x30 a b = some n := by
    refine ⟨UInt8.ofNat (Text.hexDigit (n / 16)).toNat, UInt8.ofNat (Text.hexDigit (n % 16)).toNat,
      ?_, ?_⟩
    · interval_cases n <;> rfl
    · interval_cases n <;> rfl
  obtain ⟨a, b, hbytes, hvalue⟩ := hdigits
  rw [hbytes]
  exact .digits hvalue

/-- Every character is printed in one of the ways to write it. -/
lemma writesChar_escapeChar (c : Char) : WritesChar (charBytes (escapeChar c)) c := by
  have hshort : ∀ {e : UInt8} {bs : List UInt8}, (e, c) ∈ shortEscapes → bs = [0x5c, e] →
      WritesChar bs c := fun h hbs => hbs ▸ .short h
  unfold escapeChar
  split_ifs with hq hb h8 hc hn hr ht hctl
  · subst hq; exact hshort (e := 0x22) (by decide) (by decide)
  · subst hb; exact hshort (e := 0x5c) (by decide) (by decide)
  · subst h8; exact hshort (e := 0x62) (by decide) (by decide)
  · subst hc; exact hshort (e := 0x66) (by decide) (by decide)
  · subst hn; exact hshort (e := 0x6e) (by decide) (by decide)
  · subst hr; exact hshort (e := 0x72) (by decide) (by decide)
  · subst ht; exact hshort (e := 0x74) (by decide) (by decide)
  · exact .unit (hexEscape_control hctl)
  · rw [charBytes_cons, charBytes_nil, List.append_nil]
    exact .plain (Nat.le_of_not_lt hctl) hq hb

/-- The written form of a string behind its opening quote. -/
def stringBody (s : String) : List UInt8 :=
  charBytes (s.toList.flatMap escapeChar) ++ [0x22]

/-- The written form of a string begins with a quote. -/
lemma charBytes_stringChars (s : String) :
    charBytes (stringChars s) = 0x22 :: stringBody s := by
  have hquote : String.utf8EncodeChar '"' = [0x22] := by decide
  simp [stringChars, stringBody, hquote]

/-- A string is printed in one of the ways to write it. -/
theorem writesChars_stringBody (s : String) : WritesChars (stringBody s) (some s.toList) := by
  rw [stringBody]
  induction s.toList with
  | nil => exact .done
  | cons c cs ih =>
    rw [List.flatMap_cons, charBytes_append, List.append_assoc]
    exact .cons (writesChar_escapeChar c) ih

end MergeTurn.Json
