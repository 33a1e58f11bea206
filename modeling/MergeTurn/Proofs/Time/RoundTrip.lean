import MergeTurn.Proofs.Text.Digits
import MergeTurn.Proofs.Time.Calendar
import MergeTurn.Time.Timestamp

set_option autoImplicit false

/-!
# Points in time are read as they are written

The text of a point in time has a fixed number of digits in each of its parts, so that each part is
read back without regard to what follows it. Only a year with a sign is read as far as its digits
go.

## Main definitions

* `MergeTurn.Time.Timestamp.IsNamed` — a point in time whose day can be named.

## Main results

* `MergeTurn.Time.Timestamp.ofText?_toText` — such a point in time is read from its text.
-/

namespace MergeTurn.Time

/-! ## Numbers of a fixed width -/

/-- A number with leading zeros is written in digits. -/
lemma isDigit_of_mem_zeroPadded {width n : Nat} {c : Char} (h : c ∈ zeroPadded width n) :
    c.isDigit = true := by
  rcases List.mem_append.1 h with h | h
  · rw [List.eq_of_mem_replicate h]
    decide
  · exact Text.isDigit_of_mem_toDigits h

/-- Leading zeros do not count. -/
lemma ofDigitChars_zeroPadded (width n : Nat) :
    Nat.ofDigitChars 10 (zeroPadded width n) 0 = n := by
  rw [zeroPadded, Nat.ofDigitChars_append, Nat.ofDigitChars_replicate_zero, Nat.mul_zero]
  exact Nat.ofDigitChars_toDigits (by decide) (by decide)

/-- A number has the number of digits that it is padded to, if it is small enough. -/
lemma length_zeroPadded {width n : Nat} (hw : 0 < width) (h : n < 10 ^ width) :
    (zeroPadded width n).length = width := by
  have hle : (Nat.toDigits 10 n).length ≤ width :=
    (Nat.length_toDigits_le_iff (by decide) hw).2 h
  rw [zeroPadded, List.length_append, List.length_replicate]
  omega

/-- A number with leading zeros begins with a digit. -/
lemma exists_zeroPadded (width n : Nat) :
    ∃ c cs, zeroPadded width n = c :: cs ∧ c.isDigit = true := by
  cases h : zeroPadded width n with
  | nil => exact absurd (List.append_eq_nil_iff.1 h).2 Nat.toDigits_ne_nil
  | cons c cs => exact ⟨c, cs, rfl, isDigit_of_mem_zeroPadded (h ▸ List.mem_cons_self)⟩

/-- A text that begins with no blank has none to pass over. -/
lemma skipBlank_cons {c : Char} (h : Text.isBlank c = false) (r : List Char) :
    skipBlank (c :: r) = c :: r :=
  List.dropWhile_cons_of_neg (by simp [h])

/-- A number with leading zeros has no blanks before it. -/
lemma skipBlank_zeroPadded (width n : Nat) (r : List Char) :
    skipBlank (zeroPadded width n ++ r) = zeroPadded width n ++ r := by
  obtain ⟨c, cs, hcs, hc⟩ := exists_zeroPadded width n
  rw [hcs]
  exact skipBlank_cons (Text.isBlank_of_isDigit hc) _

/-- A number is read if its digits are all that is taken. -/
lemma readNumber_of_take {width padding n : Nat} {r : List Char}
    (h : ((zeroPadded padding n ++ r).takeWhile Char.isDigit).take width =
      zeroPadded padding n) :
    readNumber width (zeroPadded padding n ++ r) = some (n, r) := by
  have hvalue : (zeroPadded padding n).foldl (fun n d => 10 * n + (d.toNat - '0'.toNat)) 0 = n :=
    ofDigitChars_zeroPadded padding n
  obtain ⟨c, cs, hcs, -⟩ := exists_zeroPadded padding n
  rw [readNumber, skipBlank_zeroPadded, h, hvalue, if_neg (by simp [hcs]), List.drop_left]

/-- A number of a fixed width is read whatever follows. -/
lemma readNumber_zeroPadded {width n : Nat} (hw : 0 < width) (h : n < 10 ^ width)
    (r : List Char) : readNumber width (zeroPadded width n ++ r) = some (n, r) := by
  have hlen := length_zeroPadded hw h
  refine readNumber_of_take ?_
  rw [List.takeWhile_append_of_pos fun c hc => isDigit_of_mem_zeroPadded hc,
    List.take_append_of_le_length (by omega), List.take_of_length_le (by omega)]

/-- A number of two digits is read whatever follows. -/
lemma readNumber_two {n : Nat} (h : n < 100) (r : List Char) :
    readNumber 2 (zeroPadded 2 n ++ r) = some (n, r) :=
  readNumber_zeroPadded (by decide) h r

/-- Digits are taken up to what is none. -/
lemma takeWhile_zeroPadded (width n : Nat) {c : Char} (h : c.isDigit = false) (r : List Char) :
    (zeroPadded width n ++ c :: r).takeWhile Char.isDigit = zeroPadded width n := by
  rw [List.takeWhile_append_of_pos fun c hc => isDigit_of_mem_zeroPadded hc,
    List.takeWhile_cons_of_neg (by simp [h]), List.append_nil]

/-- A mark is read where it stands. -/
lemma readMark_cons {mark : Char} (h : Text.isBlank mark = false) (r : List Char) :
    readMark mark (mark :: r) = some r := by
  rw [readMark, skipBlank_cons h]
  exact if_pos rfl

/-! ## The parts of a text -/

/-- A year behind a sign is read before a dash. -/
lemma readSigned_zeroPadded (sign : Int) (n : Nat) (r : List Char) :
    readYear.readSigned sign (zeroPadded 4 n ++ '-' :: r) = some (sign * n, '-' :: r) := by
  obtain ⟨c, cs, hcs, hc⟩ := exists_zeroPadded 4 n
  have hhead : (zeroPadded 4 n ++ '-' :: r).head?.any Char.isDigit = true := by
    rw [hcs]
    simpa using hc
  rw [readYear.readSigned, if_pos hhead, readNumber_of_take]
  · rfl
  · rw [takeWhile_zeroPadded _ _ (by decide), List.take_of_length_le (by simp)]

/-- A year is read before a dash. -/
lemma readYear_yearChars (year : Int) (r : List Char) :
    readYear (yearChars year ++ '-' :: r) = some (year, '-' :: r) := by
  unfold yearChars
  split_ifs with hplain hneg
  · obtain ⟨c, cs, hcs, hc⟩ := exists_zeroPadded 4 year.toNat
    have hfour : year.toNat < 10 ^ 4 := by omega
    have hread := readNumber_zeroPadded (by decide) hfour ('-' :: r)
    have hskip := skipBlank_zeroPadded 4 year.toNat ('-' :: r)
    rw [readYear.eq_def]
    split
    · next heq =>
      rw [hskip, hcs, List.cons_append] at heq
      injection heq with hhead
      subst hhead
      cases hc
    · next heq =>
      rw [hskip, hcs, List.cons_append] at heq
      injection heq with hhead
      subst hhead
      cases hc
    · rw [hskip, hread]
      simp
      omega
  · rw [readYear.eq_def, List.cons_append, skipBlank_cons (by decide)]
    refine (readSigned_zeroPadded (-1) year.natAbs r).trans ?_
    congr 2
    omega
  · rw [readYear.eq_def, List.cons_append, skipBlank_cons (by decide)]
    refine (readSigned_zeroPadded 1 year.natAbs r).trans ?_
    congr 2
    omega

/-- Digits behind a point are read as a fraction of a second. -/
lemma readFraction_zeroPadded {width n : Nat} (hw : 0 < width) (hwidth : width ≤ 9)
    (h : n < 10 ^ width) :
    readFraction ('.' :: zeroPadded width n ++ ['Z']) = some (n * 10 ^ (9 - width), ['Z']) := by
  have hlen := length_zeroPadded hw h
  have hvalue : (zeroPadded width n).foldl (fun n d => 10 * n + (d.toNat - '0'.toNat)) 0 = n :=
    ofDigitChars_zeroPadded width n
  have htake := takeWhile_zeroPadded width n (c := 'Z') (by decide) []
  have hdrop : (zeroPadded width n ++ ['Z']).dropWhile Char.isDigit = ['Z'] := by
    rw [List.dropWhile_append_of_pos fun c hc => isDigit_of_mem_zeroPadded hc]
    rfl
  obtain ⟨c, cs, hcs, -⟩ := exists_zeroPadded width n
  rw [List.cons_append, readFraction, htake, List.take_of_length_le (by omega), hvalue, hdrop,
    if_neg (by simp [hcs]), hlen]
  rfl

/-- The fraction of a second is read before the letter of the offset. -/
lemma readFraction_fractionChars {nanos : Nat} (h : nanos < 1000000000) :
    readFraction (fractionChars nanos ++ ['Z']) = some (nanos, ['Z']) := by
  unfold fractionChars
  split_ifs with hzero hmilli hmicro
  · rw [hzero]
    rfl
  · rw [readFraction_zeroPadded (by decide) (by decide) (by omega)]
    congr 2
    omega
  · rw [readFraction_zeroPadded (by decide) (by decide) (by omega)]
    congr 2
    omega
  · rw [readFraction_zeroPadded (by decide) (by decide) (by omega)]
    congr 2
    omega

/-! ## Points in time -/

/-- Months and days have two digits. -/
lemma Date.lt_of_isValid {d : Date} (h : d.isValid = true) : d.month < 100 ∧ d.day < 100 := by
  simp only [Date.isValid, Bool.and_eq_true, decide_eq_true_eq] at h
  obtain ⟨⟨⟨-, hmonth⟩, -⟩, hday⟩ := h
  have hlen : monthLength d.year d.month ≤ 31 := by
    unfold monthLength
    split_ifs <;> omega
  omega

namespace Timestamp

/-- A point in time whose day can be named. Clocks tell no other, and no other is read. -/
def IsNamed (t : Timestamp) : Prop :=
  isNamedYear (Date.ofDayNumber (t.seconds / 86400)).year = true

instance (t : Timestamp) : Decidable t.IsNamed :=
  inferInstanceAs (Decidable (_ = true))

/-- A point in time is made of the parts that it is written in. -/
lemma ofParts?_parts {t : Timestamp} (h : t.IsNamed) :
    ofParts? (Date.ofDayNumber (t.seconds / 86400)) ((t.seconds % 86400).toNat / 3600)
      ((t.seconds % 86400).toNat / 60 % 60)
      ((t.seconds % 86400).toNat % 60 + t.nanos / 1000000000) (t.nanos % 1000000000) 0 =
      some t := by
  obtain ⟨seconds, nanos, hnanos⟩ := t
  dsimp only
  -- The second runs over exactly if there is a full second of nanoseconds.
  have hleap : ((seconds % 86400).toNat % 60 + nanos / 1000000000) / 60 = nanos / 1000000000 := by
    omega
  have hseconds : (Date.ofDayNumber (seconds / 86400)).dayNumber * 86400 +
      ((seconds % 86400).toNat / 3600 : Nat) * 3600 +
      ((seconds % 86400).toNat / 60 % 60 : Nat) * 60 +
      (((seconds % 86400).toNat % 60 + nanos / 1000000000 : Nat) -
        (nanos / 1000000000 : Nat)) - 0 = seconds := by
    rw [Date.dayNumber_ofDayNumber]
    omega
  have htotal : nanos % 1000000000 + nanos / 1000000000 * 1000000000 = nanos := by omega
  have hparts : (Date.ofDayNumber (seconds / 86400)).isValid = true ∧
      isNamedYear (Date.ofDayNumber (seconds / 86400)).year = true ∧
      (seconds % 86400).toNat / 3600 < 24 ∧ (seconds % 86400).toNat / 60 % 60 < 60 ∧
      (seconds % 86400).toNat % 60 + nanos / 1000000000 ≤ 60 :=
    ⟨Date.isValid_ofDayNumber _, h, by omega, by omega, by omega⟩
  rw [ofParts?, if_pos hparts]
  simp only [hleap, hseconds, htotal]
  rw [dif_pos hnanos]
  exact if_pos h

/-- A point in time whose day can be named is read from its text.

**Proof sketch.** Part by part. Each is read as it was written, since its width is fixed or what
follows cannot belong to it. -/
theorem ofText?_toText {t : Timestamp} (h : t.IsNamed) : ofText? t.toText = some t := by
  obtain ⟨hmonth, hday⟩ := Date.lt_of_isValid (Date.isValid_ofDayNumber (t.seconds / 86400))
  have hnanos := t.nanos_lt
  have hdash : Text.isBlank '-' = false := by decide
  have hcolon : Text.isBlank ':' = false := by decide
  have hoffset : readOffset (skipBlank ['Z']) = some (0, []) := by decide
  have hrest : (skipBlank []).isEmpty = true := rfl
  have hhour : (t.seconds % 86400).toNat / 3600 < 100 := by omega
  have hminute : (t.seconds % 86400).toNat / 60 % 60 < 100 := by omega
  have hsecond : (t.seconds % 86400).toNat % 60 + t.nanos / 1000000000 < 100 := by omega
  have hfraction : t.nanos % 1000000000 < 1000000000 := by omega
  rw [ofText?, toText, String.toList_ofList, toChars, ofChars?]
  simp only [List.append_assoc, List.cons_append]
  refine Option.bind_eq_some_iff.2 ⟨_, readYear_yearChars _ _, ?_⟩
  refine Option.bind_eq_some_iff.2 ⟨_, readMark_cons hdash _, ?_⟩
  refine Option.bind_eq_some_iff.2 ⟨_, readNumber_two hmonth _, ?_⟩
  refine Option.bind_eq_some_iff.2 ⟨_, readMark_cons hdash _, ?_⟩
  refine Option.bind_eq_some_iff.2 ⟨_, readNumber_two hday _, ?_⟩
  refine (if_pos (.inl rfl)).trans (Option.bind_eq_some_iff.2 ⟨_, rfl, ?_⟩)
  refine Option.bind_eq_some_iff.2 ⟨_, readNumber_two hhour _, ?_⟩
  refine Option.bind_eq_some_iff.2 ⟨_, readMark_cons hcolon _, ?_⟩
  refine Option.bind_eq_some_iff.2 ⟨_, readNumber_two hminute _, ?_⟩
  refine Option.bind_eq_some_iff.2 ⟨_, readMark_cons hcolon _, ?_⟩
  refine Option.bind_eq_some_iff.2 ⟨_, readNumber_two hsecond _, ?_⟩
  refine Option.bind_eq_some_iff.2 ⟨_, readFraction_fractionChars hfraction, ?_⟩
  refine Option.bind_eq_some_iff.2 ⟨_, hoffset, ?_⟩
  exact (if_pos hrest).trans (ofParts?_parts h)

end Timestamp

end MergeTurn.Time
