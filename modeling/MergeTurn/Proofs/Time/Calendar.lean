import Mathlib.Tactic.Linarith
import Mathlib.Tactic.Ring
import MergeTurn.Time.Calendar

set_option autoImplicit false

/-!
# Days and dates

Every day has a date that the calendar knows, and the date has the number of the day. Both are
counted in years from March, and the proof goes through the years of four centuries, of one century
and of four years.

## Main results

* `MergeTurn.Time.Date.isValid_ofDayNumber` — the date of a day is in the calendar.
* `MergeTurn.Time.Date.dayNumber_ofDayNumber` — it is the date of no other day.
-/

namespace MergeTurn.Time

/-- A day of four centuries by the century, the four years and the day of these. The last of four
centuries and the last of four years are longer by a day, which goes to what precedes. -/
lemma exists_cycles {d : Int} (h₀ : 0 ≤ d) (h₁ : d < 146097) :
    ∃ c k s : Int, 0 ≤ c ∧ c ≤ 3 ∧ 0 ≤ k ∧ k ≤ 24 ∧ 0 ≤ s ∧ s ≤ 1460 ∧
      (s = 1460 → k < 24 ∨ c = 3) ∧ d = 36524 * c + 1461 * k + s ∧ d / 36524 - d / 146096 = c := by
  by_cases hd : d = 146096
  · exact ⟨3, 24, 1460, by omega⟩
  · refine ⟨d / 36524, d % 36524 / 1461, d % 36524 % 1461, ?_⟩
    omega

/-- The year of a day by the century, the four years and the day of these. -/
lemma year_of_cycles {d c k s t : Int} (hk₀ : 0 ≤ k) (hk₁ : k ≤ 24)
    (hs₀ : 0 ≤ s) (hs₁ : s ≤ 1460) (hd : d = 36524 * c + 1461 * k + s)
    (hcentury : d / 36524 - d / 146096 = c) (ht₀ : 0 ≤ t) (ht₁ : t ≤ 3) (hts : 365 * t ≤ s)
    (hte : s < 365 * t + 365 ∨ t = 3) :
    (d - d / 1460 + d / 36524 - d / 146096) / 365 = 100 * c + 4 * k + t := by
  have hquarter : d / 1460 = 25 * c + k + (24 * c + k + s) / 1460 := by omega
  omega

/-- The leap days before a year by the century, the four years and the year of these. -/
lemma leapDays_of_cycles {c k t : Int} (hk₀ : 0 ≤ k) (hk₁ : k ≤ 24) (ht₀ : 0 ≤ t) (ht₁ : t ≤ 3) :
    (100 * c + 4 * k + t) / 4 = 25 * c + k ∧ (100 * c + 4 * k + t) / 100 = c := by
  omega

/-- Whether the last of four years is a leap year. -/
lemma isLeapYear_of_cycles {c k : Int} (hk₀ : 0 ≤ k) (hk₁ : k ≤ 24) (h : k < 24 ∨ c = 3) :
    isLeapYear (100 * c + 4 * k + 3 + 1) = true := by
  simp only [isLeapYear, Bool.and_eq_true, Bool.or_eq_true, beq_iff_eq, bne_iff_ne]
  omega

/-- The year of a day of four centuries, and the day of the year, both counted from March. -/
lemma exists_yearOfDay {d : Int} (h₀ : 0 ≤ d) (h₁ : d < 146097) :
    ∃ y e : Int, 0 ≤ y ∧ y ≤ 399 ∧ 0 ≤ e ∧ e ≤ 365 ∧ (e = 365 → isLeapYear (y + 1) = true) ∧
      d = 365 * y + y / 4 - y / 100 + e ∧
      (d - d / 1460 + d / 36524 - d / 146096) / 365 = y := by
  obtain ⟨c, k, s, hc₀, hc₁, hk₀, hk₁, hs₀, hs₁, hlast, hd, hcentury⟩ := exists_cycles h₀ h₁
  obtain ⟨t, ht₀, ht₁, hts, hte⟩ : ∃ t : Int, 0 ≤ t ∧ t ≤ 3 ∧ 365 * t ≤ s ∧
      (s < 365 * t + 365 ∨ t = 3) := ⟨min (s / 365) 3, by omega⟩
  obtain ⟨hfour, hhundred⟩ := leapDays_of_cycles (c := c) hk₀ hk₁ ht₀ ht₁
  refine ⟨100 * c + 4 * k + t, s - 365 * t, ?_, ?_, ?_, ?_, ?_, ?_,
    year_of_cycles hk₀ hk₁ hs₀ hs₁ hd hcentury ht₀ ht₁ hts hte⟩
  · linarith
  · linarith
  · linarith
  · rcases hte with hte | rfl <;> linarith
  · intro he
    have ht : t = 3 := hte.resolve_left (by linarith)
    subst ht
    exact isLeapYear_of_cycles hk₀ hk₁ (hlast (by linarith))
  · rw [hfour, hhundred, hd]
    ring

/-- The month of a day of a year from March, the day of the month, and that they lead back. -/
lemma exists_monthOfDay {e : Int} (h₀ : 0 ≤ e) (h₁ : e ≤ 365) :
    ∃ m day : Int, (5 * e + 2) / 153 = m ∧ 0 ≤ m ∧ m ≤ 11 ∧ e = (153 * m + 2) / 5 + (day - 1) ∧
      1 ≤ day ∧ day ≤ 31 ∧ (m = 1 ∨ m = 3 ∨ m = 6 ∨ m = 8 → day ≤ 30) ∧
      (m = 11 → day ≤ 29 ∧ (day = 29 → e = 365)) := by
  refine ⟨(5 * e + 2) / 153, e - (153 * ((5 * e + 2) / 153) + 2) / 5 + 1, rfl, ?_⟩
  omega

/-- A leap year is one in every four centuries. -/
lemma isLeapYear_add (year era : Int) : isLeapYear (year + era * 400) = isLeapYear year := by
  have hfour : (year + era * 400) % 4 = year % 4 := by omega
  have hhundred : (year + era * 400) % 100 = year % 100 := by omega
  have hcenturies : (year + era * 400) % 400 = year % 400 := by omega
  rw [isLeapYear, isLeapYear, hfour, hhundred, hcenturies]

namespace Date

/-- The date of a day, by the four centuries, the year and the month that it lies in. -/
lemma exists_ofDayNumber (n : Int) :
    ∃ era y e m day : Int, 0 ≤ y ∧ y ≤ 399 ∧ 0 ≤ m ∧ m ≤ 11 ∧ 1 ≤ day ∧ day ≤ 31 ∧
      (m = 1 ∨ m = 3 ∨ m = 6 ∨ m = 8 → day ≤ 30) ∧
      (m = 11 → day ≤ 29 ∧ (day = 29 → isLeapYear (y + 1) = true)) ∧
      n + 719468 = era * 146097 + (365 * y + y / 4 - y / 100 + e) ∧
      e = (153 * m + 2) / 5 + (day - 1) ∧
      ofDayNumber n = ⟨if m < 10 then y + era * 400 else y + era * 400 + 1,
        (if m < 10 then m + 3 else m - 9).toNat, day.toNat⟩ := by
  have hd₀ : 0 ≤ (n + 719468) % 146097 := by omega
  have hd₁ : (n + 719468) % 146097 < 146097 := by omega
  obtain ⟨y, e, hy₀, hy₁, he₀, he₁, hleap, hday, hyear⟩ := exists_yearOfDay hd₀ hd₁
  obtain ⟨m, day, hm, hm₀, hm₁, he, hday₀, hday₁, hshort, hfeb⟩ := exists_monthOfDay he₀ he₁
  have hrest : (n + 719468) % 146097 - (365 * y + y / 4 - y / 100) = e := by omega
  refine ⟨(n + 719468) / 146097, y, e, m, day, hy₀, hy₁, hm₀, hm₁, hday₀, hday₁, hshort, ?_, ?_,
    he, ?_⟩
  · exact fun h => ⟨(hfeb h).1, fun h' => hleap ((hfeb h).2 h')⟩
  · omega
  · have hday : e - (153 * m + 2) / 5 + 1 = day := by omega
    -- The months of a year from March that belong to the next year are its last two.
    have hnext : (if m < 10 then m + 3 else m - 9) ≤ 2 ↔ ¬ m < 10 := by
      split_ifs
      · omega
      · omega
    simp only [ofDayNumber, hyear, hrest, hm, hday, hnext, ite_not]

/-- The date of a day is in the calendar. -/
theorem isValid_ofDayNumber (n : Int) : (ofDayNumber n).isValid = true := by
  obtain ⟨era, y, e, m, day, hy₀, hy₁, hm₀, hm₁, hday₀, hday₁, hshort, hfeb, -, -, h⟩ :=
    exists_ofDayNumber n
  rw [h]
  clear h
  by_cases hm : m < 10
  · simp only [hm, if_true, isValid, monthLength, Bool.and_eq_true, decide_eq_true_eq]
    refine ⟨⟨⟨?_, ?_⟩, ?_⟩, ?_⟩
    · omega
    · omega
    · omega
    · rw [if_neg (by omega)]
      split_ifs <;> omega
  · have hleap : isLeapYear (y + era * 400 + 1) = isLeapYear (y + 1) := by
      rw [← isLeapYear_add (y + 1) era]
      congr 1
      ring
    simp only [hm, if_false, isValid, monthLength, Bool.and_eq_true, decide_eq_true_eq, hleap]
    refine ⟨⟨⟨?_, ?_⟩, ?_⟩, ?_⟩
    · omega
    · omega
    · omega
    · obtain rfl | rfl : m = 10 ∨ m = 11 := by omega
      · rw [if_neg (by omega), if_neg (by omega)]
        omega
      · have hfeb := hfeb rfl
        rw [if_pos (by omega)]
        split_ifs with hy
        · omega
        · have hne : day ≠ 29 := fun hd => hy (hfeb.2 hd)
          omega

/-- The date of a day has the number of the day. -/
theorem dayNumber_ofDayNumber (n : Int) : (ofDayNumber n).dayNumber = n := by
  obtain ⟨era, y, e, m, day, hy₀, hy₁, hm₀, hm₁, hday₀, -, -, -, hn, he, h⟩ :=
    exists_ofDayNumber n
  have hera : (y + era * 400) / 400 = era := by omega
  have hyear : (y + era * 400) % 400 = y := by omega
  have hday : (day.toNat : Int) = day := Int.toNat_of_nonneg (by omega)
  rw [h]
  clear h
  by_cases hm : m < 10
  · have hmonth : (((m + 3).toNat : Int) + 9) % 12 = m := by omega
    have hlate : ¬ (m + 3).toNat ≤ 2 := by omega
    simp only [hm, if_true, dayNumber, hlate, if_false, hera, hyear, hmonth, hday]
    omega
  · have hmonth : (((m - 9).toNat : Int) + 9) % 12 = m := by omega
    have hearly : (m - 9).toNat ≤ 2 := by omega
    simp only [hm, if_false, dayNumber, hearly, if_true, add_sub_cancel_right, hera, hyear, hmonth,
      hday]
    omega

end Date

end MergeTurn.Time
