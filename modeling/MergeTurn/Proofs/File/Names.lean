import Mathlib.Data.List.TakeDrop
import Mathlib.Data.List.TakeWhile
import MergeTurn.File.Path

set_option autoImplicit false

/-!
# Final names and their extensions

A path is what stands before its final name, the name, and slashes and single dots that name
nothing. Another extension changes the name and drops what stands behind it. There is one exception:
a name of two dots and an extension, with nothing behind it, is left as the two dots, which name
nothing.

## Main definitions

* `MergeTurn.File.Trailing` — what may stand behind a final name.
* `MergeTurn.File.IsName`, `MergeTurn.File.IsDirectory` — a final name, and what stands before one.
* `MergeTurn.File.Path.LosesName` — another extension leaves no final name.

## Main results

* `MergeTurn.File.Path.split?_eq_some_iff` — the parts of a path.
* `MergeTurn.File.Path.withExtension_eq` — a path with another extension.
* `MergeTurn.File.Path.split?_withExtension_of_losesName` — the exception.
-/

namespace MergeTurn.File

/-! ## The parts of a path -/

/-- Slashes, and single dots behind slashes. -/
inductive Trailing : List Char → Prop
  | nil : Trailing []
  | slash {t : List Char} (h : Trailing t) : Trailing ('/' :: t)
  | dot {t : List Char} (h : Trailing t) : Trailing ('/' :: '.' :: t)

namespace Trailing

variable {t u : List Char}

lemma append (h : Trailing t) (hu : Trailing u) : Trailing (t ++ u) := by
  induction h with
  | nil => exact hu
  | slash _ ih => exact .slash ih
  | dot _ ih => exact .dot ih

/-- What is cut off at the end leaves slashes and single dots behind slashes. -/
lemma take (h : Trailing t) (n : Nat) : Trailing (t.take n) := by
  induction h generalizing n with
  | nil => simpa using Trailing.nil
  | slash _ ih =>
    cases n with
    | zero => exact .nil
    | succ n => exact .slash (ih n)
  | dot _ ih =>
    match n with
    | 0 => exact .nil
    | 1 => exact .slash .nil
    | n + 2 => exact .dot (ih n)

/-- It does not count at the end of a path. -/
lemma dropTrailing_reverse_append (h : Trailing t) (r : List Char) :
    dropTrailing (t.reverse ++ r) = dropTrailing r := by
  induction h generalizing r with
  | nil => rfl
  | slash _ ih => simp [ih, dropTrailing]
  | dot _ ih => simp [ih, dropTrailing]

end Trailing

/-- Nothing else is dropped from the end of a path. -/
lemma exists_trailing (r : List Char) : ∃ t, Trailing t ∧ r = t.reverse ++ dropTrailing r := by
  fun_induction dropTrailing r with
  | case1 r ih =>
    obtain ⟨t, ht, hr⟩ := ih
    exact ⟨t ++ ['/'], ht.append (.slash .nil), by simpa using hr⟩
  | case2 r ih =>
    obtain ⟨t, ht, hr⟩ := ih
    exact ⟨t ++ ['/', '.'], ht.append (.dot .nil), by simpa using hr⟩
  | case3 r => exact ⟨[], .nil, rfl⟩

/-- A final name: some text without slashes that is not one of the two names of directories. -/
structure IsName (name : List Char) : Prop where
  ne_nil : name ≠ []
  noSlash : '/' ∉ name
  ne_dot : name ≠ ['.']
  ne_dots : name ≠ ['.', '.']

/-- What stands before a final name: nothing, or something up to a slash. -/
def IsDirectory (before : List Char) : Prop :=
  before = [] ∨ ∃ b, before = b ++ ['/']

/-- A character that does not stand in a text does not stand in it read backwards either. -/
lemma forall_reverse_ne {c : Char} {cs : List Char} (h : c ∉ cs) :
    ∀ x ∈ cs.reverse, decide (x ≠ c) = true := by
  intro x hx
  simpa using ne_of_mem_of_not_mem (List.mem_reverse.1 hx) h

/-- Nothing is dropped of a text without slashes, unless it is a single dot. -/
lemma dropTrailing_eq_self {n : List Char} (hnil : n ≠ []) (hslash : '/' ∉ n) (hdot : n ≠ ['.'])
    (r : List Char) : dropTrailing (n ++ r) = n ++ r := by
  refine dropTrailing.eq_3 _ (fun q hq => ?_) (fun q hq => ?_)
  · cases n with
    | nil => exact hnil rfl
    | cons c n =>
      obtain ⟨rfl, -⟩ := List.cons.inj hq
      exact hslash List.mem_cons_self
  · match n with
    | [] => exact hnil rfl
    | [c] =>
      obtain ⟨rfl, -⟩ := List.cons.inj hq
      exact hdot rfl
    | c :: c' :: n =>
      obtain ⟨-, hq⟩ := List.cons.inj hq
      obtain ⟨rfl, -⟩ := List.cons.inj hq
      exact hslash (by simp)

namespace Path

variable {p : Path} {before name t : List Char}

/-- The parts of a path that was put together. -/
lemma split?_append (hb : IsDirectory before) (hnil : name ≠ []) (hslash : '/' ∉ name)
    (hdot : name ≠ ['.']) (ht : Trailing t) :
    split? ⟨before ++ name ++ t⟩ = if name = ['.', '.'] then none else some (before, name) := by
  have hdrop : dropTrailing (before ++ name ++ t).reverse = name.reverse ++ before.reverse := by
    rw [List.reverse_append, ht.dropTrailing_reverse_append, List.reverse_append]
    refine dropTrailing_eq_self ?_ ?_ ?_ _
    · simpa using hnil
    · simpa using hslash
    · intro h
      exact hdot (by simpa using congrArg List.reverse h)
  have hname := forall_reverse_ne hslash
  -- What stands before the name is nothing or begins, read backwards, with the slash.
  have hends : (name.reverse ++ before.reverse).takeWhile (fun c => decide (c ≠ '/')) =
        name.reverse ∧
      (name.reverse ++ before.reverse).dropWhile (fun c => decide (c ≠ '/')) = before.reverse := by
    rw [List.takeWhile_append_of_pos hname, List.dropWhile_append_of_pos hname]
    obtain rfl | ⟨b, rfl⟩ := hb <;> simp
  simp only [split?, hdrop, hends.1, hends.2, List.reverse_reverse, hnil, hdot, false_or]

/-- The parts of a path. -/
theorem split?_eq_some_iff : p.split? = some (before, name) ↔
    IsDirectory before ∧ IsName name ∧ ∃ t, Trailing t ∧ p.chars = before ++ name ++ t := by
  constructor
  · intro h
    obtain ⟨t, ht, hr⟩ := exists_trailing p.chars.reverse
    unfold split? at h
    dsimp only at h
    generalize dropTrailing p.chars.reverse = r at h hr
    split_ifs at h with hnot
    simp only [Option.some.injEq, Prod.mk.injEq] at h
    obtain ⟨rfl, rfl⟩ := h
    push Not at hnot
    refine ⟨?_, ⟨hnot.1, ?_, hnot.2.1, hnot.2.2⟩, t, ht, ?_⟩
    · have hhead := List.head?_dropWhile_not (fun c => decide (c ≠ '/')) r
      cases hrest : r.dropWhile (fun c => decide (c ≠ '/')) with
      | nil => exact .inl rfl
      | cons c q =>
        rw [hrest] at hhead
        obtain rfl : c = '/' := by simpa using hhead
        exact .inr ⟨q.reverse, List.reverse_cons⟩
    · intro hmem
      have hslash := List.mem_takeWhile_imp (List.mem_reverse.1 hmem)
      simp at hslash
    · rw [← List.reverse_append, List.takeWhile_append_dropWhile, ← List.reverse_reverse t,
        ← List.reverse_append, ← hr, List.reverse_reverse]
  · rintro ⟨hb, hname, t, ht, hp⟩
    obtain ⟨chars⟩ := p
    rw [show chars = _ from hp, split?_append hb hname.ne_nil hname.noSlash hname.ne_dot ht,
      if_neg hname.ne_dots]

end Path

/-! ## Extensions -/

/-- The last dot of a name divides it, unless it comes first. -/
lemma divide_append (stem : List Char) {ext : List Char} (hext : '.' ∉ ext) :
    divide (stem ++ '.' :: ext) = if stem = [] then ('.' :: ext, none) else (stem, some ext) := by
  have hall := forall_reverse_ne hext
  have hspan : (stem ++ '.' :: ext).reverse.span (fun c => decide (c ≠ '.')) =
      (ext.reverse, '.' :: stem.reverse) := by
    have hrev : (stem ++ '.' :: ext).reverse = ext.reverse ++ '.' :: stem.reverse := by simp
    rw [List.span_eq_takeWhile_dropWhile, hrev, List.takeWhile_append_of_pos hall,
      List.dropWhile_append_of_pos hall]
    simp
  rw [divide, hspan]
  by_cases hstem : stem = [] <;> simp [hstem]

/-- The stem of a name that was put together. -/
lemma stem_append {s ext : List Char} (hs : s ≠ []) (hext : '.' ∉ ext) :
    stem (s ++ '.' :: ext) = s := by
  rw [stem, divide_append s hext, if_neg hs]

/-- A name without dots is not divided. -/
lemma divide_of_not_mem {name : List Char} (h : '.' ∉ name) : divide name = (name, none) := by
  have hall := forall_reverse_ne h
  have hspan : name.reverse.span (fun c => decide (c ≠ '.')) = (name.reverse, []) := by
    rw [List.span_eq_takeWhile_dropWhile, List.takeWhile_eq_self_iff.2 hall,
      List.dropWhile_eq_nil_iff.2 hall]
  rw [divide, hspan]

/-- A name has no extension, or it is divided at its last dot. -/
lemma divide_cases (name : List Char) :
    divide name = (name, none) ∨
      ∃ stem ext, name = stem ++ '.' :: ext ∧ stem ≠ [] ∧ '.' ∉ ext ∧
        divide name = (stem, some ext) := by
  by_cases hdot : '.' ∈ name
  · obtain ⟨ext, stem, hrev, hext⟩ := List.eq_append_cons_of_mem (List.mem_reverse.2 hdot)
    obtain rfl : name = stem.reverse ++ '.' :: ext.reverse := by
      rw [← List.reverse_reverse name, hrev]
      simp
    have hext : '.' ∉ ext.reverse := by simpa using hext
    by_cases hstem : stem.reverse = []
    · exact .inl (by rw [divide_append _ hext, if_pos hstem, hstem, List.nil_append])
    · exact .inr ⟨_, _, rfl, hstem, hext, by rw [divide_append _ hext, if_neg hstem]⟩
  · exact .inl (divide_of_not_mem hdot)

/-- What is left of a final name without its extension is some text without slashes. -/
lemma IsName.stem_ne_nil {name : List Char} (h : IsName name) : stem name ≠ [] := by
  rcases divide_cases name with hd | ⟨s, ext, -, hs, -, hd⟩
  · rw [stem, hd]
    exact h.ne_nil
  · rw [stem, hd]
    exact hs

lemma IsName.noSlash_stem {name : List Char} (h : IsName name) : '/' ∉ stem name := by
  rcases divide_cases name with hd | ⟨s, ext, rfl, -, -, hd⟩
  · rw [stem, hd]
    exact h.noSlash
  · rw [stem, hd]
    exact fun hmem => h.noSlash (List.mem_append_left _ hmem)

/-- A stem with an extension is a final name. -/
lemma isName_append {s ext : List Char} (hnil : s ≠ []) (hs : '/' ∉ s) (hext : ext ≠ [])
    (hslash : '/' ∉ ext) : IsName (s ++ '.' :: ext) := by
  have hlen : 2 < (s ++ '.' :: ext).length := by
    have hs := List.length_pos_iff.2 hnil
    have he := List.length_pos_iff.2 hext
    rw [List.length_append, List.length_cons]
    omega
  refine ⟨by simp, by simp [hs, hslash], ?_, ?_⟩ <;> intro h <;> rw [h] at hlen <;> simp at hlen

/-- A name is not its own stem with an extension that has a dot in it. -/
lemma ne_stem_append (name : List Char) {ext : List Char} (hext : '.' ∈ ext) :
    name ≠ stem name ++ '.' :: ext := by
  rcases divide_cases name with hd | ⟨s, own, hname, -, hown, hd⟩
  · rw [stem, hd]
    simp
  · rw [stem, hd, hname]
    intro h
    rw [List.append_cancel_left_eq, List.cons.injEq] at h
    exact hown (h.2 ▸ hext)

namespace Path

variable {p : Path} {before name : List Char}

/-- The final name of a path is two dots and an extension, and nothing stands behind it. -/
def LosesName (p : Path) : Prop :=
  ∃ before ext, p.chars = before ++ '.' :: '.' :: ext ∧ IsDirectory before ∧ ext ≠ [] ∧
    '.' ∉ ext ∧ '/' ∉ ext

/-- The extension of a path is set at the end of its stem. -/
lemma setExtension_eq (h : p.split? = some (before, name)) (e : String) :
    p.setExtension e = ⟨before ++ stem name ++ '.' :: e.toList⟩ := by
  rw [setExtension, h]

/-- As many characters taken off the end of a path as its extension has leave the stem, its dot, and
the beginning of what stood behind the dot. -/
lemma take_sub_length (before s ext t : List Char) :
    (before ++ (s ++ '.' :: ext) ++ t).take
        ((before ++ (s ++ '.' :: ext) ++ t).length - ext.length) =
      before ++ (s ++ '.' :: ext.take t.length) ++ t.take (t.length - ext.length) := by
  have hparts : before ++ (s ++ '.' :: ext) ++ t = (before ++ (s ++ ['.'])) ++ (ext ++ t) := by simp
  have hlen : ((before ++ (s ++ ['.'])) ++ (ext ++ t)).length - ext.length =
      (before ++ (s ++ ['.'])).length + t.length := by
    simp only [List.length_append]
    omega
  rw [hparts, hlen, List.take_length_add_append, List.take_append]
  simp

/-- What is taken off before the new extension is set is not the old extension itself, but as many
characters from the end of the path. They are enough to leave the stem and its dot.

**Proof sketch.** A path that is cut in this way ends in a part of its extension and of what stood
behind it, with the same stem before them, unless only two dots are left. -/
theorem withExtension_eq (h : p.split? = some (before, name)) (hp : ¬ p.LosesName) (e : String) :
    p.withExtension e = ⟨before ++ stem name ++ '.' :: e.toList⟩ := by
  obtain ⟨hb, hname, t, ht, hchars⟩ := split?_eq_some_iff.1 h
  have hext : p.extension? = (divide name).2 := by rw [extension?, h, Option.bind_some]
  rcases divide_cases name with hd | ⟨s, ext, rfl, hs, hdot, hd⟩
  · rw [withExtension, hext, hd]
    simp only [Option.map_none, Option.getD_none, Nat.sub_zero, List.take_length]
    exact setExtension_eq h e
  · rw [withExtension, hext, hd]
    have hkept : '.' ∉ ext.take t.length := fun hmem => hdot (List.mem_of_mem_take hmem)
    have hcut : IsName (s ++ '.' :: ext.take t.length) := by
      refine ⟨by simp, ?_, by simp [List.append_eq_cons_iff, hs], fun hdots => ?_⟩
      · have hslash := hname.noSlash
        simp only [List.mem_append, List.mem_cons, not_or] at hslash ⊢
        exact ⟨hslash.1, hslash.2.1, fun hmem => hslash.2.2 (List.mem_of_mem_take hmem)⟩
      · -- Nothing of the extension is left, so nothing stands behind the name.
        obtain ⟨rfl, hnone⟩ : s = ['.'] ∧ ext.take t.length = [] := by
          simpa [List.append_eq_cons_iff, List.cons_eq_append_iff, hs] using hdots
        have hne : ext ≠ [] := by
          rintro rfl
          exact hname.ne_dots rfl
        obtain rfl : t = [] := by simpa [hne] using hnone
        have hslash := hname.noSlash
        exact hp ⟨before, ext, by simpa using hchars, hb, hne, hdot, by simpa using hslash⟩
    rw [Option.map_some, Option.getD_some, hchars, take_sub_length]
    rw [setExtension_eq (split?_eq_some_iff.2 ⟨hb, hcut, _, ht.take _, rfl⟩), stem_append hs hkept,
      stem_append hs hdot]

/-- A path whose final name is two dots and an extension, and the parts of it. -/
lemma LosesName.split? (h : p.LosesName) :
    ∃ before ext, p.split? = some (before, '.' :: '.' :: ext) ∧
      p.chars = before ++ '.' :: '.' :: ext ∧ IsDirectory before ∧ '.' ∉ ext := by
  obtain ⟨before, ext, hchars, hb, hne, hdot, hslash⟩ := h
  have hname : IsName ('.' :: '.' :: ext) :=
    isName_append (s := ['.']) (by simp) (by simp) hne hslash
  exact ⟨before, ext, split?_eq_some_iff.2 ⟨hb, hname, [], .nil, by simpa using hchars⟩, hchars, hb,
    hdot⟩

/-- Only the two dots are left of such a name when its extension is taken off, and they name nothing
that could get another. -/
theorem split?_withExtension_of_losesName (h : p.LosesName) (e : String) :
    (p.withExtension e).split? = none := by
  obtain ⟨before, ext, hsplit, hchars, hb, hdot⟩ := h.split?
  have hext : p.extension? = some ext := by
    rw [extension?, hsplit, Option.bind_some]
    exact congrArg Prod.snd ((divide_append ['.'] hdot).trans (if_neg (by simp)))
  have hcut : p.chars.take (p.chars.length - ext.length) = before ++ ['.', '.'] ++ [] := by
    have htake := take_sub_length before ['.'] ext []
    simpa [hchars] using htake
  have hdots : Path.split? ⟨before ++ ['.', '.'] ++ []⟩ = none :=
    (split?_append hb (by simp) (by simp) (by simp) .nil).trans (if_pos rfl)
  rw [withExtension, hext, Option.map_some, Option.getD_some, hcut]
  rw [setExtension, hdots]
  exact hdots

/-- A name with more than one character before its last dot is not lost. -/
lemma not_losesName {s ext : List Char} (h : p.split? = some (before, s ++ '.' :: ext))
    (hs : 1 < s.length) (hext : '.' ∉ ext) : ¬ p.LosesName := by
  intro hloses
  obtain ⟨before', ext', hsplit, -, -, hext'⟩ := hloses.split?
  rw [h, Option.some.injEq, Prod.mk.injEq] at hsplit
  have hstem : stem (s ++ '.' :: ext) = stem (['.'] ++ '.' :: ext') := congrArg stem hsplit.2
  rw [stem_append (by rintro rfl; simp at hs) hext, stem_append (by simp) hext'] at hstem
  simp [hstem] at hs

/-- A path with another extension, and its parts. -/
theorem split?_withExtension (h : p.split? = some (before, name)) (hp : ¬ p.LosesName) {e : String}
    (hnil : e.toList ≠ []) (hslash : '/' ∉ e.toList) :
    (p.withExtension e).split? = some (before, stem name ++ '.' :: e.toList) := by
  obtain ⟨hb, hname, -⟩ := split?_eq_some_iff.1 h
  rw [withExtension_eq h hp]
  refine split?_eq_some_iff.2 ⟨hb, ?_, [], .nil, by simp⟩
  exact isName_append hname.stem_ne_nil hname.noSlash_stem hnil hslash

end Path

end MergeTurn.File
