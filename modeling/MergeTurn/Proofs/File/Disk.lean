import Mathlib.Data.List.Basic
import MergeTurn.File.Disk

set_option autoImplicit false

/-!
# Writers that share a disk

Who replaces a file writes to two places, that of the file and that of its draft. Writers whose
places are all different are as if each had the disk to itself, in whatever order their steps are
done. Then a file is only ever replaced as a whole, and by nobody but its own writer.

## Main definitions

* `MergeTurn.File.Path.Uses` — the places that are written when a file is replaced.
* `MergeTurn.File.Disk.Unshared` — no place is used by two writers.
* `MergeTurn.File.Disk.EachAlone` — each writer is as if it had the disk to itself.

## Main results

* `MergeTurn.File.Disk.run_eq_own` — what is at the places of a writer comes of its own steps.
* `MergeTurn.File.Attempt.follow_attempts` — what comes of the attempts of one writer.
* `MergeTurn.File.Disk.Unshared.eachAlone` — both together.

## Design

Steps are followed one by one, since the process may end anywhere and the steps of one writer may
come between those of another. That a file is replaced as a whole is then said by comparison with a
cell, which is what is under a path when nobody looks at the steps.
-/

namespace MergeTurn.File

/-- The places that are written when the file at a path is replaced. -/
def Path.Uses (p : Path) (q : Place) : Prop :=
  p.place? = some q ∨ p.draft.place? = some q

namespace Disk

/-! ## One step -/

section Step

variable {p : Path} {d d' : Disk} {file draft q : Place} {named : Bool}

/-- A step writes nowhere but at its two places. -/
lemma stepAt_of_ne (hfile : q ≠ file) (hdraft : q ≠ draft) (s : Step) :
    d.stepAt file draft named s q = d q := by
  cases s with
  | create => cases hd : d draft <;> simp [stepAt, hd, Function.update_of_ne hdraft]
  | write piece => cases hd : d draft <;> simp [stepAt, hd, Function.update_of_ne hdraft]
  | rename =>
    cases hd : d draft with
    | file content =>
      simp only [stepAt, hd]
      split
      · rw [Function.update_of_ne hfile, Function.update_of_ne hdraft]
      · rfl
    | absent | directory => simp [stepAt, hd]

/-- What a step does depends on nothing but its two places. -/
lemma stepAt_congr (hdraft : d draft = d' draft) (hfile : d file = d' file) (hq : d q = d' q)
    (s : Step) : d.stepAt file draft named s q = d'.stepAt file draft named s q := by
  cases s with
  | create => cases hd : d' draft <;> simp [stepAt, hdraft, hd, Function.update_apply, hq]
  | write piece => cases hd : d' draft <;> simp [stepAt, hdraft, hd, Function.update_apply, hq]
  | rename =>
    cases hd : d' draft with
    | file content =>
      simp only [stepAt, hdraft, hfile, hd]
      split
      · simp only [Function.update_apply, hq]
      · exact hq
    | absent | directory => simp [stepAt, hdraft, hd, hq]

/-- The steps of replacing a file are those at the places of its path. -/
lemma step_eq (hfile : p.place? = some file) (hdraft : p.draft.place? = some draft) (s : Step) :
    d.step p s = d.stepAt file draft p.namesFile s := by
  simp only [step, hfile, hdraft]

/-- A path without both places has no steps. -/
lemma step_eq_self (h : ∀ file draft, p.place? = some file → p.draft.place? ≠ some draft)
    (s : Step) : d.step p s = d := by
  unfold step
  split
  · rename_i file draft hfile hdraft
    exact absurd hdraft (h file draft hfile)
  · rfl

/-- The steps of replacing a file write nowhere but at the places that it uses. -/
lemma step_of_not_uses (h : ¬ p.Uses q) (s : Step) : d.step p s q = d q := by
  by_cases hplaces : ∃ file draft, p.place? = some file ∧ p.draft.place? = some draft
  · obtain ⟨file, draft, hfile, hdraft⟩ := hplaces
    have hne : q ≠ file := by
      rintro rfl
      exact h (.inl hfile)
    have hne' : q ≠ draft := by
      rintro rfl
      exact h (.inr hdraft)
    rw [step_eq hfile hdraft]
    exact stepAt_of_ne hne hne' s
  · rw [step_eq_self (fun file draft hfile hdraft => hplaces ⟨file, draft, hfile, hdraft⟩)]

/-- What the steps of replacing a file do depends on nothing but the places that it uses. -/
lemma step_congr (h : ∀ q, p.Uses q → d q = d' q) (s : Step) (hq : p.Uses q) :
    d.step p s q = d'.step p s q := by
  by_cases hplaces : ∃ file draft, p.place? = some file ∧ p.draft.place? = some draft
  · obtain ⟨file, draft, hfile, hdraft⟩ := hplaces
    rw [step_eq hfile hdraft, step_eq hfile hdraft]
    exact stepAt_congr (h draft (.inr hdraft)) (h file (.inl hfile)) (h q hq) s
  · have hnone : ∀ file draft, p.place? = some file → p.draft.place? ≠ some draft :=
      fun file draft hfile hdraft => hplaces ⟨file, draft, hfile, hdraft⟩
    rw [step_eq_self hnone, step_eq_self hnone]
    exact h q hq

section Effects

variable (hfile : p.place? = some file) (hdraft : p.draft.place? = some draft)
include hfile hdraft

/-- The draft is made anew, unless there is a directory in its place. -/
lemma step_create (h : d draft ≠ .directory) :
    d.step p .create = Function.update d draft (.file []) := by
  rw [step_eq hfile hdraft]
  cases hd : d draft with
  | directory => exact absurd hd h
  | absent | file => simp [stepAt, hd]

/-- A piece goes to the end of the draft. -/
lemma step_write {content : List UInt8} (h : d draft = .file content) (piece : List UInt8) :
    d.step p (.write piece) = Function.update d draft (.file (content ++ piece)) := by
  rw [step_eq hfile hdraft]
  simp [stepAt, h]

/-- The draft becomes the file, if the path ends in the name of that and there is no directory in
its place. -/
lemma step_rename {content : List UInt8} (h : d draft = .file content) :
    d.step p .rename = if p.namesFile && d file != .directory then
      Function.update (Function.update d draft .absent) file (.file content) else d := by
  rw [step_eq hfile hdraft]
  simp [stepAt, h]

end Effects

end Step

/-- The first step is done before the others. -/
lemma follow_cons (p : Path) (s : Step) (rest : List Step) (d : Disk) :
    d.follow p (s :: rest) = (d.step p s).follow p rest := rfl

/-- Steps are done one after the other. -/
lemma follow_append (p : Path) (steps more : List Step) (d : Disk) :
    d.follow p (steps ++ more) = (d.follow p steps).follow p more :=
  List.foldl_append

/-! ## Several writers -/

section Run

variable {ι : Type} {path : ι → Path}

/-- No place is used by two writers. -/
def Unshared (path : ι → Path) : Prop :=
  ∀ i j q, (path i).Uses q → (path j).Uses q → i = j

/-- The first step is done before the others. -/
lemma run_cons (e : ι × Step) (rest : List (ι × Step)) (d : Disk) :
    run path (e :: rest) d = run path rest (d.step (path e.1) e.2) := rfl

/-- What is at the places of a writer comes of what was there and of its own steps.

**Proof sketch.** Induction on the steps. One of the writer itself does the same to its places
whatever is elsewhere, and one of another writer leaves them as they are. -/
theorem run_eq_own [DecidableEq ι] (h : Unshared path) (i : ι) (history : List (ι × Step))
    {d d' : Disk} (hd : ∀ q, (path i).Uses q → d q = d' q) {q : Place} (hq : (path i).Uses q) :
    run path history d q = run path (history.filter (·.1 = i)) d' q := by
  induction history generalizing d d' with
  | nil => exact hd q hq
  | cons e rest ih =>
    by_cases he : e.1 = i
    · rw [List.filter_cons_of_pos (by simpa using he), run_cons, run_cons]
      refine ih fun r hr => ?_
      rw [he]
      exact step_congr hd e.2 hr
    · rw [List.filter_cons_of_neg (by simpa using he), run_cons]
      refine ih fun r hr => ?_
      rw [← hd r hr]
      exact step_of_not_uses (fun huses => he (h _ _ r huses hr)) e.2

/-- The steps of one writer follow each other. -/
lemma run_filter [DecidableEq ι] (i : ι) (history : List (ι × Step)) (d : Disk) :
    run path (history.filter (·.1 = i)) d =
      d.follow (path i) ((history.filter (·.1 = i)).map (·.2)) := by
  rw [run, follow, List.foldl_map]
  refine List.foldl_ext _ _ _ fun d e he => ?_
  have hi : e.1 = i := by simpa using (List.mem_filter.1 he).2
  rw [hi]

end Run

end Disk

/-! ## Attempts -/

namespace Attempt

section Steps

variable {p : Path} {d : Disk} {file draft : Place} (hfile : p.place? = some file)
  (hdraft : p.draft.place? = some draft) (hne : file ≠ draft)
include hfile hdraft hne

/-- Pieces that are written go to the end of the draft, one after the other. -/
lemma follow_writes (pieces : List (List UInt8)) {content : List UInt8}
    (h : d draft = .file content) :
    d.follow p (pieces.map .write) draft = .file (content ++ pieces.flatten) ∧
      d.follow p (pieces.map .write) file = d file := by
  induction pieces generalizing d content with
  | nil => simpa [Disk.follow] using h
  | cons piece rest ih =>
    have hstep := Disk.step_write hfile hdraft h piece
    have hmore : d.step p (.write piece) draft = .file (content ++ piece) := by
      rw [hstep, Function.update_self]
    obtain ⟨hd, hf⟩ := ih hmore
    rw [List.map_cons, Disk.follow_cons, hd, hf, hstep, Function.update_of_ne hne]
    simp

/-- An attempt to replace a file replaces it as a whole or leaves it as it is, if there is no
directory in the place of the draft, and no directory gets there. -/
lemma follow_steps (a : Attempt) (h : d draft ≠ .directory) :
    Cell.mk p (d.follow p a.steps file) false false = a.cell ⟨p, d file, false, false⟩ ∧
      d.follow p a.steps draft ≠ .directory := by
  have hcreate := Disk.step_create hfile hdraft h
  have hempty : d.step p .create draft = .file [] := by rw [hcreate, Function.update_self]
  obtain ⟨hd, hf⟩ := follow_writes hfile hdraft hne a.pieces hempty
  rw [List.nil_append] at hd
  rw [hcreate, Function.update_of_ne hne, ← hcreate] at hf
  rw [steps, List.cons_append, Disk.follow_cons, Disk.follow_append]
  generalize (d.step p .create).follow p (a.pieces.map .write) = e at hd hf
  cases hdone : a.completed with
  | false => simp [Disk.follow, cell, hdone, hf, hd]
  | true =>
    have htakes : (p.namesFile && d file != .directory) =
        (Cell.mk p (d file) false false).takes := by simp [Cell.takes]
    rw [if_pos rfl, Disk.follow_cons, Disk.step_rename hfile hdraft hd, hf, htakes, cell, hdone,
      if_pos rfl, Disk.follow, List.foldl_nil]
    by_cases htaken : (Cell.mk p (d file) false false).takes = true
    · rw [if_pos htaken, Cell.write_of_takes _ htaken, Function.update_self,
        Function.update_of_ne hne.symm, Function.update_self]
      simp
    · rw [if_neg htaken, Cell.write_of_not_takes _ htaken, hf, hd]
      simp

/-- What comes of attempts to replace a file is what comes of those that were completed, each of
which replaces it as a whole. -/
theorem follow_attempts (attempts : List Attempt) (h : d draft ≠ .directory) :
    Cell.mk p (d.follow p (attempts.flatMap steps) file) false false =
      attempts.foldl (fun c a => a.cell c) ⟨p, d file, false, false⟩ := by
  induction attempts generalizing d with
  | nil => rfl
  | cons a rest ih =>
    obtain ⟨hcell, hdir⟩ := follow_steps hfile hdraft hne a h
    rw [List.flatMap_cons, Disk.follow_append, ih hdir, List.foldl_cons, hcell]

end Steps

end Attempt

namespace Disk

variable {ι : Type} [DecidableEq ι] {path : ι → Path}

/-- Each writer is as if it had the disk to itself, in whatever order the steps of all of them are
done. -/
structure EachAlone (path : ι → Path) : Prop where
  /-- What is at the places of a writer comes of its own steps. -/
  own : ∀ (d : Disk) (history : List (ι × Step)) (i : ι) (q : Place), (path i).Uses q →
    run path history d q = run path (history.filter (·.1 = i)) d q
  /-- What is in its file comes of its own attempts, each of which replaces the file as a whole if
  it is completed, and does nothing to it otherwise. -/
  whole : ∀ (d : Disk) (history : List (ι × Step)) (i : ι) (attempts : List Attempt)
    (file draft : Place), (path i).place? = some file → (path i).draft.place? = some draft →
    d draft ≠ .directory → (history.filter (·.1 = i)).map (·.2) = attempts.flatMap Attempt.steps →
    Cell.mk (path i) (run path history d file) false false =
      attempts.foldl (fun c a => a.cell c) ⟨path i, d file, false, false⟩

/-- Writers whose places are all different do not meet. -/
theorem Unshared.eachAlone (h : Unshared path)
    (hne : ∀ i file draft, (path i).place? = some file → (path i).draft.place? = some draft →
      file ≠ draft) : EachAlone path where
  own d history i q hq := run_eq_own h i history (fun _ _ => rfl) hq
  whole d history i attempts file draft hfile hdraft hdir hown := by
    rw [run_eq_own h i history (fun _ _ => rfl) (.inl hfile), run_filter, hown]
    exact Attempt.follow_attempts hfile hdraft (hne i file draft hfile hdraft) attempts hdir

end Disk

end MergeTurn.File
