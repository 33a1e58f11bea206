import Mathlib.Data.List.Nodup
import MergeTurn.Proofs.File.Disk
import MergeTurn.Proofs.File.Names
import MergeTurn.Settings

set_option autoImplicit false

/-!
# The files of the service lie apart

The store and the registry each keep a file, and each file has a draft. The registry's file and both
drafts get their paths from that of the state file by other extensions. So the four are different
names in one directory, and neither the store nor the registry ever writes to a place of the other.
There is one exception: the names that are lost with their extension.

## Main definitions

* `MergeTurn.Keeper` — the store and the registry.
* `MergeTurn.Settings.fileOf`, `MergeTurn.Settings.keptAt` — where they keep their files.
* `MergeTurn.File.written`, `MergeTurn.File.Siblings` — the paths that are written, and different
  names in one directory.

## Main results

* `MergeTurn.Settings.siblings_of_not_losesName` — files and drafts are siblings.
* `MergeTurn.Settings.files_apart_iff` — which state files have the others beside them.

## Design

Nothing is said of links between places, or of disks that take two spellings for one name: places
are compared as they are spelled.
-/

namespace MergeTurn

/-- Those who keep a file. -/
inductive Keeper where
  | store
  | registry
deriving DecidableEq

namespace File

/-- The paths that the two keepers write to: their files, and the drafts of these. -/
def written (path : Keeper → Path) : List Path :=
  [path .store, (path .store).draft, path .registry, (path .registry).draft]

/-- The paths lead to different names in one directory. -/
def Siblings (ps : List Path) : Prop :=
  ∃ (directory : List Char) (names : List (List Char)), names.Nodup ∧
    ps.map Path.place? = names.map fun name => some ⟨directory, name⟩

/-- No two siblings lead to the same place. -/
lemma Siblings.nodup {ps : List Path} (h : Siblings ps) : (ps.map Path.place?).Nodup := by
  obtain ⟨directory, names, hnodup, hps⟩ := h
  rw [hps]
  exact List.Nodup.map (fun a b hab => by simpa using hab) hnodup

/-- Siblings have final names. -/
lemma Siblings.place?_ne_none {ps : List Path} (h : Siblings ps) {p : Path} (hp : p ∈ ps) :
    p.place? ≠ none := by
  obtain ⟨directory, names, -, hps⟩ := h
  have hmem : p.place? ∈ ps.map Path.place? := List.mem_map_of_mem hp
  rw [hps] at hmem
  obtain ⟨name, -, hname⟩ := List.mem_map.1 hmem
  rw [← hname]
  simp

/-- Keepers whose files and drafts are siblings do not meet on the disk. -/
lemma Siblings.eachAlone {path : Keeper → Path} (h : Siblings (written path)) :
    Disk.EachAlone path := by
  have hnodup := h.nodup
  simp only [written, List.map_cons, List.map_nil, List.nodup_cons, List.mem_cons,
    List.not_mem_nil, or_false, not_or, not_false_eq_true, List.nodup_nil, and_true] at hnodup
  obtain ⟨⟨hsd, hsr, hse⟩, ⟨hdr, hde⟩, hre⟩ := hnodup
  -- A place that both use would be under two of the four paths.
  have hmeet : ∀ q, (path .store).Uses q → ¬ (path .registry).Uses q := by
    rintro q (hq | hq) (hq' | hq')
    · exact hsr (hq.trans hq'.symm)
    · exact hse (hq.trans hq'.symm)
    · exact hdr (hq.trans hq'.symm)
    · exact hde (hq.trans hq'.symm)
  refine Disk.Unshared.eachAlone (fun i j q hi hj => ?_) (fun i file draft hfile hdraft => ?_)
  · cases i with
    | store =>
      cases j with
      | store => rfl
      | registry => exact absurd hj (hmeet q hi)
    | registry =>
      cases j with
      | store => exact absurd hi (hmeet q hj)
      | registry => rfl
  · rintro rfl
    cases i with
    | store => exact hsd (hfile.trans hdraft.symm)
    | registry => exact hre (hfile.trans hdraft.symm)

end File

namespace Settings

open File (Path)

/-- Where a keeper has its file, if it has one. -/
def fileOf (s : Settings) : Keeper → Option Path
  | .store => s.stateFile
  | .registry => s.registryFile

/-- Where the keepers have their files if that of the store is at a path. -/
def keptAt (p : Path) : Keeper → Path
  | .store => p
  | .registry => p.withExtension "pr-info.json"

/-- The settings say where the file of the store is, and that of the registry follows from it. -/
lemma fileOf_eq {s : Settings} {p : Path} (h : s.stateFile = some p) (k : Keeper) :
    s.fileOf k = some (keptAt p k) := by
  cases k with
  | store => exact h
  | registry => rw [fileOf, registryFile, h, Option.map_some, keptAt]

/-- The state file, the registry's file and their drafts are siblings.

**Proof sketch.** The names of the last three are the stem of the first with three different
extensions. Each of these has a dot in it, so none is that of the first. -/
theorem siblings_of_not_losesName {p : Path} (hname : p.place? ≠ none) (hp : ¬ p.LosesName) :
    File.Siblings (File.written (keptAt p)) := by
  obtain ⟨⟨before, name⟩, hsplit⟩ : ∃ parts, p.split? = some parts := by
    rw [← Option.isSome_iff_exists]
    simpa [Path.place?, Option.ne_none_iff_isSome] using hname
  have hdraft : p.draft.split? = some (before, File.stem name ++ ".json.tmp".toList) :=
    Path.split?_withExtension hsplit hp (by decide) (by decide)
  have hreg : (p.withExtension "pr-info.json").split? =
      some (before, File.stem name ++ ".pr-info.json".toList) :=
    Path.split?_withExtension hsplit hp (by decide) (by decide)
  -- The registry's file has an extension of its own, behind the last of its dots.
  have hown : File.stem name ++ ".pr-info.json".toList =
      (File.stem name ++ ".pr-info".toList) ++ '.' :: "json".toList := by
    rw [List.append_assoc]
    rfl
  rw [hown] at hreg
  have hregDraft : (p.withExtension "pr-info.json").draft.split? =
      some (before, File.stem name ++ ".pr-info.json.tmp".toList) := by
    refine (Path.split?_withExtension hreg ?_ (by decide) (by decide)).trans ?_
    · exact Path.not_losesName hreg (by simp) (by decide)
    · rw [File.stem_append (by simp) (by decide), List.append_assoc]
      rfl
  refine ⟨before, [name, File.stem name ++ ".json.tmp".toList,
    (File.stem name ++ ".pr-info".toList) ++ '.' :: "json".toList,
    File.stem name ++ ".pr-info.json.tmp".toList], ?_, ?_⟩
  · rw [← hown]
    simp only [List.nodup_cons, List.mem_cons, List.not_mem_nil, or_false, not_or,
      List.append_cancel_left_eq, not_false_eq_true, List.nodup_nil, and_true]
    exact ⟨⟨File.ne_stem_append name (by decide), File.ne_stem_append name (by decide),
      File.ne_stem_append name (by decide)⟩, ⟨by decide, by decide⟩, by decide⟩
  · simp [File.written, keptAt, Path.place?, hsplit, hdraft, hreg, hregDraft]

/-- Let the service be set up with a state file that has a final name. Then the state file, the
registry's file and their drafts are four different names in one directory, and what the store and
the registry write never meets, in whatever order they do the steps of writing and wherever these
end. The one exception is a state file whose name is two dots and an extension, with nothing behind
it. -/
theorem files_apart_iff {s : Settings} {p : Path} (hfile : s.stateFile = some p)
    (hname : p.place? ≠ none) :
    (∃ path : Keeper → Path, (∀ k, s.fileOf k = some (path k)) ∧
      File.Siblings (File.written path) ∧ File.Disk.EachAlone path) ↔ ¬ p.LosesName := by
  constructor
  · rintro ⟨path, hpath, hsiblings, -⟩ hloses
    have hreg : keptAt p .registry = path .registry :=
      Option.some.inj ((fileOf_eq hfile .registry).symm.trans (hpath .registry))
    have hlost : (path .registry).place? = none := by
      rw [← hreg, keptAt, Path.place?, Path.split?_withExtension_of_losesName hloses,
        Option.map_none]
    exact hsiblings.place?_ne_none (by simp [File.written]) hlost
  · intro hp
    have hsiblings := siblings_of_not_losesName hname hp
    exact ⟨keptAt p, fileOf_eq hfile, hsiblings, hsiblings.eachAlone⟩

/-- The same name with a slash behind it is not lost. -/
theorem files_apart_before_slash :
    ∃ path : Keeper → Path, path .store = Path.ofText "data/..json/" ∧
      path .registry = Path.ofText "data/..pr-info.json" ∧
      File.Siblings (File.written path) ∧ File.Disk.EachAlone path := by
  have hkept : ¬ (Path.ofText "data/..json/").LosesName := by
    rintro ⟨before, ext, hchars, -, hne, -, hslash⟩
    have hparts : before ++ '.' :: '.' :: ext = (before ++ ['.', '.']) ++ ext := by simp
    have hlast : ext.getLast? = some '/' := by
      rw [← List.getLast?_append_of_ne_nil (before ++ ['.', '.']) hne, ← hparts, ← hchars]
      decide +kernel
    exact hslash (List.mem_of_getLast? hlast)
  obtain ⟨path, hpath, hsiblings, halone⟩ :=
    (files_apart_iff (s := { ofSecret [] with stateFile := some (Path.ofText "data/..json/") }) rfl
      (by decide +kernel)).2 hkept
  refine ⟨path, (Option.some.inj (hpath .store)).symm, ?_, hsiblings, halone⟩
  exact (Option.some.inj (hpath .registry)).symm.trans (by decide +kernel)

/-- With the state file `..x` the other three paths all lead to the directory above, although the
state file has a final name. -/
theorem files_not_apart_lost_name :
    let s : Settings := { ofSecret [] with stateFile := some (Path.ofText "..x") }
    s.fileOf .store = some (Path.ofText "..x") ∧
      (Path.ofText "..x").place? = some ⟨[], "..x".toList⟩ ∧
      (Path.ofText "..x").draft = Path.ofText ".." ∧
      s.fileOf .registry = some (Path.ofText "..") ∧
      (Path.ofText "..").draft = Path.ofText ".." ∧
      ¬ ∃ path : Keeper → Path, (∀ k, s.fileOf k = some (path k)) ∧
        File.Siblings (File.written path) := by
  intro s
  have hreg : s.fileOf .registry = some (Path.ofText "..") := by decide +kernel
  refine ⟨rfl, by decide +kernel, by decide +kernel, hreg, by decide +kernel, ?_⟩
  rintro ⟨path, hpath, hsiblings⟩
  refine hsiblings.place?_ne_none (p := path .registry) (by simp [File.written]) ?_
  rw [← Option.some.inj (hreg.symm.trans (hpath .registry))]
  decide +kernel

end Settings

end MergeTurn
