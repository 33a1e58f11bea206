import Mathlib.Data.List.Nodup
import Mathlib.Logic.Function.Basic
import MergeTurn.Registry

set_option autoImplicit false

/-!
# What the registry answers

Looking a pull request up answers what was recorded last, whether or not the registry's file could
be written.

## Main definitions

* `MergeTurn.Registry.Keyed` — every pull request is on record under its own key.

## Main results

* `MergeTurn.Registry.get?_record`, `MergeTurn.Registry.get?_forget` — what is on record after a
  change.
* `MergeTurn.Registry.findByHead?_congr` — a commit is looked for among the records of its
  repository.
-/

namespace MergeTurn.Registry

/-- Writing the file does not change what is on record. -/
@[simp] lemma entries_save (r : Registry) : r.save.entries = r.entries := rfl

/-- Nothing is on record in a registry without entries. -/
lemma get?_of_entries_empty {r : Registry} (h : r.entries = ∅) (key : PullKey) :
    r.get? key = none := by
  simp [get?, h]

/-- What is on record after a pull request was recorded. -/
lemma get?_record (p : Pull) (key : PullKey) (r : Registry) :
    (r.record p).get? key = if key = p.key then some p else r.get? key := by
  simp only [get?, record, entries_save, Std.ExtTreeMap.getElem?_insert, Std.compare_eq_iff_eq]
  by_cases h : key = p.key
  · simp [h]
  · simp [h, Ne.symm h]

/-- Who was just recorded is on record. -/
lemma isSome_record (p : Pull) (r : Registry) : ((r.record p).get? p.key).isSome := by
  rw [get?_record, if_pos rfl]
  rfl

/-- What is on record after a pull request was forgotten. -/
lemma get?_forget (forgotten key : PullKey) (r : Registry) :
    (r.forget forgotten).get? key = if key = forgotten then none else r.get? key := by
  simp only [get?, forget, entries_save, Std.ExtTreeMap.getElem?_erase, Std.compare_eq_iff_eq]
  by_cases h : key = forgotten
  · simp [h]
  · simp [h, Ne.symm h]

/-- Recording what is on record already changes no entry. -/
lemma entries_record {p : Pull} {r : Registry} (h : r.get? p.key = some p) :
    (r.record p).entries = r.entries := by
  refine Std.ExtTreeMap.ext_getElem? fun {key} => ?_
  refine (get?_record p key r).trans ?_
  split
  · next hkey =>
    rw [hkey]
    exact h.symm
  · rfl

/-- Forgetting what is not on record changes no entry. -/
lemma entries_forget {key : PullKey} {r : Registry} (h : r.get? key = none) :
    (r.forget key).entries = r.entries := by
  refine Std.ExtTreeMap.ext_getElem? fun {other} => ?_
  refine (get?_forget key other r).trans ?_
  split
  · next hkey =>
    rw [hkey]
    exact h.symm
  · rfl

/-- Every pull request is on record under its own key. -/
def Keyed (r : Registry) : Prop :=
  ∀ key p, r.get? key = some p → p.key = key

variable {r : Registry}

/-- A registry without entries is keyed. -/
lemma keyed_of_entries_empty (h : r.entries = ∅) : r.Keyed := by
  intro key p hp
  cases (get?_of_entries_empty h key).symm.trans hp

/-- Recording a pull request keeps a registry keyed. -/
lemma Keyed.record (h : r.Keyed) (p : Pull) : (r.record p).Keyed := by
  intro key q hq
  rw [get?_record] at hq
  split at hq
  · next hkey =>
    cases hq
    exact hkey.symm
  · exact h key q hq

/-- Forgetting a pull request keeps a registry keyed. -/
lemma Keyed.forget (h : r.Keyed) (gone : PullKey) : (r.forget gone).Keyed := by
  intro key q hq
  rw [get?_forget] at hq
  split at hq
  · cases hq
  · exact h key q hq

/-- Indexed pull requests are keyed. -/
lemma keyed_index (pulls : List Pull) (backing : Option Backing) :
    Keyed ⟨index pulls, backing⟩ := by
  have hinsert : ∀ (pulls : List Pull) (m : Std.ExtTreeMap PullKey Pull), Keyed ⟨m, backing⟩ →
      Keyed ⟨m.insertMany (pulls.map fun p => (p.key, p)), backing⟩ := by
    intro pulls
    induction pulls with
    | nil => exact fun m hm => hm
    | cons p pulls ih =>
      intro m hm
      rw [List.map_cons, Std.ExtTreeMap.insertMany_cons]
      refine ih _ fun key q hq => ?_
      simp only [get?, Std.ExtTreeMap.getElem?_insert, Std.compare_eq_iff_eq] at hq
      split at hq
      · next hkey =>
        cases hq
        exact hkey
      · exact hm key q hq
  rw [index, Std.ExtTreeMap.ofList_eq_insertMany_empty]
  exact hinsert pulls ∅ (keyed_of_entries_empty rfl)

/-- The registry that a file holds is keyed. -/
lemma keyed_load {b : Backing} (h : load b = .ok r) : r.Keyed := by
  unfold load at h
  split at h
  · cases h
  · cases h
    exact keyed_of_entries_empty rfl
  · cases h
    exact keyed_index _ _

/-- The records of a repository among all that are listed are those that can be looked up.

**Proof sketch.** Both listings are in the order of the keys, and have the same entries. -/
lemma filter_toList_congr {q : Registry} {repo : Repo}
    (h : ∀ n, r.get? ⟨repo, n⟩ = q.get? ⟨repo, n⟩) :
    r.entries.toList.filter (·.1.repo == repo) = q.entries.toList.filter (·.1.repo == repo) := by
  have hordered : ∀ m : Std.ExtTreeMap PullKey Pull,
      (m.toList.filter (·.1.repo == repo)).Pairwise fun a b => compare a.1 b.1 = .lt :=
    fun m => m.ordered_keys_toList.filter _
  have hnodup : ∀ m : Std.ExtTreeMap PullKey Pull, (m.toList.filter (·.1.repo == repo)).Nodup :=
    fun m => (hordered m).imp fun {a b} hlt hab => by
      rw [hab, Std.compare_eq_iff_eq.2 rfl] at hlt
      cases hlt
  refine List.Perm.eq_of_pairwise ?_ (hordered _) (hordered _)
    ((List.perm_ext_iff_of_nodup (hnodup _) (hnodup _)).2 fun a => ?_)
  · exact fun a b _ _ hab hba => absurd hba (Std.OrientedCmp.not_lt_of_lt hab)
  · obtain ⟨⟨repo', n⟩, p⟩ := a
    simp only [List.mem_filter, Std.ExtTreeMap.mem_toList_iff_getElem?_eq_some, beq_iff_eq,
      and_congr_left_iff]
    rintro rfl
    exact (Eq.congr_left (h n) :)

/-- Who is found by a commit of a repository is of that repository. -/
lemma repo_of_findByHead? {repo : Repo} {head : CommitId} {p : Pull}
    (h : r.findByHead? repo head = some p) : p.repo = repo := by
  have hfound := List.find?_some h
  simp only [Bool.and_eq_true, beq_iff_eq] at hfound
  exact hfound.1

/-- A commit of a repository is looked for among the records of that repository. -/
lemma findByHead?_congr {q : Registry} (hr : r.Keyed) (hq : q.Keyed) {repo : Repo}
    (h : ∀ n, r.get? ⟨repo, n⟩ = q.get? ⟨repo, n⟩) (head : CommitId) :
    r.findByHead? repo head = q.findByHead? repo head := by
  have hamong : ∀ {r : Registry}, r.Keyed → r.findByHead? repo head =
      ((r.entries.toList.filter (·.1.repo == repo)).map (·.2)).find? (·.head == head) := by
    intro r hr
    have hrecords : r.pulls.filter (·.repo == repo) =
        (r.entries.toList.filter (·.1.repo == repo)).map (·.2) := by
      rw [pulls, List.filter_map]
      refine congrArg (List.map _) (List.filter_congr fun a ha => ?_)
      rw [← hr a.1 a.2 (Std.ExtTreeMap.mem_toList_iff_getElem?_eq_some.1 ha)]
      rfl
    rw [← hrecords, List.find?_filter, findByHead?]
    simp only [Bool.decide_and, Bool.decide_eq_true]
  rw [hamong hr, hamong hq, filter_toList_congr h]

end MergeTurn.Registry
