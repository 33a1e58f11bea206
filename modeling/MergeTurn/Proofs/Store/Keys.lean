import Mathlib.Data.List.Basic
import MergeTurn.Names

set_option autoImplicit false

/-!
# Keys of the store

The store knows a lane by its owner, its repository and its branch with colons between them. Such a
key can be read back as long as owner and repository hold no colon themselves; the branch is behind
the last mark that counts and may hold any.

## Main definitions

* `MergeTurn.Repo.Colonless` — no colon in the owner or in the name of a repository.

## Main results

* `MergeTurn.Repo.storeKey_inj`, `MergeTurn.Lane.storeKey_inj` — different repositories and lanes
  have different keys.
-/

namespace MergeTurn

/-- What stands before and behind the first colon of a text is settled by the text.

**Proof sketch.** The part before it is the longest prefix without a colon. -/
lemma eq_of_append_colon {a b a' b' : List Char} (h : ':' ∉ a) (h' : ':' ∉ a')
    (e : a ++ ':' :: b = a' ++ ':' :: b') : a = a' ∧ b = b' := by
  have hpre : ∀ {a b : List Char}, ':' ∉ a → (a ++ ':' :: b).takeWhile (· != ':') = a := by
    intro a b ha
    rw [List.takeWhile_append_of_pos (by intro c hc; simpa using ne_of_mem_of_not_mem hc ha)]
    simp
  have ha : a = a' := by rw [← hpre h, e, hpre h']
  subst ha
  simpa using e

/-- Neither the owner nor the name of a repository holds a colon. -/
def Repo.Colonless (r : Repo) : Prop :=
  ':' ∉ r.owner.toList ∧ ':' ∉ r.name.toList

instance (r : Repo) : Decidable r.Colonless :=
  inferInstanceAs (Decidable (_ ∧ _))

/-- The characters of a repository's key. -/
lemma Repo.toList_storeKey (r : Repo) :
    r.storeKey.toList = r.owner.toList ++ ':' :: r.name.toList := by
  simp [Repo.storeKey]

/-- The characters of a lane's key. -/
lemma Lane.toList_storeKey (l : Lane) :
    l.storeKey.toList =
      l.repo.owner.toList ++ ':' :: (l.repo.name.toList ++ ':' :: l.branch.toList) := by
  simp [Lane.storeKey, Repo.storeKey]

/-- Different repositories without colons have different keys. -/
lemma Repo.storeKey_inj {r r' : Repo} (h : r.Colonless) (h' : r'.Colonless)
    (e : r.storeKey = r'.storeKey) : r = r' := by
  have e := congrArg String.toList e
  rw [toList_storeKey, toList_storeKey] at e
  obtain ⟨ho, hn⟩ := eq_of_append_colon h.1 h'.1 e
  cases r; cases r'
  exact congr (congrArg Repo.mk (String.toList_inj.1 ho)) (String.toList_inj.1 hn)

/-- Different lanes of repositories without colons have different keys, whatever the branches are
called. -/
lemma Lane.storeKey_inj {l l' : Lane} (h : l.repo.Colonless) (h' : l'.repo.Colonless)
    (e : l.storeKey = l'.storeKey) : l = l' := by
  have e := congrArg String.toList e
  rw [toList_storeKey, toList_storeKey] at e
  obtain ⟨ho, e⟩ := eq_of_append_colon h.1 h'.1 e
  obtain ⟨hn, hb⟩ := eq_of_append_colon h.2 h'.2 e
  obtain ⟨⟨owner, name⟩, branch⟩ := l
  obtain ⟨⟨owner', name'⟩, branch'⟩ := l'
  cases String.toList_inj.1 ho
  cases String.toList_inj.1 hn
  cases String.toList_inj.1 hb
  rfl

/-- Two lanes of repositories without colons have one key only if they are one lane. -/
lemma Lane.storeKey_eq_iff {l l' : Lane} (h : l.repo.Colonless) (h' : l'.repo.Colonless) :
    l.storeKey = l'.storeKey ↔ l = l' :=
  ⟨storeKey_inj h h', congrArg storeKey⟩

/-- Two repositories without colons have one key only if they are one repository. -/
lemma Repo.storeKey_eq_iff {r r' : Repo} (h : r.Colonless) (h' : r'.Colonless) :
    r.storeKey = r'.storeKey ↔ r = r' :=
  ⟨storeKey_inj h h', congrArg storeKey⟩

end MergeTurn
