import MergeTurn.Text.Hex
import Std.Data.ExtTreeMap
import Std.Data.ExtTreeSet

set_option autoImplicit false

/-!
# Names of pull requests, commits, repositories and lanes

A lane is the line of pull requests that wait to be merged into one branch of a repository. Lists
of bookings are kept under the name of a lane, membership under the name of a repository.

## Main definitions

* `MergeTurn.PullNumber` — the number of a pull request within its repository.
* `MergeTurn.CommitId` — the name of a commit.
* `MergeTurn.Repo`, `MergeTurn.Lane` — repositories and their lanes.
* `MergeTurn.PullKey` — a pull request by repository and number.
* `MergeTurn.Repo.storeKey`, `MergeTurn.Lane.storeKey` — the keys that the store knows them by.

## Design

Every name that keys a map is linearly ordered, part by part, so that maps list their entries in a
fixed order.
-/

namespace MergeTurn

/-- The number of a pull request within its repository. -/
structure PullNumber where
  val : UInt64
deriving DecidableEq, Repr

/-- The number of an installation of the status service. -/
structure InstallationId where
  val : UInt64
deriving DecidableEq, Repr

/-- The name of a commit. Names read from a webhook are forty lower-case hexadecimal digits; names
read from a file are taken as they are. -/
structure CommitId where
  text : String
deriving DecidableEq, Repr

/-- A repository, by its owner and its name. -/
structure Repo where
  owner : String
  name : String
deriving DecidableEq, Repr

/-- The line of pull requests that wait to be merged into one branch. -/
structure Lane where
  repo : Repo
  branch : String
deriving DecidableEq, Repr

/-- A pull request, by its repository and its number. -/
structure PullKey where
  repo : Repo
  number : PullNumber
deriving DecidableEq, Repr

/-! ## Orders -/

instance : Ord PullNumber := ⟨compareOn PullNumber.val⟩

instance : Std.TransOrd PullNumber :=
  inferInstanceAs (Std.TransCmp (compareOn PullNumber.val))

instance : Std.LawfulEqOrd PullNumber where
  eq_of_compare {a b} h := by
    cases a; cases b
    exact congrArg PullNumber.mk (Std.LawfulEqOrd.eq_of_compare h)

instance : Ord Repo := ⟨compareLex (compareOn Repo.owner) (compareOn Repo.name)⟩

instance : Std.TransOrd Repo :=
  inferInstanceAs (Std.TransCmp (compareLex (compareOn Repo.owner) (compareOn Repo.name)))

instance : Std.LawfulEqOrd Repo where
  eq_of_compare {a b} h := by
    obtain ⟨ho, hn⟩ := compareLex_eq_eq.1 (show compareLex _ _ a b = .eq from h)
    cases a; cases b
    exact congr (congrArg Repo.mk (Std.LawfulEqOrd.eq_of_compare ho))
      (Std.LawfulEqOrd.eq_of_compare hn)

instance : Ord Lane := ⟨compareLex (compareOn Lane.repo) (compareOn Lane.branch)⟩

instance : Std.TransOrd Lane :=
  inferInstanceAs (Std.TransCmp (compareLex (compareOn Lane.repo) (compareOn Lane.branch)))

instance : Std.LawfulEqOrd Lane where
  eq_of_compare {a b} h := by
    obtain ⟨hr, hb⟩ := compareLex_eq_eq.1 (show compareLex _ _ a b = .eq from h)
    cases a; cases b
    exact congr (congrArg Lane.mk (Std.LawfulEqOrd.eq_of_compare hr))
      (Std.LawfulEqOrd.eq_of_compare hb)

instance : Ord PullKey := ⟨compareLex (compareOn PullKey.repo) (compareOn PullKey.number)⟩

instance : Std.TransOrd PullKey :=
  inferInstanceAs (Std.TransCmp (compareLex (compareOn PullKey.repo) (compareOn PullKey.number)))

instance : Std.LawfulEqOrd PullKey where
  eq_of_compare {a b} h := by
    obtain ⟨hr, hn⟩ := compareLex_eq_eq.1 (show compareLex _ _ a b = .eq from h)
    cases a; cases b
    exact congr (congrArg PullKey.mk (Std.LawfulEqOrd.eq_of_compare hr))
      (Std.LawfulEqOrd.eq_of_compare hn)

/-! ## Texts -/

/-- The text of a pull request's number. -/
def PullNumber.toText (n : PullNumber) : String :=
  "#" ++ toString n.val.toNat

/-- The text of an installation's number. -/
def InstallationId.toText (n : InstallationId) : String :=
  toString n.val.toNat

/-- The text of a repository. -/
def Repo.toText (r : Repo) : String :=
  r.owner ++ "/" ++ r.name

/-- The key that the store knows a repository by. -/
def Repo.storeKey (r : Repo) : String :=
  r.owner ++ ":" ++ r.name

/-- The lane of a branch of a repository. -/
def Repo.lane (r : Repo) (branch : String) : Lane := ⟨r, branch⟩

/-- The text of a lane. -/
def Lane.toText (l : Lane) : String :=
  l.repo.toText ++ "@" ++ l.branch

/-- The key that the store knows a lane by. -/
def Lane.storeKey (l : Lane) : String :=
  l.repo.storeKey ++ ":" ++ l.branch

/-! ## Commits -/

/-- The commit that a text names: forty hexadecimal digits, in either letter case. -/
def CommitId.ofText? (s : String) : Option CommitId :=
  if s.length = 40 ∧ s.toList.all (fun c => (Text.digitValue? c).isSome) then
    some ⟨String.ofList (s.toList.map Char.toLower)⟩
  else none

/-- The message for a text that names no commit. -/
def CommitId.refusal (s : String) : String :=
  "invalid commit SHA: " ++ Text.quoted s

/-- The characters at the front of a text that fill exactly a number of bytes, if some do. -/
def leading? : Nat → List Char → Option (List Char)
  | 0, _ => some []
  | _ + 1, [] => none
  | n + 1, c :: r =>
    if c.utf8Size ≤ n + 1 then (leading? (n + 1 - c.utf8Size) r).map (c :: ·) else none
termination_by _ cs => cs.length

/-- The short name of a commit: its first seven bytes, or all of it if no character ends there. -/
def CommitId.short (c : CommitId) : String :=
  match leading? 7 c.text.toList with
  | some cs => String.ofList cs
  | none => c.text

end MergeTurn
