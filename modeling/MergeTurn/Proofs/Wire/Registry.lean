import MergeTurn.Proofs.Registry
import MergeTurn.Proofs.Store.Reload

set_option autoImplicit false

/-!
# Registries that are opened again

A registry writes all that is on record to its file after each change. What is found there again is
each pull request with every part of it, under its own key, so the registry that is opened on the
file is the registry that wrote it.

## Main definitions

* `MergeTurn.Registry.Kept` — the file of a registry holds the registry.

## Main results

* `MergeTurn.Wire.readPull_encodePull` — a pull request is read from its document.
* `MergeTurn.Wire.readRegistrySnapshot_encodeRegistrySnapshot` — so is a snapshot.
* `MergeTurn.Registry.kept_of_load` — a new registry on a path without a file is kept in it.
* `MergeTurn.Registry.Kept.record`, `MergeTurn.Registry.Kept.forget` — and stays so.

## Design

The file lists pull requests in the order of their keys, and the registry is put together from them
by key. This gives the registry back only because every pull request is on record under its own key.
-/

namespace MergeTurn

namespace Wire

open Json (Row)

/-! ## Pull requests -/

/-- The number of an installation is read from its document. -/
lemma readInstallation_encodeInstallation (n : InstallationId) :
    readInstallation (encodeInstallation n) = .ok n := by
  rw [encodeInstallation, readInstallation, readUInt64_encodeUInt64]
  rfl

/-- An installation that may be missing is read from its document. -/
lemma readInstallation_option (o : Option InstallationId) :
    installationField.read (Json.option encodeInstallation o) = .ok o := by
  cases o with
  | none => rfl
  | some n => exact congrArg (·.map some) (readInstallation_encodeInstallation n)

/-- A repository is read from its document. -/
lemma readRepo_encodeRepo (r : Repo) : readRepo (encodeRepo r) = .ok r := by
  have howner : ownerField.read (Json.text r.owner) = .ok r.owner := rfl
  have hname : repoNameField.read (Json.text r.name) = .ok r.name := rfl
  rw [readRepo, encodeRepo, Json.readRecord_object (by simp)]
  · rw [(Row.get_of_lookup rfl).trans howner, (Row.get_of_lookup rfl).trans hname]
    rfl
  · simp only [List.forall_mem_cons]
    exact ⟨Json.fits_of_read rfl howner, Json.fits_of_read rfl hname, by simp⟩

/-- A pull request is read from its document. -/
theorem readPull_encodePull (p : Pull) : readPull (encodePull p) = .ok p := by
  have hrepo : repoField.read (encodeRepo p.repo) = .ok p.repo := readRepo_encodeRepo p.repo
  have hnumber : numberField.read (encodeNumber p.number) = .ok p.number :=
    readNumber_encodeNumber p.number
  have hstatusUrl : statusUrlField.read (Json.text p.statusUrl) = .ok p.statusUrl := rfl
  have hinstallation := readInstallation_option p.installation
  have hbranch : branchField.read (Json.text p.branch) = .ok p.branch := rfl
  have htitle : titleField.read (Json.text p.title) = .ok p.title := rfl
  have hauthor : authorField.read (Json.text p.author) = .ok p.author := rfl
  have hpageUrl : pageUrlField.read (Json.text p.pageUrl) = .ok p.pageUrl := rfl
  have hassignees : assigneesField.read (Json.array Json.text p.assignees) = .ok p.assignees :=
    Json.readList_array fun _ _ => rfl
  have hhead : headField.read (encodeCommit p.head) = .ok p.head := rfl
  rw [readPull, encodePull, Json.readRecord_object (by simp)]
  · rw [(Row.get_of_lookup rfl).trans hrepo, (Row.get_of_lookup rfl).trans hnumber,
      (Row.get_of_lookup rfl).trans hstatusUrl, (Row.get_of_lookup rfl).trans hinstallation,
      (Row.get_of_lookup rfl).trans hbranch, (Row.get_of_lookup rfl).trans htitle,
      (Row.get_of_lookup rfl).trans hauthor, (Row.get_of_lookup rfl).trans hpageUrl,
      (Row.get_of_lookup rfl).trans hassignees, (Row.get_of_lookup rfl).trans hhead]
    rfl
  · simp only [List.forall_mem_cons]
    exact ⟨Json.fits_of_read rfl hrepo, Json.fits_of_read rfl hnumber,
      Json.fits_of_read rfl hstatusUrl, Json.fits_of_read rfl hinstallation,
      Json.fits_of_read rfl hbranch, Json.fits_of_read rfl htitle, Json.fits_of_read rfl hauthor,
      Json.fits_of_read rfl hpageUrl, Json.fits_of_read rfl hassignees,
      Json.fits_of_read rfl hhead, by simp⟩

/-- The document of a pull request has a text of its own. -/
lemma plain_encodePull (p : Pull) : (encodePull p).Plain = true := by
  have hinstallation : (Json.option encodeInstallation p.installation).Plain = true :=
    Json.plain_option (fun _ => rfl) _
  have hassignees : (Json.array Json.text p.assignees).Plain = true :=
    Json.plain_array fun _ _ => rfl
  refine Json.plain_object ?_
  simp only [List.forall_mem_cons]
  exact ⟨rfl, rfl, rfl, hinstallation, rfl, rfl, rfl, rfl, hassignees, rfl, by simp⟩

/-! ## Snapshots -/

/-- A snapshot of a registry is read from its document. -/
theorem readRegistrySnapshot_encodeRegistrySnapshot {s : RegistrySnapshot}
    (h : s.savedAt.IsNamed) : readRegistrySnapshot (encodeRegistrySnapshot s) = .ok s := by
  have hversion : versionField.read (Json.nat s.version.toNat) = .ok s.version :=
    readUInt32_nat s.version
  have hsavedAt : savedAtField.read (encodeTimestamp s.savedAt) = .ok s.savedAt :=
    readTimestamp_encodeTimestamp h
  have hentries : entriesField.read (Json.array encodePull s.entries) = .ok s.entries :=
    Json.readList_array fun p _ => readPull_encodePull p
  rw [readRegistrySnapshot, encodeRegistrySnapshot, Json.readRecord_object (by simp)]
  · rw [(Row.get_of_lookup rfl).trans hversion, (Row.get_of_lookup rfl).trans hsavedAt,
      (Row.get_of_lookup rfl).trans hentries]
    rfl
  · simp only [List.forall_mem_cons]
    exact ⟨Json.fits_of_read rfl hversion, Json.fits_of_read rfl hsavedAt,
      Json.fits_of_read rfl hentries, by simp⟩

/-- The document of a snapshot of a registry has a text of its own. -/
lemma plain_encodeRegistrySnapshot (s : RegistrySnapshot) :
    (encodeRegistrySnapshot s).Plain = true := by
  have hentries : (Json.array encodePull s.entries).Plain = true :=
    Json.plain_array fun p _ => plain_encodePull p
  refine Json.plain_object ?_
  simp only [List.forall_mem_cons]
  exact ⟨rfl, rfl, hentries, by simp⟩

end Wire

namespace Registry

/-! ## Registries and their files -/

variable {r r' : Registry}

/-- Pull requests on record under their own keys are found under them again. -/
lemma Keyed.index_pulls (h : r.Keyed) : index r.pulls = r.entries := by
  have hpairs : r.pulls.map (fun p => (p.key, p)) = r.entries.toList := by
    rw [pulls, List.map_map]
    refine (List.map_congr_left fun e he => ?_).trans (List.map_id _)
    obtain ⟨key, p⟩ := e
    have hkey : p.key = key := h key p (Std.ExtTreeMap.mem_toList_iff_getElem?_eq_some.1 he)
    simp [hkey]
  rw [index, hpairs]
  exact Wire.ofList_toList r.entries

/-- The file of a registry holds the registry, and can be written. -/
structure Kept (r : Registry) : Prop where
  reload : r.reload = .ok r
  keyed : r.Keyed
  backed : ∃ b, r.backing = some b ∧ b.cell.isWritable = true ∧ b.clock.IsNamed

/-- A new registry on a path without a file holds nothing, and neither does the missing file. -/
lemma kept_of_load {p : File.Path} (hp : (File.Cell.absent p).isWritable = true)
    {clock : Time.Timestamp} (hclock : clock.IsNamed)
    (h : load ⟨File.Cell.absent p, clock⟩ = .ok r) : r.entries = ∅ ∧ r.Kept := by
  cases h
  exact ⟨rfl, rfl, keyed_of_entries_empty rfl, _, rfl, hp, hclock⟩

/-- A registry with other pull requests on record is written to its file. -/
lemma Kept.save (h : r.Kept) {entries : Std.ExtTreeMap PullKey Pull}
    (hkeyed : Keyed { r with entries }) : Kept (Registry.save { r with entries }) := by
  obtain ⟨old, backing⟩ := r
  obtain ⟨b, rfl : backing = some b, hw, hclock⟩ := h.backed
  have htakes : b.cell.takes = true := (Bool.and_eq_true_iff.1 hw).1
  let snapshot : RegistrySnapshot := ⟨formVersion, b.clock, pulls ⟨entries, some b⟩⟩
  let saved : Backing := (b.save (Wire.encodeRegistrySnapshot snapshot)).2
  have hload : saved.load Wire.readRegistrySnapshot RegistrySnapshot.version =
      .ok (some snapshot) :=
    Backing.load_of_save RegistrySnapshot.version htakes (Wire.plain_encodeRegistrySnapshot _)
      (Wire.readRegistrySnapshot_encodeRegistrySnapshot hclock) rfl
  refine ⟨?_, hkeyed, _, rfl, (b.isWritable_save _).trans hw, hclock⟩
  have hreload : load saved = .ok ⟨index (pulls ⟨entries, some b⟩), some saved⟩ := by
    rw [load, hload]
  exact hreload.trans (congrArg (fun m => Except.ok (Registry.mk m _)) hkeyed.index_pulls)

/-- The file of a registry holds the registry after a pull request was recorded. -/
theorem Kept.record (h : r.Kept) (p : Pull) : (r.record p).Kept := by
  refine h.save fun key q hq => h.keyed.record p key q ?_
  rwa [get?, Registry.record, entries_save]

/-- The file of a registry holds the registry after a pull request was forgotten. -/
theorem Kept.forget (h : r.Kept) (key : PullKey) : (r.forget key).Kept := by
  refine h.save fun key' q hq => h.keyed.forget key key' q ?_
  rwa [get?, Registry.forget, entries_save]

end Registry

end MergeTurn
