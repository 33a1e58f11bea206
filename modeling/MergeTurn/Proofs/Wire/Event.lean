import MergeTurn.Proofs.Json.Tagged
import MergeTurn.Proofs.Wire.Registry
import MergeTurn.Proofs.Wire.Snapshot
import MergeTurn.Wire.Event

set_option autoImplicit false

/-!
# Everything that is written can be read again

Every value that leaves the service as JSON is decoded from its text as the same value, in either
layout. A change of a lane is decoded from its members in any order, and is of the kind that its tag
names.

## Main definitions

* `MergeTurn.Wire.DecodesTo` — both texts of a document are decoded to a value.
* `MergeTurn.LaneEvent.members` — the members that a change of a lane is written as.
* `MergeTurn.LaneEvent.IsWritable` — a change that has a text.

## Main results

* `MergeTurn.Wire.readLaneEvent_perm` — a change of a lane is read from its members in any order.
* `MergeTurn.Wire.tags_of_decode_laneEvent` — and is of the kind that its tag names.
* `MergeTurn.Wire.decode_encode` — every value is decoded from its own text.

## Design

Two kinds of values need a condition. Points in time must be of days that have a name, which those of
the years from 0 to 9999 are, and places must be counted by 64 bits. Strings, numbers, lists, maps
and sets are free.
-/

namespace MergeTurn

/-- The members that a change of a lane is written as. -/
def LaneEvent.members : LaneEvent → List (String × Json)
  | .added lane booking place =>
    [("topic", Json.text addedTopic), ("key", Wire.encodeLane lane),
      ("item", Wire.encodeBooking booking), ("index", Json.nat place)]
  | .removed lane booking removal =>
    [("topic", Json.text removedTopic), ("key", Wire.encodeLane lane),
      ("item", Wire.encodeBooking booking), ("meta", Wire.encodeRemoval removal)]

/-- A change of a lane that has a text: the booking is from a day that can be named, and its place
is counted by 64 bits. -/
def LaneEvent.IsWritable : LaneEvent → Prop
  | .added _ booking place => booking.bookedAt.IsNamed ∧ place < UInt64.size
  | .removed _ booking _ => booking.bookedAt.IsNamed

instance (e : LaneEvent) : Decidable e.IsWritable :=
  match e with
  | .added _ booking place =>
    inferInstanceAs (Decidable (booking.bookedAt.IsNamed ∧ place < UInt64.size))
  | .removed _ booking _ => inferInstanceAs (Decidable booking.bookedAt.IsNamed)

namespace Wire

open Json (Fault Fits Row)

/-! ## Both layouts -/

/-- Both texts of a document, without blanks and with one member a line, are decoded to a value. -/
def DecodesTo {α : Type} (read : Json → Except Fault α) (v : Json) (a : α) : Prop :=
  Json.decode read (Json.utf8 v.compact) = .ok a ∧ Json.decode read (Json.utf8 v.pretty) = .ok a

/-- Where a document has a text of its own, both texts are decoded to what is read from it. -/
lemma decodesTo_of_read {α : Type} {read : Json → Except Fault α} {v : Json} {a : α}
    (hplain : v.Plain = true) (hread : read v = .ok a) : DecodesTo read v a :=
  ⟨(Json.decode_compact hplain).trans hread, (Json.decode_pretty hplain).trans hread⟩

/-- What is decoded from a text is read from the document that the text begins with. -/
lemma read_of_decode {α : Type} {read : Json → Except Fault α} {bs : List UInt8} {a : α}
    (h : Json.decode read bs = .ok a) : read (Json.ofBytes bs).1 = .ok a := by
  unfold Json.decode at h
  dsimp only at h
  split at h
  · cases h
  · rename_i b hb
    split at h
    · cases h
      exact hb
    · cases h

/-! ## Lanes and statuses -/

/-- A lane is read from its document. -/
lemma readLane_encodeLane (l : Lane) : readLane (encodeLane l) = .ok l := by
  have howner : ownerField.read (Json.text l.repo.owner) = .ok l.repo.owner := rfl
  have hname : repoNameField.read (Json.text l.repo.name) = .ok l.repo.name := rfl
  have hbranch : branchField.read (Json.text l.branch) = .ok l.branch := rfl
  rw [readLane, encodeLane, Json.readRecord_object (by simp)]
  · rw [(Row.get_of_lookup rfl).trans howner, (Row.get_of_lookup rfl).trans hname,
      (Row.get_of_lookup rfl).trans hbranch]
    rfl
  · simp only [List.forall_mem_cons]
    exact ⟨Json.fits_of_read rfl howner, Json.fits_of_read rfl hname,
      Json.fits_of_read rfl hbranch, by simp⟩

/-- A state is read from its word. -/
lemma readState_encodeState (s : CheckState) : readState (encodeState s) = .ok s := by
  cases s <;> decide

/-- A place to post statuses is read from its document. -/
lemma readTarget_encodeTarget (t : StatusTarget) : readTarget (encodeTarget t) = .ok t := by
  have hinstallation := readInstallation_option t.installation
  have hstatusUrl : statusUrlField.read (Json.text t.statusUrl) = .ok t.statusUrl := rfl
  rw [readTarget, encodeTarget, Json.readRecord_object (by simp)]
  · rw [(Row.get_of_lookup rfl).trans hinstallation, (Row.get_of_lookup rfl).trans hstatusUrl]
    rfl
  · simp only [List.forall_mem_cons]
    exact ⟨Json.fits_of_read rfl hinstallation, Json.fits_of_read rfl hstatusUrl, by simp⟩

/-- A page that may be missing is read from its document. -/
lemma readTargetUrl_option (o : Option String) :
    targetUrlField.read (Json.option Json.text o) = .ok o := by
  cases o <;> rfl

/-- A status is read from its document. -/
lemma readReport_encodeReport (r : StatusReport) : readReport (encodeReport r) = .ok r := by
  have hstate : stateField.read (encodeState r.state) = .ok r.state :=
    readState_encodeState r.state
  have hdescription : descriptionField.read (Json.text r.description) = .ok r.description := rfl
  have htargetUrl := readTargetUrl_option r.targetUrl
  rw [readReport, encodeReport, Json.readRecord_object (by simp)]
  · rw [(Row.get_of_lookup rfl).trans hstate, (Row.get_of_lookup rfl).trans hdescription,
      (Row.get_of_lookup rfl).trans htargetUrl]
    rfl
  · simp only [List.forall_mem_cons]
    exact ⟨Json.fits_of_read rfl hstate, Json.fits_of_read rfl hdescription,
      Json.fits_of_read rfl htargetUrl, by simp⟩

/-- The document of a place to post statuses has a text of its own. -/
lemma plain_encodeTarget (t : StatusTarget) : (encodeTarget t).Plain = true := by
  have hinstallation : (Json.option encodeInstallation t.installation).Plain = true :=
    Json.plain_option (fun _ => rfl) _
  refine Json.plain_object ?_
  simp only [List.forall_mem_cons]
  exact ⟨hinstallation, rfl, by simp⟩

/-- The document of a status has a text of its own. -/
lemma plain_encodeReport (r : StatusReport) : (encodeReport r).Plain = true := by
  have htargetUrl : (Json.option Json.text r.targetUrl).Plain = true :=
    Json.plain_option (fun _ => rfl) _
  refine Json.plain_object ?_
  simp only [List.forall_mem_cons]
  exact ⟨rfl, rfl, htargetUrl, by simp⟩

/-! ## Ended checks and failed side effects -/

/-- The end of a head's checks is read from its document. -/
lemma readHeadChecks_encodeHeadChecks (c : HeadChecks) :
    readHeadChecks (encodeHeadChecks c) = .ok c := by
  have hlane : laneField.read (encodeLane c.lane) = .ok c.lane := readLane_encodeLane c.lane
  have hnumber : numberField.read (encodeNumber c.number) = .ok c.number :=
    readNumber_encodeNumber c.number
  have husername : usernameField.read (Json.text c.username) = .ok c.username := rfl
  have hcommit : headField.read (encodeCommit c.commit) = .ok c.commit := rfl
  have hstate : stateField.read (encodeState c.state) = .ok c.state :=
    readState_encodeState c.state
  rw [readHeadChecks, encodeHeadChecks, Json.readRecord_object (by simp)]
  · rw [(Row.get_of_lookup rfl).trans hlane, (Row.get_of_lookup rfl).trans hnumber,
      (Row.get_of_lookup rfl).trans husername, (Row.get_of_lookup rfl).trans hcommit,
      (Row.get_of_lookup rfl).trans hstate]
    rfl
  · simp only [List.forall_mem_cons]
    exact ⟨Json.fits_of_read rfl hlane, Json.fits_of_read rfl hnumber,
      Json.fits_of_read rfl husername, Json.fits_of_read rfl hcommit,
      Json.fits_of_read rfl hstate, by simp⟩

/-- A kind of side effect is read from its word. -/
lemma readEffect_encodeEffect (e : Effect) : readEffect (encodeEffect e) = .ok e := by
  cases e <;> decide

/-- A failed side effect is read from its document. -/
lemma readFailure_encodeFailure (f : DeliveryFailure) :
    readFailure (encodeFailure f) = .ok f := by
  have heffect : effectField.read (encodeEffect f.effect) = .ok f.effect :=
    readEffect_encodeEffect f.effect
  have hlane : laneField.read (encodeLane f.lane) = .ok f.lane := readLane_encodeLane f.lane
  have hnumber : numberField.read (encodeNumber f.number) = .ok f.number :=
    readNumber_encodeNumber f.number
  have herror : errorField.read (Json.text f.error) = .ok f.error := rfl
  rw [readFailure, encodeFailure, Json.readRecord_object (by simp)]
  · rw [(Row.get_of_lookup rfl).trans heffect, (Row.get_of_lookup rfl).trans hlane,
      (Row.get_of_lookup rfl).trans hnumber, (Row.get_of_lookup rfl).trans herror]
    rfl
  · simp only [List.forall_mem_cons]
    exact ⟨Json.fits_of_read rfl heffect, Json.fits_of_read rfl hlane,
      Json.fits_of_read rfl hnumber, Json.fits_of_read rfl herror, by simp⟩

/-! ## Changes of lanes -/

/-- The circumstances of a removal are read from their document. -/
lemma readRemoval_encodeRemoval (r : Removal) : readRemoval (encodeRemoval r) = .ok r := by
  have hclosed : closedField.read (.bool r.closed) = .ok r.closed := rfl
  have hheadChanged : headChangedField.read (.bool r.headChanged) = .ok r.headChanged := rfl
  rw [readRemoval, encodeRemoval, Json.readRecord_object (by simp)]
  · rw [(Row.get_of_lookup rfl).trans hclosed, (Row.get_of_lookup rfl).trans hheadChanged]
    rfl
  · simp only [List.forall_mem_cons]
    exact ⟨Json.fits_of_read rfl hclosed, Json.fits_of_read rfl hheadChanged, by simp⟩

/-- A change of a lane is written as the object of its members. -/
lemma encodeLaneEvent_eq (e : LaneEvent) : encodeLaneEvent e = Json.object e.members := by
  cases e <;> rfl

/-- The document of a lane can be held while the tag is looked for. -/
lemma holdable_encodeLane (l : Lane) : (encodeLane l).Holdable Json.holdingRoom = true := rfl

/-- So can the document of a booking. -/
lemma holdable_encodeBooking (b : Booking) :
    (encodeBooking b).Holdable Json.holdingRoom = true := by
  refine Json.holdable_object ?_
  simp only [List.forall_mem_cons]
  exact ⟨Json.holdable_nat b.number.val.toNat_lt _, rfl, rfl, by simp⟩

/-- A booking is read from its members in any order. -/
lemma readBody_added {lane : Lane} {booking : Booking} {place : Nat}
    (h : (LaneEvent.added lane booking place).IsWritable) {ms : List (String × Json)}
    (hperm : ms.Perm (LaneEvent.added lane booking place).members.tail) :
    readLaneEventBody .added (Json.object ms) = .ok (.added lane booking place) := by
  have hlane : laneField.read (encodeLane lane) = .ok lane := readLane_encodeLane lane
  have hbooking : bookingField.read (encodeBooking booking) = .ok booking :=
    readBooking_encodeBooking h.1
  have hplace : placeField.read (Json.nat place) = .ok place := Json.readNat_nat h.2
  refine Json.readRecord_perm (by simp [LaneEvent.members]) ?_ hperm fun row hnames hrow => ?_
  · simp only [LaneEvent.members, List.tail_cons, List.forall_mem_cons]
    exact ⟨Json.fits_of_read rfl hlane, Json.fits_of_read rfl hbooking,
      Json.fits_of_read rfl hplace, by simp⟩
  · simp only [LaneEvent.members, List.tail_cons, List.forall_mem_cons] at hrow
    rw [(Row.get_of_mem hnames hrow.1).trans hlane,
      (Row.get_of_mem hnames hrow.2.1).trans hbooking,
      (Row.get_of_mem hnames hrow.2.2.1).trans hplace]
    rfl

/-- A removal is read from its members in any order. -/
lemma readBody_removed {lane : Lane} {booking : Booking} {removal : Removal}
    (h : (LaneEvent.removed lane booking removal).IsWritable) {ms : List (String × Json)}
    (hperm : ms.Perm (LaneEvent.removed lane booking removal).members.tail) :
    readLaneEventBody .removed (Json.object ms) = .ok (.removed lane booking removal) := by
  have hlane : laneField.read (encodeLane lane) = .ok lane := readLane_encodeLane lane
  have hbooking : bookingField.read (encodeBooking booking) = .ok booking :=
    readBooking_encodeBooking h
  have hremoval : removalField.read (encodeRemoval removal) = .ok removal :=
    readRemoval_encodeRemoval removal
  refine Json.readRecord_perm (by simp [LaneEvent.members]) ?_ hperm fun row hnames hrow => ?_
  · simp only [LaneEvent.members, List.tail_cons, List.forall_mem_cons]
    exact ⟨Json.fits_of_read rfl hlane, Json.fits_of_read rfl hbooking,
      Json.fits_of_read rfl hremoval, by simp⟩
  · simp only [LaneEvent.members, List.tail_cons, List.forall_mem_cons] at hrow
    rw [(Row.get_of_mem hnames hrow.1).trans hlane,
      (Row.get_of_mem hnames hrow.2.1).trans hbooking,
      (Row.get_of_mem hnames hrow.2.2.1).trans hremoval]
    rfl

/-- A change of a lane is read from its members, in whatever order they are written. -/
theorem readLaneEvent_perm {e : LaneEvent} (h : e.IsWritable) {ms : List (String × Json)}
    (hperm : ms.Perm e.members) : readLaneEvent (Json.object ms) = .ok e := by
  cases e with
  | added lane booking place =>
    refine Json.readTagged_perm ?_ ?_ rfl hperm fun rest hrest => readBody_added h hrest
    · simp
    · simp only [List.forall_mem_cons]
      exact ⟨holdable_encodeLane lane, holdable_encodeBooking booking,
        Json.holdable_nat h.2 _, by simp⟩
  | removed lane booking removal =>
    refine Json.readTagged_perm ?_ ?_ rfl hperm fun rest hrest => readBody_removed h hrest
    · simp
    · simp only [List.forall_mem_cons]
      exact ⟨holdable_encodeLane lane, holdable_encodeBooking booking, rfl, by simp⟩

/-- A change of a lane has a text of its own, in whatever order its members are written. -/
lemma plain_of_perm {e : LaneEvent} {ms : List (String × Json)} (hperm : ms.Perm e.members) :
    (Json.object ms).Plain = true := by
  have hmembers : ∀ m ∈ e.members, m.2.Plain = true := by
    cases e <;> simp only [LaneEvent.members, List.forall_mem_cons] <;>
      exact ⟨rfl, rfl, rfl, rfl, by simp⟩
  exact Json.plain_object fun m hm => hmembers m (hperm.mem_iff.1 hm)

/-! ## The kind of a change -/

/-- Only the topics of bookings and removals name a kind, each its own. -/
lemma topic_of_lookup {word : String} {kind : LaneEventKind}
    (h : LaneEventKind.topics.lookup word = some kind) :
    word = addedTopic ∧ kind = .added ∨ word = removedTopic ∧ kind = .removed := by
  obtain ⟨before, after, hsplit, -⟩ := List.lookup_eq_some_iff.1 h
  have hmem : (word, kind) ∈ LaneEventKind.topics := by simp [hsplit]
  simpa [LaneEventKind.topics] using hmem

/-- What is read as a change of a given kind is one. -/
lemma topic_of_readBody {kind : LaneEventKind} {v : Json} {e : LaneEvent}
    (h : readLaneEventBody kind v = .ok e) {word : String}
    (hword : LaneEventKind.topics.lookup word = some kind) : word = e.topic := by
  obtain ⟨rfl, rfl⟩ | ⟨rfl, rfl⟩ := topic_of_lookup hword
  · obtain ⟨row, hrow⟩ := Json.exists_of_readRecord h
    obtain ⟨lane, -, hrow⟩ := Json.exists_of_bind hrow
    obtain ⟨booking, -, hrow⟩ := Json.exists_of_bind hrow
    obtain ⟨place, -, hrow⟩ := Json.exists_of_bind hrow
    cases hrow
    rfl
  · obtain ⟨row, hrow⟩ := Json.exists_of_readRecord h
    obtain ⟨lane, -, hrow⟩ := Json.exists_of_bind hrow
    obtain ⟨booking, -, hrow⟩ := Json.exists_of_bind hrow
    obtain ⟨removal, -, hrow⟩ := Json.exists_of_bind hrow
    cases hrow
    rfl

/-- A change of a lane that is decoded is of the kind that the one tag of its document names. -/
theorem tags_of_decode_laneEvent {bs : List UInt8} {e : LaneEvent}
    (h : Json.decode readLaneEvent bs = .ok e) :
    (Json.ofBytes bs).1.tags "topic" = [Json.text e.topic] := by
  obtain ⟨word, kind, body, htags, hkind, hbody⟩ := Json.tags_of_readTagged (read_of_decode h)
  rw [htags, topic_of_readBody hbody hkind]

/-! ## All values -/

/-- Every value is decoded from its own text, in either layout. A change of a lane is also decoded
from its members in any other order, and whatever change is decoded from a text is of the kind that
the one tag in it names.

**Proof sketch.** Each document has a text of its own, and the value is read from the document by
its fields. -/
theorem decode_encode :
    (∀ b : Booking, b.bookedAt.IsNamed → DecodesTo readBooking (encodeBooking b) b) ∧
    (∀ p : Pull, DecodesTo readPull (encodePull p) p) ∧
    (∀ t : StatusTarget, DecodesTo readTarget (encodeTarget t) t) ∧
    (∀ r : StatusReport, DecodesTo readReport (encodeReport r) r) ∧
    (∀ r : Removal, DecodesTo readRemoval (encodeRemoval r) r) ∧
    (∀ e : LaneEvent, e.IsWritable → DecodesTo readLaneEvent (encodeLaneEvent e) e ∧
      ∀ ms, ms.Perm e.members → DecodesTo readLaneEvent (Json.object ms) e) ∧
    (∀ bs e, Json.decode readLaneEvent bs = .ok e →
      (Json.ofBytes bs).1.tags "topic" = [Json.text e.topic]) ∧
    (∀ c : HeadChecks, DecodesTo readHeadChecks (encodeHeadChecks c) c) ∧
    (∀ f : DeliveryFailure, DecodesTo readFailure (encodeFailure f) f) ∧
    (∀ s : StoreSnapshot, s.savedAt.IsNamed → s.shelves.AllNamed →
      DecodesTo readStoreSnapshot (encodeStoreSnapshot s) s) := by
  have hmembers : ∀ e : LaneEvent, e.IsWritable → ∀ ms, ms.Perm e.members →
      DecodesTo readLaneEvent (Json.object ms) e := fun e he ms hperm =>
    decodesTo_of_read (plain_of_perm hperm) (readLaneEvent_perm he hperm)
  refine ⟨fun b hb => ?_, fun p => ?_, fun t => ?_, fun r => ?_, fun r => ?_, fun e he => ?_,
    fun bs e => tags_of_decode_laneEvent, fun c => ?_, fun f => ?_, fun s hsaved hs => ?_⟩
  · exact decodesTo_of_read (plain_encodeBooking b) (readBooking_encodeBooking hb)
  · exact decodesTo_of_read (plain_encodePull p) (readPull_encodePull p)
  · exact decodesTo_of_read (plain_encodeTarget t) (readTarget_encodeTarget t)
  · exact decodesTo_of_read (plain_encodeReport r) (readReport_encodeReport r)
  · exact decodesTo_of_read rfl (readRemoval_encodeRemoval r)
  · exact ⟨encodeLaneEvent_eq e ▸ hmembers e he _ (List.Perm.refl _), hmembers e he⟩
  · exact decodesTo_of_read rfl (readHeadChecks_encodeHeadChecks c)
  · exact decodesTo_of_read rfl (readFailure_encodeFailure f)
  · exact decodesTo_of_read (plain_encodeStoreSnapshot s)
      (readStoreSnapshot_encodeStoreSnapshot hsaved hs)

/-- A name with a quote, a backslash, a control character, a line break and a character of two
surrogates. -/
def oddName : String :=
  "\"\\\x01\n𝄞"

/-- The first second of the year 0. -/
def yearZero : Time.Timestamp := ⟨-62167219200, 0, by decide⟩

/-- The last nanosecond of the year 9999. -/
def yearsEnd : Time.Timestamp := ⟨253402300799, 999999999, by decide⟩

/-- A booking by an odd name of the pull request with the greatest number. -/
def oddBooking : Booking := ⟨⟨UInt64.ofNat (UInt64.size - 1)⟩, oddName, yearsEnd⟩

/-- A booking in a lane of odd names at the last place that 64 bits can count. -/
def oddEvent : LaneEvent :=
  .added ⟨⟨oddName, ""⟩, oddName⟩ oddBooking (UInt64.size - 1)

/-- A booking of the last nanosecond of the year 9999 survives, and so does the event of it with its
members written backwards, the tag last, and a snapshot of the year 0 that holds it under an odd
name. -/
theorem decode_encode_odd :
    oddBooking.bookedAt.IsNamed ∧ DecodesTo readBooking (encodeBooking oddBooking) oddBooking ∧
    oddEvent.IsWritable ∧ oddEvent.members.reverse.Perm oddEvent.members ∧
    DecodesTo readLaneEvent (Json.object oddEvent.members.reverse) oddEvent ∧
    (Json.ofBytes (Json.utf8 (Json.object oddEvent.members.reverse).pretty)).1.tags "topic" =
      [Json.text "item.add"] ∧
    yearZero.IsNamed ∧ (Shelves.empty.append oddName oddBooking).AllNamed ∧
    DecodesTo readStoreSnapshot
      (encodeStoreSnapshot ⟨1, yearZero, Shelves.empty.append oddName oddBooking⟩)
      ⟨1, yearZero, Shelves.empty.append oddName oddBooking⟩ := by
  obtain ⟨hbooking, -, -, -, -, hevent, htags, -, -, hsnapshot⟩ := decode_encode
  have hnamed : oddBooking.bookedAt.IsNamed := by decide
  have hwritable : oddEvent.IsWritable := by decide
  have hperm : oddEvent.members.reverse.Perm oddEvent.members := List.reverse_perm _
  have hzero : yearZero.IsNamed := by decide
  have hshelves : (Shelves.empty.append oddName oddBooking).AllNamed :=
    Shelves.allNamed_empty.append oddName hnamed
  have hdecodes := (hevent oddEvent hwritable).2 _ hperm
  exact ⟨hnamed, hbooking _ hnamed, hwritable, hperm, hdecodes, htags _ _ hdecodes.2, hzero,
    hshelves, hsnapshot _ hzero hshelves⟩

end Wire

end MergeTurn
