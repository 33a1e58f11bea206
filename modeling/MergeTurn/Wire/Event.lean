import MergeTurn.Event
import MergeTurn.Wire.Basic

set_option autoImplicit false

/-!
# Events as JSON

A change of a lane names its kind by its topic, in a member of its own that may stand anywhere
among the others.

## Main definitions

* `MergeTurn.Wire.encodeLaneEvent`, `MergeTurn.Wire.readLaneEvent`, and likewise for `Removal`,
  `HeadChecks`, `Effect` and `DeliveryFailure`.
-/

namespace MergeTurn.Wire

open Json (Fault Row required readRecord readText)

/-! ## Changes of lanes -/

def closedField : Json.Field Bool := required "closed" Json.readBool
def headChangedField : Json.Field Bool := required "first_item_changed" Json.readBool

def encodeRemoval (r : Removal) : Json :=
  Json.object [("closed", .bool r.closed), ("first_item_changed", .bool r.headChanged)]

/-- The circumstances of a removal. -/
def readRemoval : Json → Except Fault Removal :=
  readRecord [closedField.slot, headChangedField.slot] fun row => do
    return ⟨← row.get closedField, ← row.get headChangedField⟩

def laneField : Json.Field Lane := required "key" readLane
def bookingField : Json.Field Booking := required "item" readBooking
def placeField : Json.Field Nat := required "index" (Json.readNat UInt64.size)
def removalField : Json.Field Removal := required "meta" readRemoval

/-- The kinds of changes of a lane. -/
inductive LaneEventKind where
  | added
  | removed
deriving DecidableEq, Repr

/-- The kinds of changes by the topics that name them. -/
def LaneEventKind.topics : List (String × LaneEventKind) :=
  [(addedTopic, .added), (removedTopic, .removed)]

def encodeLaneEvent : LaneEvent → Json
  | .added lane booking place =>
    Json.object [("topic", Json.text addedTopic), ("key", encodeLane lane),
      ("item", encodeBooking booking), ("index", Json.nat place)]
  | .removed lane booking removal =>
    Json.object [("topic", Json.text removedTopic), ("key", encodeLane lane),
      ("item", encodeBooking booking), ("meta", encodeRemoval removal)]

/-- The members of a change of a given kind. -/
def readLaneEventBody : LaneEventKind → Json → Except Fault LaneEvent
  | .added =>
    readRecord [laneField.slot, bookingField.slot, placeField.slot] fun row => do
      return .added (← row.get laneField) (← row.get bookingField) (← row.get placeField)
  | .removed =>
    readRecord [laneField.slot, bookingField.slot, removalField.slot] fun row => do
      return .removed (← row.get laneField) (← row.get bookingField) (← row.get removalField)

/-- A change of a lane. -/
def readLaneEvent : Json → Except Fault LaneEvent :=
  Json.readTagged "topic" LaneEventKind.topics readLaneEventBody

/-! ## Ended checks -/

def encodeHeadChecks (c : HeadChecks) : Json :=
  Json.object [("key", encodeLane c.lane), ("pull_request_number", encodeNumber c.number),
    ("username", Json.text c.username), ("sha", encodeCommit c.commit),
    ("state", encodeState c.state)]

/-- The end of the checks of a lane's head. -/
def readHeadChecks : Json → Except Fault HeadChecks :=
  readRecord [laneField.slot, numberField.slot, usernameField.slot, headField.slot,
      stateField.slot] fun row => do
    return ⟨← row.get laneField, ← row.get numberField, ← row.get usernameField,
      ← row.get headField, ← row.get stateField⟩

/-! ## Failed side effects -/

def encodeEffect (e : Effect) : Json := Json.text e.word

/-- A kind of side effect. -/
def readEffect (v : Json) : Except Fault Effect :=
  Json.readWord Effect.words v

def effectField : Json.Field Effect := required "effect" readEffect
def errorField : Json.Field String := required "error" readText

def encodeFailure (f : DeliveryFailure) : Json :=
  Json.object [("effect", encodeEffect f.effect), ("key", encodeLane f.lane),
    ("pull_request_number", encodeNumber f.number), ("error", Json.text f.error)]

/-- A side effect that could not be delivered. -/
def readFailure : Json → Except Fault DeliveryFailure :=
  readRecord [effectField.slot, laneField.slot, numberField.slot, errorField.slot] fun row => do
    return ⟨← row.get effectField, ← row.get laneField, ← row.get numberField,
      ← row.get errorField⟩

end MergeTurn.Wire
