import MergeTurn.Event
import MergeTurn.Event.Topic

set_option autoImplicit false

/-!
# Subscriptions

The bus knows who wants to hear of what. Each subscription has a number of its own that is never
given again.

## Main definitions

* `MergeTurn.Bus` — the subscriptions, in the order in which they were made.
* `MergeTurn.Bus.subscribe`, `MergeTurn.Bus.unsubscribe` — how they change, and what is answered.
* `MergeTurn.Bus.audience` — the subscriptions that an event is handed to.

## Design

Subscriptions are numbered with natural numbers. A word of 64 bits counts as far as any service will
ever get, so nothing is said of what happens when it is used up.
-/

namespace MergeTurn

/-- A subscription: its number, the topics it is for, and the handler that it was made for. -/
structure Subscription (η : Type) where
  id : Nat
  pattern : String
  handler : η
deriving Repr

/-- The subscriptions in the order in which they were made, and the number of the next one. -/
structure Bus (η : Type) where
  subscriptions : List (Subscription η)
  nextId : Nat
deriving Repr

namespace Bus

variable {η : Type}

/-- A bus without subscriptions. -/
def empty : Bus η := ⟨[], 0⟩

/-- The number of a new subscription, and the bus with it. -/
def subscribe (pattern : String) (handler : η) (b : Bus η) : Nat × Bus η :=
  (b.nextId, ⟨b.subscriptions ++ [⟨b.nextId, pattern, handler⟩], b.nextId + 1⟩)

/-- Whether a subscription is there. -/
def has (id : Nat) (b : Bus η) : Bool :=
  b.subscriptions.any (·.id == id)

/-- Whether there is one subscription less without the one of a number, and the bus without it. -/
def unsubscribe (id : Nat) (b : Bus η) : Bool × Bus η :=
  let kept := b.subscriptions.filter (·.id != id)
  (kept.length != b.subscriptions.length, { b with subscriptions := kept })

/-- There is one less exactly if it was there. -/
theorem unsubscribe_fst (id : Nat) (b : Bus η) : (b.unsubscribe id).1 = b.has id := by
  rw [Bool.eq_iff_iff, unsubscribe, has, bne_iff_ne, ne_eq, List.length_filter_eq_length_iff]
  simp

/-- The subscriptions that an event is handed to, in order. -/
def audience (e : Event) (b : Bus η) : List (Subscription η) :=
  b.subscriptions.filter fun s => Topic.accepts s.pattern e.topic

end Bus

end MergeTurn
