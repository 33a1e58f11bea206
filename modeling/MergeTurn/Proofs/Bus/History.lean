import Mathlib.Data.List.Induction
import Mathlib.Data.List.TakeWhile
import Mathlib.Tactic.Lemma
import MergeTurn.Bus.Exchange

set_option autoImplicit false

/-!
# What was asked of a bus

A history lists what was asked of a bus and what it answered, and which runs of handlers began. It
says by itself who is subscribed at its end and which runs are due: one for each event that was
published and each subscription that was there at that time and is for its topic.

## Main definitions

* `MergeTurn.Exchange.Entry` — one entry of a history.
* `MergeTurn.Exchange.registered`, `MergeTurn.Exchange.listeners` — who is subscribed, and to whom
  an event is handed.
* `MergeTurn.Exchange.due` — the runs that are due, in order.
* `MergeTurn.Exchange.tenure` — what happens while a subscription is there.
* `MergeTurn.Exchange.Truthful` — all answers are right, and a run only begins when it is due.

## Main results

* `MergeTurn.Exchange.registered_filter` — a subscription is there until it is unsubscribed, once.
* `MergeTurn.Exchange.due_filter` — the runs that are due for one subscription.

## Design

None of these look at an exchange: they say what should be the case, whereas the exchange only has
the subscriptions and the tasks that are left. A history grows at its end, so whatever is defined by
recursion here has a lemma on appending.
-/

namespace MergeTurn

/-- An event on its way to this subscription. -/
def Subscription.deliver {η : Type} (s : Subscription η) (e : Event) : Delivery η :=
  ⟨s.id, s.handler, e⟩

namespace Exchange

variable {η : Type}

/-- What was asked of a bus, with its answer, or a run of a handler that began. -/
inductive Entry (η : Type) where
  | subscribed (s : Subscription η)
  | unsubscribed (id : Nat) (found : Bool)
  | published (event : Event) (count : Nat)
  | began (d : Delivery η)

variable {s : Subscription η} {a b h k before : List (Entry η)}

namespace Entry

/-- The subscription that was made. -/
def subscription? : Entry η → Option (Subscription η)
  | .subscribed s => some s
  | _ => none

/-- The event that was published. -/
def event? : Entry η → Option Event
  | .published e _ => some e
  | _ => none

/-- The delivery whose run began. -/
def delivery? : Entry η → Option (Delivery η)
  | .began d => some d
  | _ => none

/-- Whether a subscription was given up. -/
def leaves (id : Nat) : Entry η → Bool
  | .unsubscribed id' _ => id' == id
  | _ => false

end Entry

/-! ## What a history says -/

/-- The subscriptions that were ever made. -/
def made (h : List (Entry η)) : List (Subscription η) := h.filterMap Entry.subscription?

/-- The events that were published. -/
def events (h : List (Entry η)) : List Event := h.filterMap Entry.event?

/-- The runs that began. -/
def begun (h : List (Entry η)) : List (Delivery η) := h.filterMap Entry.delivery?

/-- The subscriptions that were made and not given up later, in order. -/
def registered : List (Entry η) → List (Subscription η)
  | [] => []
  | .subscribed s :: rest =>
    if rest.any (·.leaves s.id) then registered rest else s :: registered rest
  | _ :: rest => registered rest

/-- The subscriptions that an event is handed to that is published after a history. -/
def listeners (e : Event) (h : List (Entry η)) : List (Subscription η) :=
  (registered h).filter fun s => Topic.accepts s.pattern e.topic

/-- The runs that an entry makes due, by what came before it. -/
def Entry.makesDue (before : List (Entry η)) : Entry η → List (Delivery η)
  | .published e _ => (listeners e before).map (·.deliver e)
  | _ => []

/-- The runs that a history makes due, by what came before it. -/
def due : List (Entry η) → List (Entry η) → List (Delivery η)
  | _, [] => []
  | before, e :: rest => e.makesDue before ++ due (before ++ [e]) rest

/-- What happens before a subscription is given up. -/
def tenure (id : Nat) (h : List (Entry η)) : List (Entry η) :=
  h.takeWhile fun e => !e.leaves id

/-- An entry is right, by what came before it: a subscription gets the next number, and a run that
begins is the next one of those due. -/
def Entry.IsTrue (before : List (Entry η)) : Entry η → Prop
  | .subscribed s => s.id = (made before).length
  | .unsubscribed id found => found = (registered before).any (·.id == id)
  | .published e count => count = (listeners e before).length
  | .began d => begun before ++ [d] <+: due [] before

/-- All entries of a history are right, by what came before it. -/
def Truthful : List (Entry η) → List (Entry η) → Prop
  | _, [] => True
  | before, e :: rest => e.IsTrue before ∧ Truthful (before ++ [e]) rest

/-! ## Histories that grow -/

@[simp] lemma made_cons (e : Entry η) (h : List (Entry η)) :
    made (e :: h) = e.subscription?.toList ++ made h := by
  cases e <;> rfl

@[simp] lemma begun_cons (e : Entry η) (h : List (Entry η)) :
    begun (e :: h) = e.delivery?.toList ++ begun h := by
  cases e <;> rfl

@[simp] lemma events_cons (e : Entry η) (h : List (Entry η)) :
    events (e :: h) = e.event?.toList ++ events h := by
  cases e <;> rfl

@[simp] lemma made_nil : made ([] : List (Entry η)) = [] := rfl

@[simp] lemma begun_nil : begun ([] : List (Entry η)) = [] := rfl

@[simp] lemma events_nil : events ([] : List (Entry η)) = [] := rfl

@[simp] lemma made_append : made (h ++ k) = made h ++ made k := List.filterMap_append ..

@[simp] lemma begun_append : begun (h ++ k) = begun h ++ begun k := List.filterMap_append ..

@[simp] lemma events_append : events (h ++ k) = events h ++ events k := List.filterMap_append ..

/-- Later entries only take subscriptions away and put new ones behind. -/
lemma registered_append :
    registered (h ++ k) =
      (registered h).filter (fun s => !k.any (·.leaves s.id)) ++ registered k := by
  induction h with
  | nil => simp [registered]
  | cons e h ih =>
    cases e with
    | subscribed s =>
      by_cases hold : h.any (·.leaves s.id) = true
      · simp [registered, List.any_append, hold, ih]
      · by_cases hnew : k.any (·.leaves s.id) = true <;>
          simp [registered, List.any_append, hold, hnew, ih]
    | unsubscribed id found => exact ih
    | published e count => exact ih
    | began d => exact ih

/-- An entry that gives up nothing leaves all subscriptions there. -/
lemma registered_concat {e : Entry η} (hstay : ∀ id, e.leaves id = false) :
    registered (h ++ [e]) = registered h ++ registered [e] := by
  simp [registered_append, hstay]

/-- A subscription that is there was made. -/
lemma registered_sublist (h : List (Entry η)) : (registered h).Sublist (made h) := by
  induction h with
  | nil => exact List.Sublist.refl _
  | cons e h ih =>
    cases e with
    | subscribed s =>
      rw [registered]
      split
      · exact ih.cons s
      · exact ih.cons_cons s
    | unsubscribed id found => exact ih
    | published e count => exact ih
    | began d => exact ih

lemma due_append : due before (h ++ k) = due before h ++ due (before ++ h) k := by
  induction h generalizing before with
  | nil => simp [due]
  | cons e h ih => simp [due, ih]

lemma due_concat (e : Entry η) :
    due before (h ++ [e]) = due before h ++ e.makesDue (before ++ h) := by
  rw [due_append, due, due, List.append_nil]

lemma truthful_append :
    Truthful before (h ++ k) ↔ Truthful before h ∧ Truthful (before ++ h) k := by
  induction h generalizing before with
  | nil => simp [Truthful]
  | cons e h ih => simp [Truthful, ih, and_assoc]

/-- What is said at any point of a history without errors is right. -/
lemma Truthful.isTrue {e : Entry η} (ht : Truthful [] (a ++ e :: b)) : e.IsTrue a :=
  (truthful_append.1 ht).2.1

/-- If it is not given up, everything happens while a subscription is there. -/
lemma tenure_eq_self {id : Nat} (hstay : ¬ h.any (·.leaves id) = true) : tenure id h = h := by
  rw [tenure, List.takeWhile_eq_self_iff]
  simpa using hstay

/-- What happens before a subscription is given up does not change later on. -/
lemma tenure_append (id : Nat) :
    tenure id (h ++ k) = if h.any (·.leaves id) then tenure id h else h ++ tenure id k := by
  induction h with
  | nil => rfl
  | cons e h ih =>
    rw [tenure] at ih
    cases he : e.leaves id with
    | true => simp [tenure, he]
    | false =>
      simp only [tenure, List.cons_append, List.takeWhile_cons, he, Bool.not_false, if_true,
        List.any_cons, Bool.false_or, ih]
      split <;> rfl

/-- Giving up a subscription publishes nothing. -/
lemma events_tenure_singleton (id : Nat) (e : Entry η) : events (tenure id [e]) = events [e] := by
  cases e with
  | unsubscribed id' found =>
    cases hid : id' == id <;> simp [tenure, Entry.leaves, Entry.event?, hid]
  | subscribed s => rfl
  | published e count => rfl
  | began d => rfl

/-! ## One subscription -/

/-- Subscriptions are numbered one after the other. -/
lemma Truthful.ids (ht : Truthful before h) :
    (made h).map (·.id) = List.range' (made before).length (made h).length := by
  induction h generalizing before with
  | nil => rfl
  | cons e h ih =>
    have hrest := ih ht.2
    cases e with
    | subscribed s =>
      have hid : s.id = (made before).length := ht.1
      simp only [made_append, made_cons, made_nil, Entry.subscription?, Option.toList_some,
        List.append_nil, List.length_append, List.length_singleton] at hrest
      simp [Entry.subscription?, hrest, hid, List.range'_succ]
    | unsubscribed id found => simpa [Entry.subscription?] using hrest
    | published e count => simpa [Entry.subscription?] using hrest
    | began d => simpa [Entry.subscription?] using hrest

/-- The numbers of the subscriptions of a part of a history lie in the range that is theirs. -/
lemma Truthful.id_mem (ht : Truthful before h) (hs : s ∈ made h) :
    (made before).length ≤ s.id ∧ s.id < (made before).length + (made h).length := by
  have hmem : s.id ∈ (made h).map (·.id) := List.mem_map_of_mem hs
  rw [ht.ids] at hmem
  simpa using hmem

/-- A subscription is there until it is given up, and no other one has its number. -/
lemma registered_filter (ht : Truthful [] (a ++ .subscribed s :: b)) :
    (registered (a ++ .subscribed s :: b)).filter (·.id == s.id) =
      if b.any (·.leaves s.id) then [] else [s] := by
  have hid : s.id = (made a).length := ht.isTrue
  obtain ⟨ha, -, hb⟩ := truthful_append.1 ht
  -- those before it have smaller numbers, and those after it larger ones
  have hbefore : ∀ t ∈ registered a, t.id ≠ s.id := by
    intro t hmem
    have hlt : t.id < (made a).length := by
      simpa using (ha.id_mem ((registered_sublist a).subset hmem)).2
    omega
  have hafter : (registered b).filter (·.id == s.id) = [] := by
    rw [List.filter_eq_nil_iff]
    intro t hmem
    have hle : (made a).length + 1 ≤ t.id := by
      simpa [Entry.subscription?] using (hb.id_mem ((registered_sublist b).subset hmem)).1
    rw [beq_iff_eq]
    omega
  have hnone : ((registered a).filter fun t =>
      !(Entry.subscribed s :: b).any (·.leaves t.id)).filter (·.id == s.id) = [] := by
    rw [List.filter_eq_nil_iff]
    intro t hmem
    simpa using hbefore t (List.mem_filter.1 hmem).1
  rw [registered_append, List.filter_append, hnone, List.nil_append, registered]
  split
  · exact hafter
  · simp [hafter]

/-- A subscription is there exactly if it was not given up. -/
lemma mem_registered_iff (ht : Truthful [] (a ++ .subscribed s :: b)) :
    s ∈ registered (a ++ .subscribed s :: b) ↔ ¬ b.any (·.leaves s.id) = true := by
  have hmem : s ∈ registered (a ++ .subscribed s :: b) ↔
      s ∈ (registered (a ++ .subscribed s :: b)).filter (·.id == s.id) := by simp
  rw [hmem, registered_filter ht]
  split <;> simp_all

/-- A subscription is found exactly by the first who gives it up. -/
lemma Truthful.found_iff {found : Bool} {c : List (Entry η)}
    (ht : Truthful [] (a ++ .subscribed s :: (b ++ .unsubscribed s.id found :: c))) :
    found = true ↔ ¬ b.any (·.leaves s.id) = true := by
  rw [← List.cons_append, ← List.append_assoc] at ht
  have hfound : found = (registered (a ++ .subscribed s :: b)).any (·.id == s.id) := ht.isTrue
  have hold := (truthful_append.1 ht).1
  rw [hfound, List.any_eq_true]
  constructor
  · rintro ⟨t, hmem, hid⟩ hgone
    have hnone := registered_filter hold
    rw [if_pos hgone, List.filter_eq_nil_iff] at hnone
    exact hnone t hmem hid
  · exact fun hstay => ⟨s, (mem_registered_iff hold).2 hstay, beq_self_eq_true _⟩

/-- Whoever is handed an event has subscribed. -/
lemma mem_due {d : Delivery η} (hd : d ∈ due before h) :
    ∃ s ∈ made (before ++ h), s.id = d.subscriber := by
  induction h generalizing before with
  | nil => simp [due] at hd
  | cons e h ih =>
    obtain hnow | hlater := List.mem_append.1 hd
    · cases e with
      | published e count =>
        obtain ⟨s, hs, rfl⟩ := List.mem_map.1 hnow
        have hmade := (registered_sublist before).subset (List.mem_filter.1 hs).1
        exact ⟨s, by simp [hmade], rfl⟩
      | subscribed s => simp [Entry.makesDue] at hnow
      | unsubscribed id found => simp [Entry.makesDue] at hnow
      | began d => simp [Entry.makesDue] at hnow
    · simpa using ih hlater

/-- The run that an entry makes due for one subscription: one if an event is published for it while
it is there. -/
lemma makesDue_filter (ht : Truthful [] (a ++ .subscribed s :: b)) (e : Entry η) :
    (e.makesDue (a ++ .subscribed s :: b)).filter (·.subscriber == s.id) =
      if b.any (·.leaves s.id) then []
      else ((events [e]).filter fun e => Topic.accepts s.pattern e.topic).map s.deliver := by
  cases e with
  | published e count =>
    have hone : (listeners e (a ++ .subscribed s :: b)).filter (·.id == s.id) =
        (if b.any (·.leaves s.id) then [] else [s]).filter
          fun t => Topic.accepts t.pattern e.topic := by
      rw [← registered_filter ht, listeners, List.filter_filter, List.filter_filter]
      simp only [Bool.and_comm]
    have hsub : (fun d : Delivery η => d.subscriber == s.id) ∘ (Subscription.deliver · e) =
        fun t => t.id == s.id := rfl
    rw [Entry.makesDue, List.filter_map, hsub, hone]
    split
    · rfl
    · cases hmatch : Topic.accepts s.pattern e.topic <;> simp [Entry.event?, hmatch]
  | subscribed s => simp [Entry.makesDue, Entry.event?]
  | unsubscribed id found => simp [Entry.makesDue, Entry.event?]
  | began d => simp [Entry.makesDue, Entry.event?]

/-- **The runs for one subscription**: one for each event for it that is published while it is
there, in order.

**Proof sketch.** Nothing is due for it before it is made, since nobody has its number. Afterwards
by induction on what happens, from the end: the last entry makes a run due for it exactly if it is
still there (`registered_filter`). -/
lemma due_filter (ht : Truthful [] (a ++ .subscribed s :: b)) :
    (due [] (a ++ .subscribed s :: b)).filter (·.subscriber == s.id) =
      ((events (tenure s.id b)).filter fun e => Topic.accepts s.pattern e.topic).map s.deliver := by
  induction b using List.reverseRecOn with
  | nil =>
    have hid : s.id = (made a).length := ht.isTrue
    have hnone : (due [] a).filter (·.subscriber == s.id) = [] := by
      rw [List.filter_eq_nil_iff]
      intro d hd
      obtain ⟨t, hmade, hsub⟩ := mem_due hd
      have hlt : t.id < (made a).length := by
        simpa using ((truthful_append.1 ht).1.id_mem hmade).2
      rw [beq_iff_eq]
      omega
    rw [due_append, List.filter_append, hnone]
    rfl
  | append_singleton b e ih =>
    have hsplit : a ++ .subscribed s :: (b ++ [e]) = (a ++ .subscribed s :: b) ++ [e] := by simp
    rw [hsplit] at ht ⊢
    have hold := (truthful_append.1 ht).1
    rw [due_concat, List.filter_append, ih hold, List.nil_append, makesDue_filter hold,
      tenure_append]
    split
    · exact List.append_nil _
    · next hstay =>
      rw [tenure_eq_self hstay, events_append, events_tenure_singleton, List.filter_append,
        List.map_append]

end Exchange

end MergeTurn
