import MergeTurn.Proofs.Bus.History

set_option autoImplicit false

/-!
# What happens to an exchange

Somebody asks something of the bus, the next task starts, or the first of those that wait goes on.
What is asked is written into a history, also when a handler asks it, and so is the beginning of
each run. The history accounts for the exchange: it says who is subscribed, and the runs that are
due by it are those that began and those that can begin, in this order.

## Main definitions

* `MergeTurn.Exchange.Move`, `MergeTurn.Exchange.run` — what can happen, and the exchange
  afterwards.
* `MergeTurn.Exchange.tells`, `MergeTurn.Exchange.history` — what is written down of it.
* `MergeTurn.Exchange.Accounts` — a history accounts for an exchange.

## Main results

* `MergeTurn.Exchange.Accounts.move` — it still does after a move.
* `MergeTurn.Exchange.accounts_run` — every history accounts for its exchange.

## Design

What a handler does is part of the move, so handlers may have a memory, be given by chance, or fail.
Anything can be asked at any time, in particular by a handler between two times at which it waits.
-/

namespace MergeTurn.Exchange

variable {η : Type} {x y : Exchange η} {d : Delivery η} {h : List (Entry η)}

/-- What can happen to an exchange. Where a task runs, its handler reacts like this. -/
inductive Move (η : Type) where
  | call (act : Act η)
  | start (reaction : Reaction η)
  | wake (reaction : Reaction η)

/-- The exchange after a move. -/
def move (x : Exchange η) : Move η → Exchange η
  | .call a => x.act a
  | .start r => x.runNext fun _ _ => r
  | .wake r => x.wakeNext fun _ _ => r

/-- The exchange after several moves. -/
def run (moves : List (Move η)) (x : Exchange η) : Exchange η := moves.foldl move x

/-! ## What is written down -/

/-- What is written down of an act, with its answer. -/
def note : (a : Act η) → a.Answer → Entry η
  | .publish e, count => .published e count
  | .subscribe pattern handler, id => .subscribed ⟨id, pattern, handler⟩
  | .unsubscribe id, found => .unsubscribed id found

/-- What is asked of a bus, with what it answers. -/
def entry (x : Exchange η) (a : Act η) : Entry η := note a (x.ask a).1

/-- What is asked of a bus, one after the other, with its answers. -/
def entries : List (Act η) → Exchange η → List (Entry η)
  | [], _ => []
  | a :: acts, x => x.entry a :: entries acts (x.act a)

/-- The exchange in which a delivery counts as handled. -/
def noted (d : Delivery η) (r : Reaction η) (x : Exchange η) : Exchange η :=
  { x with handled := x.handled ++ [⟨d.subscriber, d.event, r.ending⟩] }

/-- What is written down of a move. -/
def tells (x : Exchange η) : Move η → List (Entry η)
  | .call a => [x.entry a]
  | .start r =>
    match x.ready with
    | [] => []
    | d :: rest =>
      .began d :: if r.wait = 0 then entries r.acts ({ x with ready := rest }.noted d r) else []
  | .wake r =>
    match x.asleep with
    | [] => []
    | (due, d) :: rest => entries r.acts ({ x with asleep := rest, now := due }.noted d r)

/-- What is written down of several moves. -/
def history : List (Move η) → Exchange η → List (Entry η)
  | [], _ => []
  | m :: moves, x => x.tells m ++ history moves (x.move m)

lemma run_append (moves later : List (Move η)) (x : Exchange η) :
    run (moves ++ later) x = run later (run moves x) := List.foldl_append ..

lemma history_append (moves later : List (Move η)) (x : Exchange η) :
    history (moves ++ later) x = history moves x ++ history later (run moves x) := by
  induction moves generalizing x with
  | nil => rfl
  | cons m moves ih =>
    rw [List.cons_append, history, ih, history, List.append_assoc]
    rfl

/-- The cases of a move: a call, a start and a waking that find nothing to run, a run to the end, a
run up to where it waits, and the rest of a run that has waited. -/
lemma move_cases {motive : Move η → List (Entry η) → Exchange η → Prop}
    (call : ∀ a, motive (.call a) [x.entry a] (x.act a))
    (idle : ∀ r, x.ready = [] → motive (.start r) [] x)
    (still : ∀ r, x.asleep = [] → motive (.wake r) [] x)
    (ends : ∀ r d rest, x.ready = d :: rest → r.wait = 0 →
      motive (.start r) (.began d :: entries r.acts ({ x with ready := rest }.noted d r))
        (r.acts.foldl act ({ x with ready := rest }.noted d r)))
    (waits : ∀ r d rest, x.ready = d :: rest → r.wait ≠ 0 →
      motive (.start r) [.began d]
        { x with ready := rest, asleep := insertAsleep (x.now + r.wait) d x.asleep })
    (wakes : ∀ r due d rest, x.asleep = (due, d) :: rest →
      motive (.wake r) (entries r.acts ({ x with asleep := rest, now := due }.noted d r))
        (r.acts.foldl act ({ x with asleep := rest, now := due }.noted d r)))
    (m : Move η) : motive m (x.tells m) (x.move m) := by
  cases m with
  | call a => exact call a
  | start r =>
    cases hready : x.ready with
    | nil => simpa [tells, move, runNext, hready] using idle r hready
    | cons d rest =>
      by_cases hwait : r.wait = 0
      · simpa [tells, move, runNext, perform, noted, hready, hwait] using ends r d rest hready hwait
      · simpa [tells, move, runNext, hready, hwait] using waits r d rest hready hwait
  | wake r =>
    cases hasleep : x.asleep with
    | nil => simpa [tells, move, wakeNext, hasleep] using still r hasleep
    | cons first rest =>
      obtain ⟨due, d⟩ := first
      simpa [tells, move, wakeNext, perform, noted, hasleep] using wakes r due d rest hasleep

/-! ## Histories account for exchanges -/

/-- A history accounts for an exchange. -/
structure Accounts (h : List (Entry η)) (x : Exchange η) : Prop where
  subscriptions : x.bus.subscriptions = registered h
  nextId : x.bus.nextId = (made h).length
  /-- The runs that are due began or can begin, in this order. -/
  runs : begun h ++ x.ready = due [] h
  truthful : Truthful [] h

namespace Accounts

lemma empty : Accounts [] (.empty : Exchange η) := ⟨rfl, rfl, rfl, trivial⟩

/-- Only the bus and the tasks that can run have to be accounted for. -/
lemma congr (hx : Accounts h x) (hbus : y.bus = x.bus) (hready : y.ready = x.ready) :
    Accounts h y :=
  ⟨hbus ▸ hx.subscriptions, hbus ▸ hx.nextId, hready ▸ hx.runs, hx.truthful⟩

lemma audience (hx : Accounts h x) (e : Event) : x.bus.audience e = listeners e h := by
  rw [Bus.audience, hx.subscriptions, listeners]

/-- What the bus answers is right. -/
lemma entry_isTrue (hx : Accounts h x) (a : Act η) : (x.entry a).IsTrue h := by
  cases a with
  | publish e => exact congrArg List.length (hx.audience e)
  | subscribe pattern handler => exact hx.nextId
  | unsubscribe id =>
    have hfound : (x.bus.unsubscribe id).1 = (registered h).any (·.id == id) := by
      rw [Bus.unsubscribe_fst, Bus.has, hx.subscriptions]
    exact hfound

/-- Whatever is asked of the bus is accounted for. -/
lemma act (hx : Accounts h x) (a : Act η) : Accounts (h ++ [x.entry a]) (x.act a) := by
  have htruthful : Truthful [] (h ++ [x.entry a]) :=
    truthful_append.2 ⟨hx.truthful, hx.entry_isTrue a, trivial⟩
  cases a with
  | publish e =>
    have hregistered : registered (h ++ [x.entry (.publish e)]) = registered h ++ [] :=
      registered_concat fun _ => rfl
    have hruns : due [] (h ++ [x.entry (.publish e)]) =
        due [] h ++ (listeners e h).map (·.deliver e) := due_concat _
    refine ⟨?_, ?_, ?_, htruthful⟩
    · rw [hregistered, List.append_nil]
      exact hx.subscriptions
    · simpa [entry, note, Entry.subscription?, act_publish, publish, hand] using hx.nextId
    · rw [hruns, ← hx.runs, ← hx.audience]
      simp [entry, note, Entry.delivery?, act_publish, publish, hand, Subscription.deliver]
  | subscribe pattern handler =>
    have hregistered : registered (h ++ [x.entry (.subscribe pattern handler)]) =
        registered h ++ [⟨x.bus.nextId, pattern, handler⟩] := registered_concat fun _ => rfl
    have hruns : due [] (h ++ [x.entry (.subscribe pattern handler)]) = due [] h ++ [] :=
      due_concat _
    refine ⟨?_, ?_, ?_, htruthful⟩
    · rw [hregistered, ← hx.subscriptions]
      rfl
    · simp [entry, note, Entry.subscription?, Exchange.act, ask, Bus.subscribe, hx.nextId]
    · rw [hruns, ← hx.runs]
      simp [entry, note, Entry.delivery?, Exchange.act, ask]
  | unsubscribe id =>
    have hregistered : registered (h ++ [x.entry (.unsubscribe id)]) =
        (registered h).filter (·.id != id) := by
      simp [registered_append, registered, entry, note, Entry.leaves, bne, Bool.beq_comm]
    have hruns : due [] (h ++ [x.entry (.unsubscribe id)]) = due [] h ++ [] := due_concat _
    refine ⟨?_, ?_, ?_, htruthful⟩
    · rw [hregistered, ← hx.subscriptions]
      rfl
    · simpa [entry, note, Entry.subscription?, Exchange.act, ask, Bus.unsubscribe] using hx.nextId
    · rw [hruns, ← hx.runs]
      simp [entry, note, Entry.delivery?, Exchange.act, ask]

/-- Whatever is asked of the bus, one after the other, is accounted for. -/
lemma acts (hx : Accounts h x) (acts : List (Act η)) :
    Accounts (h ++ entries acts x) (acts.foldl Exchange.act x) := by
  induction acts generalizing h x with
  | nil => simpa [entries] using hx
  | cons a acts ih => simpa [entries] using ih (hx.act a)

/-- The beginning of a run is accounted for. -/
lemma began (hx : Accounts h x) {rest : List (Delivery η)} (hready : x.ready = d :: rest) :
    Accounts (h ++ [.began d]) { x with ready := rest } := by
  have hruns : begun h ++ d :: rest = due [] h := hready ▸ hx.runs
  have hregistered : registered (h ++ [.began d]) = registered h ++ [] :=
    registered_concat fun _ => rfl
  have hdue : due [] (h ++ [.began d]) = due [] h ++ [] := due_concat _
  refine ⟨?_, ?_, ?_, truthful_append.2 ⟨hx.truthful, ⟨rest, ?_⟩, trivial⟩⟩
  · rw [hregistered, List.append_nil]
    exact hx.subscriptions
  · simpa [Entry.subscription?] using hx.nextId
  · rw [hdue, ← hruns]
    simp [Entry.delivery?]
  · simpa using hruns

/-- A history that accounts for an exchange, and what is written down of a move, account for the
exchange afterwards. -/
lemma move (hx : Accounts h x) (m : Move η) : Accounts (h ++ x.tells m) (x.move m) := by
  refine move_cases (motive := fun _ told y => Accounts (h ++ told) y)
    ?call ?idle ?still ?ends ?waits ?wakes m
  case call => exact hx.act
  case idle => exact fun r _ => by simpa using hx
  case still => exact fun r _ => by simpa using hx
  case ends =>
    intro r d rest hready _
    have hnoted : Accounts (h ++ [.began d]) ({ x with ready := rest }.noted d r) :=
      (hx.began hready).congr rfl rfl
    simpa using hnoted.acts r.acts
  case waits => exact fun r d rest hready _ => (hx.began hready).congr rfl rfl
  case wakes =>
    intro r due d rest _
    have hnoted : Accounts h ({ x with asleep := rest, now := due }.noted d r) := hx.congr rfl rfl
    exact hnoted.acts r.acts

/-- The same for several moves. -/
lemma run (hx : Accounts h x) (moves : List (Move η)) :
    Accounts (h ++ history moves x) (run moves x) := by
  induction moves generalizing h x with
  | nil => simpa [history, Exchange.run] using hx
  | cons m moves ih => simpa [history, Exchange.run] using ih (hx.move m)

end Accounts

/-- The history of an exchange accounts for it. -/
lemma accounts_run (moves : List (Move η)) : Accounts (history moves .empty) (run moves .empty) :=
  Accounts.empty.run moves

end MergeTurn.Exchange
