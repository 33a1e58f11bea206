import MergeTurn.Proofs.Bus.Moves

set_option autoImplicit false

/-!
# Exactly once, and in order

Whatever is asked of a bus, and whatever its handlers do, each event that is published leads to one
run for each subscription that is there at that time and is for its topic, and to no other run. The
runs begin in the order in which they came about, so each subscription meets its events in the order
in which they were published. It does not matter whether it is given up in between, nor how other
runs end.

## Main definitions

* `MergeTurn.Exchange.starts` — how many tasks are started.
* `MergeTurn.Exchange.pursued` — the runs that have ended or wait.
* `MergeTurn.Exchange.ExactlyOnce` — events are handled exactly once, and in order.
* `MergeTurn.Exchange.Proceeds` — what is due begins and ends.

## Main results

* `MergeTurn.Exchange.ready_run` — tasks begin in the order in which they became ready.
* `MergeTurn.Exchange.pursued_run` — what began has ended or waits.
* `MergeTurn.Exchange.handled_run` — if no task waits, tasks end in the order in which they begin.
* `MergeTurn.Exchange.settle_eq_run`, `MergeTurn.Exchange.drain_eq_run` — running all tasks is one
  of the things that can happen.
* `MergeTurn.Exchange.run_exactlyOnce` — events are always handled exactly once, and in order.
-/

namespace MergeTurn

/-- To whom an event goes. -/
def Delivery.address {η : Type} (d : Delivery η) : Nat × Event := (d.subscriber, d.event)

/-- To whom an event went. -/
def Handled.address (d : Handled) : Nat × Event := (d.subscriber, d.event)

namespace Exchange

variable {η : Type} {x : Exchange η}

/-! ## Beginning -/

/-- How many tasks are started. -/
def starts (moves : List (Move η)) : Nat :=
  moves.countP fun
    | .start _ => true
    | _ => false

/-- What is asked of a bus puts new tasks behind those that are there. -/
lemma exists_ready_foldl (acts : List (Act η)) (x : Exchange η) :
    ∃ new, (acts.foldl act x).ready = x.ready ++ new := by
  induction acts generalizing x with
  | nil => exact ⟨[], (List.append_nil _).symm⟩
  | cons a acts ih =>
    obtain ⟨new, hnew⟩ := ih (x.act a)
    cases a with
    | publish e =>
      refine ⟨(x.bus.audience e).map (·.deliver e) ++ new, ?_⟩
      rw [List.foldl_cons, hnew, ← List.append_assoc]
      rfl
    | subscribe pattern handler => exact ⟨new, hnew⟩
    | unsubscribe id => exact ⟨new, hnew⟩

/-- No run begins just because something is asked of a bus. -/
@[simp] lemma begun_entries (acts : List (Act η)) (x : Exchange η) :
    begun (entries acts x) = [] := by
  induction acts generalizing x with
  | nil => rfl
  | cons a acts ih =>
    rw [entries, begun_cons, ih]
    cases a <;> rfl

/-- A start takes the first task, and every move only puts new tasks behind the others. -/
lemma ready_move (x : Exchange η) (m : Move η) :
    begun (x.tells m) = x.ready.take (starts [m]) ∧
      ∃ new, (x.move m).ready = x.ready.drop (starts [m]) ++ new := by
  refine move_cases (motive := fun m told y => begun told = x.ready.take (starts [m]) ∧
    ∃ new, y.ready = x.ready.drop (starts [m]) ++ new) ?call ?idle ?still ?ends ?waits ?wakes m
  case call =>
    intro a
    exact ⟨begun_entries [a] x, exists_ready_foldl [a] x⟩
  case idle => exact fun r hready => by simp [hready]
  case still => exact fun r _ => ⟨rfl, [], (List.append_nil _).symm⟩
  case ends =>
    intro r d rest hready _
    rw [begun_cons, begun_entries, hready]
    exact ⟨rfl, exists_ready_foldl r.acts _⟩
  case waits =>
    intro r d rest hready _
    rw [hready]
    exact ⟨rfl, [], (List.append_nil _).symm⟩
  case wakes =>
    intro r due d rest _
    exact ⟨begun_entries r.acts _, exists_ready_foldl r.acts _⟩

/-- The tasks that are ready begin in their order, one with each start. -/
lemma ready_run (moves : List (Move η)) (x : Exchange η) :
    x.ready.take (starts moves) <+: begun (history moves x) := by
  induction moves generalizing x with
  | nil => exact List.nil_prefix
  | cons m moves ih =>
    obtain ⟨hbegun, new, hready⟩ := ready_move x m
    have hstarts : starts ([m] ++ moves) = starts [m] + starts moves := List.countP_append
    -- those that the first move leaves stay in front of what it adds
    have hfirst : (x.ready.drop (starts [m])).take (starts moves) <+:
        (x.move m).ready.take (starts moves) := by
      rw [hready, List.take_append]
      exact List.prefix_append ..
    rw [← List.singleton_append, hstarts, List.take_add, List.singleton_append, history,
      begun_append, hbegun]
    exact (List.prefix_append_right_inj _).2 (hfirst.trans (ih _))

/-! ## Ending -/

@[simp] lemma handled_foldl (acts : List (Act η)) (x : Exchange η) :
    (acts.foldl act x).handled = x.handled := by
  induction acts generalizing x with
  | nil => rfl
  | cons a acts ih =>
    rw [List.foldl_cons, ih]
    cases a <;> rfl

@[simp] lemma asleep_foldl (acts : List (Act η)) (x : Exchange η) :
    (acts.foldl act x).asleep = x.asleep := by
  induction acts generalizing x with
  | nil => rfl
  | cons a acts ih =>
    rw [List.foldl_cons, ih]
    cases a <;> rfl

/-- A task that waits is put somewhere among the others. -/
lemma insertAsleep_perm (due : Nat) (d : Delivery η) (waiting : List (Nat × Delivery η)) :
    (insertAsleep due d waiting).Perm ((due, d) :: waiting) := by
  induction waiting with
  | nil => exact List.Perm.refl _
  | cons first rest ih =>
    obtain ⟨t, d'⟩ := first
    rw [insertAsleep]
    split
    · exact (ih.cons _).trans (List.Perm.swap ..)
    · exact List.Perm.refl _

/-- The runs that have ended and those that wait. -/
def pursued (x : Exchange η) : List (Nat × Event) :=
  x.handled.map Handled.address ++ x.asleep.map fun w => w.2.address

/-- What is asked of a bus ends no run and makes none wait. -/
@[simp] lemma pursued_foldl (acts : List (Act η)) (x : Exchange η) :
    (acts.foldl act x).pursued = x.pursued := by
  rw [pursued, handled_foldl, asleep_foldl, pursued]

/-- A run that begins ends or waits. -/
lemma pursued_move (x : Exchange η) (m : Move η) :
    (x.move m).pursued.Perm (x.pursued ++ (begun (x.tells m)).map Delivery.address) := by
  refine move_cases (motive := fun _ told y =>
    y.pursued.Perm (x.pursued ++ (begun told).map Delivery.address))
    ?call ?idle ?still ?ends ?waits ?wakes m
  case call =>
    intro a
    have hbegun : begun [x.entry a] = [] := begun_entries [a] x
    have hpursued : (x.act a).pursued = x.pursued := pursued_foldl [a] x
    simp [hbegun, hpursued]
  case idle => exact fun r _ => by simp
  case still => exact fun r _ => by simp
  case ends =>
    intro r d rest _ _
    rw [pursued_foldl, begun_cons, begun_entries]
    have hnoted : ({ x with ready := rest }.noted d r).pursued =
        x.handled.map Handled.address ++ (d.address :: x.asleep.map fun w => w.2.address) := by
      simp [pursued, noted, Handled.address, Delivery.address]
    rw [hnoted]
    exact List.perm_middle.trans (List.perm_append_singleton _ _).symm
  case waits =>
    intro r d rest _ _
    have hasleep := (insertAsleep_perm (x.now + r.wait) d x.asleep).map fun w => w.2.address
    have hmiddle := (hasleep.append_left (x.handled.map Handled.address)).trans List.perm_middle
    exact hmiddle.trans (List.perm_append_singleton _ _).symm
  case wakes =>
    intro r due d rest hasleep
    rw [pursued_foldl, begun_entries]
    have hnoted : ({ x with asleep := rest, now := due }.noted d r).pursued = x.pursued := by
      simp [pursued, noted, hasleep, Handled.address, Delivery.address]
    simp [hnoted]

/-- What began has ended or waits. -/
lemma pursued_run (moves : List (Move η)) (x : Exchange η) :
    (run moves x).pursued.Perm
      (x.pursued ++ (begun (history moves x)).map Delivery.address) := by
  induction moves generalizing x with
  | nil => simp [run, history]
  | cons m moves ih =>
    have hstep := (ih (x.move m)).trans ((pursued_move x m).append_right _)
    simpa [run, history] using hstep

/-- A task that is not to wait ends with the move by which it begins. -/
lemma handled_move (x : Exchange η) (hasleep : x.asleep = []) (m : Move η)
    (hwait : ∀ r, m = .start r → r.wait = 0) :
    (x.move m).asleep = [] ∧ (x.move m).handled.map Handled.address =
      x.handled.map Handled.address ++ (begun (x.tells m)).map Delivery.address := by
  revert hwait
  refine move_cases (motive := fun m told y => (∀ r, m = .start r → r.wait = 0) →
    y.asleep = [] ∧ y.handled.map Handled.address =
      x.handled.map Handled.address ++ (begun told).map Delivery.address)
    ?call ?idle ?still ?ends ?waits ?wakes m
  case call =>
    intro a _
    have hbegun : begun [x.entry a] = [] := begun_entries [a] x
    have hold : (x.act a).asleep = x.asleep := asleep_foldl [a] x
    have hhandled : (x.act a).handled = x.handled := handled_foldl [a] x
    simp [hbegun, hold, hhandled, hasleep]
  case idle => exact fun r _ _ => by simp [hasleep]
  case still => exact fun r _ _ => by simp [hasleep]
  case ends =>
    intro r d rest _ _ _
    simp [noted, hasleep, Entry.delivery?, Handled.address, Delivery.address]
  case waits => exact fun r d rest _ hne hwait => absurd (hwait r rfl) hne
  case wakes =>
    intro r due d rest hfirst _
    cases hasleep.symm.trans hfirst

/-- If no task is to wait, tasks end in the order in which they begin. -/
lemma handled_run (moves : List (Move η)) (hwait : ∀ r, .start r ∈ moves → r.wait = 0)
    {x : Exchange η} (hasleep : x.asleep = []) :
    (run moves x).asleep = [] ∧ (run moves x).handled.map Handled.address =
      x.handled.map Handled.address ++ (begun (history moves x)).map Delivery.address := by
  induction moves generalizing x with
  | nil => simp [run, history, hasleep]
  | cons m moves ih =>
    obtain ⟨hnone, hhandled⟩ :=
      handled_move x hasleep m fun r hm => hwait r (hm ▸ List.mem_cons_self)
    obtain ⟨hnone', hrest⟩ := ih (fun r hr => hwait r (List.mem_cons_of_mem _ hr)) hnone
    refine ⟨hnone', ?_⟩
    rw [history, begun_append, List.map_append, ← List.append_assoc, ← hhandled]
    exact hrest

/-! ## Running all tasks -/

/-- Starting the next task is a move. -/
lemma exists_move_eq_runNext (react : η → Event → Reaction η) (x : Exchange η) :
    ∃ r, x.runNext react = x.move (.start r) := by
  cases hready : x.ready with
  | nil => exact ⟨⟨0, [], .finished⟩, by simp [move, runNext, hready]⟩
  | cons d rest => exact ⟨react d.handler d.event, by simp [move, runNext, hready]⟩

/-- Waking the first task that waits is a move. -/
lemma exists_move_eq_wakeNext (react : η → Event → Reaction η) (x : Exchange η) :
    ∃ r, x.wakeNext react = x.move (.wake r) := by
  cases hasleep : x.asleep with
  | nil => exact ⟨⟨0, [], .finished⟩, by simp [move, wakeNext, hasleep]⟩
  | cons first rest =>
    exact ⟨react first.2.handler first.2.event, by simp [move, wakeNext, hasleep]⟩

/-- Where no task is ready, settling does nothing. -/
lemma settle_of_idle (react : η → Event → Reaction η) (n : Nat) (hready : x.ready = []) :
    x.settle react n = x := by
  cases n with
  | zero => rfl
  | succ n => simp [settle, hready]

/-- Settling starts the next task, if there is one, and goes on. -/
lemma settle_succ (react : η → Event → Reaction η) (n : Nat) (x : Exchange η) :
    x.settle react (n + 1) = (x.runNext react).settle react n := by
  cases hready : x.ready with
  | nil =>
    have hstay : x.runNext react = x := by simp [runNext, hready]
    rw [hstay, settle_of_idle react _ hready, settle_of_idle react _ hready]
  | cons d rest => simp [settle, hready]

/-- Settling starts tasks, one after the other. -/
lemma settle_eq_run (react : η → Event → Reaction η) (n : Nat) (x : Exchange η) :
    ∃ later, starts later = n ∧ (∀ m ∈ later, ∃ r, m = .start r) ∧
      x.settle react n = run later x := by
  induction n generalizing x with
  | zero => exact ⟨[], rfl, by simp, rfl⟩
  | succ n ih =>
    obtain ⟨r, hr⟩ := exists_move_eq_runNext react x
    obtain ⟨later, hcount, hstarts, hlater⟩ := ih (x.runNext react)
    refine ⟨.start r :: later, by simpa [starts] using hcount, by simpa using hstarts, ?_⟩
    rw [settle_succ, hlater, hr]
    rfl

/-- Draining starts tasks and wakes those that wait. -/
lemma drain_eq_run (react : η → Event → Reaction η) (n : Nat) (x : Exchange η) :
    ∃ later, (∀ m ∈ later, ∀ a, m ≠ .call a) ∧ x.drain react n = run later x := by
  induction n generalizing x with
  | zero => exact ⟨[], by simp, rfl⟩
  | succ n ih =>
    rw [drain]
    split
    · obtain ⟨r, hr⟩ := exists_move_eq_runNext react x
      obtain ⟨later, hnone, hlater⟩ := ih (x.runNext react)
      refine ⟨.start r :: later, by simpa using hnone, ?_⟩
      rw [hlater, hr]
      rfl
    · split
      · exact ⟨[], by simp, rfl⟩
      · obtain ⟨r, hr⟩ := exists_move_eq_wakeNext react x
        obtain ⟨later, hnone, hlater⟩ := ih (x.wakeNext react)
        refine ⟨.wake r :: later, by simpa using hnone, ?_⟩
        rw [hlater, hr]
        rfl

/-! ## The bus -/

/-- Events are handled exactly once, and in order, as told by the history of an exchange. -/
structure ExactlyOnce (h : List (Entry η)) (x : Exchange η) : Prop where
  /-- Publishing answers how many subscriptions the event is handed to. -/
  count_eq : ∀ a e count b, h = a ++ .published e count :: b → count = (listeners e a).length
  /-- Unsubscribing answers whether this is the first time. -/
  found_iff : ∀ a s b found c, h = a ++ .subscribed s :: (b ++ .unsubscribed s.id found :: c) →
    (found = true ↔ ¬ b.any (·.leaves s.id) = true)
  /-- No number is given twice. -/
  ids : ((made h).map (·.id)).Nodup
  subscriptions : x.bus.subscriptions = registered h
  /-- Only by giving it up itself is a subscription removed. -/
  subscribed_iff : ∀ a s b, h = a ++ .subscribed s :: b →
    (s ∈ x.bus.subscriptions ↔ ¬ b.any (·.leaves s.id) = true)
  /-- The runs that began and those that can begin are those due, in this order. -/
  runs : begun h ++ x.ready = due [] h
  /-- Each run began when it was the next of those due. -/
  began : ∀ a d b, h = a ++ .began d :: b → begun a ++ [d] <+: due [] a
  /-- Those of a subscription are for the events for it that were published while it was there. -/
  runs_of : ∀ a s b, h = a ++ .subscribed s :: b →
    (begun h ++ x.ready).filter (·.subscriber == s.id) =
      ((events (tenure s.id b)).filter fun e => Topic.accepts s.pattern e.topic).map s.deliver
  /-- What began has ended or waits, and nothing else has ended. -/
  pursued : x.pursued.Perm ((begun h).map Delivery.address)
  /-- If no task is in flight, what was due has ended. -/
  drained : x.inFlight = 0 → (x.handled.map Handled.address).Perm ((due [] h).map Delivery.address)

/-- An exchange handles events exactly once, and in order, if its history accounts for it and for
what became of its runs. -/
lemma Accounts.exactlyOnce {h : List (Entry η)} (hx : Accounts h x)
    (hpursued : x.pursued.Perm ((begun h).map Delivery.address)) : ExactlyOnce h x := by
  constructor
  case count_eq =>
    rintro a e count b rfl
    exact hx.truthful.isTrue
  case found_iff =>
    rintro a s b found c rfl
    exact hx.truthful.found_iff
  case ids =>
    rw [hx.truthful.ids]
    exact List.nodup_range'
  case subscriptions => exact hx.subscriptions
  case subscribed_iff =>
    rintro a s b rfl
    rw [hx.subscriptions]
    exact mem_registered_iff hx.truthful
  case runs => exact hx.runs
  case began =>
    rintro a d b rfl
    exact hx.truthful.isTrue
  case runs_of =>
    rintro a s b rfl
    rw [hx.runs]
    exact due_filter hx.truthful
  case pursued => exact hpursued
  case drained =>
    intro hflight
    have hnone : x.ready = [] ∧ x.asleep = [] := by simpa [inFlight] using hflight
    have hruns := hx.runs
    rw [hnone.1, List.append_nil] at hruns
    rw [← hruns]
    simpa [Exchange.pursued, hnone.2] using hpursued

/-- An exchange goes on: what is due begins, and ends in the same order if nobody waits. -/
structure Proceeds (moves : List (Move η)) : Prop where
  /-- What is due begins, with as many starts as tasks are ready, whatever else happens. -/
  begins : ∀ later, (run moves .empty).ready.length ≤ starts later →
    due [] (history moves .empty) <+: begun (history (moves ++ later) .empty)
  /-- If no task is to wait, all runs that began have ended, in this order. -/
  ends : (∀ r, .start r ∈ moves → r.wait = 0) →
    (run moves .empty).asleep = [] ∧ (run moves .empty).handled.map Handled.address =
      (begun (history moves .empty)).map Delivery.address
  /-- Settling is nothing but starting tasks. -/
  settles : ∀ react n, ∃ later, starts later = n ∧ (∀ m ∈ later, ∃ r, m = .start r) ∧
    (run moves .empty).settle react n = run (moves ++ later) .empty
  /-- Draining is nothing but starting and waking tasks. -/
  drains : ∀ react n, ∃ later, (∀ m ∈ later, ∀ a, m ≠ .call a) ∧
    (run moves .empty).drain react n = run (moves ++ later) .empty

/-- Every exchange goes on. -/
lemma proceeds (moves : List (Move η)) : Proceeds moves := by
  constructor
  case begins =>
    intro later hstarts
    have hready := ready_run later (run moves .empty)
    rw [List.take_of_length_le hstarts] at hready
    rw [history_append, begun_append, ← (accounts_run moves).runs]
    exact (List.prefix_append_right_inj _).2 hready
  case ends => exact fun hwait => handled_run moves hwait rfl
  case settles =>
    intro react n
    obtain ⟨later, hcount, hstarts, hlater⟩ := settle_eq_run react n (run moves .empty)
    exact ⟨later, hcount, hstarts, hlater.trans (run_append moves later .empty).symm⟩
  case drains =>
    intro react n
    obtain ⟨later, hnone, hlater⟩ := drain_eq_run react n (run moves .empty)
    exact ⟨later, hnone, hlater.trans (run_append moves later .empty).symm⟩

/-- **Events are handled exactly once, and in order**, whatever is asked of a bus, whatever its
handlers do and however they end.

**Proof sketch.** The history accounts for the exchange (`accounts_run`), that is, it says who is
subscribed and which runs began or can begin. What it says of one subscription follows from the
numbers, which are never given again (`registered_filter`, `due_filter`). Tasks that are ready stay
in front of those that come later, so each start brings one of them to its turn (`ready_run`). -/
theorem run_exactlyOnce (moves : List (Move η)) :
    ExactlyOnce (history moves .empty) (run moves .empty) ∧ Proceeds moves := by
  have hpursued : (run moves .empty).pursued.Perm
      ((begun (history moves .empty)).map Delivery.address) := pursued_run moves .empty
  exact ⟨(accounts_run moves).exactlyOnce hpursued, proceeds moves⟩

/-- A run takes place though its subscription was given up meanwhile, and counts though it fails. -/
example (e : Event) :
    (run [.call (.subscribe "**" ()), .call (.publish e), .call (.unsubscribe 0),
      .start ⟨0, [], .failed⟩] .empty).handled = [⟨0, e, .failed⟩] := by
  rfl

end Exchange

end MergeTurn
