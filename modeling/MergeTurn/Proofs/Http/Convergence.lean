import MergeTurn.Proofs.Http.Streams

set_option autoImplicit false

/-!
# Where streams end

A stream goes through the feed of all lanes and sends on what is of its own lane. Each snapshot is
complete, so a stream that loses some of them is none the worse as long as it gets the newest one of
its lane. But the feed does not tell lanes apart: the newest snapshot of one lane may be pushed out
by snapshots of others before a slow stream comes to it. Then the stream ends on an older one.

## Main definitions

* `MergeTurn.Http.Server.Attends`, `MergeTurn.Http.Server.Passes` — how far a receiver has come, and
  a move that is none of its own.
* `MergeTurn.Http.Server.Known`, `MergeTurn.Http.Server.Joined`, `MergeTurn.Http.Server.Tracks` —
  what is kept by every move before somebody joins, until the stream begins, and afterwards.
* `MergeTurn.Http.Server.LosesOld` — a stream loses only what the feed does not keep.
* `MergeTurn.Http.Server.Visit` — a run in which a stream begins.

## Main results

* `MergeTurn.Http.Server.Tracks.run` — what a stream has met, and what is still ahead of it.
* `MergeTurn.Http.Server.ends_current_iff` — which streams end on what is booked.

## Design

The feed itself forgets. So a stream is followed through the list of all snapshots that were shown:
what it has met, got or lost, and what is still ahead of it are together what was shown since it
joined. Moves of others only add to what is ahead, and what the stream asks for only takes from it.
-/

namespace MergeTurn.Http.Server

open Service (Open UpToDate Shows)

/-! ## What a stream loses -/

/-- After the snapshots that a stream lost, if it lost any, come at least those that the feed keeps;
of so many in all that the stream has met or is to meet. -/
def LosesOld (seen : List Sight) (kept total : Nat) : Prop :=
  ∃ pre post, seen = pre ++ post ∧ post.flatMap Sight.gotten = post.flatMap Sight.snapshots ∧
    (pre.flatMap Sight.snapshots = [] ∨ (pre.flatMap Sight.snapshots).length + kept ≤ total)

namespace LosesOld

variable {seen more : List Sight} {kept kept' total n : Nat}

/-- At first nothing is lost. -/
lemma nil (kept total : Nat) : LosesOld [] kept total :=
  ⟨[], [], rfl, rfl, .inl rfl⟩

/-- More is shown, and the feed does not keep more than that in addition. -/
lemma show_more (h : LosesOld seen kept total) (hkept : kept' ≤ kept + n) :
    LosesOld seen kept' (total + n) := by
  obtain ⟨pre, post, hseen, hpost, hpre⟩ := h
  exact ⟨pre, post, hseen, hpost, hpre.imp_right fun hlength => by omega⟩

/-- The stream gets something. -/
lemma get_more (h : LosesOld seen kept total)
    (hmore : more.flatMap Sight.gotten = more.flatMap Sight.snapshots) :
    LosesOld (seen ++ more) kept total := by
  obtain ⟨pre, post, hseen, hpost, hpre⟩ := h
  refine ⟨pre, post ++ more, by rw [hseen, List.append_assoc], ?_, hpre⟩
  rw [List.flatMap_append, List.flatMap_append, hpost, hmore]

/-- The stream loses all that the feed does not keep. -/
lemma lose_more (h : (seen.flatMap Sight.snapshots).length + kept ≤ total) :
    LosesOld seen kept total :=
  ⟨seen, [], (List.append_nil _).symm, rfl, .inr h⟩

/-- If one of the snapshots that the feed keeps is of the lane, the stream has got the newest one of
its lane. -/
lemma getLast?_eq {k : Lane} {base dealt : List LaneSnapshot} {first : LaneSnapshot}
    (h : LosesOld seen kept (1 + dealt.length))
    (hmet : seen.flatMap Sight.snapshots = first :: dealt)
    (hx : ∃ x ∈ (base ++ dealt).rtake kept, x.lane = k) :
    (received k seen).getLast? = (passed k seen).getLast? := by
  obtain ⟨pre, post, rfl, hpost, hpre⟩ := h
  simp only [received, passed, List.flatMap_append, List.filter_append, hpost] at hmet ⊢
  have hsublist := gotten_sublist pre
  generalize pre.flatMap Sight.gotten = gotten, pre.flatMap Sight.snapshots = early,
    post.flatMap Sight.snapshots = late at hmet hpre hsublist ⊢
  cases early with
  | nil => rw [List.sublist_nil.1 hsublist]
  | cons y early =>
    obtain ⟨rfl, hdealt⟩ := List.cons.inj hmet
    obtain rfl : early ++ late = dealt := hdealt
    obtain hnil | hlength := hpre
    · cases hnil
    obtain ⟨x, hx, hlane⟩ := hx
    -- All that the feed keeps was met after anything that was lost.
    have hlate : x ∈ late := by
      rw [List.rtake, ← List.append_assoc, List.drop_append] at hx
      simp only [List.length_append, List.length_cons] at hx hlength
      rw [List.drop_eq_nil_of_le (by simp; omega), List.nil_append] at hx
      exact List.mem_of_mem_drop hx
    have hsome : late.filter (·.lane == k) ≠ [] :=
      List.ne_nil_of_mem (List.mem_filter.2 ⟨hlate, by simpa using hlane⟩)
    rw [List.getLast?_append_of_ne_nil _ hsome, List.getLast?_append_of_ne_nil _ hsome]

end LosesOld

/-! ## What a move does for one receiver -/

variable {k : Lane} {r : Nat} {s t : Server Memory} {past ahead xs : List LaneSnapshot}

/-- Whoever watches a lane gets a stream. -/
lemma move_watch (h : s.service.Open) (lane : Lane) :
    s.move (.watch lane) = { s with
      service := { s.service with feed := s.service.feed.subscribe }
      streams := s.streams ++ [⟨lane, some s.service.feed.receivers.length,
        [⟨lane, s.service.store.lanes lane⟩], s.service.now, false⟩] } := by
  have hserving : { s.service with feed := s.service.feed.subscribe }.store.Serving := h.serving
  simp only [move, watch_eq, join, enter, withService, Service.atDesk_bookings hserving]

/-- A receiver has come to a place among all that was shown. -/
structure Attends (r : Nat) (past ahead : List LaneSnapshot) (s : Server Memory) : Prop where
  isOpen : s.service.Open
  shown : s.service.shown = past ++ ahead
  awaits : s.service.feed.Awaits r ahead

/-- A move shows some snapshots, and is none of the receiver's. -/
structure Passes (k : Lane) (r : Nat) (past ahead xs : List LaneSnapshot) (s t : Server Memory) :
    Prop where
  attends : t.Attends r past (ahead ++ xs)
  kept : t.service.feed.kept.length ≤ s.service.feed.kept.length + xs.length
  upToDate : ∀ before, UpToDate k before s.service ∨ xs.filter (·.lane == k) ≠ [] →
    UpToDate k (before ++ xs) t.service
  streams : ∀ (j : Nat) (stream : Stream), stream.receiver = some r →
    (t.streams[j]? = some stream ↔ s.streams[j]? = some stream)

namespace Attends

variable (h : s.Attends r past ahead)
include h

/-- The service goes on. -/
lemma beat {x : Service.Beat Memory} (hx : x.Sound k) :
    ∃ xs, Passes k r past ahead xs s (s.move (.beat x)) := by
  obtain ⟨xs, hshows⟩ := Service.shows_beat h.isOpen hx
  refine ⟨xs, ⟨hshows.isOpen, ?_, ?_⟩, ?_, hshows.upToDate, fun _ _ _ => Iff.rfl⟩
  · exact hshows.shown.trans (by rw [h.shown, List.append_assoc])
  · exact (congrArg (·.Awaits r (ahead ++ xs)) hshows.feed).mpr (h.awaits.sendAll xs)
  · exact (congrArg (·.kept.length) hshows.feed).le.trans (Feed.length_kept_sendAll xs _)

/-- Nothing is shown, and neither the lanes nor the tasks change. -/
lemma passes_nil {feed : Feed} (hfeed : feed.Awaits r ahead)
    (hkept : feed.kept = s.service.feed.kept) {streams : List Stream}
    (hstreams : ∀ (j : Nat) (stream : Stream), stream.receiver = some r →
      (streams[j]? = some stream ↔ s.streams[j]? = some stream)) :
    Passes k r past ahead [] s
      { s with service := { s.service with feed }, streams } where
  attends := ⟨⟨h.isOpen.serving, h.isOpen.willing⟩, by rw [List.append_nil]; exact h.shown,
    by rw [List.append_nil]; exact hfeed⟩
  kept := (congrArg List.length hkept).le
  upToDate before hbefore := by
    rw [List.append_nil]
    exact hbefore.resolve_right fun hnone => hnone rfl
  streams := hstreams

/-- Somebody else watches a lane. -/
lemma watch (lane : Lane) : Passes k r past ahead [] s (s.move (.watch lane)) := by
  rw [move_watch h.isOpen]
  refine h.passes_nil h.awaits.subscribe rfl fun j stream hstream => ?_
  rcases Nat.lt_or_ge j s.streams.length with hj | hj
  · rw [List.getElem?_append_left hj]
  · rw [List.getElem?_append_right hj, List.getElem?_eq_none hj]
    -- The new stream has another receiver.
    refine iff_of_false (fun hnew => ?_) (by simp)
    obtain rfl := List.mem_singleton.1 (List.mem_of_getElem? hnew)
    exact Nat.ne_of_gt h.awaits.lt_length (Option.some.inj hstream)

/-- Another stream asks for one thing. -/
lemma read_other {j : Nat} (hother : ∀ stream, s.streams[j]? = some stream →
    stream.receiver ≠ some r) : Passes k r past ahead [] s (s.move (.read j)) := by
  have hmove : s.move (.read j) = (s.read j).2 := rfl
  rw [hmove]
  cases hj : s.streams[j]? with
  | none =>
    rw [read_of_none hj]
    exact h.passes_nil h.awaits rfl fun _ _ _ => Iff.rfl
  | some stream =>
    rw [read_of_some hj]
    have hne := hother stream hj
    obtain ⟨receivers, -, hwrites⟩ := stream.read_writes s.service.feed
    refine h.passes_nil (Stream.awaits_read h.awaits hne) (by rw [hwrites])
      fun j' stream' hstream' => ?_
    by_cases hj' : j' = j
    · subst hj'
      rw [List.getElem?_set_self (List.getElem?_eq_some_iff.1 hj).1, hj]
      refine iff_of_false ?_ ?_
      · rintro ⟨⟩
        exact hne ((Stream.receiver_read stream s.service.feed).symm.trans hstream')
      · rintro ⟨⟩
        exact hne hstream'
    · rw [List.getElem?_set_ne (Ne.symm hj')]

/-- What a move does that is none of the receiver's. -/
lemma move {m : Move} (hm : m.Sound k) (hother : ∀ j stream, m = .read j →
    s.streams[j]? = some stream → stream.receiver ≠ some r) :
    ∃ xs, Passes k r past ahead xs s (s.move m) := by
  cases m with
  | beat x => exact h.beat hm
  | watch lane => exact ⟨[], h.watch lane⟩
  | read j => exact ⟨[], h.read_other fun stream => hother j stream rfl⟩

end Attends

/-! ## Before and after a stream begins -/

/-- Each stream that is a receiver is one that the feed knows. -/
structure Known (s : Server Memory) : Prop where
  isOpen : s.service.Open
  room : 0 < s.service.feed.room
  known : ∀ stream ∈ s.streams, ∀ r, stream.receiver = some r →
    r < s.service.feed.receivers.length

namespace Known

/-- It goes on to be known whatever becomes of the feed. -/
lemma grow (h : s.Known) (hopen : t.service.Open) (hfeed : s.service.feed.Grows t.service.feed)
    (hstreams : ∀ stream ∈ t.streams, ∀ r, stream.receiver = some r →
      r < t.service.feed.receivers.length ∨
        ∃ other ∈ s.streams, other.receiver = some r) : t.Known where
  isOpen := hopen
  room := hfeed.room ▸ h.room
  known stream hstream r hr := by
    obtain hlt | ⟨other, hother, hr'⟩ := hstreams stream hstream r hr
    · exact hlt
    · exact Nat.lt_of_lt_of_le (h.known other hother r hr') hfeed.receivers

/-- A move goes from known streams to known streams. -/
lemma move (h : s.Known) {m : Move} (hm : m.Sound k) : (s.move m).Known := by
  cases m with
  | beat x =>
    obtain ⟨xs, hshows⟩ := Service.shows_beat h.isOpen hm
    have hgrows : s.service.feed.Grows (s.service.beat x).feed := by
      rw [hshows.feed]
      exact .sendAll xs _
    exact h.grow hshows.isOpen hgrows fun stream hstream r hr => .inr ⟨stream, hstream, hr⟩
  | watch lane =>
    rw [move_watch h.isOpen]
    refine h.grow ⟨h.isOpen.serving, h.isOpen.willing⟩ (.subscribe _)
      fun stream hstream r hr => ?_
    obtain hold | hnew := List.mem_append.1 hstream
    · exact .inr ⟨stream, hold, hr⟩
    · obtain rfl := List.mem_singleton.1 hnew
      cases hr
      exact .inl (by simp [Feed.subscribe])
  | read number =>
    have hmove : s.move (.read number) = (s.read number).2 := rfl
    rw [hmove]
    cases hnumber : s.streams[number]? with
    | none => rwa [read_of_none hnumber]
    | some stream =>
      rw [read_of_some hnumber]
      obtain ⟨receivers, hlength, hwrites⟩ := stream.read_writes s.service.feed
      have hgrows : s.service.feed.Grows (stream.read s.service.feed).2.2 := by
        rw [hwrites]
        exact ⟨rfl, hlength.ge⟩
      refine h.grow ⟨h.isOpen.serving, h.isOpen.willing⟩ hgrows fun other hother r hr => .inr ?_
      obtain hold | rfl := List.mem_or_eq_of_mem_set hother
      · exact ⟨other, hold, hr⟩
      · exact ⟨stream, List.mem_of_getElem? hnumber, (stream.receiver_read _).symm.trans hr⟩

/-- A run goes from known streams to known streams. -/
lemma run (h : s.Known) {moves : List Move} (hmoves : ∀ m ∈ moves, m.Sound k) :
    (s.run moves).Known :=
  List.foldlRecOn moves _ (motive := Known) h fun _ hs m hm => hs.move (hmoves m hm)

/-- At first there is no stream. -/
lemma start (rules : Rules) {m : Memory} (hm : m.Serving) (registry : Registry) (room : Nat)
    (clients : Clients) (hclients : ∀ n, clients.watch n = none) (secret : List UInt8) :
    Known ⟨{ Service.start rules m registry room with clients }, secret, []⟩ where
  isOpen := ⟨hm, hclients⟩
  room := Feed.room_new room
  known stream hstream := by cases hstream

end Known

/-- A receiver has joined the feed, and no stream has it yet. What was shown since is up to date. -/
structure Joined (k : Lane) (r : Nat) (base since : List LaneSnapshot) (s : Server Memory) :
    Prop where
  attends : s.Attends r base since
  apart : ∀ (j : Nat) (stream : Stream), s.streams[j]? = some stream → stream.receiver ≠ some r
  upToDate : since.filter (·.lane == k) ≠ [] → UpToDate k since s.service

/-- Whoever joins the feed has nothing ahead, and no stream has the same number. -/
lemma Known.join (h : s.Known) :
    Joined k s.service.feed.receivers.length s.service.shown [] s.join where
  attends := ⟨⟨h.isOpen.serving, h.isOpen.willing⟩, (List.append_nil _).symm,
    Feed.awaits_subscribe h.room⟩
  apart _ stream hstream hr :=
    absurd (h.known stream (List.mem_of_getElem? hstream) _ hr) (Nat.lt_irrefl _)
  upToDate hsome := absurd rfl hsome

/-- Whatever happens while somebody has joined but not entered yet. -/
lemma Joined.run {base since : List LaneSnapshot} (h : Joined k r base since s)
    {moves : List Move} (hmoves : ∀ m ∈ moves, m.Sound k) :
    ∃ since', Joined k r base since' (s.run moves) := by
  induction moves generalizing s since with
  | nil => exact ⟨since, h⟩
  | cons m moves ih =>
    obtain ⟨hm, hmoves⟩ := List.forall_mem_cons.1 hmoves
    obtain ⟨xs, hpasses⟩ := h.attends.move hm fun j stream _ => h.apart j stream
    refine ih ⟨hpasses.attends, fun j stream hstream hr => ?_, fun hsome => ?_⟩ hmoves
    · exact h.apart j stream ((hpasses.streams j stream hr).1 hstream) hr
    · refine hpasses.upToDate since ?_
      -- What was shown before counts only if the lane is in it; else it is the move that shows it.
      by_cases hxs : xs.filter (·.lane == k) = []
      · rw [List.filter_append, hxs, List.append_nil] at hsome
        exact .inl (h.upToDate hsome)
      · exact .inr hxs

/-- A stream has begun with a snapshot of its lane, has met some more, and has others ahead of
it. -/
structure Tracks (k : Lane) (number r : Nat) (base : List LaneSnapshot) (first : LaneSnapshot)
    (seen : List Sight) (stream : Stream) (dealt ahead : List LaneSnapshot) (s : Server Memory) :
    Prop where
  attends : s.Attends r (base ++ dealt) ahead
  present : s.streams[number]? = some stream
  receiver : stream.receiver = some r
  apart : ∀ (j : Nat) (other : Stream), s.streams[j]? = some other → other.receiver = some r →
    j = number
  met : seen.flatMap Sight.snapshots ++ stream.waiting = first :: dealt
  losesOld : LosesOld seen s.service.feed.kept.length (1 + dealt.length + ahead.length)
  upToDate : UpToDate k (first :: (dealt ++ ahead)) s.service

/-- Who has joined enters. The stream begins with the lane as it is. -/
lemma Joined.enter {base since : List LaneSnapshot} (h : Joined k r base since s) :
    ∃ stream, Tracks k s.streams.length r base ⟨k, s.service.store.lanes k⟩ [] stream [] since
      (s.enter k r).2 := by
  have henter : (s.enter k r).2 = { s with
      streams := s.streams ++
        [⟨k, some r, [⟨k, s.service.store.lanes k⟩], s.service.now, false⟩] } := by
    simp only [Server.enter, Service.atDesk_bookings h.attends.isOpen.serving]
  rw [henter]
  refine ⟨_, ⟨⟨h.attends.isOpen.serving, h.attends.isOpen.willing⟩, ?_, h.attends.awaits⟩,
    List.getElem?_concat_length, rfl, fun j other hother hr => ?_, rfl, .nil _ _, ?_⟩
  · rw [List.append_nil]
    exact h.attends.shown
  · rcases Nat.lt_trichotomy j s.streams.length with hj | hj | hj
    · rw [List.getElem?_append_left hj] at hother
      exact absurd hr (h.apart j other hother)
    · exact hj
    · rw [List.getElem?_eq_none (by simp; omega)] at hother
      cases hother
  · rw [List.nil_append]
    -- The lane comes first as it is now, and then whatever was shown of it in between.
    by_cases hsince : since.filter (·.lane == k) = []
    · exact .inl (by simp [hsince])
    · refine (h.upToDate hsince).imp_left fun hlast => ?_
      rw [List.filter_cons_of_pos (by simp), List.getLast?_cons, hlast]
      rfl

namespace Tracks

variable {number : Nat} {base dealt : List LaneSnapshot} {first : LaneSnapshot} {seen : List Sight}
  {stream : Stream} (h : Tracks k number r base first seen stream dealt ahead s)
include h

/-- The stream takes something from what is ahead of it. -/
lemma advance {stream' : Stream} {feed : Feed} {more : List Sight}
    {dealt' ahead' : List LaneSnapshot}
    (hreceiver : stream'.receiver = some r) (hfeed : feed.Awaits r ahead')
    (hall : dealt' ++ ahead' = dealt ++ ahead)
    (hmet : (seen ++ more).flatMap Sight.snapshots ++ stream'.waiting = first :: dealt')
    (hloses : LosesOld (seen ++ more) feed.kept.length (1 + dealt'.length + ahead'.length)) :
    Tracks k number r base first (seen ++ more) stream' dealt' ahead'
      { s with
        service := { s.service with feed }
        streams := s.streams.set number stream' } where
  attends := ⟨⟨h.attends.isOpen.serving, h.attends.isOpen.willing⟩, by
    rw [List.append_assoc, hall, ← List.append_assoc]; exact h.attends.shown, hfeed⟩
  present := List.getElem?_set_self (List.getElem?_eq_some_iff.1 h.present).1
  receiver := hreceiver
  apart j other hother hr := by
    by_cases hj : number = j
    · exact hj.symm
    · rw [List.getElem?_set_ne hj] at hother
      exact h.apart j other hother hr
  met := hmet
  losesOld := hloses
  upToDate := hall.symm ▸ h.upToDate

/-- What was lost went just before what is kept. -/
lemma lately_eq {lost : List LaneSnapshot} (hahead : ahead = lost ++ s.service.feed.kept) :
    s.lately lost.length = lost := by
  rw [lately, h.attends.shown, hahead, ← List.append_assoc, List.rdrop_append_length,
    List.rtake_eq_reverse_take_reverse, List.reverse_append, List.take_left' (by simp),
    List.reverse_reverse]

/-- The stream asks for one thing. -/
lemma read : ∃ stream' dealt' ahead', Tracks k number r base first (seen ++ s.sight number) stream'
    dealt' ahead' (s.move (.read number)) := by
  have hmove : s.move (.read number) = (s.read number).2 := rfl
  rw [hmove, sight, read_of_some h.present]
  have hmet := h.met
  cases hwaiting : stream.waiting with
  | cons x rest =>
    rw [Stream.read_of_waiting hwaiting]
    rw [hwaiting] at hmet
    exact ⟨_, _, _, h.advance h.receiver h.attends.awaits rfl
      (by simpa [Sight.snapshots] using hmet) (h.losesOld.get_more rfl)⟩
  | nil =>
    rw [hwaiting, List.append_nil] at hmet
    have hread := Stream.read_of_empty hwaiting h.receiver s.service.feed
    have hreceives := h.attends.awaits.receive
    generalize hahead : ahead = ahead₀ at hreceives
    generalize s.service.feed.receive r = received at hread hreceives
    cases hreceives with
    | nothing =>
      rw [hread]
      exact ⟨_, _, _, h.advance h.receiver h.attends.awaits rfl (by simp [hwaiting, hmet])
        (h.losesOld.get_more rfl)⟩
    | @snapshot x rest g hkept hg =>
      rw [hread]
      refine ⟨_, dealt ++ [x], rest, h.advance h.receiver hg (by simp [hahead])
        (by simp [hwaiting, hmet, Sight.snapshots]) ?_⟩
      have htotal : 1 + (dealt ++ [x]).length + rest.length = 1 + dealt.length + ahead.length := by
        rw [hahead, List.length_append, List.length_singleton, List.length_cons]
        omega
      rw [hkept, htotal]
      exact h.losesOld.get_more rfl
    | @lagged lost g hlost hkept hg =>
      rw [hread]
      dsimp only
      rw [h.lately_eq hahead]
      have hmet' : (seen ++ [Sight.lost lost]).flatMap Sight.snapshots =
          first :: (dealt ++ lost) := by
        simp [hmet, Sight.snapshots]
      refine ⟨_, dealt ++ lost, _, h.advance h.receiver hg (by simp [hahead])
        (by rw [hmet', hwaiting, List.append_nil]) (.lose_more ?_)⟩
      rw [hmet', hkept, List.length_cons]
      omega

/-- A move of which the stream has no part. -/
lemma pass {m : Move} (hm : m.Sound k) (hother : ∀ j, m = .read j → j ≠ number) :
    ∃ ahead', Tracks k number r base first seen stream dealt ahead' (s.move m) := by
  obtain ⟨xs, hpasses⟩ := h.attends.move hm fun j other hj hstream hr =>
    hother j hj (h.apart j other hstream hr)
  refine ⟨ahead ++ xs, hpasses.attends, (hpasses.streams number stream h.receiver).2 h.present,
    h.receiver, fun j other hstream hr => ?_, h.met, ?_, ?_⟩
  · exact h.apart j other ((hpasses.streams j other hr).1 hstream) hr
  · rw [List.length_append, ← Nat.add_assoc]
    exact h.losesOld.show_more hpasses.kept
  · have hlast := hpasses.upToDate _ (.inl h.upToDate)
    rwa [List.cons_append, List.append_assoc] at hlast

/-- Whatever happens, the stream has met all that was shown since it joined and is not still ahead
of it. -/
lemma run {moves : List Move} (hmoves : ∀ m ∈ moves, m.Sound k) :
    ∃ stream' dealt' ahead', Tracks k number r base first (seen ++ sights number moves s) stream'
      dealt' ahead' (s.run moves) := by
  induction moves generalizing s seen stream dealt ahead with
  | nil => exact ⟨stream, dealt, ahead, by rw [sights, List.append_nil]; exact h⟩
  | cons m moves ih =>
    obtain ⟨hm, hrest⟩ := List.forall_mem_cons.1 hmoves
    rw [sights, ← List.append_assoc]
    by_cases hown : m = .read number
    · subst hown
      obtain ⟨stream', dealt', ahead', h'⟩ := h.read
      have hsights : Move.sights number s (.read number) = s.sight number := if_pos rfl
      rw [hsights]
      exact ih h' hrest
    · have hother : ∀ j, m = .read j → j ≠ number := fun j hj hn => hown (hn ▸ hj)
      obtain ⟨ahead', h'⟩ := h.pass hm hother
      have hsights : m.sights number s = [] := by
        cases m with
        | read j => exact if_neg (hother j rfl)
        | beat | watch => rfl
      rw [hsights, List.append_nil]
      exact ih h' hrest

/-- A stream that gets nothing has met all that was shown since it joined. -/
lemma caught_up (hnothing : (s.read number).1 = .nothing) :
    seen.flatMap Sight.snapshots = first :: dealt ∧ ahead = [] := by
  rw [read_of_some h.present] at hnothing
  cases hwaiting : stream.waiting with
  | cons x rest =>
    rw [Stream.read_of_waiting hwaiting] at hnothing
    cases hnothing
  | nil =>
    refine ⟨by simpa [hwaiting] using h.met, ?_⟩
    have hreceives := h.attends.awaits.receive
    rw [Stream.read_of_empty hwaiting h.receiver] at hnothing
    generalize s.service.feed.receive r = received at hnothing hreceives
    cases hreceives with
    | nothing => rfl
    | snapshot | lagged => cases hnothing

end Tracks

/-! ## Visits -/

/-- A run in which a stream begins: what happens before somebody joins the feed, what happens until
the lane is read, and what happens afterwards. -/
structure Visit where
  lane : Lane
  before : List Move
  during : List Move
  after : List Move

namespace Visit

variable (v : Visit) (s : Server Memory)

/-- No move of the run makes the store confuse the lane with another one. -/
def Sound : Prop :=
  ∀ m ∈ v.before ++ v.during ++ v.after, m.Sound v.lane

/-- A run that is about no repository with a colon is such a run. -/
lemma sound_of_isPlain {v : Visit} (hlane : v.lane.repo.Colonless)
    (h : (v.before ++ v.during ++ v.after).all Move.isPlain = true) : v.Sound :=
  fun m hm => Move.sound_of_isPlain hlane (List.all_eq_true.1 h m hm)

/-- The server when somebody has joined the feed. -/
def joined : Server Memory := (s.run v.before).join

/-- The server before the lane is read. -/
def waiting : Server Memory := (v.joined s).run v.during

/-- The server when the stream begins. -/
def entered : Server Memory :=
  ((v.waiting s).enter v.lane (s.run v.before).service.feed.receivers.length).2

/-- The number of the stream. -/
def number : Nat := (v.waiting s).streams.length

/-- The server at the end. -/
def finish : Server Memory := (v.entered s).run v.after

/-- What the stream meets. -/
def seen : List Sight := sights (v.number s) v.after (v.entered s)

/-- At the end all tasks have run, and the stream has got all there is. -/
structure AtRest : Prop where
  tasks : (v.finish s).service.tasks = []
  nothing : ((v.finish s).read (v.number s)).1 = .nothing

/-- The last snapshot that the stream got is one of its lane, and shows what is booked there. -/
def EndsCurrent : Prop :=
  ∃ bs, (Desk.bookings v.lane (v.finish s).service.store).answer = .ok bs ∧
    (received v.lane (v.seen s)).getLast? = some ⟨v.lane, bs⟩

/-- The last snapshot of the lane that went past the stream was not lost, or was like the last one
that the stream got. -/
def KeepsNewest : Prop :=
  (received v.lane (v.seen s)).getLast? = (passed v.lane (v.seen s)).getLast?

/-- One of the snapshots that the feed keeps, which are the last ones that were shown, is of the
lane. -/
def FeedKeepsOne : Prop :=
  ∃ x ∈ (v.finish s).service.shown.rtake (v.finish s).service.feed.kept.length, x.lane = v.lane

variable {v s}

/-- At the end the stream has met all that was shown since it joined and is not still ahead of
it. -/
lemma tracks (h : s.Known) (hv : v.Sound) :
    ∃ first stream dealt ahead, Tracks v.lane (v.number s)
      (s.run v.before).service.feed.receivers.length (v.joined s).service.shown first (v.seen s)
      stream dealt ahead (v.finish s) := by
  have hbefore : ∀ m ∈ v.before, m.Sound v.lane := fun m hm => hv m (by simp [hm])
  have hduring : ∀ m ∈ v.during, m.Sound v.lane := fun m hm => hv m (by simp [hm])
  have hafter : ∀ m ∈ v.after, m.Sound v.lane := fun m hm => hv m (by simp [hm])
  obtain ⟨since, hjoined⟩ := (h.run hbefore).join.run hduring
  obtain ⟨stream, hentered⟩ := hjoined.enter
  obtain ⟨stream', dealt, ahead, htracks⟩ := hentered.run hafter
  exact ⟨_, stream', dealt, ahead, htracks⟩

/-- At rest nothing is ahead of the stream, and the last snapshot of its lane that went past it shows
the lane as it is. -/
lemma passed_current (h : s.Known) (hv : v.Sound) (hrest : v.AtRest s) :
    (v.finish s).service.shown =
        (v.joined s).service.shown ++ ((v.seen s).flatMap Sight.snapshots).tail ∧
      (∃ bs, (Desk.bookings v.lane (v.finish s).service.store).answer = .ok bs ∧
        (passed v.lane (v.seen s)).getLast? = some ⟨v.lane, bs⟩) ∧
      (v.FeedKeepsOne s → v.KeepsNewest s) := by
  obtain ⟨first, stream, dealt, ahead, htracks⟩ := tracks h hv
  obtain ⟨hmet, rfl⟩ := htracks.caught_up hrest.nothing
  have hshown := htracks.attends.shown
  rw [List.append_nil] at hshown
  refine ⟨by rw [hshown, hmet, List.tail_cons], ⟨(v.finish s).service.store.lanes v.lane, ?_, ?_⟩,
    fun hkept => ?_⟩
  · exact congrArg Prod.fst (Service.atDesk_bookings htracks.attends.isOpen.serving v.lane)
  · obtain hlast | ⟨e, -, he⟩ := htracks.upToDate
    · rwa [passed, hmet, ← List.append_nil dealt]
    · rw [hrest.tasks] at he
      cases he
  · rw [FeedKeepsOne, hshown] at hkept
    exact htracks.losesOld.getLast?_eq hmet hkept

end Visit

/-- A stream that loses only what is of other lanes loses nothing that it would send. -/
lemma received_eq_passed {seen : List Sight}
    (h : ∀ xs, .lost xs ∈ seen → ∀ x ∈ xs, x.lane ≠ k) : received k seen = passed k seen := by
  induction seen with
  | nil => rfl
  | cons sight seen ih =>
    have hrest := ih fun xs hxs => h xs (List.mem_cons_of_mem _ hxs)
    simp only [received, passed, List.flatMap_cons, List.filter_append] at hrest ⊢
    rw [hrest]
    cases sight with
    | got x => rfl
    | lost xs =>
      have hnone : xs.filter (·.lane == k) = [] :=
        List.filter_eq_nil_iff.2 fun x hx => by simpa using h xs List.mem_cons_self x hx
      simp [Sight.gotten, Sight.snapshots, hnone]

/-- A stream ends on what is booked, exactly if the newest snapshot of its lane was not lost on it.
Whatever is called while the stream is there, however many other streams there are, in whatever
order the tasks run and whenever the client is ready for more: when all tasks have run and the
stream has got all there is, everything that was shown since it joined has gone past it, got or
lost, and the last of its lane shows the lane as it is. It is not lost if one of the snapshots that
the feed still keeps is of the lane.

**Proof sketch.** Two things are kept by every move. What has gone past the stream and what is ahead
of it are together what was shown since it joined; and the last of these that is of the lane shows
the lane as it is, or a task is there that will show it. At the end there is no task and nothing
ahead. -/
theorem ends_current_iff (rules : Rules) {m : Memory} (hm : m.Serving) (registry : Registry)
    (room : Nat) {clients : Clients} (hclients : ∀ n, clients.watch n = none) (secret : List UInt8)
    {v : Visit} (hv : v.Sound)
    (hrest : v.AtRest ⟨{ Service.start rules m registry room with clients }, secret, []⟩) :
    let s : Server Memory := ⟨{ Service.start rules m registry room with clients }, secret, []⟩
    (v.finish s).service.shown =
        (v.joined s).service.shown ++ ((v.seen s).flatMap Sight.snapshots).tail ∧
      (v.EndsCurrent s ↔ v.KeepsNewest s) ∧ (v.FeedKeepsOne s → v.EndsCurrent s) := by
  intro s
  obtain ⟨hall, ⟨bs, hbs, hlast⟩, hkept⟩ := Visit.passed_current
    (Known.start rules hm registry room clients hclients secret) hv hrest
  have hcurrent : v.EndsCurrent s ↔ v.KeepsNewest s := by
    rw [Visit.KeepsNewest, hlast]
    constructor
    · rintro ⟨bs', hbs', hreceived⟩
      cases hbs.symm.trans hbs'
      exact hreceived
    · exact fun hreceived => ⟨bs, hbs, hreceived⟩
  exact ⟨hall, hcurrent, fun h => hcurrent.2 (hkept h)⟩

/-- A call, and the four tasks that come of a booking. -/
def promptly (c : Service.Call) : List Move :=
  .beat (.call c) :: List.replicate 4 (.beat (.task 0))

/-- Another lane of the same repository. -/
def sideLane : Lane := { Desk.mainLane with branch := "dev" }

/-- A server whose feed has room for one snapshot. -/
def narrowServer : Server Memory :=
  ⟨{ Service.start ⟨"merge-turn", 500⟩ Memory.volatile Registry.volatile 1 with
      clients := .willing }, [], []⟩

/-- Two streams, and a booking in another lane before the second of them begins. It is pushed out by
a booking in the stream's own lane. -/
def luckyVisit : Visit where
  lane := Desk.mainLane
  before := [.watch sideLane]
  during := promptly (.book sideLane (Desk.sampleBooking 5 "hubot"))
  after := promptly (.book Desk.mainLane (Desk.sampleBooking 7 "mona")) ++
    [.read 1, .read 1, .read 1]

/-- That stream loses the snapshot of the other lane, and ends on what is booked. -/
theorem ends_current_lucky : luckyVisit.Sound ∧ luckyVisit.AtRest narrowServer ∧
    Sight.lost [⟨sideLane, [Desk.sampleBooking 5 "hubot"]⟩] ∈ luckyVisit.seen narrowServer ∧
    luckyVisit.EndsCurrent narrowServer := by
  have hsound : luckyVisit.Sound := Visit.sound_of_isPlain (by decide) (by decide)
  have hrest : luckyVisit.AtRest narrowServer := ⟨by decide +kernel, by decide +kernel⟩
  have hseen : luckyVisit.seen narrowServer =
      [.got ⟨Desk.mainLane, []⟩, .lost [⟨sideLane, [Desk.sampleBooking 5 "hubot"]⟩],
        .got ⟨Desk.mainLane, [Desk.sampleBooking 7 "mona"]⟩] := by
    decide +kernel
  have hserving : Memory.volatile.Serving := ⟨rfl, Memory.writable_of_backing_none rfl⟩
  refine ⟨hsound, hrest, by simp [hseen], ?_⟩
  refine (ends_current_iff _ hserving _ _ (fun _ => rfl) _ hsound hrest).2.1.2 ?_
  refine congrArg List.getLast? (received_eq_passed fun xs hxs => ?_)
  replace hxs : Sight.lost xs ∈ luckyVisit.seen narrowServer := hxs
  have hlost : xs = [⟨sideLane, [Desk.sampleBooking 5 "hubot"]⟩] := by simpa [hseen] using hxs
  rw [hlost]
  decide

/-- The stream sends its lane as it is at first. Then there is a booking in the lane, and another
one in another lane, before the stream asks again. -/
def overrunVisit : Visit where
  lane := Desk.mainLane
  before := []
  during := []
  after := [.read 0] ++ promptly (.book Desk.mainLane (Desk.sampleBooking 7 "mona")) ++
    promptly (.book sideLane (Desk.sampleBooking 5 "hubot")) ++ [.read 0, .read 0]

/-- A booking in a lane that the store confuses with the one of the stream. -/
def confusedVisit : Visit where
  lane := Desk.colonNameLane
  before := []
  during := []
  after := [.read 0] ++ promptly (.book Desk.colonOwnerLane (Desk.sampleBooking 7 "mona")) ++
    [.read 0]

/-- The snapshot with the booking is lost, and nothing else of the lane follows: the stream ends on
the empty lane. Nor does a stream end on what is booked, even if nothing is lost on it, when there
is a booking in a lane that the store confuses with its own. -/
theorem not_ends_current_overrun :
    (overrunVisit.Sound ∧ overrunVisit.AtRest narrowServer ∧
      ¬ overrunVisit.EndsCurrent narrowServer) ∧
    confusedVisit.AtRest narrowServer ∧ confusedVisit.KeepsNewest narrowServer ∧
      ¬ confusedVisit.EndsCurrent narrowServer := by
  have hbooked : (Desk.bookings Desk.mainLane
      (overrunVisit.finish narrowServer).service.store).answer =
      .ok [Desk.sampleBooking 7 "mona"] := by decide +kernel
  have hlast : (received Desk.mainLane (overrunVisit.seen narrowServer)).getLast? =
      some ⟨Desk.mainLane, []⟩ := by decide +kernel
  have hbooked' : (Desk.bookings Desk.colonNameLane
      (confusedVisit.finish narrowServer).service.store).answer =
      .ok [Desk.sampleBooking 7 "mona"] := by decide +kernel
  have hseen' : confusedVisit.seen narrowServer = [.got ⟨Desk.colonNameLane, []⟩,
      .got ⟨Desk.colonOwnerLane, [Desk.sampleBooking 7 "mona"]⟩] := by
    decide +kernel
  refine ⟨⟨Visit.sound_of_isPlain (by decide) (by decide), ⟨by decide +kernel, by decide +kernel⟩,
    ?_⟩, ⟨by decide +kernel, by decide +kernel⟩, ?_, ?_⟩
  · rintro ⟨bs, hbs, hreceived⟩
    cases hbooked.symm.trans hbs
    cases hlast.symm.trans hreceived
  · rw [Visit.KeepsNewest, hseen']
    decide
  · rintro ⟨bs, hbs, hreceived⟩
    cases hbooked'.symm.trans hbs
    rw [hseen'] at hreceived
    exact absurd hreceived (by decide)

end MergeTurn.Http.Server
