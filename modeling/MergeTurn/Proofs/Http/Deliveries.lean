import MergeTurn.Http.Server
import MergeTurn.Proofs.Desk.Replay

set_option autoImplicit false

/-!
# Deliveries of webhooks

Anybody can send a webhook. One that does not show that its sender knows the secret is refused before
anything else about it is looked at, so it changes nothing, and its sender learns nothing. One that
is signed but of no use changes nothing either.

## Main definitions

* `MergeTurn.Http.Request.field?` — the bytes of a header, text or not.
* `MergeTurn.Webhook.Unsigned` — why a request is not signed with a secret.
* `MergeTurn.Webhook.ReceiveEnds` — everything that a webhook can come to.
* `MergeTurn.Http.Request.Delivers` — a request delivers a webhook.

## Main results

* `MergeTurn.Http.Server.refused_unsigned_unchanged` — exactly what is not signed is refused as such;
  a refusal leaves everything as it was, and tells nothing about it.
-/

namespace MergeTurn

/-! ## Signed requests -/

namespace Http

/-- The bytes of a header, whether or not they are text. Of headers with one name the first
counts. -/
def Request.field? (name : String) (r : Request) : Option (List UInt8) :=
  (r.headers.find? fun h => caseless h.1 == caseless name).map (·.2)

/-- A header is text if it is there and all of it is visible. -/
lemma Request.header?_eq_none_iff {name : String} {r : Request} :
    r.header? name = none ↔
      r.field? name = none ∨ ∃ bytes, r.field? name = some bytes ∧ bytes.all isVisible = false := by
  unfold Request.header? Request.field?
  cases hfind : r.headers.find? fun h => caseless h.1 == caseless name with
  | none => simp
  | some h =>
    simp only [Option.map_some, reduceCtorEq, Option.some.injEq, exists_eq_left', false_or]
    cases h.2.all isVisible <;> simp

end Http

namespace Webhook

open Http (Request isVisible)

/-- Why a request is not signed with a secret. -/
inductive Unsigned (secret : List UInt8) (r : Request) : Prop where
  /-- It has no header with a signature. -/
  | missing (hmissing : r.field? signatureHeader = none)
  /-- What should be the signature is not text. -/
  | unreadable {bytes : List UInt8} (hfield : r.field? signatureHeader = some bytes)
      (hbytes : bytes.all isVisible = false)
  /-- The signature is not the one of the body. -/
  | rejected {header : String} {cause : SignatureError}
      (hheader : r.header? signatureHeader = some header)
      (hverify : verify r.body header secret = .error cause)

/-- The errors that say that a webhook is not signed. -/
def ReceiveError.IsUnsigned (e : ReceiveError) : Prop :=
  e = .missingHeader signatureHeader ∨ ∃ cause, e = .signature cause

/-- The response to a webhook says that it is not signed, exactly if the error does. -/
lemma ReceiveError.status_eq_iff (e : ReceiveError) : e.status = 401 ↔ e.IsUnsigned := by
  cases e with
  | missingHeader name =>
    by_cases hname : name = signatureHeader <;> simp [status, IsUnsigned, hname]
  | signature cause => simp [status, IsUnsigned]
  | payload cause => simp [status, IsUnsigned]
  | desk cause => by_cases hcause : cause.isUnavailable <;> simp [status, IsUnsigned, hcause]

/-- Trouble with the desk is the service's own, and no fault of the webhook. -/
lemma ReceiveError.status_desk (e : DeskError) : 500 ≤ (ReceiveError.desk e).status := by
  by_cases he : e.isUnavailable <;> simp [status, he]

/-- A request whose signature is text is unsigned only if the signature is rejected. -/
lemma unsigned_iff_rejected {secret : List UInt8} {r : Request} {header : String}
    (hheader : r.header? signatureHeader = some header) :
    Unsigned secret r ↔ ∃ cause, verify r.body header secret = .error cause := by
  have hread : r.header? signatureHeader ≠ none := by simp [hheader]
  constructor
  · rintro (hmissing | ⟨hfield, hbytes⟩ | ⟨hheader', hverify⟩)
    · exact absurd (Request.header?_eq_none_iff.2 (.inl hmissing)) hread
    · exact absurd (Request.header?_eq_none_iff.2 (.inr ⟨_, hfield, hbytes⟩)) hread
    · cases hheader.symm.trans hheader'
      exact ⟨_, hverify⟩
  · rintro ⟨cause, hverify⟩
    exact .rejected hheader hverify

/-- A request passes for signed exactly if nothing is wrong with its signature. What its other headers
say, its kind among them, plays no part. -/
lemma unsigned_iff_authenticate {secret : List UInt8} {r : Request} (kind : Option String) :
    Unsigned secret r ↔ ∃ e, e.IsUnsigned ∧
      authenticate secret (r.header? signatureHeader) kind r.body = .error e := by
  cases hheader : r.header? signatureHeader with
  | none =>
    refine ⟨fun _ => ⟨_, .inl rfl, rfl⟩, fun _ => ?_⟩
    obtain hmissing | ⟨bytes, hfield, hbytes⟩ := Request.header?_eq_none_iff.1 hheader
    · exact .missing hmissing
    · exact .unreadable hfield hbytes
  | some header =>
    rw [unsigned_iff_rejected hheader]
    cases hverify : verify r.body header secret with
    | error cause =>
      exact ⟨fun _ => ⟨_, .inr ⟨cause, rfl⟩, by simp [authenticate, hverify]⟩, fun _ => ⟨_, rfl⟩⟩
    | ok =>
      refine ⟨fun h => (by simp at h), ?_⟩
      rintro ⟨e, he, hauthenticate⟩
      -- Signed as it is, it can still lack its kind; that is another error.
      cases kind with
      | none =>
        simp only [authenticate, hverify, Except.error.injEq] at hauthenticate
        subst hauthenticate
        obtain hname | ⟨_, hcause⟩ := he
        · exact absurd hname (by decide)
        · cases hcause
      | some kind => simp [authenticate, hverify] at hauthenticate

/-- A webhook whose kind is asked for has that kind. -/
lemma kind_of_authenticate {secret : List UInt8} {signature kind : Option String}
    {body : List UInt8} {k : String} (h : authenticate secret signature kind body = .ok k) :
    kind = some k := by
  unfold authenticate at h
  split at h
  · cases h
  · split at h
    · cases h
    · split at h
      · cases h
      · cases h
        rfl

/-! ## What a webhook can come to -/

section Receive

variable {σ : Type} [Store σ] (secret : List UInt8) (signature kind : Option String)
  (body : List UInt8) (clock : Time.Timestamp) (s : Service σ)

/-- Everything that a webhook can come to. The service is touched only when the webhook is signed, its
payload is of a form that its kind has, and it tells something that the service acts on. -/
inductive ReceiveEnds : Except ReceiveError Receipt × Service σ → Prop where
  | refused {e : ReceiveError} (he : authenticate secret signature kind body = .error e) :
      ReceiveEnds (.error e, s)
  | unusable {k : String} {e : PayloadError} (hk : authenticate secret signature kind body = .ok k)
      (he : parse k body = .error e) : ReceiveEnds (.error (.payload e), s)
  | passedOver {k : String} (hk : authenticate secret signature kind body = .ok k)
      (hnone : parse k body = .ok none) : ReceiveEnds (.ok .passedOver, s)
  | failed {k : String} {event : Event} {e : DeskError} {t : Service σ}
      (hk : authenticate secret signature kind body = .ok k)
      (hevent : parse k body = .ok (some event)) (ht : apply event clock s = (.error e, t)) :
      ReceiveEnds (.error (.desk e), t)
  | applied {k : String} {event : Event} {t : Service σ}
      (hk : authenticate secret signature kind body = .ok k)
      (hevent : parse k body = .ok (some event)) (ht : apply event clock s = (.ok (), t)) :
      ReceiveEnds (.ok .applied, t)

/-- A webhook comes to one of these ends. -/
lemma receive_ends :
    ReceiveEnds secret signature kind body clock s (receive secret signature kind body clock s) := by
  unfold receive
  cases hk : authenticate secret signature kind body with
  | error e => exact .refused hk
  | ok k =>
    dsimp only
    cases hevent : parse k body with
    | error e => exact .unusable hk hevent
    | ok event? =>
      cases event? with
      | none => exact .passedOver hk hevent
      | some event =>
        dsimp only
        rcases ht : apply event clock s with ⟨_ | _, t⟩
        · exact .failed hk hevent ht
        · exact .applied hk hevent ht

end Receive

/-- A ping tells nothing that the service acts on. -/
lemma apply_of_ping {σ : Type} [Store σ] {body : List UInt8} {event : Event}
    (h : parse "ping" body = .ok (some event)) (clock : Time.Timestamp) (s : Service σ) :
    apply event clock s = (.ok (), s) := by
  have hping : event = .ping := by simpa [parse, eq_comm] using h
  subst hping
  rfl

end Webhook

/-! ## Responses -/

namespace Http

open Webhook (Unsigned ReceiveEnds signatureHeader kindHeader)

/-- A request delivers a webhook: it is posted to the right place, and its body is not too long to be
read. -/
structure Request.Delivers (r : Request) : Prop where
  method : r.method = "POST"
  target : Route.ofTarget? r.target = some .webhook
  length : r.body.length ≤ bodyLimit

namespace Server

variable {σ : Type} [Store σ]

/-- The response to what came of a webhook. -/
def deliveryResponse : Except Webhook.ReceiveError Webhook.Receipt → Response
  | .error e => .text e.status e.message
  | .ok .applied => .text 200 "OK"
  | .ok .passedOver => .text 202 "Ignored"

/-- A webhook that is delivered is received with the server's secret, and what it comes to is
answered. -/
lemma respond_of_delivers {r : Request} (hr : r.Delivers) (clock : Time.Timestamp)
    (s : Server σ) :
    s.respond r clock =
      let received := Webhook.receive s.secret (r.header? signatureHeader) (r.header? kindHeader)
        r.body clock s.service
      (deliveryResponse received.1, s.withService received.2) := by
  have hpost : r.method ∈ Route.methods .webhook := by simp [Route.methods, hr.method]
  have hhead : r.method ≠ "HEAD" := by simp [hr.method]
  have hbody : readBody r = .ok r.body := by simp [readBody, hr.length]
  simp only [respond, hr.target, hpost, hhead, if_true, if_false, visit, receive, withDecoded, hbody]
  generalize Webhook.receive s.secret (r.header? signatureHeader) (r.header? kindHeader) r.body clock
    s.service = received
  rcases received with ⟨_ | _ | _, service⟩ <;> rfl

/-- A webhook that is not signed is refused with the same words by every service with the secret. -/
lemma respond_of_unsigned {secret : List UInt8} {r : Request} (hr : r.Delivers)
    (hunsigned : Unsigned secret r) :
    ∃ response : Response, response.status = 401 ∧
      ∀ {τ : Type} [Store τ] (t : Server τ) (clock : Time.Timestamp), t.secret = secret →
        t.respond r clock = (response, t) := by
  obtain ⟨e, he, hauthenticate⟩ :=
    (Webhook.unsigned_iff_authenticate (r.header? kindHeader)).1 hunsigned
  refine ⟨.text e.status e.message, (e.status_eq_iff).2 he, fun t clock ht => ?_⟩
  subst ht
  rw [respond_of_delivers hr]
  simp only [Webhook.receive, hauthenticate]
  rfl

/-- A webhook that is refused as not signed is not signed. -/
lemma unsigned_of_status {s : Server σ} {r : Request} {clock : Time.Timestamp} (hr : r.Delivers)
    (hstatus : (s.respond r clock).1.status = 401) : Unsigned s.secret r := by
  have hends := Webhook.receive_ends s.secret (r.header? signatureHeader) (r.header? kindHeader)
    r.body clock s.service
  rw [respond_of_delivers hr] at hstatus
  rw [Webhook.unsigned_iff_authenticate (r.header? kindHeader)]
  generalize Webhook.receive s.secret (r.header? signatureHeader) (r.header? kindHeader) r.body
    clock s.service = received at hends hstatus
  cases hends with
  | refused he => exact ⟨_, (Webhook.ReceiveError.status_eq_iff _).1 hstatus, he⟩
  | unusable | passedOver | applied => cases hstatus
  | @failed _ _ e =>
    have hserver := Webhook.ReceiveError.status_desk e
    rw [show (Webhook.ReceiveError.desk e).status = 401 from hstatus] at hserver
    exact absurd hserver (by decide)

/-- A webhook that is refused for what it is, or is passed over, or is a ping, changes nothing. -/
lemma unchanged_of_status {s : Server σ} {r : Request} {clock : Time.Timestamp} (hr : r.Delivers)
    (hstatus : (s.respond r clock).1.status ∈ [401, 400, 202] ∨
      (s.respond r clock).1.status = 200 ∧ r.header? kindHeader = some "ping") :
    (s.respond r clock).2 = s := by
  have hends := Webhook.receive_ends s.secret (r.header? signatureHeader) (r.header? kindHeader)
    r.body clock s.service
  rw [respond_of_delivers hr] at hstatus ⊢
  generalize Webhook.receive s.secret (r.header? signatureHeader) (r.header? kindHeader) r.body
    clock s.service = received at hends hstatus ⊢
  cases hends with
  | refused | unusable | passedOver => rfl
  | @failed _ _ e =>
    have hserver := Webhook.ReceiveError.status_desk e
    simp only [deliveryResponse, Response.text, List.mem_cons, List.not_mem_nil, or_false]
      at hstatus
    omega
  | applied hk hevent ht =>
    obtain hstatus | ⟨-, hping⟩ := hstatus
    · exact absurd (show 200 ∈ [401, 400, 202] from hstatus) (by decide)
    · cases (Webhook.kind_of_authenticate hk).symm.trans hping
      rw [Webhook.apply_of_ping hevent] at ht
      cases ht
      rfl

/-- Webhooks that are not signed, and those that are of no use, change nothing. A delivery is answered
401 exactly if its signature is missing, is not text or is not accepted, whatever else it holds. If
it is answered 401, 400 or 202, or is a ping that is answered 200, the server is afterwards what it
was before: its books, its registry, what people were told, its tasks, and all that was ever
published and all calls to clients. And a delivery that is answered 401 by one server gets the same
answer from every server with the same secret, whatever is booked there. -/
theorem refused_unsigned_unchanged (s : Server σ) (r : Request) (clock : Time.Timestamp)
    (hr : r.Delivers) :
    ((s.respond r clock).1.status = 401 ↔ Unsigned s.secret r) ∧
      ((s.respond r clock).1.status ∈ [401, 400, 202] ∨
          (s.respond r clock).1.status = 200 ∧ r.header? kindHeader = some "ping" →
        (s.respond r clock).2 = s) ∧
      ((s.respond r clock).1.status = 401 →
        ∀ {τ : Type} [Store τ] (t : Server τ) (clock' : Time.Timestamp), t.secret = s.secret →
          (t.respond r clock').1 = (s.respond r clock).1) := by
  refine ⟨⟨unsigned_of_status hr, fun h => ?_⟩, unchanged_of_status hr,
    fun hstatus τ _ t clock' ht => ?_⟩
  · obtain ⟨response, hstatus, hresponse⟩ := respond_of_unsigned hr h
    rw [hresponse s clock rfl, hstatus]
  · obtain ⟨response, -, hresponse⟩ := respond_of_unsigned hr (unsigned_of_status hr hstatus)
    rw [hresponse t clock' ht, hresponse s clock rfl]

/-- A server with a booking. -/
def stockedServer : Server Memory :=
  ⟨.start ⟨"merge-turn", 500⟩ Desk.stockedStore .volatile 4, [0x73, 0x33], []⟩

/-- A ping with an empty document, and with the signature of something. -/
def samplePing (signed : List UInt8) : Request :=
  ⟨"POST", "/webhook?x=1",
    [("X-Hub-Signature-256", Json.utf8 (Webhook.sign signed [0x73, 0x33])),
      ("X-GitHub-Event", Json.utf8 "ping")], [0x7b, 0x7d]⟩

/-- A ping that is signed is answered 200 and changes nothing. If the signature is that of another
document, it is answered 401 and changes nothing, and a server without bookings answers the same. -/
theorem refused_unsigned_unchanged_ping :
    ((stockedServer.respond (samplePing [0x7b, 0x7d]) .epoch).1.status = 200 ∧
      (stockedServer.respond (samplePing [0x7b, 0x7d]) .epoch).2 = stockedServer) ∧
    (stockedServer.respond (samplePing []) .epoch).2 = stockedServer ∧
    (Server.respond (samplePing []) .epoch
        ⟨.start ⟨"merge-turn", 500⟩ Memory.volatile .volatile 1, [0x73, 0x33], []⟩).1 =
      (stockedServer.respond (samplePing []) .epoch).1 := by
  have htarget : Route.ofTarget? "/webhook?x=1" = some .webhook := by decide +kernel
  have hdelivers (signed : List UInt8) : (samplePing signed).Delivers :=
    ⟨rfl, htarget, show 2 ≤ bodyLimit by decide⟩
  have hping : (stockedServer.respond (samplePing [0x7b, 0x7d]) .epoch).1.status = 200 := by
    decide +kernel
  have hforged : (stockedServer.respond (samplePing []) .epoch).1.status = 401 := by
    decide +kernel
  obtain ⟨-, hunchanged, htold⟩ :=
    refused_unsigned_unchanged stockedServer (samplePing []) .epoch (hdelivers [])
  refine ⟨⟨hping, ?_⟩, hunchanged (.inl (by rw [hforged]; decide)), htold hforged _ _ rfl⟩
  exact (refused_unsigned_unchanged stockedServer _ .epoch (hdelivers _)).2.1
    (.inr ⟨hping, by decide +kernel⟩)

end Server

end Http

end MergeTurn
