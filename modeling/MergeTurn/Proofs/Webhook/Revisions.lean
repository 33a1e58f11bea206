import MergeTurn.Proofs.Json.Revisions
import MergeTurn.Proofs.Webhook.Payloads

set_option autoImplicit false

/-!
# Payloads that differ in what nobody reads

A payload has hundreds of members, in an order that nobody promises. The parser knows the names of a
few. Two texts of documents that differ in the order of members, and in members whose names the
parser does not know, give the same answer, however each of them is written.

Only the value of a member that is not known may be anything. Its name has to be read before it is
clear that it is not known, and a name that stands for no text cannot be read.

## Main definitions

* `MergeTurn.Webhook.payloadOutline` — what the parser knows of the payloads of a kind.

## Main results

* `MergeTurn.Webhook.parse_eq_of_alike` — texts of documents that are alike are parsed alike.
* `MergeTurn.Webhook.parse_ne_of_illegible` — but not if a name that is new stands for no text.
-/

namespace MergeTurn.Webhook

open Json (Agree Alike Field.isFor IsText Legible Outline Respects respects_readBool
  respects_readNat respects_readText)

/-! ## What the parser knows -/

/-- What is known of a user. -/
def userOutline : Outline := .record [("login", .leaf)]

/-- What is known of a repository. -/
def repoOutline : Outline := .record [("owner", userOutline), ("name", .leaf)]

/-- What is known of an installation. -/
def installationOutline : Outline := .record [("id", .leaf)]

/-- What is known of a branch. -/
def branchOutline : Outline := .record [("sha", .leaf), ("ref", .leaf)]

/-- What is known of a pull request. -/
def pullPartOutline : Outline :=
  .record [("number", .leaf), ("title", .leaf), ("html_url", .leaf), ("statuses_url", .leaf),
    ("user", userOutline), ("assignees", .list userOutline), ("merged", .leaf),
    ("merged_by", userOutline), ("head", branchOutline), ("base", branchOutline)]

/-- What is known of a payload about a pull request. -/
def pullPayloadOutline : Outline :=
  .record [("action", .leaf), ("pull_request", pullPartOutline), ("repository", repoOutline),
    ("installation", installationOutline)]

/-- What is known of a payload about a status. -/
def checkPayloadOutline : Outline :=
  .record [("sha", .leaf), ("state", .leaf), ("context", .leaf), ("repository", repoOutline)]

/-- What the parser knows of the payloads of a kind. Of a kind that it does not read it knows no
member. -/
def payloadOutline (kind : String) : Outline :=
  if kind = "pull_request" then pullPayloadOutline
  else if kind = "status" then checkPayloadOutline
  else .record []

/-! ## Readers of payloads -/

/-- A user is read alike after an edit. -/
lemma respects_readUser : Respects userOutline readUser := by
  have hlogin : Respects .leaf loginField.read := respects_readText _
  refine .record (by simp) (.cons (Field.isFor hlogin) .nil) fun row row' h => ?_
  exact h.get hlogin rfl

/-- A repository is read alike after an edit. -/
lemma respects_readRepo : Respects repoOutline readRepo := by
  have howner : Respects userOutline ownerField.read := respects_readUser
  have hname : Respects .leaf nameField.read := respects_readText _
  refine .record (by simp) (.cons (Field.isFor howner) (.cons (Field.isFor hname) .nil))
    fun row row' h => ?_
  exact (h.get howner rfl).bind_eq fun _ => (h.get hname rfl).bind_eq fun _ => .ok rfl

/-- A 64-bit word is read alike after an edit. -/
lemma respects_readUInt64 : Respects .leaf Wire.readUInt64 :=
  (respects_readNat _ _).map UInt64.ofNat

/-- An installation is read alike after an edit. -/
lemma respects_readInstallation : Respects installationOutline readInstallation := by
  have hid : Respects .leaf idField.read := respects_readUInt64
  refine .record (by simp) (.cons (Field.isFor hid) .nil) fun row row' h => ?_
  exact (h.get hid rfl).bind_eq fun _ => .ok rfl

/-- A branch is read alike after an edit. -/
lemma respects_readBranch : Respects branchOutline readBranch := by
  have hcommit : Respects .leaf commitField.read := (respects_readText _).option
  have hname : Respects .leaf refField.read := respects_readText _
  refine .record (by simp) (.cons (Field.isFor hcommit) (.cons (Field.isFor hname) .nil))
    fun row row' h => ?_
  exact (h.get hcommit rfl).bind_eq fun _ => (h.get hname rfl).bind_eq fun _ => .ok rfl

/-- A pull request is read alike after an edit. -/
lemma respects_readPullPart : Respects pullPartOutline readPullPart := by
  have hnumber : Respects .leaf numberField.read := respects_readUInt64
  have htitle : Respects .leaf titleField.read := respects_readText _
  have hpageUrl : Respects .leaf pageUrlField.read := respects_readText _
  have hstatusUrl : Respects .leaf statusUrlField.read := respects_readText _
  have huser : Respects userOutline userField.read := respects_readUser
  have hassignees : Respects (.list userOutline) assigneesField.read := respects_readUser.list
  have hmerged : Respects .leaf mergedField.read := (respects_readBool _).option
  have hmerger : Respects userOutline mergerField.read := respects_readUser.option
  have hhead : Respects branchOutline headField.read := respects_readBranch
  have hbase : Respects branchOutline baseField.read := respects_readBranch
  refine .record (by simp) (.cons (Field.isFor hnumber) (.cons (Field.isFor htitle)
    (.cons (Field.isFor hpageUrl) (.cons (Field.isFor hstatusUrl) (.cons (Field.isFor huser)
    (.cons (Field.isFor hassignees) (.cons (Field.isFor hmerged) (.cons (Field.isFor hmerger)
    (.cons (Field.isFor hhead) (.cons (Field.isFor hbase) .nil))))))))))
    fun row row' h => ?_
  exact (h.get hnumber rfl).bind_eq fun _ => (h.get htitle rfl).bind_eq fun _ =>
    (h.get hpageUrl rfl).bind_eq fun _ => (h.get hstatusUrl rfl).bind_eq fun _ =>
    (h.get huser rfl).bind_eq fun _ => (h.get hassignees rfl).bind_eq fun _ =>
    (h.get hmerged rfl).bind_eq fun _ => (h.get hmerger rfl).bind_eq fun _ =>
    (h.get hhead rfl).bind_eq fun _ => (h.get hbase rfl).bind_eq fun _ => .ok rfl

/-- A payload about a pull request is read alike after an edit. -/
lemma respects_readPullPayload : Respects pullPayloadOutline readPullPayload := by
  have haction : Respects .leaf actionField.read := respects_readText _
  have hpull : Respects pullPartOutline pullField.read := respects_readPullPart
  have hrepo : Respects repoOutline repositoryField.read := respects_readRepo
  have hinstallation : Respects installationOutline installationField.read :=
    respects_readInstallation.option
  refine .record (by simp) (.cons (Field.isFor haction) (.cons (Field.isFor hpull)
    (.cons (Field.isFor hrepo) (.cons (Field.isFor hinstallation) .nil)))) fun row row' h => ?_
  exact (h.get haction rfl).bind_eq fun _ => (h.get hpull rfl).bind_eq fun _ =>
    (h.get hrepo rfl).bind_eq fun _ => (h.get hinstallation rfl).bind_eq fun _ => .ok rfl

/-- A payload about a status is read alike after an edit. -/
lemma respects_readCheckPayload : Respects checkPayloadOutline readCheckPayload := by
  have hsha : Respects .leaf shaField.read := respects_readText _
  have hstate : Respects .leaf stateField.read := respects_readText _
  have hcontext : Respects .leaf contextField.read := respects_readText _
  have hrepo : Respects repoOutline repositoryField.read := respects_readRepo
  refine .record (by simp) (.cons (Field.isFor hsha) (.cons (Field.isFor hstate)
    (.cons (Field.isFor hcontext) (.cons (Field.isFor hrepo) .nil)))) fun row row' h => ?_
  exact (h.get hsha rfl).bind_eq fun _ => (h.get hstate rfl).bind_eq fun _ =>
    (h.get hcontext rfl).bind_eq fun _ => (h.get hrepo rfl).bind_eq fun _ => .ok rfl

/-! ## Texts of payloads -/

variable {bs bs' : List UInt8} {v v' : Json}

/-- Of a text that is refused, the decoder does not say why. -/
lemma decodePayload_eq {α : Type} (read : Json → Except Json.Fault α) (bs : List UInt8) :
    decodePayload read bs = (Json.decode read bs).mapError fun _ => .form := by
  rw [decodePayload]
  cases Json.decode read bs <;> rfl

/-- From texts of documents that are alike, the same payload is decoded, or none from either. -/
lemma decodePayload_eq_of_alike {α : Type} {o : Outline} {read : Json → Except Json.Fault α}
    (hread : Respects o read) (h : IsText bs v) (h' : IsText bs' v')
    (halike : Alike Legible o v v') : decodePayload read bs = decodePayload read bs' := by
  rw [decodePayload_eq, decodePayload_eq, Json.decode_of_isText h, Json.decode_of_isText h']
  exact hread.eq_of_alike (Except.mapError fun _ => PayloadError.form) (fun _ _ => rfl) halike

/-- Texts of documents that are alike are parsed alike: to the same event, to none, or to the same
error.

**Proof sketch.** Each text is read as its document. One edit of a document makes no difference to
the reader of its payload, so neither do many. -/
theorem parse_eq_of_alike {kind : String} (h : IsText bs v) (h' : IsText bs' v')
    (halike : Alike Legible (payloadOutline kind) v v') : parse kind bs = parse kind bs' := by
  rw [payloadOutline] at halike
  rw [parse, parse]
  split_ifs at halike ⊢
  · rw [decodePayload_eq_of_alike respects_readPullPayload h h' halike]
  · rw [decodePayload_eq_of_alike respects_readCheckPayload h h' halike]
  · rfl
  · rfl

/-- The status of a commit is the same if the commit and the state change places, and the owner of the
repository has a number, whichever layout is chosen. -/
theorem parse_eq_of_alike_status :
    let sha := ("sha", Json.text "ABCDEF1234567890abcdef1234567890ABCDEF12")
    let state := ("state", Json.text "success")
    let rest (owner : Json) : List (String × Json) := [("context", Json.text "ci"),
      ("repository", Json.object [("owner", owner), ("name", Json.text "repo")])]
    let octo := ("login", Json.text "octo")
    let v := Json.object (sha :: state :: rest (Json.object [octo]))
    let v' := Json.object (state :: sha :: rest (Json.object [("id", Json.nat 1), octo]))
    IsText (Json.utf8 v.compact) v ∧ IsText (Json.utf8 v'.pretty) v' ∧
      Alike Legible (payloadOutline "status") v v' ∧
      parse "status" (Json.utf8 v.compact) = parse "status" (Json.utf8 v'.pretty) := by
  intro sha state rest octo v v'
  have h : IsText (Json.utf8 v.compact) v := Json.isText_compact rfl
  have h' : IsText (Json.utf8 v'.pretty) v' := Json.isText_pretty rfl
  have hswap : Json.Edit Legible (payloadOutline "status") v
      (Json.object (state :: sha :: rest (Json.object [octo]))) := .obj (.swap ..)
  have hinsert : Json.Edit Legible (payloadOutline "status")
      (Json.object (state :: sha :: rest (Json.object [octo]))) v' := by
    refine .obj (.later _ _ (.later _ _ (.later _ _ (.here (.obj (.here (.obj ?_) _)) _))))
    exact .insert (o := userOutline) (k := some "id") rfl (by simp [Legible]) rfl _
  have halike : Alike Legible (payloadOutline "status") v v' :=
    .trans _ _ _ (.rel _ _ hswap) (.rel _ _ hinsert)
  exact ⟨h, h', halike, parse_eq_of_alike h h' halike⟩

/-! ## Names that stand for no text -/

/-- An object can be written with a member in front whose name is half of a pair of units. -/
lemma exists_isText_illegible {ms : Json.Members} (h : Json.WritesMembers bs ms) :
    ∃ bs', IsText bs' (.obj (.cons none .null ms)) := by
  have hescape : Json.HexEscape [0x5c, 0x75, 0x64, 0x65, 0x61, 0x64] 0xdead := .digits (by decide)
  have hname : Json.WritesChars ([0x5c, 0x75, 0x64, 0x65, 0x61, 0x64] ++ [0x22]) none :=
    .unpaired hescape (by decide) (fun hlow => absurd hlow (by decide)) .done
  have hblank := Json.blank_nil
  exact ⟨_, [], _, [], hblank,
    .members (.cons hblank hname hblank hblank .null hblank h), hblank, rfl⟩

/-- A status with a member in front whose name stands for no text is refused. -/
lemma parse_illegible {ms : Json.Members} (h : IsText bs (.obj (.cons none v ms))) :
    parse "status" bs = .error .form := by
  rw [parse, if_neg (by decide), if_pos rfl, decodePayload, Json.decode_of_isText h]
  rfl

/-- A member that is new makes a difference if its name stands for no text, though the parser does not
know it: the status of a commit is then refused. -/
theorem parse_ne_of_illegible :
    ¬ ∀ (kind : String) (bs bs' : List UInt8) (v v' : Json), IsText bs v → IsText bs' v' →
      Alike (fun _ => True) (payloadOutline kind) v v' → parse kind bs = parse kind bs' := by
  intro h
  let change : CheckChange := ⟨⟨"octo", "repo"⟩, ⟨"abcdef1234567890abcdef1234567890abcdef12"⟩,
    .success, "ci"⟩
  let ms := Json.Members.ofList [("sha", Json.text change.commit.text),
    ("state", Json.text "success"), ("context", Json.text "ci"),
    ("repository", encodeRepo change.repo)]
  have hms : Json.WritesMembers _ ms := Json.writesMembers_compact rfl nofun
  have hv : IsText (Json.utf8 (Json.obj ms).compact) (encodeCheckPayload (checkPayload change)) :=
    Json.isText_compact rfl
  obtain ⟨bs', hbs'⟩ := exists_isText_illegible hms
  have hedit : Json.Edit (fun _ => True) (payloadOutline "status") (.obj ms)
      (.obj (.cons none .null ms)) :=
    .obj (.insert (o := checkPayloadOutline) (k := none) trivial trivial rfl ms)
  have heq := h "status" _ bs' _ _ hv hbs' (.rel _ _ hedit)
  rw [parse_of_checkPayload hv, event_checkPayload, told, if_pos (by decide),
    parse_illegible hbs'] at heq
  cases heq

end MergeTurn.Webhook
