import MergeTurn.Proofs.Json.Layouts
import MergeTurn.Proofs.Json.Records
import MergeTurn.Proofs.Text.Hex
import MergeTurn.Proofs.Wire.Snapshot
import MergeTurn.Webhook.Payload

set_option autoImplicit false

/-!
# Payloads tell the events that they were written for

The payload of an event is a document with all that the event holds, written in the way of the
service that sends it: what has no value is null or left out, and there are parts that nobody reads.
Whatever text is written of this document, the event is parsed from it again.

## Main definitions

* `MergeTurn.Webhook.Manner` — what the writer of a payload is free to choose.
* `MergeTurn.Webhook.encodePullPayload`, `MergeTurn.Webhook.encodeCheckPayload` — the documents of
  payloads.
* `MergeTurn.Webhook.pullPayload`, `MergeTurn.Webhook.checkPayload` — the payloads of events.
* `MergeTurn.Webhook.IsCommitName` — forty hexadecimal digits.
* `MergeTurn.Webhook.told` — what a payload tells, or the text that should name a commit and does not.

## Main results

* `MergeTurn.Webhook.readPullPayload_encodePullPayload` — a payload is read from its document.
* `MergeTurn.Webhook.plain_encodePullPayload` — every payload has a text.
* `MergeTurn.Webhook.parse_recovers` — an event is parsed from any text of its payload.

## Design

Writing a payload is split where reading it is: the form is that of the document, the meaning that of
the payload. So each half is the inverse of one half of the parser.
-/

namespace MergeTurn.Webhook

open Json (Row IsText present readRecord_present)

/-! ## Documents of payloads -/

/-- What the writer of a payload is free to choose: how to write that there is no value, and the
parts that nobody reads. -/
structure Manner where
  /-- Whether the member of a name is null if it has no value. Else it is left out. -/
  nulls : String → Bool
  /-- Whether an empty list of people is written. Else it is left out. -/
  listsNobody : Bool
  /-- Whether it is said that a pull request is not merged. Else that has no value. -/
  saysUnmerged : Bool
  /-- The branch that the commits are on. -/
  headBranch : String
  /-- The last commit of the branch that they are for. -/
  baseCommit : Option String

/-- A value that may be missing, written under a name. -/
def Manner.option {α : Type} (m : Manner) (name : String) (f : α → Json) : Option α → Option Json
  | some a => some (f a)
  | none => if m.nulls name then some .null else none

/-- People, written in a list. -/
def Manner.people (m : Manner) (f : String → Json) (logins : List String) : Option Json :=
  if logins = [] ∧ m.listsNobody = false then none else some (Json.array f logins)

def encodeUser (login : String) : Json :=
  Json.object [("login", Json.text login)]

def encodeRepo (r : Repo) : Json :=
  Json.object [("owner", encodeUser r.owner), ("name", Json.text r.name)]

def encodeInstallation (n : InstallationId) : Json :=
  Json.object [("id", Wire.encodeUInt64 n.val)]

def encodeBranch (m : Manner) (commit : Option String) (name : String) : Json :=
  Json.object (present [("sha", m.option "sha" Json.text commit), ("ref", some (Json.text name))])

def encodePullPart (m : Manner) (p : PullPart) : Json :=
  Json.object (present [("number", some (Wire.encodeUInt64 p.number)),
    ("title", some (Json.text p.title)), ("html_url", some (Json.text p.pageUrl)),
    ("statuses_url", some (Json.text p.statusUrl)), ("user", some (encodeUser p.author)),
    ("assignees", m.people encodeUser p.assignees), ("merged", m.option "merged" Json.bool p.merged),
    ("merged_by", m.option "merged_by" encodeUser p.merger),
    ("head", some (encodeBranch m p.headCommit m.headBranch)),
    ("base", some (encodeBranch m m.baseCommit p.branch))])

/-- The document of a payload about a pull request. -/
def encodePullPayload (m : Manner) (p : PullPayload) : Json :=
  Json.object (present [("action", some (Json.text p.action)),
    ("pull_request", some (encodePullPart m p.pull)), ("repository", some (encodeRepo p.repo)),
    ("installation", m.option "installation" encodeInstallation p.installation)])

/-- The document of a payload about a status. -/
def encodeCheckPayload (p : CheckPayload) : Json :=
  Json.object [("sha", Json.text p.commit), ("state", Json.text p.state),
    ("context", Json.text p.context), ("repository", encodeRepo p.repo)]

/-! ## Reading documents of payloads -/

variable {α : Type}

/-- A member that may be without a value is taken for it, in whichever way that is written. -/
lemma takes_option {f : α → Json} {read : Json → Except Json.Fault α} (m : Manner)
    (name : String) (hread : ∀ a, Json.readOption read (f a) = .ok (some a)) (o : Option α) :
    (Json.optional name read).Takes (m.option name f o) o := by
  cases o with
  | some a => exact hread a
  | none =>
    rw [Manner.option]
    split
    · exact rfl
    · exact rfl

/-- A user is read from the document. -/
lemma readUser_encodeUser (login : String) : readUser (encodeUser login) = .ok login := by
  have hlogin : loginField.read (Json.text login) = .ok login := rfl
  rw [readUser, encodeUser, Json.readRecord_object (by simp)]
  · exact (Row.get_of_lookup rfl).trans hlogin
  · simp only [List.forall_mem_cons]
    exact ⟨Json.fits_of_read rfl hlogin, by simp⟩

/-- A repository is read from its document. -/
lemma readRepo_encodeRepo (r : Repo) : readRepo (encodeRepo r) = .ok r := by
  have howner : ownerField.read (encodeUser r.owner) = .ok r.owner := readUser_encodeUser r.owner
  have hname : nameField.read (Json.text r.name) = .ok r.name := rfl
  rw [readRepo, encodeRepo, Json.readRecord_object (by simp)]
  · rw [(Row.get_of_lookup rfl).trans howner, (Row.get_of_lookup rfl).trans hname]
    rfl
  · simp only [List.forall_mem_cons]
    exact ⟨Json.fits_of_read rfl howner, Json.fits_of_read rfl hname, by simp⟩

/-- An installation is read from its document. -/
lemma readInstallation_encodeInstallation (n : InstallationId) :
    readInstallation (encodeInstallation n) = .ok n := by
  have hid : idField.read (Wire.encodeUInt64 n.val) = .ok n.val := Wire.readUInt64_encodeUInt64 n.val
  rw [readInstallation, encodeInstallation, Json.readRecord_object (by simp)]
  · rw [(Row.get_of_lookup rfl).trans hid]
    rfl
  · simp only [List.forall_mem_cons]
    exact ⟨Json.fits_of_read rfl hid, by simp⟩

/-- A branch and its last commit are read from the document. -/
lemma readBranch_encodeBranch (m : Manner) (commit : Option String) (name : String) :
    readBranch (encodeBranch m commit name) = .ok (commit, name) := by
  have hcommit : commitField.Takes (m.option "sha" Json.text commit) commit :=
    takes_option m "sha" (fun _ => rfl) commit
  have hname : refField.Takes (some (Json.text name)) name := rfl
  refine readRecord_present (by simp) ?_ fun row hrow => ?_
  · simp only [List.forall_mem_cons]
    exact ⟨hcommit.fits rfl, hname.fits rfl, by simp⟩
  · rw [hcommit.get (hrow _), hname.get (hrow _)]
    rfl

/-- People are read from the list that they are written in, or from its absence if there are none. -/
lemma takes_people (m : Manner) (logins : List String) :
    assigneesField.Takes (m.people encodeUser logins) logins := by
  rw [Manner.people]
  split_ifs with h
  · rw [h.1]
    exact rfl
  · exact Json.readList_array fun login _ => readUser_encodeUser login

/-- A pull request is read from its document. -/
lemma readPullPart_encodePullPart (m : Manner) (p : PullPart) :
    readPullPart (encodePullPart m p) = .ok p := by
  have hnumber : numberField.Takes (some (Wire.encodeUInt64 p.number)) p.number :=
    Wire.readUInt64_encodeUInt64 p.number
  have htitle : titleField.Takes (some (Json.text p.title)) p.title := rfl
  have hpageUrl : pageUrlField.Takes (some (Json.text p.pageUrl)) p.pageUrl := rfl
  have hstatusUrl : statusUrlField.Takes (some (Json.text p.statusUrl)) p.statusUrl := rfl
  have huser : userField.Takes (some (encodeUser p.author)) p.author := readUser_encodeUser p.author
  have hassignees := takes_people m p.assignees
  have hmerged : mergedField.Takes (m.option "merged" Json.bool p.merged) p.merged :=
    takes_option m "merged" (fun _ => rfl) p.merged
  have hmerger : mergerField.Takes (m.option "merged_by" encodeUser p.merger) p.merger :=
    takes_option m "merged_by" (fun a => congrArg (·.map some) (readUser_encodeUser a)) p.merger
  have hhead : headField.Takes (some (encodeBranch m p.headCommit m.headBranch))
      (p.headCommit, m.headBranch) := readBranch_encodeBranch m p.headCommit m.headBranch
  have hbase : baseField.Takes (some (encodeBranch m m.baseCommit p.branch))
      (m.baseCommit, p.branch) := readBranch_encodeBranch m m.baseCommit p.branch
  refine readRecord_present (by simp) ?_ fun row hrow => ?_
  · simp only [List.forall_mem_cons]
    exact ⟨hnumber.fits rfl, htitle.fits rfl, hpageUrl.fits rfl, hstatusUrl.fits rfl,
      huser.fits rfl, hassignees.fits rfl, hmerged.fits rfl, hmerger.fits rfl, hhead.fits rfl,
      hbase.fits rfl, by simp⟩
  · rw [hnumber.get (hrow _), htitle.get (hrow _), hpageUrl.get (hrow _), hstatusUrl.get (hrow _),
      huser.get (hrow _), hassignees.get (hrow _), hmerged.get (hrow _), hmerger.get (hrow _),
      hhead.get (hrow _), hbase.get (hrow _)]
    rfl

/-- A payload about a pull request is read from its document. -/
theorem readPullPayload_encodePullPayload (m : Manner) (p : PullPayload) :
    readPullPayload (encodePullPayload m p) = .ok p := by
  have haction : actionField.Takes (some (Json.text p.action)) p.action := rfl
  have hpull : pullField.Takes (some (encodePullPart m p.pull)) p.pull :=
    readPullPart_encodePullPart m p.pull
  have hrepo : repositoryField.Takes (some (encodeRepo p.repo)) p.repo := readRepo_encodeRepo p.repo
  have hinstallation : installationField.Takes
      (m.option "installation" encodeInstallation p.installation) p.installation :=
    takes_option m "installation"
      (fun n => congrArg (·.map some) (readInstallation_encodeInstallation n)) p.installation
  refine readRecord_present (by simp) ?_ fun row hrow => ?_
  · simp only [List.forall_mem_cons]
    exact ⟨haction.fits rfl, hpull.fits rfl, hrepo.fits rfl, hinstallation.fits rfl, by simp⟩
  · rw [haction.get (hrow _), hpull.get (hrow _), hrepo.get (hrow _), hinstallation.get (hrow _)]
    rfl

/-- A payload about a status is read from its document. -/
theorem readCheckPayload_encodeCheckPayload (p : CheckPayload) :
    readCheckPayload (encodeCheckPayload p) = .ok p := by
  have hsha : shaField.read (Json.text p.commit) = .ok p.commit := rfl
  have hstate : stateField.read (Json.text p.state) = .ok p.state := rfl
  have hcontext : contextField.read (Json.text p.context) = .ok p.context := rfl
  have hrepo : repositoryField.read (encodeRepo p.repo) = .ok p.repo := readRepo_encodeRepo p.repo
  rw [readCheckPayload, encodeCheckPayload, Json.readRecord_object (by simp)]
  · rw [(Row.get_of_lookup rfl).trans hsha, (Row.get_of_lookup rfl).trans hstate,
      (Row.get_of_lookup rfl).trans hcontext, (Row.get_of_lookup rfl).trans hrepo]
    rfl
  · simp only [List.forall_mem_cons]
    exact ⟨Json.fits_of_read rfl hsha, Json.fits_of_read rfl hstate,
      Json.fits_of_read rfl hcontext, Json.fits_of_read rfl hrepo, by simp⟩

/-! ## Texts of documents of payloads -/

/-- What is written of a member that may be without a value has a text of its own. -/
lemma plain_option {f : α → Json} (m : Manner) (name : String) (hf : ∀ a, (f a).Plain = true)
    (o : Option α) : ∀ v ∈ m.option name f o, v.Plain = true := by
  intro v hv
  cases o with
  | some a =>
    cases hv
    exact hf a
  | none =>
    rw [Manner.option] at hv
    split at hv
    · cases hv
      rfl
    · cases hv

/-- What is written of people has a text of its own. -/
lemma plain_people (m : Manner) (logins : List String) :
    ∀ v ∈ m.people encodeUser logins, v.Plain = true := by
  intro v hv
  rw [Manner.people] at hv
  split_ifs at hv
  · cases hv
  · cases hv
    exact Json.plain_array fun _ _ => rfl

/-- The document of a branch has a text of its own. -/
lemma plain_encodeBranch (m : Manner) (commit : Option String) (name : String) :
    (encodeBranch m commit name).Plain = true := by
  have hcommit := plain_option m "sha" Json.plain_text commit
  refine Json.plain_present ?_
  simp only [List.forall_mem_cons, Option.mem_def, Option.some.injEq, forall_eq']
  exact ⟨hcommit, rfl, by simp⟩

/-- The document of a pull request has a text of its own. -/
lemma plain_encodePullPart (m : Manner) (p : PullPart) : (encodePullPart m p).Plain = true := by
  have hassignees := plain_people m p.assignees
  have hmerged := plain_option m "merged" (fun _ => rfl) (f := Json.bool) p.merged
  have hmerger := plain_option m "merged_by" (fun _ => rfl) (f := encodeUser) p.merger
  have hhead := plain_encodeBranch m p.headCommit m.headBranch
  have hbase := plain_encodeBranch m m.baseCommit p.branch
  refine Json.plain_present ?_
  simp only [List.forall_mem_cons, Option.mem_def, Option.some.injEq, forall_eq']
  exact ⟨rfl, rfl, rfl, rfl, rfl, hassignees, hmerged, hmerger, hhead, hbase, by simp⟩

/-- The document of a payload about a pull request has a text of its own. -/
lemma plain_encodePullPayload (m : Manner) (p : PullPayload) :
    (encodePullPayload m p).Plain = true := by
  have hpull := plain_encodePullPart m p.pull
  have hinstallation :=
    plain_option m "installation" (fun _ => rfl) (f := encodeInstallation) p.installation
  refine Json.plain_present ?_
  simp only [List.forall_mem_cons, Option.mem_def, Option.some.injEq, forall_eq']
  exact ⟨rfl, hpull, rfl, hinstallation, by simp⟩

/-- The document of a payload about a status has a text of its own. -/
lemma plain_encodeCheckPayload (p : CheckPayload) : (encodeCheckPayload p).Plain = true := rfl

/-! ## Names of commits -/

/-- The name of a commit in a payload: forty hexadecimal digits, in either letter case. -/
def IsCommitName (s : String) : Prop :=
  s.length = 40 ∧ ∀ c ∈ s.toList, Text.IsHexDigit c

/-- The texts that a commit can be named by are the names of commits. -/
lemma isCommitName_iff (s : String) :
    (s.length = 40 ∧ s.toList.all (fun c => (Text.digitValue? c).isSome) = true) ↔
      IsCommitName s := by
  simp only [List.all_eq_true, Text.isSome_digitValue?, IsCommitName]

instance (s : String) : Decidable (IsCommitName s) :=
  decidable_of_iff _ (isCommitName_iff s)

/-- A name in lower case. -/
def lowered (c : CommitId) : CommitId :=
  ⟨String.ofList (c.text.toList.map Char.toLower)⟩

/-- The commits that can be named are named in lower case. -/
lemma ofText?_eq (s : String) :
    CommitId.ofText? s = if IsCommitName s then some (lowered ⟨s⟩) else none := by
  by_cases h : IsCommitName s
  · rw [CommitId.ofText?, if_pos ((isCommitName_iff s).2 h), if_pos h, lowered]
  · rw [CommitId.ofText?, if_neg (mt (isCommitName_iff s).1 h), if_neg h]

/-- The commit that a member names is the one of its text in lower case. -/
lemma parseCommit_some (member name : String) :
    parseCommit member (some name) =
      if IsCommitName name then .ok (lowered ⟨name⟩) else .error (.value member name) := by
  rw [parseCommit, Option.getD_some, ofText?_eq]
  split_ifs <;> rfl

/-! ## Payloads of events -/

/-- The word for what happened to a pull request. -/
def PullAction.word : PullAction → String
  | .opened => "opened"
  | .reopened => "reopened"
  | .synchronized => "synchronize"
  | .closed _ => "closed"

/-- Who merged a pull request, if that is what happened. -/
def PullAction.merger : PullAction → Option String
  | .closed (.merged merger) => some merger
  | _ => none

/-- What is said of whether a pull request is merged. -/
def Manner.merged (m : Manner) (action : PullAction) : Option Bool :=
  if action.merger.isSome then some true else if m.saysUnmerged then some false else none

/-- The payload of what happened to a pull request. -/
def pullPayload (m : Manner) (action : PullAction) (p : Pull) : PullPayload where
  action := action.word
  pull :=
    { number := p.number.val
      title := p.title
      pageUrl := p.pageUrl
      statusUrl := p.statusUrl
      author := p.author
      assignees := p.assignees
      merged := m.merged action
      merger := action.merger
      headCommit := some p.head.text
      branch := p.branch }
  repo := p.repo
  installation := p.installation

/-- A payload that does not tell who merged. -/
def PullPayload.unnamed (p : PullPayload) : PullPayload :=
  { p with pull := { p.pull with merger := none } }

/-- The payload of a status that somebody posted. -/
def checkPayload (change : CheckChange) : CheckPayload :=
  ⟨change.commit.text, change.state.word, change.context, change.repo⟩

/-- What is told of a pull request or a status if a text names the commit that it is about. Else the
member with that text is refused. -/
def told (member : String) (commit : CommitId) (e : Event) : Except PayloadError (Option Event) :=
  if IsCommitName commit.text then .ok (some e) else .error (.value member commit.text)

/-- What is said of a merge is read as it was meant. -/
lemma Manner.getD_merged (m : Manner) (action : PullAction) :
    (m.merged action).getD false = action.merger.isSome := by
  rw [Manner.merged]
  cases action.merger <;> cases m.saysUnmerged <;> rfl

/-- The action of a payload is what happened. -/
lemma action?_pullPayload (m : Manner) (action : PullAction) (p : Pull) :
    (pullPayload m action p).action? = some action := by
  cases action with
  | opened | reopened | synchronized => rfl
  | closed closing =>
    have hclosing : (pullPayload m (.closed closing) p).pull.closing = closing := by
      rw [PullPart.closing, pullPayload, Manner.getD_merged]
      cases closing <;> rfl
    exact congrArg (fun c => some (PullAction.closed c)) hclosing

/-- The action of a payload that does not tell who merged is a merge by the author. -/
lemma action?_unnamed (m : Manner) (merger : String) (p : Pull) :
    (pullPayload m (.closed (.merged merger)) p).unnamed.action? =
      some (.closed (.merged p.author)) := rfl

/-- The event of a payload is that of its action, if it names its last commit. -/
lemma event_of_action? {p : PullPayload} {action : PullAction} {commit : String}
    (haction : p.action? = some action) (hcommit : p.pull.headCommit = some commit) :
    p.event = told "pull_request.head.sha" ⟨commit⟩
      (.pull action ⟨p.repo, ⟨p.pull.number⟩, p.pull.statusUrl, p.installation, p.pull.branch,
        p.pull.title, p.pull.author, p.pull.pageUrl, p.pull.assignees, lowered ⟨commit⟩⟩) := by
  rw [PullPayload.event, haction, hcommit]
  dsimp only
  rw [parseCommit_some, told]
  split_ifs <;> rfl

/-- A state is found by its word. -/
lemma lookup_word (s : CheckState) : CheckState.words.lookup s.word = some s := by
  cases s <;> rfl

/-- A word that is none of the four is found nowhere. -/
lemma lookup_eq_none {word : String} (h : ∀ s : CheckState, s.word ≠ word) :
    CheckState.words.lookup word = none := by
  refine List.lookup_eq_none_iff.2 fun m hm => bne_iff_ne.2 ?_
  obtain ⟨s, -, rfl⟩ := List.mem_map.1 hm
  exact (h s).symm

/-- The event of the payload of a status is the status, if it names its commit. -/
lemma event_checkPayload (change : CheckChange) :
    (checkPayload change).event.map some =
      told "sha" change.commit (.check { change with commit := lowered change.commit }) := by
  rw [CheckPayload.event, checkPayload, lookup_word]
  dsimp only
  rw [parseCommit_some, told]
  split_ifs <;> rfl

/-! ## Parsing texts of payloads -/

/-- From a text of its document, a payload about a pull request is parsed as its event. -/
lemma parse_of_pullPayload {bs : List UInt8} {m : Manner} {p : PullPayload}
    (h : IsText bs (encodePullPayload m p)) : parse "pull_request" bs = p.event := by
  rw [parse, if_pos rfl, decodePayload, Json.decode_of_isText h, readPullPayload_encodePullPayload]
  rfl

/-- From a text of its document, a payload about a status is parsed as its event. -/
lemma parse_of_checkPayload {bs : List UInt8} {p : CheckPayload}
    (h : IsText bs (encodeCheckPayload p)) : parse "status" bs = p.event.map some := by
  rw [parse, if_neg (by decide), if_pos rfl, decodePayload, Json.decode_of_isText h,
    readCheckPayload_encodeCheckPayload]
  change (do return some (← p.event)) = p.event.map some
  cases p.event <;> rfl

/-- An event is parsed from any text of its payload, with the name of its commit in lower case. Of a
merge of which nobody is named, it says that the author did it. If the text that should name the
commit is no name of one, or the word that should name the state does not, the payload is refused
with that text.

**Proof sketch.** The text is read as the document, and the document as the payload. So what is left
is what the payload means. -/
theorem parse_recovers {bs : List UInt8} :
    (∀ m action p, IsText bs (encodePullPayload m (pullPayload m action p)) →
      parse "pull_request" bs = told "pull_request.head.sha" p.head
        (.pull action { p with head := lowered p.head })) ∧
      (∀ m merger p,
        IsText bs (encodePullPayload m (pullPayload m (.closed (.merged merger)) p).unnamed) →
        parse "pull_request" bs = told "pull_request.head.sha" p.head
          (.pull (.closed (.merged p.author)) { p with head := lowered p.head })) ∧
      (∀ change, IsText bs (encodeCheckPayload (checkPayload change)) →
        parse "status" bs =
          told "sha" change.commit (.check { change with commit := lowered change.commit })) ∧
      (∀ change word, (∀ s : CheckState, s.word ≠ word) →
        IsText bs (encodeCheckPayload { checkPayload change with state := word }) →
        parse "status" bs = .error (.value "state" word)) := by
  refine ⟨fun m action p h => ?_, fun m merger p h => ?_, fun change h => ?_,
    fun change word hword h => ?_⟩
  · rw [parse_of_pullPayload h]
    exact event_of_action? (action?_pullPayload m action p) rfl
  · rw [parse_of_pullPayload h]
    exact event_of_action? (action?_unnamed m merger p) rfl
  · rw [parse_of_checkPayload h]
    exact event_checkPayload change
  · rw [parse_of_checkPayload h, CheckPayload.event, lookup_eq_none hword]
    rfl

/-- A merge is told by whoever is named, or else by the author, of a head that is written in capitals.
A status of a commit that is one digit short is refused with that commit, and a state in capitals with
that state. -/
theorem parse_recovers_merge :
    let m : Manner := ⟨fun name => name = "merged_by", false, true, "fix/\u0001", none⟩
    let head : CommitId := ⟨"ABCDEF1234567890abcdef1234567890ABCDEF12"⟩
    let p : Pull := ⟨⟨"octo\"cat", "dépôt"⟩, ⟨7⟩, "s", some ⟨3⟩, "main", "\\ \n 𝄞", "ann", "u",
      ["bob", "bob"], head⟩
    let read : Pull := { p with head := ⟨"abcdef1234567890abcdef1234567890abcdef12"⟩ }
    let change : CheckChange := ⟨p.repo, ⟨"ABCDEF1234567890abcdef1234567890ABCDEF1"⟩, .error, ""⟩
    let merge := pullPayload m (.closed (.merged "eve")) p
    let shout := { checkPayload change with state := "ERROR" }
    parse "pull_request" (Json.utf8 (encodePullPayload m merge).compact) =
        .ok (some (.pull (.closed (.merged "eve")) read)) ∧
      parse "pull_request" (Json.utf8 (encodePullPayload m merge.unnamed).pretty) =
        .ok (some (.pull (.closed (.merged "ann")) read)) ∧
      parse "status" (Json.utf8 (encodeCheckPayload (checkPayload change)).compact) =
        .error (.value "sha" change.commit.text) ∧
      parse "status" (Json.utf8 (encodeCheckPayload shout).pretty) =
        .error (.value "state" "ERROR") := by
  intro m head p read change merge shout
  have hhead : IsCommitName head.text := by decide
  have hcommit : ¬ IsCommitName change.commit.text := by decide
  have hword : ∀ s : CheckState, s.word ≠ "ERROR" := by
    intro s
    cases s <;> decide
  have hread : { p with head := lowered head } = read := by decide
  refine ⟨(parse_recovers.1 m _ p (Json.isText_compact (plain_encodePullPayload m _))).trans ?_,
    (parse_recovers.2.1 m "eve" p (Json.isText_pretty (plain_encodePullPayload m _))).trans ?_,
    (parse_recovers.2.2.1 change (Json.isText_compact (plain_encodeCheckPayload _))).trans
      (if_neg hcommit),
    parse_recovers.2.2.2 change "ERROR" hword (Json.isText_pretty (plain_encodeCheckPayload _))⟩
  · exact (if_pos hhead).trans (by rw [hread])
  · exact (if_pos hhead).trans (by rw [hread])

end MergeTurn.Webhook
