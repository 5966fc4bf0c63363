import LivepeerTranscode.LiveRunner.ProgramCalls
import LivepeerTranscode.LiveRunner.Runs
import LivepeerTranscode.LiveRunner.Server
import LivepeerTranscode.Shared.Actors

/-!
# Runs of the whole runner

Requests, failures of a runtime, recovery, callback sweeps and the observations of the meters
run beside each other over the session directory; any of them may be lost at any call, and a
restart loses all of them. `serverRule` says what a program has behind it when it makes a call
that matters, and every program is walked once to show that it keeps the rule.
-/

namespace LivepeerTranscode.LiveRunner
open Actors hiding World Step Reachable
open Checked GoText Interaction
set_option autoImplicit false

variable {e : Effect} {record : SessionRecordV1} {secrets : SessionSecretsV1}
  {issue : StreamKeyIssueRequestV1}

abbrev RunnerEvent : Type := Interaction.Event Effect Effect.Answer
abbrev RunnerLog : Type := List (Nat × RunnerEvent)
abbrev RunnerScene : Type := Actors.Scene World Effect Effect.Answer

/-- What the meters and the ladder of a running session write. -/
def StoreCall.observes : StoreCall → Bool
  | .recordFinalizedSegments .. | .recordHeartbeat .. | .recordIngestPresence ..
  | .recordLadderRestart .. | .evaluateOutputHealth .. | .recordOutputStalled .. => true
  | _ => false

inductive ServerStarts (P : Platform) (config : LiveRunnerServerV1) : RunnerProg Unit → Prop where
  | serve (request : Request) : ServerStarts P config (serve P config request)
  | fail (record : SessionRecordV1) (reason : String) (joins : Bool) :
      ServerStarts P config (failSession P record reason joins)
  | recover : ServerStarts P config (discard (recoverLiveSessionsV1 P))
  | sweep : ServerStarts P config (discard (sweepOnce P))
  | observe (call : StoreCall) : call.observes = true → ServerStarts P config (discard (ask call))

def serverWorld (P : Platform) (config : LiveRunnerServerV1) :
    Actors.World World Effect Effect.Answer where
  act := execute P .method
  starts := ServerStarts P config

/-- A run of the runner from this directory leads to the scene. -/
def Runs (P : Platform) (config : LiveRunnerServerV1) (start : Directory) (c : RunnerScene) : Prop :=
  Actors.Reachable (serverWorld P config) (fun w => w = ⟨start, [], []⟩) c

/-! ## The rule -/

/-- The terminal event of a session that was loaded while it was stopping. -/
def FromStopping (P : Platform) (h : List RunnerEvent) (target : String) (event : RunnerEventV1) : Prop :=
  ∃ id record secrets now, ⟨.store (.load id), .ok (record, secrets)⟩ ∈ h ∧
    target = record.brokerSessionID ∧ ¬ record.terminal ∧ record.stopping = true ∧
    event = terminalEvent P record now

/-- The first key this program records, from a secret it has drawn. -/
def FromDraw (h : List RunnerEvent) (id : String) (request : StreamKeyIssueRequestV1)
    (response : StreamKeyIssueResponseV1) : Prop :=
  (∀ other otherRequest otherResponse answer,
    ⟨.store (.recordKeyIssue other otherRequest otherResponse), answer⟩ ∉ h) ∧
  response.requestID = request.requestID ∧
  ∃ path record secrets secret, ⟨.store (.loadByRunnerSessionID path), .ok (record, some secrets)⟩ ∈ h ∧
    id = record.brokerSessionID ∧ ⟨.random .server 32, some secret⟩ ∈ h ∧
    buildPrivateIngestStreamKeyV1 record.runnerSessionID (NodeText.hexText secret) =
      some response.streamKey

/-- The session of the request was recorded, and then found running with this response sealed. -/
def FromCreate (h : List RunnerEvent) (body : RunnerCreateRequestV1) (response : RunnerCreateResponseV1) :
    Prop :=
  ∃ made now record secrets replay current sealed,
    ⟨.store (.createOrReplay body made now), .ok (record, secrets, replay)⟩ ∈ h ∧
    ⟨.store (.load record.brokerSessionID), .ok (current, some sealed)⟩ ∈ h ∧
    ¬ (current.state ≠ .active ∨ current.stopping) ∧ response = sealed.createResponse

/-- The session was found running, and its current key is the one presented. -/
def FromLookup (P : Platform) (h : List RunnerEvent) (request : MediaMTXAuthRequestV1) : Prop :=
  ∃ id record secrets now, parseMediaPathV1 request.path = some (.ingest id) ∧
    ⟨.store (.loadByRunnerSessionID id), .ok (record, some secrets)⟩ ∈ h ∧
    ¬ (record.state ≠ .active ∨ record.stopping) ∧ ingestPublishAllowed P record secrets now request = true

def serverRule (P : Platform) (h : List RunnerEvent) : Effect → Prop
  | .receive _ => h = []
  | .store (.advance id event) => event.state = .active ∨ FromStopping P h id event
  | .store (.recordKeyIssue id request response) => FromDraw h id request response
  | .store (.createOrReplay request _ _) => ∃ authorization,
      ⟨.receive (.create authorization (some request)), ()⟩ ∈ h
  | .respond request (.created response) => ∃ authorization body,
      request = .create authorization (some body) ∧ ⟨.receive request, ()⟩ ∈ h ∧ FromCreate h body response
  | .respond request (.issued response) => ∃ id path authorization issue fresh replay,
      request = .streamKey path authorization (some issue) ∧ ⟨.receive request, ()⟩ ∈ h ∧
      ⟨.store (.recordKeyIssue id issue fresh), .ok (response, replay)⟩ ∈ h
  | .respond (.authorize request) .authorized => request.ingestPublish → FromLookup P h request
  | _ => True

/-! ## Walking the programs -/

section
variable {P : Platform} {config : LiveRunnerServerV1} {α β : Type} {h : List RunnerEvent}

variable {may : List RunnerEvent → Effect → Prop} {post : List RunnerEvent → β → Prop}
  {authorization : String}

theorem obeys_call_bind {k : e.Answer → RunnerProg α} {f : α → RunnerProg β} (he : may h e)
    (hf : ∀ answer, Obeys may post (k answer >>= f) (h ++ [⟨e, answer⟩])) :
    Obeys may post (.call e k >>= f) h := ⟨he, hf⟩

theorem obeys_ask
    {call : StoreCall} {f : Result call.Answer → RunnerProg β} (hcall : may h (.store call))
    (hf : ∀ answer, Obeys may post (f answer) (h ++ [⟨.store call, answer⟩])) :
    Obeys may post (ask call >>= f) h := ⟨hcall, hf⟩

theorem obeys_clock {f : Time → RunnerProg β} (hnow : may h .now)
    (hf : ∀ now : Time, Obeys may post (f now) (h ++ [⟨.now, now⟩])) :
    Obeys may post (clock >>= f) h := ⟨hnow, hf⟩

theorem mem_last {event : RunnerEvent} : event ∈ h ++ [event] :=
  List.mem_append_right h (List.mem_singleton.mpr rfl)

theorem mem_more {event more : RunnerEvent} (hevent : event ∈ h) : event ∈ h ++ [more] :=
  List.mem_append_left _ hevent

theorem rule_of_ensures (he : e.ensures) : serverRule P h e := by
  unfold Effect.ensures at he
  split at he
  · exact .inl he.2.1
  · trivial
  · trivial
  · exact he.elim

theorem rule_of_delivers (he : e.delivers) : serverRule P h e := by
  unfold Effect.delivers at he
  split at he <;> trivial

theorem Within.obeys {kind : Effect → Prop} {p : RunnerProg α} (hp : Within kind p)
    (hkind : ∀ h e, kind e → serverRule P h e) :
    Obeys (serverRule P) (fun h' _ => h <+: h') p h :=
  (((hp h).mono fun h e => hkind h e).extends).weaken fun _ _ hpost => hpost.1

theorem ensureSession_obeys (record : SessionRecordV1) (secrets : SessionSecretsV1) :
    Obeys (serverRule P) (fun h' _ => h <+: h') (ensureSession P record secrets) h :=
  (ensureSession_within record secrets).obeys fun _ _ => rule_of_ensures

theorem loadRecord_obeys (id : String) : Obeys (serverRule P) (fun _ _ => True) (loadRecord id) h := by
  refine obeys_ask trivial fun answer => ?_
  rcases answer with e | ⟨record, secrets⟩ <;> trivial

theorem finalizeLiveTerminationV1_obeys (id : String) (now : Time) :
    Obeys (serverRule P) (fun _ _ => True) (finalizeLiveTerminationV1 P id now) h := by
  unfold finalizeLiveTerminationV1
  split
  · trivial
  · refine obeys_ask trivial fun answer => ?_
    rcases answer with e | ⟨record, secrets⟩
    · trivial
    · dsimp only
      split
      · trivial
      · rename_i hterminal
        split
        · trivial
        · rename_i hstopping
          rw [not_not] at hstopping
          refine obeys_ask (.inr ⟨id, record, secrets, now, mem_last, rfl, hterminal, hstopping, rfl⟩)
            fun advanced => ?_
          rcases advanced with e | _
          · cases e with
            | sessionTerminal => exact loadRecord_obeys _
            | _ => trivial
          · exact loadRecord_obeys _

theorem completeLiveTerminationV1_obeys (record : SessionRecordV1) (now : Time) :
    Obeys (serverRule P) (fun _ _ => True) (completeLiveTerminationV1 P record now) h := by
  unfold completeLiveTerminationV1
  split
  · trivial
  · refine obeys_call_bind trivial fun result => ?_
    rcases result with e | _
    · trivial
    · exact finalizeLiveTerminationV1_obeys _ _

theorem recoverSession_obeys (id : String) :
    Obeys (serverRule P) (fun _ _ => True) (recoverSession P id) h := by
  unfold recoverSession
  refine obeys_ask trivial fun loaded => ?_
  rcases loaded with e | ⟨record, secrets⟩
  · trivial
  · dsimp only
    split
    · refine obeys_clock trivial fun now => ?_
      refine (completeLiveTerminationV1_obeys record now).bind fun h' result _ => ?_
      split <;> trivial
    · split
      · trivial
      · split
        · exact (ensureSession_obeys _ _).weaken fun _ _ _ => trivial
        · refine obeys_call_bind trivial fun result => ?_
          rcases result with e | _
          · trivial
          · refine obeys_ask trivial fun result => ?_
            rcases result with e | _
            · trivial
            · exact (ensureSession_obeys _ _).weaken fun _ _ _ => trivial

theorem recoverEach_obeys (records : List SessionRecordV1) :
    Obeys (serverRule P) (fun _ _ => True) (recoverEach P records) h := by
  induction records generalizing h with
  | nil => trivial
  | cons candidate rest ih =>
    unfold recoverEach
    split
    · exact ih
    · refine (recoverSession_obeys _).bind fun h' result _ => ?_
      split
      · trivial
      · exact ih

theorem recoverLiveSessionsV1_obeys :
    Obeys (serverRule P) (fun _ _ => True) (recoverLiveSessionsV1 P) h := by
  refine obeys_ask trivial fun result => ?_
  rcases result with e | records
  · trivial
  · exact recoverEach_obeys records

theorem failSession_obeys (record : SessionRecordV1) (reason : String) (joins : Bool) :
    Obeys (serverRule P) (fun _ _ => True) (failSession P record reason joins) h := by
  unfold failSession
  refine obeys_ask trivial fun answer => ?_
  rcases answer with e | ⟨stopping, begun⟩
  · trivial
  · dsimp only
    split
    · trivial
    · refine obeys_call_bind trivial fun kicked => ?_
      rcases kicked with e | _
      · trivial
      · have hend : ∀ h', Obeys (serverRule P) (fun _ _ => True)
            (clock >>= fun now => discard (finalizeLiveTerminationV1 P record.brokerSessionID now)) h' :=
          fun h' => obeys_clock trivial fun now =>
            (finalizeLiveTerminationV1_obeys _ now).bind fun _ _ _ => trivial
        cases joins with
        | false => exact hend _
        | true =>
          refine obeys_call_bind trivial fun joined => ?_
          rcases joined with e | _
          · trivial
          · exact hend _

/-! ## Walking the handlers -/

/-- A handler keeps the rule and ends with a response the rule allows. -/
def Answers (P : Platform) (request : Request) (p : RunnerProg Response) (h : List RunnerEvent) : Prop :=
  Obeys (serverRule P) (fun h response => serverRule P h (.respond request response)) p h

theorem randomHexV1_obeys (source : RandomSource) (front : String) (size : Nat) :
    Obeys (serverRule P) (fun h' text => ∀ value, text = some value → ∃ body : List UInt8,
      value = front ++ NodeText.hexText body ∧ h' = h ++ [⟨.random source size, some body⟩])
      (randomHexV1 source front size) h := by
  refine obeys_call_bind trivial fun drawn => ?_
  cases drawn with
  | none =>
    intro value hvalue
    cases hvalue
  | some body =>
    intro value hvalue
    split at hvalue
    · cases hvalue
      exact ⟨body, rfl, rfl⟩
    · cases hvalue

def Effect.draws : Effect → Prop
  | .random .factory _ | .now => True
  | _ => False

theorem randomHexV1_within (front : String) (size : Nat) :
    Within Effect.draws (randomHexV1 .factory front size) := by
  refine .bind (.call trivial fun _ => .pure _) fun drawn => ?_
  cases drawn <;> exact .pure _

theorem create_within (f : RunnerResponseFactoryV1) : Within Effect.draws (f.create P) := by
  unfold RunnerResponseFactoryV1.create
  split
  · exact .pure _
  · refine (randomHexV1_within _ _).bind fun runnerID => ?_
    cases runnerID with
    | none => exact .pure _
    | some runnerID =>
      refine (randomHexV1_within _ _).bind fun grantID => ?_
      cases grantID with
      | none => exact .pure _
      | some grantID =>
        refine (randomHexV1_within _ _).bind fun grantSecret => ?_
        cases grantSecret with
        | none => exact .pure _
        | some grantSecret =>
          refine .bind (.call trivial fun _ => .pure _) fun now => ?_
          dsimp only
          split <;> exact .pure _

theorem rule_of_draws (he : e.draws) : serverRule P h e := by
  unfold Effect.draws at he
  split at he <;> trivial

theorem startCreated_answers {body : RunnerCreateRequestV1}
    {made : RunnerCreateResponseV1} {now : Time}
    {replay : Bool} (hreceived : ⟨.receive (.create authorization (some body)), ()⟩ ∈ h)
    (hcreated : ⟨.store (.createOrReplay body made now), .ok (record, secrets, replay)⟩ ∈ h) :
    Answers P (.create authorization (some body)) (startCreated P record.brokerSessionID) h := by
  refine obeys_ask trivial fun answer => ?_
  rcases answer with e | ⟨current, sealed⟩
  · trivial
  · dsimp only
    split
    · trivial
    · rename_i hrunning
      cases sealed with
      | none => trivial
      | some sealed =>
        refine (ensureSession_obeys current sealed).bind fun h' ensured hmore => ?_
        split
        · trivial
        · trivial
        · exact ⟨authorization, body, rfl, hmore.subset (mem_more hreceived), made, now, record, secrets,
            replay, current, sealed, hmore.subset (mem_more hcreated), hmore.subset mem_last, hrunning, rfl⟩

theorem handleCreate_answers {body : Option RunnerCreateRequestV1}
    (hreceived : ⟨.receive (.create authorization body), ()⟩ ∈ h) :
    Answers P (.create authorization body) (handleCreate P config body) h := by
  unfold handleCreate
  cases body with
  | none => trivial
  | some request =>
    dsimp only
    split
    · trivial
    · refine obeys_call_bind trivial fun validated => ?_
      rcases validated with e | _
      · trivial
      · refine ((create_within config.factory).obeys fun _ _ => rule_of_draws).bind
          fun h' made hmore => ?_
        rcases made with text | response
        · trivial
        · refine obeys_clock trivial fun now => ?_
          have hstill : (⟨.receive (.create authorization (some request)), ()⟩ : RunnerEvent) ∈
              h' ++ [⟨.now, now⟩] := mem_more (hmore.subset (mem_more hreceived))
          refine obeys_ask ⟨authorization, hstill⟩ fun answer => ?_
          rcases answer with e | ⟨record, secrets, replay⟩
          · cases e <;> trivial
          · exact startCreated_answers (mem_more hstill) mem_last

theorem handleTerminate_answers {request : Request} (id : String) (reason : Option String) :
    Answers P request (handleTerminate P id reason) h := by
  unfold handleTerminate
  cases reason with
  | none => trivial
  | some reason =>
    dsimp only
    split
    · trivial
    · refine obeys_ask trivial fun answer => ?_
      rcases answer with e | ⟨record, secrets⟩
      · cases e <;> trivial
      · dsimp only
        split
        · trivial
        · refine obeys_ask trivial fun answer => ?_
          rcases answer with e | ⟨stopping, begun⟩
          · trivial
          · refine obeys_clock trivial fun now => ?_
            refine (completeLiveTerminationV1_obeys stopping now).bind fun h' result _ => ?_
            split <;> trivial

theorem handOut_answers {id path : String} {fresh response : StreamKeyIssueResponseV1} {replay : Bool}
    (hreceived : ⟨.receive (.streamKey path authorization (some issue)), ()⟩ ∈ h)
    (hrecorded : ⟨.store (.recordKeyIssue id issue fresh), .ok (response, replay)⟩ ∈ h) :
    Answers P (.streamKey path authorization (some issue)) (handOut id issue.requestID response) h := by
  have hissued : ∀ h', h <+: h' → serverRule P h'
      (.respond (.streamKey path authorization (some issue)) (.issued response)) := fun h' hmore =>
    ⟨id, path, authorization, issue, fresh, replay, rfl, hmore.subset hreceived, hmore.subset hrecorded⟩
  refine obeys_ask trivial fun answer => ?_
  rcases answer with e | ⟨current, secrets⟩
  · trivial
  · dsimp only
    split
    · refine obeys_call_bind trivial fun activated => ?_
      rcases activated with e | _
      · trivial
      · refine obeys_ask trivial fun completed => ?_
        rcases completed with e | _
        · trivial
        · exact hissued _ (by simp)
    · exact hissued _ (by simp)

theorem issueKey_answers {path : String} {grantExpiry : Time}
    (hreceived : ⟨.receive (.streamKey path authorization (some issue)), ()⟩ ∈ h)
    (hlookup : ⟨.store (.loadByRunnerSessionID path), .ok (record, some secrets)⟩ ∈ h)
    (hfirst : ∀ other request response answer,
      ⟨.store (.recordKeyIssue other request response), answer⟩ ∉ h) :
    Answers P (.streamKey path authorization (some issue)) (issueKey P config record grantExpiry issue) h := by
  refine (randomHexV1_obeys .server "" 32).bind fun h' drawn hdrawn => ?_
  cases drawn with
  | none => trivial
  | some secret =>
    obtain ⟨body, hsecret, rfl⟩ := hdrawn secret rfl
    dsimp only
    split
    · trivial
    · rename_i streamKey hkey
      refine obeys_clock trivial fun now => ?_
      have hdraws : FromDraw (h ++ [⟨.random .server 32, some body⟩] ++ [⟨.now, now⟩])
          record.brokerSessionID issue
          ⟨issue.requestID, streamKey, P.formatRFC3339 (min (now + config.keyTTL) grantExpiry)⟩ := by
        refine ⟨?_, rfl, path, record, secrets, body, mem_more (mem_more hlookup), rfl,
          mem_more mem_last, ?_⟩
        · intro other request response answer hmem
          simp only [List.mem_append, List.mem_singleton] at hmem
          rcases hmem with (hmem | hmem) | hmem
          · exact hfirst other request response answer hmem
          · cases hmem
          · cases hmem
        · rw [← hkey, hsecret]
          simp
      refine obeys_ask hdraws fun answer => ?_
      rcases answer with e | ⟨recorded, replay⟩
      · cases e <;> trivial
      · exact handOut_answers (mem_more (mem_more (mem_more hreceived))) mem_last

theorem handleStreamKey_answers {path : String} {body : Option StreamKeyIssueRequestV1} :
    Answers P (.streamKey path authorization body) (handleStreamKey P config path authorization body)
      [⟨.receive (.streamKey path authorization body), ()⟩] := by
  unfold handleStreamKey
  refine obeys_ask trivial fun answer => ?_
  rcases answer with e | ⟨record, secrets⟩
  · trivial
  · cases secrets with
    | none => trivial
    | some secrets =>
      dsimp only
      split
      · trivial
      · split
        · trivial
        · split
          · trivial
          · refine obeys_clock trivial fun now => ?_
            split
            · trivial
            · cases body with
              | none => trivial
              | some issue =>
                dsimp only
                split
                · trivial
                · refine issueKey_answers (by simp) (mem_more mem_last) ?_
                  intro other request response answer hmem
                  simp only [List.mem_append, List.mem_singleton] at hmem
                  rcases hmem with (hmem | hmem) | hmem <;> cases hmem

theorem authorize_obeys (request : MediaMTXAuthRequestV1) :
    Obeys (serverRule P) (fun h' allowed => allowed = true → request.ingestPublish →
      FromLookup P h' request) (authorize P config request) h := by
  unfold authorize
  split
  · nofun
  · split
    · nofun
    · rename_i path hpath
      refine obeys_ask trivial fun answer => ?_
      rcases answer with e | ⟨record, secrets⟩
      · nofun
      · cases secrets with
        | none => nofun
        | some secrets =>
          dsimp only
          split
          · nofun
          · rename_i hrunning
            split
            · rename_i id hprotocol haction
              split
              · nofun
              · refine obeys_clock trivial fun now => ?_
                intro hallowed _
                exact ⟨id, record, secrets, now, hpath, mem_more mem_last, hrunning, hallowed⟩
            · rename_i hprotocol haction
              rintro - ⟨-, -, hpublish⟩
              rw [hpublish] at haction
              simp at haction
            · rintro - ⟨⟨id, hingest⟩, -⟩
              rw [hpath] at hingest
              cases hingest
            · rintro - ⟨⟨id, hingest⟩, -⟩
              rw [hpath] at hingest
              cases hingest
            · nofun

theorem handle_answers (request : Request) :
    Answers P request (handle P config request) [⟨.receive request, ()⟩] := by
  cases request with
  | create authorization body =>
    dsimp only [handle]
    split
    · exact handleCreate_answers (List.mem_singleton.mpr rfl)
    · trivial
  | terminate id authorization reason =>
    dsimp only [handle]
    split
    · exact handleTerminate_answers id reason
    · trivial
  | streamKey id authorization body => exact handleStreamKey_answers
  | authorize request =>
    refine (authorize_obeys request).bind fun h' allowed hallowed => ?_
    split
    · rename_i hyes
      exact hallowed hyes
    · trivial

theorem server_obeys {p : RunnerProg Unit} (hp : ServerStarts P config p) :
    Obeys (serverRule P) (fun _ _ => True) p [] := by
  cases hp with
  | serve request =>
    refine ⟨rfl, fun _ => ?_⟩
    exact (handle_answers request).bind fun h' response hresponse => ⟨hresponse, fun _ => trivial⟩
  | fail record reason joins => exact failSession_obeys record reason joins
  | recover => exact recoverLiveSessionsV1_obeys.bind fun _ _ _ => trivial
  | sweep => exact (sweepOnce_within.obeys fun _ _ => rule_of_delivers).bind fun _ _ _ => trivial
  | observe call hcall =>
    refine ⟨?_, fun _ => trivial⟩
    cases call <;> trivial

end

/-! ## Sample runs

The store without faults and an environment that says yes, so that a program can be run. -/

def plainPlatform : Platform where
  sha256Hex _ := "6a38a7a82234305c84024633fbe25e93e24bb751e9e671964eb5d676beb01732"
  hmacSHA256Hex _ _ := ""
  formatRFC3339 _ := "2033-05-18T03:33:20Z"
  formatNano _ := sampleStamp
  parseNano text := if text = sampleStamp then some sampleTime else none
  parseRFC3339 text := if text = "2033-05-18T03:33:20Z" then some 2000000000000000000 else none
  parseURL text := some ⟨if text.toList.head? = some 'r' then "rtmp" else "http", "r", false, "", "", ""⟩

def plainServer : LiveRunnerServerV1 where
  factory := ⟨"rtmp://r", "http://r", 3600⟩
  brokerToken := ""
  keyTTL := 3600
  internalTokenRoot := "0123456789abcdef0123456789abcdef"

/-- The answer to one call; every secret that is drawn repeats this byte. -/
def plainAnswer (P : Platform) (seed : UInt8) (w : World) : (e : Effect) → e.Answer × World
  | .store call => ((call.run P noFaults w.dir).1, w.call P call noFaults)
  | .post id _ _ event =>
    (.transportError, { w with posts := w.posts ++ [⟨id, event, (pendingAt w.dir id).head?⟩] })
  | .admission .. => (.admitted, w)
  | .terminateRuntime _ | .activateStreamKey _ | .validateSession _ | .kickPublisher _
  | .joinLadder _ => (.ok (), w)
  | .now => (sampleTime, w)
  | .receive _ | .respond .. => ((), w)
  | .random _ size => (some (List.replicate size seed), w)

theorem plainAnswer_acts (P : Platform) (config : LiveRunnerServerV1) (seed : UInt8) (w : World)
    (e : Effect) :
    (serverWorld P config).act w e (plainAnswer P seed w e).1 (plainAnswer P seed w e).2 := by
  cases e with
  | store call => exact ⟨noFaults, rfl, rfl⟩
  | post => rfl
  | _ => rfl

/-- The scene after a program has started and was followed for so many calls. -/
def RunnerScene.enter (c : RunnerScene) (P : Platform) (n count : Nat) (seed : UInt8)
    (p : RunnerProg Unit) : RunnerScene :=
  ⟨(simulate (plainAnswer P seed) count c.shared p).1,
    c.log ++ (simulate (plainAnswer P seed) count c.shared p).2.1.map (fun event => (n, event)),
    ⟨n, p, (simulate (plainAnswer P seed) count c.shared p).2.2⟩ :: c.actors⟩

def RunnerScene.Fresh (c : RunnerScene) (n : Nat) : Prop :=
  (∀ entry ∈ c.log, entry.1 ≠ n) ∧ ∀ a ∈ c.actors, a.number ≠ n

theorem RunnerScene.Fresh.enter {c : RunnerScene} {n m : Nat} (h : c.Fresh n) (hne : m ≠ n) (P : Platform)
    (count : Nat) (seed : UInt8) (p : RunnerProg Unit) : (c.enter P m count seed p).Fresh n := by
  constructor
  · intro entry hentry
    rcases List.mem_append.mp hentry with hold | hnew
    · exact h.1 entry hold
    · obtain ⟨event, -, rfl⟩ := List.mem_map.mp hnew
      exact hne
  · intro a ha
    rcases List.mem_cons.mp ha with rfl | hold
    · exact hne
    · exact h.2 a hold

theorem Runs.enter {P : Platform} {config : LiveRunnerServerV1} {start : Directory} {c : RunnerScene}
    {p : RunnerProg Unit} (h : Runs P config start c) {n : Nat} (hfresh : c.Fresh n) (count : Nat)
    (seed : UInt8) (hp : ServerStarts P config p) : Runs P config start (c.enter P n count seed p) :=
  Actors.Reachable.enters h hp hfresh.1 hfresh.2 (simulate_reaches _ _ _ _)
    (simulate_acts (plainAnswer_acts P config seed) _ _ _)

def emptyScene : RunnerScene := ⟨⟨∅, [], []⟩, [], []⟩

theorem emptyScene_fresh (n : Nat) : emptyScene.Fresh n :=
  ⟨fun _ hmem => absurd hmem List.not_mem_nil, fun _ hmem => absurd hmem List.not_mem_nil⟩

theorem emptyScene_runs (P : Platform) (config : LiveRunnerServerV1) : Runs P config ∅ emptyScene :=
  .initial rfl

def createSample : RunnerProg Unit := serve plainPlatform plainServer (.create "" (some sampleRequest))

def servedScene : RunnerScene := emptyScene.enter plainPlatform 0 13 0 createSample

theorem servedScene_runs : Runs plainPlatform plainServer ∅ servedScene :=
  (emptyScene_runs plainPlatform plainServer).enter (emptyScene_fresh 0) 13 0 (.serve _)

theorem servedScene_fresh {n : Nat} (hn : 0 ≠ n) : servedScene.Fresh n :=
  (emptyScene_fresh n).enter hn plainPlatform 13 0 createSample

end LivepeerTranscode.LiveRunner
