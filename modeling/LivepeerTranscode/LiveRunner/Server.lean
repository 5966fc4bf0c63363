import LivepeerTranscode.LiveRunner.Programs
import LivepeerTranscode.Shared.NodeText

/-!
# The runner's HTTP server

The handlers of `live-runner/server.go`, the authorization hook of `media.go` and the failure
path of `runtime.go`, as programs. A handler starts with the request it receives and ends with
the response it writes. The per-session lock of the handlers is left out, so that more
interleavings are allowed than the code has.
-/

namespace LivepeerTranscode.LiveRunner
open Checked GoText GoUrl Interaction JsonText
set_option autoImplicit false

structure RunnerResponseFactoryV1 where
  publicRTMPBase : String
  publicHTTPBase : String
  grantTTL : Int

/-- The configuration of the server and of the media authorizer. -/
structure LiveRunnerServerV1 where
  factory : RunnerResponseFactoryV1
  brokerToken : String
  keyTTL : Int
  internalTokenRoot : String

def trimSlashes (text : String) : String :=
  String.ofList (text.toList.reverse.dropWhile (· == '/')).reverse

def joinPublicURLV1 (base suffix : String) : String := trimSlashes base ++ "/" ++ suffix

/-- `strings.CutPrefix(header, "Bearer ")` -/
def bearerToken (header : String) : Option String :=
  if "Bearer ".toList.isPrefixOf header.toList then some (String.ofList (header.toList.drop 7)) else none

def drawRandom (source : RandomSource) (size : Nat) : RunnerProg (Option (List UInt8)) :=
  .call (Effect.random source size) .pure

def randomHexV1 (source : RandomSource) (front : String) (size : Nat) : RunnerProg (Option String) := do
  match ← drawRandom source size with
  | none => return none
  | some body => return if body.length = size then some (front ++ NodeText.hexText body) else none

def validateSession (request : RunnerCreateRequestV1) : RunnerProg (Result Unit) :=
  .call (Effect.validateSession request) .pure

def kickPublisher (runnerSessionID : String) : RunnerProg (Result Unit) :=
  .call (Effect.kickPublisher runnerSessionID) .pure

def joinLadder (runnerSessionID : String) : RunnerProg (Result Unit) :=
  .call (Effect.joinLadder runnerSessionID) .pure

section
variable (P : Platform) (config : LiveRunnerServerV1)

def RunnerResponseFactoryV1.validate (f : RunnerResponseFactoryV1) : Check := do
  deny (¬ accepted (validateURLScheme P f.publicRTMPBase ["rtmp", "rtmps"])) "public RTMP URL is invalid"
  deny ((P.parseURL f.publicRTMPBase).any fun parsed =>
      trimSlashes parsed.path != "" || parsed.rawQuery != "" || parsed.fragment != "")
    "public RTMP URL must be an origin without a path"
  deny (¬ accepted (validateHTTPURL P f.publicHTTPBase) ∨
      ((P.parseURL f.publicHTTPBase).any fun parsed => parsed.rawQuery != "" || parsed.fragment != "") ∨
      f.grantTTL ≤ 0)
    "public HTTP base URL or grant TTL is invalid"

def runnerResponse (f : RunnerResponseFactoryV1) (runnerID grantID grantSecret : String) (now : Time) :
    RunnerCreateResponseV1 :=
  let escaped := String.ofList (pathEscape (goBytes runnerID))
  { runnerSessionID := runnerID
    runtime :=
      { schema := runtimeSchemaV1
        runtimePublic :=
          { rtmpURL := joinPublicURLV1 f.publicRTMPBase "ingest"
            hlsURL := joinPublicURLV1 f.publicHTTPBase ("v1/public/sessions/" ++ escaped ++ "/master.m3u8")
            keyIssueURL := joinPublicURLV1 f.publicHTTPBase ("v1/sessions/" ++ escaped ++ "/stream-keys")
            statusURL := joinPublicURLV1 f.publicHTTPBase ("v1/public/sessions/" ++ escaped ++ "/status") }
        grants :=
          [{ id := grantID, operations := [grantOperationV1], secret := grantSecret,
             expiresAt := P.formatRFC3339 (now + f.grantTTL) }] } }

def RunnerResponseFactoryV1.create (f : RunnerResponseFactoryV1) :
    RunnerProg (Except String RunnerCreateResponseV1) := do
  match f.validate P with
  | .error text => return .error text
  | .ok _ =>
    match ← randomHexV1 .factory "runner_" 16 with
    | none => return .error "runner session identity generation failed"
    | some runnerID =>
      match ← randomHexV1 .factory "grant_" 16 with
      | none => return .error "runner grant identity generation failed"
      | some grantID =>
        match ← randomHexV1 .factory "" 32 with
        | none => return .error "runner grant generation failed"
        | some grantSecret =>
          let now ← clock
          let response := runnerResponse P f runnerID grantID grantSecret now
          match validateCreateResponseV1 P response with
          | .error text => return .error text
          | .ok _ => return .ok response

/-- `brokerAuthV1`; without a token every request passes. -/
def brokerAuthorized (authorization : String) : Bool :=
  config.brokerToken == "" || (bearerToken authorization).any fun token =>
    secureEqualV1 P (goBytes token) (goBytes config.brokerToken)

/-- What follows the recorded session of a create request. -/
def startCreated (id : String) : RunnerProg Response := do
  match ← ask (.load id) with
  | .error _ => return .error 503 "state_unavailable"
  | .ok (record, currentSecrets) =>
    if record.state ≠ .active ∨ record.stopping then return .error 410 "session_terminal"
    else match currentSecrets with
      | none => return .error 410 "session_terminal"
      | some secrets =>
        match ← ensureSession P record secrets with
        | .error .gpuAdmissionCapacity => return .error 429 "capacity_reached"
        | .error _ => return .error 503 "runtime_unavailable"
        | .ok _ => return .created secrets.createResponse

/-- `handleCreateV1` -/
def handleCreate (body : Option RunnerCreateRequestV1) : RunnerProg Response := do
  match body with
  | none => return .error 400 "invalid_request"
  | some request =>
    if ¬ accepted (validateCreateRequestV1 P request) then return .error 400 "invalid_request"
    else
      match ← validateSession request with
      | .error _ => return .error 400 "invalid_session_params"
      | .ok _ =>
        match ← config.factory.create P with
        | .error _ => return .error 503 "runtime_unavailable"
        | .ok response =>
          let now ← clock
          match ← ask (.createOrReplay request response now) with
          | .error .sessionIDReuse => return .error 409 "runner_session_id_reuse"
          | .error .sessionTerminal => return .error 410 "session_terminal"
          | .error _ => return .error 503 "state_unavailable"
          | .ok (record, _, _) => startCreated P record.brokerSessionID

/-- `handleTerminateV1` -/
def handleTerminate (id : String) (reason : Option String) : RunnerProg Response := do
  match reason with
  | none => return .error 400 "invalid_request"
  | some reason =>
    if ¬ validCloseReasonV1 reason then return .error 400 "invalid_request"
    else
      match ← ask (.loadByRunnerSessionID id) with
      | .error .notExist => return .noContent
      | .error _ => return .error 503 "state_unavailable"
      | .ok (record, _) =>
        if record.state ≠ .active then
          return .terminated ⟨record.runnerSessionID, record.state, record.closeReason⟩
        else
          match ← ask (.beginTermination record.brokerSessionID reason) with
          | .error _ => return .error 503 "state_unavailable"
          | .ok (stopping, _) =>
            let now ← clock
            match ← completeLiveTerminationV1 P stopping now with
            | .error _ => return .error 503 "runtime_unavailable"
            | .ok done => return .terminated ⟨done.runnerSessionID, done.state, done.closeReason⟩

/-- What follows a recorded key: the rotation is activated before the key is handed out. -/
def handOut (id requestID : String) (response : StreamKeyIssueResponseV1) : RunnerProg Response := do
  match ← ask (.load id) with
  | .error _ => return .error 503 "state_unavailable"
  | .ok (current, _) =>
    if current.pendingKeyActivationID = requestID then
      match ← activateStreamKey current with
      | .error _ => return .error 503 "runtime_unavailable"
      | .ok _ =>
        match ← ask (.completeKeyActivation id requestID) with
        | .error _ => return .error 503 "state_unavailable"
        | .ok _ => return .issued response
    else return .issued response

/-- A fresh key for the request, recorded and handed out. -/
def issueKey (record : SessionRecordV1) (grantExpiry : Time) (issue : StreamKeyIssueRequestV1) :
    RunnerProg Response := do
  match ← randomHexV1 .server "" 32 with
  | none => return .error 503 "credential_generation_failed"
  | some secret =>
    match buildPrivateIngestStreamKeyV1 record.runnerSessionID secret with
    | none => return .error 503 "credential_generation_failed"
    | some streamKey =>
      let now ← clock
      let expiresAt := min (now + config.keyTTL) grantExpiry
      let response : StreamKeyIssueResponseV1 :=
        { requestID := issue.requestID, streamKey := streamKey, expiresAt := P.formatRFC3339 expiresAt }
      match ← ask (.recordKeyIssue record.brokerSessionID issue response) with
      | .error .requestIDReuse => return .error 409 "request_id_reuse"
      | .error .requestSuperseded => return .error 409 "request_id_superseded"
      | .error .keyActivationInFlight => return .error 409 "key_activation_in_flight"
      | .error _ => return .error 503 "state_unavailable"
      | .ok (recorded, _) => handOut record.brokerSessionID issue.requestID recorded

/-- `handleStreamKeyV1` -/
def handleStreamKey (id authorization : String) (body : Option StreamKeyIssueRequestV1) :
    RunnerProg Response := do
  match ← ask (.loadByRunnerSessionID id) with
  | .error _ => return .error 401 "unauthorized"
  | .ok (record, secrets) =>
    match secrets with
    | none => return .error 401 "unauthorized"
    | some secrets =>
      if record.state ≠ .active ∨ record.stopping then return .error 401 "unauthorized"
      else if ¬ (bearerToken authorization).any fun token => secureEqualV1 P
          (goBytes (secretSHA256V1 P token)) (goBytes record.grantAudit.secretSHA256) then
        return .error 401 "unauthorized"
      else
        match P.parseRFC3339 record.grantAudit.expiresAt with
        | none => return .error 401 "unauthorized"
        | some grantExpiry =>
          let now ← clock
          if grantExpiry ≤ now then return .error 401 "unauthorized"
          else match body with
            | none => return .error 400 "invalid_request"
            | some issue =>
              if ¬ accepted (validateStreamKeyIssueRequestV1 issue) ∨
                  issue.audience ≠ secrets.createRequest.sessionParams.publisherMode then
                return .error 400 "invalid_request"
              else issueKey P config record grantExpiry issue

/-- `MediaMTXAuthorizerV1.Authorize` -/
def authorize (request : MediaMTXAuthRequestV1) : RunnerProg Bool :=
  if (goBytes config.internalTokenRoot).length < 32 ∨ (request.protocol ≠ "rtmp" ∧ request.protocol ≠ "hls") then
    return false
  else match parseMediaPathV1 request.path with
    | none => return false
    | some path => do
      match ← ask (.loadByRunnerSessionID path.runnerSessionID) with
      | .error _ => return false
      | .ok (record, secrets) =>
        match secrets with
        | none => return false
        | some secrets =>
          if record.state ≠ .active ∨ record.stopping then return false
          else
            let internal := goBytes (internalMediaTokenV1 P config.internalTokenRoot path.runnerSessionID)
            match path, request.protocol, request.action with
            | .ingest _, "rtmp", "publish" =>
              if record.pendingKeyActivationID ≠ "" then return false
              else do
                let now ← clock
                return ingestPublishAllowed P record secrets now request
            | .ingest _, "rtmp", "read" => return secureEqualV1 P (goBytes request.token) internal
            | .rendition _ _, "rtmp", "publish" => return secureEqualV1 P (goBytes request.token) internal
            | .rendition _ _, "hls", "read" => return true
            | _, _, _ => return false

def handle : Request → RunnerProg Response
  | .create authorization body =>
    if brokerAuthorized P config authorization then handleCreate P config body
    else return .error 401 "unauthorized"
  | .terminate id authorization reason =>
    if brokerAuthorized P config authorization then handleTerminate P id reason
    else return .error 401 "unauthorized"
  | .streamKey id authorization body => handleStreamKey P config id authorization body
  | .authorize request => do
    if ← authorize P config request then return .authorized else return .error 401 "unauthorized"

def serve (request : Request) : RunnerProg Unit :=
  .call (Effect.receive request) fun _ => do
    let response ← handle P config request
    .call (Effect.respond request response) .pure

/-- `failSession`; `joins` is whether a ladder process is still to be joined. -/
def failSession (record : SessionRecordV1) (reason : String) (joins : Bool) : RunnerProg Unit := do
  match ← ask (.beginFailure record.brokerSessionID reason) with
  | .error _ => return ()
  | .ok (stopping, _) =>
    if ¬ stopping.stopping then return ()
    else
      match ← kickPublisher record.runnerSessionID with
      | .error _ => return ()
      | .ok _ =>
        let joined ← if joins then joinLadder record.runnerSessionID else pure (.ok ())
        match joined with
        | .error _ => return ()
        | .ok _ =>
          let now ← clock
          discard (finalizeLiveTerminationV1 P record.brokerSessionID now)

end

end LivepeerTranscode.LiveRunner
