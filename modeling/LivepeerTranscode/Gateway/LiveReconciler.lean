import LivepeerTranscode.Gateway.PaidSessionClient
import LivepeerTranscode.Gateway.PaidSessionStore

/-!
# The reconciler of paid live sessions

`engine/service/paidLiveReconciler.ts`. A scan claims sessions and reconciles each: it winds the
session down, resumes its opening, finishes a refill, applies the advisory frames of the control
socket, or asks the broker for the status and decides from it. What is thrown is recorded as a
retry of the session as it was held at that point, and the claim is given back in the end.
-/

namespace LivepeerTranscode.Gateway
open Checked Interaction JsonText NodeText SessionClient
set_option autoImplicit false

namespace LiveReconciler

/-! ## What is stored -/

structure RefillIntent where
  requestId : String
  observedConsumedUnits : ℚ
  maxTotalUnits : ℚ
  deriving DecidableEq

def RefillIntent.json (intent : RefillIntent) : JsonValue :=
  .obj [("request_id", .str intent.requestId),
    ("observed_consumed_units", .num intent.observedConsumedUnits),
    ("max_total_units", .num intent.maxTotalUnits)]

structure StoredContext where
  handle : PaidSessionControlHandle
  eventsWs : String
  credential : String
  refillIntent : Option RefillIntent

def passthrough : Option JsonValue → Option (List (String × JsonValue))
  | some (.obj members) => some members
  | _ => none

section
variable (P : LivePlatform)

def handleKeys : List String :=
  ["operation_id", "broker_url", "gateway_session_id", "descriptor_schema", "work_unit",
    "settlement_domain_id", "max_total_units"]

/-- The control handle of the stored context, and `controlHandle`. -/
def handleWire (value : Option JsonValue) : Option PaidSessionControlHandle := do
  let members ← SessionClient.strict handleKeys value
  let operationId ← requiredWireText (members.lookup "operation_id")
  let brokerUrl ← wireUrl P (members.lookup "broker_url")
  let gatewaySessionId ← (wireText (members.lookup "gateway_session_id")).filter fun text => P.uuid text
  let descriptorSchema ← requiredWireText (members.lookup "descriptor_schema")
  let workUnit ← requiredWireText (members.lookup "work_unit")
  let settlementDomainId ← (wireText (members.lookup "settlement_domain_id")).filter fun text =>
    settlementDomain text
  let _ ← wirePositive (members.lookup "max_total_units")
  return { operationId, brokerUrl, gatewaySessionId, descriptorSchema, workUnit, settlementDomainId }

def intentWire (value : Option JsonValue) : Option RefillIntent := do
  let members ← SessionClient.strict ["request_id", "observed_consumed_units", "max_total_units"] value
  let requestId ← requiredWireText (members.lookup "request_id")
  let observed ← wireNatural (members.lookup "observed_consumed_units")
  let maxTotalUnits ← wirePositive (members.lookup "max_total_units")
  return { requestId, observedConsumedUnits := observed, maxTotalUnits := maxTotalUnits }

/-- `storedContextWire` -/
def storedContext (secrets : PaidOperationSecrets) : Option StoredContext := do
  let loc ← passthrough secrets.loc
  let handle ← handleWire P (loc.lookup "control_handle")
  let control ← passthrough secrets.control
  let eventsWs ← wireUrl P (control.lookup "eventsWs")
  let credentials ← passthrough secrets.credentials
  let credential ← requiredWireText (credentials.lookup "broker_session_credential")
  let refillIntent ← optionally intentWire secrets.refillIntent
  return { handle, eventsWs, credential, refillIntent }

structure OpeningIntent where
  requestId : String
  keyRequestId : String
  descriptorSchema : String
  estimatedRunwayUnits : Nat
  maxTotalUnits : Nat

def openingIntentWire (value : Option JsonValue) : Option OpeningIntent := do
  let members ← passthrough value
  let requestId ← requiredWireText (members.lookup "request_id")
  let keyRequestId ← requiredWireText (members.lookup "key_request_id")
  let descriptorSchema ← requiredWireText (members.lookup "descriptor_schema")
  let estimatedRunwayUnits ← wirePositive (members.lookup "estimated_runway_units")
  let maxTotalUnits ← wirePositive (members.lookup "max_total_units")
  return { requestId, keyRequestId, descriptorSchema, estimatedRunwayUnits, maxTotalUnits }

def oneOf (texts : List String) (value : Option JsonValue) : Option String :=
  (wireText value).filter fun text => texts.contains text

def wireNonnegative : Option JsonValue → Option ℚ
  | some (.num x) => if 0 ≤ x then some x else none
  | _ => none

/-- `sessionAxesWire`, of which the descriptor is used. -/
def sessionAxesWire (value : Option JsonValue) : Option String := do
  let members ← passthrough value
  let descriptorSchema ← requiredWireText (members.lookup "descriptorSchema")
  let _ ← oneOf ["external", "inband-ws"] (members.lookup "attachment")
  let _ ← oneOf ["runner-reported", "broker-observed"] (members.lookup "metering")
  let _ ← oneOf ["extensible", "bounded"] (members.lookup "refill")
  let heartbeat ← passthrough (members.lookup "heartbeat")
  let _ ← wirePositive (heartbeat.lookup "intervalSeconds")
  let _ ← wirePositive (heartbeat.lookup "missedThreshold")
  let lease ← passthrough (members.lookup "lease")
  let _ ← oneOf ["funding-tracking", "fixed"] (lease.lookup "policy")
  let _ ← optionally wirePositive (lease.lookup "maxSeconds")
  let _ ← optionally wireNonnegative (members.lookup "toleranceBandPct")
  let _ ← optionally wirePositive (members.lookup "runwayIncrementUnits")
  let _ ← optionally passthrough (members.lookup "sessionParamsSchema")
  return descriptorSchema

structure RecoveryRoute where
  workerUrl : String
  ethAddress : String
  sessionDescriptor : String
  settlementKeys : List SettlementKey
  settlementDomainId : String

def settlementKeyWire (value : Option JsonValue) : Option SettlementKey := do
  let members ← passthrough value
  let publicKey ← requiredWireText (members.lookup "publicKey")
  let notBefore ← wireText (members.lookup "notBefore")
  let expiresAt ← wireText (members.lookup "expiresAt")
  let introducedInPublicationSeq ← wireText (members.lookup "introducedInPublicationSeq")
  return { publicKey, notBefore, expiresAt, introducedInPublicationSeq }

def recoveryRouteWire (value : Option JsonValue) : Option RecoveryRoute := do
  let members ← SessionClient.strict ["worker_url", "eth_address", "session", "settlement_keys",
    "work_unit_estimator", "settlement_domain_id"] value
  let workerUrl ← wireUrl P (members.lookup "worker_url")
  let ethAddress ← requiredWireText (members.lookup "eth_address")
  let sessionDescriptor ← sessionAxesWire (members.lookup "session")
  let settlementKeys ← wireList settlementKeyWire (members.lookup "settlement_keys")
  let settlementDomainId ← (wireText (members.lookup "settlement_domain_id")).filter fun text =>
    settlementDomain text
  if settlementKeys = [] then none
  else return { workerUrl, ethAddress, sessionDescriptor, settlementKeys, settlementDomainId }

structure RecoveredRuntime where
  rtmpUrl : String
  hlsUrl : String
  keyIssueUrl : String

def recoveredRuntimeWire (value : JsonValue) : Option RecoveredRuntime := do
  let members ← passthrough (some value)
  let rtmpUrl ← wireUrl P (members.lookup "rtmp_url")
  let hlsUrl ← wireUrl P (members.lookup "hls_url")
  let keyIssueUrl ← wireUrl P (members.lookup "key_issue_url")
  return { rtmpUrl, hlsUrl, keyIssueUrl }

def customerStreamKey (credentials : Option JsonValue) : Option String := do
  let members ← passthrough credentials
  requiredWireText (members.lookup "customer_stream_key")

/-- What a `parse` throws. -/
def parseError : LiveFailure := .error "ZodError"

def parsed {α : Type} (value : Option α) : Except LiveFailure α := orFail parseError value

def timestamp (text : String) : Except LiveFailure Time :=
  match P.parseDate text with
  | some time => .ok time
  | none => .error (.error "paid session timestamp is invalid")

def decimalUnits (text : String) : Except LiveFailure Nat :=
  orFail (.error "paid session units are invalid") (safeDecimal text)

/-- The sum of two numbers, rounded; as a text it is the decimal of that integer. -/
def addUnits (a b : Nat) : Nat := ((Binary64.round ((a : ℚ) + b)).getD 0).num.toNat

/-- `Number(text)`; nothing stands for `NaN`. -/
def number (text : String) : Option ℚ :=
  match decimal text with
  | some n => Binary64.round n
  | none => P.otherNumber text

end

/-! ## The services it needs -/

structure Deps where
  store : PaidSessionStoreOptions
  hasControlSource : Bool
  refillThresholdUnits : ℚ
  maxTotalUnits : ℚ
  maxRefills : ℚ
  disconnectGraceMs : Int

section
variable (P : LivePlatform) (deps : Deps)

def failureCode : LiveFailure → String
  | .client code _ => code
  | .transport e => e.remoteCode.getD e.code
  | _ => "reconcile_failed"

def retryDelaySeconds (retryCount : Int) : LiveFailure → Nat
  | .transport ⟨_, _, _, some seconds⟩ => max 5 seconds
  | _ => min 60 (5 * 2 ^ min (retryCount - 1).toNat 4)

/-- `retryProgress`, over the rest of a progress report. -/
def retryProgress (operation : PaidOperation) (e : LiveFailure) (report : PaidOperationProgress) :
    LiveProg PaidOperationProgress := do
  let now ← invoke LiveCall.now
  let retryCount := operation.retryCount + 1
  return { report with
    retryCount := some retryCount
    lastErrorCode := some (failureCode e)
    nextRetryAt := some (now + retryDelaySeconds retryCount e * 1000) }

def requestWinddown (owned : OwnedPaidSession) (reason : String) : LiveProg Unit := do
  let _ ← SessionStore.recordProgress deps.store owned {
    status := "winddown_requested"
    willRefuseNextRefill := some true
    sessionRuntime := some { owned.runtime with winddownReason := some reason } }
  return ()

/-! ## Winding down -/

def envelopeJson (envelope : LocSettlementEnvelope) : JsonValue :=
  .obj [("payload", .obj envelope.payload), ("signature", .obj [("algorithm", .str "secp256k1"),
    ("canonicalization", .str "jcs"), ("value", .str envelope.signatureValue)])]

def terminalEvidence (workUnit reason : String) (result : PaidSessionEndResult) : PaidTerminalEvidence :=
  { httpStatus := 200
    responseSha256 := P.sha256Hex (utf8Bytes (P.stringify (envelopeJson result.envelope)).toList)
    workUnit := workUnit
    workUnits := toString result.actualUnits
    protocolError := none
    claimSignature := some result.envelope.signatureValue
    closeReason := some (if result.closeReason = "" then reason else result.closeReason) }

def winddownStatus : LiveFailure → String
  | .client "paid_session_close_pending" _ => "winddown_pending"
  | .client _ false => "winddown_failed"
  | _ => "winddown_retry"

def executeWinddown (owned : OwnedPaidSession) (brokerSessionId : String) (handle : PaidSessionControlHandle)
    (credential reason : String) : LiveProg Unit :=
  tryCatch (do
    let result ← end' P {
      opened := handle
      gatewaySessionId := handle.gatewaySessionId
      brokerSessionId := brokerSessionId
      credential := credential
      reason := reason }
    let terminalAt ← invoke LiveCall.now
    let recorded ← SessionStore.recordLiveTerminal owned {
      liveStreamId := owned.liveStreamId
      claimedUnits := toString result.actualUnits
      settlementSequence := toString result.settlementSequence
      evidence := terminalEvidence P owned.operation.route.workUnit reason result
      terminalAt := terminalAt }
    if recorded then invoke (LiveCall.removeRoute brokerSessionId)) fun e => do
      let report ← retryProgress owned.operation e {
        status := winddownStatus e
        sessionRuntime := some { owned.runtime with winddownReason := some reason } }
      let _ ← SessionStore.recordProgress deps.store owned report
      return ()

/-! ## Artifacts -/

/-- The stream is shown as active unless its relay is known to be gone. -/
def showActive (liveStreamId brokerSessionId brokerUrl : String) (relayStatus : RelayStatus) : LiveProg Unit :=
  if relayStatus ≠ .reconnecting ∧ relayStatus ≠ .failed then do
    let lastSeenAt ← invoke LiveCall.now
    attempt (LiveCall.updateStreamStatus liveStreamId "active" {
      sessionId := some brokerSessionId
      workerUrl := some brokerUrl
      lastSeenAt := some lastSeenAt }) fun answer => answer
  else return ()

def ensurePlaybackId (liveStreamId apiKeyId : String) : LiveProg Unit := do
  let playback ← attempt (LiveCall.playbackIdsOf liveStreamId) fun answer => answer
  if playback = [] then
    let bytes ← invoke (LiveCall.randomBytes 12)
    attempt (LiveCall.insertPlaybackId {
      id := "pb_" ++ hexText bytes
      apiKeyId := apiKeyId
      liveStreamId := liveStreamId
      policy := "public"
      tokenRequired := false }) fun answer => answer
  else return ()

def repairLiveArtifacts (operation : PaidOperation) (secrets : PaidOperationSecrets) : LiveProg Unit := do
  let context ← parsed (storedContext P secrets)
  let streamKey ← parsed (customerStreamKey secrets.credentials)
  match truthy operation.liveStreamId, truthy operation.brokerSessionId,
      operation.sessionRuntime, truthy secrets.runnerIngestUrl, truthy secrets.runnerIngestKey with
  | some liveStreamId, some brokerSessionId, some runtime, some ingestUrl, some ingestKey =>
    match truthy runtime.runnerHlsUrl with
    | none => throw incomplete
    | some hlsUrl =>
      showActive liveStreamId brokerSessionId context.handle.brokerUrl runtime.relayStatus
      ensurePlaybackId liveStreamId operation.apiKeyId
      invoke (LiveCall.recordRoute {
        streamId := liveStreamId
        sessionId := brokerSessionId
        brokerUrl := context.handle.brokerUrl
        brokerRtmpUrl := withoutTrailingSlash ingestUrl ++ "/" ++ ingestKey
        streamKey := streamKey
        hlsPlaybackUrl := hlsUrl })
  | _, _, _, _, _ => throw incomplete
where
  incomplete : LiveFailure := .error "paid live activation artifacts are incomplete"

/-! ## Refilling -/

def refilledProgress (owned : OwnedPaidSession) (result : PaidSessionRefillResult) (leaseExpiresAt : Time) :
    PaidOperationProgress :=
  { status := "active"
    workId := some result.workId
    fundedUnits := some (toString result.balance.authorizationMaxUnits)
    claimedUnits := some (toString result.balance.claimedUnits)
    balanceUnits := some (toString (result.balance.runwayUnits.getD 0))
    willRefuseNextRefill := some result.balance.willRefuseNextRefill
    leaseExpiresAt := some leaseExpiresAt
    sessionRuntime := some { owned.runtime with refillCount := some (owned.runtime.refillCount.getD 0 + 1) } }

def refillBody (owned : OwnedPaidSession) (brokerSessionId : String) (secrets : PaidOperationSecrets)
    (intent : RefillIntent) (handle : PaidSessionControlHandle) (credential : String) : LiveProg Unit := do
  let result ← refill P {
    opened := handle
    brokerSessionId := brokerSessionId
    credential := credential
    requestId := intent.requestId
    observedConsumedUnits := some intent.observedConsumedUnits
    maxTotalUnits := intent.maxTotalUnits }
  if deps.maxTotalUnits < result.balance.authorizationMaxUnits then
    requestWinddown deps owned "refill_total_exceeded"
  else if ← SessionStore.putSecrets owned { secrets with refillIntent := none } then
    let leaseExpiresAt ← timestamp P result.leaseExpiresAt
    let _ ← SessionStore.recordProgress deps.store owned (refilledProgress owned result leaseExpiresAt)
    return ()

def executeRefill (owned : OwnedPaidSession) (brokerSessionId : String) (secrets : PaidOperationSecrets)
    (intent : RefillIntent) (handle : PaidSessionControlHandle) (credential : String) : LiveProg Unit :=
  tryCatch (refillBody P deps owned brokerSessionId secrets intent handle credential) fun e =>
    match e with
    | .client _ true => return ()
    | _ => requestWinddown deps owned "refill_refused"

/-! ## Advisory frames -/

def tickedRuntime (runtime : PaidSessionRuntimeState) (sequence claimedTotal : Nat) : PaidSessionRuntimeState :=
  { runtime with
    lastRunnerSequence := toString sequence
    lastRunnerUsage := toString claimedTotal
    controlCursor := some (toString sequence) }

/-- `event.sequence <= Number(runtime.lastRunnerSequence)`, which does not hold of `NaN`. -/
def notNewer (sequence : Nat) (lastRunnerSequence : String) : Bool :=
  (number P lastRunnerSequence).any fun last => (sequence : ℚ) ≤ last

/-- The report an event makes; an event without one leaves the session as it is. -/
def advisoryReport (owned : OwnedPaidSession) : PaidSessionControlEvent → Option PaidOperationProgress
  | .usageTick sequence unit claimedTotal _ =>
    if unit ≠ owned.operation.route.workUnit ∨ notNewer P sequence owned.runtime.lastRunnerSequence = true then
      none
    else some {
      status := owned.operation.status
      claimedUnits := some (toString claimedTotal)
      sessionRuntime := some (tickedRuntime owned.runtime sequence claimedTotal) }
  | .balance value => some {
      status := owned.operation.status
      claimedUnits := some (toString value.claimedUnits)
      balanceUnits := some (toString (value.runwayUnits.getD 0))
      willRefuseNextRefill := some value.willRefuseNextRefill }
  | .outputHealth outputState outputStateSince lastFailureCode => some {
      status := owned.operation.status
      sessionRuntime := some { owned.runtime with
        outputState := some outputState
        outputStateSince := some outputStateSince
        lastFailureCode := lastFailureCode } }
  | .ended _ closeReason => some {
      status := "winddown_pending"
      sessionRuntime := some { owned.runtime with winddownReason := some closeReason } }
  | .rebound .. => none

def applyAdvisoryEvent (owned : OwnedPaidSession) (event : PaidSessionControlEvent) :
    LiveProg (Option OwnedPaidSession) :=
  match advisoryReport P owned event with
  | none => return some owned
  | some report => SessionStore.recordProgress deps.store owned report

/-- A program whose errors come with the session as it was held then. -/
abbrev HoldingProg (α : Type) : Type := Throwing LiveCall LiveCall.Answer (OwnedPaidSession × LiveFailure) α

def holding {α : Type} (owned : OwnedPaidSession) (p : LiveProg α) : HoldingProg α :=
  mapThrown (fun e => (owned, e)) p

/-- The loop over the frames; a frame that lost its fence leaves the session as it was held. -/
def applyFrames : List JsonValue → OwnedPaidSession → HoldingProg OwnedPaidSession
  | [], owned => return owned
  | frame :: rest, owned => do
    let event ← holding owned (liftM (parsePaidSessionControlEvent P frame))
    let next ← holding owned (applyAdvisoryEvent P deps owned event)
    applyFrames rest (next.getD owned)

/-! ## Resuming an opening -/

def streamKeyGrant : List PaidSessionGrant → Option PaidSessionGrant
  | [grant] => if grant.operations = ["stream-key-issue"] then some grant else none
  | _ => none

def recoveryRoute (operation : PaidOperation) (value : RecoveryRoute) : LiveWorkerRoute :=
  { workerUrl := value.workerUrl
    ethAddress := value.ethAddress
    capability := operation.route.capability
    offering := operation.route.offering
    pricePerWorkUnitWei := operation.route.pricePerUnitWei
    workUnit := operation.route.workUnit
    protocol := .paidSessionV1
    transports := none
    workUnitEstimator := none
    settlementKeys := value.settlementKeys
    settlementDomainId := some (operation.route.settlementDomainId.getD value.settlementDomainId)
    unitsPerPrice := some operation.route.unitsPerPrice
    quoteId := some operation.route.quoteId
    quoteVersion := some operation.route.quoteVersion
    constraintFingerprint := some (hexBytes operation.route.constraintFingerprint)
    routeFingerprint := some (hexBytes operation.route.routeFingerprint)
    sessionDescriptor := some value.sessionDescriptor }

def grantJson (grant : PaidSessionGrant) : JsonValue :=
  .obj ([("id", .str grant.id), ("operations", .arr (grant.operations.map .str)),
    ("secret", .str grant.secret), ("expiresAt", .str grant.expiresAt)] ++
    whenSet "maxUses" (grant.maxUses.map fun n => .num n))

def controlJson (control : PaidSessionControl) : JsonValue :=
  .obj [("statusUrl", .str control.statusUrl), ("topupUrl", .str control.topupUrl),
    ("endUrl", .str control.endUrl), ("eventsWs", .str control.eventsWs)]

def handleJson (opened : PaidSessionOpenResult) : JsonValue :=
  .obj [("operation_id", .str opened.opened.operationId), ("broker_url", .str opened.opened.brokerUrl),
    ("gateway_session_id", .str opened.gatewaySessionId),
    ("descriptor_schema", .str opened.opened.descriptorSchema),
    ("work_unit", .str opened.opened.routeSnapshot.workUnit),
    ("settlement_domain_id", .str opened.opened.routeSnapshot.settlementDomainId),
    ("max_total_units", .num opened.balance.authorizationMaxUnits)]

/-- `{ ...credentials, broker_session_credential }` -/
def withCredential (credentials : Option JsonValue) (credential : String) : JsonValue :=
  .obj (setMember "broker_session_credential" (.str credential) ((passthrough credentials).getD []))

def recoveredSecrets (secrets : PaidOperationSecrets) (intent : OpeningIntent) (opened : PaidSessionOpenResult)
    (runtime : RecoveredRuntime) (streamKey : String) : PaidOperationSecrets :=
  { secrets with
    grants := some (.arr (opened.grants.map grantJson))
    control := some (controlJson opened.control)
    loc := some (.obj [("idempotency_key", .str intent.requestId), ("key_request_id", .str intent.keyRequestId),
      ("control_handle", handleJson opened)])
    runnerIngestUrl := some runtime.rtmpUrl
    runnerIngestKey := some streamKey
    credentials := some (withCredential secrets.credentials opened.credential) }

def openedProgress (owned : OwnedPaidSession) (opened : PaidSessionOpenResult) (runtime : RecoveredRuntime)
    (leaseExpiresAt : Time) : PaidOperationProgress :=
  { status := "issuing_key"
    requestId := some opened.opened.requestId
    locOperationId := some opened.opened.operationId
    brokerSessionId := some opened.brokerSessionId
    fundedUnits := some (toString opened.balance.authorizationMaxUnits)
    claimedUnits := some (toString opened.balance.claimedUnits)
    balanceUnits := some (toString (opened.balance.runwayUnits.getD 0))
    willRefuseNextRefill := some opened.balance.willRefuseNextRefill
    leaseExpiresAt := some leaseExpiresAt
    sessionRuntime := some { owned.runtime with runnerHlsUrl := some runtime.hlsUrl } }

def resumeOpeningSession (initial : OwnedPaidSession) (secrets : PaidOperationSecrets) : LiveProg Unit := do
  let intent ← parsed (openingIntentWire secrets.openIntent)
  let routeIntent ← parsed (recoveryRouteWire P secrets.routeIntent)
  let sessionParams ← parsed (passthrough secrets.sessionParams)
  let _ ← parsed (customerStreamKey secrets.credentials)
  let opened ← open' P {
    requestId := intent.requestId
    route := recoveryRoute initial.operation routeIntent
    descriptorSchema := intent.descriptorSchema
    sessionParams := .obj sessionParams
    estimatedRunwayUnits := intent.estimatedRunwayUnits
    maxTotalUnits := intent.maxTotalUnits }
  let runtime ← parsed (recoveredRuntimeWire P opened.runtimePublic)
  let grant ← orFail (.error "recovered paid live grant is invalid") (streamKeyGrant opened.grants)
  let leaseExpiresAt ← timestamp P opened.leaseExpiresAt
  match ← SessionStore.recordProgress deps.store initial (openedProgress initial opened runtime leaseExpiresAt) with
  | none => return ()
  | some owned =>
    let issued ← issueStreamKey P {
      keyIssueUrl := runtime.keyIssueUrl
      grant := grant
      requestId := intent.keyRequestId
      audience := "gateway-relay" }
    let stored := recoveredSecrets secrets intent opened runtime issued.streamKey
    if ← SessionStore.putSecrets owned stored then
      match ← SessionStore.recordProgress deps.store owned {
        status := "active"
        sessionRuntime := some { owned.runtime with relayStatus := .pending } } with
      | none => return ()
      | some active => repairLiveArtifacts P active.operation stored

/-! ## Reconciling one session -/

def winddownDue (owned : OwnedPaidSession) (now : Time) : Except LiveFailure (Option String) := do
  let disconnectExpired ← match owned.runtime.relayDisconnectedAt with
    | none => pure false
    | some text => do
      let disconnectedAt ← timestamp P text
      pure (decide (disconnectedAt + deps.disconnectGraceMs ≤ now))
  let leaseExpired := owned.operation.leaseExpiresAt.any fun lease => lease ≤ now
  if owned.operation.status ∈ ["winddown_requested", "winddown_pending", "winddown_retry", "winddown_failed"] ∨
      disconnectExpired = true ∨ leaseExpired = true then
    return some (owned.runtime.winddownReason.getD
      (if leaseExpired then "lease_exhausted" else if owned.runtime.relayStatus = .failed then "relay_failure"
        else if disconnectExpired then "publisher_disconnect" else "broker_ended"))
  else return none

def brokerTerminal (status : PaidSessionStatusResult) : Bool := ["closed", "ended", "failed"].contains status.state

def brokerWindingDown (status : PaidSessionStatusResult) : Bool := status.state == "winding_down"

/-- The units funded so far: what the broker reports, or what was stored when it reports no runway. -/
def authoritativeFunded (owned : OwnedPaidSession) (status : PaidSessionStatusResult) : Except LiveFailure Nat :=
  match status.balance.runwayUnits with
  | none => decimalUnits owned.operation.fundedUnits
  | some runway => .ok (addUnits status.balance.debitedUnits runway)

def authoritativeRunway (owned : OwnedPaidSession) (status : PaidSessionStatusResult) : Except LiveFailure Nat :=
  match status.balance.runwayUnits with
  | none => decimalUnits (owned.operation.balanceUnits.getD "0")
  | some runway => .ok runway

def relayDisconnected (runtime : PaidSessionRuntimeState) : Bool := (truthy runtime.relayDisconnectedAt).isSome

def statusProgress (owned : OwnedPaidSession) (status : PaidSessionStatusResult) (funded runway : Nat)
    (leaseExpiresAt now : Time) : PaidOperationProgress :=
  { status := if brokerTerminal status then "winddown_pending"
      else if brokerWindingDown status || relayDisconnected owned.runtime then "reconcile_pending" else "active"
    fundedUnits := some (toString funded)
    claimedUnits := some (toString status.claimedUnits)
    balanceUnits := some (toString runway)
    willRefuseNextRefill := some status.balance.willRefuseNextRefill
    leaseExpiresAt := some leaseExpiresAt
    sessionRuntime := some { owned.runtime with
      lastHttpReconcileAt := some (P.toISOString now)
      outputState := some status.outputState
      outputStateSince := status.outputStateSince
      lastFailureCode := status.lastFailureCode
      winddownReason := if brokerTerminal status then (truthy status.closeReason).or owned.runtime.winddownReason
        else owned.runtime.winddownReason } }

def needsRefill (status : PaidSessionStatusResult) : Bool :=
  status.balance.status != .ok ||
    status.balance.runwayUnits.any fun runway => (runway : ℚ) ≤ deps.refillThresholdUnits

def refillOver (runtime : PaidSessionRuntimeState) (status : PaidSessionStatusResult) (funded : Nat) : Bool :=
  status.balance.willRefuseNextRefill || deps.maxRefills ≤ (runtime.refillCount.getD 0 : ℚ) ||
    deps.maxTotalUnits ≤ (funded : ℚ)

/-- The bound of a new intent. The maximum is a safe integer, so that its successor and its double
are numbers. -/
def refillBound (authorizationMaxUnits : Nat) : ℚ :=
  min deps.maxTotalUnits (max ((authorizationMaxUnits : ℚ) + 1) (authorizationMaxUnits * 2))

def newRequestId (bytes : List UInt8) : String := "req_" ++ hexText bytes

def afterStatus (context : StoredContext) (secrets : PaidOperationSecrets) (brokerSessionId : String)
    (runtime : PaidSessionRuntimeState) (owned : OwnedPaidSession) (status : PaidSessionStatusResult)
    (funded : Nat) : LiveProg Unit := do
  if brokerTerminal status then
    executeWinddown P deps owned brokerSessionId context.handle context.credential
      (status.closeReason.getD "broker_ended")
  else if brokerWindingDown status || relayDisconnected runtime || !needsRefill deps status then return ()
  else if refillOver deps runtime status funded then
    requestWinddown deps owned (if status.balance.willRefuseNextRefill then "refill_preannounced_refusal"
      else "refill_policy_exhausted")
  else
    let bytes ← invoke (LiveCall.randomBytes 8)
    let intent : RefillIntent :=
      { requestId := newRequestId bytes
        observedConsumedUnits := status.balance.debitedUnits
        maxTotalUnits := refillBound deps status.balance.authorizationMaxUnits }
    let stored := { secrets with refillIntent := some intent.json }
    if ← SessionStore.putSecrets owned stored then
      executeRefill P deps owned brokerSessionId stored intent context.handle context.credential

/-- The status of the broker, recorded: the session as it is held then, the status and the units
funded by it. -/
def recordStatus (context : StoredContext) (brokerSessionId : String) (owned : OwnedPaidSession) :
    LiveProg (Option (OwnedPaidSession × PaidSessionStatusResult × Nat)) := do
  let status ← status P {
    opened := context.handle
    brokerSessionId := brokerSessionId
    workId := owned.operation.workId
    credential := context.credential }
  failWhen (status.gatewaySessionId ≠ context.handle.gatewaySessionId)
    (LiveFailure.error "paid session gateway identity drift")
  let runway ← authoritativeRunway owned status
  let funded ← authoritativeFunded owned status
  let leaseExpiresAt ← timestamp P status.leaseExpiresAt
  let now ← invoke LiveCall.now
  let progressed ← SessionStore.recordProgress deps.store owned
    (statusProgress P owned status funded runway leaseExpiresAt now)
  return progressed.map fun next => (next, status, funded)

def reconcileStatus (context : StoredContext) (secrets : PaidOperationSecrets) (brokerSessionId : String)
    (owned : OwnedPaidSession) : HoldingProg OwnedPaidSession := do
  match ← holding owned (recordStatus P deps context brokerSessionId owned) with
  | none => return owned
  | some (next, status, funded) =>
    holding next (afterStatus P deps context secrets brokerSessionId owned.runtime next status funded)
    return next

/-- The control socket: the session as it is held afterwards, and whether it was wound down. -/
def reconcileControl (context : StoredContext) (brokerSessionId : String) (owned : OwnedPaidSession) :
    HoldingProg (OwnedPaidSession × Bool) :=
  if deps.hasControlSource then
    tryCatch (do
      let frames ← holding owned (attempt
        (LiveCall.readControl context.eventsWs context.credential (truthy owned.runtime.controlCursor))
        fun answer => answer)
      let next ← applyFrames P deps frames owned
      if next.operation.status = "winddown_pending" then
        holding next (executeWinddown P deps next brokerSessionId context.handle context.credential
          (next.runtime.winddownReason.getD "broker_ended"))
        return (next, true)
      else return (next, false)) fun thrown => return (thrown.1, false)
  else return (owned, false)

/-- A session whose context was read: it is wound down, or its artifacts are repaired and the
refill it was left with, the control socket or the status decides. -/
def reconcileHeld (context : StoredContext) (secrets : PaidOperationSecrets) (brokerSessionId : String)
    (owned : OwnedPaidSession) : HoldingProg OwnedPaidSession := do
  let now ← holding owned (invoke LiveCall.now)
  match ← holding owned (liftM (winddownDue P deps owned now)) with
  | some reason =>
    holding owned (executeWinddown P deps owned brokerSessionId context.handle context.credential reason)
    return owned
  | none =>
    holding owned (repairLiveArtifacts P owned.operation secrets)
    match context.refillIntent with
    | some intent =>
      holding owned (executeRefill P deps owned brokerSessionId secrets intent context.handle context.credential)
      return owned
    | none =>
      let (next, done) ← reconcileControl P deps context brokerSessionId owned
      if done then return next
      else reconcileStatus P deps context secrets brokerSessionId next

/-- The whole of the `try`, with the session as it is held at its end. -/
def reconcileBody (owned : OwnedPaidSession) : HoldingProg OwnedPaidSession := do
  match ← holding owned (SessionStore.readSecrets owned) with
  | none => return owned
  | some secrets =>
    match storedContext P secrets, truthy owned.operation.brokerSessionId with
    | none, _ =>
      if owned.operation.status = "opening" ∨ owned.operation.status = "issuing_key" then
        holding owned (resumeOpeningSession P deps owned secrets)
        return owned
      else throw (owned, .error "paid session recovery context is unavailable")
    | some context, some brokerSessionId =>
      if context.handle.workUnit = owned.operation.route.workUnit then
        reconcileHeld P deps context secrets brokerSessionId owned
      else throw (owned, incomplete)
    | some _, none => throw (owned, incomplete)
where
  incomplete : LiveFailure := .error "paid session recovery identity is incomplete"

/-- `.catch(() => value)` -/
def orElse {α : Type} (p : LiveProg α) (value : α) : LiveProg α := tryCatch p fun _ => return value

/-- The `finally` of one session. -/
def giveBack (owned : OwnedPaidSession) : LiveProg Unit := do
  let released ← orElse (SessionStore.release owned) false
  if released = false then
    match ← orElse (SessionStore.claimByLiveStreamId deps.store owned.liveStreamId) none with
    | none => return ()
    | some latest =>
      let _ ← orElse (SessionStore.release latest) false
      return ()

/-- The `catch` of one session. -/
def recordFailure (owned : OwnedPaidSession) (e : LiveFailure) : LiveProg Unit := do
  let report ← retryProgress owned.operation e { status := owned.operation.status }
  let _ ← SessionStore.recordProgress deps.store owned report
  return ()

def reconcileOne (initial : OwnedPaidSession) : LiveProg Unit := do
  match ← settled (reconcileBody P deps initial) with
  | .ok owned => giveBack deps owned
  | .error (owned, e) =>
    let recorded ← settled (recordFailure deps owned e)
    giveBack deps owned
    liftM (recorded : Except LiveFailure Unit)

/-- A scan hands the sessions it claimed over to tasks of their own. -/
def reconcilePaidLiveSessions (limit : Int) : LiveProg Unit := do
  let sessions ← SessionStore.claimRecoverable deps.store limit
  invoke (LiveCall.handOver deps.store.owner sessions)

def reconcileTask : LiveProg Unit := do
  match ← invoke (LiveCall.takeOver deps.store.owner) with
  | none => return ()
  | some session => reconcileOne P deps session

end

end LiveReconciler

end LivepeerTranscode.Gateway
