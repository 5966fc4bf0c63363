import LivepeerTranscode.LiveRunner.Contract

/-!
# The durable session record

`SessionRecordV1` with every field a store method reads or writes, and the two
validators every load runs. The four envelope fields are one field here: they hold
the sealed secrets or are all empty, since a record is written only by the store,
under its integrity code, with all four set or all four cleared.
-/

namespace LivepeerTranscode.LiveRunner
open Checked GoText JsonText
set_option autoImplicit false

def sessionRecordVersionV1 : Nat := 1
def maxCallbackDeadLettersV1 : Nat := 32

structure GrantAuditV1 where
  id : String
  operations : List String
  secretSHA256 : String
  expiresAt : String
  deriving DecidableEq

structure CallbackDeliveryAttemptV1 where
  eventID : String
  attempts : Nat
  lastAttemptAt : String
  nextAttemptAt : String
  lastStatusCode : Nat
  lastErrorCode : String

structure CallbackDeadLetterV1 where
  event : RunnerEventV1
  attempts : Nat
  statusCode : Nat
  errorCode : String
  rejectedAt : String

structure StoredKeyIssueV1 where
  fingerprint : String
  request : StreamKeyIssueRequestV1
  response : StreamKeyIssueResponseV1

structure SessionSecretsV1 where
  createRequest : RunnerCreateRequestV1
  createResponse : RunnerCreateResponseV1
  currentKeyID : String
  keyIssues : AList fun _ : String => StoredKeyIssueV1

structure SessionRecordV1 where
  version : Nat
  brokerSessionID : String
  runnerSessionID : String
  createFingerprint : String
  state : SessionState
  stopping : Bool
  pendingCloseReason : String
  pendingTerminalState : Option SessionState
  pendingKeyActivationID : String
  runtimePublic : RuntimePublicV1
  grantAudit : GrantAuditV1
  usageTotal : Nat
  lastSequence : Nat
  meteredMicroseconds : Nat
  meteredSegmentSHA256 : List String
  ingestOnlineAt : String
  firstFinalizedSegmentAt : String
  lastFinalizedSegmentAt : String
  outputState : OutputState
  outputStateSince : String
  lastLadderFailureCode : String
  ladderFailureWindowAt : String
  ladderConsecutiveFailures : Nat
  lastEventAt : String
  pendingEvents : List RunnerEventV1
  callbackDelivery : Option CallbackDeliveryAttemptV1
  callbackDeadLetters : List CallbackDeadLetterV1
  callbackRejectedTotal : Nat
  closeReason : String
  sealedSecrets : Option SessionSecretsV1

def eventIDFor (runnerSessionID : String) (sequence : Nat) : String :=
  runnerSessionID ++ ":" ++ toString sequence

section
variable (P : Platform)

/-- The outbox loop of `validateSessionRecordV1`; `previousUsage` is the last total seen. -/
def validateOutbox (record : SessionRecordV1) :
    Nat → Option Nat → List RunnerEventV1 → Check
  | _, _, [] => .ok ()
  | previousSequence, previousUsage, event :: rest => do
    deny (¬ accepted (validateEventV1 P event) ∨
        event.eventID ≠ eventIDFor record.runnerSessionID event.sequence ∨
        event.sequence ≤ previousSequence ∨ record.lastSequence < event.sequence)
      "session record event outbox is invalid"
    deny (event.usage.any fun usage => previousUsage.any fun previous => usage.total < previous)
      "session record event outbox usage is invalid"
    validateOutbox record event.sequence ((event.usage.map UsageV1.total).or previousUsage) rest

def validateCallbackDelivery (record : SessionRecordV1) : Check :=
  match record.callbackDelivery with
  | none => .ok ()
  | some attempt => do
    deny ((record.pendingEvents.head?.map RunnerEventV1.eventID) ≠ some attempt.eventID ∨
        attempt.attempts = 0 ∨
        ¬ validCallbackFailureV1 attempt.lastStatusCode attempt.lastErrorCode true)
      "session record callback delivery cursor is invalid"
    match P.parseNano attempt.lastAttemptAt, P.parseNano attempt.nextAttemptAt with
    | some lastAttempt, some nextAttempt =>
      deny (nextAttempt < lastAttempt) "session record callback delivery time is invalid"
    | _, _ => .error "session record callback delivery time is invalid"

def validateDeadLetters (record : SessionRecordV1) : List CallbackDeadLetterV1 → Check
  | [] => .ok ()
  | letter :: rest => do
    deny (¬ accepted (validateEventV1 P letter.event) ∨
        letter.event.eventID ≠ eventIDFor record.runnerSessionID letter.event.sequence ∨
        record.lastSequence < letter.event.sequence ∨ letter.attempts = 0 ∨
        ¬ validCallbackFailureV1 letter.statusCode letter.errorCode false)
      "session record callback dead letter is invalid"
    deny (P.parseNano letter.rejectedAt = none)
      "session record callback dead-letter time is invalid"
    validateDeadLetters record rest

def validateSegmentIdentities : List String → List String → Check
  | _, [] => .ok ()
  | seenSegments, identity :: rest => do
    deny (¬ workIDPattern identity) "session record segment identity is invalid"
    deny (identity ∈ seenSegments) "session record segment identity is duplicated"
    validateSegmentIdentities (identity :: seenSegments) rest

def SessionRecordV1.terminal (record : SessionRecordV1) : Prop :=
  record.state = .ended ∨ record.state = .failed

instance (record : SessionRecordV1) : Decidable record.terminal :=
  inferInstanceAs (Decidable (_ ∨ _))

/-- The lifecycle half of `validateSessionRecordV1`: identity, output health, grant,
coordinates, terminal and stopping state. -/
def validateSessionLifecycle (record : SessionRecordV1) (id : String) : Check := do
  deny (record.version ≠ sessionRecordVersionV1 ∨ record.brokerSessionID ≠ id ∨
      ¬ opaqueIDPattern record.runnerSessionID ∨ ¬ workIDPattern record.createFingerprint)
    "session record identity is invalid"
  deny (record.state = .active ∧ record.sealedSecrets.isNone)
    "session record secret envelope is incomplete"
  deny (¬ validOutputStateV1 record.outputState ∨
      ¬ validLadderFailureCodeV1 record.lastLadderFailureCode true)
    "session record output health is invalid"
  deny ([record.outputStateSince, record.ingestOnlineAt, record.firstFinalizedSegmentAt,
      record.lastFinalizedSegmentAt, record.ladderFailureWindowAt].any fun stamp =>
        stamp != "" && (P.parseNano stamp).isNone)
    "session record output health time is invalid"
  deny (record.outputStateSince = "" ∨
      ¬ (0 < record.ladderConsecutiveFailures ↔ record.ladderFailureWindowAt ≠ ""))
    "session record output health cursor is invalid"
  deny (¬ workIDPattern record.grantAudit.secretSHA256 ∨ ¬ opaqueIDPattern record.grantAudit.id ∨
      record.grantAudit.operations ≠ [grantOperationV1])
    "session record grant audit is invalid"
  deny (P.parseRFC3339 record.grantAudit.expiresAt = none) "session record grant expiry is invalid"
  deny (¬ accepted (validateURLScheme P record.runtimePublic.rtmpURL ["rtmp", "rtmps"]))
    "session record RTMP coordinate is invalid"
  deny (¬ accepted (validateHTTPURL P record.runtimePublic.hlsURL))
    "session record HLS coordinate is invalid"
  deny (¬ accepted (validateHTTPURL P record.runtimePublic.keyIssueURL))
    "session record key issuance coordinate is invalid"
  deny (¬ (record.terminal ↔ record.closeReason ≠ "") ∨
      (record.closeReason ≠ "" ∧ ¬ validCloseReasonV1 record.closeReason))
    "session record terminal state is invalid"
  deny (¬ (record.stopping ↔ record.pendingCloseReason ≠ "") ∨
      ¬ (record.stopping ↔ record.pendingTerminalState ≠ none) ∨
      record.pendingTerminalState = some .active ∨
      (record.pendingCloseReason ≠ "" ∧ ¬ validCloseReasonV1 record.pendingCloseReason) ∨
      (record.terminal ∧ record.stopping))
    "session record stopping state is invalid"
  deny (record.pendingKeyActivationID ≠ "" ∧
      (¬ opaqueIDPattern record.pendingKeyActivationID ∨ record.state ≠ .active ∨ record.stopping))
    "session record key activation is invalid"

/-- The cursor half: outbox, delivery, dead letters, usage and metering. -/
def validateSessionCursors (record : SessionRecordV1) : Check := do
  validateOutbox P record 0 none record.pendingEvents
  validateCallbackDelivery P record
  deny (maxCallbackDeadLettersV1 < record.callbackDeadLetters.length)
    "session record callback dead letters exceed limit"
  deny (record.callbackRejectedTotal < record.callbackDeadLetters.length)
    "session record callback rejection cursor is invalid"
  validateDeadLetters P record record.callbackDeadLetters
  deny (0 < record.usageTotal ∧ record.lastSequence = 0) "session record usage cursor is invalid"
  deny (((0 < record.meteredMicroseconds ∨ record.meteredSegmentSHA256 ≠ []) ∧
        record.meteredMicroseconds / 1000000 ≠ record.usageTotal) ∨
      (record.meteredSegmentSHA256 ≠ [] ∧ record.meteredMicroseconds = 0))
    "session record metering cursor is invalid"
  validateSegmentIdentities [] record.meteredSegmentSHA256
  deny (record.lastEventAt ≠ "" ∧ (P.parseNano record.lastEventAt = none ∨ record.lastSequence = 0))
    "session record event time is invalid"
  deny (record.pendingEvents.getLast?.any fun last =>
      last.sequence != record.lastSequence ||
        last.usage.any fun usage => usage.total != record.usageTotal)
    "session record event cursor is inconsistent"

def validateSessionRecordV1 (record : SessionRecordV1) (id : String) : Check := do
  validateSessionLifecycle P record id
  validateSessionCursors P record

def secretSHA256V1 (value : String) : String := P.sha256Hex (goBytes value)

/-- The key-issue loop of `validateSessionSecretsV1`. Go ranges over a map, so which
of several faults is reported is open. -/
def validateKeyIssues (currentKeyID : String) : List (Sigma fun _ : String => StoredKeyIssueV1) → Check
  | [] => .ok ()
  | ⟨id, issue⟩ :: rest => do
    deny (id ≠ issue.request.requestID ∨ keyIssueFingerprintV1 P issue.request ≠ issue.fingerprint)
      "session key issue identity is invalid"
    if id = currentKeyID then
      deny (¬ accepted (validateStreamKeyIssueResponseV1 P issue.request issue.response))
        "session current key response is invalid"
    else
      deny (issue.response.requestID ≠ id ∨ issue.response.streamKey ≠ "")
        "session superseded key response is invalid"
    validateKeyIssues currentKeyID rest

def validateSessionSecretsV1 (record : SessionRecordV1) (secrets : SessionSecretsV1) :
    Check := do
  deny (¬ accepted (validateCreateRequestV1 P secrets.createRequest))
    "session secret create request is invalid"
  deny (¬ accepted (validateCreateResponseV1 P secrets.createResponse))
    "session secret create response is invalid"
  deny (createFingerprintV1 P secrets.createRequest ≠ record.createFingerprint ∨
      secrets.createRequest.sessionID ≠ record.brokerSessionID ∨
      secrets.createResponse.runnerSessionID ≠ record.runnerSessionID ∨
      secrets.createResponse.runtime.runtimePublic ≠ record.runtimePublic)
    "session secret create identity is invalid"
  match secrets.createResponse.runtime.grants with
  | [] => .error "index out of range"
  | grant :: _ =>
    deny (grant.id ≠ record.grantAudit.id ∨ grant.operations ≠ record.grantAudit.operations ∨
        grant.expiresAt ≠ record.grantAudit.expiresAt ∨
        secretSHA256V1 P grant.secret ≠ record.grantAudit.secretSHA256)
      "session secret grant identity is invalid"
  deny (secrets.currentKeyID ≠ "" ∧ (secrets.keyIssues.lookup secrets.currentKeyID).isNone)
    "session current stream key is missing"
  deny (record.pendingKeyActivationID ≠ "" ∧ secrets.currentKeyID ≠ record.pendingKeyActivationID)
    "session pending key activation is invalid"
  validateKeyIssues P secrets.currentKeyID secrets.keyIssues.entries

/-- `outputHealthDetailsV1`; `json.Marshal` of a map writes the keys in order. -/
def outputHealthDetailsV1 (record : SessionRecordV1) : Json String String :=
  .obj ((if record.lastLadderFailureCode ≠ "" then
      [("last_failure_code", .str record.lastLadderFailureCode)] else []) ++
    [("output_state", .str record.outputState.text),
      ("output_state_since", .str record.outputStateSince)])

end

end LivepeerTranscode.LiveRunner
