import LivepeerTranscode.LiveRunner.Record

/-!
# The encrypted file session store

Each method of `live-runner/store.go` holds the store's mutex from its load to its
save, so it is one atomic step on the directory of session files. A method's body
decides on the loaded record; `transact` puts the load before it and the file
replacement after it. `Faults` is what the file system does to one call.
-/

namespace LivepeerTranscode.LiveRunner
open Checked GoText JsonText
set_option autoImplicit false

/-- The session files, by broker session id. -/
abbrev Directory : Type := AList fun _ : String => SessionRecordV1

/-- How a save ends: the file is replaced, nothing happened, or the file is replaced
and syncing the directory then fails. -/
inductive Save where
  | done | failed | unsynced
  deriving DecidableEq, Repr

structure Faults where
  readFails : Bool
  save : Save

/-- What a method body decides: an answer, or a new record and the answer once saved. -/
inductive Outcome (α : Type) where
  | answer (value : α)
  | replace (record : SessionRecordV1) (value : α)

section
variable (P : Platform)

/-- Records written before the output health fields existed start out waiting. -/
def SessionRecordV1.defaultOutputState (record : SessionRecordV1) : SessionRecordV1 :=
  if record.outputState = .unset then
    { record with
      outputState := .waiting
      outputStateSince := if record.lastEventAt = "" then P.formatNano 0 else record.lastEventAt }
  else record

/-- Records that were stopping before failures had a terminal state of their own. -/
def SessionRecordV1.defaultTerminalState (record : SessionRecordV1) : SessionRecordV1 :=
  if record.stopping ∧ record.pendingTerminalState = none then
    { record with pendingTerminalState := some .ended }
  else record

def SessionRecordV1.upgrade (record : SessionRecordV1) : SessionRecordV1 :=
  (record.defaultOutputState P).defaultTerminalState

def openSecrets (record : SessionRecordV1) (id : String) : Result (Option SessionSecretsV1) :=
  match record.sealedSecrets with
  | none => .ok none
  | some secrets => do
    reject (secrets.createRequest.sessionID ≠ id ∨
        secrets.createResponse.runnerSessionID ≠ record.runnerSessionID)
      "session secret identity mismatch"
    check (validateSessionSecretsV1 P record secrets)
    return some secrets

def loadLocked (readFails : Bool) (dir : Directory) (id : String) :
    Result (SessionRecordV1 × Option SessionSecretsV1) := do
  reject (¬ opaqueIDPattern id) "invalid broker session ID"
  failWhen readFails .io
  match dir.lookup id with
  | none => throw .notExist
  | some file =>
    let record := file.upgrade P
    check (validateSessionRecordV1 P record id)
    let secrets ← openSecrets P record id
    return (record, secrets)

def saveLocked (save : Save) (dir : Directory) (record : SessionRecordV1) :
    Result Unit × Directory :=
  match save with
  | .done => (.ok (), dir.insert record.brokerSessionID record)
  | .failed => (.error .io, dir)
  | .unsynced => (.error .io, dir.insert record.brokerSessionID record)

def commit {α : Type} (save : Save) (dir : Directory) : Outcome α → Result α × Directory
  | .answer value => (.ok value, dir)
  | .replace record value =>
    ((saveLocked save dir record).1.map fun _ => value, (saveLocked save dir record).2)

def transact {α : Type} (faults : Faults) (dir : Directory) (id : String)
    (body : SessionRecordV1 → Option SessionSecretsV1 → Result (Outcome α)) :
    Result α × Directory :=
  match loadLocked P faults.readFails dir id with
  | .error e => (.error e, dir)
  | .ok (record, secrets) =>
    match body record secrets with
    | .error e => (.error e, dir)
    | .ok outcome => commit faults.save dir outcome

/-! ## Method bodies -/

def requireRunning (record : SessionRecordV1) : Result Unit :=
  failWhen (record.state ≠ .active ∨ record.stopping) .sessionTerminal

def blankStreamKeys (issues : AList fun _ : String => StoredKeyIssueV1) :
    AList fun _ : String => StoredKeyIssueV1 :=
  issues.keys.foldl (fun acc id =>
    match acc.lookup id with
    | none => acc
    | some stored => acc.insert id { stored with response := { stored.response with streamKey := "" } })
    issues

def recordKeyIssue (request : StreamKeyIssueRequestV1) (response : StreamKeyIssueResponseV1)
    (record : SessionRecordV1) (secrets : Option SessionSecretsV1) :
    Result (Outcome (StreamKeyIssueResponseV1 × Bool)) := do
  requireRunning record
  match secrets with
  | none => throw .sessionTerminal
  | some secrets =>
    match secrets.keyIssues.lookup request.requestID with
    | some stored =>
      failWhen (stored.fingerprint ≠ keyIssueFingerprintV1 P request) .requestIDReuse
      failWhen (secrets.currentKeyID ≠ request.requestID) .requestSuperseded
      return .answer (stored.response, true)
    | none =>
      failWhen (record.pendingKeyActivationID ≠ "") .keyActivationInFlight
      let issue : StoredKeyIssueV1 :=
        { fingerprint := keyIssueFingerprintV1 P request, request := request, response := response }
      return .replace
        { record with
          pendingKeyActivationID :=
            if secrets.currentKeyID ≠ "" then request.requestID else record.pendingKeyActivationID
          sealedSecrets := some { secrets with
            keyIssues := (blankStreamKeys secrets.keyIssues).insert request.requestID issue
            currentKeyID := request.requestID } }
        (response, false)

def completeKeyActivation (requestID : String) (record : SessionRecordV1)
    (secrets : Option SessionSecretsV1) : Result (Outcome Unit) := do
  requireRunning record
  match secrets with
  | none => throw .sessionTerminal
  | some secrets =>
    if record.pendingKeyActivationID = "" then return .answer ()
    else
      reject (record.pendingKeyActivationID ≠ requestID ∨ secrets.currentKeyID ≠ requestID)
        "key activation identity mismatch"
      return .replace { record with pendingKeyActivationID := "" } ()

/-- The fields every event-producing method sets once its event is built. -/
def SessionRecordV1.push (record : SessionRecordV1) (event : RunnerEventV1) : SessionRecordV1 :=
  { record with
    lastSequence := event.sequence
    lastEventAt := event.eventTime
    pendingEvents := record.pendingEvents ++ [event] }

def SessionRecordV1.setUsage (record : SessionRecordV1) (total : Nat) : SessionRecordV1 :=
  { record with usageTotal := total }

def SessionRecordV1.close (record : SessionRecordV1) (state : SessionState) (reason : String) :
    SessionRecordV1 :=
  { record with
    state := state
    closeReason := reason
    stopping := false
    pendingCloseReason := ""
    pendingTerminalState := none
    pendingKeyActivationID := "" }

def advance (event : RunnerEventV1) (record : SessionRecordV1) (_ : Option SessionSecretsV1) :
    Result (Outcome Unit) := do
  failWhen (record.state ≠ .active ∨ (record.stopping ∧ event.state = .active)) .sessionTerminal
  reject (record.stopping ∧ event.closeReason ≠ some record.pendingCloseReason)
    "terminal event does not match durable close reason"
  reject (event.eventID ≠ eventIDFor record.runnerSessionID event.sequence)
    "event ID must be derived from runner session ID and sequence"
  reject ((0 < record.meteredMicroseconds ∨ record.meteredSegmentSHA256 ≠ []) ∧
      event.usage.any fun usage => usage.total != record.meteredMicroseconds / 1000000)
    "event usage does not match the durable meter"
  let cursor ← EventCursorV1.accept P
    { sequence := record.lastSequence, usageTotal := record.usageTotal,
      hasUsage := decide (0 < record.lastSequence),
      seenIDs := record.pendingEvents.map RunnerEventV1.eventID } event
  let advanced := (record.push event).setUsage cursor.usageTotal
  return .replace
    (if event.state = .ended ∨ event.state = .failed then
      advanced.close event.state (event.closeReason.getD "") else advanced) ()

/-- The event a method appends next, under the identity its sequence gives it. -/
def nextEvent (record : SessionRecordV1) (eventType : EventType) (eventTime : String)
    (usage : Option Nat) (details : Json String String) : RunnerEventV1 :=
  { eventID := eventIDFor record.runnerSessionID (record.lastSequence + 1)
    sequence := record.lastSequence + 1
    eventType := eventType
    eventTime := eventTime
    state := .active
    usage := usage.map fun total => { unit := workUnitV1, total := total }
    closeReason := none
    details := some details }

structure FinalizedHLSSegmentV1 where
  uri : List UInt8
  durationMicroseconds : Nat
  deriving DecidableEq

/-- The metering cursor while `RecordFinalizedSegments` walks a playlist. -/
structure MeterCursor where
  microseconds : Nat
  identities : List String
  changed : Bool

def meterSegments (cursor : MeterCursor) : List FinalizedHLSSegmentV1 → Result MeterCursor
  | [] => .ok cursor
  | segment :: rest => do
    reject (segment.uri = [] ∨ segment.durationMicroseconds = 0) "finalized HLS segment is invalid"
    if P.sha256Hex segment.uri ∈ cursor.identities then meterSegments cursor rest
    else do
      reject (maxUint64 < cursor.microseconds + segment.durationMicroseconds)
        "output timeline overflow"
      meterSegments
        { microseconds := cursor.microseconds + segment.durationMicroseconds
          identities := cursor.identities ++ [P.sha256Hex segment.uri]
          changed := true } rest

/-- The record with the new cursor and the output health a finalized segment gives it. -/
def SessionRecordV1.produce (record : SessionRecordV1) (cursor : MeterCursor) (stamp : String) :
    SessionRecordV1 :=
  { record with
    meteredMicroseconds := cursor.microseconds
    meteredSegmentSHA256 := cursor.identities
    firstFinalizedSegmentAt :=
      if record.firstFinalizedSegmentAt = "" then stamp else record.firstFinalizedSegmentAt
    lastFinalizedSegmentAt := stamp
    outputState := .producing
    outputStateSince := if record.outputState ≠ .producing then stamp else record.outputStateSince
    ladderFailureWindowAt := ""
    ladderConsecutiveFailures := 0 }

def recordFinalizedSegments (segments : List FinalizedHLSSegmentV1) (eventTime : Time)
    (record : SessionRecordV1) (_ : Option SessionSecretsV1) : Result (Outcome Bool) := do
  requireRunning record
  reject (record.lastSequence = 0) "session start must be recorded before usage"
  let cursor ← meterSegments P
    { microseconds := record.meteredMicroseconds, identities := record.meteredSegmentSHA256,
      changed := false } segments
  if cursor.changed then
    let metered := record.produce cursor (P.formatNano eventTime)
    let usageTotal := metered.meteredMicroseconds / 1000000
    if metered.usageTotal < usageTotal then
      reject (metered.lastSequence = maxUint64) "event sequence overflow"
      let event := nextEvent metered .usageTick (P.formatNano eventTime) (some usageTotal)
        (outputHealthDetailsV1 metered)
      check (validateEventV1 P event)
      return .replace ((metered.push event).setUsage usageTotal) true
    else return .replace metered false
  else return .answer false

def recordHeartbeat (eventTime : Time) (minimumInterval : Int) (record : SessionRecordV1)
    (_ : Option SessionSecretsV1) : Result (Outcome Bool) := do
  requireRunning record
  reject (record.lastSequence = 0) "session start must be recorded before heartbeat"
  reject (record.lastEventAt ≠ "" ∧ P.parseNano record.lastEventAt = none)
    "durable event time is invalid"
  if (P.parseNano record.lastEventAt).any fun last =>
      record.lastEventAt != "" && decide (eventTime < last + minimumInterval) then
    return .answer false
  else
    reject (record.lastSequence = maxUint64) "event sequence overflow"
    let event := nextEvent record .heartbeat (P.formatNano eventTime) (some record.usageTotal)
      (outputHealthDetailsV1 record)
    check (validateEventV1 P event)
    return .replace (record.push event) true

def recordIngestPresence (online : Bool) (eventTime : Time) (record : SessionRecordV1)
    (_ : Option SessionSecretsV1) : Result (Outcome Unit) := do
  requireRunning record
  if online ∧ record.ingestOnlineAt = "" then
    return .replace { record with
      ingestOnlineAt := P.formatNano eventTime
      outputState := .waiting
      outputStateSince := P.formatNano eventTime } ()
  else if ¬ online ∧ record.ingestOnlineAt ≠ "" then
    return .replace { record with
      ingestOnlineAt := ""
      outputState := .waiting
      outputStateSince := P.formatNano eventTime
      ladderFailureWindowAt := ""
      ladderConsecutiveFailures := 0 } ()
  else return .answer ()

/-- A window that has not been opened, or has run out, starts again at this exit. -/
def SessionRecordV1.ladderWindow (record : SessionRecordV1) (now : Time) (window : Int) :
    SessionRecordV1 :=
  let windowAt := (P.parseNano record.ladderFailureWindowAt).getD zeroTime
  if windowAt.isZero ∨ window < now.sub windowAt then
    { record with ladderFailureWindowAt := P.formatNano now, ladderConsecutiveFailures := 0 }
  else record

def SessionRecordV1.countFailure (record : SessionRecordV1) (code : String) : SessionRecordV1 :=
  { record with
    ladderConsecutiveFailures := record.ladderConsecutiveFailures + 1
    lastLadderFailureCode := code }

def recordLadderRestart (code : String) (eventTime : Time) (window : Int)
    (record : SessionRecordV1) (_ : Option SessionSecretsV1) : Result (Outcome Nat) := do
  requireRunning record
  let opened := record.ladderWindow P eventTime window
  reject (opened.ladderConsecutiveFailures = maxUint32 ∨ opened.lastSequence = maxUint64)
    "ladder restart counter overflow"
  let counted := opened.countFailure code
  let event := nextEvent counted .ladderRestart (P.formatNano eventTime) none
    (.obj [("attempt", .num (toString counted.ladderConsecutiveFailures)), ("code", .str code),
      ("output_state", .str counted.outputState.text)])
  check (validateEventV1 P event)
  return .replace (counted.push event) counted.ladderConsecutiveFailures

def SessionRecordV1.setOutputState (record : SessionRecordV1) (state : OutputState)
    (since : String) : SessionRecordV1 :=
  { record with outputState := state, outputStateSince := since }

def recordOutputStalledLockedV1 (eventTime : Time) (record : SessionRecordV1) :
    Result SessionRecordV1 := do
  let stalled := record.setOutputState .stalled (P.formatNano eventTime)
  reject (stalled.lastSequence = maxUint64) "event sequence overflow"
  let event := nextEvent stalled .outputStalled stalled.outputStateSince none
    (outputHealthDetailsV1 stalled)
  check (validateEventV1 P event)
  return stalled.push event

/-- The later of the publisher's arrival and the last finalized segment. -/
def outputBase (record : SessionRecordV1) : Result Time :=
  match P.parseNano record.ingestOnlineAt with
  | none => .error (.message "durable ingest time is invalid")
  | some base =>
    if record.lastFinalizedSegmentAt = "" then .ok base
    else match P.parseNano record.lastFinalizedSegmentAt with
      | none => .error (.message "durable output time is invalid")
      | some last => .ok (max base last)

/-- `EvaluateOutputHealth`; the answer is (failed, stalled). -/
def evaluateOutputHealth (eventTime : Time) (stallAfter failAfter : Int)
    (record : SessionRecordV1) (_ : Option SessionSecretsV1) : Result (Outcome (Bool × Bool)) := do
  requireRunning record
  if record.ingestOnlineAt = "" then return .answer (false, false)
  else
    let base ← outputBase P record
    if failAfter ≤ eventTime.sub base then return .answer (true, false)
    else if eventTime.sub base < stallAfter ∨ record.outputState = .stalled then
      return .answer (false, false)
    else
      let stalled ← recordOutputStalledLockedV1 P eventTime record
      return .replace stalled (false, true)

def recordOutputStalled (eventTime : Time) (record : SessionRecordV1)
    (_ : Option SessionSecretsV1) : Result (Outcome Bool) := do
  requireRunning record
  if record.outputState = .stalled then return .answer false
  else
    let stalled ← recordOutputStalledLockedV1 P eventTime record
    return .replace stalled true

def beginTerminalV1 (reason : String) (terminalState : SessionState) (record : SessionRecordV1)
    (_ : Option SessionSecretsV1) : Result (Outcome (SessionRecordV1 × Bool)) :=
  if record.state ≠ .active ∨ record.stopping then .ok (.answer (record, false))
  else
    let stopping := { record with
      stopping := true
      pendingCloseReason := reason
      pendingTerminalState := some terminalState
      pendingKeyActivationID := "" }
    .ok (.replace stopping (stopping, true))

/-! ## Callback delivery -/

def SessionRecordV1.headID (record : SessionRecordV1) : Option String :=
  record.pendingEvents.head?.map RunnerEventV1.eventID

def acknowledgeEvent (eventID : String) (record : SessionRecordV1)
    (_ : Option SessionSecretsV1) : Result (Outcome Unit) := do
  reject (record.headID ≠ some eventID) "event acknowledgement is out of order"
  return .replace { record with
    pendingEvents := record.pendingEvents.tail
    callbackDelivery := none } ()

def hexDigit (c : Char) : Nat :=
  if c.isDigit then c.toNat - '0'.toNat else c.toNat - 'a'.toNat + 10

/-- The first eight bytes of a digest, read from its hex form. -/
def digestPrefix (hex : String) : Nat :=
  (hex.toList.take 16).foldl (fun value c => value * 16 + hexDigit c) 0

def doubleBackoff (maximum : Int) : Nat → Int → Int
  | 0, base => base
  | steps + 1, base =>
    if base < maximum then
      if maximum / 2 < base then maximum else doubleBackoff maximum steps (base * 2)
    else base

/-- `callbackRetryDelayV1`: capped doubling with a jitter of a quarter either way,
drawn from the event's digest so that a restart computes the same delay. -/
def callbackRetryDelayV1 (eventID : String) (attempt : Nat) (initial maximum : Int) : Int :=
  let base := doubleBackoff maximum (attempt - 1) initial
  let value := digestPrefix (P.sha256Hex (goBytes (eventID ++ ":" ++ toString attempt)))
  let factor : Int := 750 + (value % 501 : Nat)
  if factor = 1000 then base
  else if factor < 1000 then
    base - base / 1000 * (1000 - factor) - base % 1000 * (1000 - factor) / 1000
  else
    let extra := base / 1000 * (factor - 1000) + base % 1000 * (factor - 1000) / 1000
    if maximum - base < extra then maximum else base + extra

/-- The attempt number a reservation of the head gets, if it is due. -/
def nextAttemptNumber (eventID : String) (attemptAt : Time) (record : SessionRecordV1) : Result Nat :=
  match record.callbackDelivery with
  | none => .ok 1
  | some delivery => do
    reject (delivery.eventID ≠ eventID) "callback attempt cursor is inconsistent"
    reject (delivery.attempts = maxUint32) "callback attempt count overflow"
    match P.parseNano delivery.nextAttemptAt with
    | none => throw (.message "callback retry time is invalid")
    | some nextAttempt =>
      failWhen (attemptAt < nextAttempt) .callbackNotDue
      return delivery.attempts + 1

def reserveCallbackAttempt (eventID : String) (attemptAt : Time)
    (initialBackoff maximumBackoff : Int) (record : SessionRecordV1)
    (_ : Option SessionSecretsV1) : Result (Outcome CallbackDeliveryAttemptV1) := do
  reject (record.headID ≠ some eventID) "callback attempt is out of order"
  let attempts ← nextAttemptNumber P eventID attemptAt record
  let delay := callbackRetryDelayV1 P eventID attempts initialBackoff maximumBackoff
  let attempt : CallbackDeliveryAttemptV1 :=
    { eventID := eventID, attempts := attempts, lastAttemptAt := P.formatNano attemptAt,
      nextAttemptAt := P.formatNano (attemptAt + delay), lastStatusCode := 0, lastErrorCode := "" }
  return .replace { record with callbackDelivery := some attempt } attempt

def recordCallbackRetryFailure (eventID : String) (statusCode : Nat) (errorCode : String)
    (record : SessionRecordV1) (_ : Option SessionSecretsV1) : Result (Outcome Unit) :=
  match record.callbackDelivery with
  | none => .error (.message "callback retry cursor is inconsistent")
  | some delivery => do
    reject (delivery.eventID ≠ eventID ∨ record.headID ≠ some eventID)
      "callback retry cursor is inconsistent"
    return .replace { record with
      callbackDelivery := some { delivery with
        lastStatusCode := statusCode, lastErrorCode := errorCode } } ()

/-- `ParkCallbackRejection`: the head moves to the bounded list of dead letters. -/
def parkCallbackRejection (eventID : String) (statusCode : Nat) (errorCode : String)
    (rejectedAt : Time) (record : SessionRecordV1) (_ : Option SessionSecretsV1) :
    Result (Outcome Unit) :=
  match record.pendingEvents, record.callbackDelivery with
  | event :: rest, some delivery => do
    reject (event.eventID ≠ eventID ∨ delivery.eventID ≠ eventID)
      "callback rejection is out of order"
    reject (record.callbackRejectedTotal = maxUint64) "callback rejection count overflow"
    let letters := record.callbackDeadLetters ++
      [{ event := event, attempts := delivery.attempts, statusCode := statusCode,
         errorCode := errorCode, rejectedAt := P.formatNano rejectedAt }]
    return .replace { record with
      pendingEvents := rest
      callbackDelivery := none
      callbackRejectedTotal := record.callbackRejectedTotal + 1
      callbackDeadLetters := letters.drop (letters.length - maxCallbackDeadLettersV1) } ()
  | _, _ => .error (.message "callback rejection is out of order")

def clearTerminalSecrets (record : SessionRecordV1) (_ : Option SessionSecretsV1) :
    Result (Outcome Unit) := do
  reject (record.state = .active ∨ record.pendingEvents ≠ [])
    "terminal secrets cannot be cleared before final event acknowledgement"
  return .replace { record with sealedSecrets := none } ()

/-! ## Creation and listing -/

def newSessionRecord (request : RunnerCreateRequestV1) (response : RunnerCreateResponseV1)
    (grant : GrantV1) (now : Time) : SessionRecordV1 :=
  { version := sessionRecordVersionV1
    brokerSessionID := request.sessionID
    runnerSessionID := response.runnerSessionID
    createFingerprint := createFingerprintV1 P request
    state := .active
    stopping := false
    pendingCloseReason := ""
    pendingTerminalState := none
    pendingKeyActivationID := ""
    runtimePublic := response.runtime.runtimePublic
    grantAudit :=
      { id := grant.id, operations := grant.operations,
        secretSHA256 := secretSHA256V1 P grant.secret, expiresAt := grant.expiresAt }
    usageTotal := 0
    lastSequence := 0
    meteredMicroseconds := 0
    meteredSegmentSHA256 := []
    ingestOnlineAt := ""
    firstFinalizedSegmentAt := ""
    lastFinalizedSegmentAt := ""
    outputState := .waiting
    outputStateSince := P.formatNano now
    lastLadderFailureCode := ""
    ladderFailureWindowAt := ""
    ladderConsecutiveFailures := 0
    lastEventAt := ""
    pendingEvents := []
    callbackDelivery := none
    callbackDeadLetters := []
    callbackRejectedTotal := 0
    closeReason := ""
    sealedSecrets := some
      { createRequest := request, createResponse := response, currentKeyID := "", keyIssues := ∅ } }

/-- `CreateOrReplay` once request and response have passed their validators: an
existing session answers a replay, a missing one is created. -/
def createOrReplay (faults : Faults) (dir : Directory) (request : RunnerCreateRequestV1)
    (response : RunnerCreateResponseV1) (now : Time) :
    Result (SessionRecordV1 × SessionSecretsV1 × Bool) × Directory :=
  match loadLocked P faults.readFails dir request.sessionID with
  | .ok (record, secrets) =>
    if record.createFingerprint ≠ createFingerprintV1 P request then (.error .sessionIDReuse, dir)
    else if record.state ≠ .active ∨ record.stopping then (.error .sessionTerminal, dir)
    else match secrets with
      | none => (.error .sessionTerminal, dir)
      | some secrets => (.ok (record, secrets, true), dir)
  | .error .notExist =>
    match response.runtime.grants with
    | [] => (.error (.message "index out of range"), dir)
    | grant :: _ =>
      let record := newSessionRecord P request response grant now
      let secrets : SessionSecretsV1 :=
        { createRequest := request, createResponse := response, currentKeyID := "", keyIssues := ∅ }
      commit faults.save dir (.replace record (record, secrets, false))
  | .error e => (.error e, dir)

/-- The session ids in the order `os.ReadDir` lists their files. -/
def directoryOrder (dir : Directory) : List String :=
  dir.keys.insertionSort fun a b => a ++ ".json" ≤ b ++ ".json"

/-- `Recoverable`; one unreadable file fails the whole list. -/
def recoverable (readFails : Bool) (dir : Directory) : Result (List SessionRecordV1) := do
  let loaded ← (directoryOrder dir).mapM (loadLocked P readFails dir)
  let records := (loaded.map Prod.fst).filter fun record =>
    record.state == .active || !record.pendingEvents.isEmpty || record.sealedSecrets.isSome
  return records.insertionSort fun a b => a.brokerSessionID ≤ b.brokerSessionID

def findByRunnerSessionID (readFails : Bool) (dir : Directory) (runnerSessionID : String) :
    List String → Result (SessionRecordV1 × Option SessionSecretsV1)
  | [] => .error .notExist
  | id :: rest => do
    let found ← loadLocked P readFails dir id
    if found.1.runnerSessionID = runnerSessionID then return found
    else findByRunnerSessionID readFails dir runnerSessionID rest

/-! ## The methods as calls -/

inductive StoreCall where
  | createOrReplay (request : RunnerCreateRequestV1) (response : RunnerCreateResponseV1) (now : Time)
  | load (id : String)
  | loadByRunnerSessionID (runnerSessionID : String)
  | recoverable
  | recordKeyIssue (id : String) (request : StreamKeyIssueRequestV1)
      (response : StreamKeyIssueResponseV1)
  | completeKeyActivation (id requestID : String)
  | advance (id : String) (event : RunnerEventV1)
  | recordFinalizedSegments (id : String) (segments : List FinalizedHLSSegmentV1) (eventTime : Time)
  | recordHeartbeat (id : String) (eventTime : Time) (minimumInterval : Int)
  | recordIngestPresence (id : String) (online : Bool) (eventTime : Time)
  | recordLadderRestart (id code : String) (eventTime : Time) (window : Int)
  | evaluateOutputHealth (id : String) (eventTime : Time) (stallAfter failAfter : Int)
  | recordOutputStalled (id : String) (eventTime : Time)
  | beginTermination (id reason : String)
  | beginFailure (id reason : String)
  | acknowledgeEvent (id eventID : String)
  | reserveCallbackAttempt (id eventID : String) (attemptAt : Time)
      (initialBackoff maximumBackoff : Int)
  | recordCallbackRetryFailure (id eventID : String) (statusCode : Nat) (errorCode : String)
  | parkCallbackRejection (id eventID : String) (statusCode : Nat) (errorCode : String)
      (rejectedAt : Time)
  | clearTerminalSecrets (id : String)

def StoreCall.Answer : StoreCall → Type
  | .createOrReplay .. => SessionRecordV1 × SessionSecretsV1 × Bool
  | .load .. | .loadByRunnerSessionID .. => SessionRecordV1 × Option SessionSecretsV1
  | .recoverable => List SessionRecordV1
  | .recordKeyIssue .. => StreamKeyIssueResponseV1 × Bool
  | .recordFinalizedSegments .. | .recordHeartbeat .. | .recordOutputStalled .. => Bool
  | .recordLadderRestart .. => Nat
  | .evaluateOutputHealth .. => Bool × Bool
  | .beginTermination .. | .beginFailure .. => SessionRecordV1 × Bool
  | .reserveCallbackAttempt .. => CallbackDeliveryAttemptV1
  | .completeKeyActivation .. | .advance .. | .recordIngestPresence .. | .acknowledgeEvent ..
  | .recordCallbackRetryFailure .. | .parkCallbackRejection .. | .clearTerminalSecrets .. => Unit

/-- The argument checks a method makes before it takes the lock. -/
def StoreCall.precheck : StoreCall → Result Unit
  | .createOrReplay request response _ => do
    check (validateCreateRequestV1 P request)
    check (validateCreateResponseV1 P response)
  | .loadByRunnerSessionID runnerSessionID =>
    reject (¬ opaqueIDPattern runnerSessionID) "invalid runner session ID"
  | .recordKeyIssue _ request response => do
    check (validateStreamKeyIssueRequestV1 request)
    check (validateStreamKeyIssueResponseV1 P request response)
  | .completeKeyActivation _ requestID =>
    reject (¬ opaqueIDPattern requestID) "key activation request ID is invalid"
  | .recordFinalizedSegments _ _ eventTime =>
    reject eventTime.isZero "metering event time is required"
  | .recordHeartbeat _ eventTime minimumInterval =>
    reject (eventTime.isZero ∨ minimumInterval ≤ 0) "heartbeat time and interval are required"
  | .recordIngestPresence _ _ eventTime =>
    reject eventTime.isZero "ingest observation time is required"
  | .recordLadderRestart _ code eventTime window =>
    reject (¬ validLadderFailureCodeV1 code false ∨ eventTime.isZero ∨ window ≤ 0)
      "ladder restart observation is invalid"
  | .evaluateOutputHealth _ eventTime stallAfter failAfter =>
    reject (eventTime.isZero ∨ stallAfter ≤ 0 ∨ failAfter ≤ stallAfter)
      "output health deadlines are invalid"
  | .recordOutputStalled _ eventTime => reject eventTime.isZero "output stall time is required"
  | .beginTermination _ reason | .beginFailure _ reason =>
    reject (¬ validCloseReasonV1 reason) "termination reason is invalid"
  | .reserveCallbackAttempt _ eventID attemptAt initialBackoff maximumBackoff =>
    reject (eventID = "" ∨ attemptAt.isZero ∨ initialBackoff ≤ 0 ∨ maximumBackoff < initialBackoff)
      "callback attempt policy is invalid"
  | .recordCallbackRetryFailure _ _ statusCode errorCode =>
    reject (¬ validCallbackFailureV1 statusCode errorCode true) "callback retry failure is invalid"
  | .parkCallbackRejection _ _ statusCode errorCode rejectedAt =>
    reject (rejectedAt.isZero ∨ ¬ validCallbackFailureV1 statusCode errorCode false)
      "callback rejection is invalid"
  | .load _ | .recoverable | .advance .. | .acknowledgeEvent .. | .clearTerminalSecrets _ => .ok ()

def StoreCall.locked (faults : Faults) (dir : Directory) :
    (call : StoreCall) → Result call.Answer × Directory
  | .createOrReplay request response now =>
    LiveRunner.createOrReplay P faults dir request response now
  | .load id => (loadLocked P faults.readFails dir id, dir)
  | .loadByRunnerSessionID runnerSessionID =>
    (findByRunnerSessionID P faults.readFails dir runnerSessionID (directoryOrder dir), dir)
  | .recoverable => (LiveRunner.recoverable P faults.readFails dir, dir)
  | .recordKeyIssue id request response =>
    transact P faults dir id (LiveRunner.recordKeyIssue P request response)
  | .completeKeyActivation id requestID =>
    transact P faults dir id (LiveRunner.completeKeyActivation requestID)
  | .advance id event => transact P faults dir id (LiveRunner.advance P event)
  | .recordFinalizedSegments id segments eventTime =>
    transact P faults dir id (LiveRunner.recordFinalizedSegments P segments eventTime)
  | .recordHeartbeat id eventTime minimumInterval =>
    transact P faults dir id (LiveRunner.recordHeartbeat P eventTime minimumInterval)
  | .recordIngestPresence id online eventTime =>
    transact P faults dir id (LiveRunner.recordIngestPresence P online eventTime)
  | .recordLadderRestart id code eventTime window =>
    transact P faults dir id (LiveRunner.recordLadderRestart P code eventTime window)
  | .evaluateOutputHealth id eventTime stallAfter failAfter =>
    transact P faults dir id (LiveRunner.evaluateOutputHealth P eventTime stallAfter failAfter)
  | .recordOutputStalled id eventTime =>
    transact P faults dir id (LiveRunner.recordOutputStalled P eventTime)
  | .beginTermination id reason => transact P faults dir id (beginTerminalV1 reason .ended)
  | .beginFailure id reason => transact P faults dir id (beginTerminalV1 reason .failed)
  | .acknowledgeEvent id eventID => transact P faults dir id (LiveRunner.acknowledgeEvent eventID)
  | .reserveCallbackAttempt id eventID attemptAt initialBackoff maximumBackoff =>
    transact P faults dir id
      (LiveRunner.reserveCallbackAttempt P eventID attemptAt initialBackoff maximumBackoff)
  | .recordCallbackRetryFailure id eventID statusCode errorCode =>
    transact P faults dir id (LiveRunner.recordCallbackRetryFailure eventID statusCode errorCode)
  | .parkCallbackRejection id eventID statusCode errorCode rejectedAt =>
    transact P faults dir id
      (LiveRunner.parkCallbackRejection P eventID statusCode errorCode rejectedAt)
  | .clearTerminalSecrets id => transact P faults dir id LiveRunner.clearTerminalSecrets

def StoreCall.run (call : StoreCall) (faults : Faults) (dir : Directory) :
    Result call.Answer × Directory :=
  match call.precheck P with
  | .error e => (.error e, dir)
  | .ok _ => call.locked P faults dir

end

end LivepeerTranscode.LiveRunner
