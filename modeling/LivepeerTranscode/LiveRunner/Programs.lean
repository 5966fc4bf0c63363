import LivepeerTranscode.LiveRunner.Media
import LivepeerTranscode.LiveRunner.Store
import LivepeerTranscode.Shared.Interaction

/-!
# The runner's programs over the store

The code of `recovery.go`, `callback.go` and `runtime.go` that strings several store
methods together, as programs over the store and the world around it. Between two
calls of one program any other program of the process may run.
-/

namespace LivepeerTranscode.LiveRunner
open Checked GoText Interaction JsonText
set_option autoImplicit false

/-- The answer to a callback POST: no answer, or a status and, if the body was a JSON
object, its `error` and `code` members. -/
inductive PostAnswer where
  | transportError
  | response (statusCode : Nat) (codes : Option (String × String))

/-- What the coordinator says to a session it is asked to run. -/
inductive Admission where
  | refused (e : GoError)
  | alreadyRunning
  | admitted

structure TerminateResponseV1 where
  runnerSessionID : String
  state : SessionState
  closeReason : String

/-- A request of the HTTP server, with its body as it decodes. -/
inductive Request where
  | create (authorization : String) (body : Option RunnerCreateRequestV1)
  | terminate (id authorization : String) (reason : Option String)
  | streamKey (id authorization : String) (body : Option StreamKeyIssueRequestV1)
  | authorize (request : MediaMTXAuthRequestV1)

inductive Response where
  | created (response : RunnerCreateResponseV1)
  | terminated (response : TerminateResponseV1)
  | issued (response : StreamKeyIssueResponseV1)
  | authorized
  | noContent
  | error (status : Nat) (code : String)

/-- The `Random` fields of the response factory and of the server. -/
inductive RandomSource where
  | factory | server
  deriving DecidableEq

inductive Effect where
  | store (call : StoreCall)
  | post (id callbackURL callbackToken : String) (event : RunnerEventV1)
  | admission (record : SessionRecordV1) (secrets : SessionSecretsV1)
  | terminateRuntime (record : SessionRecordV1)
  | activateStreamKey (record : SessionRecordV1)
  | now
  | receive (request : Request)
  | respond (request : Request) (response : Response)
  | validateSession (request : RunnerCreateRequestV1)
  | random (source : RandomSource) (size : Nat)
  | kickPublisher (runnerSessionID : String)
  | joinLadder (runnerSessionID : String)

def Effect.Answer : Effect → Type
  | .store call => Result call.Answer
  | .post .. => PostAnswer
  | .admission .. => Admission
  | .terminateRuntime _ | .activateStreamKey _ | .validateSession _ | .kickPublisher _
  | .joinLadder _ => Result Unit
  | .now => Time
  | .receive _ | .respond .. => Unit
  | .random .. => Option (List UInt8)

abbrev RunnerProg (α : Type) : Type := Prog Effect Effect.Answer α

def ask (call : StoreCall) : RunnerProg (Result call.Answer) := .call (Effect.store call) .pure

def askAdmission (record : SessionRecordV1) (secrets : SessionSecretsV1) : RunnerProg Admission :=
  .call (Effect.admission record secrets) .pure

def terminateSession (record : SessionRecordV1) : RunnerProg (Result Unit) :=
  .call (Effect.terminateRuntime record) .pure

def activateStreamKey (record : SessionRecordV1) : RunnerProg (Result Unit) :=
  .call (Effect.activateStreamKey record) .pure

def clock : RunnerProg Time := .call Effect.now .pure

def discard {α : Type} (p : RunnerProg α) : RunnerProg Unit := p >>= fun _ => .pure ()

section
variable (P : Platform)

/-! ## Starting and ending a session -/

def startedEvent (record : SessionRecordV1) (now : Time) : RunnerEventV1 :=
  { eventID := record.runnerSessionID ++ ":1"
    sequence := 1
    eventType := .started
    eventTime := P.formatNano now
    state := .active
    usage := none
    closeReason := none
    details := some (outputHealthDetailsV1 record) }

/-- `EnsureSession`, up to the goroutine it starts. -/
def ensureSession (record : SessionRecordV1) (secrets : SessionSecretsV1) :
    RunnerProg (Result Unit) :=
  if record.state ≠ .active ∨ record.stopping then return .error .sessionTerminal
  else do
    match ← askAdmission record secrets with
    | .refused e => return .error e
    | .alreadyRunning => return .ok ()
    | .admitted =>
      if record.lastSequence = 0 then
        let now ← clock
        ask (.advance record.brokerSessionID (startedEvent P record now))
      else return .ok ()

/-- The terminal event of a stopping record; the sequence is a `uint64` and wraps. -/
def terminalEvent (record : SessionRecordV1) (now : Time) : RunnerEventV1 :=
  let sequence := (record.lastSequence + 1) % 2 ^ 64
  let state := record.pendingTerminalState.getD .ended
  { eventID := eventIDFor record.runnerSessionID sequence
    sequence := sequence
    eventType := if state = .failed then .failed else .ended
    eventTime := P.formatNano now
    state := state
    usage := some { unit := workUnitV1, total := record.usageTotal }
    closeReason := some record.pendingCloseReason
    details := some (outputHealthDetailsV1 record) }

def loadRecord (id : String) : RunnerProg (Result SessionRecordV1) := do
  match ← ask (.load id) with
  | .error e => return .error e
  | .ok (record, _) => return .ok record

def finalizeLiveTerminationV1 (id : String) (now : Time) : RunnerProg (Result SessionRecordV1) :=
  if id = "" ∨ now.isZero then return .error (.message "live termination finalization is invalid")
  else do
    match ← ask (.load id) with
    | .error _ => return .error (.message "reload live termination state failed")
    | .ok (record, _) =>
      if record.terminal then return .ok record
      else if ¬ record.stopping then
        return .error (.message "reload live termination state failed")
      else
        match ← ask (.advance record.brokerSessionID (terminalEvent P record now)) with
        | .error .sessionTerminal => loadRecord record.brokerSessionID
        | .error e => return .error e
        | .ok _ => loadRecord record.brokerSessionID

def completeLiveTerminationV1 (record : SessionRecordV1) (now : Time) :
    RunnerProg (Result SessionRecordV1) :=
  if record.state ≠ .active ∨ ¬ record.stopping ∨ ¬ validCloseReasonV1 record.pendingCloseReason then
    return .error (.message "live termination state is invalid")
  else do
    match ← terminateSession record with
    | .error e => return .error e
    | .ok _ => finalizeLiveTerminationV1 P record.brokerSessionID now

/-- What startup recovery does with one active session. -/
def recoverSession (id : String) : RunnerProg (Result Unit) := do
  match ← ask (.load id) with
  | .error e => return .error e
  | .ok (record, secrets) =>
    if record.stopping then
      let now ← clock
      match ← completeLiveTerminationV1 P record now with
      | .error e => return .error e
      | .ok _ => return .ok ()
    else
      match secrets with
      | none => return .error (.message "active live session has no secrets")
      | some secrets =>
        if record.pendingKeyActivationID = "" then ensureSession P record secrets
        else
          match ← activateStreamKey record with
          | .error e => return .error e
          | .ok _ =>
            match ← ask (.completeKeyActivation record.brokerSessionID record.pendingKeyActivationID) with
            | .error e => return .error e
            | .ok _ => ensureSession P { record with pendingKeyActivationID := "" } secrets

def recoverEach : List SessionRecordV1 → RunnerProg (Result Unit)
  | [] => return .ok ()
  | candidate :: rest =>
    if candidate.state ≠ .active then recoverEach rest
    else do
      match ← recoverSession P candidate.brokerSessionID with
      | .error e => return .error e
      | .ok _ => recoverEach rest

def recoverLiveSessionsV1 : RunnerProg (Result Unit) := do
  match ← ask .recoverable with
  | .error e => return .error e
  | .ok records => recoverEach P records

/-! ## Delivering callbacks -/

/-- The error of one delivery: `CallbackDeliveryErrorV1`, or an error of another kind. -/
inductive DeliveryError where
  | callback (statusCode : Nat) (code : String) (retryable : Bool)
  | other (e : GoError)

def postEvent (id callbackURL callbackToken : String) (event : RunnerEventV1) :
    RunnerProg PostAnswer :=
  .call (Effect.post id callbackURL callbackToken event) .pure

def callbackStatusRetryableV1 (statusCode : Nat) : Bool :=
  statusCode == 408 || statusCode == 429 || (decide (500 ≤ statusCode) && decide (statusCode ≤ 599))

def safeBrokerCallbackCodeV1 (code : String) : Bool :=
  callbackErrorCodePatternV1 code &&
    ["duplicate_event", "event_not_supported", "invalid_event", "sequence_conflict",
      "session_terminal"].contains code

def safeCallbackErrorCodeV1 (statusCode : Nat) (codes : Option (String × String)) : String :=
  if statusCode = 401 ∨ statusCode = 403 then "callback_auth_rejected"
  else if statusCode = 404 ∨ statusCode = 410 then "broker_session_terminal"
  else match codes.bind fun (error, code) => [error, code].find? safeBrokerCallbackCodeV1 with
    | some code => code
    | none => "http_" ++ toString statusCode

/-- The dispatcher's retry bounds: 500 ms doubling up to 30 s. -/
def retryInitial : Int := 500000000
def retryMaximum : Int := 30000000000

/-- What follows a reserved attempt: the POST and the record of how it ended. -/
def deliverReserved (id : String) (secrets : SessionSecretsV1) (event : RunnerEventV1)
    (now : Time) : RunnerProg (Except DeliveryError Bool) := do
  match ← postEvent id secrets.createRequest.callbackURL secrets.createRequest.callbackToken event with
  | .transportError =>
    match ← ask (.recordCallbackRetryFailure id event.eventID 0 "transport_error") with
    | .error e => return .error (.other e)
    | .ok _ => return .error (.callback 0 "transport_error" true)
  | .response statusCode codes =>
    let code := safeCallbackErrorCodeV1 statusCode codes
    if 200 ≤ statusCode ∧ statusCode < 300 then
      match ← ask (.acknowledgeEvent id event.eventID) with
      | .error e => return .error (.other e)
      | .ok _ => return .ok true
    else if callbackStatusRetryableV1 statusCode then
      match ← ask (.recordCallbackRetryFailure id event.eventID statusCode code) with
      | .error e => return .error (.other e)
      | .ok _ => return .error (.callback statusCode code true)
    else
      match ← ask (.parkCallbackRejection id event.eventID statusCode code now) with
      | .error e => return .error (.other e)
      | .ok _ => return .error (.callback statusCode code false)

/-- Whether the recorded retry time of the head has come. -/
def callbackDue (record : SessionRecordV1) (now : Time) : Result Bool :=
  match record.callbackDelivery with
  | none => .ok true
  | some delivery =>
    match P.parseNano delivery.nextAttemptAt with
    | none => .error (.message "callback retry time is invalid")
    | some nextAttempt => .ok (decide (nextAttempt ≤ now))

/-- `DeliverNext` posts at most one durable event. -/
def deliverNext (id : String) : RunnerProg (Except DeliveryError Bool) := do
  match ← ask (.load id) with
  | .error e => return .error (.other e)
  | .ok (record, secrets) =>
    match record.pendingEvents, secrets with
    | [], _ => return .ok false
    | _ :: _, none =>
      return .error (.other (.message "pending runner event has no callback credentials"))
    | event :: _, some secrets =>
      let now ← clock
      match callbackDue P record now with
      | .error e => return .error (.other e)
      | .ok false => return .ok false
      | .ok true =>
        match ← ask (.reserveCallbackAttempt id event.eventID now retryInitial retryMaximum) with
        | .error .callbackNotDue => return .ok false
        | .error e => return .error (.other e)
        | .ok _ => deliverReserved id secrets event now

/-- The inner loop of `SweepOnce`: at most as many deliveries as the snapshot had events. -/
def drain (id : String) : Nat → RunnerProg (Result Unit)
  | 0 => return .ok ()
  | count + 1 => do
    match ← deliverNext P id with
    | .ok true => drain id count
    | .ok false => return .ok ()
    | .error (.callback _ _ true) => return .ok ()
    | .error (.callback _ _ false) => drain id count
    | .error (.other e) => return .error e

def sweepSession (record : SessionRecordV1) : RunnerProg (Result Unit) := do
  match ← drain P record.brokerSessionID record.pendingEvents.length with
  | .error e => return .error e
  | .ok _ =>
    match ← ask (.load record.brokerSessionID) with
    | .error e => return .error e
    | .ok (current, secrets) =>
      if current.state ≠ .active ∧ current.pendingEvents.isEmpty ∧ secrets.isSome then
        match ← ask (.clearTerminalSecrets record.brokerSessionID) with
        | .error e => return .error e
        | .ok _ => return .ok ()
      else return .ok ()

def sweepEach : List SessionRecordV1 → RunnerProg (Result Unit)
  | [] => return .ok ()
  | record :: rest => do
    match ← sweepSession P record with
    | .error e => return .error e
    | .ok _ => sweepEach rest

def sweepOnce : RunnerProg (Result Unit) := do
  match ← ask .recoverable with
  | .error e => return .error e
  | .ok records => sweepEach P records

end

end LivepeerTranscode.LiveRunner
