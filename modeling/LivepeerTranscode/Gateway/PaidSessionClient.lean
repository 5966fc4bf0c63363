import LivepeerTranscode.Gateway.LiveCalls
import LivepeerTranscode.Gateway.PaidJobClient

/-!
# The paid session client

`livepeer/paidSessionClient.ts`. A session is prepared and opened at LOC and posted to the
broker; it is asked for its status, refilled and ended there. What the broker answers is
parsed by a strict schema and compared with what was asked for.
-/

namespace LivepeerTranscode.Gateway
open Checked Interaction JsonText NodeText
set_option autoImplicit false

structure PaidSessionGrant where
  id : String
  operations : List String
  secret : String
  expiresAt : String
  maxUses : Option Nat

inductive BalanceStatus where
  | ok | low | exhausted
  deriving DecidableEq, Repr

structure PaidSessionBalance where
  claimedUnits : Nat
  debitedUnits : Nat
  unit : String
  authorizationId : String
  authorizationMaxUnits : Nat
  authorizationCapRemainingUnits : Nat
  authorizationReservedValueWei : String
  cumulativeBilledValueWei : String
  accountAvailableValueWei : Option String
  accountVersion : Option Nat
  runwayUnits : Option Nat
  runwaySecondsEstimate : Option Nat
  status : BalanceStatus
  willRefuseNextRefill : Bool
  deriving DecidableEq, Repr

structure PaidSessionControl where
  statusUrl : String
  topupUrl : String
  endUrl : String
  eventsWs : String

/-- A route with its session axes, of which the descriptor is read. -/
structure LiveWorkerRoute extends SelectedWorkerRoute where
  sessionDescriptor : Option String

structure PaidSessionOpenRequest where
  requestId : String
  route : LiveWorkerRoute
  descriptorSchema : String
  sessionParams : JsonValue
  estimatedRunwayUnits : ℚ
  maxTotalUnits : ℚ

structure PaidSessionOpenResult where
  opened : LocOpenSessionResult
  gatewaySessionId : String
  brokerSessionId : String
  workId : String
  credential : String
  runtimePublic : JsonValue
  grants : List PaidSessionGrant
  leaseExpiresAt : String
  balance : PaidSessionBalance
  control : PaidSessionControl

/-- What the control calls read of an opened session or of a recovery handle. -/
structure PaidSessionControlHandle where
  operationId : String
  brokerUrl : String
  gatewaySessionId : String
  descriptorSchema : String
  workUnit : String
  settlementDomainId : String

structure PaidSessionStreamKeyRequest where
  keyIssueUrl : String
  grant : PaidSessionGrant
  requestId : String
  audience : String

structure PaidSessionStreamKeyResult where
  requestId : String
  streamKey : String
  expiresAt : String

structure PaidSessionStatusRequest where
  opened : PaidSessionControlHandle
  brokerSessionId : String
  workId : String
  credential : String

structure PaidSessionStatusResult where
  gatewaySessionId : String
  state : String
  claimedUnits : Nat
  leaseExpiresAt : String
  balance : PaidSessionBalance
  closeReason : Option String
  outputState : OutputState
  outputStateSince : Option String
  lastFailureCode : Option String

structure PaidSessionRefillRequest where
  opened : PaidSessionControlHandle
  brokerSessionId : String
  credential : String
  requestId : String
  observedConsumedUnits : Option ℚ
  maxTotalUnits : ℚ

structure PaidSessionRefillResult where
  workId : String
  leaseExpiresAt : String
  balance : PaidSessionBalance

structure PaidSessionEndRequest where
  opened : PaidSessionControlHandle
  gatewaySessionId : String
  brokerSessionId : String
  credential : String
  reason : String

structure PaidSessionEndResult where
  closeReason : String
  settlementSequence : Nat
  actualUnits : Nat
  envelope : LocSettlementEnvelope

inductive PaidSessionControlEvent where
  | usageTick (sequence : Nat) (unit : String) (claimedTotal debitedUnits : Nat)
  | balance (value : PaidSessionBalance)
  | outputHealth (outputState : OutputState) (outputStateSince : String) (lastFailureCode : Option String)
  | ended (state closeReason : String)
  | rebound (rotationGeneration : Nat) (predecessorWorkId workId : String)
  deriving DecidableEq, Repr

def sessionProtocol : String := "paid-session/v1"

namespace SessionClient

def invalidRequest : LiveFailure := .client "paid_session_request_invalid" false

def invalidEvidence : LiveFailure := .client "paid_session_evidence_invalid" false

def invalidResponse : LiveFailure := .client "paid_session_response_invalid" false

def closePending : LiveFailure := .client "paid_session_close_pending" true

/-! ## Schemas -/

def strict (keys : List String) : Option JsonValue → Option (List (String × JsonValue))
  | some (.obj members) => if members.all fun entry => keys.contains entry.1 then some members else none
  | _ => none

def wireNatural : Option JsonValue → Option Nat
  | some (.num x) => naturalNumber x
  | _ => none

def wirePositive (value : Option JsonValue) : Option Nat := (wireNatural value).filter fun n => 0 < n

def wireText : Option JsonValue → Option String
  | some (.str text) => some text
  | _ => none

def wireBool : Option JsonValue → Option Bool
  | some (.bool b) => some b
  | _ => none

/-- A text that matches `^(0|[1-9][0-9]*)$`. -/
def wireWei (value : Option JsonValue) : Option String :=
  (wireText value).filter fun text => (decimal text).isSome

def optionally {α : Type} (read : Option JsonValue → Option α) (value : Option JsonValue) :
    Option (Option α) :=
  match value with
  | none => some none
  | some present => (read (some present)).map some

def wireList {α : Type} (read : Option JsonValue → Option α) : Option JsonValue → Option (List α)
  | some (.arr items) => items.mapM fun item => read (some item)
  | _ => none

/-- `^[a-z][a-z0-9_]{0,63}$` -/
def safeFailureCode (code : String) : Bool :=
  match code.toList with
  | [] => false
  | c :: rest => lowerLetter c && rest.length ≤ 63 &&
      rest.all fun d => lowerLetter d || d.isDigit || d == '_'

def wireFailureCode (value : Option JsonValue) : Option String :=
  (wireText value).filter fun code => safeFailureCode code

def grantWire (value : Option JsonValue) : Option PaidSessionGrant := do
  let members ← strict ["id", "operations", "secret", "expires_at", "max_uses"] value
  let id ← requiredWireText (members.lookup "id")
  let operations ← wireList requiredWireText (members.lookup "operations")
  let secret ← requiredWireText (members.lookup "secret")
  let expiresAt ← requiredWireText (members.lookup "expires_at")
  let maxUses ← optionally wirePositive (members.lookup "max_uses")
  if operations = [] then none else return { id, operations, secret, expiresAt, maxUses }

def balanceStatus : Option JsonValue → Option BalanceStatus
  | some (.str "ok") => some .ok
  | some (.str "low") => some .low
  | some (.str "exhausted") => some .exhausted
  | _ => none

def balanceKeys : List String :=
  ["claimed_units", "debited_units", "unit", "authorization_id", "authorization_max_units",
    "authorization_cap_remaining_units", "authorization_reserved_value_wei", "cumulative_billed_value_wei",
    "account_available_value_wei", "account_version", "runway_units", "runway_seconds_estimate", "status",
    "will_refuse_next_refill"]

/-- `balanceWire` and `mapBalance` -/
def balanceWire (value : Option JsonValue) : Option PaidSessionBalance := do
  let members ← strict balanceKeys value
  let claimedUnits ← wireNatural (members.lookup "claimed_units")
  let debitedUnits ← wireNatural (members.lookup "debited_units")
  let unit ← requiredWireText (members.lookup "unit")
  let authorizationId ← requiredWireText (members.lookup "authorization_id")
  let authorizationMaxUnits ← wirePositive (members.lookup "authorization_max_units")
  let authorizationCapRemainingUnits ← wireNatural (members.lookup "authorization_cap_remaining_units")
  let authorizationReservedValueWei ← wireWei (members.lookup "authorization_reserved_value_wei")
  let cumulativeBilledValueWei ← wireWei (members.lookup "cumulative_billed_value_wei")
  let accountAvailableValueWei ← optionally wireWei (members.lookup "account_available_value_wei")
  let accountVersion ← optionally wireNatural (members.lookup "account_version")
  let runwayUnits ← optionally wireNatural (members.lookup "runway_units")
  let runwaySecondsEstimate ← optionally wireNatural (members.lookup "runway_seconds_estimate")
  let status ← balanceStatus (members.lookup "status")
  let willRefuseNextRefill ← wireBool (members.lookup "will_refuse_next_refill")
  return { claimedUnits, debitedUnits, unit, authorizationId, authorizationMaxUnits,
           authorizationCapRemainingUnits, authorizationReservedValueWei, cumulativeBilledValueWei,
           accountAvailableValueWei, accountVersion, runwayUnits, runwaySecondsEstimate, status,
           willRefuseNextRefill }

def leaseWire (value : Option JsonValue) : Option String := do
  let members ← strict ["expires_at"] value
  requiredWireText (members.lookup "expires_at")

def outputStateWire : Option JsonValue → Option OutputState
  | some (.str "waiting") => some .waiting
  | some (.str "producing") => some .producing
  | some (.str "stalled") => some .stalled
  | _ => none

/-- The output state of a status, which also has `unknown` and defaults to it. -/
def statusOutputState : Option JsonValue → Option OutputState
  | none | some (.str "unknown") => some .unknown
  | value => outputStateWire value

section
variable (P : LivePlatform)

/-- `z.string().url()` -/
def wireUrl (value : Option JsonValue) : Option String := (wireText value).bind P.url

def controlWire (value : Option JsonValue) : Option PaidSessionControl := do
  let members ← strict ["status_url", "topup_url", "end_url", "events_ws"] value
  let statusUrl ← wireUrl P (members.lookup "status_url")
  let topupUrl ← wireUrl P (members.lookup "topup_url")
  let endUrl ← wireUrl P (members.lookup "end_url")
  let eventsWs ← wireUrl P (members.lookup "events_ws")
  return { statusUrl, topupUrl, endUrl, eventsWs }

structure OpenWire where
  sessionId : String
  workId : String
  runtimeSchema : String
  runtimePublic : JsonValue
  grants : List PaidSessionGrant
  leaseExpiresAt : String
  control : PaidSessionControl
  credential : String
  balance : PaidSessionBalance

def openWire (value : JsonValue) : Option OpenWire := do
  let members ← strict ["session_id", "work_id", "state", "runtime", "lease", "control", "credential",
    "balance"] (some value)
  let sessionId ← requiredWireText (members.lookup "session_id")
  let workId ← requiredWireText (members.lookup "work_id")
  let _ ← requiredWireText (members.lookup "state")
  let runtime ← strict ["schema", "public", "grants"] (members.lookup "runtime")
  let runtimeSchema ← requiredWireText (runtime.lookup "schema")
  let runtimePublic ← runtime.lookup "public"
  let grants ← optionally (wireList grantWire) (runtime.lookup "grants")
  let leaseExpiresAt ← leaseWire (members.lookup "lease")
  let control ← controlWire P (members.lookup "control")
  let credential ← requiredWireText (members.lookup "credential")
  let balance ← balanceWire (members.lookup "balance")
  return { sessionId, workId, runtimeSchema, runtimePublic, grants := grants.getD [], leaseExpiresAt,
           control, credential, balance }

structure CapacityOpenWire where
  sessionId : String
  gatewaySessionId : String
  workId : String

def capacityOpenWire : JsonValue → Option CapacityOpenWire
  | .obj members => do
    let sessionId ← requiredWireText (members.lookup "session_id")
    let gatewaySessionId ← requiredWireText (members.lookup "gateway_session_id")
    let workId ← requiredWireText (members.lookup "work_id")
    let _ ← wireUrl P (members.lookup "settlement_url")
    return { sessionId, gatewaySessionId, workId }
  | _ => none

def streamKeyWire (value : JsonValue) : Option PaidSessionStreamKeyResult := do
  let members ← strict ["request_id", "stream_key", "expires_at"] (some value)
  let requestId ← requiredWireText (members.lookup "request_id")
  let streamKey ← requiredWireText (members.lookup "stream_key")
  let expiresAt ← requiredWireText (members.lookup "expires_at")
  if utf16Length streamKey ≤ 512 then return { requestId, streamKey, expiresAt } else none

structure StatusWire where
  sessionId : String
  gatewaySessionId : String
  workId : String
  authorizationId : String
  state : String
  runtimeSchema : String
  usageUnit : String
  claimedTotal : Nat
  leaseExpiresAt : String
  balance : PaidSessionBalance
  closeReason : Option String
  outputState : OutputState
  outputStateSince : Option String
  lastFailureCode : Option String

def statusKeys : List String :=
  ["session_id", "gateway_session_id", "work_id", "authorization_id", "state", "runtime", "usage", "lease",
    "balance", "started_at", "rotation", "ended_at", "close_reason", "output_state", "output_state_since",
    "last_failure_code"]

def statusWire (value : JsonValue) : Option StatusWire := do
  let members ← strict statusKeys (some value)
  let sessionId ← requiredWireText (members.lookup "session_id")
  let gatewaySessionId ← requiredWireText (members.lookup "gateway_session_id")
  let workId ← requiredWireText (members.lookup "work_id")
  let authorizationId ← requiredWireText (members.lookup "authorization_id")
  let state ← requiredWireText (members.lookup "state")
  let runtime ← strict ["schema", "public"] (members.lookup "runtime")
  let runtimeSchema ← requiredWireText (runtime.lookup "schema")
  let _ ← runtime.lookup "public"
  let usage ← strict ["unit", "claimed_total"] (members.lookup "usage")
  let usageUnit ← requiredWireText (usage.lookup "unit")
  let claimedTotal ← wireNatural (usage.lookup "claimed_total")
  let leaseExpiresAt ← leaseWire (members.lookup "lease")
  let balance ← balanceWire (members.lookup "balance")
  let _ ← requiredWireText (members.lookup "started_at")
  let _ ← optionally wireText (members.lookup "ended_at")
  let closeReason ← optionally wireText (members.lookup "close_reason")
  let outputState ← statusOutputState (members.lookup "output_state")
  let outputStateSince ← optionally requiredWireText (members.lookup "output_state_since")
  let lastFailureCode ← optionally wireFailureCode (members.lookup "last_failure_code")
  return { sessionId, gatewaySessionId, workId, authorizationId, state, runtimeSchema, usageUnit,
           claimedTotal, leaseExpiresAt, balance, closeReason, outputState, outputStateSince,
           lastFailureCode }

structure TopupWire where
  sessionId : String
  workId : String
  leaseExpiresAt : String
  balance : PaidSessionBalance

def topupWire (value : JsonValue) : Option TopupWire := do
  let members ← strict ["session_id", "work_id", "lease", "balance"] (some value)
  let sessionId ← requiredWireText (members.lookup "session_id")
  let workId ← requiredWireText (members.lookup "work_id")
  let leaseExpiresAt ← leaseWire (members.lookup "lease")
  let balance ← balanceWire (members.lookup "balance")
  return { sessionId, workId, leaseExpiresAt, balance }

structure EndWire where
  sessionId : String
  workId : String
  state : String
  closeReason : String

def endWire (value : JsonValue) : Option EndWire := do
  let members ← strict ["session_id", "work_id", "state", "close_reason", "ended_at"] (some value)
  let sessionId ← requiredWireText (members.lookup "session_id")
  let workId ← requiredWireText (members.lookup "work_id")
  let state ← requiredWireText (members.lookup "state")
  let closeReason ← wireText (members.lookup "close_reason")
  let _ ← requiredWireText (members.lookup "ended_at")
  return { sessionId, workId, state, closeReason }

structure SettlementLookupWire where
  sessionId : String
  gatewaySessionId : String
  workId : String
  authorizationId : String
  state : String
  unit : String
  claimedUnits : Nat
  debitedUnits : Nat
  settlementSequence : Nat
  settlement : Option String

def settlementLookupWire : JsonValue → Option SettlementLookupWire
  | .obj members => do
    let sessionId ← requiredWireText (members.lookup "session_id")
    let gatewaySessionId ← requiredWireText (members.lookup "gateway_session_id")
    let workId ← requiredWireText (members.lookup "work_id")
    let authorizationId ← requiredWireText (members.lookup "authorization_id")
    let _ ← optionally wireText (members.lookup "predecessor_work_id")
    let _ ← optionally wireNatural (members.lookup "rotation_generation")
    let state ← requiredWireText (members.lookup "state")
    let unit ← requiredWireText (members.lookup "unit")
    let claimedUnits ← wireNatural (members.lookup "claimed_units")
    let debitedUnits ← wireNatural (members.lookup "debited_units")
    let settlementSequence ← wirePositive (members.lookup "settlement_seq")
    let settlement ← optionally wireText (members.lookup "settlement")
    return { sessionId, gatewaySessionId, workId, authorizationId, state, unit, claimedUnits, debitedUnits,
             settlementSequence, settlement }
  | _ => none

/-! ## Control events -/

def validTimestamp (text : String) : Bool := (P.parseDate text).isSome

/-- The members of an event's body, one schema for each type. -/
def controlEventBody (type : String) (body : Option JsonValue) : Option PaidSessionControlEvent :=
  match type with
  | "session.usage.tick" => do
    let members ← strict ["sequence", "unit", "claimed_total", "debited_units"] body
    let sequence ← wirePositive (members.lookup "sequence")
    let unit ← requiredWireText (members.lookup "unit")
    let claimedTotal ← wireNatural (members.lookup "claimed_total")
    let debitedUnits ← wireNatural (members.lookup "debited_units")
    return .usageTick sequence unit claimedTotal debitedUnits
  | "session.balance" => (balanceWire body).map .balance
  | "session.output.health" => do
    let members ← strict ["output_state", "output_state_since", "last_failure_code"] body
    let outputState ← outputStateWire (members.lookup "output_state")
    let since ← (wireText (members.lookup "output_state_since")).filter fun text => validTimestamp P text
    let lastFailureCode ← optionally wireFailureCode (members.lookup "last_failure_code")
    return .outputHealth outputState since lastFailureCode
  | "session.ended" => do
    let members ← strict ["state", "close_reason"] body
    let state ← requiredWireText (members.lookup "state")
    let closeReason ← requiredWireText (members.lookup "close_reason")
    return .ended state closeReason
  | "session.rebound" => do
    let members ← strict ["rotation_generation", "predecessor_work_id", "work_id"] body
    let rotationGeneration ← wirePositive (members.lookup "rotation_generation")
    let predecessorWorkId ← requiredWireText (members.lookup "predecessor_work_id")
    let workId ← requiredWireText (members.lookup "work_id")
    return .rebound rotationGeneration predecessorWorkId workId
  | _ => none

def controlEventWire (value : JsonValue) : Option PaidSessionControlEvent := do
  let members ← strict ["type", "body"] (some value)
  let type ← wireText (members.lookup "type")
  controlEventBody P type (members.lookup "body")

def orFail {α : Type} (e : LiveFailure) : Option α → Except LiveFailure α
  | some value => .ok value
  | none => .error e

def parsePaidSessionControlEvent (value : JsonValue) : Except LiveFailure PaidSessionControlEvent :=
  orFail invalidEvidence (controlEventWire P value)

/-! ## Evidence -/

def requiredString (value : Option JsonValue) : Except LiveFailure String :=
  orFail invalidEvidence (requiredWireText value)

def safeUnits : Option JsonValue → Except LiveFailure Nat
  | some (.str text) => orFail invalidEvidence (safeDecimal text)
  | _ => .error invalidEvidence

/-- `value ?? "0"` -/
def orZero : Option JsonValue → Option JsonValue
  | none | some .null => some (.str "0")
  | value => value

/-- `requiredString(value) !== expected` -/
def otherText (value : Option JsonValue) (expected : String) : Except LiveFailure Bool :=
  (requiredString value).map fun text => text ≠ expected

/-- `safeUnits(value) !== expected` -/
def otherUnits (value : Option JsonValue) (expected : Nat) : Except LiveFailure Bool :=
  (safeUnits value).map fun units => units ≠ expected

def decodeEnvelope (encoded : String) : Except LiveFailure LocSettlementEnvelope :=
  match (P.parseBytes (P.base64Bytes encoded)).bind settlementWire with
  | some envelope => .ok envelope
  | none => .error (.client "paid_session_settlement_invalid" false)

/-- The outcome of a payload; an unspecified one is absent. -/
def endOutcome : Option JsonValue → Except LiveFailure (Option String)
  | none | some (.str "SETTLEMENT_OUTCOME_UNSPECIFIED") => .ok none
  | value => (requiredString value).map some

section
variable (input : PaidSessionEndRequest) (wire : SettlementLookupWire) (payload : List (String × JsonValue))

def endChecks (actualUnits : Nat) (outcome : Option String) : List (Except LiveFailure Bool) :=
  [.ok (outcome = some "DEBIT_FAILED"),
   .ok (wireText (payload.lookup "state") ≠ some "closed"),
   otherText (payload.lookup "gateway_session_id") input.gatewaySessionId,
   otherText (payload.lookup "session_id") input.brokerSessionId,
   otherText (payload.lookup "work_id") wire.workId,
   otherText (payload.lookup "authorization_id") wire.authorizationId,
   otherText (payload.lookup "settlement_domain_id") input.opened.settlementDomainId,
   otherText (payload.lookup "work_unit_name") wire.unit,
   .ok (actualUnits ≠ wire.claimedUnits),
   otherUnits (orZero (payload.lookup "claimed_units")) actualUnits,
   otherUnits (orZero (payload.lookup "debited_units")) actualUnits,
   otherUnits (payload.lookup "settlement_seq") wire.settlementSequence]

/-- The check of the payload in `end`: the units and the outcome it settles with. -/
def validateEndSettlement : Except LiveFailure (Nat × Option String) := do
  let actualUnits ← safeUnits (orZero (payload.lookup "actual_units"))
  let outcome ← endOutcome (payload.lookup "outcome")
  if ← anyOf (endChecks input wire payload actualUnits outcome) then
    throw (if outcome = some "DEBIT_FAILED" then .client "paid_session_debit_failed" false
      else .client "paid_session_settlement_identity_mismatch" false)
  return (actualUnits, outcome)

end

section
variable (opened : LocOpenSessionResult) (gatewaySessionId : String) (body : CapacityOpenWire)
    (payload : List (String × JsonValue))

def capacityChecks : List (Except LiveFailure Bool) :=
  [.ok (body.gatewaySessionId ≠ gatewaySessionId),
   .ok (body.workId ≠ opened.workId),
   otherText (payload.lookup "gateway_session_id") gatewaySessionId,
   otherText (payload.lookup "session_id") body.sessionId,
   otherText (payload.lookup "work_id") opened.workId,
   otherText (payload.lookup "authorization_id") opened.workId,
   otherText (payload.lookup "settlement_domain_id") opened.routeSnapshot.settlementDomainId,
   otherText (payload.lookup "work_unit_name") opened.routeSnapshot.workUnit,
   otherUnits (payload.lookup "actual_units") 0,
   otherUnits (payload.lookup "claimed_units") 0,
   otherUnits (payload.lookup "debited_units") 0]

/-- The check of the payload in `settleCapacityOpen`: the outcome it settles with. -/
def validateCapacitySettlement : Except LiveFailure String := do
  let outcome ← requiredString (payload.lookup "outcome")
  if ← anyOf (capacityChecks opened gatewaySessionId body payload) then throw invalidEvidence
  return outcome

end

/-! ## Requests -/

/-- `await response.json()` and the schema -/
def readBody {α : Type} (schema : JsonValue → Option α) (response : HttpResponse) : Except LiveFailure α :=
  orFail invalidResponse ((response.body.bind P.parseBody).bind schema)

def parseResponse {α : Type} (schema : JsonValue → Option α) (response : HttpResponse) :
    Except LiveFailure α :=
  if response.ok then readBody P schema response
  else
    let code := (response.header Header.error).getD "paid_session_broker_refused"
    .error (.client code (classifyV2Failure code response.status).retryable)

def fetchImpl (request : HttpRequest) : LiveProg HttpResponse :=
  attempt (LiveCall.fetch request) fun answer => match answer with
    | some response => .ok response
    | none => .error (.error "fetch failed")

/-- `Headers` throws on a value it does not take. -/
def withHeaders (request : HttpRequest) : Except LiveFailure HttpRequest := do
  failWhen (¬ request.headers.all fun entry => headerValue entry.2) (LiveFailure.error "invalid header value")
  return request

def signed (authorization : String) : Except LiveFailure String :=
  match P.signAuthorization authorization with
  | some proof => .ok proof
  | none => .error (.error "LOC spend_authorization is not canonical base64")

def paymentHeader (envelope : Option String) : List (String × String) :=
  ((truthy envelope).map fun value => (Header.payment, value)).toList

def brokerOpenRequest (opened : LocOpenSessionResult) (body : String) : Except LiveFailure HttpRequest := do
  let proof ← signed P opened.spendAuthorization
  withHeaders {
    method := "POST"
    url := withoutTrailingSlash opened.brokerUrl ++ "/v1/session"
    headers := [(Header.capability, opened.routeSnapshot.capability),
      (Header.offering, opened.routeSnapshot.offering), (Header.authorization, opened.spendAuthorization),
      (Header.callerProof, proof), (Header.protocol, sessionProtocol), (Header.requestId, opened.requestId),
      ("Content-Type", "application/json")] ++ paymentHeader opened.paymentEnvelope
    body := utf8Bytes body.toList }

def authHeaders (credential : String) : Except LiveFailure (List (String × String)) := do
  failWhen (credential = "") invalidRequest
  return [("Authorization", "Bearer " ++ credential)]

def brokerControlUrl (opened : PaidSessionControlHandle) (id suffix : String) : Except LiveFailure String := do
  failWhen (id = "") invalidRequest
  return withoutTrailingSlash opened.brokerUrl ++ "/v1/session/" ++ encodeURIComponent id ++ suffix

/-- A `LocTransportError` of a refill or a close is thrown again as the client's own error. -/
def transportError : LiveFailure → LiveFailure
  | .transport e => .client (e.remoteCode.getD e.code) e.retryable
  | other => other

/-! ## Opening -/

def validateOpen (input : PaidSessionOpenRequest) : Except LiveFailure Unit :=
  failWhen (input.route.protocol ≠ .paidSessionV1 ∨
    input.route.sessionDescriptor ≠ some input.descriptorSchema ∨ input.requestId = "" ∨
    openUnits input.estimatedRunwayUnits (some input.maxTotalUnits) = false) invalidRequest

def sessionBinding (route : LiveWorkerRoute) : Except LiveFailure LocRouteBinding :=
  (routeBindingFor route.toSelectedWorkerRoute).mapError fun _ =>
    .transport ⟨"loc_request_invalid", none, false, none⟩

def brokerOpenBody (gatewaySessionId : String) (sessionParams : JsonValue) : String :=
  P.stringify (.obj [("gateway_session_id", .str gatewaySessionId), ("session_params", sessionParams)])

def closeSession (input : LocCloseSessionInput) : LiveProg LocCloseSessionResult :=
  attempt (LiveCall.closeSession input) fun answer => answer.mapError transportError

def settleCapacityOpen (opened : LocOpenSessionResult) (gatewaySessionId : String)
    (response : HttpResponse) : LiveProg Unit := do
  let body ← readBody P (capacityOpenWire P) response
  let encoded ← orFail invalidEvidence (truthy (response.header Header.settlement))
  let envelope ← decodeEnvelope P encoded
  let outcome ← validateCapacitySettlement opened gatewaySessionId body envelope.payload
  let accounting ← closeSession ⟨opened.operationId, 0, some outcome, envelope⟩
  failWhen (accounting.workId ≠ opened.workId ∨ accounting.actualUnits ≠ 0) invalidEvidence

def refusedForCapacity (response : HttpResponse) : Bool :=
  response.status == 503 && response.header Header.error == some "capacity_exhausted"

def open' (input : PaidSessionOpenRequest) : LiveProg PaidSessionOpenResult := do
  validateOpen input
  let routeBinding ← sessionBinding input.route
  let prepared ← attempt (LiveCall.prepareSession {
    requestId := input.requestId
    capability := input.route.capability
    offering := input.route.offering
    descriptorSchema := input.descriptorSchema
    routeBinding := routeBinding }) fun answer => answer
  let body := brokerOpenBody P prepared.gatewaySessionId input.sessionParams
  failWhen (prepared.brokerUrl ≠ input.route.workerUrl) invalidEvidence
  let opened ← attempt (LiveCall.openSession {
    requestId := input.requestId
    capability := input.route.capability
    offering := input.route.offering
    descriptorSchema := input.descriptorSchema
    sessionParams := input.sessionParams
    estimatedRunwayUnits := input.estimatedRunwayUnits
    maxTotalUnits := input.maxTotalUnits
    routeBinding := routeBinding
    gatewaySessionId := prepared.gatewaySessionId
    preparationToken := prepared.preparationToken
    workloadRequestDigest := P.sha256Hex (utf8Bytes body.toList)
    callerPublicKey := P.callerPublicKey }) fun answer => answer
  let request ← brokerOpenRequest P opened body
  let response ← fetchImpl request
  if refusedForCapacity response then
    settleCapacityOpen P opened prepared.gatewaySessionId response
    throw (.client "capacity_exhausted" true)
  else
    let value ← parseResponse P (openWire P) response
    failWhen (value.workId ≠ opened.workId ∨ value.runtimeSchema ≠ input.descriptorSchema ∨
      value.balance.unit ≠ opened.routeSnapshot.workUnit) invalidEvidence
    return {
      opened := opened
      gatewaySessionId := prepared.gatewaySessionId
      brokerSessionId := value.sessionId
      workId := value.workId
      credential := value.credential
      runtimePublic := value.runtimePublic
      grants := value.grants
      leaseExpiresAt := value.leaseExpiresAt
      balance := value.balance
      control := value.control }

def issueStreamKey (input : PaidSessionStreamKeyRequest) : LiveProg PaidSessionStreamKeyResult := do
  failWhen (input.requestId = "" ∨ "stream-key-issue" ∉ input.grant.operations ∨ input.grant.secret = "" ∨
    P.runnerUrl input.keyIssueUrl = false) invalidRequest
  let request ← withHeaders {
    method := "POST"
    url := input.keyIssueUrl
    headers := [("Authorization", "Bearer " ++ input.grant.secret), ("Content-Type", "application/json")]
    body := utf8Bytes (P.stringify (.obj [("request_id", .str input.requestId),
      ("audience", .str input.audience)])).toList }
  let response ← fetchImpl request
  let value ← parseResponse P streamKeyWire response
  failWhen (value.requestId ≠ input.requestId ∨ validTimestamp P value.expiresAt = false) invalidEvidence
  return value

/-! ## Status -/

def checkStatus (input : PaidSessionStatusRequest) (value : StatusWire) :
    Except LiveFailure PaidSessionStatusResult := do
  failWhen (value.sessionId ≠ input.brokerSessionId ∨ value.workId ≠ input.workId ∨
    value.authorizationId ≠ value.workId ∨ value.balance.authorizationId ≠ value.authorizationId ∨
    value.runtimeSchema ≠ input.opened.descriptorSchema ∨ value.usageUnit ≠ input.opened.workUnit ∨
    value.balance.unit ≠ input.opened.workUnit ∨
    ¬ value.outputStateSince.all (validTimestamp P)) invalidEvidence
  return {
    gatewaySessionId := value.gatewaySessionId
    state := value.state
    claimedUnits := value.claimedTotal
    leaseExpiresAt := value.leaseExpiresAt
    balance := value.balance
    closeReason := value.closeReason
    outputState := value.outputState
    outputStateSince := value.outputStateSince
    lastFailureCode := value.lastFailureCode }

def acceptStatus (input : PaidSessionStatusRequest) (response : HttpResponse) :
    Except LiveFailure PaidSessionStatusResult := do
  let value ← parseResponse P statusWire response
  checkStatus P input value

def statusRequest (input : PaidSessionStatusRequest) : Except LiveFailure HttpRequest := do
  let url ← brokerControlUrl input.opened input.brokerSessionId ""
  let headers ← authHeaders input.credential
  withHeaders { method := "GET", url, headers, body := [] }

def status (input : PaidSessionStatusRequest) : LiveProg PaidSessionStatusResult := do
  let request ← statusRequest input
  let response ← fetchImpl request
  acceptStatus P input response

/-! ## Refilling -/

def validateRefill (input : PaidSessionRefillRequest) : Except LiveFailure Unit :=
  failWhen (input.requestId = "" ∨
    ¬ (Binary64.safeInteger input.maxTotalUnits).any fun n => 1 ≤ n) invalidRequest

def topupRequest (input : PaidSessionRefillRequest) (refill : LocRefillSessionResult) :
    Except LiveFailure HttpRequest := do
  let authorization ← authHeaders input.credential
  let proof ← signed P refill.spendAuthorization
  let url ← brokerControlUrl input.opened input.brokerSessionId "/topup"
  withHeaders {
    method := "POST"
    url := url
    headers := authorization ++ [(Header.authorization, refill.spendAuthorization),
      (Header.callerProof, proof), (Header.requestId, refill.requestId),
      ("Content-Type", "application/json")] ++ paymentHeader refill.paymentEnvelope
    body := utf8Bytes ['\x7b', '\x7d'] }

def refill (input : PaidSessionRefillRequest) : LiveProg PaidSessionRefillResult := do
  validateRefill input
  let refilled ← attempt (LiveCall.refillSession {
    operationId := input.opened.operationId
    requestId := input.requestId
    observedConsumedUnits := input.observedConsumedUnits
    maxTotalUnits := input.maxTotalUnits
    workloadRequestDigest := P.sha256Hex (utf8Bytes ['\x7b', '\x7d']) }) fun answer =>
      answer.mapError transportError
  let request ← topupRequest P input refilled
  let response ← fetchImpl request
  let value ← parseResponse P topupWire response
  failWhen (value.sessionId ≠ input.brokerSessionId ∨ value.workId ≠ refilled.workId ∨
    value.balance.unit ≠ input.opened.workUnit) invalidEvidence
  return { workId := value.workId, leaseExpiresAt := value.leaseExpiresAt, balance := value.balance }

/-! ## Ending -/

def closeAliases : List (String × String) :=
  [("customer_end", "gateway_close"), ("publisher_disconnect", "gateway_close"),
   ("broker_ended", "gateway_close"), ("lease_exhausted", "lease_expired"),
   ("relay_failure", "ingest_failed"), ("refill_preannounced_refusal", "refill_refused"),
   ("refill_policy_exhausted", "refill_refused"), ("refill_total_exceeded", "refill_refused"),
   ("runner_ended", "gateway_close"), ("insufficient_balance", "runway_exhausted"),
   ("authorization_exhausted", "runway_exhausted"), ("open_failed", "recovery_failed"),
   ("capacity_exhausted", "recovery_failed")]

def closeReasons : List String :=
  ["gateway_close", "lease_expired", "heartbeat_lost", "runway_exhausted", "refill_refused",
   "recovery_failed", "payment_unrecoverable", "runner_failed", "ingest_failed", "output_failed"]

def runnerCloseReason (reason : String) : Except LiveFailure String := do
  let mapped := (closeAliases.lookup reason).getD reason
  failWhen (mapped ∉ closeReasons) invalidRequest
  return mapped

def validateEnd (input : PaidSessionEndRequest) : Except LiveFailure Unit :=
  failWhen (input.gatewaySessionId = "" ∨ input.brokerSessionId = "" ∨ input.credential = "" ∨
    input.reason = "") invalidRequest

def endRequest (input : PaidSessionEndRequest) : Except LiveFailure HttpRequest := do
  let url ← brokerControlUrl input.opened input.brokerSessionId "/end"
  let authorization ← authHeaders input.credential
  let reason ← runnerCloseReason input.reason
  withHeaders {
    method := "POST"
    url := url
    headers := authorization ++ [("Content-Type", "application/json")]
    body := utf8Bytes (P.stringify (.obj [("reason", .str reason)])).toList }

def checkEnded (input : PaidSessionEndRequest) (body : EndWire) : Except LiveFailure Unit := do
  failWhen (body.sessionId ≠ input.brokerSessionId) invalidEvidence
  failWhen (body.state ∈ ["winding_down", "open", "active"]) closePending
  failWhen (body.state ∉ ["closed", "ended", "failed"]) invalidEvidence

def settlementLookup (opened : PaidSessionControlHandle) (gatewaySessionId : String)
    (header : Option String) : LiveProg (SettlementLookupWire × LocSettlementEnvelope) := do
  let response ← fetchImpl {
    method := "GET"
    url := withoutTrailingSlash opened.brokerUrl ++ "/v1/settlement/" ++ encodeURIComponent gatewaySessionId
    headers := []
    body := [] }
  let wire ← parseResponse P settlementLookupWire response
  let encoded ← orFail invalidEvidence
    (truthy (((response.header Header.settlement).or header).or wire.settlement))
  let envelope ← decodeEnvelope P encoded
  return (wire, envelope)

def checkLookup (input : PaidSessionEndRequest) (body : EndWire) (wire : SettlementLookupWire) :
    Except LiveFailure Unit := do
  failWhen (wire.state ∈ ["winding_down", "open"]) closePending
  failWhen (wire.sessionId ≠ input.brokerSessionId ∨ wire.gatewaySessionId ≠ input.gatewaySessionId ∨
    wire.workId ≠ body.workId ∨ wire.authorizationId ≠ wire.workId ∨ wire.unit ≠ input.opened.workUnit ∨
    wire.claimedUnits ≠ wire.debitedUnits ∨ wire.state ≠ "closed") invalidEvidence

def end' (input : PaidSessionEndRequest) : LiveProg PaidSessionEndResult := do
  validateEnd input
  let request ← endRequest P input
  let response ← fetchImpl request
  let body ← parseResponse P endWire response
  checkEnded input body
  let (wire, envelope) ← settlementLookup P input.opened input.gatewaySessionId
    (response.header Header.settlement)
  checkLookup input body wire
  let (actualUnits, outcome) ← validateEndSettlement input wire envelope.payload
  let accounting ← closeSession ⟨input.opened.operationId, actualUnits, outcome, envelope⟩
  failWhen (accounting.workId ≠ wire.workId) invalidEvidence
  return {
    closeReason := body.closeReason
    settlementSequence := wire.settlementSequence
    actualUnits := actualUnits
    envelope := envelope }

end

end SessionClient

end LivepeerTranscode.Gateway
