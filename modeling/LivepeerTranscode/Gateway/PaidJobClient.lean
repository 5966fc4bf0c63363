import LivepeerTranscode.Gateway.Wire

/-!
# The paid job client

`livepeer/paidJobClient.ts`. A job is opened at LOC and posted to the broker; its settlement
comes with the response, or from the exchange record, or from polling the settlement. Each
way ends in `settle`, which checks the evidence and hands it to LOC.
-/

namespace LivepeerTranscode.Gateway
open Checked Interaction JsonText NodeText
set_option autoImplicit false

/-- A request. What `validateTerminal` assigns where it was written is its value here. -/
structure PaidJobRequest (τ : Type) where
  requestId : String
  route : SelectedWorkerRoute
  transport : PaidTransport
  estimatedUnits : ℚ
  maxTotalUnits : Option ℚ
  contentType : String
  body : List UInt8
  validateTerminal : Option (List UInt8 → PaidJobSettlement → GatewayProg τ)

inductive Unresolved where
  | inFlight (brokerJobId : String)
  | accountingPending (brokerJobId : String)
  | notAdmitted (evidence : String)
  | noRecord
  | admittedOutcomeUnknown (brokerJobId : String)
  | admittedEvidenceExpired (brokerJobId : String)

structure Settled (τ : Type) where
  settlement : PaidJobSettlement
  accounting : LocSettleJobResult
  terminal : Option τ

inductive Recovered (τ : Type) where
  | settled (value : Settled τ)
  | unresolved (value : Unresolved)

structure BrokerAnswer where
  status : Nat
  contentType : Option String
  body : List UInt8

/-- The result of `execute`; a job settled by recovery comes without the broker's answer. -/
structure PaidJobResult (τ : Type) where
  opened : LocOpenJobResult
  broker : Option BrokerAnswer
  outcome : Recovered τ

def protocolText : String := "paid-job/v1"

def invalidEvidence : Failure := .job "paid_job_evidence_invalid" false

def outcomeUnknown : Failure := .job "paid_job_outcome_unknown" true

/-! ## Evidence -/

/-- `asRecord` -/
def asRecord : Option JsonValue → Except Failure (List (String × JsonValue))
  | some (.obj members) => .ok members
  | _ => .error invalidEvidence

def orInvalid {α : Type} : Option α → Except Failure α
  | some value => .ok value
  | none => .error invalidEvidence

def requiredString (value : Option JsonValue) : Except Failure String :=
  orInvalid (requiredWireText value)

/-- `safeUnits` of a number or a text. `String` of a number is a canonical decimal exactly
when it is a nonnegative integer below 10^21. -/
def safeUnits : Option JsonValue → Except Failure Nat
  | some (.num x) => orInvalid (naturalNumber x)
  | some (.str text) => orInvalid (safeDecimal text)
  | _ => .error invalidEvidence

/-- `requiredString(value) !== expected` -/
def otherText (value : Option JsonValue) (expected : String) : Except Failure Bool :=
  (requiredString value).map fun text => text ≠ expected

def hexAsBase64 (hex : String) : String := base64Text (hexBytes hex)

structure JobClaim where
  brokerJobId : String
  actualUnits : Nat
  workUnit : String
  envelope : LocSettlementEnvelope

section
variable (opened : LocOpenJobResult) (claim : JobClaim)

def settlementChecks (quote : List (String × JsonValue)) (actualUnits : Nat) (outcome : String) :
    List (Except Failure Bool) :=
  let payload := claim.envelope.payload
  let binding := opened.routeSnapshot.binding
  [.ok (outcome = "DEBIT_FAILED"),
   otherText (payload.lookup "request_id") opened.requestId,
   otherText (payload.lookup "job_id") claim.brokerJobId,
   otherText (payload.lookup "work_id") opened.workId,
   otherText (payload.lookup "authorization_id") opened.workId,
   otherText (payload.lookup "settlement_domain_id") opened.routeSnapshot.settlementDomainId,
   otherText (payload.lookup "work_unit_name") opened.workUnit,
   .ok (claim.workUnit ≠ opened.workUnit),
   .ok (actualUnits ≠ claim.actualUnits),
   (safeUnits (payload.lookup "billed_units")).map fun units => units ≠ actualUnits,
   (safeUnits (payload.lookup "debited_units")).map fun units => units ≠ actualUnits,
   otherText (quote.lookup "quote_id") binding.quoteId,
   otherText (quote.lookup "quote_version") binding.quoteVersion,
   otherText (quote.lookup "constraint_fingerprint") (hexAsBase64 binding.constraintFingerprint),
   otherText (quote.lookup "route_fingerprint") (hexAsBase64 binding.routeFingerprint)]

def validateSettlement : Except Failure PaidJobSettlement := do
  let payload := claim.envelope.payload
  let quote ← asRecord (payload.lookup "accepted_quote_ref")
  let actualUnits ← safeUnits (payload.lookup "actual_units")
  let outcome ← requiredString (payload.lookup "outcome")
  if ← anyOf (settlementChecks opened claim quote actualUnits outcome) then
    throw (if outcome = "DEBIT_FAILED" then .job "paid_job_debit_failed" false
      else .job "paid_job_settlement_identity_mismatch" false)
  return ⟨claim.brokerJobId, actualUnits, claim.workUnit, outcome, claim.envelope⟩

end

section
variable (P : Platform)

/-- `/^0x[0-9a-fA-F]{130}$/` -/
def signatureText (text : String) : Bool :=
  match text.toList with
  | '0' :: 'x' :: digits => digits.length == 130 && digits.all fun c => (hexValue c).isSome
  | _ => false

/-- `settlementWire.safeParse` -/
def settlementWire : JsonValue → Option LocSettlementEnvelope
  | .obj members =>
    match members.lookup "payload", members.lookup "signature" with
    | some (.obj payload), some (.obj signature) =>
      match signature.lookup "algorithm", signature.lookup "canonicalization", signature.lookup "value" with
      | some (.str algorithm), some (.str canonicalization), some (.str value) =>
        if members.length = 2 ∧ signature.length = 3 ∧ algorithm = "secp256k1" ∧
            canonicalization = "jcs" ∧ signatureText value = true then
          some ⟨payload.filter fun entry => entry.1 ≠ "__proto__", value⟩
        else none
      | _, _, _ => none
    | _, _ => none
  | _ => none

def decodeSettlement (encoded : String) : Except Failure LocSettlementEnvelope :=
  match (P.parseBytes (P.base64Bytes encoded)).bind settlementWire with
  | some envelope => .ok envelope
  | none => .error (.job "paid_job_settlement_invalid" false)

/-! ## Settling -/

section
variable {τ : Type} (validateTerminal : Option (List UInt8 → PaidJobSettlement → GatewayProg τ))

/-- `await validateTerminal?.({ brokerBody, settlement })` -/
def validated (brokerBody : List UInt8) (settlement : PaidJobSettlement) : GatewayProg (Option τ) :=
  match validateTerminal with
  | none => return none
  | some validate => do
    let terminal ← validate brokerBody settlement
    return some terminal

def settle (opened : LocOpenJobResult) (claim : JobClaim) (brokerBody : List UInt8) :
    GatewayProg (Settled τ) := do
  let settlement ← validateSettlement opened claim
  let terminal ← validated validateTerminal brokerBody settlement
  let accounting ← attempt (Call.settleJob {
    operationId := opened.operationId
    actualUnits := settlement.actualUnits
    brokerJobId := settlement.brokerJobId
    workUnit := settlement.workUnit
    outcome := settlement.outcome
    settlement := settlement.envelope }) fun answer => answer
  failWhen (accounting.workId ≠ opened.workId) invalidEvidence
  return ⟨settlement, accounting, terminal⟩

inductive ExchangeOutcome where
  | inFlight | accountingPending | settled | notAdmitted | admittedOutcomeUnknown
  | admittedEvidenceExpired | noRecord
  deriving DecidableEq, Repr

def exchangeOutcome : Option JsonValue → Option ExchangeOutcome
  | some (.str "IN_FLIGHT") => some .inFlight
  | some (.str "ACCOUNTING_PENDING") => some .accountingPending
  | some (.str "SETTLED") => some .settled
  | some (.str "NOT_ADMITTED") => some .notAdmitted
  | some (.str "ADMITTED_OUTCOME_UNKNOWN") => some .admittedOutcomeUnknown
  | some (.str "ADMITTED_EVIDENCE_EXPIRED") => some .admittedEvidenceExpired
  | some (.str "NO_RECORD") => some .noRecord
  | _ => none

structure Exchange where
  requestId : String
  jobId : Option String
  outcome : ExchangeOutcome
  workUnits : Option JsonValue
  unit : Option String
  settlement : Option String
  nonAdmission : Option String

/-- A nonnegative integer, or the text of one, or nothing. -/
def wireUnits : Option JsonValue → Option (Option JsonValue)
  | none => some none
  | some (.num x) => (naturalNumber x).map fun _ => some (.num x)
  | some (.str text) => (decimal text).map fun _ => some (.str text)
  | some _ => none

/-- `exchangeWire.safeParse` -/
def exchangeWire : JsonValue → Option Exchange
  | .obj members => do
    let requestId ← requiredWireText (members.lookup "request_id")
    let jobId ← optionalText (members.lookup "job_id")
    let outcome ← exchangeOutcome (members.lookup "outcome")
    let workUnits ← wireUnits (members.lookup "work_units")
    let unit ← optionalText (members.lookup "unit")
    let settlement ← optionalText (members.lookup "settlement")
    let nonAdmission ← optionalText (members.lookup "non_admission")
    return { requestId, jobId, outcome, workUnits, unit, settlement, nonAdmission }
  | _ => none

def exchangeClaim (exchange : Exchange) : Except Failure JobClaim :=
  match exchange.jobId, exchange.workUnits, exchange.unit, exchange.settlement with
  | some jobId, some workUnits, some unit, some settlement => do
    let actualUnits ← safeUnits (some workUnits)
    let envelope ← decodeSettlement P settlement
    return ⟨jobId, actualUnits, unit, envelope⟩
  | _, _, _, _ => .error invalidEvidence

def settleFromExchange (opened : LocOpenJobResult) (exchange : Exchange) (brokerBody : List UInt8) :
    GatewayProg (Settled τ) := do
  let claim ← exchangeClaim P exchange
  settle validateTerminal opened claim brokerBody

/-! ## Polling and recovery -/

/-- `await response.json()` -/
def readJson (response : HttpResponse) : Except Failure JsonValue :=
  match response.body.bind P.parseBody with
  | some value => .ok value
  | none => .error (.error "response body is not JSON")

def networkError : Failure := .error "fetch failed"

def fetched (request : HttpRequest) : GatewayProg HttpResponse :=
  attempt (Call.fetch request) fun answer => match answer with
    | some response => .ok response
    | none => .error networkError

def lookupRequest (opened : LocOpenJobResult) (path key : String) : HttpRequest :=
  { method := "GET"
    url := withoutTrailingSlash opened.brokerUrl ++ path ++ encodeURIComponent key
    headers := []
    body := [] }

def exchangeRequest (opened : LocOpenJobResult) : HttpRequest :=
  lookupRequest opened "/v1/exchange/" opened.requestId

def settlementRequest (opened : LocOpenJobResult) (brokerJobId : String) : HttpRequest :=
  lookupRequest opened "/v1/settlement/" brokerJobId

def brokerLookupError (response : HttpResponse) : Failure :=
  .job ((response.header Header.error).getD "paid_job_recovery_failed")
    (classifyV2Failure ((response.header Header.error).getD "") response.status).retryable

def setMember (key : String) (value : JsonValue) (members : List (String × JsonValue)) :
    List (String × JsonValue) :=
  if (members.lookup key).isSome then members.map fun entry => if entry.1 = key then (key, value) else entry
  else members ++ [(key, value)]

def settledExchange (opened : LocOpenJobResult) (raw : JsonValue) : Except Failure Exchange := do
  let members ← asRecord (some raw)
  orInvalid (exchangeWire (.obj (setMember "request_id" (.str opened.requestId)
    (setMember "outcome" (.str "SETTLED") members))))

def pendingStates : List String := ["accounting_pending", "in_flight", "admitted"]

def pendingState (raw : JsonValue) : Except Failure Unit := do
  let members ← asRecord (some raw)
  match members.lookup "state" with
  | some (.str state) => failWhen (state ∉ pendingStates) invalidEvidence
  | _ => throw invalidEvidence

/-- The delay before another attempt; there is none after the last. -/
def pause : Nat → GatewayProg Unit
  | 0 => return ()
  | _ + 1 => invoke (Call.delay P.pollDelayMs)

def pollLoop (opened : LocOpenJobResult) (brokerJobId : String) (brokerBody : List UInt8) :
    Nat → GatewayProg (Recovered τ)
  | 0 => return .unresolved (.accountingPending brokerJobId)
  | attempts + 1 => do
    let response ← fetched (settlementRequest opened brokerJobId)
    let raw ← readJson P response
    if response.status = 200 then
      let exchange ← settledExchange opened raw
      let settled ← settleFromExchange P validateTerminal opened exchange brokerBody
      return .settled settled
    else
      failWhen (response.status ≠ 202) (brokerLookupError response)
      pendingState raw
      pause P attempts
      pollLoop opened brokerJobId brokerBody attempts

def pollSettlement (opened : LocOpenJobResult) (brokerJobId : String) (brokerBody : List UInt8) :
    GatewayProg (Recovered τ) :=
  pollLoop P validateTerminal opened brokerJobId brokerBody (max 1 P.pollAttempts)

end

def unresolved (exchange : Exchange) : Except Failure Unresolved :=
  match exchange.outcome with
  | .inFlight => (orInvalid exchange.jobId).map .inFlight
  | .accountingPending => (orInvalid exchange.jobId).map .accountingPending
  | .notAdmitted => (orInvalid exchange.nonAdmission).map .notAdmitted
  | .noRecord => .ok .noRecord
  | .admittedOutcomeUnknown => (orInvalid exchange.jobId).map .admittedOutcomeUnknown
  | .admittedEvidenceExpired => (orInvalid exchange.jobId).map .admittedEvidenceExpired
  | .settled => .error invalidEvidence

def ownExchange (opened : LocOpenJobResult) (raw : JsonValue) : Except Failure Exchange := do
  let exchange ← orInvalid (exchangeWire raw)
  failWhen (exchange.requestId ≠ opened.requestId) invalidEvidence
  return exchange

/-- `recover`, which settles without a callback. -/
def recoverExchange (τ : Type) (opened : LocOpenJobResult) : GatewayProg (Recovered τ) := do
  let response ← fetched (exchangeRequest opened)
  let raw ← readJson P response
  let exchange ← ownExchange opened raw
  match exchange.outcome, exchange.jobId with
  | .settled, _ =>
    let settled ← settleFromExchange P none opened exchange []
    return .settled settled
  | .accountingPending, some jobId => pollSettlement P none opened jobId []
  | _, _ =>
    let value ← unresolved exchange
    return .unresolved value

/-! ## Executing a job -/

def validateRequest {τ : Type} (input : PaidJobRequest τ) : Except Failure Unit :=
  failWhen (input.route.protocol ≠ .paidJobV1 ∨
    ¬ input.route.transports.any (fun transports => transports.contains input.transport) ∨
    input.requestId = "" ∨ input.contentType = "" ∨
    openUnits input.estimatedUnits input.maxTotalUnits = false) (.job "paid_job_request_invalid" false)

/-- The input of `openJob` on a route with this binding. -/
def openInputOn {τ : Type} (input : PaidJobRequest τ) (routeBinding : LocRouteBinding) : LocOpenJobInput :=
  { requestId := input.requestId
    capability := input.route.capability
    offering := input.route.offering
    transport := input.transport
    estimatedUnits := input.estimatedUnits
    maxTotalUnits := input.maxTotalUnits
    routeBinding := routeBinding
    workloadRequestDigest := P.sha256Hex input.body
    callerPublicKey := P.callerPublicKey }

def openJobInput {τ : Type} (input : PaidJobRequest τ) : Except Failure LocOpenJobInput := do
  let routeBinding ← routeBindingFor input.route
  return openInputOn P input routeBinding

def jobHeaders (opened : LocOpenJobResult) (callerProof contentType : String)
    (transport : PaidTransport) : List (String × String) :=
  [(Header.capability, opened.routeSnapshot.capability), (Header.offering, opened.routeSnapshot.offering),
    (Header.authorization, opened.spendAuthorization), (Header.callerProof, callerProof),
    (Header.protocol, protocolText), (Header.requestId, opened.requestId), ("Content-Type", contentType)] ++
  ((truthy opened.paymentEnvelope).map fun envelope => (Header.payment, envelope)).toList ++
  (if transport = .stream then [("Accept", "text/event-stream")] else [])

/-- The request to the broker; signing fails on an authorization that is not canonical
base64, and `Headers` on a value it does not take. -/
def jobRequest {τ : Type} (input : PaidJobRequest τ) (opened : LocOpenJobResult) :
    Except Failure HttpRequest :=
  match P.signAuthorization opened.spendAuthorization with
  | none => .error (.error "LOC spend_authorization is not canonical base64")
  | some callerProof => do
    let headers := jobHeaders opened callerProof input.contentType input.transport
    failWhen (¬ headers.all fun entry => headerValue entry.2) (.error "invalid header value")
    return {
      method := "POST"
      url := withoutTrailingSlash opened.brokerUrl ++ "/v1/job"
      headers := headers
      body := input.body }

/-- `parsed.error?.code ?? parsed.code`; nothing when `parsed` is null, which throws. -/
def errorCode (parsed : JsonValue) : Option String :=
  match property "error" parsed |>.bind (property "code") with
  | some (.str code) => some code
  | some .null | none =>
    match property "code" parsed with
    | some (.str code) => some code
    | _ => none
  | some _ => none

def brokerErrorCode (response : HttpResponse) (body : List UInt8) : String :=
  match truthy ((P.parseBytes body).bind errorCode) with
  | some code => code
  | none => (response.header Header.error).getD "paid_job_broker_refused"

def brokerError (response : HttpResponse) (body : List UInt8) : Failure :=
  let code := brokerErrorCode P response body
  .job code (classifyV2Failure code response.status).retryable

/-- The claim of a response's headers, when all of them are there. -/
structure HeaderClaim where
  brokerJobId : String
  settlement : String
  units : String
  unit : String

def headerClaim (response : HttpResponse) : Option HeaderClaim := do
  let brokerJobId ← truthy (response.header Header.jobId)
  let settlement ← truthy (response.header Header.settlement)
  let units ← truthy (response.header Header.workUnits)
  let unit ← truthy (response.header Header.workUnit)
  return ⟨brokerJobId, settlement, units, unit⟩

def HeaderClaim.jobClaim (claim : HeaderClaim) : Except Failure JobClaim := do
  let actualUnits ← safeUnits (some (.str claim.units))
  let envelope ← decodeSettlement P claim.settlement
  return ⟨claim.brokerJobId, actualUnits, claim.unit, envelope⟩

def withoutBroker {τ : Type} (opened : LocOpenJobResult) (outcome : Recovered τ) : PaidJobResult τ :=
  ⟨opened, none, outcome⟩

def Recovered.isZero {τ : Type} : Recovered τ → Bool
  | .settled value => value.settlement.actualUnits == 0
  | .unresolved _ => false

/-- A response that is not ok: the settlement of a refusal for capacity is zero. -/
def refused (τ : Type) (opened : LocOpenJobResult) (response : HttpResponse) (brokerBody : List UInt8) :
    GatewayProg (PaidJobResult τ) := do
  let code := brokerErrorCode P response brokerBody
  if code = "capacity_exhausted" then
    match (headerClaim response).filter fun claim => claim.units = "0" with
    | some header =>
      let envelope ← decodeSettlement P header.settlement
      let _ ← settle (none : Option (List UInt8 → PaidJobSettlement → GatewayProg τ)) opened
        ⟨header.brokerJobId, 0, header.unit, envelope⟩ brokerBody
      throw (brokerError P response brokerBody)
    | none =>
      let recovered ← recoverExchange P τ opened
      if recovered.isZero then throw (brokerError P response brokerBody)
      else throw outcomeUnknown
  else if code = "job_in_flight" ∨ code = "accounting_pending" then
    let recovered ← recoverExchange P τ opened
    return withoutBroker opened recovered
  else throw (brokerError P response brokerBody)

/-- The settlement in a response's headers, the settlement of its job, or recovery. -/
def acceptedOutcome {τ : Type} (input : PaidJobRequest τ) (opened : LocOpenJobResult)
    (response : HttpResponse) (brokerBody : List UInt8) : GatewayProg (Recovered τ) :=
  match headerClaim response, truthy (response.header Header.jobId) with
  | some header, _ => do
    let claim ← header.jobClaim P
    let settled ← settle input.validateTerminal opened claim brokerBody
    return .settled settled
  | none, some brokerJobId => pollSettlement P input.validateTerminal opened brokerJobId brokerBody
  | none, none => recoverExchange P τ opened

def accepted {τ : Type} (input : PaidJobRequest τ) (opened : LocOpenJobResult) (response : HttpResponse)
    (brokerBody : List UInt8) : GatewayProg (PaidJobResult τ) := do
  let outcome ← acceptedOutcome P input opened response brokerBody
  match outcome with
  | .settled _ =>
    return ⟨opened, some ⟨response.status, response.header "content-type", brokerBody⟩, outcome⟩
  | .unresolved _ => return withoutBroker opened outcome

def execute {τ : Type} (input : PaidJobRequest τ) : GatewayProg (PaidJobResult τ) := do
  validateRequest input
  let openInput ← openJobInput P input
  let opened ← attempt (Call.openJob openInput) fun answer => answer
  let request ← jobRequest P input opened
  match ← invoke (Call.fetch request) with
  | none =>
    let recovered ← tryCatch (recoverExchange P τ opened) fun _ => throw outcomeUnknown
    return withoutBroker opened recovered
  | some response =>
    match response.body with
    | none => throw (.error "response body was not read")
    | some brokerBody =>
      if response.ok then accepted P input opened response brokerBody
      else refused P τ opened response brokerBody

end

end LivepeerTranscode.Gateway
