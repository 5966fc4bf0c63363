import LivepeerTranscode.Gateway.PaidOperations
import LivepeerTranscode.Gateway.VodUsage
import LivepeerTranscode.Shared.NodeText

/-!
# Routes and the LOC client

The route a worker was selected with (`engine/types/worker.ts`), what the LOC client takes
and returns (`engine/interfaces/locClient.ts`), and the part of `livepeer/locClient.ts` that
turns the input of `openJob` into the request it sends.
-/

namespace LivepeerTranscode.Gateway
open Binary64 Checked JsonText NodeText
set_option autoImplicit false

structure SettlementKey where
  publicKey : String
  notBefore : String
  expiresAt : String
  introducedInPublicationSeq : String

/-- A selected route; a route read back from the store has whatever capability was stored. -/
structure SelectedWorkerRoute where
  workerUrl : String
  ethAddress : String
  capability : String
  offering : String
  pricePerWorkUnitWei : String
  workUnit : String
  protocol : PaidProtocol
  transports : Option (List PaidTransport)
  workUnitEstimator : Option WorkUnitEstimator
  settlementKeys : List SettlementKey
  settlementDomainId : Option String
  unitsPerPrice : Option String
  quoteId : Option String
  quoteVersion : Option String
  constraintFingerprint : Option (List UInt8)
  routeFingerprint : Option (List UInt8)

structure LocRouteBinding where
  quoteId : String
  quoteVersion : String
  constraintFingerprint : String
  routeFingerprint : String
  settlementDomainId : String
  deriving DecidableEq, Repr

structure LocOpenJobInput where
  requestId : String
  capability : String
  offering : String
  transport : PaidTransport
  estimatedUnits : ℚ
  maxTotalUnits : Option ℚ
  routeBinding : LocRouteBinding
  workloadRequestDigest : String
  callerPublicKey : String

/-- What of LOC's route snapshot the gateway's clients read. -/
structure LocRouteSnapshot where
  capability : String
  offering : String
  settlementDomainId : String
  binding : LocRouteBinding

structure LocOpenJobResult where
  operationId : String
  requestId : String
  workId : String
  brokerUrl : String
  transport : PaidTransport
  workUnit : String
  routeSnapshot : LocRouteSnapshot
  spendAuthorization : String
  paymentEnvelope : Option String

structure LocSettlementEnvelope where
  payload : List (String × JsonValue)
  signatureValue : String

structure LocSettleJobInput where
  operationId : String
  actualUnits : Nat
  brokerJobId : String
  workUnit : String
  outcome : String
  settlement : LocSettlementEnvelope

structure LocSettleJobResult where
  operationId : String
  workId : String
  actualUnits : Nat
  billedValueWei : String
  refundWei : String
  outcome : String
  closedAt : String

/-! ## Errors -/

/-- What the gateway's code throws. -/
inductive Failure where
  | job (code : String) (retryable : Bool)
  | loc (code : String) (retryable : Bool)
  | abr (code : String) (retryable : Bool)
  | usage (e : AbrUsageError)
  | repo (e : RepoError)
  | error (message : String)
  deriving DecidableEq, Repr

def invalidRequest : Failure := .loc "loc_request_invalid" false

/-! ## The route binding -/

/-- `/^(0|[1-9][0-9]*)$/` with a positive value below 2^64. -/
def positiveUint64 (text : String) : Bool := (decimal text).any fun n => 0 < n && n < 2 ^ 64

/-- `/^[0-9a-f]{64}$/` -/
def fingerprintText (text : String) : Bool := sha256Text text

/-- `/^0x[0-9a-f]{64}$/` -/
def settlementDomain (text : String) : Bool :=
  match text.toList with
  | '0' :: 'x' :: digits => digits.length == 64 && digits.all lowerHex
  | _ => false

/-- `routeBindingWire.safeParse` -/
def LocRouteBinding.wellFormed (binding : LocRouteBinding) : Bool :=
  binding.quoteId ≠ "" && positiveUint64 binding.quoteVersion &&
    fingerprintText binding.constraintFingerprint && fingerprintText binding.routeFingerprint &&
    settlementDomain binding.settlementDomainId

/-- `bindingToWire`, whose result holds the same texts. -/
def bindingToWire (binding : LocRouteBinding) : Except Failure LocRouteBinding := do
  failWhen (binding.wellFormed = false) invalidRequest
  return binding

def hexFingerprint (value : List UInt8) : String := if value.length = 32 then hexText value else ""

/-- A text that is absent or empty is missing. -/
def required {α : Type} (empty : α → Bool) (e : Failure) : Option α → Except Failure α
  | some value => if empty value then .error e else .ok value
  | none => .error e

def requiredText : Failure → Option String → Except Failure String := required fun text => text == ""

/-- A `Uint8Array` is truthy however long it is. -/
def requiredBytes : Failure → Option (List UInt8) → Except Failure (List UInt8) := required fun _ => false

def routeBindingFor (route : SelectedWorkerRoute) : Except Failure LocRouteBinding := do
  let quoteId ← requiredText invalidRequest route.quoteId
  let quoteVersion ← requiredText invalidRequest route.quoteVersion
  let constraintFingerprint ← requiredBytes invalidRequest route.constraintFingerprint
  let routeFingerprint ← requiredBytes invalidRequest route.routeFingerprint
  let settlementDomainId ← requiredText invalidRequest route.settlementDomainId
  bindingToWire ⟨quoteId, quoteVersion, hexFingerprint constraintFingerprint,
    hexFingerprint routeFingerprint, settlementDomainId⟩

/-! ## Opening a job -/

/-- The estimate is a safe integer of at least one, and a maximum is one not below it. -/
def openUnits (estimated : ℚ) (maximum : Option ℚ) : Bool :=
  ((safeInteger estimated).any fun n => 1 ≤ n) &&
    maximum.all fun most => (safeInteger most).isSome && estimated ≤ most

def validateOpenUnits (estimated : ℚ) (maximum : Option ℚ) : Except Failure Unit :=
  failWhen (openUnits estimated maximum = false) invalidRequest

def PaidTransport.text : PaidTransport → String
  | .unary => "unary"
  | .stream => "stream"
  | .multipart => "multipart"

structure LocRequest where
  method : String
  path : String
  idempotencyKey : Option String
  body : JsonValue

def LocRouteBinding.json (binding : LocRouteBinding) : JsonValue :=
  .obj [("quote_id", .str binding.quoteId), ("quote_version", .str binding.quoteVersion),
    ("constraint_fingerprint", .str binding.constraintFingerprint),
    ("route_fingerprint", .str binding.routeFingerprint),
    ("settlement_domain_id", .str binding.settlementDomainId)]

/-- A property that is only there when it has a value. -/
def whenSet (key : String) (value : Option JsonValue) : List (String × JsonValue) :=
  (value.map fun v => (key, v)).toList

def openJobWire (input : LocOpenJobInput) (routeBinding : LocRouteBinding) : LocRequest :=
  { method := "POST"
    path := "/v1/jobs"
    idempotencyKey := some input.requestId
    body := .obj ([("capability", .str input.capability), ("offering", .str input.offering),
      ("transport", .str input.transport.text), ("estimated_units", .num input.estimatedUnits)] ++
      whenSet "max_total_units" (input.maxTotalUnits.map .num) ++
      [("route_binding", routeBinding.json),
      ("workload_request_digest", .str input.workloadRequestDigest),
      ("caller_public_key", .str input.callerPublicKey)]) }

/-- The request `openJob` hands to the transport. -/
def openJobRequest (input : LocOpenJobInput) : Except Failure LocRequest := do
  validateOpenUnits input.estimatedUnits input.maxTotalUnits
  let routeBinding ← bindingToWire input.routeBinding
  return openJobWire input routeBinding

theorem estimatedUnits_of_openJobWire {input other : LocOpenJobInput} {binding binding' : LocRouteBinding}
    (h : openJobWire input binding = openJobWire other binding') :
    input.estimatedUnits = other.estimatedUnits := by
  have hbody := congrArg LocRequest.body h
  simp only [openJobWire, List.cons_append, Json.obj.injEq, List.cons.injEq, Prod.mk.injEq,
    Json.num.injEq, true_and] at hbody
  exact hbody.2.2.2.1

theorem openJobRequest_valid {input : LocOpenJobInput}
    (hunits : openUnits input.estimatedUnits input.maxTotalUnits = true)
    (hbinding : input.routeBinding.wellFormed = true) :
    openJobRequest input = .ok (openJobWire input input.routeBinding) := by
  simp [openJobRequest, validateOpenUnits, bindingToWire, failWhen, hunits, hbinding, bind, Except.bind,
    pure, Except.pure]

end LivepeerTranscode.Gateway
