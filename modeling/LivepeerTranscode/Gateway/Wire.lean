import LivepeerTranscode.Gateway.Calls

/-!
# Reading the wire

What the job client and the session client share: the header names of `livepeer/headers.ts`,
the classification of `livepeer/v2Outcome.ts`, and the reading of untrusted JSON. A JSON object
is its list of members; a key stands at most once in an object that was parsed.
-/

namespace LivepeerTranscode.Gateway
open Binary64 JsonText
set_option autoImplicit false

/-! ## Headers -/

namespace Header
def capability : String := "Livepeer-Capability"
def offering : String := "Livepeer-Offering"
def payment : String := "Livepeer-Payment"
def authorization : String := "Livepeer-Authorization"
def callerProof : String := "Livepeer-Caller-Proof"
def protocol : String := "Livepeer-Protocol"
def requestId : String := "Livepeer-Request-Id"
def workUnits : String := "Livepeer-Work-Units"
def workUnit : String := "Livepeer-Work-Unit"
def jobId : String := "Livepeer-Job-Id"
def settlement : String := "Livepeer-Settlement"
def error : String := "Livepeer-Error"
end Header

def httpSpace (c : Char) : Bool := c.toNat == 9 || c.toNat == 10 || c.toNat == 13 || c.toNat == 32

/-- Whether `Headers` takes a value, which it trims first. -/
def headerValue (text : String) : Bool :=
  (((text.toList.dropWhile httpSpace).reverse.dropWhile httpSpace).all fun c =>
    c.toNat ≤ 255 && c.toNat != 0 && c.toNat != 10 && c.toNat != 13)

/-- `value && …` on a header: absent and empty values do not count. -/
def truthy (value : Option String) : Option String := value.filter fun text => text ≠ ""

/-! ## Failures -/

inductive V2FailureCategory where
  | caller | capacity | payment | backend | protocol | recovery | evidence
  deriving DecidableEq, Repr

structure V2FailureClassification where
  category : V2FailureCategory
  retryable : Bool
  penalizeRoute : Bool
  deriving DecidableEq, Repr

/-- `CLASSIFICATIONS` -/
def classifications : List (String × V2FailureClassification) :=
  [("protocol_transport_unsupported", ⟨.protocol, false, false⟩),
   ("protocol_unsupported", ⟨.protocol, false, false⟩),
   ("capability_not_served", ⟨.protocol, false, false⟩),
   ("request_id_reuse", ⟨.caller, false, false⟩),
   ("idempotency_key_reuse", ⟨.caller, false, false⟩),
   ("job_in_flight", ⟨.recovery, true, false⟩),
   ("accounting_pending", ⟨.recovery, true, false⟩),
   ("idempotency_in_progress", ⟨.recovery, true, false⟩),
   ("idempotency_outcome_unknown", ⟨.recovery, true, false⟩),
   ("recipient_rotated", ⟨.payment, true, false⟩),
   ("rebind_refused", ⟨.payment, false, false⟩),
   ("refill_refused", ⟨.payment, false, false⟩),
   ("insufficient_balance", ⟨.payment, false, false⟩),
   ("cap_reached", ⟨.payment, false, false⟩),
   ("debit_failed", ⟨.payment, false, false⟩),
   ("admitted_evidence_expired", ⟨.evidence, false, false⟩),
   ("admitted_outcome_unknown", ⟨.evidence, false, false⟩),
   ("settlement_invalid", ⟨.evidence, false, false⟩),
   ("payment_invalid", ⟨.payment, false, false⟩),
   ("payment_envelope_mismatch", ⟨.payment, false, false⟩),
   ("daemon_unavailable", ⟨.payment, true, false⟩),
   ("backend_unavailable", ⟨.backend, true, true⟩),
   ("backend_timeout", ⟨.backend, true, true⟩),
   ("capacity_exhausted", ⟨.capacity, true, true⟩)]

/-- `String.prototype.trim` takes white space and line ends off. -/
def jsSpace (c : Char) : Bool :=
  let n := c.toNat
  (9 ≤ n && n ≤ 13) || n == 0x20 || n == 0xA0 || n == 0x1680 || (0x2000 ≤ n && n ≤ 0x200A) ||
    n == 0x2028 || n == 0x2029 || n == 0x202F || n == 0x205F || n == 0x3000 || n == 0xFEFF

/-- The letters that become ASCII letters in lower case: the capitals and the Kelvin sign. -/
def lowerAscii (c : Char) : Char := if c.toNat = 0x212A then 'k' else c.toLower

def normalizedCode (code : String) : String :=
  String.ofList ((((code.toList.dropWhile jsSpace).reverse.dropWhile jsSpace).reverse).map lowerAscii)

/-- Names every object inherits; looking one up finds a value without these properties. -/
def inheritedNames : List String := ["constructor", "__proto__"]

def classifyV2Failure (code : String) (status : Nat) : V2FailureClassification :=
  let normalized := normalizedCode code
  match classifications.lookup normalized with
  | some known => known
  | none =>
    if normalized ∈ inheritedNames then ⟨.protocol, false, false⟩
    else if status = 429 then ⟨.capacity, true, true⟩
    else if status = 408 ∨ status = 425 ∨ 500 ≤ status then ⟨.backend, true, true⟩
    else ⟨.protocol, false, false⟩

/-! ## JSON -/

/-- A property of an object; a property of any other value is undefined. -/
def property (key : String) : JsonValue → Option JsonValue
  | .obj members => members.lookup key
  | _ => none

/-- A `z.string().min(1)` of an optional key; an absent key is `some none`. -/
def optionalText (value : Option JsonValue) : Option (Option String) :=
  match value with
  | none => some none
  | some (.str text) => if text = "" then none else some (some text)
  | some _ => none

def requiredWireText (value : Option JsonValue) : Option String :=
  match value with
  | some (.str text) => if text = "" then none else some text
  | _ => none

def naturalNumber (x : ℚ) : Option Nat :=
  (safeInteger x).bind fun n => if 0 ≤ n then some n.toNat else none

/-- The value of `Number` of a canonical decimal, when that is a safe integer. -/
def safeDecimal (text : String) : Option Nat :=
  (decimal text).filter fun n => n ≤ 2 ^ 53 - 1

end LivepeerTranscode.Gateway
