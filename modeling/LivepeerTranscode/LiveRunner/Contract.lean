import LivepeerTranscode.Shared.Checked
import LivepeerTranscode.Shared.GoText

/-!
# The live runner's wire contract

The runner's request, event and status values and their validators, as
`live-runner/contract.go` and the failure check of `callback.go` have them. An
enumeration the validators close (session states, event types, output states) is
an inductive type, so a value outside it cannot be built.
-/

namespace LivepeerTranscode.LiveRunner
open Checked GoText JsonText
set_option autoImplicit false

/-- An `error` value: a fixed text, or one of the sentinels callers compare with. -/
inductive GoError where
  | message (text : String)
  | sessionIDReuse
  | requestIDReuse
  | requestSuperseded
  | keyActivationInFlight
  | sessionTerminal
  | callbackNotDue
  | gpuAdmissionCapacity
  | notExist
  | io
  deriving DecidableEq, Repr

abbrev Result (α : Type) : Type := Except GoError α

/-- `if err := validate(...); err != nil { return err }` -/
def check (verdict : Check) : Result Unit :=
  match verdict with
  | .error text => .error (.message text)
  | .ok _ => .ok ()

/-- `if bad { return errors.New(text) }` -/
def reject (bad : Prop) [Decidable bad] (text : String) : Result Unit :=
  failWhen bad (.message text)

@[simp] theorem check_ok_iff {verdict : Check} {u : Unit} :
    check verdict = .ok u ↔ verdict = .ok () := by
  cases verdict <;> simp [check]

@[simp] theorem reject_ok_iff {bad : Prop} [Decidable bad] {text : String} {u : Unit} :
    reject bad text = .ok u ↔ ¬ bad := failWhen_ok_iff

@[simp] theorem check_error_iff {verdict : Check} {e : GoError} :
    check verdict = .error e ↔ ∃ text, verdict = .error text ∧ e = .message text := by
  cases verdict <;> simp [check, eq_comm]

/-- An instant in nanoseconds since the Unix epoch. -/
abbrev Time : Type := Int

/-- Go's zero `time.Time`, the first instant of year 1. -/
def zeroTime : Time := -62135596800000000000

def Time.isZero (t : Time) : Bool := decide (t = zeroTime)

/-- `time.Time.Sub` saturates at the bounds of an `int64` duration. -/
def Time.sub (t u : Time) : Int := max (-2 ^ 63) (min (2 ^ 63 - 1) (t - u))

/-- The library functions whose values the runner only stores, compares and parses
back: SHA-256 and its HMAC in lower-case hex, RFC 3339 times and URL parsing. -/
structure Platform where
  sha256Hex : List UInt8 → String
  hmacSHA256Hex : List UInt8 → List UInt8 → String
  formatRFC3339 : Time → String
  formatNano : Time → String
  parseNano : String → Option Time
  parseRFC3339 : String → Option Time
  parseURL : String → Option ParsedURL

def maxUint64 : Nat := 2 ^ 64 - 1
def maxUint32 : Nat := 2 ^ 32 - 1

/-! ## Strings -/

/-- Every string holding `sub` somewhere. -/
def containsText (sub : List Char) : List Char → Bool
  | [] => sub.isEmpty
  | c :: text => sub.isPrefixOf (c :: text) || containsText sub text

/-- `strings.ToLower`, as far as an ASCII word can be found in the result: outside
ASCII only U+0130 and U+212A have an ASCII lower case. -/
def lowerChar (c : Char) : Char :=
  if c.toNat = 0x130 then 'i' else if c.toNat = 0x212A then 'k' else c.toLower

def containsFold (text : String) (word : String) : Bool :=
  containsText word.toList (text.toList.map lowerChar)

/-- `^[a-z][a-z0-9_.-]{0,63}$` -/
def callbackErrorCodePatternV1 (s : String) : Bool :=
  match s.toList with
  | [] => false
  | c :: rest =>
    ('a' ≤ c && c ≤ 'z') &&
      rest.all (fun d => ('a' ≤ d && d ≤ 'z') || ('0' ≤ d && d ≤ '9') || d == '_' || d == '.' || d == '-') &&
      decide (rest.length ≤ 63)

/-! ## Values -/

inductive SessionState where
  | active | ended | failed
  deriving DecidableEq, Repr

/-- The output health states; `unset` is the empty string of records written before
the field existed. -/
inductive OutputState where
  | unset | waiting | producing | stalled
  deriving DecidableEq, Repr

def OutputState.text : OutputState → String
  | .unset => ""
  | .waiting => "waiting"
  | .producing => "producing"
  | .stalled => "stalled"

inductive EventType where
  | started | heartbeat | ladderRestart | outputStalled | usageTick | failed | ended
  deriving DecidableEq, Repr

def workUnitV1 : String := "output_seconds"
def grantOperationV1 : String := "stream-key-issue"
def runtimeSchemaV1 : String := "rtmp-hls/v1"
def sessionParamsSchemaV1 : String := "rtmp-hls-session/v1"

structure UsageV1 where
  unit : String
  total : Nat
  deriving DecidableEq, Repr

/-- A runner event. `details` is the raw message, held as the document it encodes;
`none` is the empty message. -/
structure RunnerEventV1 where
  eventID : String
  sequence : Nat
  eventType : EventType
  eventTime : String
  state : SessionState
  usage : Option UsageV1
  closeReason : Option String
  details : Option (Json String String)

structure EventCursorV1 where
  sequence : Nat
  usageTotal : Nat
  hasUsage : Bool
  seenIDs : List String

structure S3SessionStorageV1 where
  endpoint : String
  region : String
  bucket : String
  keyPrefix : String
  accessKeyID : String
  secretAccessKey : String
  sessionToken : String
  forcePathStyle : Bool

structure StorageV1 where
  kind : String
  s3 : Option S3SessionStorageV1

structure RTMPHLSSessionParamsV1 where
  schema : String
  publisherMode : String
  outputProfile : String
  meteringRendition : String
  storage : StorageV1

structure RunnerCreateRequestV1 where
  sessionID : String
  workID : String
  capability : String
  offering : String
  sessionParams : RTMPHLSSessionParamsV1
  callbackURL : String
  callbackToken : String

structure RuntimePublicV1 where
  rtmpURL : String
  hlsURL : String
  keyIssueURL : String
  statusURL : String
  deriving DecidableEq

structure GrantV1 where
  id : String
  operations : List String
  secret : String
  expiresAt : String

structure RuntimeDescriptorV1 where
  schema : String
  runtimePublic : RuntimePublicV1
  grants : List GrantV1

structure RunnerCreateResponseV1 where
  runnerSessionID : String
  runtime : RuntimeDescriptorV1

structure StreamKeyIssueRequestV1 where
  requestID : String
  audience : String

structure StreamKeyIssueResponseV1 where
  requestID : String
  streamKey : String
  expiresAt : String

/-! ## Validators -/

/-- The close reasons a runner accepts, the historical ones included. -/
def closeReasonsV1 : List String :=
  ["gateway_close", "lease_expired", "heartbeat_lost", "runway_exhausted", "refill_refused",
    "recovery_failed", "payment_unrecoverable", "runner_failed", "ingest_failed", "output_failed",
    "runner_ended", "insufficient_balance", "authorization_exhausted", "open_failed",
    "capacity_exhausted", "lease_exhausted", "customer_end", "publisher_disconnect",
    "broker_ended", "relay_failure", "refill_preannounced_refusal", "refill_policy_exhausted",
    "refill_total_exceeded"]

def ladderFailureCodesV1 : List String :=
  ["encoder_init_failed", "hwaccel_init_failed", "input_unavailable", "output_rejected",
    "process_killed", "unknown"]

def validCloseReasonV1 (value : String) : Bool := closeReasonsV1.contains value

def validOutputStateV1 (value : OutputState) : Bool :=
  value == .waiting || value == .producing || value == .stalled

def validLadderFailureCodeV1 (value : String) (allowEmpty : Bool) : Bool :=
  if value = "" then allowEmpty else ladderFailureCodesV1.contains value

def validCallbackFailureV1 (statusCode : Nat) (errorCode : String) (allowTransport : Bool) : Bool :=
  if statusCode = 0 then allowTransport && (errorCode == "" || errorCode == "transport_error")
  else decide (100 ≤ statusCode ∧ statusCode ≤ 599) && callbackErrorCodePatternV1 errorCode

def forbiddenDetailWords : List String :=
  ["token", "secret", "credential", "authorization", "stream_key", "streamkey", "url", "password"]

mutual
def unsafeEventDetailV1 : Json String String → Bool
  | .obj members => unsafeMembers members
  | .arr items => unsafeItems items
  | .str text => ["://", "sig=", "bearer "].any (containsFold text)
  | _ => false

def unsafeItems : List (Json String String) → Bool
  | [] => false
  | item :: rest => unsafeEventDetailV1 item || unsafeItems rest

def unsafeMembers : List (String × Json String String) → Bool
  | [] => false
  | (key, value) :: rest =>
    forbiddenDetailWords.any (containsFold key) || unsafeEventDetailV1 value || unsafeMembers rest
end

def validateSafeEventDetailsV1 (raw : Option (Json String String)) : Check :=
  match raw with
  | none => .error "event details must be bounded JSON"
  | some details => do
    deny (2048 < (utf8Bytes (goWrite true details)).length) "event details must be bounded JSON"
    match details with
    | .obj members => deny (unsafeMembers members) "event details contain credential-bearing data"
    | _ => .error "event details must be a JSON object"

section
variable (P : Platform)

/-- The event type's own rule, the `switch` of `ValidateEventV1`. -/
def validateEventType (value : RunnerEventV1) : Check :=
  match value.eventType with
  | .started | .heartbeat | .ladderRestart | .outputStalled =>
    deny (value.state ≠ .active) "liveness event must be active"
  | .usageTick => deny (value.state ≠ .active ∨ value.usage = none) "usage event is invalid"
  | .failed =>
    deny (value.state ≠ .failed ∨ value.usage = none ∨
      ¬ value.closeReason.any validCloseReasonV1) "failed event is invalid"
  | .ended =>
    deny (value.state ≠ .ended ∨ value.usage = none ∨
      ¬ value.closeReason.any validCloseReasonV1) "ended event is invalid"

def validateEventV1 (value : RunnerEventV1) : Check := do
  deny (¬ opaqueIDPattern value.eventID ∨ value.sequence = 0) "event identity is invalid"
  deny (P.parseNano value.eventTime = none) "event time is invalid"
  validateEventType value
  deny (value.usage.any fun usage => usage.unit != workUnitV1) "event work unit is invalid"
  validateSafeEventDetailsV1 value.details

/-- `EventCursorV1.Accept`: the cursor after the event, if the event advances it. -/
def EventCursorV1.accept (cursor : EventCursorV1) (event : RunnerEventV1) : Result EventCursorV1 := do
  check (validateEventV1 P event)
  reject (event.sequence ≤ cursor.sequence) "event sequence did not advance"
  reject (event.eventID ∈ cursor.seenIDs) "event ID was reused"
  reject (cursor.hasUsage ∧ event.usage.any fun usage => usage.total < cursor.usageTotal)
    "cumulative usage decreased"
  return { sequence := event.sequence
           usageTotal := (event.usage.map UsageV1.total).getD cursor.usageTotal
           hasUsage := event.usage.isSome || cursor.hasUsage
           seenIDs := event.eventID :: cursor.seenIDs }

def validateURLScheme (raw : String) (schemes : List String) : Check :=
  match P.parseURL raw with
  | none => .error "URL is invalid"
  | some parsed => do
    deny (parsed.host = "" ∨ parsed.hasUser) "URL is invalid"
    deny (parsed.scheme ∉ schemes) "URL scheme is invalid"

def validateHTTPURL (raw : String) : Check := validateURLScheme P raw ["http", "https"]

/-- Whether a validator of this module returned a nil error. -/
def accepted (result : Check) : Bool :=
  match result with
  | .ok _ => true
  | .error _ => false

def validateStorageV1 (value : StorageV1) : Check :=
  if value.kind = "runner-local" then
    deny value.s3.isSome "runner-local storage cannot include s3 credentials"
  else if value.kind = "s3" then
    match value.s3 with
    | none => .error "s3 storage credentials are required"
    | some s3 =>
      deny (¬ accepted (validateHTTPURL P s3.endpoint) ∨ s3.region = "" ∨ s3.bucket = "" ∨
          s3.keyPrefix = "" ∨ containsText ['.', '.'] s3.keyPrefix.toList ∨
          ['/'].isPrefixOf s3.keyPrefix.toList ∨
          s3.keyPrefix.toList.any (fun c => c ∈ ['?', '\\', '\r', '\n']) ∨
          s3.accessKeyID = "" ∨ s3.secretAccessKey = "" ∨ s3.sessionToken = "")
        "s3 session storage is invalid"
  else .error "storage kind is invalid"

def validateCreateRequestV1 (value : RunnerCreateRequestV1) : Check := do
  deny (¬ opaqueIDPattern value.sessionID ∨ ¬ opaqueIDPattern value.workID)
    "session or work identity is invalid"
  deny (blank value.capability ∨ blank value.offering) "capability and offering are required"
  deny (value.sessionParams.schema ≠ sessionParamsSchemaV1 ∨
      (value.sessionParams.publisherMode ≠ "gateway-relay" ∧
        value.sessionParams.publisherMode ≠ "direct-publisher"))
    "session parameter schema or publisher mode is invalid"
  deny (¬ opaqueIDPattern value.sessionParams.outputProfile ∨
      ¬ opaqueIDPattern value.sessionParams.meteringRendition)
    "output profile or metering rendition is invalid"
  validateStorageV1 P value.sessionParams.storage
  deny (¬ accepted (validateHTTPURL P value.callbackURL) ∨ value.callbackToken = "")
    "callback coordinates are invalid"

/-- An error of `check` under a field name, as `fmt.Errorf("%s: %w", name, err)` words it. -/
def named (name : String) (check : Check) : Check :=
  match check with
  | .ok _ => .ok ()
  | .error text => .error (name ++ ": " ++ text)

-- Go ranges over a two-entry map here, so which of two bad URLs is named first is open.
def validateCreateResponseV1 (value : RunnerCreateResponseV1) : Check := do
  deny (¬ opaqueIDPattern value.runnerSessionID ∨ value.runtime.schema ≠ runtimeSchemaV1)
    "runner session or runtime schema is invalid"
  named "rtmp_url" (validateURLScheme P value.runtime.runtimePublic.rtmpURL ["rtmp", "rtmps"])
  named "hls_url" (validateHTTPURL P value.runtime.runtimePublic.hlsURL)
  named "key_issue_url" (validateHTTPURL P value.runtime.runtimePublic.keyIssueURL)
  if value.runtime.runtimePublic.statusURL ≠ "" then
    validateHTTPURL P value.runtime.runtimePublic.statusURL
  match value.runtime.grants with
  | [grant] => do
    deny (¬ opaqueIDPattern grant.id ∨ grant.operations ≠ [grantOperationV1] ∨ grant.secret = "")
      "stream-key-issue grant is invalid"
    deny (P.parseRFC3339 grant.expiresAt = none) "grant expiry is invalid"
  | _ => .error "rtmp-hls requires exactly one grant"

def validateStreamKeyIssueRequestV1 (value : StreamKeyIssueRequestV1) : Check :=
  deny (¬ opaqueIDPattern value.requestID ∨
      (value.audience ≠ "gateway-relay" ∧ value.audience ≠ "direct-publisher"))
    "key issuance request is invalid"

def validateStreamKeyIssueResponseV1 (request : StreamKeyIssueRequestV1)
    (response : StreamKeyIssueResponseV1) : Check := do
  deny (response.requestID ≠ request.requestID ∨ blank response.streamKey ∨
      512 < response.streamKey.utf8ByteSize) "key issuance response is invalid"
  deny (P.parseRFC3339 response.expiresAt = none) "key expiry is invalid"

/-- `CalculateOutputSecondsV1`: one rendition's timeline, floored only after summing. -/
def calculateOutputSecondsV1 (segmentMicroseconds : List Nat) : Result Nat := do
  let total ← segmentMicroseconds.foldlM (fun total duration =>
    if total + duration ≤ maxUint64 then pure (total + duration)
    else throw (GoError.message "output timeline overflow")) 0
  return total / 1000000

end

/-! ## Fingerprints -/

def S3SessionStorageV1.toJson (value : S3SessionStorageV1) : Json String String :=
  .obj ([("endpoint", .str value.endpoint), ("region", .str value.region),
    ("bucket", .str value.bucket), ("prefix", .str value.keyPrefix),
    ("access_key_id", .str value.accessKeyID), ("secret_access_key", .str value.secretAccessKey),
    ("session_token", .str value.sessionToken)] ++
    if value.forcePathStyle then [("force_path_style", .bool true)] else [])

def RunnerCreateRequestV1.toJson (value : RunnerCreateRequestV1) : Json String String :=
  .obj [("session_id", .str value.sessionID), ("work_id", .str value.workID),
    ("capability", .str value.capability), ("offering", .str value.offering),
    ("session_params", .obj [("schema", .str value.sessionParams.schema),
      ("publisher_mode", .str value.sessionParams.publisherMode),
      ("output_profile", .str value.sessionParams.outputProfile),
      ("metering_rendition", .str value.sessionParams.meteringRendition),
      ("storage", .obj (("kind", .str value.sessionParams.storage.kind) ::
        (value.sessionParams.storage.s3.map fun s3 => ("s3", s3.toJson)).toList))]),
    ("callback_url", .str value.callbackURL), ("callback_token", .str value.callbackToken)]

def StreamKeyIssueRequestV1.toJson (value : StreamKeyIssueRequestV1) : Json String String :=
  .obj [("request_id", .str value.requestID), ("audience", .str value.audience)]

def canonicalHashV1 (P : Platform) (value : Json String String) : String :=
  P.sha256Hex (utf8Bytes (goWrite false value))

def createFingerprintV1 (P : Platform) (value : RunnerCreateRequestV1) : String :=
  canonicalHashV1 P value.toJson

def keyIssueFingerprintV1 (P : Platform) (value : StreamKeyIssueRequestV1) : String :=
  canonicalHashV1 P value.toJson

end LivepeerTranscode.LiveRunner
