import LivepeerTranscode.Gateway.AbrExchange
import LivepeerTranscode.Gateway.Loc
import LivepeerTranscode.Shared.Throwing

/-!
# What the gateway's services call

The services run against the repositories, LOC, the broker, the storage and the process
around them. Each call is an effect; nothing is assumed about its answer.
-/

namespace LivepeerTranscode.Gateway
open Interaction JsonText
set_option autoImplicit false

structure HttpRequest where
  method : String
  url : String
  headers : List (String × String)
  body : List UInt8

/-- A response; reading its body may fail. -/
structure HttpResponse where
  status : Nat
  header : String → Option String
  body : Option (List UInt8)

/-- `response.ok` -/
def HttpResponse.ok (response : HttpResponse) : Bool := 200 ≤ response.status && response.status ≤ 299

structure PaidJobSettlement where
  brokerJobId : String
  actualUnits : Nat
  workUnit : String
  outcome : String
  envelope : LocSettlementEnvelope

structure ProbeResult where
  durationSec : Binary64.Number
  width : ℚ
  height : ℚ
  frameRate : Binary64.Number
  audioCodec : String
  videoCodec : String
  raw : JsonValue

inductive EncodingTier where
  | baseline | standard | premium
  deriving DecidableEq, Repr

structure RenditionSpec where
  resolution : Resolution
  codec : String
  bitrateKbps : Nat
  deriving DecidableEq, Repr

/-- An asset, with the properties the paid services read. -/
structure Asset where
  id : String
  apiKeyId : String
  sourceUrl : Option String
  durationSec : Option ℚ
  encodingTier : EncodingTier

structure Rendition where
  id : String
  resolution : Resolution

structure EncodingJob where
  id : String
  kind : String
  status : String

structure NewRendition where
  id : String
  assetId : String
  spec : RenditionSpec
  status : String

structure NewEncodingJob where
  id : String
  assetId : String
  kind : String
  status : String
  workerUrl : String
  startedAt : Time

structure UploadRequest where
  assetId : String
  kind : String
  resolution : Option String
  codec : Option String
  filename : String
  contentType : String
  expiresInSec : Nat

structure SignedUpload where
  url : String
  storageKey : String

inductive Call where
  | repo (call : RepoCall)
  | openJob (input : LocOpenJobInput)
  | settleJob (input : LocSettleJobInput)
  | fetch (request : HttpRequest)
  | delay (milliseconds : Nat)
  | validateTerminal (brokerBody : List UInt8) (settlement : PaidJobSettlement)
  | getSignedDownloadUrl (storageKey : String) (expiresInSec : Nat)
  | putSignedUploadUrl (request : UploadRequest)
  | probe (inputUrl : String)
  | updateAssetStatus (id status : String) (probe : ProbeResult)
  | assetById (id : String)
  | insertRendition (value : NewRendition)
  | renditionsByAsset (assetId : String)
  | insertEncodingJob (value : NewEncodingJob)
  | encodingJobsByAsset (assetId : String)
  | randomBytes (size : Nat)
  | randomUUID
  | now

/-- A call that throws is answered with what it throws; a call to `fetch` that throws
has no response. -/
@[reducible] def Call.Answer : Call → Type
  | .repo call => Repo call.Answer
  | .openJob _ => Except Failure LocOpenJobResult
  | .settleJob _ => Except Failure LocSettleJobResult
  | .fetch _ => Option HttpResponse
  | .delay _ => Unit
  | .validateTerminal .. => Except Failure Unit
  | .getSignedDownloadUrl .. => Except Failure String
  | .putSignedUploadUrl _ => Except Failure SignedUpload
  | .probe _ => Except Failure ProbeResult
  | .updateAssetStatus .. => Except Failure Unit
  | .assetById _ => Except Failure (Option Asset)
  | .insertRendition _ => Except Failure Rendition
  | .renditionsByAsset _ => Except Failure (List Rendition)
  | .insertEncodingJob _ => Except Failure EncodingJob
  | .encodingJobsByAsset _ => Except Failure (List EncodingJob)
  | .randomBytes _ => List UInt8
  | .randomUUID => String
  | .now => Time

/-- A call that neither touches the operations nor reads the clock. -/
def Call.outside : Call → Prop
  | .repo _ | .now => False
  | _ => True

/-- Answers of an environment in which nothing works. -/
def noReply : (e : Call) → e.Answer
  | .repo _ => .error .connection
  | .fetch _ => none
  | .delay _ => ()
  | .randomBytes _ => []
  | .randomUUID => ""
  | .now => 0
  | .openJob _ | .settleJob _ | .validateTerminal .. | .getSignedDownloadUrl .. | .putSignedUploadUrl _
  | .probe _ | .updateAssetStatus .. | .assetById _ | .insertRendition _ | .renditionsByAsset _
  | .insertEncodingJob _ | .encodingJobsByAsset _ => .error (.error "unavailable")

abbrev GatewayEvent : Type := Event Call Call.Answer

abbrev GatewayProg (α : Type) : Type := Throwing Call Call.Answer Failure α

def ask (call : RepoCall) : GatewayProg call.Answer :=
  attempt (Call.repo call) fun answer => answer.mapError Failure.repo

/-- What the clients use of the platform and of their configuration: the text of bytes,
`JSON.parse`, the bytes of a base64 text, the URL check of the schemas, the digest, the
caller's key and its signature, and the poll of the settlement. -/
structure Platform where
  utf8Text : List UInt8 → List Char
  parse : List Char → Option JsonValue
  base64Bytes : String → List UInt8
  url : String → Option String
  sha256Hex : List UInt8 → String
  callerPublicKey : String
  signAuthorization : String → Option String
  pollAttempts : Nat
  pollDelayMs : Nat

/-- `JSON.parse(Buffer.from(bytes).toString("utf8"))` -/
def Platform.parseBytes (P : Platform) (bytes : List UInt8) : Option JsonValue := P.parse (P.utf8Text bytes)

def withoutMark : List Char → List Char
  | '\uFEFF' :: text => text
  | text => text

/-- The parse of `response.json()`, which drops a byte order mark. -/
def Platform.parseBody (P : Platform) (bytes : List UInt8) : Option JsonValue :=
  P.parse (withoutMark (P.utf8Text bytes))

end LivepeerTranscode.Gateway
