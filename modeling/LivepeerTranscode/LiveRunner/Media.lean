import LivepeerTranscode.LiveRunner.Record
import LivepeerTranscode.Shared.GoJson
import LivepeerTranscode.Shared.GoUrl

/-!
# Media paths and stream keys

The paths of the media router, the private ingest key that carries a token in its query, and
what the router's authorization hook decides on one session, as `live-runner/media.go` has
them.
-/

namespace LivepeerTranscode.LiveRunner
open GoText GoUrl
set_option autoImplicit false

structure MediaMTXAuthRequestV1 where
  token : String
  action : String
  path : String
  protocol : String
  deriving DecidableEq

/-! ## Paths -/

def splitPath (raw : String) : List String := (pieces '/' raw.toList).map String.ofList

def cleanSegments (rooted : Bool) : List String → List String → List String
  | kept, [] => kept.reverse
  | kept, segment :: rest =>
    if segment = "" ∨ segment = "." then cleanSegments rooted kept rest
    else if segment = ".." then
      match kept with
      | last :: before =>
        if last = ".." then cleanSegments rooted (segment :: kept) rest
        else cleanSegments rooted before rest
      | [] => cleanSegments rooted (if rooted then [] else [segment]) rest
    else cleanSegments rooted (segment :: kept) rest

/-- `path.Clean` -/
def cleanPath (raw : String) : String :=
  let rooted := raw.toList.head? == some '/'
  let body := String.intercalate "/" (cleanSegments rooted [] (splitPath raw))
  if rooted then "/" ++ body else if body = "" then "." else body

def ingestMediaPathV1 (runnerSessionID : String) : Option String :=
  if opaqueIDPattern runnerSessionID then some ("ingest/" ++ runnerSessionID) else none

inductive MediaPath where
  | ingest (runnerSessionID : String)
  | rendition (runnerSessionID rendition : String)
  deriving DecidableEq

def MediaPath.runnerSessionID : MediaPath → String
  | .ingest runnerSessionID | .rendition runnerSessionID _ => runnerSessionID

def parseMediaPathV1 (raw : String) : Option MediaPath :=
  if raw = "" ∨ cleanPath raw ≠ raw ∨ raw.toList.head? = some '/' then none
  else match splitPath raw with
    | [kind, id] => if kind = "ingest" ∧ opaqueIDPattern id then some (.ingest id) else none
    | [kind, id, rendition] =>
      if kind = "renditions" ∧ opaqueIDPattern id ∧ opaqueIDPattern rendition then
        some (.rendition id rendition)
      else none
    | _ => none

/-! ## Keys -/

def tokenName : List UInt8 := goBytes "token"

def buildPrivateIngestStreamKeyV1 (runnerSessionID secret : String) : Option String :=
  if (ingestMediaPathV1 runnerSessionID).isNone ∨ secret = "" ∨ 256 < (goBytes secret).length ∨
      secret.toList.any (fun c => c = '\r' || c = '\n') then none
  else some (runnerSessionID ++ "?token=" ++ String.ofList (queryEscape (goBytes secret)))

/-- The path and the token of a key. Tokens are bytes, as the query carries them. -/
def parsePrivateIngestStreamKeyV1 (streamKey : String) : Option (String × List UInt8) :=
  let runnerSessionID := String.ofList (streamKey.toList.takeWhile (· != '?'))
  match streamKey.toList.dropWhile (· != '?') with
  | [] => none
  | _ :: rawQuery =>
    match parseQuery rawQuery, ingestMediaPathV1 runnerSessionID with
    | some [(name, token)], some path => if name = tokenName ∧ token ≠ [] then some (path, token) else none
    | _, _ => none

section
variable (P : Platform)

/-- `secureEqualV1`, which compares digests. -/
def secureEqualV1 (left right : List UInt8) : Bool := P.sha256Hex left == P.sha256Hex right

def internalMediaTokenV1 (rootSecret runnerSessionID : String) : String :=
  P.hmacSHA256Hex (goBytes rootSecret) (goBytes ("live-runner/media/v1:" ++ runnerSessionID))

/-- The ingest publish branch of `Authorize`. -/
def ingestPublishAllowed (record : SessionRecordV1) (secrets : SessionSecretsV1) (now : Time)
    (request : MediaMTXAuthRequestV1) : Bool :=
  if record.pendingKeyActivationID ≠ "" then false
  else match secrets.keyIssues.lookup secrets.currentKeyID with
    | none => false
    | some current =>
      match parsePrivateIngestStreamKeyV1 current.response.streamKey,
        P.parseRFC3339 current.response.expiresAt with
      | some (streamPath, streamToken), some expiresAt =>
        decide (now < expiresAt) && streamPath == request.path &&
          secureEqualV1 P (goBytes request.token) streamToken
      | _, _ => false

def MediaMTXAuthRequestV1.ingestPublish (request : MediaMTXAuthRequestV1) : Prop :=
  (∃ id, parseMediaPathV1 request.path = some (.ingest id)) ∧ request.protocol = "rtmp" ∧
    request.action = "publish"

end

end LivepeerTranscode.LiveRunner
