import LivepeerTranscode.Gateway.AbrTerminal

/-!
# Paid ABR jobs

`engine/service/paidAbrOrchestrator.ts` encodes an asset on a route, and
`engine/service/paidAbrRecovery.ts` takes up the operations of runs that did not finish.
-/

namespace LivepeerTranscode.Gateway
open Checked Interaction JsonText NodeText
set_option autoImplicit false

structure Preset where
  name : String
  renditions : List RenditionSpec
  audioOnly : Bool

def spec (resolution : Resolution) (bitrateKbps : Nat) : RenditionSpec := ⟨resolution, "h264", bitrateKbps⟩

/-- `PRESETS` -/
def presets : EncodingTier → Preset
  | .baseline => ⟨"abr-mobile", [spec .p720 2500, spec .p480 1000, spec .p360 600], false⟩
  | .standard =>
    ⟨"abr-standard", [spec .p1080 5000, spec .p720 2500, spec .p480 1000, spec .p360 600], false⟩
  | .premium => ⟨"abr-premium", [spec .p2160 15000, spec .p1080 5000, spec .p720 2500, spec .p480 1000,
      spec .p360 600], true⟩

structure PaidAbrOrchestratorDeps where
  owner : String
  recoveryLeaseMs : Int

section
variable (P : Platform)

/-! ## The encoding -/

def manifestType : String := "application/vnd.apple.mpegurl"

def signedUpload (request : UploadRequest) : GatewayProg SignedUpload :=
  attempt (Call.putSignedUploadUrl request) fun answer => answer

def artifactOf (upload : SignedUpload) : AbrArtifact := ⟨js upload.storageKey, js upload.url⟩

/-- `destinations` of the orchestrator. -/
def uploadDestinations (assetId name codec : String) : GatewayProg AbrDestinations := do
  let playlist ← signedUpload ⟨assetId, "rendition", some name, some codec, "playlist.m3u8",
    manifestType, 86400⟩
  let stream ← signedUpload ⟨assetId, "rendition", some name, some codec, "stream.mp4", "video/mp4", 86400⟩
  return ⟨artifactOf playlist, artifactOf stream⟩

def hexId (size : Nat) (front : String) : GatewayProg String := do
  let bytes ← invoke (Call.randomBytes size)
  return front ++ hexText bytes

/-- The rows and the destinations of the renditions, one after the other. -/
def insertRenditions (assetId : String) : List RenditionSpec → List (String × String) →
    JsObject AbrDestinations → GatewayProg (List (String × String) × JsObject AbrDestinations)
  | [], rows, outputs => return (rows, outputs)
  | spec :: rest, rows, outputs => do
    let id ← hexId 12 "rend_"
    let row ← attempt (Call.insertRendition ⟨id, assetId, spec, "queued"⟩) fun answer => answer
    let destinations ← uploadDestinations assetId spec.resolution.text "h264"
    insertRenditions assetId rest (rows ++ [(spec.resolution.text, row.id)])
      (outputs.set (js spec.resolution.text) destinations)

def withAudio (assetId : String) (audioOnly : Bool) (outputs : JsObject AbrDestinations) :
    GatewayProg (JsObject AbrDestinations) :=
  if audioOnly then do
    let destinations ← uploadDestinations assetId "audio-only" "audio"
    return outputs.set (js "audio-only") destinations
  else return outputs

/-- `encodeAbrExchangeRequest` with the gateway's URL check and digest. -/
def encodeRequest (value : AbrExchangeRequest) : Except Failure EncodedAbrRequest :=
  (encodeAbrExchangeRequest (fun s => (P.url (goText s)).map js) P.sha256Hex value).mapError fun e =>
    .abr e.code e.retryable

def documentValue (document : JsDocument) : JsonValue := document.map goText Empty.elim

def estimatorValue (estimator : WorkUnitEstimator) : JsonValue :=
  .obj ([("id", .str estimator.id), ("rounding", .str estimator.rounding),
    ("exactness", .str estimator.exactness)] ++ whenSet "fixtures" (estimator.fixtures.map .str) ++
    whenSet "package" (estimator.package.map .str))

def paidRoute (route : SelectedWorkerRoute) : Except Failure PaidRouteSnapshot := do
  let incomplete := Failure.error "paid ABR route binding is incomplete"
  let quoteId ← requiredText incomplete route.quoteId
  let quoteVersion ← requiredText incomplete route.quoteVersion
  let constraintFingerprint ← requiredBytes incomplete route.constraintFingerprint
  let routeFingerprint ← requiredBytes incomplete route.routeFingerprint
  let unitsPerPrice ← requiredText incomplete route.unitsPerPrice
  let settlementDomainId ← requiredText incomplete route.settlementDomainId
  match route.settlementKeys with
  | [] => throw (.error "paid ABR settlement key is missing")
  | key :: _ =>
    return {
      protocol := .paidJobV1
      transport := some .stream
      capability := route.capability
      offering := route.offering
      requestDescriptor := "video-transcode-abr/v2"
      responseDescriptor := some abrResultSchema
      workUnit := route.workUnit
      estimator := route.workUnitEstimator.map estimatorValue
      pricePerUnitWei := route.pricePerWorkUnitWei
      unitsPerPrice := unitsPerPrice
      quoteId := quoteId
      quoteVersion := quoteVersion
      constraintFingerprint := hexText constraintFingerprint
      routeFingerprint := hexText routeFingerprint
      settlementDomainId := some settlementDomainId
      settlementKey := key.publicKey
      raw := .obj [("broker_url", .str route.workerUrl), ("eth_address", .str route.ethAddress),
        ("protocol", .str (match route.protocol with
          | .paidJobV1 => "paid-job/v1"
          | .paidSessionV1 => "paid-session/v1")),
        ("settlement_domain_id", .str settlementDomainId)] }

/-- `requested[name]` and its coordinates. -/
def coordinatesMatch (requested : List (JsString × AbrDestinations)) (rendition : TerminalRenditionWire) :
    Bool :=
  (requested.lookup (js rendition.name)).any fun expected =>
    js rendition.playlistUri = expected.playlist.artifactUri &&
      js rendition.streamUri = expected.stream.artifactUri

/-- The check of the terminal's coordinates, the same in both services but for its message. -/
def validateCoordinates (message : String) (manifest : JsString)
    (requested : List (JsString × AbrDestinations)) (terminal : AbrTerminalResult) : Except Failure Unit :=
  failWhen (js terminal.manifestUri ≠ manifest ∨ terminal.renditions.length ≠ requested.length ∨
    ¬ terminal.renditions.all (coordinatesMatch requested)) (.error message)

def terminalCheck (message : String) (expected : TerminalExpectation) (manifest : JsString)
    (requested : List (JsString × AbrDestinations)) (brokerBody : List UInt8)
    (settlement : PaidJobSettlement) : GatewayProg AbrTerminalResult := do
  let terminal ← validateAbrTerminal P brokerBody settlement expected
  validateCoordinates message manifest requested terminal
  return terminal

def Unresolved.kind : Unresolved → String
  | .inFlight _ => "in_flight"
  | .accountingPending _ => "accounting_pending"
  | .notAdmitted _ => "not_admitted"
  | .noRecord => "no_record"
  | .admittedOutcomeUnknown _ => "admitted_outcome_unknown"
  | .admittedEvidenceExpired _ => "admitted_evidence_expired"

def Unresolved.brokerJobId : Unresolved → Option String
  | .inFlight id | .accountingPending id | .admittedOutcomeUnknown id | .admittedEvidenceExpired id => some id
  | .notAdmitted _ | .noRecord => none

/-- `result.kind` -/
def Recovered.kind {τ : Type} : Recovered τ → String
  | .settled _ => "settled"
  | .unresolved value => value.kind

/-- `"brokerJobId" in result`, which a settled result is without. -/
def Recovered.brokerJobId {τ : Type} : Recovered τ → Option String
  | .settled _ => none
  | .unresolved value => value.brokerJobId

/-- What both services do with a result that has no terminal. -/
def recordUnresolved {τ : Type} (id : String) (claim : PaidOperationClaim) (owner : String)
    (result : PaidJobResult τ) (message : String) (retryMs : Int) : GatewayProg Unit := do
  let progressed ← ask (.recordProgress id claim {
    status := result.outcome.kind
    requestId := some result.opened.requestId
    locOperationId := some result.opened.operationId
    brokerJobId := result.outcome.brokerJobId })
  match progressed with
  | none => throw (.error message)
  | some progressed =>
    let now ← invoke Call.now
    let _ ← ask (.recordRetry id ⟨owner, progressed.lifecycleVersion, claim.leaseExpiresAt⟩ {
      status := result.outcome.kind
      nextRetryAt := now + retryMs
      errorCode := result.outcome.kind })
    return ()

/-- The renditions of a terminal with their rows; none when one was not requested. -/
def completedRenditions (rows : List (String × String)) (durationSeconds : ℚ)
    (terminal : AbrTerminalResult) : Option (List TerminalRendition) :=
  (terminal.renditions.filter fun rendition => rendition.video.isSome).mapM fun rendition =>
    (rows.lookup rendition.name).map fun id => ⟨id, rendition.streamUri, durationSeconds⟩

def terminalEvidence {τ : Type} (settled : Settled τ) (broker : Option BrokerAnswer) :
    PaidTerminalEvidence :=
  { httpStatus := (broker.map BrokerAnswer.status).getD 200
    responseSha256 := P.sha256Hex ((broker.map BrokerAnswer.body).getD [])
    workUnit := settled.settlement.workUnit
    workUnits := toString settled.settlement.actualUnits
    protocolError := none
    claimSignature := some settled.settlement.envelope.signatureValue
    closeReason := none }

/-- The job a run executes, from what the run found and made. -/
def abrJob (requestId : String) (route : SelectedWorkerRoute) (estimatedUnits maxTotalUnits : ℤ)
    (body : List UInt8)
    (validate : List UInt8 → PaidJobSettlement → GatewayProg AbrTerminalResult) :
    PaidJobRequest AbrTerminalResult :=
  { requestId := requestId
    route := route
    transport := .stream
    estimatedUnits := estimatedUnits
    maxTotalUnits := some maxTotalUnits
    contentType := "application/json"
    body := body
    validateTerminal := some validate }

/-! ## A run -/

def startsWithHttp (text : String) : Bool :=
  match text.toList with
  | 'h' :: 't' :: 't' :: 'p' :: _ => true
  | _ => false

def routeServes (route : SelectedWorkerRoute) : Bool :=
  route.protocol == .paidJobV1 && (route.transports.any fun transports => transports.contains .stream) &&
    route.workUnit == abrWorkUnit

def sourceUrlOf (sourceUrl : String) : GatewayProg String :=
  if startsWithHttp sourceUrl then return sourceUrl
  else attempt (Call.getSignedDownloadUrl sourceUrl 86400) fun answer => answer

def fundingOf (tier : EncodingTier) (probe : ProbeResult) (estimator : Option WorkUnitEstimator) :
    Except Failure AbrFundingEstimate :=
  (estimateAbrFunding probe.durationSec probe.frameRate
    ((presets tier).renditions.map fun rendition => ⟨rendition.resolution, none⟩) estimator).mapError
    Failure.usage

def abrRequest (asset : Asset) (sourceUrl : String) (manifest : SignedUpload)
    (outputs : JsObject AbrDestinations) : AbrExchangeRequest :=
  { schema := abrRequestSchema
    workloadId := js asset.id
    downloadUrl := js sourceUrl
    contentSha256 := none
    preset := js (presets asset.encodingTier).name
    manifest := artifactOf manifest
    renditions := outputs }

def newAbrOperation (operationId : String) (asset : Asset) (requestId sha256 : String)
    (route : PaidRouteSnapshot) (funding : AbrFundingEstimate) : NewPaidOperation :=
  { id := operationId
    kind := .job
    apiKeyId := asset.apiKeyId
    assetId := some asset.id
    liveStreamId := none
    requestId := "pending:" ++ requestId
    requestContentSha256 := sha256
    workId := "pending:" ++ requestId
    rotationGeneration := none
    route := route
    status := "opening"
    fundedUnits := toString funding.maxTotalUnits
    sessionRuntime := none }

def abrSecrets (requestId : String) (document : JsDocument) : PaidOperationSecrets :=
  { openIntent := some (documentValue document)
    routeIntent := none
    sessionParams := none
    grants := none
    control := none
    loc := some (.obj [("idempotency_key", .str requestId)])
    runnerIngestUrl := none
    runnerIngestKey := none
    credentials := none
    refillIntent := none }

structure AbrIntent where
  asset : Asset
  route : SelectedWorkerRoute
  probe : ProbeResult
  funding : AbrFundingEstimate
  rows : List (String × String)
  outputs : JsObject AbrDestinations
  manifest : SignedUpload
  requestId : String
  encoded : EncodedAbrRequest

def AbrIntent.job (intent : AbrIntent) : PaidJobRequest AbrTerminalResult :=
  abrJob intent.requestId intent.route intent.funding.estimatedUnits intent.funding.maxTotalUnits
    intent.encoded.body
    (terminalCheck P "terminal output coordinates do not match the request"
      ⟨intent.asset.id, intent.encoded.sha256, intent.funding.maxTotalUnits⟩
      (js intent.manifest.storageKey) intent.outputs.properties)

def prepareAbr (asset : Asset) (route : SelectedWorkerRoute) : GatewayProg AbrIntent := do
  match truthy asset.sourceUrl with
  | none => throw (.error "paid ABR route or source is invalid")
  | some source =>
    failWhen (routeServes route = false) (Failure.error "paid ABR route or source is invalid")
    let sourceUrl ← sourceUrlOf source
    let probe ← attempt (Call.probe sourceUrl) fun answer => answer
    attempt (Call.updateAssetStatus asset.id "preparing" probe) fun answer => answer
    let preset := presets asset.encodingTier
    let funding ← fundingOf asset.encodingTier probe route.workUnitEstimator
    let (rows, outputs) ← insertRenditions asset.id preset.renditions [] JsObject.empty
    let outputs ← withAudio asset.id preset.audioOnly outputs
    let manifest ← signedUpload ⟨asset.id, "manifest", none, none, "master.m3u8", manifestType, 86400⟩
    let requestId ← hexId 8 "req_"
    let encoded ← encodeRequest P (abrRequest asset sourceUrl manifest outputs)
    return { asset, route, probe, funding, rows, outputs, manifest, requestId, encoded }

def recordAbrTerminal (intent : AbrIntent) (jobId operationId : String) (claim : PaidOperationClaim)
    (result : PaidJobResult AbrTerminalResult) (settled : Settled AbrTerminalResult)
    (terminal : AbrTerminalResult) : GatewayProg Unit := do
  match completedRenditions intent.rows (intent.probe.durationSec.value.getD 0) terminal with
  | none => throw (.error "terminal rendition was not requested")
  | some completed =>
    failWhen (completed.length ≠ intent.rows.length) (Failure.error "terminal rendition set is incomplete")
    let terminalAt ← invoke Call.now
    let playbackId ← hexId 12 "pb_"
    let recorded ← ask (.recordVodTerminal operationId claim {
      assetId := intent.asset.id
      encodingJobId := jobId
      playbackId := playbackId
      apiKeyId := intent.asset.apiKeyId
      locOperationId := result.opened.operationId
      brokerJobId := settled.settlement.brokerJobId
      brokerRequestId := result.opened.requestId
      claimedUnits := toString settled.settlement.actualUnits
      settlementSequence := "0"
      evidence := terminalEvidence P settled result.broker
      terminalAt := terminalAt
      renditions := completed })
    failWhen (recorded = false) (Failure.error "paid ABR terminal fence was lost")

structure AbrStart where
  intent : AbrIntent
  operationId : String
  jobId : String
  leaseExpiresAt : Date
  stored : PaidRouteSnapshot

def startAbr (deps : PaidAbrOrchestratorDeps) (asset : Asset) (route : SelectedWorkerRoute) :
    GatewayProg AbrStart := do
  let intent ← prepareAbr P asset route
  let operationId ← invoke Call.randomUUID
  let jobId ← hexId 12 "job_"
  let startedAt ← invoke Call.now
  let job ← attempt (Call.insertEncodingJob
    ⟨jobId, asset.id, "encode", "running", route.workerUrl, startedAt⟩) fun answer => answer
  let now ← invoke Call.now
  let stored ← paidRoute route
  return ⟨intent, operationId, job.id, some (now + deps.recoveryLeaseMs), stored⟩

def AbrStart.operation (start : AbrStart) : NewPaidOperation :=
  newAbrOperation start.operationId start.intent.asset start.intent.requestId start.intent.encoded.sha256
    start.stored start.intent.funding

def AbrStart.secrets (start : AbrStart) : PaidOperationSecrets :=
  abrSecrets start.intent.requestId start.intent.encoded.json

def runPaidAbrAsset (deps : PaidAbrOrchestratorDeps) (asset : Asset) (route : SelectedWorkerRoute) :
    GatewayProg Unit := do
  let start ← startAbr P deps asset route
  let operation ← ask (.insertWithSecrets start.operation start.secrets deps.owner start.leaseExpiresAt)
  let claim : PaidOperationClaim := ⟨deps.owner, operation.lifecycleVersion, start.leaseExpiresAt⟩
  let result ← execute P (start.intent.job P)
  match result.outcome with
  | .settled settled =>
    match settled.terminal with
    | some terminal =>
      recordAbrTerminal P start.intent start.jobId start.operationId claim result settled terminal
    | none =>
      recordUnresolved start.operationId claim deps.owner result "paid ABR progress fence was lost" 1000
  | .unresolved _ =>
    recordUnresolved start.operationId claim deps.owner result "paid ABR progress fence was lost" 1000

/-! ## Recovery -/

structure PaidAbrRecoveryDeps where
  owner : String
  leaseMs : Int
  retryMs : Int

/-- `objectString` -/
def objectString (value : Option JsonValue) (key : String) : Option String :=
  value.bind fun value => requiredWireText (property key value)

def artifactFrom : Option JsonValue → Option AbrArtifact
  | some (.obj members) =>
    if strict ["artifact_uri", "upload_url"] members then
      match members.lookup "artifact_uri", members.lookup "upload_url" with
      | some (.str artifactUri), some (.str uploadUrl) => some ⟨js artifactUri, js uploadUrl⟩
      | _, _ => none
    else none
  | _ => none

def destinationsFrom : JsonValue → Option AbrDestinations
  | .obj members =>
    if strict ["playlist", "stream"] members then do
      let playlist ← artifactFrom (members.lookup "playlist")
      let stream ← artifactFrom (members.lookup "stream")
      return ⟨playlist, stream⟩
    else none
  | _ => none

def renditionsFrom : List (String × JsonValue) → JsObject AbrDestinations → Option (JsObject AbrDestinations)
  | [], outputs => some outputs
  | (name, value) :: rest, outputs => do
    let destinations ← destinationsFrom value
    renditionsFrom rest (outputs.set (js name) destinations)

def inputFrom : Option JsonValue → Option (String × Option String)
  | some (.obj members) =>
    if strict ["download_url", "content_sha256"] members then
      match members.lookup "download_url", members.lookup "content_sha256" with
      | some (.str url), none => some (url, none)
      | some (.str url), some (.str sha256) => some (url, some sha256)
      | _, _ => none
    else none
  | _ => none

def presetFrom : Option JsonValue → Option String
  | some (.obj members) =>
    match strict ["preset"] members, members.lookup "preset" with
    | true, some (.str preset) => some preset
    | _, _ => none
  | _ => none

def outputFrom : Option JsonValue → Option (AbrArtifact × JsObject AbrDestinations)
  | some (.obj members) =>
    match strict ["manifest", "renditions"] members, members.lookup "renditions" with
    | true, some (.obj renditions) => do
      let manifest ← artifactFrom (members.lookup "manifest")
      let outputs ← renditionsFrom renditions JsObject.empty
      return (manifest, outputs)
    | _, _ => none
  | _ => none

/-- A stored intent as the request it stands for; none where the schema finds another shape. -/
def requestFrom : JsonValue → Option AbrExchangeRequest
  | .obj members =>
    match strict ["schema", "workload_id", "input", "ladder", "output"] members,
        members.lookup "schema", members.lookup "workload_id" with
    | true, some (.str schema), some (.str workloadId) => do
      let input ← inputFrom (members.lookup "input")
      let preset ← presetFrom (members.lookup "ladder")
      let output ← outputFrom (members.lookup "output")
      return {
        schema := js schema
        workloadId := js workloadId
        downloadUrl := js input.1
        contentSha256 := input.2.map js
        preset := js preset
        manifest := output.1
        renditions := output.2 }
    | _, _, _ => none
  | _ => none

def encodeStored (intent : JsonValue) : Except Failure EncodedAbrRequest :=
  match requestFrom intent with
  | some request => encodeRequest P request
  | none => .error (.abr "abr_request_invalid" false)

/-- The text of a stored value; the estimator of a recovered route is not looked at. -/
def storedText (value : Option JsonValue) : String :=
  match value with
  | some (.str text) => text
  | _ => ""

def storedEstimator : Option JsonValue → Option WorkUnitEstimator
  | some (.obj members) => some {
      id := storedText (members.lookup "id")
      rounding := storedText (members.lookup "rounding")
      exactness := storedText (members.lookup "exactness")
      package := (members.lookup "package").map fun value => storedText (some value)
      fixtures := (members.lookup "fixtures").map fun value => storedText (some value) }
  | _ => none

def rawText (raw : JsonValue) (key : String) : Except Failure String :=
  requiredText (.error "recoverable route is invalid") (requiredWireText (property key raw))

def routeFrom (operation : PaidOperation) : Except Failure SelectedWorkerRoute := do
  let route := operation.route
  let workerUrl ← rawText route.raw "broker_url"
  let ethAddress ← rawText route.raw "eth_address"
  let settlementDomainId ← match route.settlementDomainId with
    | some settlementDomainId => .ok settlementDomainId
    | none => rawText route.raw "settlement_domain_id"
  return {
    workerUrl := workerUrl
    ethAddress := ethAddress
    capability := route.capability
    offering := route.offering
    pricePerWorkUnitWei := route.pricePerUnitWei
    workUnit := route.workUnit
    protocol := .paidJobV1
    transports := some [.stream]
    workUnitEstimator := storedEstimator route.estimator
    settlementKeys := [⟨route.settlementKey, "", "", "0"⟩]
    settlementDomainId := some settlementDomainId
    unitsPerPrice := some route.unitsPerPrice
    quoteId := some route.quoteId
    quoteVersion := some route.quoteVersion
    constraintFingerprint := some (hexBytes route.constraintFingerprint)
    routeFingerprint := some (hexBytes route.routeFingerprint) }

/-- `uint` of a column's text, which is a canonical decimal. -/
def uint (text : String) : Except Failure Nat :=
  match (safeDecimal text).filter fun n => 1 ≤ n with
  | some n => .ok n
  | none => .error (.error "recoverable funding is invalid")

structure RecoveredIntent where
  claim : PaidOperationClaim
  requestId : String
  encoded : EncodedAbrRequest
  request : AbrExchangeRequest
  asset : Asset
  durationSeconds : ℚ
  renditions : List Rendition
  jobId : String

/-- The job of a recovered intent; each funded amount is read from the operation. -/
def recoveredJob (operation : PaidOperation) (intent : RecoveredIntent) :
    Except Failure (PaidJobRequest AbrTerminalResult) := do
  let route ← routeFrom operation
  let estimatedUnits ← uint operation.fundedUnits
  let maxTotalUnits ← uint operation.fundedUnits
  return abrJob intent.requestId route estimatedUnits maxTotalUnits intent.encoded.body
    (terminalCheck P "recovered terminal output coordinates drifted"
      ⟨intent.asset.id, intent.encoded.sha256, maxTotalUnits⟩
      intent.request.manifest.artifactUri intent.request.renditions.properties)

def unavailable (text : String) : Failure := .error ("recoverable VOD " ++ text)

def recoverIntent (operation : PaidOperation) : GatewayProg RecoveredIntent := do
  match truthy operation.assetId, truthy operation.recoveryOwner, operation.recoveryLeaseExpiresAt with
  | some assetId, some owner, some lease =>
    let claim : PaidOperationClaim := ⟨owner, operation.lifecycleVersion, some lease⟩
    let secrets ← ask (.readSecrets operation.id claim)
    match secrets.bind PaidOperationSecrets.openIntent,
        objectString (secrets.bind PaidOperationSecrets.loc) "idempotency_key" with
    | some openIntent, some requestId =>
      let encoded ← encodeStored P openIntent
      failWhen (encoded.sha256 ≠ operation.requestContentSha256) (unavailable "intent hash drift")
      let found ← attempt (Call.assetById assetId) fun answer => answer
      match found, found.bind fun asset => asset.durationSec.filter fun seconds => seconds ≠ 0 with
      | some asset, some durationSeconds =>
        let renditions ← invoke (Call.renditionsByAsset asset.id)
        let jobs ← invoke (Call.encodingJobsByAsset asset.id)
        let renditions ← renditions
        let jobs ← jobs
        match jobs.find? fun job => job.kind == "encode" && job.status == "running",
            requestFrom (documentValue encoded.json) with
        | some job, some request =>
          return ⟨claim, requestId, encoded, request, asset, durationSeconds, renditions, job.id⟩
        | _, _ => throw (unavailable "encoding job is unavailable")
      | _, _ => throw (unavailable "asset probe is unavailable")
    | _, _ => throw (unavailable "intent is unavailable")
  | _, _, _ => throw (.error "recoverable VOD operation is incomplete")

/-- `error instanceof PaidJobClientError` -/
def Failure.jobError : Failure → Option (String × Bool)
  | .job code retryable => some (code, retryable)
  | _ => none

def recordRecoveryError (deps : PaidAbrRecoveryDeps) (operation : PaidOperation)
    (claim : PaidOperationClaim) (e : Failure) : GatewayProg Unit := do
  let now ← invoke Call.now
  let recorded ← ask (.recordRetry operation.id claim {
    status := if e.jobError.any (fun typed => !typed.2) then "encumbered" else "recovery_retry"
    nextRetryAt := now + deps.retryMs
    errorCode := (e.jobError.map Prod.fst).getD "paid_job_recovery_failed" })
  failWhen (recorded.isNone = true) (Failure.error "VOD recovery error fence was lost")

/-- The renditions by resolution; the last row of a resolution counts. -/
def rowsByResolution (renditions : List Rendition) : List (String × String) :=
  (renditions.map fun rendition => (rendition.resolution.text, rendition.id)).reverse

def recordRecoveredTerminal (operation : PaidOperation) (intent : RecoveredIntent)
    (result : PaidJobResult AbrTerminalResult) (settled : Settled AbrTerminalResult)
    (terminal : AbrTerminalResult) : GatewayProg Unit := do
  match completedRenditions (rowsByResolution intent.renditions) intent.durationSeconds terminal with
  | none => throw (.error "recovered terminal rendition was not requested")
  | some completed =>
    failWhen (completed.length ≠ intent.renditions.length)
      (Failure.error "recovered terminal rendition set is incomplete")
    let playbackId ← hexId 12 "pb_"
    let terminalAt ← invoke Call.now
    let recorded ← ask (.recordVodTerminal operation.id intent.claim {
      assetId := intent.asset.id
      encodingJobId := intent.jobId
      playbackId := playbackId
      apiKeyId := intent.asset.apiKeyId
      locOperationId := result.opened.operationId
      brokerJobId := settled.settlement.brokerJobId
      brokerRequestId := result.opened.requestId
      claimedUnits := toString settled.settlement.actualUnits
      settlementSequence := operation.settlementSequence
      evidence := terminalEvidence P settled result.broker
      terminalAt := terminalAt
      renditions := completed })
    failWhen (recorded = false) (Failure.error "VOD recovery terminal fence was lost")

def executeRecovered (operation : PaidOperation) (intent : RecoveredIntent) :
    GatewayProg (Except Failure (PaidJobResult AbrTerminalResult)) :=
  tryCatch (do
    let job ← recoveredJob P operation intent
    let result ← execute P job
    return .ok result) fun e => return .error e

def recoverOne (deps : PaidAbrRecoveryDeps) (operation : PaidOperation) : GatewayProg Unit := do
  let intent ← recoverIntent P operation
  match ← executeRecovered P operation intent with
  | .error e => recordRecoveryError deps operation intent.claim e
  | .ok result =>
    match result.outcome with
    | .settled settled =>
      match settled.terminal with
      | some terminal => recordRecoveredTerminal P operation intent result settled terminal
      | none =>
        recordUnresolved operation.id intent.claim deps.owner result
          "VOD recovery progress fence was lost" deps.retryMs
    | .unresolved _ =>
      recordUnresolved operation.id intent.claim deps.owner result
        "VOD recovery progress fence was lost" deps.retryMs

/-- Each operation in turn; what one throws is logged and the next is taken. -/
def recoverEach (deps : PaidAbrRecoveryDeps) : List PaidOperation → GatewayProg Unit
  | [] => return ()
  | operation :: rest => do
    tryCatch (recoverOne P deps operation) fun _ => return ()
    recoverEach deps rest

def recoverPaidAbrOperations (deps : PaidAbrRecoveryDeps) (now : Time) (limit : Int) : GatewayProg Nat := do
  let operations ← ask (.claimRecoverable .job deps.owner now (some (now + deps.leaseMs)) limit)
  recoverEach P deps operations
  return operations.length

end

end LivepeerTranscode.Gateway
