import LivepeerTranscode.Gateway.Assets
import LivepeerTranscode.Gateway.VodSystem

/-!
# The routes of an asset, statement by statement

The routes of `routes/vod/uploads.ts` and `routes/vod/vod.ts` as programs: what another request
or a background task writes between two statements of a route is seen by the later ones. A
submission that is accepted goes on as the orchestrator it starts.
-/

namespace LivepeerTranscode.Gateway
open Actors Checked Interaction
set_option autoImplicit false

/-! ## Statements -/

/-- The statements of the repositories of assets and uploads that the routes use. -/
inductive MediaCall where
  | insertAsset (id : String) (row : MediaAsset)
  | assetById (id : String)
  | updateStatus (id : String) (status : AssetStatus) (fields : AssetFields)
  | softDelete (id : String) (deletedAt : Time)
  | insertUpload (id : String) (row : UploadRow)
  | uploadById (id : String)
  | updateUploadStatus (id : String) (status : UploadStatus) (completedAt : Time)

@[reducible] def MediaCall.Answer : MediaCall → Type
  | .assetById _ => Option MediaAsset
  | .uploadById _ => Option UploadRow
  | _ => Unit

/-- `INSERT`, which a row with the same key refuses. -/
def insertRow {Row : Type} (table : Table Row) (id : String) (row : Row) : Repo (Table Row) :=
  (failWhen (table.lookup id).isSome RepoError.constraint).map fun _ => table.insert id row

def completeRow (uploads : Table UploadRow) (id : String) (status : UploadStatus) (completedAt : Time) :
    Table UploadRow :=
  match uploads.lookup id with
  | none => uploads
  | some row => uploads.insert id { row with status := status, completedAt := some completedAt }

section
variable (S : AssetColumns)

def MediaCall.statement (db : Media) : (call : MediaCall) → Repo (call.Answer × Media)
  | .insertAsset id row => (insertRow db.assets id row).map fun assets => ((), { db with assets })
  | .assetById id => .ok (db.assets.lookup id, db)
  | .updateStatus id status fields =>
    (Gateway.updateStatus S db.assets id status fields).map fun assets => ((), { db with assets })
  | .softDelete id deletedAt =>
    .ok ((), { db with assets := updateAsset db.assets id (MediaAsset.softDelete deletedAt) })
  | .insertUpload id row => (insertRow db.uploads id row).map fun uploads => ((), { db with uploads })
  | .uploadById id => .ok (db.uploads.lookup id, db)
  | .updateUploadStatus id status completedAt =>
    .ok ((), { db with uploads := completeRow db.uploads id status completedAt })

/-- A call over the connection: what the caller gets and the tables it leaves. -/
def MediaCall.run (delivery : Delivery) (db : Media) (call : MediaCall) : Repo call.Answer × Media :=
  match delivery, call.statement S db with
  | .unsent, _ => (.error .connection, db)
  | _, .error e => (.error e, db)
  | .answered, .ok (answer, db') => (.ok answer, db')
  | .unanswered, .ok (_, db') => (.error .connection, db')

end

/-! ## Routes -/

inductive RouteCall where
  | media (call : MediaCall)
  | service (call : Call)
  | selectWorker (offering : String) (tier : EncodingTier)

@[reducible] def RouteCall.Answer : RouteCall → Type
  | .media call => Repo call.Answer
  | .service call => call.Answer
  | .selectWorker .. => Except Failure (Option SelectedWorkerRoute)

abbrev RouteProg (α : Type) : Type := Throwing RouteCall RouteCall.Answer Failure α

def query (call : MediaCall) : RouteProg call.Answer :=
  attempt (RouteCall.media call) fun answer => answer.mapError Failure.repo

def serve {α : Type} (p : GatewayProg α) : RouteProg α :=
  ExceptT.mk (p.run.handle fun call => .call (.service call) .pure)

/-- `new Date()` -/
def currentTime : RouteProg Time := invoke (RouteCall.service .now)

def newUploadAsset (apiKeyId : String) (now : Time) : MediaAsset where
  apiKeyId := apiKeyId
  status := .preparing
  sourceType := .upload
  selectedOffering := none
  sourceUrl := none
  durationSec := none
  width := none
  height := none
  frameRate := none
  audioCodec := none
  videoCodec := none
  encodingTier := .standard
  ffprobeJson := none
  errorMessage := none
  createdAt := now
  readyAt := none
  deletedAt := none

/-- `POST /v1/uploads` -/
def postUpload (apiKeyId filename contentType : String) (ttlSec : Nat) : RouteProg (RouteAnswer UploadRow) := do
  if filename = "" ∨ 512 < utf16Length filename ∨ contentType = "" ∨ 128 < utf16Length contentType then
    return .refused 400 none
  else
    let assetId ← serve (hexId 12 "asset_")
    let uploadId ← serve (hexId 12 "upl_")
    let now ← currentTime
    let presigned ← serve (signedUpload ⟨assetId, "source", none, none, filename, contentType, ttlSec⟩)
    query (.insertAsset assetId (newUploadAsset apiKeyId now))
    let upload : UploadRow :=
      { apiKeyId, assetId := some assetId, status := .waiting, uploadUrl := presigned.url,
        storageKey := presigned.storageKey, expiresAt := now + ttlSec * 1000, createdAt := now, completedAt := none }
    query (.insertUpload uploadId upload)
    return .answered upload

/-- `POST /v1/uploads/:id/complete` -/
def postUploadComplete (apiKeyId uploadId : String) : RouteProg (RouteAnswer UploadReply) := do
  if uploadId = "" then return .refused 400 (some "Invalid upload id.")
  else
    match ← query (.uploadById uploadId) with
    | none => return .refused 404 (some "Upload not found.")
    | some upload =>
      if upload.apiKeyId ≠ apiKeyId then return .refused 404 (some "Upload not found.")
      else if upload.status ≠ .waiting ∧ upload.status ≠ .uploading then
        return .answered ⟨upload.assetId, uploadId, upload.status⟩
      else
        let now ← currentTime
        query (.updateUploadStatus uploadId .completed now)
        match truthy upload.assetId with
        | some assetId => query (.updateStatus assetId .preparing { sourceUrl := some upload.storageKey })
        | none => pure ()
        return .answered ⟨upload.assetId, uploadId, .completed⟩

/-- `POST /v1/vod/submit`; the run it starts has the asset as it was read. -/
def postVodSubmit (P : Platform) (deps : PaidAbrOrchestratorDeps) (configured : Bool)
    (apiKeyId assetId offering : String) (tier : EncodingTier) : RouteProg (RouteAnswer Unit) := do
  if assetId = "" then return .refused 400 none
  else if configured = false then
    return .refused 503 (some "VOD requires S3, LOC, and an operation-secrets wrapping key")
  else
    match ← query (.assetById assetId) with
    | none => return .refused 404 (some "Asset not found.")
    | some row =>
      if row.deletedAt.isSome ∨ row.apiKeyId ≠ apiKeyId then return .refused 404 (some "Asset not found.")
      else
        match ← attempt (RouteCall.selectWorker offering tier) fun answer => answer with
        | none => return .refused 503 (some "no video:transcode.abr route is currently available")
        | some route =>
          if routeServes route = false then
            return .refused 503
              (some "the selected route does not implement the required paid-job/v1 ABR contract")
          else
            query (.updateStatus assetId .queued
              { encodingTier := some tier, selectedOffering := some route.offering })
            serve (runPaidAbrAsset P deps { rowToAsset assetId row with encodingTier := tier } route)
            return .answered ()

/-- `DELETE /v1/videos/assets/:id` -/
def deleteAsset (apiKeyId id : String) : RouteProg (RouteAnswer Unit) := do
  if id = "" then return .refused 400 (some "Invalid id.")
  else
    match ← query (.assetById id) with
    | none => return .refused 404 (some "Asset not found.")
    | some row =>
      if row.apiKeyId ≠ apiKeyId then return .refused 404 (some "Asset not found.")
      else
        let now ← currentTime
        query (.softDelete id now)
        return .answered ()

/-! ## Requests and background tasks side by side -/

structure MediaState where
  db : Database
  media : Media
  clock : Time

/-- `AssetStatus` -/
def assetStatus : String → Option AssetStatus
  | "preparing" => some .preparing
  | "queued" => some .queued
  | "ready" => some .ready
  | "errored" => some .errored
  | "deleted" => some .deleted
  | _ => none

def probeFields (probe : ProbeResult) : AssetFields where
  durationSec := some probe.durationSec
  width := some probe.width
  height := some probe.height
  frameRate := some probe.frameRate
  audioCodec := some probe.audioCodec
  videoCodec := some probe.videoCodec
  ffprobeJson := some probe.raw

section
variable (S : AssetColumns) (pg : Postgres) (cipher : OperationSecretCipher)

/-- The asset that a statement of the operations makes ready, and when. -/
def readyAsset (exec : Execution) (db : Database) : RepoCall → Option (String × Time)
  | .recordVodTerminal id claim value =>
    match exec.delivery, recordVodTerminal pg exec id claim value db with
    | .unsent, _ => none
    | _, .ok (true, _) => some (value.assetId, value.terminalAt)
    | _, _ => none
  | _ => none

def Media.makeReady (media : Media) : Option (String × Time) → Media
  | none => media
  | some (id, readyAt) => { media with assets := updateAsset media.assets id (MediaAsset.becomeReady readyAt) }

/-- What a call of the services does. The tables beside the operations, their secrets and the
assets are written by others at any time. -/
inductive ServiceActs (s : MediaState) (now : Time) : (e : Call) → e.Answer → MediaState → Prop where
  | repo {call : RepoCall} {exec : Execution} {db : Database} : exec.now = now → s.db.Beside db →
      (∀ id, (db.assets.lookup id).isSome = (s.media.assets.lookup id).isSome) →
      ServiceActs s now (.repo call) (call.run pg cipher exec db).1
        ⟨(call.run pg cipher exec db).2, s.media.makeReady (readyAsset pg exec db call), now⟩
  | updateAssetStatus {id text : String} {probe : ProbeResult} {status : AssetStatus} (delivery : Delivery) :
      assetStatus text = some status →
      ServiceActs s now (.updateAssetStatus id text probe)
        (((MediaCall.updateStatus id status (probeFields probe)).run S delivery s.media).1.mapError Failure.repo)
        ⟨s.db, ((MediaCall.updateStatus id status (probeFields probe)).run S delivery s.media).2, now⟩
  | assetById {id : String} (delivery : Delivery) :
      ServiceActs s now (.assetById id)
        ((((MediaCall.assetById id).run S delivery s.media).1.map fun row => row.map (rowToAsset id)).mapError
          Failure.repo) ⟨s.db, s.media, now⟩
  | now : ServiceActs s now .now now ⟨s.db, s.media, now⟩
  | outside {e : Call} {answer : e.Answer} : e.outside → (∀ id text probe, e ≠ .updateAssetStatus id text probe) →
      (∀ id, e ≠ .assetById id) → ServiceActs s now e answer ⟨s.db, s.media, now⟩

inductive RouteActs (s : MediaState) (now : Time) : (e : RouteCall) → e.Answer → MediaState → Prop where
  | media {call : MediaCall} (delivery : Delivery) :
      RouteActs s now (.media call) (call.run S delivery s.media).1 ⟨s.db, (call.run S delivery s.media).2, now⟩
  | service {call : Call} {answer : call.Answer} {s' : MediaState} :
      ServiceActs S pg cipher s now call answer s' → RouteActs s now (.service call) answer s'
  | selectWorker {offering : String} {tier : EncodingTier} (answer : Except Failure (Option SelectedWorkerRoute)) :
      RouteActs s now (.selectWorker offering tier) answer ⟨s.db, s.media, now⟩

def detached {α : Type} (p : RouteProg α) : Prog RouteCall RouteCall.Answer Unit := p.run >>= fun _ => .pure ()

variable (P : Platform)

inductive MediaStarts : Prog RouteCall RouteCall.Answer Unit → Prop where
  | postUpload (apiKeyId filename contentType : String) (ttlSec : Nat) :
      MediaStarts (detached (Gateway.postUpload apiKeyId filename contentType ttlSec))
  | postUploadComplete (apiKeyId uploadId : String) :
      MediaStarts (detached (Gateway.postUploadComplete apiKeyId uploadId))
  | postVodSubmit (deps : PaidAbrOrchestratorDeps) (configured : Bool) (apiKeyId assetId offering : String)
      (tier : EncodingTier) :
      MediaStarts (detached (Gateway.postVodSubmit P deps configured apiKeyId assetId offering tier))
  | deleteAsset (apiKeyId id : String) : MediaStarts (detached (Gateway.deleteAsset apiKeyId id))
  | recoveryTick (deps : PaidAbrRecoveryDeps) (limit : Int) :
      MediaStarts (detached (serve (Gateway.recoveryTick P deps limit)))

def mediaWorld : World MediaState RouteCall RouteCall.Answer where
  act s e answer s' := RouteActs S pg cipher s s'.clock e answer s'
  starts := MediaStarts P

end

end LivepeerTranscode.Gateway
