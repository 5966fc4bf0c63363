import LivepeerTranscode.Gateway.PaidAbr
import LivepeerTranscode.Gateway.Storage

/-!
# Assets and uploads

`repo/assets.ts` with the routes that bring an asset in: `POST /v1/uploads` inserts the asset
and its upload, `POST /v1/uploads/:id/complete` marks the upload and updates the asset, and
`POST /v1/vod/submit` starts the orchestrator on the asset as it was read.
-/

namespace LivepeerTranscode.Gateway
open Checked
set_option autoImplicit false

inductive AssetStatus where
  | preparing | queued | ready | errored | deleted
  deriving DecidableEq, Repr

inductive AssetSourceType where
  | upload | liveRecording | imported
  deriving DecidableEq, Repr

inductive UploadStatus where
  | waiting | uploading | completed | expired
  deriving DecidableEq, Repr

/-- A row of `media.assets` beside its id; the durations and rates are in thousandths. -/
structure MediaAsset where
  apiKeyId : String
  status : AssetStatus
  sourceType : AssetSourceType
  selectedOffering : Option String
  sourceUrl : Option String
  durationSec : Option Int
  width : Option Int
  height : Option Int
  frameRate : Option Int
  audioCodec : Option String
  videoCodec : Option String
  encodingTier : EncodingTier
  ffprobeJson : Option JsonValue
  errorMessage : Option String
  createdAt : Time
  readyAt : Option Time
  deletedAt : Option Time

/-- The fields of a `Partial<Asset>` beside the id and the status. -/
structure AssetFields where
  apiKeyId : Option String := none
  sourceType : Option AssetSourceType := none
  selectedOffering : Option String := none
  sourceUrl : Option String := none
  durationSec : Option Binary64.Number := none
  width : Option ℚ := none
  height : Option ℚ := none
  frameRate : Option Binary64.Number := none
  audioCodec : Option String := none
  videoCodec : Option String := none
  encodingTier : Option EncodingTier := none
  ffprobeJson : Option JsonValue := none
  errorMessage : Option String := none
  createdAt : Option Time := none
  readyAt : Option Time := none
  deletedAt : Option Time := none

/-- How the server reads the parameters of the columns: `NUMERIC(12,3)`, `NUMERIC(6,3)` and
`INTEGER` when the number is in range, and `JSONB`. -/
structure AssetColumns where
  duration : Binary64.Number → Option Int
  frameRate : Binary64.Number → Option Int
  integer : ℚ → Option Int
  jsonb : JsonValue → JsonValue

variable {fields : AssetFields} {assets assets' : Table MediaAsset}

section
variable (S : AssetColumns)

/-- The column values of the `SET` list; a column without one is not in it. -/
structure AssetChange where
  durationSec : Option Int
  width : Option Int
  height : Option Int
  frameRate : Option Int
  audioCodec : Option String
  videoCodec : Option String
  ffprobeJson : Option JsonValue
  errorMessage : Option String
  readyAt : Option Time

def parameter {α β : Type} (read : α → Option β) : Option α → Repo (Option β)
  | none => .ok none
  | some value =>
    match read value with
    | some held => .ok (some held)
    | none => .error .parameter

/-- The `map` that `updateStatus` builds from the fields. -/
def assetChange (fields : AssetFields) : Repo AssetChange := do
  let durationSec ← parameter S.duration fields.durationSec
  let width ← parameter S.integer fields.width
  let height ← parameter S.integer fields.height
  let frameRate ← parameter S.frameRate fields.frameRate
  return { durationSec, width, height, frameRate,
           audioCodec := fields.audioCodec, videoCodec := fields.videoCodec,
           ffprobeJson := fields.ffprobeJson.map S.jsonb, errorMessage := fields.errorMessage,
           readyAt := fields.readyAt }

def AssetChange.write (change : AssetChange) (status : AssetStatus) (row : MediaAsset) : MediaAsset :=
  { row with
    status := status
    durationSec := change.durationSec.or row.durationSec
    width := change.width.or row.width
    height := change.height.or row.height
    frameRate := change.frameRate.or row.frameRate
    audioCodec := change.audioCodec.or row.audioCodec
    videoCodec := change.videoCodec.or row.videoCodec
    ffprobeJson := change.ffprobeJson.or row.ffprobeJson
    errorMessage := change.errorMessage.or row.errorMessage
    readyAt := change.readyAt.or row.readyAt }

/-- `UPDATE media.assets SET … WHERE id = $1` -/
def updateAsset (assets : Table MediaAsset) (id : String) (set : MediaAsset → MediaAsset) : Table MediaAsset :=
  match assets.lookup id with
  | none => assets
  | some row => assets.insert id (set row)

/-- `AssetRepo.updateStatus` -/
def updateStatus (assets : Table MediaAsset) (id : String) (status : AssetStatus) (fields : AssetFields) :
    Repo (Table MediaAsset) :=
  (assetChange S fields).map fun change => updateAsset assets id (change.write status)

/-! ## What an update is to do -/

/-- The value a column holds once a field is supplied for it. -/
def held {α β : Type} (read : α → Option β) (old : Option β) : Option α → Option β
  | none => old
  | some value => read value

/-- The row overwritten with the status and with each supplied field. -/
def MediaAsset.overwritten (row : MediaAsset) (status : AssetStatus) (fields : AssetFields) : MediaAsset where
  apiKeyId := fields.apiKeyId.getD row.apiKeyId
  status := status
  sourceType := fields.sourceType.getD row.sourceType
  selectedOffering := fields.selectedOffering.or row.selectedOffering
  sourceUrl := fields.sourceUrl.or row.sourceUrl
  durationSec := held S.duration row.durationSec fields.durationSec
  width := held S.integer row.width fields.width
  height := held S.integer row.height fields.height
  frameRate := held S.frameRate row.frameRate fields.frameRate
  audioCodec := fields.audioCodec.or row.audioCodec
  videoCodec := fields.videoCodec.or row.videoCodec
  encodingTier := fields.encodingTier.getD row.encodingTier
  ffprobeJson := held (fun json => some (S.jsonb json)) row.ffprobeJson fields.ffprobeJson
  errorMessage := fields.errorMessage.or row.errorMessage
  createdAt := fields.createdAt.getD row.createdAt
  readyAt := fields.readyAt.or row.readyAt
  deletedAt := fields.deletedAt.or row.deletedAt

/-- The fields that the `map` has no column for are not supplied, or with what the row has. -/
structure MediaAsset.Has (row : MediaAsset) (fields : AssetFields) : Prop where
  apiKeyId : ∀ value ∈ fields.apiKeyId, value = row.apiKeyId
  sourceType : ∀ value ∈ fields.sourceType, value = row.sourceType
  selectedOffering : ∀ value ∈ fields.selectedOffering, some value = row.selectedOffering
  sourceUrl : ∀ value ∈ fields.sourceUrl, some value = row.sourceUrl
  encodingTier : ∀ value ∈ fields.encodingTier, value = row.encodingTier
  createdAt : ∀ value ∈ fields.createdAt, value = row.createdAt
  deletedAt : ∀ value ∈ fields.deletedAt, some value = row.deletedAt

theorem getD_eq_iff {α : Type} {supplied : Option α} {old : α} :
    old = supplied.getD old ↔ ∀ value ∈ supplied, value = old := by
  cases supplied with
  | none => simp
  | some value => simp [eq_comm]

theorem or_eq_iff {α : Type} {supplied old : Option α} :
    old = supplied.or old ↔ ∀ value ∈ supplied, some value = old := by
  cases supplied with
  | none => simp
  | some value => simp [eq_comm]

theorem parameter_or {α β : Type} {read : α → Option β} {value : Option α} {held' old : Option β}
    (h : parameter read value = .ok held') : held'.or old = held read old value := by
  cases value with
  | none =>
    cases h
    rfl
  | some value =>
    simp only [parameter] at h
    split at h
    · rename_i stored hread
      cases h
      exact hread.symm
    · cases h

variable {S}

theorem assetChange_write {change : AssetChange} (h : assetChange S fields = .ok change)
    (status : AssetStatus) (row : MediaAsset) :
    change.write status row = row.overwritten S status fields ↔ row.Has fields := by
  simp only [assetChange, ok_bind_iff] at h
  obtain ⟨durationSec, hduration, width, hwidth, height, hheight, frameRate, hframeRate, hchange⟩ := h
  cases hchange
  have hjson : (fields.ffprobeJson.map S.jsonb).or row.ffprobeJson =
      held (fun json => some (S.jsonb json)) row.ffprobeJson fields.ffprobeJson := by
    cases fields.ffprobeJson <;> rfl
  simp only [AssetChange.write, MediaAsset.overwritten, MediaAsset.mk.injEq, parameter_or hduration,
    parameter_or hwidth, parameter_or hheight, parameter_or hframeRate, hjson, true_and, and_true, getD_eq_iff,
    or_eq_iff]
  constructor
  · rintro ⟨hkey, htype, hoffering, hsource, htier, hcreated, hdeleted⟩
    exact ⟨hkey, htype, hoffering, hsource, htier, hcreated, hdeleted⟩
  · rintro ⟨hkey, htype, hoffering, hsource, htier, hcreated, hdeleted⟩
    exact ⟨hkey, htype, hoffering, hsource, htier, hcreated, hdeleted⟩

theorem lookup_updateAsset (assets : Table MediaAsset) (id : String) (set : MediaAsset → MediaAsset) :
    (updateAsset assets id set).lookup id = (assets.lookup id).map set := by
  unfold updateAsset
  cases hrow : assets.lookup id with
  | none => exact hrow
  | some row => exact AList.lookup_insert assets

theorem lookup_updateAsset_ne (assets : Table MediaAsset) {id other : String} (hne : other ≠ id)
    (set : MediaAsset → MediaAsset) : (updateAsset assets id set).lookup other = assets.lookup other := by
  unfold updateAsset
  cases assets.lookup id with
  | none => rfl
  | some row => exact AList.lookup_insert_ne hne

theorem lookup_updateStatus {id : String} {status : AssetStatus} (h : updateStatus S assets id status fields = .ok assets') :
    ∃ change, assetChange S fields = .ok change ∧ assets'.lookup id = (assets.lookup id).map (change.write status) ∧
      ∀ other, other ≠ id → assets'.lookup other = assets.lookup other := by
  obtain ⟨change, hchange, rfl⟩ := map_ok h
  exact ⟨change, hchange, lookup_updateAsset _ _ _, fun other hother => lookup_updateAsset_ne _ hother _⟩

end

/-! ## Routes -/

structure UploadRow where
  apiKeyId : String
  assetId : Option String
  status : UploadStatus
  uploadUrl : String
  storageKey : String
  expiresAt : Time
  createdAt : Time
  completedAt : Option Time

structure Media where
  assets : Table MediaAsset
  uploads : Table UploadRow

/-- What a route sends; the messages of the schemas are not kept. -/
inductive RouteAnswer (α : Type) where
  | refused (code : Nat) (message : Option String)
  | answered (value : α)

/-- `POST /v1/uploads`, once the ids are drawn and the upload is signed at `url`. -/
def createUpload (db : Media) (apiKeyId assetId uploadId url filename contentType : String) (ttlSec : Nat)
    (now : Time) : Repo (RouteAnswer UploadRow × Media) := do
  if filename = "" ∨ 512 < utf16Length filename ∨ contentType = "" ∨ 128 < utf16Length contentType then
    return (.refused 400 none, db)
  else
    let storageKey := storageKey ⟨assetId, "source", none, none, filename, contentType, ttlSec⟩
    failWhen (db.assets.lookup assetId).isSome RepoError.constraint
    let asset : MediaAsset :=
      { apiKeyId, status := .preparing, sourceType := .upload, selectedOffering := none, sourceUrl := none,
        durationSec := none, width := none, height := none, frameRate := none, audioCodec := none,
        videoCodec := none, encodingTier := .standard, ffprobeJson := none, errorMessage := none,
        createdAt := now, readyAt := none, deletedAt := none }
    failWhen (db.uploads.lookup uploadId).isSome RepoError.constraint
    let upload : UploadRow :=
      { apiKeyId, assetId := some assetId, status := .waiting, uploadUrl := url, storageKey,
        expiresAt := now + ttlSec * 1000, createdAt := now, completedAt := none }
    return (.answered upload, ⟨db.assets.insert assetId asset, db.uploads.insert uploadId upload⟩)

structure UploadReply where
  assetId : Option String
  uploadId : String
  status : UploadStatus

section
variable (S : AssetColumns)

/-- The asset of a completed upload is updated, when the upload has one. -/
def sourceAsset (assets : Table MediaAsset) (upload : UploadRow) : Repo (Table MediaAsset) :=
  match truthy upload.assetId with
  | none => .ok assets
  | some assetId => updateStatus S assets assetId .preparing { sourceUrl := some upload.storageKey }

/-- `POST /v1/uploads/:id/complete` -/
def completeUpload (db : Media) (apiKeyId uploadId : String) (now : Time) : Repo (RouteAnswer UploadReply × Media) :=
  if uploadId = "" then .ok (.refused 400 (some "Invalid upload id."), db)
  else
    match db.uploads.lookup uploadId with
    | none => .ok (.refused 404 (some "Upload not found."), db)
    | some upload =>
      if upload.apiKeyId ≠ apiKeyId then .ok (.refused 404 (some "Upload not found."), db)
      else if upload.status ≠ .waiting ∧ upload.status ≠ .uploading then
        .ok (.answered ⟨upload.assetId, uploadId, upload.status⟩, db)
      else
        let uploads := db.uploads.insert uploadId { upload with status := .completed, completedAt := some now }
        (sourceAsset S db.assets upload).map fun assets =>
          (.answered ⟨upload.assetId, uploadId, .completed⟩, ⟨assets, uploads⟩)

def rowToAsset (id : String) (row : MediaAsset) : Asset where
  id := id
  apiKeyId := row.apiKeyId
  sourceUrl := row.sourceUrl
  durationSec := row.durationSec.map fun thousandths => (thousandths : ℚ) / 1000
  encodingTier := row.encodingTier

/-- `POST /v1/vod/submit` with the route the resolver selects; the answer has the asset that the
orchestrator is started on. -/
def submitVod (db : Media) (configured : Bool) (apiKeyId assetId : String) (tier : EncodingTier)
    (route : Option SelectedWorkerRoute) : Repo (RouteAnswer Asset × Media) :=
  if assetId = "" then .ok (.refused 400 none, db)
  else if configured = false then
    .ok (.refused 503 (some "VOD requires S3, LOC, and an operation-secrets wrapping key"), db)
  else
    match db.assets.lookup assetId with
    | none => .ok (.refused 404 (some "Asset not found."), db)
    | some row =>
      if row.deletedAt.isSome ∨ row.apiKeyId ≠ apiKeyId then .ok (.refused 404 (some "Asset not found."), db)
      else
        match route with
        | none => .ok (.refused 503 (some "no video:transcode.abr route is currently available"), db)
        | some route =>
          if routeServes route = false then
            .ok (.refused 503
              (some "the selected route does not implement the required paid-job/v1 ABR contract"), db)
          else
            (updateStatus S db.assets assetId .queued
                { encodingTier := some tier, selectedOffering := some route.offering }).map fun assets =>
              (.answered { rowToAsset assetId row with encodingTier := tier }, { db with assets })

def MediaAsset.softDelete (now : Time) (row : MediaAsset) : MediaAsset :=
  { row with status := .deleted, deletedAt := some now }

def MediaAsset.becomeReady (now : Time) (row : MediaAsset) : MediaAsset :=
  { row with status := .ready, readyAt := some now }

inductive MediaStep : Media → Media → Prop where
  | created {db db' : Media} {apiKeyId assetId uploadId url filename contentType : String} {ttlSec : Nat}
      {now : Time} {answer : RouteAnswer UploadRow} :
      createUpload db apiKeyId assetId uploadId url filename contentType ttlSec now = .ok (answer, db') →
      MediaStep db db'
  | completed {db db' : Media} {apiKeyId uploadId : String} {now : Time} {answer : RouteAnswer UploadReply} :
      completeUpload S db apiKeyId uploadId now = .ok (answer, db') → MediaStep db db'
  | submitted {db db' : Media} {configured : Bool} {apiKeyId assetId : String} {tier : EncodingTier}
      {route : Option SelectedWorkerRoute} {answer : RouteAnswer Asset} :
      submitVod S db configured apiKeyId assetId tier route = .ok (answer, db') → MediaStep db db'
  | updated {db : Media} {id : String} {status : AssetStatus} {fields : AssetFields} {assets : Table MediaAsset} :
      updateStatus S db.assets id status fields = .ok assets → MediaStep db { db with assets }
  | deleted {db : Media} (id : String) (now : Time) :
      MediaStep db { db with assets := updateAsset db.assets id (MediaAsset.softDelete now) }
  | becameReady {db : Media} (id : String) (now : Time) :
      MediaStep db { db with assets := updateAsset db.assets id (MediaAsset.becomeReady now) }
  | swept {db : Media} (uploads : Table UploadRow) : MediaStep db { db with uploads }

end

/-! ## Sources -/

section
variable {S : AssetColumns} {db db' : Media}

def sourceOf (assets : Table MediaAsset) (id : String) : Option (Option String) :=
  (assets.lookup id).map MediaAsset.sourceUrl

theorem sourceOf_updateAsset (assets : Table MediaAsset) (id other : String) {set : MediaAsset → MediaAsset}
    (hset : ∀ row, (set row).sourceUrl = row.sourceUrl) :
    sourceOf (updateAsset assets id set) other = sourceOf assets other := by
  unfold sourceOf
  by_cases hother : other = id
  · rw [hother, lookup_updateAsset, Option.map_map]
    exact congrArg (fun f => (assets.lookup id).map f) (funext hset)
  · rw [lookup_updateAsset_ne assets hother]

theorem sourceOf_updateStatus {id : String} {status : AssetStatus}
    (h : updateStatus S assets id status fields = .ok assets') (other : String) :
    sourceOf assets' other = sourceOf assets other := by
  obtain ⟨change, -, rfl⟩ := map_ok h
  exact sourceOf_updateAsset assets id other fun _ => rfl

theorem sourceOf_sourceAsset {upload : UploadRow}
    (h : sourceAsset S assets upload = .ok assets') (other : String) :
    sourceOf assets' other = sourceOf assets other := by
  unfold sourceAsset at h
  split at h
  · cases h
    rfl
  · exact sourceOf_updateStatus h other

theorem completeUpload_cases {apiKeyId uploadId : String} {now : Time}
    {answer : RouteAnswer UploadReply} (h : completeUpload S db apiKeyId uploadId now = .ok (answer, db')) :
    db' = db ∨ ∃ upload, sourceAsset S db.assets upload = .ok db'.assets := by
  unfold completeUpload at h
  split at h
  · cases h
    exact .inl rfl
  · split at h
    · cases h
      exact .inl rfl
    · rename_i upload hupload
      split at h
      · cases h
        exact .inl rfl
      · split at h
        · cases h
          exact .inl rfl
        · obtain ⟨assets, hassets, hanswer⟩ := map_ok h
          cases hanswer
          exact .inr ⟨upload, hassets⟩

theorem submitVod_cases {configured : Bool} {apiKeyId assetId : String} {tier : EncodingTier}
    {route : Option SelectedWorkerRoute} {answer : RouteAnswer Asset}
    (h : submitVod S db configured apiKeyId assetId tier route = .ok (answer, db')) :
    (db' = db ∧ ∀ asset, answer ≠ .answered asset) ∨ ∃ fields row, db.assets.lookup assetId = some row ∧
      updateStatus S db.assets assetId .queued fields = .ok db'.assets ∧
      answer = .answered { rowToAsset assetId row with encodingTier := tier } := by
  unfold submitVod at h
  split at h
  · cases h
    exact .inl ⟨rfl, nofun⟩
  · split at h
    · cases h
      exact .inl ⟨rfl, nofun⟩
    · split at h
      · cases h
        exact .inl ⟨rfl, nofun⟩
      · rename_i row hrow
        split at h
        · cases h
          exact .inl ⟨rfl, nofun⟩
        · split at h
          · cases h
            exact .inl ⟨rfl, nofun⟩
          · split at h
            · cases h
              exact .inl ⟨rfl, nofun⟩
            · obtain ⟨assets, hassets, hanswer⟩ := map_ok h
              cases hanswer
              exact .inr ⟨_, row, hrow, hassets, rfl⟩

theorem createUpload_cases {apiKeyId assetId uploadId url filename contentType : String}
    {ttlSec : Nat} {now : Time} {answer : RouteAnswer UploadRow}
    (h : createUpload db apiKeyId assetId uploadId url filename contentType ttlSec now = .ok (answer, db')) :
    db' = db ∨ db.assets.lookup assetId = none ∧ ∃ row : MediaAsset, row.sourceUrl = none ∧
      db'.assets = db.assets.insert assetId row := by
  unfold createUpload at h
  split at h
  · cases h
    exact .inl rfl
  · simp only [ok_bind_iff, failWhen_ok_iff, Option.not_isSome_iff_eq_none] at h
    obtain ⟨-, hasset, -, -, hanswer⟩ := h
    cases hanswer
    exact .inr ⟨hasset, _, rfl, rfl⟩

/-- No statement gives an asset a source: it keeps what it had, or it is new and has none. -/
theorem MediaStep.sourceOf (h : MediaStep S db db') (id : String) :
    Gateway.sourceOf db'.assets id = Gateway.sourceOf db.assets id ∨
      Gateway.sourceOf db.assets id = none ∧ Gateway.sourceOf db'.assets id = some none := by
  cases h with
  | @created _ _ assetId _ _ _ _ _ _ _ h =>
    rcases createUpload_cases h with rfl | ⟨hnone, row, hsource, hassets⟩
    · exact .inl rfl
    · rw [hassets]
      unfold Gateway.sourceOf
      by_cases hid : id = assetId
      · rw [hid, hnone, AList.lookup_insert]
        exact .inr ⟨rfl, congrArg some hsource⟩
      · rw [AList.lookup_insert_ne hid]
        exact .inl rfl
  | completed h =>
    rcases completeUpload_cases h with rfl | ⟨upload, hupload⟩
    · exact .inl rfl
    · exact .inl (sourceOf_sourceAsset hupload id)
  | submitted h =>
    rcases submitVod_cases h with ⟨rfl, -⟩ | ⟨fields, row, -, hupdate, -⟩
    · exact .inl rfl
    · exact .inl (sourceOf_updateStatus hupdate id)
  | updated h => exact .inl (sourceOf_updateStatus h id)
  | deleted id' now =>
    exact .inl (sourceOf_updateAsset _ id' id fun row => (rfl : (row.softDelete now).sourceUrl = row.sourceUrl))
  | becameReady id' now =>
    exact .inl (sourceOf_updateAsset _ id' id fun row => (rfl : (row.becomeReady now).sourceUrl = row.sourceUrl))
  | swept uploads => exact .inl rfl

theorem sourceOf_run {id : String} (h : Relation.ReflTransGen (MediaStep S) db db')
    {source : Option String} (hsource : sourceOf db.assets id = some source) :
    sourceOf db'.assets id = some source := by
  induction h with
  | refl => exact hsource
  | tail _ hstep ih =>
    rcases hstep.sourceOf id with hsame | ⟨hnew, -⟩
    · exact hsame.trans ih
    · rw [hnew] at ih
      cases ih

/-- An update does what it is to do exactly when the fields it has no column for change nothing.
So a completed upload leaves its asset the source it had, and a later submission finds a
source exactly when there was one before the upload was completed. -/
theorem asset_update_overwrites (S : AssetColumns) :
    (∀ assets id status fields assets' row, updateStatus S assets id status fields = .ok assets' →
      assets.lookup id = some row →
      (assets'.lookup id = some (row.overwritten S status fields) ↔ row.Has fields) ∧
      ∀ other, other ≠ id → assets'.lookup other = assets.lookup other) ∧
    ∀ db apiKeyId uploadId now reply db' upload assetId row,
      completeUpload S db apiKeyId uploadId now = .ok (.answered reply, db') →
      db.uploads.lookup uploadId = some upload → truthy upload.assetId = some assetId →
      db.assets.lookup assetId = some row →
      (∃ row', db'.assets.lookup assetId = some row' ∧
        (row'.sourceUrl = some upload.storageKey ↔ row.sourceUrl = some upload.storageKey)) ∧
      ∀ db₁ configured key tier route asset db₂, Relation.ReflTransGen (MediaStep S) db' db₁ →
        submitVod S db₁ configured key assetId tier route = .ok (.answered asset, db₂) →
        ((truthy asset.sourceUrl).isSome ↔ (truthy row.sourceUrl).isSome) := by
  refine ⟨?_, ?_⟩
  · intro assets id status fields assets' row h hrow
    obtain ⟨change, hchange, hlookup, hother⟩ := lookup_updateStatus h
    refine ⟨?_, hother⟩
    rw [hlookup, hrow, Option.map_some, Option.some.injEq]
    exact assetChange_write hchange status row
  · intro db apiKeyId uploadId now reply db' upload assetId row h hupload hasset hrow
    have hbefore : sourceOf db.assets assetId = some row.sourceUrl := by rw [sourceOf, hrow, Option.map_some]
    have hafter := sourceOf_run (.single (MediaStep.completed h)) hbefore
    refine ⟨?_, ?_⟩
    · obtain ⟨row', hrow', hsource⟩ := Option.map_eq_some_iff.mp hafter
      exact ⟨row', hrow', by rw [hsource]⟩
    · intro db₁ configured key tier route asset db₂ hrun hsubmit
      have hthen := sourceOf_run hrun hafter
      rcases submitVod_cases hsubmit with ⟨-, hrefused⟩ | ⟨fields, row₁, hrow₁, -, hanswer⟩
      · exact absurd rfl (hrefused asset)
      · cases hanswer
        rw [sourceOf, hrow₁, Option.map_some, Option.some.injEq] at hthen
        rw [← hthen]
        exact Iff.rfl

end

/-! ## An upload that is completed -/

/-- The columns of the server for finite numbers; numbers out of range are refused. -/
def assetColumns : AssetColumns where
  duration x := x.value.bind fun q => if |q| < 10 ^ 9 then some ⌊q * 1000 + 1 / 2⌋ else none
  frameRate x := x.value.bind fun q => if |q| < 10 ^ 3 then some ⌊q * 1000 + 1 / 2⌋ else none
  integer q := if q.den = 1 ∧ |q.num| < 2 ^ 31 then some q.num else none
  jsonb := id

def sourcedAsset : MediaAsset where
  apiKeyId := "key"
  status := .preparing
  sourceType := .upload
  selectedOffering := none
  sourceUrl := some "sources/asset_1/clip.mp4"
  durationSec := none
  width := none
  height := none
  frameRate := none
  audioCodec := none
  videoCodec := none
  encodingTier := .standard
  ffprobeJson := none
  errorMessage := none
  createdAt := 0
  readyAt := none
  deletedAt := none

def sourcedMedia : Media where
  assets := (∅ : Table MediaAsset).insert "asset_1" sourcedAsset
  uploads := (∅ : Table UploadRow).insert "upl_1"
    ⟨"key", some "asset_1", .uploading, "https://s3.example/put", "sources/asset_1/clip.mp4", 3600000, 0, none⟩

/-- An asset that already has the key of its upload keeps it. -/
theorem asset_update_overwrites_sourced : ∃ assets reply db' row',
    updateStatus assetColumns sourcedMedia.assets "asset_1" .preparing
      { sourceUrl := some "sources/asset_1/clip.mp4" } = .ok assets ∧
    assets.lookup "asset_1" = some (sourcedAsset.overwritten assetColumns .preparing
      { sourceUrl := some "sources/asset_1/clip.mp4" }) ∧
    completeUpload assetColumns sourcedMedia "key" "upl_1" 1 = .ok (.answered reply, db') ∧
    db'.assets.lookup "asset_1" = some row' ∧ row'.sourceUrl = some "sources/asset_1/clip.mp4" := by
  obtain ⟨hupdates, huploads⟩ := asset_update_overwrites assetColumns
  have hhas : sourcedAsset.Has { sourceUrl := some "sources/asset_1/clip.mp4" } :=
    ⟨nofun, nofun, nofun, by rintro _ ⟨⟩; rfl, nofun, nofun, nofun⟩
  have hlookup : sourcedMedia.assets.lookup "asset_1" = some sourcedAsset := rfl
  obtain ⟨⟨row', hrow', hsource⟩, -⟩ := huploads sourcedMedia "key" "upl_1" 1 _ _ _ "asset_1" sourcedAsset
    rfl rfl rfl hlookup
  exact ⟨_, _, _, row', rfl, ((hupdates _ "asset_1" .preparing _ _ _ rfl hlookup).1.mpr hhas), rfl, hrow',
    hsource.mpr rfl⟩

/-- The upload is completed and its asset has no source. -/
theorem completed_upload_without_source : ∃ upload db reply db' row,
    createUpload ⟨∅, ∅⟩ "key" "asset_1" "upl_1" "https://s3.example/put" "clip.mp4" "video/mp4" 3600 0 =
      .ok (.answered upload, db) ∧
    completeUpload assetColumns db "key" "upl_1" 1 = .ok (.answered reply, db') ∧ reply.status = .completed ∧
    db'.assets.lookup "asset_1" = some row ∧ row.sourceUrl ≠ some upload.storageKey ∧ row.sourceUrl = none := by
  refine ⟨_, _, _, _, _, rfl, rfl, rfl, rfl, ?_, rfl⟩
  nofun

end LivepeerTranscode.Gateway
