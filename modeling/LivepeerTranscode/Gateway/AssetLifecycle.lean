import LivepeerTranscode.Gateway.AssetRoutes

/-!
# The lifecycle of an asset

The status of an asset is set by five kinds of statements, none of which looks at the status that
was there. So a run keeps the order of the lifecycle exactly when the statements that reach the
table keep it.
-/

namespace LivepeerTranscode.Gateway
open Actors Checked History Interaction
set_option autoImplicit false

def MediaState.statusOf (s : MediaState) (id : String) : Option AssetStatus :=
  (s.media.assets.lookup id).map MediaAsset.status

/-- What may follow a status. -/
def AssetStatus.Leads : AssetStatus → AssetStatus → Prop
  | .ready, next => next = .ready ∨ next = .deleted
  | .deleted, next => next = .deleted
  | _, _ => True

theorem AssetStatus.leads_self (status : AssetStatus) : status.Leads status := by
  cases status <;> simp [Leads]

instance : IsTrans AssetStatus AssetStatus.Leads where
  trans a b c hab hbc := by
    cases a <;> cases b <;> cases c <;> simp_all [AssetStatus.Leads]

/-- An asset that is ready stays ready or is deleted, and one that is deleted stays deleted. -/
def Advances (id : String) (s s' : MediaState) : Prop :=
  ∀ status, s.statusOf id = some status → ∃ next, s'.statusOf id = some next ∧ status.Leads next

instance (id : String) : IsTrans MediaState (Advances id) where
  trans s s' s'' h h' := by
    intro status hstatus
    obtain ⟨next, hnext, hleads⟩ := h status hstatus
    obtain ⟨last, hlast, hleads'⟩ := h' next hnext
    exact ⟨last, hlast, IsTrans.trans _ _ _ hleads hleads'⟩

/-- The status a call sets, and of which asset: the completion of an upload, a submission and
the orchestrator update it, a request deletes the asset, and a terminal makes it ready. -/
def RouteCall.sets : RouteCall → Option (String × AssetStatus)
  | .media (.updateStatus id status _) => some (id, status)
  | .media (.softDelete id _) => some (id, .deleted)
  | .service (.updateAssetStatus id text _) => (assetStatus text).map fun status => (id, status)
  | .service (.repo (.recordVodTerminal _ _ value)) => some (value.assetId, .ready)
  | _ => none

def Sets (id : String) (status : AssetStatus) (s : MediaState) (e : RouteCall) (s' : MediaState) : Prop :=
  e.sets = some (id, status) ∧ s'.statusOf id = (s.statusOf id).map fun _ => status

section
variable {S : AssetColumns} {pg : Postgres} {cipher : OperationSecretCipher} {P : Platform} {s s' : MediaState}
  {now : Time} {id : String}

inductive StatusStep (id : String) (s : MediaState) (e : RouteCall) (s' : MediaState) : Prop where
  | same : s'.statusOf id = s.statusOf id → StatusStep id s e s'
  | created : s.statusOf id = none → StatusStep id s e s'
  | set (status : AssetStatus) : Sets id status s e s' → StatusStep id s e s'

/-- The assets after a table was left alone, got a row, or had a row updated. -/
inductive AssetsStep (assets : Table MediaAsset) (sets : Option (String × AssetStatus)) : Table MediaAsset → Prop where
  | same : AssetsStep assets sets assets
  | insert {target : String} {row : MediaAsset} : assets.lookup target = none →
      AssetsStep assets sets (assets.insert target row)
  | update {target : String} {status : AssetStatus} {set : MediaAsset → MediaAsset} :
      sets = some (target, status) → (∀ row, (set row).status = status) →
      AssetsStep assets sets (updateAsset assets target set)

theorem AssetsStep.status {e : RouteCall} (h : AssetsStep s.media.assets e.sets s'.media.assets) :
    StatusStep id s e s' := by
  generalize hassets : s'.media.assets = assets at h
  cases h with
  | same => exact .same (by rw [MediaState.statusOf, hassets, MediaState.statusOf])
  | @insert target row hnone =>
    by_cases hid : id = target
    · subst hid
      exact .created (by rw [MediaState.statusOf, hnone, Option.map_none])
    · exact .same (by rw [MediaState.statusOf, hassets, AList.lookup_insert_ne hid, MediaState.statusOf])
  | @update target status set hsets hset =>
    by_cases hid : id = target
    · subst hid
      refine .set status ⟨hsets, ?_⟩
      rw [MediaState.statusOf, hassets, lookup_updateAsset, MediaState.statusOf, Option.map_map, Option.map_map]
      exact congrArg (fun f => (s.media.assets.lookup id).map f) (funext hset)
    · exact .same (by rw [MediaState.statusOf, hassets, lookup_updateAsset_ne _ hid, MediaState.statusOf])

theorem MediaCall.statement_assets {call : MediaCall} {answer : call.Answer} {db db' : Media}
    (h : call.statement S db = .ok (answer, db')) :
    AssetsStep db.assets (RouteCall.media call).sets db'.assets := by
  cases call with
  | insertAsset target row =>
    obtain ⟨assets, hassets, hresult⟩ := map_ok h
    obtain ⟨_, hnew, rfl⟩ := map_ok hassets
    cases hresult
    exact .insert (by simpa using hnew)
  | updateStatus target status fields =>
    obtain ⟨assets, hassets, hresult⟩ := map_ok h
    obtain ⟨change, -, rfl⟩ := map_ok hassets
    cases hresult
    exact .update rfl fun _ => rfl
  | softDelete target deletedAt =>
    cases h
    exact .update rfl fun _ => rfl
  | insertUpload target row =>
    obtain ⟨uploads, -, hresult⟩ := map_ok h
    cases hresult
    exact .same
  | assetById target =>
    cases h
    exact .same
  | uploadById target =>
    cases h
    exact .same
  | updateUploadStatus target status completedAt =>
    cases h
    exact .same

theorem MediaCall.run_assets (S : AssetColumns) (delivery : Delivery) (db : Media) (call : MediaCall) :
    AssetsStep db.assets (RouteCall.media call).sets (call.run S delivery db).2.assets := by
  unfold MediaCall.run
  cases hstatement : call.statement S db with
  | error e => cases delivery <;> exact .same
  | ok result =>
    cases delivery with
    | unsent => exact .same
    | answered => exact statement_assets hstatement
    | unanswered => exact statement_assets hstatement

theorem readyAsset_some {exec : Execution} {db : Database} {call : RepoCall} {target : String} {readyAt : Time}
    (h : readyAsset pg exec db call = some (target, readyAt)) :
    (RouteCall.service (.repo call)).sets = some (target, .ready) := by
  cases call with
  | recordVodTerminal operation claim value =>
    simp only [readyAsset] at h
    split at h
    · cases h
    · cases h
      rfl
    · cases h
  | _ => cases h

theorem service_assets {call : Call} {answer : call.Answer} (h : ServiceActs S pg cipher s now call answer s') :
    AssetsStep s.media.assets (RouteCall.service call).sets s'.media.assets := by
  cases h with
  | @repo call exec db _ _ _ =>
    cases hready : readyAsset pg exec db call with
    | none => exact .same
    | some ready => exact .update (readyAsset_some hready) fun _ => rfl
  | @updateAssetStatus target text probe status delivery hstatus =>
    have hassets := MediaCall.run_assets S delivery s.media (.updateStatus target status (probeFields probe))
    have hsets : (RouteCall.service (.updateAssetStatus target text probe)).sets = some (target, status) := by
      rw [RouteCall.sets, hstatus, Option.map_some]
    rw [hsets]
    exact hassets
  | assetById _ => exact .same
  | now => exact .same
  | outside _ _ _ => exact .same

theorem act_status {e : RouteCall} {answer : e.Answer} (h : (mediaWorld S pg cipher P).act s e answer s')
    (id : String) : StatusStep id s e s' := by
  have hacts : RouteActs S pg cipher s s'.clock e answer s' := h
  generalize s'.clock = now at hacts
  cases hacts with
  | media delivery => exact (MediaCall.run_assets S delivery s.media _).status
  | service hservice => exact (service_assets hservice).status
  | selectWorker _ => exact .same rfl

end

/-! ## An upload that is completed -/

abbrev MediaMoment : Type := Moment MediaState (Event RouteCall RouteCall.Answer)

def MediaState.after (s : MediaState) (call : MediaCall) : MediaState :=
  ⟨s.db, (call.run assetColumns .answered s.media).2, s.clock⟩

def answeredAt (s : MediaState) (call : MediaCall) : MediaMoment :=
  ⟨s, ⟨.media call, (call.run assetColumns .answered s.media).1⟩, s.after call⟩

def timeAt (s : MediaState) : MediaMoment := ⟨s, ⟨.service .now, s.clock⟩, s⟩

def sampleWorld : World MediaState RouteCall RouteCall.Answer :=
  mediaWorld assetColumns plainPostgres emptyCipher vodPlatform

theorem answeredAt_acts (s : MediaState) (call : MediaCall) :
    sampleWorld.act s (.media call) (call.run assetColumns .answered s.media).1 (s.after call) :=
  RouteActs.media .answered

theorem timeAt_acts (s : MediaState) : sampleWorld.act s (.service .now) s.clock s :=
  RouteActs.service .now

theorem outsideAt_acts (s : MediaState) {call : Call} (answer : call.Answer) (hout : call.outside)
    (hupdate : ∀ id text probe, call ≠ .updateAssetStatus id text probe) (hread : ∀ id, call ≠ .assetById id) :
    sampleWorld.act s (.service call) answer s :=
  RouteActs.service (.outside hout hupdate hread)

def emptyState : MediaState := ⟨sampleDatabase, ⟨∅, ∅⟩, 0⟩

def clipRequest : UploadRequest := ⟨"asset_01", "source", none, none, "clip.mp4", "video/mp4", 3600⟩

def clipUpload : SignedUpload := ⟨"https://s3.example/put", storageKey clipRequest⟩

def clipRow : UploadRow :=
  ⟨"key", some "asset_01", .waiting, clipUpload.url, clipUpload.storageKey, 3600000, 0, none⟩

def insertedState : MediaState := emptyState.after (.insertAsset "asset_01" (newUploadAsset "key" 0))

def createdState : MediaState := insertedState.after (.insertUpload "upl_01" clipRow)

def creationMoments : List MediaMoment :=
  [⟨emptyState, ⟨.service (.randomBytes 12), [1]⟩, emptyState⟩,
    ⟨emptyState, ⟨.service (.randomBytes 12), [1]⟩, emptyState⟩, timeAt emptyState,
    ⟨emptyState, ⟨.service (.putSignedUploadUrl clipRequest), .ok clipUpload⟩, emptyState⟩,
    answeredAt emptyState (.insertAsset "asset_01" (newUploadAsset "key" 0)),
    answeredAt insertedState (.insertUpload "upl_01" clipRow)]

def creationRequest : Prog RouteCall RouteCall.Answer Unit :=
  detached (postUpload "key" "clip.mp4" "video/mp4" 3600)

theorem creation_passes : Passes sampleWorld ⟨emptyState, [], []⟩ creationMoments
    ⟨createdState, (creationMoments.map Moment.input).map fun event => (0, event),
      [⟨0, creationRequest, .pure ()⟩]⟩ := by
  have hstart : Passes sampleWorld ⟨emptyState, [], []⟩ [] ⟨emptyState, [], [⟨0, creationRequest, creationRequest⟩]⟩ :=
    .start .refl (.postUpload "key" "clip.mp4" "video/mp4" 3600) (by simp) (by simp)
  have hpath : Reaches creationRequest (creationMoments.map Moment.input) (.pure ()) :=
    .step _ (.step _ (.step _ (.step _ (.step _ (.step _ (.refl _))))))
  have htraced : Traced sampleWorld emptyState creationMoments createdState :=
    .cons (outsideAt_acts _ _ trivial nofun nofun) (.cons (outsideAt_acts _ _ trivial nofun nofun)
      (.cons (timeAt_acts _) (.cons (outsideAt_acts _ _ trivial nofun nofun)
      (.cons (answeredAt_acts _ _) (.cons (answeredAt_acts _ _) (.nil _))))))
  exact hstart.runs hpath htraced

def MediaState.completed (s : MediaState) : MediaState :=
  (s.after (.updateUploadStatus "upl_01" .completed s.clock)).after
    (.updateStatus "asset_01" .preparing { sourceUrl := some clipUpload.storageKey })

def completionMoments (s : MediaState) : List MediaMoment :=
  [answeredAt s (.uploadById "upl_01"), timeAt s,
    answeredAt s (.updateUploadStatus "upl_01" .completed s.clock),
    answeredAt (s.after (.updateUploadStatus "upl_01" .completed s.clock))
      (.updateStatus "asset_01" .preparing { sourceUrl := some clipUpload.storageKey })]

theorem completion_traced (s : MediaState) : Traced sampleWorld s (completionMoments s) s.completed :=
  .cons (answeredAt_acts s _) (.cons (timeAt_acts s) (.cons (answeredAt_acts s _)
    (.cons (answeredAt_acts _ _) (.nil _))))

def completionRequest : Prog RouteCall RouteCall.Answer Unit := detached (postUploadComplete "key" "upl_01")

def deletedState : MediaState := createdState.after (.softDelete "asset_01" 0)

def deletionMoments : List MediaMoment :=
  [answeredAt createdState (.assetById "asset_01"), timeAt createdState,
    answeredAt createdState (.softDelete "asset_01" 0)]

def deletionRequest : Prog RouteCall RouteCall.Answer Unit := detached (deleteAsset "key" "asset_01")

end LivepeerTranscode.Gateway
