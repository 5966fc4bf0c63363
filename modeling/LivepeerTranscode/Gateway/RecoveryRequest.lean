import LivepeerTranscode.Gateway.JobReplay
import LivepeerTranscode.Gateway.VodFunding

/-!
# Recovery sends another request

The request of a run and the request of the recovery that takes its intent up, compared
field by field through what was persisted.
-/

namespace LivepeerTranscode.Gateway
open Binary64 Checked History Interaction JsonText NodeText
set_option autoImplicit false

section
variable {P : Platform}

/-! ## The two requests -/

theorem required_ok {α : Type} {empty : α → Bool} {e : Failure} {value : Option α} {a : α}
    (h : required empty e value = .ok a) : value = some a := by
  unfold required at h
  split at h
  · split at h
    · cases h
    · cases h
      rfl
  · cases h

theorem routeBindingFor_ok {route : SelectedWorkerRoute} {binding : LocRouteBinding}
    (h : routeBindingFor route = .ok binding) : ∃ constraint fingerprint,
      route.quoteId = some binding.quoteId ∧ route.quoteVersion = some binding.quoteVersion ∧
      route.constraintFingerprint = some constraint ∧
      binding.constraintFingerprint = hexFingerprint constraint ∧
      route.routeFingerprint = some fingerprint ∧ binding.routeFingerprint = hexFingerprint fingerprint ∧
      route.settlementDomainId = some binding.settlementDomainId ∧ binding.wellFormed = true := by
  simp only [routeBindingFor, bindingToWire, ok_bind_iff, failWhen_ok_iff, pure, Except.pure,
    Except.ok.injEq, Bool.not_eq_false] at h
  obtain ⟨_, hid, _, hversion, constraint, hconstraint, fingerprint, hroute, _, hdomain, _, hformed,
    rfl⟩ := h
  exact ⟨constraint, fingerprint, required_ok hid, required_ok hversion, required_ok hconstraint, rfl,
    required_ok hroute, rfl, required_ok hdomain, hformed⟩

theorem binding_replayed {route again : SelectedWorkerRoute} {given : PaidRouteSnapshot}
    {operation : PaidOperation} {binding binding' : LocRouteBinding}
    (hgiven : paidRoute route = .ok given) (hstored : SameBinding operation.route given)
    (hagain : routeFrom operation = .ok again) (hbinding : routeBindingFor route = .ok binding)
    (hbinding' : routeBindingFor again = .ok binding') :
    binding' = binding ∧ again.capability = route.capability ∧ again.offering = route.offering := by
  obtain ⟨c, f, hid, hversion, hc, hbc, hf, hbf, hdomain, -⟩ := routeBindingFor_ok hbinding
  obtain ⟨c', f', hid', hversion', hc', hbc', hf', hbf', hdomain', -⟩ := routeBindingFor_ok hbinding'
  simp only [paidRoute, ok_bind_iff] at hgiven
  obtain ⟨_, gid, _, gversion, _, gc, _, gf, _, -, _, gdomain, hgiven⟩ := hgiven
  cases hid.symm.trans (required_ok gid)
  cases hversion.symm.trans (required_ok gversion)
  cases hc.symm.trans (required_ok gc)
  cases hf.symm.trans (required_ok gf)
  cases hdomain.symm.trans (required_ok gdomain)
  split at hgiven
  · cases hgiven
  cases hgiven
  obtain ⟨scap, soff, sid, sversion, sc, sf, sdomain⟩ := hstored
  simp only [routeFrom, sdomain, ok_bind_iff, pure, Except.pure, Except.ok.injEq] at hagain
  obtain ⟨_, -, _, -, _, rfl, rfl⟩ := hagain
  refine ⟨?_, scap, soff⟩
  simp only [sid, sversion, sc, sf, hexBytes_hexText, Option.some.injEq] at hid' hversion' hc' hf' hdomain'
  subst hc' hf'
  cases binding
  cases binding'
  simp only at hid' hversion' hbc hbf hbc' hbf' hdomain'
  simp only [LocRouteBinding.mk.injEq]
  exact ⟨hid'.symm, hversion'.symm, hbc'.trans hbc.symm, hbf'.trans hbf.symm, hdomain'.symm⟩

theorem uint_toString {n units : Nat} (h : uint (toString n) = .ok units) : units = n := by
  unfold uint safeDecimal at h
  rw [decimal_toString] at h
  split at h
  · rename_i m hm
    cases h
    obtain ⟨hfilter, -⟩ := Option.filter_eq_some_iff.mp hm
    obtain ⟨hsome, -⟩ := Option.filter_eq_some_iff.mp hfilter
    exact (Option.some.inj hsome).symm
  · cases h

/-- The amounts of a `NUMERIC(78,0)` column are read as they are written. -/
def Postgres.ReadsAmounts (pg : Postgres) : Prop :=
  ∀ n : Nat, n < 10 ^ 78 → pg.numeric (toString n) = some n

theorem numericParam_toString {pg : Postgres} (hpg : pg.ReadsAmounts) {maximum : ℤ} {units : Nat}
    (hpos : 0 ≤ maximum) (hsafe : maximum ≤ maxSafeInteger)
    (h : numericParam pg (toString maximum) = .ok units) : maximum = units := by
  obtain ⟨n, rfl⟩ := Int.eq_ofNat_of_zero_le hpos
  have hbound : n < 10 ^ 78 := by
    unfold maxSafeInteger at hsafe
    omega
  have htext : toString (n : ℤ) = toString n := rfl
  rw [htext, numericParam, hpg n hbound] at h
  cases h
  rfl

def MadeByVod (P : Platform) (call : RepoCall) : Prop :=
  (∃ deps asset route h k, Reaches (runPaidAbrAsset P deps asset route).run h (.call (.repo call) k)) ∨
  ∃ deps now limit h k, Reaches (recoverPaidAbrOperations P deps now limit).run h (.call (.repo call) k)

theorem MadeByVod.keepsIntent {call : RepoCall} (h : MadeByVod P call) (id : String) :
    call.keepsIntent id := by
  rcases h with ⟨deps, asset, route, h, k, hreach⟩ | ⟨deps, now, limit, h, k, hreach⟩
  · have hstatement : VodStatement (fun _ _ => True) h call :=
      (runPaidAbrAsset_keeps fun _ _ => True).allowed hreach
    exact hstatement.keepsIntent id
  · have hstatement : VodStatement (fun _ _ => True) h call :=
      (recoverPaidAbrOperations_keeps (fun _ _ => True) trivial).allowed hreach
    exact hstatement.keepsIntent id

theorem keepsIntent_of_token {call : RepoCall} {id : String}
    (h : ∀ claim, call.token = some (id, claim) → MadeByVod P call) : call.keepsIntent id := by
  cases call with
  | recordProgress target claim value =>
    intro htarget
    subst htarget
    exact (h claim rfl).keepsIntent target rfl
  | putSecrets target claim value =>
    intro htarget
    subst htarget
    exact (h claim rfl).keepsIntent target rfl
  | _ => trivial

theorem Replayed.of_persisted {value : NewPaidOperation} {secrets : PaidOperationSecrets}
    {operation : PaidOperation} {original sent : LocOpenJobInput} {units : Nat}
    (hrun : Persisted P value secrets original) (hrecovery : Replayed P operation secrets sent)
    (hroute : SameBinding operation.route value.route)
    (hsha : operation.requestContentSha256 = value.requestContentSha256)
    (hfunded : operation.fundedUnits = toString units)
    (hunits : ∀ maximum : ℤ, 0 ≤ maximum → maximum ≤ maxSafeInteger →
      value.fundedUnits = toString maximum → maximum = units) :
    sent = { original with estimatedUnits := sent.estimatedUnits } ∧
      original.estimatedUnits < sent.estimatedUnits ∧
      original.maxTotalUnits = some sent.estimatedUnits := by
  obtain ⟨route, hgiven, hbinding, hcapability, hoffering⟩ := hrun.route
  obtain ⟨again, hagain, hbinding', hcapability', hoffering'⟩ := hrecovery.route
  obtain ⟨hsame, hcap, hoff⟩ := binding_replayed hgiven hroute hagain hbinding hbinding'
  obtain ⟨estimated, maximum, hone, hlt, hsafe, hestimated, hmaximum, htext⟩ := hrun.units
  obtain ⟨funded, huint, hsent, hmost⟩ := hrecovery.units
  rw [hfunded] at huint
  have hfundedUnits : maximum = units := hunits maximum (by omega) hsafe htext
  have hread : funded = units := uint_toString huint
  have hcast : (maximum : ℚ) = (funded : ℚ) := by
    rw [hfundedUnits, hread]
    rfl
  have hkey : sent.requestId = original.requestId := by
    have hfound := hrecovery.requestId
    rw [hrun.requestId] at hfound
    have hobject : objectString (some (.obj [("idempotency_key", .str original.requestId)]))
        "idempotency_key" = some original.requestId := by
      simp [objectString, property, requiredWireText, hrun.named]
    exact (Option.some.inj (hobject.symm.trans hfound)).symm
  refine ⟨?_, ?_, ?_⟩
  · have hdigest := hrecovery.digest.trans (hsha.trans hrun.digest.symm)
    have hcaller := hrecovery.callerPublicKey.trans hrun.callerPublicKey.symm
    have htransport := hrecovery.transport.trans hrun.transport.symm
    have hmax : sent.maxTotalUnits = original.maxTotalUnits := by rw [hmost, hmaximum, hcast]
    have hcap' := hcapability'.trans (hcap.trans hcapability.symm)
    have hoff' := hoffering'.trans (hoff.trans hoffering.symm)
    cases sent
    cases original
    simp only at hdigest hcaller htransport hmax hcap' hoff' hkey hsame
    simp only [LocOpenJobInput.mk.injEq]
    exact ⟨hkey, hcap', hoff', htransport, trivial, hmax, hsame, hdigest, hcaller⟩
  · rw [hestimated, hsent, ← hcast]
    exact_mod_cast hlt
  · rw [hmaximum, hsent, hcast]

/-- The tables answered every statement of a history at some moment of a run of statements. -/
def AnsweredBy (pg : Postgres) (cipher : OperationSecretCipher)
    (moments : List (Moment Database (Execution × RepoCall))) (h : List GatewayEvent) : Prop :=
  ∀ call answer, (⟨.repo call, answer⟩ : GatewayEvent) ∈ h →
    ∃ m ∈ moments, m.input.2 = call ∧ (call.run pg cipher m.input.1 m.before).1 = answer

/-- Some statement of a run of statements claimed this operation for recovery. -/
def ClaimedBy (pg : Postgres) (cipher : OperationSecretCipher)
    (moments : List (Moment Database (Execution × RepoCall))) (operation : PaidOperation) : Prop :=
  ∃ m ∈ moments, ∃ kind owner now lease limit operations,
    m.input.2 = .claimRecoverable kind owner now lease limit ∧
    (RepoCall.run pg cipher m.input.1 m.before (.claimRecoverable kind owner now lease limit)).1 =
      .ok operations ∧ operation ∈ operations

/-- Whatever run persisted an intent, whatever statements came after it and wherever the run
stopped: a recovery that opens the job again sends another request under the same key. -/
theorem recovery_request_differs {P : Platform} {deps : PaidAbrOrchestratorDeps} {asset : Asset}
    {route : SelectedWorkerRoute} {h : List GatewayEvent} {original : LocOpenJobInput}
    {k : Except Failure LocOpenJobResult → Prog Call Call.Answer (Except Failure Unit)}
    (hrun : Reaches (runPaidAbrAsset P deps asset route).run h (.call (.openJob original) k))
    {value : NewPaidOperation} {secrets : PaidOperationSecrets} {owner : String} {lease : Date}
    {answer : Repo PaidOperation}
    (hinsert : ⟨.repo (.insertWithSecrets value secrets owner lease), answer⟩ ∈ h)
    {pg : Postgres} (hpg : pg.ReadsAmounts) {cipher : OperationSecretCipher} {exec : Execution}
    (hcipher : cipher.decrypt value.id (cipher.encrypt exec.entropy value.id secrets) = .ok secrets)
    {db persisted : Database} {inserted : PaidOperation}
    (hpersisted : insertWithSecrets pg cipher exec value secrets owner lease db = .ok (inserted, persisted))
    {inputs : List (Execution × RepoCall)}
    (hvod : ∀ input ∈ inputs, ∀ claim, input.2.token = some (value.id, claim) → MadeByVod P input.2)
    {operation : PaidOperation} (hid : operation.id = value.id)
    (hclaimed : ClaimedBy pg cipher (trace (Database.step pg cipher) persisted inputs) operation)
    {recovery : PaidAbrRecoveryDeps} {g : List GatewayEvent} {sent : LocOpenJobInput}
    {k' : Except Failure LocOpenJobResult → Prog Call Call.Answer (Except Failure Unit)}
    (hrecovery : Reaches (recoverOne P recovery operation).run g (.call (.openJob sent) k'))
    (hanswers : AnsweredBy pg cipher (trace (Database.step pg cipher) persisted inputs) g) :
    ∃ request request', openJobRequest original = .ok request ∧ openJobRequest sent = .ok request' ∧
      request.idempotencyKey = request'.idempotencyKey ∧ request ≠ request' ∧
      sent = { original with estimatedUnits := sent.estimatedUnits } ∧
      original.estimatedUnits < sent.estimatedUnits ∧
      original.maxTotalUnits = some sent.estimatedUnits := by
  have hopens : HasInserted h ∧ opensPersisted P h original :=
    (runPaidAbrAsset_keeps fun _ _ => True).allowed hrun
  have horiginal := hopens.2 value secrets owner lease answer hinsert
  obtain ⟨claim, found, hread, hreplayed⟩ := (recoverOne_keeps fun _ _ => True).allowed hrecovery
  obtain ⟨stored, units, hbinding, hunits, hintent⟩ := Intent.inserted hpersisted
  have hkeeps : ∀ input ∈ inputs, input.2.keepsIntent value.id := by
    intro input hinput
    exact keepsIntent_of_token (hvod input hinput)
  have hmoments : ∀ m ∈ trace (Database.step pg cipher) persisted inputs, Intent operation.id stored units
      value.requestContentSha256 (cipher.encrypt exec.entropy value.id secrets) m.before := by
    rw [hid]
    exact hintent.trace hkeeps
  obtain ⟨m, hm, kind, claimer, now, ends, limit, operations, -, hclaim, hmem⟩ := hclaimed
  obtain ⟨hroute, hfunded, hsha⟩ := (hmoments m hm).claimed hclaim hmem
  obtain ⟨m', hm', -, hsecrets⟩ := hanswers _ _ hread
  have hdecrypt : cipher.decrypt operation.id (cipher.encrypt exec.entropy value.id secrets) = .ok secrets := by
    rw [hid]
    exact hcipher
  have hfound : found = secrets := (hmoments m' hm').read hsecrets hdecrypt
  subst hfound
  obtain ⟨hsame, hlt, hmax⟩ := Replayed.of_persisted horiginal hreplayed (hroute ▸ hbinding) hsha hfunded
    (by
      intro maximum hpos hsafe htext
      rw [htext] at hunits
      exact numericParam_toString hpg hpos hsafe hunits)
  obtain ⟨_, -, hformed, -, -⟩ := horiginal.route
  obtain ⟨_, _, -, -, -, -, -, -, -, hwellFormed⟩ := routeBindingFor_ok hformed
  obtain ⟨_, -, hformed', -, -⟩ := hreplayed.route
  obtain ⟨_, _, -, -, -, -, -, -, -, hwellFormed'⟩ := routeBindingFor_ok hformed'
  refine ⟨_, _, openJobRequest_valid horiginal.valid hwellFormed,
    openJobRequest_valid hreplayed.valid hwellFormed', ?_, ?_, hsame, hlt, hmax⟩
  · rw [hsame]
    rfl
  · intro hequal
    exact absurd (estimatedUnits_of_openJobWire hequal) hlt.ne

/-! ## A run and its recovery -/

/-- The destinations when storage signs each upload as given. -/
def destinationsBy (upload : UploadRequest → SignedUpload) (assetId name codec : String) : AbrDestinations :=
  ⟨artifactOf (upload ⟨assetId, "rendition", some name, some codec, "playlist.m3u8", manifestType, 86400⟩),
    artifactOf (upload ⟨assetId, "rendition", some name, some codec, "stream.mp4", "video/mp4", 86400⟩)⟩

def outputsBy (upload : UploadRequest → SignedUpload) (assetId : String) (specs : List RenditionSpec)
    (outputs : JsObject AbrDestinations) : JsObject AbrDestinations :=
  specs.foldl (fun outputs spec => outputs.set (js spec.resolution.text)
    (destinationsBy upload assetId spec.resolution.text "h264")) outputs

/-- The rows of a ladder, for the random bytes of each rendition. -/
def rowsBy (bytes : RenditionSpec → List UInt8) (specs : List RenditionSpec) : List (String × String) :=
  specs.map fun spec => (spec.resolution.text, "rend_" ++ hexText (bytes spec))

/-- What a run is given, and what the calls it makes answer. -/
structure Answers where
  asset : Asset
  route : SelectedWorkerRoute
  source : String
  probe : ProbeResult
  funding : AbrFundingEstimate
  upload : UploadRequest → SignedUpload
  keyBytes : List UInt8
  encoded : EncodedAbrRequest
  operationId : String
  now : Time
  stored : PaidRouteSnapshot
  binding : LocRouteBinding
  inserted : PaidOperation

namespace Answers

def manifest (a : Answers) : SignedUpload :=
  a.upload ⟨a.asset.id, "manifest", none, none, "master.m3u8", manifestType, 86400⟩

def outputs (a : Answers) : JsObject AbrDestinations :=
  outputsBy a.upload a.asset.id (presets a.asset.encodingTier).renditions JsObject.empty

def requestId (a : Answers) : String := "req_" ++ hexText a.keyBytes

def operation (a : Answers) : NewPaidOperation :=
  newAbrOperation a.operationId a.asset a.requestId a.encoded.sha256 a.stored a.funding

def secrets (a : Answers) : PaidOperationSecrets := abrSecrets a.requestId a.encoded.json

def openInput (P : Platform) (a : Answers) : LocOpenJobInput :=
  { requestId := a.requestId
    capability := a.route.capability
    offering := a.route.offering
    transport := .stream
    estimatedUnits := a.funding.estimatedUnits
    maxTotalUnits := some a.funding.maxTotalUnits
    routeBinding := a.binding
    workloadRequestDigest := P.sha256Hex a.encoded.body
    callerPublicKey := P.callerPublicKey }

end Answers

def Answers.insertion (a : Answers) (deps : PaidAbrOrchestratorDeps) : GatewayEvent :=
  ⟨.repo (.insertWithSecrets a.operation a.secrets deps.owner (some (a.now + deps.recoveryLeaseMs))),
    .ok a.inserted⟩

/-- What recovery reads of an operation, and what the calls it makes answer. -/
structure Retaken where
  operation : PaidOperation
  assetId : String
  owner : String
  lease : Time
  secrets : PaidOperationSecrets
  openIntent : JsonValue
  requestId : String
  encoded : EncodedAbrRequest
  request : AbrExchangeRequest
  asset : Asset
  seconds : ℚ
  route : SelectedWorkerRoute
  units : Nat
  binding : LocRouteBinding

namespace Retaken

def claim (r : Retaken) : PaidOperationClaim := ⟨r.owner, r.operation.lifecycleVersion, some r.lease⟩

/-- The calls of a recovery up to the one that opens the job. -/
def calls (r : Retaken) : List GatewayEvent :=
  [⟨.repo (.readSecrets r.operation.id r.claim), .ok (some r.secrets)⟩,
    ⟨.assetById r.assetId, .ok (some r.asset)⟩, ⟨.renditionsByAsset r.asset.id, .ok []⟩,
    ⟨.encodingJobsByAsset r.asset.id, .ok [⟨"job", "encode", "running"⟩]⟩]

def openInput (P : Platform) (r : Retaken) : LocOpenJobInput :=
  { requestId := r.requestId
    capability := r.route.capability
    offering := r.route.offering
    transport := .stream
    estimatedUnits := r.units
    maxTotalUnits := some r.units
    routeBinding := r.binding
    workloadRequestDigest := P.sha256Hex r.encoded.body
    callerPublicKey := P.callerPublicKey }

end Retaken

end

/-! ## A second of video -/

def vodProbe : ProbeResult := ⟨oneSecond, 1280, 720, oneSecond, "aac", "h264", .obj []⟩

def vodAsset : Asset := ⟨"a1", "key", some "https://s/a1", some 1, .baseline⟩

def vodRoute : SelectedWorkerRoute where
  workerUrl := "https://broker.example"
  ethAddress := "0x00000000000000000000000000000000000000aa"
  capability := "video:transcode.abr"
  offering := "default"
  pricePerWorkUnitWei := "1000"
  workUnit := abrWorkUnit
  protocol := .paidJobV1
  transports := some [.stream]
  workUnitEstimator := some ⟨abrEstimatorId, abrEstimatorRounding, abrEstimatorExactness, none, none⟩
  settlementKeys := [⟨"0x03", "", "", "0"⟩]
  settlementDomainId := some "0x1111111111111111111111111111111111111111111111111111111111111111"
  unitsPerPrice := some "1"
  quoteId := some "quote-1"
  quoteVersion := some "1"
  constraintFingerprint := some (List.replicate 32 1)
  routeFingerprint := some (List.replicate 32 2)

def vodUpload (request : UploadRequest) : SignedUpload :=
  let key := request.assetId ++ "/" ++ request.resolution.elim "" (fun name => name ++ "/") ++ request.filename
  ⟨"https://s/" ++ key, key⟩

/-- The digest is the SHA-256 of the one body that is hashed. -/
def vodPlatform : Platform where
  utf8Text _ := []
  parse _ := none
  base64Bytes _ := []
  url := some
  sha256Hex _ := "7b9f6e315701361a2cee43ac3498ab520a573fd543189a537b303ba655e6eed9"
  callerPublicKey := "0x02"
  signAuthorization _ := none
  pollAttempts := 1
  pollDelayMs := 0

def vodRequest : AbrExchangeRequest :=
  abrRequest vodAsset "https://s/a1"
    (vodUpload ⟨"a1", "manifest", none, none, "master.m3u8", manifestType, 86400⟩)
    (outputsBy vodUpload "a1" (presets .baseline).renditions JsObject.empty)

def vodParsed : ParsedAbrRequest :=
  { schema := vodRequest.schema, workloadId := vodRequest.workloadId, downloadUrl := vodRequest.downloadUrl
    contentSha256 := none, preset := vodRequest.preset, manifest := vodRequest.manifest
    renditions := vodRequest.renditions.properties }

def vodEncoded : EncodedAbrRequest :=
  ⟨utf8Bytes (write jsQuote Empty.elim vodParsed.json), vodPlatform.sha256Hex [], vodParsed.json⟩

def vodStored : PaidRouteSnapshot where
  protocol := .paidJobV1
  transport := some .stream
  capability := "video:transcode.abr"
  offering := "default"
  requestDescriptor := "video-transcode-abr/v2"
  responseDescriptor := some abrResultSchema
  workUnit := abrWorkUnit
  estimator := vodRoute.workUnitEstimator.map estimatorValue
  pricePerUnitWei := "1000"
  unitsPerPrice := "1"
  quoteId := "quote-1"
  quoteVersion := "1"
  constraintFingerprint := hexText (List.replicate 32 1)
  routeFingerprint := hexText (List.replicate 32 2)
  settlementDomainId := vodRoute.settlementDomainId
  settlementKey := "0x03"
  raw := .obj [("broker_url", .str "https://broker.example"),
    ("eth_address", .str "0x00000000000000000000000000000000000000aa"), ("protocol", .str "paid-job/v1"),
    ("settlement_domain_id", .str "0x1111111111111111111111111111111111111111111111111111111111111111")]

def vodBinding : LocRouteBinding :=
  ⟨"quote-1", "1", hexText (List.replicate 32 1), hexText (List.replicate 32 2),
    "0x1111111111111111111111111111111111111111111111111111111111111111"⟩

def vodAnswers : Answers where
  asset := vodAsset
  route := vodRoute
  source := "https://s/a1"
  probe := vodProbe
  funding := ⟨2, 5, [1, 1, 1], [3, 3, 3]⟩
  upload := vodUpload
  keyBytes := [1, 2, 3, 4, 5, 6, 7, 8]
  encoded := vodEncoded
  operationId := "op-1"
  now := 0
  stored := vodStored
  binding := vodBinding
  inserted := rowToOperation "op-1" sampleOperation

def vodCipher : OperationSecretCipher where
  encrypt _ _ _ := ⟨"key-1", [1], [2], [3], [4], [5], [6]⟩
  decrypt id _ := if id = "op-1" then .ok vodAnswers.secrets else .error "operation secret is invalid"

def vodDatabase : Database :=
  { sampleDatabase with operations := ∅, assets := AList.singleton "a1" ⟨"preparing", none⟩ }

def vodExecution (now : Time) : Execution := ⟨now, ["op-1"], [], .answered⟩

def vodRow : OperationRow := newRow vodAnswers.operation (some ("gateway-a", some 1000)) vodStored 5 0

def vodPersisted : Database :=
  { vodDatabase with operations := AList.singleton "op-1" vodRow }.putSecretRow "op-1"
    (vodCipher.encrypt [] "op-1" vodAnswers.secrets) 0

theorem vod_persists : insertWithSecrets plainPostgres vodCipher (vodExecution 0) vodAnswers.operation
    vodAnswers.secrets "gateway-a" (some 1000) vodDatabase =
      .ok (rowToOperation "op-1" vodRow, vodPersisted) := by
  rfl

def vodOperation : PaidOperation := rowToOperation "op-1" (vodRow.claim "gateway-b" (some 3000) 2000)

def vodRetaken : Retaken where
  operation := vodOperation
  assetId := "a1"
  owner := "gateway-b"
  lease := 3000
  secrets := vodAnswers.secrets
  openIntent := documentValue vodEncoded.json
  requestId := vodAnswers.requestId
  encoded := vodEncoded
  request := vodRequest
  asset := vodAsset
  seconds := 1
  route := { vodRoute with settlementKeys := [⟨"0x03", "", "", "0"⟩] }
  units := 5
  binding := vodBinding

def vodInputs : List (Execution × RepoCall) :=
  [(vodExecution 2000, .claimRecoverable .job "gateway-b" 2000 (some 3000) 10),
    (vodExecution 2001, .readSecrets "op-1" vodRetaken.claim)]

def vodMoments : List (Moment Database (Execution × RepoCall)) :=
  trace (Database.step plainPostgres vodCipher) vodPersisted vodInputs

theorem vod_claims : ClaimedBy plainPostgres vodCipher vodMoments vodOperation :=
  ⟨_, List.mem_cons_self, .job, "gateway-b", 2000, some 3000, 10, [vodOperation], rfl, rfl,
    List.mem_singleton_self _⟩

theorem vod_answers : AnsweredBy plainPostgres vodCipher vodMoments vodRetaken.calls := by
  intro call answer hmem
  have hread : (⟨.repo call, answer⟩ : GatewayEvent) =
      ⟨.repo (.readSecrets vodRetaken.operation.id vodRetaken.claim), .ok (some vodRetaken.secrets)⟩ := by
    simpa [Retaken.calls] using hmem
  cases hread
  exact ⟨_, List.mem_cons_of_mem _ List.mem_cons_self, rfl, rfl⟩

def vodDeps : PaidAbrOrchestratorDeps := ⟨"gateway-a", 1000⟩

def vodRecovery : PaidAbrRecoveryDeps := ⟨"gateway-b", 1000, 1000⟩

def vodReply : (e : Call) → e.Answer
  | .repo (.insertWithSecrets ..) => .ok vodAnswers.inserted
  | .repo (.claimRecoverable ..) => .ok [vodOperation]
  | .repo (.readSecrets ..) => .ok (some vodAnswers.secrets)
  | .putSignedUploadUrl request => .ok (vodUpload request)
  | .probe _ => .ok vodProbe
  | .updateAssetStatus .. => .ok ()
  | .assetById _ => .ok (some vodAsset)
  | .insertRendition value => .ok ⟨value.id, value.spec.resolution⟩
  | .renditionsByAsset _ => .ok []
  | .insertEncodingJob value => .ok ⟨value.id, value.kind, value.status⟩
  | .encodingJobsByAsset _ => .ok [⟨"job", "encode", "running"⟩]
  | .randomBytes _ => vodAnswers.keyBytes
  | .randomUUID => vodAnswers.operationId
  | e => noReply e

section
set_option maxRecDepth 100000

theorem vod_opens : ∃ h k, Reaches (runPaidAbrAsset vodPlatform vodDeps vodAsset vodRoute).run h
    (.call (.openJob (vodAnswers.openInput vodPlatform)) k) ∧ vodAnswers.insertion vodDeps ∈ h := by
  obtain ⟨k, hopens⟩ := reaches_before vodReply (runPaidAbrAsset vodPlatform vodDeps vodAsset vodRoute).run 21
    [vodAnswers.insertion vodDeps] ⟨.openJob (vodAnswers.openInput vodPlatform), .error (.error "unavailable")⟩
    ⟨_, by with_unfolding_all rfl⟩
  exact ⟨_, k, hopens, List.mem_append_right _ List.mem_cons_self⟩

theorem vod_reopens : ∃ k, Reaches (recoverOne vodPlatform vodRecovery vodOperation).run vodRetaken.calls
    (.call (.openJob (vodRetaken.openInput vodPlatform)) k) :=
  reaches_before vodReply _ 0 vodRetaken.calls
    ⟨.openJob (vodRetaken.openInput vodPlatform), .error (.error "unavailable")⟩ ⟨_, by with_unfolding_all rfl⟩

theorem vod_recovery_reads : MadeByVod vodPlatform (.readSecrets "op-1" vodRetaken.claim) := by
  obtain ⟨k, hreads⟩ := reaches_before vodReply (recoverPaidAbrOperations vodPlatform vodRecovery 2000 10).run 1 []
    ⟨.repo (.readSecrets "op-1" vodRetaken.claim), .ok (some vodAnswers.secrets)⟩ ⟨_, by with_unfolding_all rfl⟩
  exact Or.inr ⟨_, _, _, _, k, hreads⟩

end

theorem plainPostgres_readsAmounts : plainPostgres.ReadsAmounts := by
  intro n hn
  change (decimal (toString n)).filter (· < 10 ^ 78) = some n
  rw [decimal_toString, Option.filter_some, if_pos (decide_eq_true hn)]

theorem recovery_request_differs_sample : ∃ request request',
    openJobRequest (vodAnswers.openInput vodPlatform) = .ok request ∧
      openJobRequest (vodRetaken.openInput vodPlatform) = .ok request' ∧
      request.idempotencyKey = request'.idempotencyKey ∧ request ≠ request' := by
  obtain ⟨h, k, hrun, hinsert⟩ := vod_opens
  obtain ⟨k', hrecovery⟩ := vod_reopens
  have hvod : ∀ input ∈ vodInputs, ∀ claim, input.2.token = some (vodAnswers.operation.id, claim) →
      MadeByVod vodPlatform input.2 := by
    intro input hinput claim htoken
    rcases List.mem_cons.mp hinput with rfl | hlast
    · cases htoken
    · rw [List.mem_singleton.mp hlast]
      exact vod_recovery_reads
  obtain ⟨request, request', hok, hok', hkey, hne, -⟩ := recovery_request_differs hrun hinsert
    plainPostgres_readsAmounts rfl vod_persists hvod rfl vod_claims hrecovery vod_answers
  exact ⟨request, request', hok, hok', hkey, hne⟩

/-- The run that stored five units asked for two; its recovery asks for five. -/
theorem recovery_asks_for_maximum : ∃ h g k k',
    Reaches (runPaidAbrAsset vodPlatform vodDeps vodAsset vodRoute).run h
      (.call (.openJob (vodAnswers.openInput vodPlatform)) k) ∧
    ⟨.repo (.insertWithSecrets vodAnswers.operation vodAnswers.secrets "gateway-a" (some 1000)),
      .ok vodAnswers.inserted⟩ ∈ h ∧
    insertWithSecrets plainPostgres vodCipher (vodExecution 0) vodAnswers.operation vodAnswers.secrets
      "gateway-a" (some 1000) vodDatabase = .ok (rowToOperation "op-1" vodRow, vodPersisted) ∧
    ClaimedBy plainPostgres vodCipher vodMoments vodOperation ∧
    Reaches (recoverOne vodPlatform vodRecovery vodOperation).run g
      (.call (.openJob (vodRetaken.openInput vodPlatform)) k') ∧
    AnsweredBy plainPostgres vodCipher vodMoments g ∧
    (vodAnswers.openInput vodPlatform).requestId = (vodRetaken.openInput vodPlatform).requestId ∧
    (vodAnswers.openInput vodPlatform).estimatedUnits = 2 ∧
    (vodRetaken.openInput vodPlatform).estimatedUnits = 5 := by
  obtain ⟨h, k, hrun, hinsert⟩ := vod_opens
  obtain ⟨k', hrecovery⟩ := vod_reopens
  exact ⟨h, _, k, k', hrun, hinsert, vod_persists, vod_claims, hrecovery, vod_answers, rfl, rfl, rfl⟩

end LivepeerTranscode.Gateway
