import LivepeerTranscode.Gateway.Intents
import LivepeerTranscode.Gateway.JobCalls
import LivepeerTranscode.Gateway.PaidAbr

/-!
# The request recovery sends

A run persists its intent and then opens the job; recovery reads the intent back and opens
the job again under the same key. Both requests are traced to what was persisted.
-/

namespace LivepeerTranscode.Gateway
open Binary64 Checked History Interaction JsonText NodeText
set_option autoImplicit false

variable {τ : Type} {asset : Asset} {encoded : EncodedAbrRequest} {outputs : JsObject AbrDestinations}
  {input : LocOpenJobInput} {expected : TerminalExpectation} {requested : List (JsString × AbrDestinations)}
  {may : List GatewayEvent → Call → Prop} {claims : List GatewayEvent → Time → Prop}
  {result : PaidJobResult AbrTerminalResult} {settled : Settled AbrTerminalResult}
  {terminal : AbrTerminalResult}

/-! ## What a run persists -/

/-- The calls a run makes before it persists its intent. -/
def Call.prepares : Call → Prop
  | .openJob _ | .repo _ => False
  | _ => True

/-- The rows and the destinations of an intent are those of its preset. -/
structure AbrIntent.Laddered (intent : AbrIntent) : Prop where
  rows : intent.rows.map Prod.fst =
    (presets intent.asset.encodingTier).renditions.map fun spec => spec.resolution.text
  outputs : intent.outputs.properties.map Prod.fst =
    (intent.rows.map Prod.fst ++
      if (presets intent.asset.encodingTier).audioOnly then ["audio-only"] else []).map js

/-- What holds of an intent however the calls before it were answered. -/
structure Prepared (P : Platform) (intent : AbrIntent) : Prop where
  ladder : intent.Laddered
  sha256 : intent.encoded.sha256 = P.sha256Hex intent.encoded.body
  funded : intent.funding.estimatedUnits < intent.funding.maxTotalUnits ∧
    intent.funding.maxTotalUnits ≤ maxSafeInteger

theorem presets_megapixel (tier : EncodingTier) : 1000000 ≤
    ((((presets tier).renditions.map fun rendition => (⟨rendition.resolution, none⟩ : AbrFundingTarget)).map
      AbrFundingTarget.resolution).map Resolution.pixels).sum := by
  cases tier <;> decide

theorem fundingOf_lt {tier : EncodingTier} {probe : ProbeResult} {estimator : Option WorkUnitEstimator}
    {funding : AbrFundingEstimate} (h : fundingOf tier probe estimator = .ok funding) :
    funding.estimatedUnits < funding.maxTotalUnits ∧ funding.maxTotalUnits ≤ maxSafeInteger :=
  estimatedUnits_lt (mapError_ok h) (presets_megapixel tier)

theorem encodeRequest_sha256 {P : Platform} {value : AbrExchangeRequest}
    (h : encodeRequest P value = .ok encoded) : encoded.sha256 = P.sha256Hex encoded.body := by
  obtain ⟨_, _, _, _, hsha⟩ := encodeAbrExchangeRequest_ok (mapError_ok h)
  exact hsha

section
variable {P : Platform}

/-- The rule of the calls before the intent is persisted. -/
def preparing (_ : List GatewayEvent) (e : Call) : Prop := e.prepares

variable {h : List GatewayEvent} {route : SelectedWorkerRoute} {claim : PaidOperationClaim}
  {operation : PaidOperation} {intent : RecoveredIntent} {deps : PaidAbrRecoveryDeps}

theorem uploadDestinations_prepares {assetId name codec : String} :
    Keeps preparing (fun _ _ => True) (uploadDestinations assetId name codec) h := by
  refine (Keeps.attempt trivial).bind ?_
  intro h playlist _
  refine (Keeps.attempt trivial).bind ?_
  intro h stream _
  exact .pure trivial

theorem hexId_prepares {size : Nat} {front : String} :
    Keeps preparing (fun _ _ => True) (hexId size front) h := by
  refine (Keeps.invoke trivial).bind ?_
  intro h bytes _
  exact .pure trivial

def withKey (keys : List JsString) (key : JsString) : List JsString :=
  if keys.contains key then keys else keys ++ [key]

theorem keys_set {α : Type} (o : JsObject α) (key : JsString) (value : α) :
    (o.set key value).properties.map Prod.fst = withKey (o.properties.map Prod.fst) key := by
  unfold JsObject.set withKey
  simp only [List.contains_iff_mem]
  split
  · exact map_fst_replaced key value o.properties
  · simp

theorem insertRenditions_prepares {assetId : String} {specs : List RenditionSpec}
    {rows : List (String × String)} :
    Keeps preparing (fun _ result =>
        result.1.map Prod.fst = rows.map Prod.fst ++ specs.map (fun spec => spec.resolution.text) ∧
        result.2.properties.map Prod.fst =
          (specs.map fun spec => js spec.resolution.text).foldl withKey (outputs.properties.map Prod.fst))
      (insertRenditions assetId specs rows outputs) h := by
  induction specs generalizing rows outputs h with
  | nil => exact .pure ⟨(List.append_nil _).symm, rfl⟩
  | cons spec rest ih =>
    refine hexId_prepares.bind ?_
    intro h id _
    refine (Keeps.attempt trivial).bind ?_
    intro h row _
    refine uploadDestinations_prepares.bind ?_
    intro h destinations _
    refine ih.weaken ?_
    rintro h result ⟨hrows, houtputs⟩
    rw [keys_set] at houtputs
    exact ⟨by simpa using hrows, houtputs⟩

theorem withAudio_prepares {assetId : String} {audioOnly : Bool} :
    Keeps preparing (fun _ result => result.properties.map Prod.fst =
        if audioOnly then withKey (outputs.properties.map Prod.fst) (js "audio-only")
        else outputs.properties.map Prod.fst)
      (withAudio assetId audioOnly outputs) h := by
  unfold withAudio
  split
  · refine uploadDestinations_prepares.bind ?_
    intro h destinations _
    exact .pure (keys_set outputs _ destinations)
  · exact .pure rfl

theorem presets_keys (tier : EncodingTier) :
    (if (presets tier).audioOnly then
        withKey (((presets tier).renditions.map fun spec => js spec.resolution.text).foldl withKey [])
          (js "audio-only")
      else ((presets tier).renditions.map fun spec => js spec.resolution.text).foldl withKey []) =
      (((presets tier).renditions.map fun spec => spec.resolution.text) ++
        if (presets tier).audioOnly then ["audio-only"] else []).map js := by
  cases tier <;> decide +kernel

theorem sourceUrlOf_prepares {source : String} :
    Keeps preparing (fun _ _ => True) (sourceUrlOf source) h := by
  unfold sourceUrlOf
  split
  · exact .pure trivial
  · exact (Keeps.attempt trivial).weaken fun _ _ _ => trivial

theorem prepareAbr_prepares :
    Keeps preparing (fun _ intent => intent.route = route ∧ Prepared P intent) (prepareAbr P asset route) h := by
  unfold prepareAbr
  split
  · exact .throw
  · refine Keeps.lift.bind ?_
    intro h _ _
    refine sourceUrlOf_prepares.bind ?_
    intro h sourceUrl _
    refine (Keeps.attempt trivial).bind ?_
    intro h probe _
    refine (Keeps.attempt trivial).bind ?_
    intro h _ _
    refine Keeps.lift.bind ?_
    intro h funding hfunding
    refine insertRenditions_prepares.bind ?_
    rintro h ⟨rows, outputs⟩ ⟨hrows, houtputs⟩
    refine withAudio_prepares.bind ?_
    intro h withSound hsound
    refine (Keeps.attempt trivial).bind ?_
    intro h manifest _
    refine hexId_prepares.bind ?_
    intro h requestId _
    refine Keeps.lift.bind ?_
    intro h encoded hencoded
    have hladder : rows.map Prod.fst =
        (presets asset.encodingTier).renditions.map fun spec => spec.resolution.text := hrows
    refine .pure ⟨rfl, ⟨hladder, ?_⟩, encodeRequest_sha256 hencoded.2, fundingOf_lt hfunding.2⟩
    rw [hladder, ← presets_keys, hsound, houtputs]
    rfl

theorem startAbr_prepares {deps : PaidAbrOrchestratorDeps} : Keeps preparing
      (fun _ start => start.leaseExpiresAt.isSome = true ∧ paidRoute start.intent.route = .ok start.stored ∧
        Prepared P start.intent)
      (startAbr P deps asset route) h := by
  refine prepareAbr_prepares.bind ?_
  rintro h intent ⟨rfl, hprepared⟩
  refine (Keeps.invoke trivial).bind ?_
  intro h operationId _
  refine hexId_prepares.bind ?_
  intro h jobId _
  refine (Keeps.invoke trivial).bind ?_
  intro h startedAt _
  refine (Keeps.attempt trivial).bind ?_
  intro h job _
  refine (Keeps.invoke trivial).bind ?_
  intro h now _
  refine Keeps.lift.bind ?_
  rintro h stored ⟨-, hstored⟩
  exact .pure ⟨rfl, hstored, hprepared⟩

/-! ## The request of a run -/

/-- The request of a run, as what it persisted determines it. -/
structure Persisted (P : Platform) (value : NewPaidOperation) (secrets : PaidOperationSecrets)
    (input : LocOpenJobInput) : Prop where
  route : ∃ route, paidRoute route = .ok value.route ∧ routeBindingFor route = .ok input.routeBinding ∧
    input.capability = route.capability ∧ input.offering = route.offering
  transport : input.transport = .stream
  valid : openUnits input.estimatedUnits input.maxTotalUnits = true
  units : ∃ estimated maximum : ℤ, 1 ≤ estimated ∧ estimated < maximum ∧ maximum ≤ maxSafeInteger ∧
    input.estimatedUnits = estimated ∧ input.maxTotalUnits = some (maximum : ℚ) ∧
    value.fundedUnits = toString maximum
  digest : input.workloadRequestDigest = value.requestContentSha256
  requestId : secrets.loc = some (.obj [("idempotency_key", .str input.requestId)])
  named : input.requestId ≠ ""
  callerPublicKey : input.callerPublicKey = P.callerPublicKey

theorem openJobInput_ok {job : PaidJobRequest τ}
    (h : openJobInput P job = .ok input) : routeBindingFor job.route = .ok input.routeBinding ∧
      input = openInputOn P job input.routeBinding := by
  simp only [openJobInput, ok_bind_iff, pure, Except.pure, Except.ok.injEq] at h
  obtain ⟨binding, hbinding, rfl⟩ := h
  exact ⟨hbinding, rfl⟩

theorem validateRequest_ok {job : PaidJobRequest τ} (h : validateRequest job = .ok ()) :
    job.requestId ≠ "" ∧ openUnits job.estimatedUnits job.maxTotalUnits = true := by
  simp only [validateRequest, failWhen_ok_iff, not_or, Bool.not_eq_false] at h
  exact ⟨h.2.2.1, h.2.2.2.2⟩

theorem openUnits_one_le {estimated : ℤ} {maximum : Option ℚ} (h : openUnits estimated maximum = true) :
    1 ≤ estimated := by
  simp only [openUnits, Bool.and_eq_true, Option.any_eq_true] at h
  obtain ⟨⟨n, hn, hone⟩, -⟩ := h
  rw [← safeInteger_intCast hn]
  simpa using hone

theorem AbrStart.persisted {start : AbrStart}
    (hstored : paidRoute start.intent.route = .ok start.stored) (hprepared : Prepared P start.intent)
    (hvalid : validateRequest (start.intent.job P) = .ok ())
    (hinput : openJobInput P (start.intent.job P) = .ok input) :
    Persisted P start.operation start.secrets input := by
  obtain ⟨hbinding, hfields⟩ := openJobInput_ok hinput
  obtain ⟨hname, hunits⟩ := validateRequest_ok hvalid
  rw [hfields]
  refine ⟨⟨start.intent.route, hstored, hbinding, rfl, rfl⟩, rfl, hunits, ?_, hprepared.sha256.symm, rfl, hname, rfl⟩
  exact ⟨_, _, openUnits_one_le hunits, hprepared.funded.1, hprepared.funded.2, rfl, rfl, rfl⟩

theorem terminalCheck_keeps {message : String} {manifest : JsString}
    {body : List UInt8} {settlement : PaidJobSettlement} :
    Keeps may (fun h' _ => h' = h) (terminalCheck P message expected manifest requested body settlement) h := by
  refine Keeps.lift.bind ?_
  rintro _ terminal ⟨rfl, -⟩
  refine Keeps.lift.bind ?_
  rintro _ _ ⟨rfl, -⟩
  exact .pure rfl

/-- The statements of the VOD services. A status of settled is reported with the LOC operation
whose settlement LOC accepted, and repeated in a retry under the token of that report. -/
def VodStatement (claims : List GatewayEvent → Time → Prop) (h : List GatewayEvent) : RepoCall → Prop
  | .insertWithSecrets value _ _ lease => value.kind = .job ∧ value.status = "opening" ∧ lease.isSome = true
  | .claimRecoverable kind _ now lease _ => kind = .job ∧ lease.isSome = true ∧ claims h now
  | .readSecrets .. => True
  | .recordProgress _ _ value => value.fundedUnits = none ∧ (value.status = "settled" →
      ∃ input answer, (⟨.settleJob input, .ok answer⟩ : GatewayEvent) ∈ h ∧
        value.locOperationId = some input.operationId)
  | .recordRetry id claim value => value.status = "settled" → ∃ token report progressed,
      (⟨.repo (.recordProgress id token report), .ok (some progressed)⟩ : GatewayEvent) ∈ h ∧
        report.status = "settled" ∧ claim.version = progressed.lifecycleVersion
  | .recordVodTerminal .. => True
  | _ => False

theorem VodStatement.keepsIntent
    {call : RepoCall} (hcall : VodStatement claims h call) (id : String) : call.keepsIntent id := by
  cases call with
  | recordProgress target claim value => exact fun _ => hcall.1
  | putSecrets target claim value => exact hcall.elim
  | _ => trivial

/-- The rule of the VOD services: how they may open a job, at which times they claim, and what
they write. -/
def vodRule (opens : List GatewayEvent → LocOpenJobInput → Prop)
    (claims : List GatewayEvent → Time → Prop) (h : List GatewayEvent) : Call → Prop
  | .openJob input => opens h input
  | .repo call => VodStatement claims h call
  | _ => True

theorem vodRule_mono {opens opens' : List GatewayEvent → LocOpenJobInput → Prop}
    {e : Call} (hopens : ∀ input, opens h input → opens' h input) (he : vodRule opens claims h e) :
    vodRule opens' claims h e := by
  cases e with
  | openJob input => exact hopens input he
  | repo call => exact he
  | _ => trivial

variable {opens : List GatewayEvent → LocOpenJobInput → Prop}
  {claims : List GatewayEvent → Time → Prop} {h : List GatewayEvent}

theorem abrJob_keeps {requestId : String} {estimated maximum : ℤ}
    {body : List UInt8} {message : String} {manifest : JsString}  (hopen : ∀ input,
      validateRequest (abrJob requestId route estimated maximum body
        (terminalCheck P message expected manifest requested)) = .ok () →
      openJobInput P (abrJob requestId route estimated maximum body
        (terminalCheck P message expected manifest requested)) = .ok input → opens h input) :
    Keeps (vodRule opens claims) (fun h' result => Booked result.opened h' result.outcome)
      (execute P (abrJob requestId route estimated maximum body
        (terminalCheck P message expected manifest requested))) h := by
  refine execute_keeps (fun _ _ _ => True) hopen ?_ ?_ ?_
  · intro openInput opened
    exact ⟨fun _ _ => trivial, fun _ _ => trivial, fun _ _ _ _ => trivial⟩
  · intro openInput opened f hf body settlement h _
    cases hf
    refine terminalCheck_keeps.weaken ?_
    rintro h' _ rfl
    exact ⟨List.prefix_refl h', trivial⟩
  · intro hnone
    cases hnone

theorem ask_keeps {call : RepoCall} (he : may h (.repo call)) :
    Keeps may (fun h' answer => h' = h ++ [⟨.repo call, .ok answer⟩]) (ask call) h := by
  refine (Keeps.attempt he).weaken ?_
  rintro h' answer ⟨given, rfl, hgiven⟩
  rw [mapError_ok hgiven]

theorem hexId_keeps {size : Nat} {front : String} :
    Keeps (vodRule opens claims) (fun _ _ => True) (hexId size front) h := by
  refine (Keeps.invoke trivial).bind ?_
  intro h bytes _
  exact .pure trivial

theorem kind_settled {outcome : Recovered τ} (hkind : outcome.kind = "settled") :
    ∃ settled, outcome = .settled settled := by
  cases outcome with
  | settled value => exact ⟨value, rfl⟩
  | unresolved value =>
    cases value <;> simp [Recovered.kind, Unresolved.kind] at hkind

theorem recordUnresolved_keeps {id owner message : String}
    {result : PaidJobResult τ} {retryMs : Int} (hbooked : Booked result.opened h result.outcome) :
    Keeps (vodRule opens claims) (fun _ _ => True)
      (recordUnresolved id claim owner result message retryMs) h := by
  have haccounted : result.outcome.kind = "settled" → ∃ input answer,
      (⟨.settleJob input, .ok answer⟩ : GatewayEvent) ∈ h ∧
        some result.opened.operationId = some input.operationId := by
    intro hstatus
    obtain ⟨settled, hsettled⟩ := kind_settled hstatus
    obtain ⟨input, answer, hmem, hid⟩ := hbooked settled hsettled
    exact ⟨input, answer, hmem, congrArg some hid.symm⟩
  refine (ask_keeps ⟨rfl, haccounted⟩).bind ?_
  rintro _ progressed rfl
  cases progressed with
  | none => exact .throw
  | some progressed =>
    refine (Keeps.invoke trivial).bind ?_
    rintro _ now rfl
    refine (ask_keeps ?_).bind ?_
    · intro hstatus
      exact ⟨claim, _, progressed,
        List.mem_append_left _ (List.mem_append_right h (List.mem_singleton.mpr rfl)), hstatus, rfl⟩
    · intro h _ _
      exact .pure trivial

theorem recordAbrTerminal_keeps {intent : AbrIntent} {jobId operationId : String}
    :
    Keeps (vodRule opens claims) (fun _ _ => True)
      (recordAbrTerminal P intent jobId operationId claim result settled terminal) h := by
  unfold recordAbrTerminal
  split
  · exact .throw
  · refine Keeps.lift.bind ?_
    intro h _ _
    refine (Keeps.invoke trivial).bind ?_
    intro h terminalAt _
    refine hexId_keeps.bind ?_
    intro h playbackId _
    refine (ask_keeps trivial).bind ?_
    intro h recorded _
    exact Keeps.lift.weaken fun _ _ _ => trivial

def opensPersisted (P : Platform) (h : List GatewayEvent) (input : LocOpenJobInput) : Prop :=
  ∀ value secrets owner lease answer,
    (⟨.repo (.insertWithSecrets value secrets owner lease), answer⟩ : GatewayEvent) ∈ h →
    Persisted P value secrets input

def HasInserted (h : List GatewayEvent) : Prop :=
  ∃ value secrets owner lease answer,
    (⟨.repo (.insertWithSecrets value secrets owner lease), .ok answer⟩ : GatewayEvent) ∈ h

theorem runPaidAbrAsset_keeps (claims : List GatewayEvent → Time → Prop)
    {deps : PaidAbrOrchestratorDeps} :
    Keeps (vodRule (fun h input => HasInserted h ∧ opensPersisted P h input) claims) (fun _ _ => True)
      (runPaidAbrAsset P deps asset route) [] := by
  have hstart : Keeps preparing (fun h start => (∀ event ∈ h, event.effect.prepares) ∧
      start.leaseExpiresAt.isSome = true ∧ paidRoute start.intent.route = .ok start.stored ∧ Prepared P start.intent)
      (startAbr P deps asset route) [] :=
    startAbr_prepares.tracked (by simp)
  refine (hstart.mono ?_).bind ?_
  · intro h e he
    cases e with
    | openJob input => exact he.elim
    | repo call => exact he.elim
    | _ => trivial
  rintro h start ⟨hquiet, hlease, hstored, hprepared⟩
  refine (ask_keeps ⟨rfl, rfl, hlease⟩).bind ?_
  rintro _ operation rfl
  refine (abrJob_keeps ?_).bind ?_
  · intro input hvalid hinput
    refine ⟨⟨_, _, _, _, operation, List.mem_append_right h (List.mem_singleton.mpr rfl)⟩, ?_⟩
    intro value secrets owner lease answer hmem
    rcases List.mem_append.mp hmem with hbefore | hlast
    · exact (hquiet _ hbefore).elim
    · cases List.mem_singleton.mp hlast
      exact start.persisted hstored hprepared hvalid hinput
  · intro h result hbooked
    split
    · split
      · exact recordAbrTerminal_keeps
      · exact recordUnresolved_keeps hbooked
    · exact recordUnresolved_keeps hbooked

/-! ## The request of recovery -/

/-- The request of recovery, as the operation and its secrets determine it. -/
structure Replayed (P : Platform) (operation : PaidOperation) (secrets : PaidOperationSecrets)
    (input : LocOpenJobInput) : Prop where
  route : ∃ route, routeFrom operation = .ok route ∧ routeBindingFor route = .ok input.routeBinding ∧
    input.capability = route.capability ∧ input.offering = route.offering
  transport : input.transport = .stream
  valid : openUnits input.estimatedUnits input.maxTotalUnits = true
  units : ∃ units : Nat, uint operation.fundedUnits = .ok units ∧ input.estimatedUnits = units ∧
    input.maxTotalUnits = some (units : ℚ)
  digest : input.workloadRequestDigest = operation.requestContentSha256
  requestId : objectString secrets.loc "idempotency_key" = some input.requestId
  callerPublicKey : input.callerPublicKey = P.callerPublicKey

def opensReplayed (P : Platform) (operation : PaidOperation) (h : List GatewayEvent)
    (input : LocOpenJobInput) : Prop :=
  ∃ claim secrets, (⟨.repo (.readSecrets operation.id claim), .ok (some secrets)⟩ : GatewayEvent) ∈ h ∧
    Replayed P operation secrets input

def TakenUp (P : Platform) (operation : PaidOperation) (h : List GatewayEvent)
    (intent : RecoveredIntent) : Prop :=
  intent.encoded.sha256 = operation.requestContentSha256 ∧
  intent.encoded.sha256 = P.sha256Hex intent.encoded.body ∧
  ∃ claim secrets, (⟨.repo (.readSecrets operation.id claim), .ok (some secrets)⟩ : GatewayEvent) ∈ h ∧
    objectString secrets.loc "idempotency_key" = some intent.requestId

theorem encodeStored_sha256 {intent : JsonValue}
    (h : encodeStored P intent = .ok encoded) : encoded.sha256 = P.sha256Hex encoded.body := by
  unfold encodeStored at h
  split at h
  · exact encodeRequest_sha256 h
  · cases h

theorem recoverIntent_keeps :
    Keeps (vodRule opens claims) (TakenUp P operation) (recoverIntent P operation) h := by
  unfold recoverIntent
  split
  · rename_i assetId owner lease _ _ _
    refine (ask_keeps trivial).bind ?_
    rintro _ secrets rfl
    split
    · rename_i openIntent requestId hintent hkey
      obtain ⟨found, hfound⟩ : ∃ found, secrets = some found := by
        cases secrets with
        | none => cases hintent
        | some found => exact ⟨found, rfl⟩
      subst hfound
      refine Keeps.lift.bind ?_
      rintro _ encoded ⟨rfl, hencoded⟩
      refine Keeps.lift.bind ?_
      rintro _ _ ⟨rfl, hsame⟩
      rw [failWhen_ok_iff, not_not] at hsame
      refine (Keeps.attempt trivial).bind ?_
      rintro _ asset ⟨assetAnswer, rfl, -⟩
      split
      · refine (Keeps.invoke trivial).bind ?_
        rintro _ renditions rfl
        refine (Keeps.invoke trivial).bind ?_
        rintro _ jobs rfl
        refine Keeps.lift.bind ?_
        rintro _ renditions ⟨rfl, -⟩
        refine Keeps.lift.bind ?_
        rintro _ jobs ⟨rfl, -⟩
        split
        · refine .pure ⟨hsame, encodeStored_sha256 hencoded,
            ⟨owner, operation.lifecycleVersion, some lease⟩, found, ?_, hkey⟩
          simp
        · exact .throw
      · exact .throw
    · exact .throw
  · exact .throw

theorem recoveredJob_ok
    {job : PaidJobRequest AbrTerminalResult} (h : recoveredJob P operation intent = .ok job) :
    ∃ (route : SelectedWorkerRoute) (units : Nat), routeFrom operation = .ok route ∧
      uint operation.fundedUnits = .ok units ∧
      job = abrJob intent.requestId route units units intent.encoded.body
        (terminalCheck P "recovered terminal output coordinates drifted"
          ⟨intent.asset.id, intent.encoded.sha256, units⟩
          intent.request.manifest.artifactUri intent.request.renditions.properties) := by
  simp only [recoveredJob, ok_bind_iff, pure, Except.pure, Except.ok.injEq] at h
  obtain ⟨route, hroute, estimated, hestimated, maximum, hmaximum, rfl⟩ := h
  rw [hestimated] at hmaximum
  cases hmaximum
  exact ⟨route, estimated, hroute, hestimated, rfl⟩

theorem executeRecovered_keeps (htaken : TakenUp P operation h intent) :
    Keeps (vodRule (opensReplayed P operation) claims)
      (fun h' outcome => ∀ result, outcome = .ok result → Booked result.opened h' result.outcome)
      (executeRecovered P operation intent) h := by
  refine Keeps.tryCatch ?_ ?_
  · refine Keeps.lift.bind ?_
    rintro _ job ⟨rfl, hjob⟩
    obtain ⟨route, units, hroute, hunits, rfl⟩ := recoveredJob_ok hjob
    refine (abrJob_keeps ?_).bind ?_
    · intro input hvalid hinput
      obtain ⟨hbinding, hfields⟩ := openJobInput_ok hinput
      have hopen := (validateRequest_ok hvalid).2
      obtain ⟨hsame, hdigest, claim, secrets, hread, hkey⟩ := htaken
      refine ⟨claim, secrets, hread, ?_⟩
      rw [hfields]
      refine ⟨⟨route, hroute, hbinding, rfl, rfl⟩, rfl, hopen, ⟨units, hunits, ?_, ?_⟩, ?_, hkey, rfl⟩
      · simp [openInputOn, abrJob]
      · simp [openInputOn, abrJob]
      · exact hdigest.symm.trans hsame
    · intro h result hbooked
      refine .pure ?_
      rintro _ ⟨⟩
      exact hbooked
  · intro h e _
    refine .pure ?_
    rintro _ ⟨⟩

theorem recordRecoveryError_keeps {e : Failure} :
    Keeps (vodRule opens claims) (fun _ _ => True) (recordRecoveryError deps operation claim e) h := by
  refine (Keeps.invoke trivial).bind ?_
  intro h now _
  have hstatus : (if e.jobError.any (fun typed => !typed.2) then "encumbered" else "recovery_retry") ≠
      "settled" := by
    split <;> decide
  refine (ask_keeps fun hsettled => absurd hsettled hstatus).bind ?_
  intro h recorded _
  exact Keeps.lift.weaken fun _ _ _ => trivial

theorem recordRecoveredTerminal_keeps
    :
    Keeps (vodRule opens claims) (fun _ _ => True)
      (recordRecoveredTerminal P operation intent result settled terminal) h := by
  unfold recordRecoveredTerminal
  split
  · exact .throw
  · refine Keeps.lift.bind ?_
    intro h _ _
    refine hexId_keeps.bind ?_
    intro h playbackId _
    refine (Keeps.invoke trivial).bind ?_
    intro h terminalAt _
    refine (ask_keeps trivial).bind ?_
    intro h recorded _
    exact Keeps.lift.weaken fun _ _ _ => trivial

theorem recoverOne_keeps (claims : List GatewayEvent → Time → Prop) :
    Keeps (vodRule (opensReplayed P operation) claims) (fun _ _ => True) (recoverOne P deps operation) h := by
  refine recoverIntent_keeps.bind ?_
  intro h intent htaken
  refine (executeRecovered_keeps htaken).bind ?_
  intro h outcome hbooked
  cases outcome with
  | error e => exact recordRecoveryError_keeps
  | ok result =>
    simp only
    split
    · split
      · exact recordRecoveredTerminal_keeps
      · exact recordUnresolved_keeps (hbooked result rfl)
    · exact recordUnresolved_keeps (hbooked result rfl)

/-- A pass of recovery opens the jobs of operations it has claimed. -/
def opensClaimed (P : Platform) (h : List GatewayEvent) (input : LocOpenJobInput) : Prop :=
  ∃ kind owner now lease limit operations operation,
    (⟨.repo (.claimRecoverable kind owner now lease limit), .ok operations⟩ : GatewayEvent) ∈ h ∧
    operation ∈ operations ∧ opensReplayed P operation h input

theorem recoverEach_keeps {operations taken : List PaidOperation}
    {kind : PaidOperationKind} {owner : String} {now : Time} {lease : Date} {limit : Int}
    (hclaimed : (⟨.repo (.claimRecoverable kind owner now lease limit), .ok operations⟩ : GatewayEvent) ∈ h)
    (htaken : ∀ operation ∈ taken, operation ∈ operations) :
    Keeps (vodRule (opensClaimed P) claims) (fun _ _ => True) (recoverEach P deps taken) h := by
  induction taken generalizing h with
  | nil => exact .pure trivial
  | cons operation rest ih =>
    have hone : Keeps (vodRule (opensClaimed P) claims) (fun h' _ => h <+: h')
        (tryCatch (recoverOne P deps operation) fun _ => return ()) h := by
      have hopens : Keeps (vodRule (opensReplayed P operation) claims) (fun h' _ => h <+: h')
          (tryCatch (recoverOne P deps operation) fun _ => return ()) h := by
        refine Keeps.tryCatch ?_ ?_
        · exact (recoverOne_keeps claims).extends.weaken fun h' _ hlater => hlater.1
        · intro h' e hlater
          exact .pure hlater
      refine hopens.later.mono ?_
      rintro h' e ⟨hlater, he⟩
      refine vodRule_mono ?_ he
      intro input hopen
      exact ⟨kind, owner, now, lease, limit, operations, operation, hlater.subset hclaimed,
        htaken operation List.mem_cons_self, hopen⟩
    refine hone.bind ?_
    intro h' _ hlater
    refine ih (hlater.subset hclaimed) ?_
    intro later hlater'
    exact htaken later (List.mem_cons_of_mem operation hlater')

theorem recoverPaidAbrOperations_keeps (claims : List GatewayEvent → Time → Prop)
    {now : Time} {limit : Int} (hnow : claims h now) :
    Keeps (vodRule (opensClaimed P) claims) (fun _ _ => True) (recoverPaidAbrOperations P deps now limit) h := by
  refine (ask_keeps ⟨rfl, rfl, hnow⟩).bind ?_
  rintro _ operations rfl
  refine (recoverEach_keeps (List.mem_append_right h (List.mem_singleton.mpr rfl)) fun _ ho => ho).bind ?_
  intro h _ _
  exact .pure trivial

end

end LivepeerTranscode.Gateway
