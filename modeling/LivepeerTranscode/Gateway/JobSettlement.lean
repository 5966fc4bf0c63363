import LivepeerTranscode.Gateway.JobCalls
import LivepeerTranscode.Gateway.PaidAbr
import LivepeerTranscode.Shared.GoJson

/-!
# What the job client settles

The walk over the client's paths, used twice: whatever the broker and LOC answer, a job is
settled with evidence that matches it, and a job that was given a callback is settled
after the callback accepted the settlement or after the exchange was looked up.
-/

namespace LivepeerTranscode.Gateway
open Checked Interaction JsonText NodeText
set_option autoImplicit false

variable {P : Platform} {rule : List GatewayEvent → LocSettleJobInput → Prop} {sent : LocSettleJobInput}

variable {opened : LocOpenJobResult} {settlement : PaidJobSettlement} {envelope : LocSettlementEnvelope}

section
variable {P : Platform} {τ : Type}

def Call.unsettled : Call → Prop
  | .settleJob _ => False
  | _ => True

def settlesOnly (rule : List GatewayEvent → LocSettleJobInput → Prop) (h : List GatewayEvent) :
    Call → Prop
  | .settleJob input => rule h input
  | _ => True

variable {h : List GatewayEvent} {accepts : List GatewayEvent → List UInt8 → PaidJobSettlement → Prop}

theorem settlesOnly_unsettled {e : Call} (he : e.unsettled) : settlesOnly rule h e := by
  cases e with
  | settleJob input => exact he.elim
  | _ => trivial

theorem serves_settlesOnly {start : List GatewayEvent}
    (h : ∀ h input, start <+: h → Settling P opened accepts h input → rule h input) :
    Serves P opened accepts (settlesOnly rule) start where
  fetch _ _ := trivial
  delay _ _ := trivial
  settle := h

/-! ## Evidence -/

/-- A settlement with evidence that matches the opened job and what the broker claimed. -/
def Evidenced (P : Platform) (opened : LocOpenJobResult) (h : List GatewayEvent)
    (sent : LocSettleJobInput) : Prop :=
  ∃ claim settlement, ClaimedIn P opened h claim ∧ sent = settleInput opened settlement ∧
    Evidence opened claim settlement

theorem Settling.evidenced (hsettling : Settling P opened accepts h sent) : Evidenced P opened h sent := by
  obtain ⟨hvalid, hsent, hclaim, -⟩ := hsettling
  exact ⟨_, _, hclaim, hsent, validateSettlement_ok hvalid⟩

/-- Every settlement of `execute` is of the job it opened first, and every settlement of
`recover` of the job it was given, with matching evidence. -/
theorem settleJob_evidence {input : PaidJobRequest τ}
    (hcallback : ∀ f ∈ input.validateTerminal, ∀ body settlement h,
      Keeps (fun _ e => e.unsettled) (fun _ _ => True) (f body settlement) h) :
    (∀ h sent k, Reaches (execute P input).run h (.call (.settleJob sent) k) →
      ∃ openInput opened, [⟨.openJob openInput, .ok opened⟩] <+: h ∧ Evidenced P opened h sent) ∧
    ∀ opened h sent k, Reaches (recoverExchange P τ opened).run h (.call (.settleJob sent) k) →
      Evidenced P opened h sent := by
  constructor
  · intro h sent k hreach
    have hkeeps : Keeps (settlesOnly fun h sent => ∃ openInput opened,
        [⟨.openJob openInput, .ok opened⟩] <+: h ∧ Evidenced P opened h sent)
        (fun h result => Booked result.opened h result.outcome) (execute P input) [] := by
      refine execute_keeps (fun _ _ _ => True) (fun _ _ _ => trivial) ?_ ?_ ?_
      · intro openInput opened
        refine serves_settlesOnly ?_
        intro h sent hstart hsettling
        exact ⟨openInput, opened, hstart, hsettling.evidenced⟩
      · intro openInput opened f hf body settlement h _
        exact ((hcallback f hf body settlement h).mono fun h e he => settlesOnly_unsettled he).extends
      · intro _ _ _
        exact ⟨[], trivial⟩
    exact hkeeps.allowed hreach
  · intro opened h sent k hreach
    have hserves : Serves P opened (fun _ _ _ => True) (settlesOnly (Evidenced P opened)) [] :=
      serves_settlesOnly fun h sent _ hsettling => hsettling.evidenced
    exact (recoverExchange_keeps hserves (List.prefix_refl [])).allowed hreach

/-! ## Validation -/

/-- A callback of which nothing is known but that it accepts or throws. -/
def externalValidation (brokerBody : List UInt8) (settlement : PaidJobSettlement) : GatewayProg Unit :=
  attempt (Call.validateTerminal brokerBody settlement) fun answer => answer

def Accepted (h : List GatewayEvent) (body : List UInt8) (settlement : PaidJobSettlement) : Prop :=
  ⟨.validateTerminal body settlement, .ok ()⟩ ∈ h

/-- The settlement of a job whose callback leaves `accepts`. -/
def Validated (accepts : List GatewayEvent → List UInt8 → PaidJobSettlement → Prop) (h : List GatewayEvent)
    (sent : LocSettleJobInput) : Prop :=
  ∃ openInput opened settlement, [⟨.openJob openInput, .ok opened⟩] <+: h ∧
    sent = settleInput opened settlement ∧
    ((∃ body, accepts h body settlement) ∨ LookedUp opened h ∨ settlement.actualUnits = 0)

theorem validated_of_reaches {input : PaidJobRequest τ}
    {f : List UInt8 → PaidJobSettlement → GatewayProg τ} (hcallback : input.validateTerminal = some f)
    (haccepts : ∀ body settlement h, Keeps (fun _ e => e.unsettled) (fun h' _ => accepts h' body settlement) (f body settlement) h)
    {k : Except Failure LocSettleJobResult → Prog Call Call.Answer (Except Failure (PaidJobResult τ))}
    (hreach : Reaches (execute P input).run h (.call (.settleJob sent) k)) : Validated accepts h sent := by
  have hkeeps : Keeps (settlesOnly (Validated accepts))
      (fun h result => Booked result.opened h result.outcome) (execute P input) [] := by
    refine execute_keeps accepts (fun _ _ _ => trivial) ?_ ?_ ?_
    · intro openInput opened
      refine serves_settlesOnly ?_
      rintro h sent hstart ⟨-, hsent, -, hreason⟩
      exact ⟨openInput, opened, _, hstart, hsent, hreason⟩
    · intro openInput opened g hg body settlement h _
      cases hcallback.symm.trans hg
      exact ((haccepts body settlement h).mono fun h e he => settlesOnly_unsettled he).extends
    · intro hnone
      cases hcallback.symm.trans hnone
  exact hkeeps.allowed hreach

theorem reconcileAbrUsage_le {renditions : List AbrDeliveredRendition} {unit : String} {signed : Nat}
    {maximum : ℤ} {result : AbrUsageReconciliation}
    (h : reconcileAbrUsage renditions unit signed maximum = .ok result) : (signed : ℤ) ≤ maximum := by
  unfold reconcileAbrUsage at h
  split at h
  · rename_i s m hs hm
    have hsigned : Binary64.safeInteger ((signed : ℤ) : ℚ) = some s := by exact_mod_cast hs
    rw [← safeInteger_intCast hsigned, ← safeInteger_intCast hm]
    simp only [ok_bind_iff, failWhen_ok_iff, not_lt] at h
    obtain ⟨_, _, _, _, _, hle, -⟩ := h
    exact hle
  · cases h

theorem validateAbrTerminal_le {brokerBody : List UInt8}
    {workloadId sha256 : String} {maximum : ℤ} {terminal : AbrTerminalResult}
    (h : validateAbrTerminal P brokerBody settlement ⟨workloadId, sha256, maximum⟩ = .ok terminal) :
    (settlement.actualUnits : ℤ) ≤ maximum := by
  simp only [validateAbrTerminal, ok_bind_iff] at h
  obtain ⟨candidate, -, h⟩ := h
  split at h
  · simp only [ok_bind_iff] at h
    obtain ⟨_, _, hthrow⟩ := h
    cases hthrow
  · split at h
    · cases h
    · simp only [ok_bind_iff] at h
      obtain ⟨_, _, _, husage, -⟩ := h
      exact reconcileAbrUsage_le (mapError_ok husage)

/-- The terminal of a VOD job with its claim and its coordinates. -/
def TerminalVerified (P : Platform) (message : String) (expected : TerminalExpectation) (manifest : JsString)
    (requested : List (JsString × AbrDestinations)) (body : List UInt8) (settlement : PaidJobSettlement) :
    Prop :=
  ∃ terminal, validateAbrTerminal P body settlement expected = .ok terminal ∧
    validateCoordinates message manifest requested terminal = .ok ()

theorem terminalCheck_verifies {message : String} {expected : TerminalExpectation} {manifest : JsString}
    {requested : List (JsString × AbrDestinations)} {body : List UInt8} : Keeps (fun _ e => e.unsettled)
      (fun _ _ => TerminalVerified P message expected manifest requested body settlement)
      (terminalCheck P message expected manifest requested body settlement) h := by
  refine Keeps.lift.bind ?_
  rintro h terminal ⟨-, hterminal⟩
  refine Keeps.lift.bind ?_
  rintro h _ ⟨-, hcoordinates⟩
  exact .pure ⟨terminal, hterminal, hcoordinates⟩

/-- A job with a callback settles what the callback accepted, or nothing, unless the exchange
was looked up; a VOD job settles no more than it funded. -/
theorem settleJob_validated :
    (∀ (input : PaidJobRequest Unit) h sent k, input.validateTerminal = some externalValidation →
      Reaches (execute P input).run h (.call (.settleJob sent) k) → Validated Accepted h sent) ∧
    ∀ requestId route estimated maximum body message workloadId sha256 manifest requested h sent k,
      Reaches (execute P (abrJob requestId route estimated maximum body (terminalCheck P message
        ⟨workloadId, sha256, maximum⟩ manifest requested))).run h (.call (.settleJob sent) k) →
      Validated (fun _ body settlement => TerminalVerified P message ⟨workloadId, sha256, maximum⟩ manifest
        requested body settlement ∧ (settlement.actualUnits : ℤ) ≤ maximum) h sent := by
  constructor
  · intro input h sent k hcallback hreach
    refine validated_of_reaches hcallback ?_ hreach
    intro body settlement h
    refine (Keeps.attempt trivial).weaken ?_
    rintro h' _ ⟨answer, rfl, rfl⟩
    exact List.mem_append_right h (List.mem_singleton_self _)
  · intro requestId route estimated maximum body message workloadId sha256 manifest requested h sent k hreach
    refine validated_of_reaches rfl ?_ hreach
    intro body settlement h
    refine terminalCheck_verifies.weaken ?_
    rintro _ _ ⟨terminal, hterminal, hcoordinates⟩
    exact ⟨⟨terminal, hterminal, hcoordinates⟩, validateAbrTerminal_le hterminal⟩

end

/-! ## Twelve units -/

def sampleBinding : LocRouteBinding :=
  ⟨"quote-1", "1", hexText (List.replicate 32 1), hexText (List.replicate 32 2),
    "0x1111111111111111111111111111111111111111111111111111111111111111"⟩

def sampleJobRoute : SelectedWorkerRoute where
  workerUrl := "https://broker.example"
  ethAddress := "0x00000000000000000000000000000000000000aa"
  capability := "video:transcode.abr"
  offering := "default"
  pricePerWorkUnitWei := "1000"
  workUnit := abrWorkUnit
  protocol := .paidJobV1
  transports := some [.stream]
  workUnitEstimator := none
  settlementKeys := []
  settlementDomainId := some sampleBinding.settlementDomainId
  unitsPerPrice := some "1"
  quoteId := some "quote-1"
  quoteVersion := some "1"
  constraintFingerprint := some (List.replicate 32 1)
  routeFingerprint := some (List.replicate 32 2)

def sampleJob : PaidJobRequest Unit :=
  ⟨"req_1", sampleJobRoute, .stream, 12, some 15, "application/json", [], some externalValidation⟩

def sampleOpened : LocOpenJobResult where
  operationId := "loc-1"
  requestId := "req_1"
  workId := "work-1"
  brokerUrl := "https://broker.example"
  transport := .stream
  workUnit := abrWorkUnit
  routeSnapshot := ⟨"video:transcode.abr", "default", sampleBinding.settlementDomainId, sampleBinding⟩
  spendAuthorization := "YQ=="
  paymentEnvelope := none

def sampleQuote : JsonValue :=
  .obj [("quote_id", .str "quote-1"), ("quote_version", .str "1"),
    ("constraint_fingerprint", .str (hexAsBase64 sampleBinding.constraintFingerprint)),
    ("route_fingerprint", .str (hexAsBase64 sampleBinding.routeFingerprint))]

def sampleEnvelope : LocSettlementEnvelope where
  payload := [("request_id", .str "req_1"), ("job_id", .str "job-1"), ("work_id", .str "work-1"),
    ("authorization_id", .str "work-1"), ("settlement_domain_id", .str sampleBinding.settlementDomainId),
    ("work_unit_name", .str abrWorkUnit), ("actual_units", .num 12), ("billed_units", .num 12),
    ("debited_units", .num 12), ("outcome", .str "SETTLED"), ("accepted_quote_ref", sampleQuote)]
  signatureValue := "0x" ++ String.ofList (List.replicate 130 'a')

def sampleClaim : JobClaim := ⟨"job-1", 12, abrWorkUnit, sampleEnvelope⟩

def sampleSettlement : PaidJobSettlement := ⟨"job-1", 12, abrWorkUnit, "SETTLED", sampleEnvelope⟩

theorem sampleClaim_valid : validateSettlement sampleOpened sampleClaim = .ok sampleSettlement := by
  rfl

def documentText (value : JsonValue) : List Char := write (goQuote false) (fun n => (toString n.num).toList) value

def sampleSettlementDocument : JsonValue :=
  .obj [("payload", .obj sampleEnvelope.payload), ("signature", .obj [("algorithm", .str "secp256k1"),
    ("canonicalization", .str "jcs"), ("value", .str sampleEnvelope.signatureValue)])]

section
variable (settlement exchange : JsonValue)

def encodedDocument (value : JsonValue) : String := base64Text (utf8Bytes (documentText value))

def replyPlatform : Platform where
  utf8Text := runes
  parse text := [settlement, exchange].find? fun value => documentText value = text
  base64Bytes text := if text = encodedDocument settlement then utf8Bytes (documentText settlement) else []
  url := some
  sha256Hex _ := "e3b0c44298fc1c149afbf4c8996fb92427ae41e4649b934ca495991b7852b855"
  callerPublicKey := "0x02"
  signAuthorization _ := some "0x01"
  pollAttempts := 1
  pollDelayMs := 0

variable {settlement exchange}

theorem replyPlatform_decodes (hwire : settlementWire settlement = some envelope) :
    decodeSettlement (replyPlatform settlement exchange) (encodedDocument settlement) = .ok envelope := by
  have hparse : (replyPlatform settlement exchange).parseBytes
      ((replyPlatform settlement exchange).base64Bytes (encodedDocument settlement)) = some settlement := by
    simp [Platform.parseBytes, replyPlatform, runes_utf8Bytes]
  rw [decodeSettlement, hparse, Option.bind_some, hwire]

theorem replyPlatform_reads {members : List (String × JsonValue)} {status : Nat}
    {header : String → Option String} (hother : documentText settlement ≠ documentText (.obj members)) :
    readJson (replyPlatform settlement (.obj members))
      ⟨status, header, some (utf8Bytes (documentText (.obj members)))⟩ = .ok (.obj members) := by
  have hmark : withoutMark (documentText (.obj members)) = documentText (.obj members) := by
    simp only [documentText, write]
    rfl
  simp [readJson, Platform.parseBody, replyPlatform, runes_utf8Bytes, hmark, hother]

end

def sampleExchangeDocument : JsonValue :=
  .obj [("request_id", .str "req_1"), ("job_id", .str "job-1"), ("outcome", .str "SETTLED"),
    ("work_units", .num 12), ("unit", .str abrWorkUnit),
    ("settlement", .str (encodedDocument sampleSettlementDocument))]

def sampleExchange : Exchange :=
  ⟨"req_1", some "job-1", .settled, some (.num 12), some abrWorkUnit,
    some (encodedDocument sampleSettlementDocument), none⟩

def sampleExchangeResponse : HttpResponse :=
  ⟨200, fun _ => none, some (utf8Bytes (documentText sampleExchangeDocument))⟩

def samplePlatform : Platform := replyPlatform sampleSettlementDocument sampleExchangeDocument

theorem settlementWire_ok {payload : List (String × JsonValue)} {value : String}
    (hvalue : signatureText value = true) (hpayload : ∀ entry ∈ payload, entry.1 ≠ "__proto__") :
    settlementWire (.obj [("payload", .obj payload), ("signature", .obj [("algorithm", .str "secp256k1"),
      ("canonicalization", .str "jcs"), ("value", .str value)])]) = some ⟨payload, value⟩ := by
  simp [settlementWire, List.lookup, hvalue]
  intro key value hmem
  exact hpayload (key, value) hmem

theorem exchangeClaim_ok {requestId jobId unit settlement : String}
    {outcome : ExchangeOutcome} {workUnits : JsonValue} {nonAdmission : Option String} {units : Nat}
    (hunits : safeUnits (some workUnits) = .ok units) (hsettlement : decodeSettlement P settlement = .ok envelope) :
    exchangeClaim P ⟨requestId, some jobId, outcome, some workUnits, some unit, some settlement,
      nonAdmission⟩ = .ok ⟨jobId, units, unit, envelope⟩ := by
  simp only [exchangeClaim, hunits, hsettlement, bind, Except.bind, pure, Except.pure]

theorem jobClaim_ok {brokerJobId unit settlement unitText : String} {units : Nat}
    (hunits : safeUnits (some (.str unitText)) = .ok units)
    (hsettlement : decodeSettlement P settlement = .ok envelope) :
    HeaderClaim.jobClaim P ⟨brokerJobId, settlement, unitText, unit⟩ = .ok ⟨brokerJobId, units, unit, envelope⟩ := by
  simp only [HeaderClaim.jobClaim, hunits, hsettlement, bind, Except.bind, pure, Except.pure]

def sampleProof : List (String × String) := jobHeaders sampleOpened "0x01" "application/json" .stream

theorem sample_values :
    (signatureText sampleEnvelope.signatureValue = true ∧ ∀ entry ∈ sampleEnvelope.payload, entry.1 ≠ "__proto__") ∧
    documentText sampleSettlementDocument ≠ documentText sampleExchangeDocument ∧
    encodedDocument sampleSettlementDocument ≠ "" ∧
    safeUnits (some (.num 12)) = .ok 12 ∧ safeUnits (some (.str "12")) = .ok 12 ∧
    validateRequest sampleJob = .ok () ∧ routeBindingFor sampleJob.route = .ok sampleBinding ∧
    sampleProof.all (fun entry => headerValue entry.2) = true ∧
    withoutTrailingSlash sampleOpened.brokerUrl ++ "/v1/job" = "https://broker.example/v1/job" := by
  decide +kernel

theorem sampleSettlement_decodes :
    decodeSettlement samplePlatform (encodedDocument sampleSettlementDocument) = .ok sampleEnvelope :=
  replyPlatform_decodes (settlementWire_ok sample_values.1.1 sample_values.1.2)

theorem sampleExchange_reads : readJson samplePlatform sampleExchangeResponse = .ok sampleExchangeDocument :=
  replyPlatform_reads sample_values.2.1

section
set_option maxRecDepth 100000

theorem sampleExchange_own : ownExchange sampleOpened sampleExchangeDocument = .ok sampleExchange := by
  with_unfolding_all rfl

end

theorem sampleExchange_claims : exchangeClaim samplePlatform sampleExchange = .ok sampleClaim :=
  exchangeClaim_ok sample_values.2.2.2.1 sampleSettlement_decodes

def sampleSettle : LocSettleJobInput := settleInput sampleOpened sampleSettlement

def samplePost : HttpRequest := ⟨"POST", "https://broker.example/v1/job", sampleProof, []⟩

def sampleOpenInput : LocOpenJobInput := openInputOn samplePlatform sampleJob sampleBinding

def sampleHeader (name : String) : Option String :=
  [(Header.jobId, "job-1"), (Header.settlement, encodedDocument sampleSettlementDocument),
    (Header.workUnits, "12"), (Header.workUnit, abrWorkUnit)].lookup name

def sampleHeaderClaim : HeaderClaim := ⟨"job-1", encodedDocument sampleSettlementDocument, "12", abrWorkUnit⟩

theorem sampleJob_opens : openJobInput samplePlatform sampleJob = .ok sampleOpenInput := by
  obtain ⟨-, -, -, -, -, -, hbinding, -⟩ := sample_values
  rw [openJobInput, hbinding]
  rfl

theorem sample_posts {τ : Type} {job : PaidJobRequest τ}
    (hsign : P.signAuthorization sampleOpened.spendAuthorization = some "0x01")
    (htype : job.contentType = "application/json") (htransport : job.transport = .stream) :
    jobRequest P job sampleOpened = .ok { samplePost with body := job.body } := by
  obtain ⟨-, -, -, -, -, -, -, hvalues, hurl⟩ := sample_values
  simp only [jobRequest, hsign, htype, htransport, hurl]
  exact ok_bind_iff.mpr ⟨(), failWhen_ok_iff.mpr (not_not.mpr hvalues), rfl⟩

def samplePosted (answer : Option HttpResponse) : List GatewayEvent :=
  [⟨.openJob sampleOpenInput, .ok sampleOpened⟩, ⟨.fetch samplePost, answer⟩]

section
variable {τ : Type} {h : List GatewayEvent} {calls : List GatewayEvent → Call → Prop}

theorem settle_canCall {validate : Option (List UInt8 → PaidJobSettlement → GatewayProg τ)}
    {claim : JobClaim} {body : List UInt8}
    {later : List GatewayEvent} (hvalid : validateSettlement opened claim = .ok settlement)
    (hvalidated : CanReturn (fun h' _ => h' = later) (validated validate body settlement) h)
    (hcalls : calls later (.settleJob (settleInput opened settlement))) :
    CanCall calls (settle validate opened claim body) h := by
  refine (CanReturn.lift hvalid).then_calls ?_
  rintro _ _ ⟨rfl, rfl⟩
  refine hvalidated.then_calls ?_
  rintro _ _ rfl
  exact CanCall.bind (CanCall.attempt hcalls)

end

theorem sample_recovers : CanCall (fun h e => h = samplePosted none ++
      [⟨.fetch (exchangeRequest sampleOpened), some sampleExchangeResponse⟩] ∧ e = .settleJob sampleSettle)
    (execute samplePlatform sampleJob) [] := by
  refine (CanReturn.lift sample_values.2.2.2.2.2.1).then_calls ?_
  rintro _ _ ⟨rfl, -⟩
  refine (CanReturn.lift sampleJob_opens).then_calls ?_
  rintro _ _ ⟨rfl, rfl⟩
  refine (CanReturn.attempt (a := sampleOpened) (.ok sampleOpened) rfl).then_calls ?_
  rintro _ _ ⟨rfl, rfl⟩
  refine (CanReturn.lift (sample_posts rfl rfl rfl)).then_calls ?_
  rintro _ _ ⟨rfl, rfl⟩
  refine (CanReturn.invoke (e := Call.fetch samplePost) none).then_calls ?_
  rintro _ _ ⟨rfl, rfl⟩
  refine CanCall.bind (CanCall.tryCatch ?_)
  refine (CanReturn.attempt (a := sampleExchangeResponse) (some sampleExchangeResponse) rfl).then_calls ?_
  rintro _ _ ⟨rfl, rfl⟩
  refine (CanReturn.lift sampleExchange_reads).then_calls ?_
  rintro _ _ ⟨rfl, rfl⟩
  refine (CanReturn.lift sampleExchange_own).then_calls ?_
  rintro _ _ ⟨rfl, rfl⟩
  refine CanCall.bind ?_
  refine (CanReturn.lift sampleExchange_claims).then_calls ?_
  rintro _ _ ⟨rfl, rfl⟩
  exact settle_canCall sampleClaim_valid (.pure rfl) ⟨rfl, rfl⟩

theorem sample_answers : CanCall (fun h e => h = samplePosted (some ⟨200, sampleHeader, some []⟩) ++
      [⟨.validateTerminal [] sampleSettlement, .ok ()⟩] ∧ e = .settleJob sampleSettle)
    (execute samplePlatform sampleJob) [] := by
  have hheader : headerClaim ⟨200, sampleHeader, some []⟩ = some sampleHeaderClaim := by
    have htext : truthy (some (encodedDocument sampleSettlementDocument)) =
        some (encodedDocument sampleSettlementDocument) := by
      simp [truthy, sample_values.2.2.1]
    change ((truthy (some "job-1")).bind fun id => (truthy (some (encodedDocument sampleSettlementDocument))).bind
      fun settlement => (truthy (some "12")).bind fun units => (truthy (some abrWorkUnit)).bind fun unit =>
        some (⟨id, settlement, units, unit⟩ : HeaderClaim)) = _
    rw [htext]
    rfl
  have hclaim : sampleHeaderClaim.jobClaim samplePlatform = .ok sampleClaim :=
    jobClaim_ok sample_values.2.2.2.2.1 sampleSettlement_decodes
  refine (CanReturn.lift sample_values.2.2.2.2.2.1).then_calls ?_
  rintro _ _ ⟨rfl, -⟩
  refine (CanReturn.lift sampleJob_opens).then_calls ?_
  rintro _ _ ⟨rfl, rfl⟩
  refine (CanReturn.attempt (a := sampleOpened) (.ok sampleOpened) rfl).then_calls ?_
  rintro _ _ ⟨rfl, rfl⟩
  refine (CanReturn.lift (sample_posts rfl rfl rfl)).then_calls ?_
  rintro _ _ ⟨rfl, rfl⟩
  refine (CanReturn.invoke (e := Call.fetch samplePost) (some ⟨200, sampleHeader, some []⟩)).then_calls ?_
  rintro _ _ ⟨rfl, rfl⟩
  refine CanCall.bind ?_
  unfold acceptedOutcome
  rw [hheader]
  refine (CanReturn.lift hclaim).then_calls ?_
  rintro _ _ ⟨rfl, rfl⟩
  refine CanCall.bind (settle_canCall sampleClaim_valid ?_ ⟨rfl, rfl⟩)
  refine (CanReturn.attempt (a := ()) (.ok ()) rfl).bind ?_
  rintro _ _ ⟨rfl, -⟩
  exact .pure rfl

theorem settleJob_evidence_sample : ∃ h openInput opened, [⟨.openJob openInput, .ok opened⟩] <+: h ∧
    Evidenced samplePlatform opened h sampleSettle := by
  obtain ⟨h, _, k, hreach, -, rfl⟩ := sample_answers
  have hcallback : ∀ f ∈ sampleJob.validateTerminal, ∀ body settlement h,
      Keeps (fun _ e => e.unsettled) (fun _ _ => True) (f body settlement) h := by
    intro f hf body settlement h
    cases hf
    exact (Keeps.attempt trivial).weaken fun _ _ _ => trivial
  exact ⟨h, (settleJob_evidence hcallback).1 h sampleSettle k hreach⟩

theorem settleJob_validated_sample : ∃ h, Validated Accepted h sampleSettle ∧ sampleSettle.actualUnits = 12 := by
  obtain ⟨h, _, k, hreach, -, rfl⟩ := sample_answers
  exact ⟨h, settleJob_validated.1 sampleJob h sampleSettle k rfl hreach, rfl⟩

/-- Twelve units are settled although no callback was made. -/
theorem settleJob_unvalidated : ∃ h k,
    Reaches (execute samplePlatform sampleJob).run h (.call (.settleJob sampleSettle) k) ∧
      sampleJob.validateTerminal = some externalValidation ∧ sampleSettle.actualUnits = 12 ∧
      ∀ body settlement answer, ⟨.validateTerminal body settlement, answer⟩ ∉ h := by
  obtain ⟨h, _, k, hreach, rfl, rfl⟩ := sample_recovers
  refine ⟨_, k, hreach, rfl, rfl, ?_⟩
  simp [samplePosted]

end LivepeerTranscode.Gateway
