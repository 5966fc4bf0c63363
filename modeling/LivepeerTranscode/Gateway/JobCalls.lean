import LivepeerTranscode.Gateway.PaidJobClient

/-!
# What the job client calls

Every path of `execute` and `recover` is walked once. The walk says what is known when
`settleJob` is called: which claim was checked, which answer of the broker it was read from,
and whether a callback accepted it, the exchange was looked up, or nothing was used.
-/

namespace LivepeerTranscode.Gateway
open Checked Interaction JsonText
set_option autoImplicit false

variable {claim : JobClaim} {settlement : PaidJobSettlement} {h' : List GatewayEvent}

/-! ## Evidence that passed -/

variable {value : Option JsonValue}

theorem requiredString_ok {text : String} (h : requiredString value = .ok text) :
    value = some (.str text) := by
  unfold requiredString requiredWireText at h
  split at h
  · split at h
    · cases h
    · cases h
      rfl
  · cases h

theorem otherText_false {expected : String}
    (h : otherText value expected = .ok false) : value = some (.str expected) := by
  unfold otherText at h
  cases hvalue : requiredString value with
  | error e => simp [hvalue, Except.map] at h
  | ok text =>
    simp only [hvalue, Except.map, Except.ok.injEq, ne_eq, decide_not, Bool.not_eq_false',
      decide_eq_true_eq] at h
    rw [requiredString_ok hvalue, h]

theorem sameUnits_false {units : Nat}
    (h : ((safeUnits value).map fun found => decide (found ≠ units)) = .ok false) :
    safeUnits value = .ok units := by
  cases hvalue : safeUnits value with
  | error e => simp [hvalue, Except.map] at h
  | ok found =>
    simp only [hvalue, Except.map, Except.ok.injEq, ne_eq, decide_not, Bool.not_eq_false',
      decide_eq_true_eq] at h
    rw [h]

/-- Settlement evidence that matches the opened job and the claim. -/
structure Evidence (opened : LocOpenJobResult) (claim : JobClaim) (settlement : PaidJobSettlement) :
    Prop where
  envelope : settlement.envelope = claim.envelope
  requestId : claim.envelope.payload.lookup "request_id" = some (.str opened.requestId)
  brokerJobId : settlement.brokerJobId = claim.brokerJobId
  jobId : claim.envelope.payload.lookup "job_id" = some (.str claim.brokerJobId)
  workId : claim.envelope.payload.lookup "work_id" = some (.str opened.workId)
  authorizationId : claim.envelope.payload.lookup "authorization_id" = some (.str opened.workId)
  settlementDomainId : claim.envelope.payload.lookup "settlement_domain_id" =
    some (.str opened.routeSnapshot.settlementDomainId)
  workUnitName : claim.envelope.payload.lookup "work_unit_name" = some (.str opened.workUnit)
  claimedUnit : claim.workUnit = opened.workUnit
  workUnit : settlement.workUnit = opened.workUnit
  quote : ∃ quote, claim.envelope.payload.lookup "accepted_quote_ref" = some (.obj quote) ∧
    quote.lookup "quote_id" = some (.str opened.routeSnapshot.binding.quoteId) ∧
    quote.lookup "quote_version" = some (.str opened.routeSnapshot.binding.quoteVersion) ∧
    quote.lookup "constraint_fingerprint" =
      some (.str (hexAsBase64 opened.routeSnapshot.binding.constraintFingerprint)) ∧
    quote.lookup "route_fingerprint" =
      some (.str (hexAsBase64 opened.routeSnapshot.binding.routeFingerprint))
  claimedUnits : settlement.actualUnits = claim.actualUnits
  actualUnits : safeUnits (claim.envelope.payload.lookup "actual_units") = .ok settlement.actualUnits
  billedUnits : safeUnits (claim.envelope.payload.lookup "billed_units") = .ok settlement.actualUnits
  debitedUnits : safeUnits (claim.envelope.payload.lookup "debited_units") = .ok settlement.actualUnits
  outcome : claim.envelope.payload.lookup "outcome" = some (.str settlement.outcome)
  debited : settlement.outcome ≠ "DEBIT_FAILED"

theorem asRecord_ok {members : List (String × JsonValue)}
    (h : asRecord value = .ok members) : value = some (.obj members) := by
  unfold asRecord at h
  split at h
  · cases h
    rfl
  · cases h

theorem validateSettlement_ok {opened : LocOpenJobResult}
    (h : validateSettlement opened claim = .ok settlement) :
    Evidence opened claim settlement := by
  simp only [validateSettlement, ok_bind_iff] at h
  obtain ⟨quote, hquote, actualUnits, hactual, outcome, houtcome, failed, hchecks, hresult⟩ := h
  cases failed with
  | true => simp [throw, throwThe, MonadExceptOf.throw] at hresult
  | false =>
    simp only [Bool.false_eq_true, if_false, pure, Except.pure, Except.bind, bind,
      Except.ok.injEq] at hresult
    subst hresult
    have hall := anyOf_false_iff.mp hchecks
    simp only [settlementChecks, List.forall_mem_cons, Except.ok.injEq, decide_eq_false_iff_not,
      ne_eq, not_not] at hall
    obtain ⟨hdebit, hrequest, hjob, hwork, hauth, hdomain, hunitName, hunit, hunits, hbilled, hdebited,
      hid, hversion, hconstraint, hroute, -⟩ := hall
    exact {
      envelope := rfl
      requestId := otherText_false hrequest
      brokerJobId := rfl
      jobId := otherText_false hjob
      workId := otherText_false hwork
      authorizationId := otherText_false hauth
      settlementDomainId := otherText_false hdomain
      workUnitName := otherText_false hunitName
      claimedUnit := hunit
      workUnit := hunit
      quote := ⟨quote, asRecord_ok hquote, otherText_false hid, otherText_false hversion,
        otherText_false hconstraint, otherText_false hroute⟩
      claimedUnits := hunits
      actualUnits := hactual
      billedUnits := sameUnits_false hbilled
      debitedUnits := sameUnits_false hdebited
      outcome := requiredString_ok houtcome
      debited := hdebit }

/-! ## The walk -/

section
variable (P : Platform) (opened : LocOpenJobResult)

inductive ClaimedIn (h : List GatewayEvent) (claim : JobClaim) : Prop where
  | headers {request : HttpRequest} {response : HttpResponse} {header : HeaderClaim} :
      ⟨.fetch request, some response⟩ ∈ h → headerClaim response = some header →
      header.jobClaim P = .ok claim → ClaimedIn h claim
  | exchange {response : HttpResponse} {raw : JsonValue} {exchange : Exchange} :
      ⟨.fetch (exchangeRequest opened), some response⟩ ∈ h → readJson P response = .ok raw →
      ownExchange opened raw = .ok exchange → exchangeClaim P exchange = .ok claim → ClaimedIn h claim
  | settlement {brokerJobId : String} {response : HttpResponse} {raw : JsonValue} {exchange : Exchange} :
      ⟨.fetch (settlementRequest opened brokerJobId), some response⟩ ∈ h → response.status = 200 →
      readJson P response = .ok raw → settledExchange opened raw = .ok exchange →
      exchangeClaim P exchange = .ok claim → ClaimedIn h claim

def settleInput (settlement : PaidJobSettlement) : LocSettleJobInput :=
  { operationId := opened.operationId
    actualUnits := settlement.actualUnits
    brokerJobId := settlement.brokerJobId
    workUnit := settlement.workUnit
    outcome := settlement.outcome
    settlement := settlement.envelope }

def LookedUp (h : List GatewayEvent) : Prop :=
  ∃ answer, (⟨.fetch (exchangeRequest opened), answer⟩ : GatewayEvent) ∈ h

def Accounted (h : List GatewayEvent) : Prop :=
  ∃ input answer, (⟨.settleJob input, .ok answer⟩ : GatewayEvent) ∈ h ∧
    input.operationId = opened.operationId

def Booked {τ : Type} (h : List GatewayEvent) (outcome : Recovered τ) : Prop :=
  ∀ settled, outcome = .settled settled → Accounted opened h

variable (accepts : List GatewayEvent → List UInt8 → PaidJobSettlement → Prop)

inductive Settling (h : List GatewayEvent) (input : LocSettleJobInput) : Prop where
  | mk {claim : JobClaim} {settlement : PaidJobSettlement} :
      validateSettlement opened claim = .ok settlement → input = settleInput opened settlement →
      ClaimedIn P opened h claim →
      ((∃ body, accepts h body settlement) ∨ LookedUp opened h ∨ settlement.actualUnits = 0) →
      Settling h input

/-- A rule that lets the client do its work after the calls `start`. -/
structure Serves (may : List GatewayEvent → Call → Prop) (start : List GatewayEvent) : Prop where
  fetch : ∀ h request, may h (.fetch request)
  delay : ∀ h milliseconds, may h (.delay milliseconds)
  settle : ∀ h input, start <+: h → Settling P opened accepts h input → may h (.settleJob input)

end

section
variable {P : Platform} {opened : LocOpenJobResult} {τ : Type}
  {accepts : List GatewayEvent → List UInt8 → PaidJobSettlement → Prop}
  {may : List GatewayEvent → Call → Prop} {start : List GatewayEvent}

variable {h : List GatewayEvent} {validate : Option (List UInt8 → PaidJobSettlement → GatewayProg τ)}
  {body : List UInt8} {request : HttpRequest} {response : HttpResponse} {input : PaidJobRequest τ}

theorem ClaimedIn.later (hh : h <+: h')
    (hclaim : ClaimedIn P opened h claim) : ClaimedIn P opened h' claim := by
  cases hclaim with
  | headers hmem hheader hjob => exact .headers (hh.subset hmem) hheader hjob
  | exchange hmem hraw hown hexchange => exact .exchange (hh.subset hmem) hraw hown hexchange
  | settlement hmem hstatus hraw hsettled hexchange =>
    exact .settlement (hh.subset hmem) hstatus hraw hsettled hexchange

/-- A callback whose calls are allowed and that leaves what `accepts` says. -/
def Validates (accepts : List GatewayEvent → List UInt8 → PaidJobSettlement → Prop)
    (may : List GatewayEvent → Call → Prop) (start : List GatewayEvent)
    (validate : Option (List UInt8 → PaidJobSettlement → GatewayProg τ)) : Prop :=
  ∀ f ∈ validate, ∀ body settlement h, start <+: h →
    Keeps may (fun h' _ => h <+: h' ∧ accepts h' body settlement) (f body settlement) h

theorem Validates.none :
    Validates accepts may start (none : Option (List UInt8 → PaidJobSettlement → GatewayProg τ)) := by
  intro f hf
  cases hf

theorem validated_keeps (hvalidate : Validates accepts may start validate) (hstart : start <+: h)
    (hnone : validate = none →
      (∃ body, accepts h body settlement) ∨ LookedUp opened h ∨ settlement.actualUnits = 0) :
    Keeps may (fun h' _ => h <+: h' ∧
        ((∃ body, accepts h' body settlement) ∨ LookedUp opened h' ∨ settlement.actualUnits = 0))
      (validated validate body settlement) h := by
  cases validate with
  | none => exact .pure ⟨List.prefix_refl h, hnone rfl⟩
  | some f =>
    refine (hvalidate f rfl body settlement h hstart).bind ?_
    intro h' terminal hterminal
    exact .pure ⟨hterminal.1, .inl ⟨body, hterminal.2⟩⟩

theorem settle_keeps
    (hserves : Serves P opened accepts may start) (hvalidate : Validates accepts may start validate)
    (hstart : start <+: h) (hclaim : ClaimedIn P opened h claim)
    (hnone : validate = none →
      (∀ settlement, ∃ body, accepts h body settlement) ∨ LookedUp opened h ∨ claim.actualUnits = 0) :
    Keeps may (fun h' _ => Accounted opened h') (settle validate opened claim body) h := by
  refine Keeps.lift.bind ?_
  rintro h settlement ⟨rfl, hsettlement⟩
  have hunits := (validateSettlement_ok hsettlement).claimedUnits
  have hother : validate = none →
      (∃ body, accepts h body settlement) ∨ LookedUp opened h ∨ settlement.actualUnits = 0 := by
    intro hn
    rw [hunits]
    exact (hnone hn).imp_left fun hfree => hfree settlement
  refine (validated_keeps hvalidate hstart hother).bind ?_
  rintro h' terminal ⟨hlater, hreason⟩
  have hsettling : Settling P opened accepts h' (settleInput opened settlement) :=
    .mk hsettlement rfl (hclaim.later hlater) hreason
  refine (Keeps.attempt (hserves.settle h' _ (hstart.trans hlater) hsettling)).bind ?_
  rintro _ accounting ⟨answer, rfl, rfl⟩
  refine Keeps.lift.bind ?_
  rintro _ _ ⟨rfl, -⟩
  refine .pure ⟨settleInput opened settlement, accounting, ?_, rfl⟩
  exact List.mem_append_right h' (List.mem_singleton.mpr rfl)

theorem fetched_keeps (hserves : Serves P opened accepts may start) :
    Keeps may (fun h' response => h' = h ++ [⟨.fetch request, some response⟩]) (fetched request) h := by
  refine (Keeps.attempt (hserves.fetch h request)).weaken ?_
  rintro h' response ⟨answer, rfl, hanswer⟩
  cases answer with
  | none => cases hanswer
  | some found =>
    cases hanswer
    rfl

theorem settleFromExchange_keeps {exchange : Exchange} (hserves : Serves P opened accepts may start)
    (hvalidate : Validates accepts may start validate) (hstart : start <+: h)
    (hclaim : ∀ claim, exchangeClaim P exchange = .ok claim → ClaimedIn P opened h claim)
    (hnone : validate = none →
      (∀ h settlement, ∃ body, accepts h body settlement) ∨ LookedUp opened h) :
    Keeps may (fun h' _ => Accounted opened h') (settleFromExchange P validate opened exchange body) h := by
  refine Keeps.lift.bind ?_
  rintro h claim ⟨rfl, hexchange⟩
  refine settle_keeps hserves hvalidate hstart (hclaim claim hexchange) ?_
  intro hn
  exact (hnone hn).imp (fun hfree => hfree h) .inl

theorem LookedUp.later (hh : h <+: h') (hlooked : LookedUp opened h) :
    LookedUp opened h' := by
  obtain ⟨answer, hmem⟩ := hlooked
  exact ⟨answer, hh.subset hmem⟩

theorem pause_keeps {attempts : Nat} (hserves : Serves P opened accepts may start) :
    Keeps may (fun h' _ => h <+: h') (pause P attempts) h := by
  cases attempts with
  | zero => exact .pure (List.prefix_refl h)
  | succ n =>
    refine (Keeps.invoke (hserves.delay h P.pollDelayMs)).weaken ?_
    rintro h' _ rfl
    exact List.prefix_append h _

theorem booked_unresolved (value : Unresolved) :
    Booked opened h (Recovered.unresolved value : Recovered τ) := by
  intro settled hsettled
  cases hsettled

theorem pollLoop_keeps {brokerJobId : String} {attempts : Nat}
    (hserves : Serves P opened accepts may start) (hvalidate : Validates accepts may start validate)
    (hstart : start <+: h)
    (hnone : validate = none →
      (∀ h settlement, ∃ body, accepts h body settlement) ∨ LookedUp opened h) :
    Keeps may (Booked opened) (pollLoop P validate opened brokerJobId body attempts) h := by
  induction attempts generalizing h with
  | zero => exact .pure (booked_unresolved _)
  | succ attempts ih =>
    refine (fetched_keeps hserves).bind ?_
    rintro h' response rfl
    have hlater : h <+: h ++ [⟨.fetch (settlementRequest opened brokerJobId), some response⟩] :=
      List.prefix_append h _
    refine Keeps.lift.bind ?_
    rintro _ raw ⟨rfl, hraw⟩
    split
    · rename_i hstatus
      refine Keeps.lift.bind ?_
      rintro _ exchange ⟨rfl, hexchange⟩
      refine (settleFromExchange_keeps hserves hvalidate (hstart.trans hlater) ?_ ?_).bind ?_
      · intro claim hclaim
        exact .settlement (List.mem_append_right h (List.mem_singleton.mpr rfl)) hstatus hraw hexchange
          hclaim
      · intro hn
        exact (hnone hn).imp_right (LookedUp.later hlater)
      · intro h' settled haccounted
        exact .pure fun _ _ => haccounted
    · refine Keeps.lift.bind ?_
      rintro _ _ ⟨rfl, -⟩
      refine Keeps.lift.bind ?_
      rintro _ _ ⟨rfl, -⟩
      refine (pause_keeps hserves).bind ?_
      intro h' _ hpaused
      refine ih ((hstart.trans hlater).trans hpaused) ?_
      intro hn
      exact (hnone hn).imp_right (LookedUp.later (hlater.trans hpaused))

theorem recoverExchange_keeps (hserves : Serves P opened accepts may start)
    (hstart : start <+: h) : Keeps may (Booked opened) (recoverExchange P τ opened) h := by
  refine (fetched_keeps hserves).bind ?_
  rintro h' response rfl
  have hlater : h <+: h ++ [⟨.fetch (exchangeRequest opened), some response⟩] := List.prefix_append h _
  have hmem : (⟨.fetch (exchangeRequest opened), some response⟩ : GatewayEvent) ∈
      h ++ [⟨.fetch (exchangeRequest opened), some response⟩] :=
    List.mem_append_right h (List.mem_singleton.mpr rfl)
  refine Keeps.lift.bind ?_
  rintro _ raw ⟨rfl, hraw⟩
  refine Keeps.lift.bind ?_
  rintro _ exchange ⟨rfl, hexchange⟩
  split
  · refine (settleFromExchange_keeps hserves .none (hstart.trans hlater) ?_ ?_).bind ?_
    · intro claim hclaim
      exact .exchange hmem hraw hexchange hclaim
    · intro _
      exact .inr ⟨_, hmem⟩
    · intro h' settled haccounted
      exact .pure fun _ _ => haccounted
  · exact pollLoop_keeps hserves .none (hstart.trans hlater) fun _ => .inr ⟨_, hmem⟩
  · refine Keeps.lift.bind ?_
    intro h' value _
    exact .pure (booked_unresolved _)

theorem jobClaim_zero {header : HeaderClaim} {envelope : LocSettlementEnvelope}
    (hunits : header.units = "0") (h : decodeSettlement P header.settlement = .ok envelope) :
    header.jobClaim P = .ok ⟨header.brokerJobId, 0, header.unit, envelope⟩ := by
  have hzero : safeUnits (some (.str "0")) = .ok 0 := by decide
  simp only [HeaderClaim.jobClaim, hunits, hzero, h, bind, Except.bind, pure, Except.pure]

theorem refused_keeps (hserves : Serves P opened accepts may start) (hstart : start <+: h)
    (hmem : ⟨.fetch request, some response⟩ ∈ h) :
    Keeps may (fun h' result => result.opened = opened ∧ Booked opened h' result.outcome)
      (refused P τ opened response body) h := by
  unfold refused
  simp only
  split
  · split
    · rename_i header hheader
      obtain ⟨hclaim, hunits⟩ := Option.filter_eq_some_iff.mp hheader
      refine Keeps.lift.bind ?_
      rintro h envelope ⟨rfl, henvelope⟩
      have hjob := jobClaim_zero (by simpa using hunits) henvelope
      refine (settle_keeps hserves .none hstart (.headers hmem hclaim hjob) ?_).bind ?_
      · intro _
        exact .inr (.inr rfl)
      · intro h' _ _
        exact .throw
    · refine (recoverExchange_keeps hserves hstart).bind ?_
      intro h' recovered _
      split
      · exact .throw
      · exact .throw
  · split
    · refine (recoverExchange_keeps hserves hstart).bind ?_
      intro h' recovered hbooked
      exact .pure ⟨rfl, hbooked⟩
    · exact .throw

theorem acceptedOutcome_keeps (hserves : Serves P opened accepts may start)
    (hvalidate : Validates accepts may start input.validateTerminal)
    (hfree : input.validateTerminal = none → ∀ h settlement, ∃ body, accepts h body settlement)
    (hstart : start <+: h) (hmem : ⟨.fetch request, some response⟩ ∈ h) :
    Keeps may (Booked opened) (acceptedOutcome P input opened response body) h := by
  unfold acceptedOutcome
  split
  · rename_i header _ hheader
    refine Keeps.lift.bind ?_
    rintro h claim ⟨rfl, hclaim⟩
    refine (settle_keeps hserves hvalidate hstart (.headers hmem hheader hclaim) ?_).bind ?_
    · intro hnone
      exact .inl (hfree hnone h)
    · intro h' settled haccounted
      exact .pure fun _ _ => haccounted
  · exact pollLoop_keeps hserves hvalidate hstart fun hnone => .inl (hfree hnone)
  · exact recoverExchange_keeps hserves hstart

theorem accepted_keeps (hserves : Serves P opened accepts may start)
    (hvalidate : Validates accepts may start input.validateTerminal)
    (hfree : input.validateTerminal = none → ∀ h settlement, ∃ body, accepts h body settlement)
    (hstart : start <+: h) (hmem : ⟨.fetch request, some response⟩ ∈ h) :
    Keeps may (fun h' result => result.opened = opened ∧ Booked opened h' result.outcome)
      (accepted P input opened response body) h := by
  refine (acceptedOutcome_keeps hserves hvalidate hfree hstart hmem).bind ?_
  intro h' outcome hbooked
  cases outcome with
  | settled value => exact .pure ⟨rfl, hbooked⟩
  | unresolved value => exact .pure ⟨rfl, hbooked⟩

/-- The calls of `execute`: it opens the job once, and serves it from then on. -/
theorem execute_keeps (accepts : List GatewayEvent → List UInt8 → PaidJobSettlement → Prop)
    (hopen : ∀ openInput, validateRequest input = .ok () → openJobInput P input = .ok openInput →
      may h (.openJob openInput))
    (hserves : ∀ openInput opened,
      Serves P opened accepts may (h ++ [⟨.openJob openInput, .ok opened⟩]))
    (hvalidate : ∀ openInput opened,
      Validates accepts may (h ++ [⟨.openJob openInput, .ok opened⟩]) input.validateTerminal)
    (hfree : input.validateTerminal = none → ∀ h settlement, ∃ body, accepts h body settlement) :
    Keeps may (fun h' result => Booked result.opened h' result.outcome) (execute P input) h := by
  refine Keeps.lift.bind ?_
  rintro _ _ ⟨rfl, hvalid⟩
  refine Keeps.lift.bind ?_
  rintro h openInput ⟨rfl, hinput⟩
  refine (Keeps.attempt (hopen openInput hvalid hinput)).bind ?_
  rintro h' opened ⟨answer, rfl, rfl⟩
  have hserve := hserves openInput opened
  refine Keeps.lift.bind ?_
  rintro _ request ⟨rfl, -⟩
  refine (Keeps.invoke (hserve.fetch _ request)).bind ?_
  rintro h' answer rfl
  cases answer with
  | none =>
    refine (Keeps.tryCatch (recoverExchange_keeps hserve (List.prefix_append _ _)) ?_).bind ?_
    · intro h' e _
      exact .throw
    · intro h' recovered hbooked
      exact .pure hbooked
  | some response =>
    have hmem : (⟨.fetch request, some response⟩ : GatewayEvent) ∈
        h ++ [⟨.openJob openInput, .ok opened⟩] ++ [⟨.fetch request, some response⟩] :=
      List.mem_append_right _ (List.mem_singleton.mpr rfl)
    cases hbody : response.body with
    | none =>
      simp only [hbody]
      exact .throw
    | some body =>
      simp only [hbody]
      split
      · refine (accepted_keeps hserve (hvalidate openInput opened) hfree (List.prefix_append _ _) hmem).weaken ?_
        rintro h' result ⟨rfl, hbooked⟩
        exact hbooked
      · refine (refused_keeps hserve (List.prefix_append _ _) hmem).weaken ?_
        rintro h' result ⟨rfl, hbooked⟩
        exact hbooked

end

end LivepeerTranscode.Gateway
