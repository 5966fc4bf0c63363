import LivepeerTranscode.Gateway.JobSettlement
import LivepeerTranscode.Gateway.RecoveryRequest
import LivepeerTranscode.Gateway.World

/-!
# VOD runs and recovery side by side

Runs of assets and ticks of recovery over one database, in any interleaving and with any of
them lost at any point.
-/

namespace LivepeerTranscode.Gateway
open Actors Checked Interaction NodeText
set_option autoImplicit false

section
variable (P : Platform)

def recoveryTick (deps : PaidAbrRecoveryDeps) (limit : Int) : GatewayProg Nat := do
  let now ← invoke Call.now
  recoverPaidAbrOperations P deps now limit

inductive VodStarts : Prog Call Call.Answer Unit → Prop where
  | run (deps : PaidAbrOrchestratorDeps) (asset : Asset) (route : SelectedWorkerRoute) :
      VodStarts (discard (runPaidAbrAsset P deps asset route))
  | tick (deps : PaidAbrRecoveryDeps) (limit : Int) : VodStarts (discard (recoveryTick P deps limit))

def vodWorld (pg : Postgres) (cipher : OperationSecretCipher) (advance : Time → Time → Prop) :
    World GatewayState Call Call.Answer :=
  gatewayWorld pg cipher advance (VodStarts P)

def GatewayState.Empty (s : GatewayState) : Prop := s.db.operations = ∅

def timely (h : List GatewayEvent) (now : Time) : Prop := (⟨.now, now⟩ : GatewayEvent) ∈ h

def vodOpens (h : List GatewayEvent) (input : LocOpenJobInput) : Prop :=
  (HasInserted h ∧ opensPersisted P h input) ∨ opensClaimed P h input

theorem vod_obeys {p : Prog Call Call.Answer Unit} (hp : VodStarts P p) :
    Obeys (vodRule (vodOpens P) timely) (fun _ _ => True) p [] := by
  cases hp with
  | run deps asset route =>
    refine discard_obeys ((runPaidAbrAsset_keeps timely).mono ?_)
    intro h e he
    exact vodRule_mono (fun _ hopen => .inl hopen) he
  | tick deps limit =>
    have htick : Keeps (vodRule (vodOpens P) timely) (fun _ _ => True) (recoveryTick P deps limit) [] := by
      refine (Keeps.invoke trivial).bind ?_
      rintro _ now rfl
      refine (recoverPaidAbrOperations_keeps timely ?_).mono ?_
      · exact List.mem_singleton.mpr rfl
      · intro h e he
        exact vodRule_mono (fun _ hopen => .inr hopen) he
    exact discard_obeys htick

end

/-! ## Settled rows -/

abbrev GatewayLog : Type := List (Nat × GatewayEvent)

/-- LOC has accepted a settlement of the LOC operation of the row. -/
def LocSettled (log : GatewayLog) (row : OperationRow) : Prop :=
  ∃ n input answer, (n, ⟨.settleJob input, .ok answer⟩) ∈ log ∧
    row.locOperationId = some input.operationId

theorem LocSettled.later {log : GatewayLog} {row row' : OperationRow} (h : LocSettled log row)
    (hloc : row'.locOperationId = row.locOperationId) (entry : Nat × GatewayEvent) :
    LocSettled (log ++ [entry]) row' := by
  obtain ⟨n, input, answer, hmem, hid⟩ := h
  exact ⟨n, input, answer, List.mem_append_left _ hmem, hloc.trans hid⟩

/-- What the status of a row says. -/
structure StatusMeans (log : GatewayLog) (row : OperationRow) : Prop where
  terminal : row.terminalAt.isSome = true → row.status = "settled"
  settled : row.status = "settled" → row.terminalAt.isSome = true ∨ LocSettled log row

structure SettledRows (s : GatewayState) (log : GatewayLog) : Prop where
  terminals : s.db.Sealed
  rows : ∀ id row, s.db.operations.lookup id = some row → StatusMeans log row
  /-- A report of settled is that of its version of the row. -/
  reports : ∀ n id token report progressed,
    (n, ⟨.repo (.recordProgress id token report), .ok (some progressed)⟩) ∈ log →
    report.status = "settled" → ∃ row version, s.db.operations.lookup id = some row ∧
      decimal progressed.lifecycleVersion = some version ∧ version ≤ row.lifecycleVersion ∧
      (row.lifecycleVersion = version → LocSettled log row)

section
variable {P : Platform} {pg : Postgres} {cipher : OperationSecretCipher}
  {advance : Time → Time → Prop} {s s' : GatewayState} {log : GatewayLog} {n : Nat} {e : Call}
  {answer : e.Answer} {exec : Execution} {id : String} {call : RepoCall} {row row' : OperationRow}

theorem StatusMeans.later (h : StatusMeans log row) (hstatus : row'.status = row.status)
    (hterminal : row'.terminalAt = row.terminalAt) (hloc : row'.locOperationId = row.locOperationId)
    (entry : Nat × GatewayEvent) : StatusMeans (log ++ [entry]) row' := by
  constructor
  · intro hsome
    rw [hstatus]
    rw [hterminal] at hsome
    exact h.terminal hsome
  · intro hsettled
    rw [hstatus] at hsettled
    rw [hterminal]
    exact (h.settled hsettled).imp_right fun hloc' => hloc'.later hloc entry

theorem heldBy_version {claim : PaidOperationClaim} (h : row.heldBy claim = true) :
    decimal claim.version = some row.lifecycleVersion := by
  simp only [OperationRow.heldBy, Bool.and_eq_true, beq_iff_eq] at h
  exact h.1.2.symm

theorem SettledRows.move (h : SettledRows s log) (hvod : VodStatement timely (history n log) call)
    (hrow : s.db.operations.lookup id = some row) (hmove : RowMove pg exec id row call row')
    (entry : Nat × GatewayEvent) : StatusMeans (log ++ [entry]) row' := by
  have hbefore := h.rows id row hrow
  have hopen := hmove.nonterminal fun hsome => (h.terminals id row hrow hsome).1
  have hnonterminal : ¬ row.terminalAt.isSome = true := by simp [hopen]
  cases hmove with
  | claimRecoverable _ _ => refine hbefore.later ?_ ?_ ?_ entry <;> rfl
  | progress _ _ _ =>
    refine ⟨fun hsome => absurd hsome hnonterminal, fun hsettled => .inr ?_⟩
    obtain ⟨input, accepted, hmem, hid⟩ := hvod.2 hsettled
    refine ⟨n, input, accepted, List.mem_append_left _ (mem_history.mp hmem), ?_⟩
    simp [OperationRow.progress, hid]
  | retry hheld _ =>
    refine ⟨fun hsome => absurd hsome hnonterminal, fun hsettled => .inr ?_⟩
    obtain ⟨token, report, progressed, hmem, hstatus, hversion⟩ := hvod hsettled
    obtain ⟨found, version, hfound, hdecimal, -, hsame⟩ :=
      h.reports n id token report progressed (mem_history.mp hmem) hstatus
    cases hfound.symm.trans hrow
    have hcurrent := heldBy_version hheld
    rw [hversion, hdecimal] at hcurrent
    cases hcurrent
    exact (hsame rfl).later rfl entry
  | vodTerminal _ _ _ _ _ _ => exact ⟨fun _ => rfl, fun _ => .inl rfl⟩
  | _ => exact hvod.elim

theorem SettledRows.act (h : SettledRows s log) (hvod : vodRule (vodOpens P) timely (history n log) e)
    (hact : (vodWorld P pg cipher advance).act s e answer s') :
    SettledRows s' (log ++ [(n, ⟨e, answer⟩)]) := by
  refine ⟨act_sealed h.terminals hact, ?_, ?_⟩
  · intro id row' hrow'
    cases act_row hact id with
    | same hsame => exact (h.rows id row' (hsame.symm.trans hrow')).later rfl rfl rfl _
    | move hcall _ hrow hafter hmove =>
      subst hcall
      cases hafter.symm.trans hrow'
      exact h.move hvod hrow hmove _
    | create hcall _ _ hafter hcreated =>
      subst hcall
      cases hafter.symm.trans hrow'
      cases hcreated with
      | insert => exact hvod.elim
      | insertWithSecrets _ _ _ =>
        refine ⟨fun hsome => ?_, fun hsettled => ?_⟩
        · cases hsome
        · have hopening : "opening" = "settled" := hvod.2.1.symm.trans hsettled
          exact absurd hopening (by decide)
  · intro m id token report progressed hmem hstatus
    rcases List.mem_append.mp hmem with hold | hnew
    · obtain ⟨row, version, hrow, hdecimal, hle, hsame⟩ :=
        h.reports m id token report progressed hold hstatus
      cases act_row hact id with
      | same hkept =>
        exact ⟨row, version, hkept.trans hrow, hdecimal, hle, fun heq => (hsame heq).later rfl _⟩
      | move _ _ hbefore hafter hmove =>
        cases hbefore.symm.trans hrow
        have hversion := hmove.lifecycleVersion
        exact ⟨_, version, hafter, hdecimal, by omega, fun heq => by omega⟩
      | create _ _ hnone _ _ => cases hnone.symm.trans hrow
    · have hentry := List.mem_singleton.mp hnew
      simp only [Prod.mk.injEq, Event.mk.injEq] at hentry
      obtain ⟨rfl, rfl, hanswer⟩ := hentry
      cases eq_of_heq hanswer
      obtain ⟨db, exec, hbeside, -, hstatement⟩ := act_answer hact
      obtain ⟨row, units, hrow, hafter, rfl⟩ := recordProgress_answer hstatement
      refine ⟨_, _, hafter, decimal_toString _, le_refl _, fun _ => ?_⟩
      obtain ⟨input, accepted, hsettle, hid⟩ := hvod.2 hstatus
      refine ⟨m, input, accepted, List.mem_append_left _ (mem_history.mp hsettle), ?_⟩
      simp [OperationRow.progress, hid]

theorem SettledRows.empty (hempty : s.Empty) : SettledRows s [] := by
  have hnone : ∀ id, s.db.operations.lookup id = none := by
    intro id
    rw [hempty]
    rfl
  refine ⟨?_, ?_, ?_⟩
  · intro id row hrow
    cases (hnone id).symm.trans hrow
  · intro id row hrow
    cases (hnone id).symm.trans hrow
  · intro n id token report progressed hmem
    cases hmem

theorem claimRecoverable_granted {kind : PaidOperationKind} {owner : String} {now : Time} {lease : Date}
    {limit : Int} {operations : List PaidOperation} {operation : PaidOperation} {db db' : Database}
    (h : claimRecoverable exec kind owner now lease limit db = .ok (operations, db'))
    (hmem : operation ∈ operations) : ∃ row row', db.operations.lookup operation.id = some row ∧
      row.recoverable kind now = true ∧ operation.terminalAt = row.terminalAt ∧
      db'.operations.lookup operation.id = some row' ∧ row'.recoveryLeaseExpiresAt = lease := by
  simp only [claimRecoverable, ok_bind_iff, pure, Except.pure, Except.ok.injEq, Prod.mk.injEq] at h
  obtain ⟨_, _, _, _, stored, hupdate, rfl, rfl⟩ := h
  obtain ⟨⟨target, row⟩, hrow, rfl⟩ := List.mem_map.mp hmem
  obtain ⟨row', hrow'⟩ := Database.updateEach_stored hupdate hrow
  have hsorted := List.mem_of_mem_take hrow
  rw [(List.perm_insertionSort oldestUpdate _).mem_iff] at hsorted
  obtain ⟨hscanned, hrecoverable⟩ := List.mem_filter.mp hsorted
  exact ⟨row, _, Database.mem_rows hscanned, hrecoverable, rfl, hrow', rfl⟩

end

/-- Runs and recovery in any interleaving, with any answers and losses and whatever the clock
does: a terminal row is settled; a settled row that is not terminal is one whose settlement
LOC has accepted; and recovery is handed out rows that are not terminal. -/
theorem vod_settled_rows {P : Platform} {pg : Postgres} {cipher : OperationSecretCipher}
    {advance : Time → Time → Prop} {c : Scene GatewayState Call Call.Answer}
    (h : Reachable (vodWorld P pg cipher advance) GatewayState.Empty c) :
    (∀ id row, c.shared.db.operations.lookup id = some row → StatusMeans c.log row) ∧
    ∀ n kind owner now lease limit operations,
      (n, ⟨.repo (.claimRecoverable kind owner now lease limit), .ok operations⟩) ∈ c.log →
      ∀ operation ∈ operations, operation.terminalAt = none := by
  have hrows : SettledRows c.shared c.log :=
    h.invariant (fun p hp => vod_obeys P hp) (fun s hs => SettledRows.empty hs)
      fun hrows hmay hact => hrows.act hmay hact
  refine ⟨hrows.rows, ?_⟩
  refine h.invariant (I := fun _ log => ∀ n kind owner now lease limit operations,
    (n, ⟨.repo (.claimRecoverable kind owner now lease limit), .ok operations⟩) ∈ log →
    ∀ operation ∈ operations, operation.terminalAt = none) (fun p hp => vod_obeys P hp) ?_ ?_
  · intro s _ n kind owner now lease limit operations hmem
    cases hmem
  · intro s log n e answer s' hlog _ hact m kind owner now lease limit operations hmem operation hop
    rcases List.mem_append.mp hmem with hold | hnew
    · exact hlog m kind owner now lease limit operations hold operation hop
    · have hentry := List.mem_singleton.mp hnew
      simp only [Prod.mk.injEq, Event.mk.injEq] at hentry
      obtain ⟨rfl, rfl, hanswer⟩ := hentry
      cases eq_of_heq hanswer
      obtain ⟨db, exec, -, -, hstatement⟩ := act_answer hact
      obtain ⟨row, _, -, hrecoverable, hterminal, -⟩ := claimRecoverable_granted hstatement hop
      simp only [OperationRow.recoverable, Bool.and_eq_true, Option.isNone_iff_eq_none] at hrecoverable
      exact hterminal.trans hrecoverable.1.1.2

/-! ## A settlement without its terminal -/

section
variable {P : Platform} {τ : Type} {h : List GatewayEvent} {opened : LocOpenJobResult}
  {response : HttpResponse} {raw : JsonValue} {exchange : Exchange} {claim : JobClaim}
  {settlement : PaidJobSettlement} {accounting : LocSettleJobResult}

theorem ask_canReturn {call : RepoCall} (answer : call.Answer) :
    CanReturn (fun h' value => h' = h ++ [⟨.repo call, .ok answer⟩] ∧ value = answer) (ask call) h :=
  ⟨_, _, .step (.ok answer) (.refl _), rfl, rfl⟩

/-- The calls of a recovery that finds the exchange settled. -/
def recoveryCalls (opened : LocOpenJobResult) (response : HttpResponse) (settlement : PaidJobSettlement)
    (accounting : LocSettleJobResult) : List GatewayEvent :=
  [⟨.fetch (exchangeRequest opened), some response⟩,
    ⟨.settleJob (settleInput opened settlement), .ok accounting⟩]

theorem settleFromExchange_canReturn (hclaim : exchangeClaim P exchange = .ok claim)
    (hvalid : validateSettlement opened claim = .ok settlement)
    (hwork : accounting.workId = opened.workId) :
    CanReturn (fun h' settled => h' = h ++ [⟨.settleJob (settleInput opened settlement), .ok accounting⟩] ∧
        settled = ⟨settlement, accounting, none⟩)
      (settleFromExchange P (none : Option (List UInt8 → PaidJobSettlement → GatewayProg τ)) opened exchange [])
      h := by
  refine (CanReturn.lift hclaim).bind ?_
  rintro _ claim ⟨rfl, rfl⟩
  refine (CanReturn.lift hvalid).bind ?_
  rintro _ settlement ⟨rfl, rfl⟩
  refine (CanReturn.lift (x := .ok none) rfl).bind ?_
  rintro _ _ ⟨rfl, rfl⟩
  refine (CanReturn.attempt (a := accounting) (.ok accounting) rfl).bind ?_
  rintro _ accounting ⟨rfl, rfl⟩
  refine (CanReturn.lift (a := ()) (by simp [hwork])).bind ?_
  rintro _ _ ⟨rfl, -⟩
  exact .pure ⟨rfl, rfl⟩

theorem recoverExchange_canSettle (hread : readJson P response = .ok raw)
    (hown : ownExchange opened raw = .ok exchange) (houtcome : exchange.outcome = .settled)
    (hclaim : exchangeClaim P exchange = .ok claim)
    (hvalid : validateSettlement opened claim = .ok settlement)
    (hwork : accounting.workId = opened.workId) :
    CanReturn (fun h' outcome => h' = h ++ recoveryCalls opened response settlement accounting ∧
      outcome = .settled ⟨settlement, accounting, none⟩) (recoverExchange P τ opened) h := by
  refine (CanReturn.attempt (a := response) (some response) rfl).bind ?_
  rintro _ response ⟨rfl, rfl⟩
  refine (CanReturn.lift hread).bind ?_
  rintro _ raw ⟨rfl, rfl⟩
  refine (CanReturn.lift hown).bind ?_
  rintro _ exchange ⟨rfl, rfl⟩
  simp only [houtcome]
  refine (settleFromExchange_canReturn hclaim hvalid hwork).bind ?_
  rintro _ settled ⟨rfl, rfl⟩
  exact .pure ⟨by simp [recoveryCalls], rfl⟩

theorem execute_canSettle {job : PaidJobRequest τ} {binding : LocRouteBinding} {request : HttpRequest}
    (hjob : validateRequest job = .ok ()) (hbinding : routeBindingFor job.route = .ok binding)
    (hrequest : jobRequest P job opened = .ok request) {t : List GatewayEvent} {outcome : Recovered τ}
    (hrecover : ∀ h, CanReturn (fun h' found => h' = h ++ t ∧ found = outcome) (recoverExchange P τ opened) h) :
    CanReturn (fun h' result => h' = h ++ [⟨.openJob (openInputOn P job binding), .ok opened⟩,
        ⟨.fetch request, none⟩] ++ t ∧ result = withoutBroker opened outcome) (execute P job) h := by
  have hinput : openJobInput P job = .ok (openInputOn P job binding) := by
    rw [openJobInput, hbinding]
    rfl
  refine (CanReturn.lift hjob).bind ?_
  rintro _ _ ⟨rfl, -⟩
  refine (CanReturn.lift hinput).bind ?_
  rintro _ _ ⟨rfl, rfl⟩
  refine (CanReturn.attempt (a := opened) (.ok opened) rfl).bind ?_
  rintro _ opened ⟨rfl, rfl⟩
  refine (CanReturn.lift hrequest).bind ?_
  rintro _ request ⟨rfl, rfl⟩
  refine (CanReturn.invoke (e := Call.fetch request) none).bind ?_
  rintro _ _ ⟨rfl, rfl⟩
  refine (CanReturn.tryCatch (hrecover _)).bind ?_
  rintro _ outcome ⟨rfl, rfl⟩
  exact .pure ⟨by simp, rfl⟩

def unresolvedReport (result : PaidJobResult τ) : PaidOperationProgress :=
  { status := result.outcome.kind
    requestId := some result.opened.requestId
    locOperationId := some result.opened.operationId
    brokerJobId := result.outcome.brokerJobId }

def unresolvedCalls (id : String) (claim : PaidOperationClaim) (owner : String) (result : PaidJobResult τ)
    (retryMs : Int) (progressed retried : PaidOperation) (now : Time) : List GatewayEvent :=
  [⟨.repo (.recordProgress id claim (unresolvedReport result)), .ok (some progressed)⟩, ⟨.now, now⟩,
    ⟨.repo (.recordRetry id ⟨owner, progressed.lifecycleVersion, claim.leaseExpiresAt⟩
      ⟨result.outcome.kind, now + retryMs, result.outcome.kind⟩), .ok (some retried)⟩]

theorem recordUnresolved_canReturn {id owner message : String} {claim : PaidOperationClaim}
    {result : PaidJobResult τ} {retryMs : Int} (progressed retried : PaidOperation) (now : Time) :
    CanReturn (fun h' _ => h' = h ++ unresolvedCalls id claim owner result retryMs progressed retried now)
      (recordUnresolved id claim owner result message retryMs) h := by
  refine (ask_canReturn (some progressed)).bind ?_
  rintro _ _ ⟨rfl, rfl⟩
  refine (CanReturn.invoke (e := Call.now) now).bind ?_
  rintro _ now ⟨rfl, rfl⟩
  refine (ask_canReturn (some retried)).bind ?_
  rintro _ _ ⟨rfl, rfl⟩
  exact .pure (by simp [unresolvedCalls, unresolvedReport])

end

/-- The digest of the run, and the replies of the broker. -/
def settlingPlatform : Platform := { samplePlatform with sha256Hex := vodPlatform.sha256Hex }

/-- The answers of the run, with what the database answers. -/
def vodStarted : Answers := { vodAnswers with inserted := rowToOperation "op-1" vodRow }

def settlingStart : AbrStart :=
  ⟨⟨vodAsset, vodRoute, vodProbe, vodAnswers.funding, rowsBy (fun _ => vodAnswers.keyBytes) (presets .baseline).renditions,
    vodAnswers.outputs, vodAnswers.manifest, vodAnswers.requestId, vodEncoded⟩, "op-1",
    "job_" ++ NodeText.hexText vodAnswers.keyBytes, some 1000, vodStored⟩

set_option maxRecDepth 100000 in
theorem settling_starts :
    (startAbr settlingPlatform vodDeps vodAsset vodRoute).run.outcome vodReply = .ok settlingStart := by
  with_unfolding_all rfl

def settlingQuiet : List GatewayEvent := (startAbr settlingPlatform vodDeps vodAsset vodRoute).run.trace vodReply

def Call.operates : Call → Bool
  | .repo _ => true
  | _ => false

theorem settlingQuiet_outside : ∀ event ∈ settlingQuiet, event.effect.outside ∨ event = ⟨.now, 0⟩ := by
  have hall : (settlingQuiet.all fun event => !event.effect.operates) = true := by decide +kernel
  intro event hevent
  have hcall := List.all_eq_true.mp hall event hevent
  have hanswer := mem_trace vodReply hevent
  obtain ⟨effect, answer⟩ := event
  cases effect with
  | repo call => cases hcall
  | now =>
    rw [hanswer]
    exact .inr rfl
  | _ => exact .inl trivial

def settledAccounting : LocSettleJobResult :=
  ⟨"loc-1", "work-1", 12, "12000", "0", "SETTLED", "2026-01-01T00:00:00Z"⟩

def settledResult : PaidJobResult AbrTerminalResult :=
  withoutBroker sampleOpened (.settled ⟨sampleSettlement, settledAccounting, none⟩)

def settledPost : HttpRequest := { samplePost with body := vodEncoded.body }

theorem settling_posts : jobRequest settlingPlatform (settlingStart.intent.job settlingPlatform) sampleOpened =
    .ok settledPost :=
  sample_posts rfl rfl rfl

theorem readJson_digest (P : Platform) (digest : List UInt8 → String) (response : HttpResponse) :
    readJson { P with sha256Hex := digest } response = readJson P response := by
  rfl

theorem exchangeClaim_digest (P : Platform) (digest : List UInt8 → String) (exchange : Exchange) :
    exchangeClaim { P with sha256Hex := digest } exchange = exchangeClaim P exchange := by
  rfl

theorem settling_reads : readJson settlingPlatform sampleExchangeResponse = .ok sampleExchangeDocument :=
  (readJson_digest samplePlatform vodPlatform.sha256Hex sampleExchangeResponse).trans sampleExchange_reads

theorem settling_claims : exchangeClaim settlingPlatform sampleExchange = .ok sampleClaim :=
  (exchangeClaim_digest samplePlatform vodPlatform.sha256Hex sampleExchange).trans sampleExchange_claims

/-- The calls of the job, none of which touches the operation. -/
def settledCalls : List GatewayEvent :=
  [⟨.openJob (vodStarted.openInput settlingPlatform), .ok sampleOpened⟩, ⟨.fetch settledPost, none⟩] ++
    recoveryCalls sampleOpened sampleExchangeResponse sampleSettlement settledAccounting

theorem settling_executes (h : List GatewayEvent) :
    CanReturn (fun h' result => h' = h ++ settledCalls ∧ result = settledResult)
      (execute settlingPlatform (settlingStart.intent.job settlingPlatform)) h := by
  have hvalid : validateRequest (settlingStart.intent.job settlingPlatform) = .ok () := by decide +kernel
  have hbinding : routeBindingFor (settlingStart.intent.job settlingPlatform).route = .ok vodBinding := by
    decide +kernel
  have hrecover : ∀ h, CanReturn (fun h' found =>
      h' = h ++ recoveryCalls sampleOpened sampleExchangeResponse sampleSettlement settledAccounting ∧
        found = .settled ⟨sampleSettlement, settledAccounting, none⟩)
      (recoverExchange settlingPlatform AbrTerminalResult sampleOpened) h := fun h =>
    recoverExchange_canSettle settling_reads sampleExchange_own rfl settling_claims sampleClaim_valid rfl
  obtain ⟨t, result, hreach, hcalls, hresult⟩ := execute_canSettle hvalid hbinding settling_posts hrecover
  refine ⟨t, result, hreach, hcalls.trans ?_, hresult⟩
  rw [List.append_assoc]
  rfl

def vodReported : OperationRow :=
  vodRow.progress (unresolvedReport settledResult) ⟨none, none, none, none⟩ 0

def vodRetried : OperationRow := vodReported.retry ⟨"settled", 1000, "settled"⟩ 0

def Database.withRow (db : Database) (row : OperationRow) : Database :=
  { db with operations := db.operations.insert "op-1" row }

def vodClaim : PaidOperationClaim := ⟨"gateway-a", "1", some 1000⟩

theorem vod_reports : RepoCall.statement plainPostgres vodCipher (vodExecution 0) vodPersisted
    (.recordProgress "op-1" vodClaim (unresolvedReport settledResult)) =
      .ok (some (rowToOperation "op-1" vodReported), vodPersisted.withRow vodReported) := by
  rfl

theorem vod_retries : RepoCall.statement plainPostgres vodCipher (vodExecution 0)
    (vodPersisted.withRow vodReported)
    (.recordRetry "op-1" ⟨"gateway-a", "2", some 1000⟩ ⟨"settled", 1000, "settled"⟩) =
      .ok (some (rowToOperation "op-1" vodRetried), vodPersisted.withRow vodRetried) := by
  rfl

theorem vod_inserts : RepoCall.statement plainPostgres vodCipher (vodExecution 0) vodDatabase
    (.insertWithSecrets vodStarted.operation vodStarted.secrets "gateway-a" (some 1000)) =
      .ok (rowToOperation "op-1" vodRow, vodPersisted) := vod_persists

theorem vod_claims_settled : RepoCall.statement plainPostgres vodCipher (vodExecution 2000)
    (vodPersisted.withRow vodRetried) (.claimRecoverable .job "gateway-b" 2000 (some 3000) 10) =
      .ok ([rowToOperation "op-1" (vodRetried.claim "gateway-b" (some 3000) 2000)],
        vodPersisted.withRow (vodRetried.claim "gateway-b" (some 3000) 2000)) := by
  rfl

def vodUnresolvedCalls : List GatewayEvent :=
  unresolvedCalls "op-1" vodClaim "gateway-a" settledResult 1000 (rowToOperation "op-1" vodReported)
    (rowToOperation "op-1" vodRetried) 0

def vodRunCalls : List GatewayEvent :=
  settlingQuiet ++ vodStarted.insertion vodDeps :: settledCalls ++ vodUnresolvedCalls

theorem settling_returns : CanReturn (fun h' _ => h' = vodRunCalls)
    (runPaidAbrAsset settlingPlatform vodDeps vodAsset vodRoute) [] := by
  refine (CanReturn.computed settling_starts).bind ?_
  rintro _ _ ⟨rfl, rfl⟩
  refine (ask_canReturn (rowToOperation "op-1" vodRow)).bind ?_
  rintro _ _ ⟨rfl, rfl⟩
  refine (settling_executes _).bind ?_
  rintro _ _ ⟨rfl, rfl⟩
  obtain ⟨t, x, hreach, hcalls⟩ := recordUnresolved_canReturn (rowToOperation "op-1" vodReported)
    (rowToOperation "op-1" vodRetried) 0
  refine ⟨t, x, hreach, hcalls.trans ?_⟩
  rw [List.nil_append, vodRunCalls, List.append_cons settlingQuiet]
  rfl

abbrev settlingWorld : World GatewayState Call Call.Answer :=
  vodWorld settlingPlatform plainPostgres vodCipher (· ≤ ·)

theorem acts_quiet {s : GatewayState} {t : List GatewayEvent}
    (h : ∀ event ∈ t, event.effect.outside ∨ event = ⟨.now, s.clock⟩) : Acts settlingWorld s t s := by
  induction t with
  | nil => exact .nil s
  | cons event rest ih =>
    have hrest := ih fun later hlater => h later (List.mem_cons_of_mem event hlater)
    rcases h event List.mem_cons_self with hout | rfl
    · exact .cons ⟨le_refl _, s.db, ⟨rfl, rfl⟩, .outside hout⟩ hrest
    · exact .cons ⟨le_refl _, s.db, ⟨rfl, rfl⟩, .now⟩ hrest

theorem act_statement {call : RepoCall} {answer : call.Answer} {db db' : Database} {clock : Time}
    (h : call.statement plainPostgres vodCipher (vodExecution clock) db = .ok (answer, db')) :
    settlingWorld.act ⟨db, clock⟩ (.repo call) (.ok answer) ⟨db', clock⟩ := by
  have hrun : call.run plainPostgres vodCipher (vodExecution clock) db = (.ok answer, db') := by
    rw [RepoCall.run, h]
    rfl
  have hperforms : Performs plainPostgres vodCipher db clock (.repo call)
      (call.run plainPostgres vodCipher (vodExecution clock) db).1
      (call.run plainPostgres vodCipher (vodExecution clock) db).2 := .repo rfl
  rw [hrun] at hperforms
  exact ⟨le_refl _, db, ⟨rfl, rfl⟩, hperforms⟩

theorem settling_acts :
    Acts settlingWorld ⟨vodDatabase, 0⟩ vodRunCalls ⟨vodPersisted.withRow vodRetried, 0⟩ := by
  have hjob : ∀ event ∈ settledCalls, event.effect.outside ∨ event = ⟨.now, 0⟩ := by
    intro event hevent
    simp only [settledCalls, recoveryCalls, List.cons_append, List.nil_append, List.mem_cons,
      List.not_mem_nil, or_false] at hevent
    rcases hevent with rfl | rfl | rfl | rfl <;> exact .inl trivial
  have hnow : settlingWorld.act ⟨vodPersisted.withRow vodReported, 0⟩ .now 0
      ⟨vodPersisted.withRow vodReported, 0⟩ := ⟨le_refl _, _, ⟨rfl, rfl⟩, .now⟩
  refine Acts.append (Acts.append (acts_quiet settlingQuiet_outside)
    (.cons (act_statement vod_inserts) (acts_quiet hjob))) ?_
  exact .cons (act_statement vod_reports) (.cons hnow (.cons (act_statement vod_retries) (.nil _)))

def settledClaim : GatewayEvent :=
  ⟨.repo (.claimRecoverable .job "gateway-b" 2000 (some 3000) 10),
    .ok [rowToOperation "op-1" (vodRetried.claim "gateway-b" (some 3000) 2000)]⟩

theorem settling_reaches : ∃ actors, Reachable settlingWorld GatewayState.Empty
    ⟨⟨vodPersisted.withRow (vodRetried.claim "gateway-b" (some 3000) 2000), 2000⟩,
      vodRunCalls.map (fun event => (0, event)) ++ [(1, ⟨.now, 2000⟩), (1, settledClaim)], actors⟩ := by
  obtain ⟨t, x, hrun, hcalls⟩ := settling_returns
  rw [List.nil_append] at hcalls
  subst hcalls
  have hinit : Reachable settlingWorld GatewayState.Empty ⟨⟨vodDatabase, 0⟩, [], []⟩ := .initial rfl
  have hfirst := hinit.enters (n := 0) (.run vodDeps vodAsset vodRoute) (by simp) (by simp)
    (Reaches.bind _ hrun) settling_acts
  have hnow : settlingWorld.act ⟨vodPersisted.withRow vodRetried, 0⟩ .now 2000
      ⟨vodPersisted.withRow vodRetried, 2000⟩ := ⟨by decide, _, ⟨rfl, rfl⟩, .now⟩
  have hfresh : ∀ entry ∈ [] ++ vodRunCalls.map fun event => (0, event), entry.1 ≠ 1 := by
    intro entry hentry
    obtain ⟨event, -, rfl⟩ := List.mem_map.mp hentry
    exact Nat.zero_ne_one
  exact ⟨_, hfirst.enters (n := 1) (.tick vodRecovery 10) hfresh (by simp)
    (.step (2000 : Time) (.step (.ok [rowToOperation "op-1" (vodRetried.claim "gateway-b" (some 3000) 2000)]) (.refl _)))
    (.cons hnow (.cons (act_statement vod_claims_settled) (.nil _)))⟩

/-- A settled operation without a terminal time is claimed again. -/
theorem settled_operation_claimed : ∃ c, Reachable settlingWorld GatewayState.Empty c ∧
    (∃ row, c.shared.db.operations.lookup "op-1" = some row ∧ row.status = "settled" ∧ row.terminalAt = none) ∧
    ∃ n kind owner now lease limit operation,
      (n, ⟨.repo (.claimRecoverable kind owner now lease limit), .ok [operation]⟩) ∈ c.log ∧
      operation.id = "op-1" ∧ operation.status = "settled" := by
  obtain ⟨actors, hreach⟩ := settling_reaches
  have hclaim : (1, settledClaim) ∈ vodRunCalls.map (fun event => (0, event)) ++
      [(1, ⟨.now, 2000⟩), (1, settledClaim)] :=
    List.mem_append_right _ (List.mem_cons_of_mem _ List.mem_cons_self)
  exact ⟨_, hreach, ⟨_, AList.lookup_insert _, rfl, rfl⟩, 1, .job, "gateway-b", 2000, some 3000, 10, _, hclaim,
    rfl, rfl⟩

/-- LOC had accepted the settlement of that row. -/
theorem vod_settled_rows_sample : ∃ c row, Reachable settlingWorld GatewayState.Empty c ∧
    c.shared.db.operations.lookup "op-1" = some row ∧ row.status = "settled" ∧ LocSettled c.log row := by
  obtain ⟨actors, hreach⟩ := settling_reaches
  have hrow := AList.lookup_insert (a := "op-1") (b := vodRetried.claim "gateway-b" (some 3000) 2000)
    vodPersisted.operations
  have hmeans := (vod_settled_rows hreach).1 "op-1" _ hrow
  refine ⟨_, _, hreach, hrow, rfl, ?_⟩
  rcases hmeans.settled rfl with hterminal | hsettled
  · cases hterminal
  · exact hsettled

end LivepeerTranscode.Gateway
