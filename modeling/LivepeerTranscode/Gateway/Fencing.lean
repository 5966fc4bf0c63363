import LivepeerTranscode.Gateway.RowMoves
import LivepeerTranscode.Shared.History

/-!
# Fencing by claim tokens

A write to a claimed operation carries the owner, version and lease the gateway last
saw. The version of a row never goes back and every write under a token moves it on,
so a token is spent by the first write; a write under any other token than the
row's own changes nothing at all.
-/

namespace LivepeerTranscode.Gateway
open Checked History
set_option autoImplicit false

/-- The row's owner, version and lease are those of the claim. -/
def Database.current (db : Database) (id : String) (claim : PaidOperationClaim) : Bool :=
  (db.operations.lookup id).any fun row => row.heldBy claim

/-- The version of a row; a row that does not exist yet comes before every version. -/
def Database.versionAt (db : Database) (id : String) : WithBot Nat :=
  match db.operations.lookup id with
  | none => ⊥
  | some row => (row.lifecycleVersion : WithBot Nat)

section
variable (pg : Postgres) (cipher : OperationSecretCipher)

/-- One statement of one gateway, with what the server decides for it. -/
def Database.step (db : Database) (input : Execution × RepoCall) : Database :=
  (input.2.run pg cipher input.1 db).2

/-- A write under this token that moved the row to another version. -/
def Bumps (id : String) (claim : PaidOperationClaim) (m : Moment Database (Execution × RepoCall)) : Prop :=
  m.input.2.token = some (id, claim) ∧ m.after.versionAt id ≠ m.before.versionAt id

instance (id : String) (claim : PaidOperationClaim) : DecidablePred (Bumps id claim) := fun _ =>
  inferInstanceAs (Decidable (_ ∧ _))

end

theorem RowMove.lifecycleVersion {pg : Postgres} {exec : Execution} {id : String} {call : RepoCall}
    {row row' : OperationRow} (h : RowMove pg exec id row call row') :
    row'.lifecycleVersion = row.lifecycleVersion + 1 := by
  cases h <;> rfl

section
variable {pg : Postgres} {cipher : OperationSecretCipher} {exec : Execution} {db : Database}
  {id : String} {claim : PaidOperationClaim}

theorem versionAt_mono (pg : Postgres) (cipher : OperationSecretCipher) (db : Database)
    (input : Execution × RepoCall) (id : String) :
    db.versionAt id ≤ (db.step pg cipher input).versionAt id := by
  cases run_row pg cipher input.1 db input.2 id with
  | same hsame =>
    apply le_of_eq
    simp only [Database.versionAt, Database.step, hsame]
  | move hrow hrow' hmove =>
    have hversion := hmove.lifecycleVersion
    simp only [Database.versionAt, Database.step, hrow, hrow', hversion]
    exact_mod_cast Nat.le_succ _
  | create hnone _ _ => simp [Database.versionAt, hnone]

theorem RowMove.held {target : String} {call : RepoCall} {row row' : OperationRow}
    (h : RowMove pg exec target row call row') (htoken : call.token = some (id, claim)) :
    target = id ∧ row.heldBy claim = true := by
  cases h <;> cases htoken <;> exact ⟨rfl, ‹_›⟩

theorem holds_stale (hstale : db.current id claim = false) (now : Time) :
    db.holds id claim now = false := by
  unfold Database.current at hstale
  unfold Database.holds
  cases hrow : db.operations.lookup id with
  | none => rfl
  | some row => simp_all

theorem Writes.stale {call : RepoCall} {db' : Database} (h : Writes pg exec cipher call db db')
    (htoken : call.token = some (id, claim)) (hstale : db.current id claim = false) : db' = db := by
  cases h with
  | nothing hsame => exact hsame
  | row hrow hmove =>
    obtain ⟨rfl, hheld⟩ := hmove.held htoken
    simp [Database.current, hrow, hheld] at hstale
  | rows hnone => cases hnone.symm.trans htoken
  | create _ hcreated => cases hcreated <;> cases htoken
  | put hcall hholds =>
    cases hcall
    cases htoken
    cases (holds_stale hstale exec.now).symm.trans hholds
  | delete hcall hholds =>
    cases hcall
    cases htoken
    cases (holds_stale hstale exec.now).symm.trans hholds

theorem run_stale {call : RepoCall} (htoken : call.token = some (id, claim))
    (hstale : db.current id claim = false) : (call.run pg cipher exec db).2 = db := by
  rcases run_cases pg cipher exec db call with hsame | ⟨answer, hanswer⟩
  · exact hsame
  · exact (statement_writes hanswer).stale htoken hstale

theorem versionAt_of_current (h : db.current id claim = true) :
    db.versionAt id = (((decimal claim.version).getD 0 : Nat) : WithBot Nat) := by
  unfold Database.current at h
  unfold Database.versionAt
  cases hrow : db.operations.lookup id with
  | none => simp [hrow] at h
  | some row =>
    simp only [hrow, Option.any_some, OperationRow.heldBy, Bool.and_eq_true, beq_iff_eq] at h
    simp [← h.1.2]

theorem leaves_of_bumps {m : Moment Database (Execution × RepoCall)}
    (hafter : m.after = m.before.step pg cipher m.input) (h : Bumps id claim m) :
    Leaves (fun db => db.versionAt id) (((decimal claim.version).getD 0 : Nat) : WithBot Nat) m := by
  obtain ⟨htoken, hchanged⟩ := h
  cases hcurrent : m.before.current id claim with
  | false =>
    have hsame : m.after = m.before := hafter.trans (run_stale htoken hcurrent)
    exact absurd (by rw [hsame]) hchanged
  | true =>
    have hversion := versionAt_of_current hcurrent
    have hmono : m.before.versionAt id ≤ m.after.versionAt id := by
      rw [hafter]
      exact versionAt_mono pg cipher m.before m.input id
    refine ⟨hversion, ?_⟩
    rw [← hversion]
    exact lt_of_le_of_ne hmono (Ne.symm hchanged)

end

/-- In every interleaving of the repository's statements a claim token authorises at
most one write that moves the row's version, and a call under a token that is not the
row's own changes neither the row, nor its secrets, nor anything else. -/
theorem claim_token_fences (pg : Postgres) (cipher : OperationSecretCipher) (db : Database)
    (inputs : List (Execution × RepoCall)) (id : String) (claim : PaidOperationClaim) :
    (trace (Database.step pg cipher) db inputs).countP (fun m => decide (Bumps id claim m)) ≤ 1 ∧
      ∀ m ∈ trace (Database.step pg cipher) db inputs, m.input.2.token = some (id, claim) →
        m.before.current id claim = false → m.after = m.before := by
  have hafter := forall_mem_trace (Database.step pg cipher)
    (P := fun m => m.after = m.before.step pg cipher m.input) (fun _ _ => rfl) inputs db
  constructor
  · have hleaves := leaves_at_most_once (Database.step pg cipher) (fun db => db.versionAt id)
      (fun s i => versionAt_mono pg cipher s i id)
      (((decimal claim.version).getD 0 : Nat) : WithBot Nat) inputs db
    refine le_trans (List.countP_mono_left ?_) hleaves
    intro m hm hbumps
    simp only [decide_eq_true_eq] at hbumps ⊢
    exact leaves_of_bumps (hafter m hm) hbumps
  · intro m hm htoken hstale
    rw [hafter m hm]
    exact run_stale htoken hstale

/-! ## A sample session operation -/

/-- A server that takes plain decimal amounts and keeps documents as they are. -/
def plainPostgres : Postgres where
  numeric text := (decimal text).filter (· < 10 ^ 78)
  thousandths value := some (value * 1000).floor
  jsonb := id

def sampleRoute : PaidRouteSnapshot where
  protocol := .paidSessionV1
  transport := none
  capability := "video:live.rtmp"
  offering := "default"
  requestDescriptor := "live-session/v1"
  responseDescriptor := none
  workUnit := "output_seconds"
  estimator := none
  pricePerUnitWei := "1"
  unitsPerPrice := "1"
  quoteId := "quote-1"
  quoteVersion := "1"
  constraintFingerprint := "constraint-1"
  routeFingerprint := "route-1"
  settlementDomainId := none
  settlementKey := "key-1"
  raw := .obj []

def sampleRuntime : PaidSessionRuntimeState where
  publisherMode := .gatewayRelay
  relayStatus := .pending
  relayGeneration := 0
  runnerSessionId := some "runner-1"
  runnerHlsUrl := none
  lastRunnerEventId := none
  lastRunnerSequence := "0"
  lastRunnerUsage := "0"
  controlCursor := none
  refillCount := none
  lastHttpReconcileAt := none
  relayDisconnectedAt := none
  winddownReason := none
  outputState := none
  outputStateSince := none
  lastFailureCode := none

def sampleOperation : OperationRow where
  kind := .session
  apiKeyId := "key"
  assetId := none
  liveStreamId := some "live-1"
  requestId := "request-1"
  requestContentSha256 := "0000000000000000000000000000000000000000000000000000000000000000"
  workId := "work-1"
  rotationGeneration := 0
  route := sampleRoute
  status := "active"
  locOperationId := some "loc-1"
  brokerJobId := none
  brokerSessionId := some "session-1"
  fundedUnits := 60
  claimedUnits := none
  balanceUnits := none
  willRefuseNextRefill := none
  leaseExpiresAt := none
  settlementSequence := 0
  lifecycleVersion := 4
  recoveryOwner := none
  recoveryLeaseExpiresAt := none
  sessionRuntime := some sampleRuntime
  retryCount := 0
  nextRetryAt := none
  lastErrorCode := none
  terminalEvidence := none
  createdAt := 0
  updatedAt := 0
  terminalAt := none

def sampleDatabase : Database where
  operations := AList.singleton "op-1" sampleOperation
  secrets := ∅
  liveStreams := AList.singleton "live-1" ⟨"active", none, none⟩
  playbackIds := ∅
  renditions := ∅
  encodingJobs := ∅
  assets := ∅
  apiKeys := AList.singleton "key" ()

def emptyCipher : OperationSecretCipher where
  encrypt _ _ _ := ⟨"", [], [], [], [], [], []⟩
  decrypt _ _ := .error "operation secret key is unavailable"

def sampleExecution : Execution := ⟨10, ["op-1"], [], .answered⟩

def sampleToken : PaidOperationClaim := ⟨"gateway-a", "5", some 100⟩

/-- Gateway A claims the session, writes under its token, and writes under it again. -/
def sampleInputs : List (Execution × RepoCall) :=
  [(sampleExecution, .claimSessionByLiveStreamId "live-1" "gateway-a" 10 (some 100)),
    (sampleExecution, .recordRetry "op-1" sampleToken ⟨"active", 20, "poll_failed"⟩),
    (sampleExecution, .recordRetry "op-1" sampleToken ⟨"failed", 20, "poll_failed"⟩)]

def sampleMoments : List (Moment Database (Execution × RepoCall)) :=
  trace (Database.step plainPostgres emptyCipher) sampleDatabase sampleInputs

theorem claim_token_fences_sample :
    sampleMoments.countP (fun m => decide (Bumps "op-1" sampleToken m)) = 1 ∧
      ∃ m ∈ sampleMoments, m.before.versionAt "op-1" = ((6 : Nat) : WithBot Nat) ∧ m.after = m.before := by
  have h := claim_token_fences plainPostgres emptyCipher sampleDatabase sampleInputs "op-1" sampleToken
  have hcount : 1 ≤ sampleMoments.countP (fun m => decide (Bumps "op-1" sampleToken m)) ∧
      ∃ m ∈ sampleMoments, m.before.versionAt "op-1" = ((6 : Nat) : WithBot Nat) ∧
        m.input.2.token = some ("op-1", sampleToken) ∧
        m.before.current "op-1" sampleToken = false := by
    decide +kernel
  obtain ⟨hone, m, hm, hversion, htoken, hstale⟩ := hcount
  exact ⟨le_antisymm h.1 hone, m, hm, hversion, h.2 m hm htoken hstale⟩

end LivepeerTranscode.Gateway
