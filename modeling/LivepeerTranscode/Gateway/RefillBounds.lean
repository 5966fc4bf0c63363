import LivepeerTranscode.Gateway.Fencing
import LivepeerTranscode.Gateway.LiveProgramCalls

/-!
# The bound of a refill

A reconciliation stores a refill intent only after the broker's status was accepted, unless it
stores the one that it read. The bound of a new intent is the policy's maximum or more than what
the broker reports, whichever is less; whether the status calls for a refill at all is decided
from the units that are funded, not from that maximum.
-/

namespace LivepeerTranscode.Gateway
open Checked Interaction JsonText LiveReconciler
set_option autoImplicit false

variable {e : LiveCall} {ε α : Type} {secrets : PaidOperationSecrets} {status : PaidSessionStatusResult}

def LiveCall.fetches : LiveCall → Prop
  | .fetch _ => True
  | _ => False

theorem LiveCall.ofStore.not_fetches (h : e.ofStore) : ¬ e.fetches := by
  cases e <;> first | exact id | cases h

def ReadIn (h : List LiveEvent) (secrets : PaidOperationSecrets) : Prop :=
  ∃ id claim, (⟨.repo (.readSecrets id claim), .ok (some secrets)⟩ : LiveEvent) ∈ h

def StoredIntent (h : List LiveEvent) (json : JsonValue) : Prop :=
  ∃ secrets, ReadIn h secrets ∧ secrets.refillIntent = some json

section
variable (P : LivePlatform) (deps : Deps)

/-- The last answer of the broker is a status that the client accepted. -/
def LastStatus (h : List LiveEvent) (status : PaidSessionStatusResult) : Prop :=
  ∃ before after input request response, h = before ++ ⟨.fetch request, some response⟩ :: after ∧
    (∀ event ∈ after, ¬ event.effect.fetches) ∧ SessionClient.statusRequest input = .ok request ∧
    SessionClient.acceptStatus P input response = .ok status

def CreatedIntent (h : List LiveEvent) (json : JsonValue) : Prop :=
  ∃ status, ∃ intent : RefillIntent, LastStatus P h status ∧ json = intent.json ∧
    intent.maxTotalUnits = refillBound deps status.balance.authorizationMaxUnits

def IntentRule (h : List LiveEvent) : LiveCall → Prop
  | .repo (.putSecrets _ _ secrets) => ∀ json, secrets.refillIntent = some json →
      StoredIntent h json ∨ CreatedIntent P deps h json
  | _ => True

variable {P deps} {h : List LiveEvent}

theorem ReadIn.append (hread : ReadIn h secrets) (more : List LiveEvent) :
    ReadIn (h ++ more) secrets := by
  obtain ⟨id, claim, hmem⟩ := hread
  exact ⟨id, claim, List.mem_append_left more hmem⟩

theorem LastStatus.append (hlast : LastStatus P h status)
    {more : List LiveEvent} (hmore : ∀ event ∈ more, ¬ event.effect.fetches) :
    LastStatus P (h ++ more) status := by
  obtain ⟨before, after, input, request, response, rfl, hafter, hrequest, haccept⟩ := hlast
  refine ⟨before, after ++ more, input, request, response, by simp, ?_, hrequest, haccept⟩
  intro event hevent
  exact (List.mem_append.mp hevent).elim (hafter event) (hmore event)

theorem IntentRule.of_keepsSecrets (he : e.keepsSecrets) : IntentRule P deps h e := by
  cases e with
  | repo call => cases call <;> trivial
  | _ => trivial

theorem intentRule_of_only {p : Throwing LiveCall LiveCall.Answer ε α} (hp : Only LiveCall.keepsSecrets p) :
    Keeps (IntentRule P deps) (fun h' _ => ∃ more, h' = h ++ more) p h := by
  refine (hp.keeps fun _ _ => IntentRule.of_keepsSecrets).weaken ?_
  rintro h' a ⟨more, rfl, -⟩
  exact ⟨more, rfl⟩

theorem intentRule_of_client {p : Throwing LiveCall LiveCall.Answer ε α} (hp : Only LiveCall.ofClient p) :
    Keeps (IntentRule P deps) (fun h' _ => ∃ more, h' = h ++ more) p h :=
  intentRule_of_only (hp.mono fun _ => LiveCall.ofClient.keepsSecrets)

theorem intentRule_of_store {p : Throwing LiveCall LiveCall.Answer ε α} (hp : Only LiveCall.ofStore p) :
    Keeps (IntentRule P deps)
      (fun h' _ => ∃ more, h' = h ++ more ∧ ∀ event ∈ more, ¬ event.effect.fetches) p h := by
  refine (hp.keeps fun _ _ he => IntentRule.of_keepsSecrets he.keepsSecrets).weaken ?_
  rintro h' a ⟨more, rfl, hmore⟩
  exact ⟨more, rfl, fun event hevent => (hmore event hevent).not_fetches⟩

/-! ## The programs -/

theorem refillBody_intentRule (owned : OwnedPaidSession) (brokerSessionId : String)
    (secrets : PaidOperationSecrets) (intent : RefillIntent) (handle : PaidSessionControlHandle)
    (credential : String) :
    Keeps (IntentRule P deps) (fun _ _ => True)
      (refillBody P deps owned brokerSessionId secrets intent handle credential) h := by
  refine Keeps.bind (intentRule_of_client (SessionClient.refill_only _)) ?_
  intro h result _
  split
  · exact (intentRule_of_store (requestWinddown_only _ _)).forget
  · refine Keeps.bind (Keeps.attempt ?_) ?_
    · intro json hjson
      cases hjson
    · intro h stored _
      split
      · refine Keeps.bind Keeps.lift fun _ _ _ => ?_
        exact Keeps.bind (intentRule_of_store (SessionStore.recordProgress_only _ _)) fun _ _ _ => Keeps.pure trivial
      · exact Keeps.pure trivial

theorem executeRefill_intentRule (owned : OwnedPaidSession) (brokerSessionId : String)
    (secrets : PaidOperationSecrets) (intent : RefillIntent) (handle : PaidSessionControlHandle)
    (credential : String) :
    Keeps (IntentRule P deps) (fun _ _ => True)
      (executeRefill P deps owned brokerSessionId secrets intent handle credential) h := by
  refine Keeps.tryCatch (refillBody_intentRule _ _ _ _ _ _) fun h' e _ => ?_
  split
  · exact Keeps.pure trivial
  · exact (intentRule_of_store (requestWinddown_only _ _)).forget

theorem resumeOpeningSession_intentRule (owned : OwnedPaidSession) (hread : ReadIn h secrets) :
    Keeps (IntentRule P deps) (fun _ _ => True) (resumeOpeningSession P deps owned secrets) h := by
  refine Keeps.bind Keeps.lift ?_
  rintro _ intent ⟨rfl, -⟩
  refine Keeps.bind Keeps.lift ?_
  rintro _ routeIntent ⟨rfl, -⟩
  refine Keeps.bind Keeps.lift ?_
  rintro _ sessionParams ⟨rfl, -⟩
  refine Keeps.bind Keeps.lift ?_
  rintro _ _ ⟨rfl, -⟩
  refine Keeps.bind (intentRule_of_client (SessionClient.open'_only _)) ?_
  rintro _ opened ⟨more, rfl⟩
  refine Keeps.bind Keeps.lift ?_
  rintro _ runtime ⟨rfl, -⟩
  refine Keeps.bind Keeps.lift ?_
  rintro _ grant ⟨rfl, -⟩
  refine Keeps.bind Keeps.lift ?_
  rintro _ leaseExpiresAt ⟨rfl, -⟩
  refine Keeps.bind (intentRule_of_store (SessionStore.recordProgress_only _ _)) ?_
  rintro _ progressed ⟨more', rfl, -⟩
  split
  · exact Keeps.pure trivial
  · refine Keeps.bind (intentRule_of_client (SessionClient.issueStreamKey_only _)) ?_
    rintro _ issued ⟨more'', rfl⟩
    refine Keeps.bind (Keeps.attempt ?_) ?_
    · intro json hjson
      exact .inl ⟨secrets, ((hread.append _).append _).append _, hjson⟩
    · intro _ stored _
      split
      · refine Keeps.bind (intentRule_of_store (SessionStore.recordProgress_only _ _)) ?_
        intro _ active _
        split
        · exact Keeps.pure trivial
        · exact (intentRule_of_only (repairLiveArtifacts_only _ _)).forget
      · exact Keeps.pure trivial

theorem afterStatus_intentRule (context : StoredContext) (secrets : PaidOperationSecrets)
    (brokerSessionId : String) (runtime : PaidSessionRuntimeState) (owned : OwnedPaidSession)
    (funded : Nat) (hlast : LastStatus P h status) :
    Keeps (IntentRule P deps) (fun _ _ => True)
      (afterStatus P deps context secrets brokerSessionId runtime owned status funded) h := by
  unfold afterStatus
  split
  · exact (intentRule_of_only (executeWinddown_only _ _ _ _ _)).forget
  · split
    · exact Keeps.pure trivial
    · split
      · exact (intentRule_of_store (requestWinddown_only _ _)).forget
      · refine Keeps.bind (Keeps.invoke trivial) ?_
        rintro _ bytes rfl
        refine Keeps.bind (Keeps.attempt ?_) ?_
        · intro json hjson
          cases hjson
          refine .inr ⟨status, _, hlast.append ?_, rfl, rfl⟩
          simp [LiveCall.fetches]
        · intro _ stored _
          split
          · exact executeRefill_intentRule _ _ _ _ _ _
          · exact Keeps.pure trivial

theorem status_lastStatus (input : PaidSessionStatusRequest) :
    Keeps (IntentRule P deps) (LastStatus P) (SessionClient.status P input) h := by
  refine Keeps.bind Keeps.lift ?_
  rintro _ request ⟨rfl, hrequest⟩
  refine Keeps.bind (Keeps.attempt trivial) ?_
  rintro _ response ⟨answer, rfl, hanswer⟩
  refine Keeps.lift.weaken ?_
  rintro _ status ⟨rfl, haccept⟩
  cases answer with
  | none => cases hanswer
  | some received =>
    cases hanswer
    exact ⟨_, [], input, request, response, rfl, by simp, hrequest, haccept⟩

theorem recordStatus_lastStatus (context : StoredContext) (brokerSessionId : String) (owned : OwnedPaidSession) :
    Keeps (IntentRule P deps)
      (fun h' recorded => ∀ next status funded, recorded = some (next, status, funded) → LastStatus P h' status)
      (recordStatus P deps context brokerSessionId owned) h := by
  refine Keeps.bind (status_lastStatus _) ?_
  intro h' status hlast
  refine Keeps.bind Keeps.lift ?_
  rintro _ _ ⟨rfl, -⟩
  refine Keeps.bind Keeps.lift ?_
  rintro _ runway ⟨rfl, -⟩
  refine Keeps.bind Keeps.lift ?_
  rintro _ funded ⟨rfl, -⟩
  refine Keeps.bind Keeps.lift ?_
  rintro _ leaseExpiresAt ⟨rfl, -⟩
  refine Keeps.bind (Keeps.invoke trivial) ?_
  rintro _ now rfl
  refine Keeps.bind (intentRule_of_store (SessionStore.recordProgress_only _ _)) ?_
  rintro _ progressed ⟨more, rfl, hmore⟩
  refine Keeps.pure ?_
  intro next status' funded' hsome
  obtain ⟨found, -, hfound⟩ := Option.map_eq_some_iff.mp hsome
  cases hfound
  exact (hlast.append (by simp [LiveCall.fetches])).append hmore

theorem reconcileStatus_intentRule (context : StoredContext) (secrets : PaidOperationSecrets)
    (brokerSessionId : String) (owned : OwnedPaidSession) :
    Keeps (IntentRule P deps) (fun _ _ => True)
      (reconcileStatus P deps context secrets brokerSessionId owned) h := by
  refine Keeps.bind (Keeps.mapThrown (recordStatus_lastStatus _ _ _)) ?_
  intro h' recorded hrecorded
  split
  · exact Keeps.pure trivial
  · rename_i next status funded
    refine Keeps.bind (Keeps.mapThrown (afterStatus_intentRule _ _ _ _ _ funded
      (hrecorded next status funded rfl))) ?_
    intro _ _ _
    exact Keeps.pure trivial

theorem reconcileControl_intentRule (context : StoredContext) (brokerSessionId : String)
    (owned : OwnedPaidSession) :
    Keeps (IntentRule P deps) (fun _ _ => True) (reconcileControl P deps context brokerSessionId owned) h := by
  unfold reconcileControl
  split
  · refine Keeps.tryCatch ?_ fun _ _ _ => Keeps.pure trivial
    refine Keeps.bind (Keeps.mapThrown (Keeps.attempt trivial)) ?_
    intro _ frames _
    refine Keeps.bind (intentRule_of_store (applyFrames_only _ _)) ?_
    intro _ next _
    split
    · refine Keeps.bind (Keeps.mapThrown (intentRule_of_only (executeWinddown_only _ _ _ _ _))) ?_
      intro _ _ _
      exact Keeps.pure trivial
    · exact Keeps.pure trivial
  · exact Keeps.pure trivial

theorem reconcileHeld_intentRule (context : StoredContext) (secrets : PaidOperationSecrets)
    (brokerSessionId : String) (owned : OwnedPaidSession) :
    Keeps (IntentRule P deps) (fun _ _ => True) (reconcileHeld P deps context secrets brokerSessionId owned) h := by
  refine Keeps.bind (Keeps.mapThrown (Keeps.invoke trivial)) ?_
  intro _ now _
  refine Keeps.bind (Keeps.mapThrown Keeps.lift) ?_
  intro _ due _
  split
  · refine Keeps.bind (Keeps.mapThrown (intentRule_of_only (executeWinddown_only _ _ _ _ _))) ?_
    intro _ _ _
    exact Keeps.pure trivial
  · refine Keeps.bind (Keeps.mapThrown (intentRule_of_only (repairLiveArtifacts_only _ _))) ?_
    intro _ _ _
    split
    · refine Keeps.bind (Keeps.mapThrown (executeRefill_intentRule _ _ _ _ _ _)) ?_
      intro _ _ _
      exact Keeps.pure trivial
    · refine Keeps.bind (reconcileControl_intentRule _ _ _) ?_
      intro _ held _
      split
      split
      · exact Keeps.pure trivial
      · exact reconcileStatus_intentRule _ _ _ _

theorem reconcileBody_intentRule (owned : OwnedPaidSession) :
    Keeps (IntentRule P deps) (fun _ _ => True) (reconcileBody P deps owned) h := by
  refine Keeps.bind (Keeps.mapThrown (Keeps.attempt trivial)) ?_
  rintro _ found ⟨answer, rfl, hanswer⟩
  split
  · exact Keeps.pure trivial
  · rename_i secrets
    have hread : ReadIn (h ++ [⟨.repo (.readSecrets owned.operation.id owned.claim), answer⟩]) secrets := by
      rw [mapError_ok hanswer]
      exact ⟨_, _, List.mem_append_right _ (List.mem_singleton_self _)⟩
    split
    · split
      · refine Keeps.bind (Keeps.mapThrown (resumeOpeningSession_intentRule _ hread)) ?_
        intro _ _ _
        exact Keeps.pure trivial
      · exact Keeps.throw
    · split
      · exact reconcileHeld_intentRule _ _ _ _
      · exact Keeps.throw
    · exact Keeps.throw

theorem reconcileOne_intentRule (initial : OwnedPaidSession) :
    Keeps (IntentRule P deps) (fun _ _ => True) (reconcileOne P deps initial) h := by
  refine Keeps.bind (Keeps.settled (reconcileBody_intentRule initial)) ?_
  intro _ result _
  split
  · exact (intentRule_of_store (giveBack_only _)).forget
  · refine Keeps.bind (Keeps.settled (intentRule_of_store (recordFailure_only _ _))) ?_
    intro _ recorded _
    refine Keeps.bind (intentRule_of_store (giveBack_only _)) ?_
    intro _ _ _
    exact (Keeps.lift).forget

/-! ## The bound -/

theorem refillBound_above_iff (authorizationMaxUnits : Nat) :
    ((authorizationMaxUnits : ℚ) < refillBound deps authorizationMaxUnits ∧
        refillBound deps authorizationMaxUnits ≤ deps.maxTotalUnits) ↔
      (authorizationMaxUnits : ℚ) < deps.maxTotalUnits := by
  have hnext : (authorizationMaxUnits : ℚ) < max ((authorizationMaxUnits : ℚ) + 1) (authorizationMaxUnits * 2) :=
    lt_of_lt_of_le (lt_add_one _) (le_max_left _ _)
  unfold refillBound
  rw [lt_min_iff, and_iff_left (min_le_left _ _), and_iff_left hnext]

/-- Where a reconciliation stores an intent that it did not read, the intent is made from the last
status of the broker. Its bound is above what the broker reports and within the policy exactly
when the policy's maximum is above what the broker reports. -/
theorem refill_intent_bound (P : LivePlatform) (deps : Deps) (initial : OwnedPaidSession) (h : List LiveEvent)
    (id : String) (claim : PaidOperationClaim) (secrets : PaidOperationSecrets) (json : JsonValue)
    (k : Repo Bool → Prog LiveCall LiveCall.Answer (Except LiveFailure Unit))
    (hreach : Reaches (reconcileOne P deps initial).run h (.call (.repo (.putSecrets id claim secrets)) k))
    (hjson : secrets.refillIntent = some json) (hnew : ¬ StoredIntent h json) :
    ∃ status, ∃ intent : RefillIntent, LastStatus P h status ∧ json = intent.json ∧
      (((status.balance.authorizationMaxUnits : ℚ) < intent.maxTotalUnits ∧
          intent.maxTotalUnits ≤ deps.maxTotalUnits) ↔
        (status.balance.authorizationMaxUnits : ℚ) < deps.maxTotalUnits) := by
  have hallowed := (@reconcileOne_intentRule P deps [] initial).allowed hreach
  rcases hallowed json hjson with hstored | ⟨status, intent, hlast, hintent, hbound⟩
  · exact absurd hstored hnew
  · refine ⟨status, intent, hlast, hintent, ?_⟩
    rw [hbound]
    exact refillBound_above_iff _

end

/-! ## A session that runs low -/

section
variable (authorizationMaxUnits : Nat)

def statusDocument : JsonValue :=
  .obj [("session_id", .str "session-1"), ("gateway_session_id", .str "gateway-1"), ("work_id", .str "work-1"),
    ("authorization_id", .str "work-1"), ("state", .str "active"),
    ("runtime", .obj [("schema", .str "rtmp-hls/v1"), ("public", .obj [])]),
    ("usage", .obj [("unit", .str "output_seconds"), ("claimed_total", .num 100)]),
    ("lease", .obj [("expires_at", .str "2026-01-01T00:10:00Z")]),
    ("balance", .obj [("claimed_units", .num 100), ("debited_units", .num 100), ("unit", .str "output_seconds"),
      ("authorization_id", .str "work-1"), ("authorization_max_units", .num authorizationMaxUnits),
      ("authorization_cap_remaining_units", .num 0), ("authorization_reserved_value_wei", .str "0"),
      ("cumulative_billed_value_wei", .str "100"), ("runway_units", .num 10), ("status", .str "low"),
      ("will_refuse_next_refill", .bool false)]),
    ("started_at", .str "2026-01-01T00:00:00Z")]

def statusPlatform : LivePlatform where
  utf8Text _ := []
  parse _ := some (statusDocument authorizationMaxUnits)
  base64Bytes _ := []
  url := some
  sha256Hex _ := ""
  callerPublicKey := ""
  signAuthorization := some
  pollAttempts := 1
  pollDelayMs := 1
  parseDate _ := some 600000
  toISOString _ := "2026-01-01T00:00:00.000Z"
  runnerUrl _ := true
  uuid _ := true
  stringify _ := ""
  otherNumber _ := none

def liveSecrets : PaidOperationSecrets where
  openIntent := none
  routeIntent := none
  sessionParams := none
  grants := none
  control := some (.obj [("eventsWs", .str "wss://broker.example/events")])
  loc := some (.obj [("control_handle", .obj [("operation_id", .str "loc-1"),
    ("broker_url", .str "https://broker.example"), ("gateway_session_id", .str "gateway-1"),
    ("descriptor_schema", .str "rtmp-hls/v1"), ("work_unit", .str "output_seconds"),
    ("settlement_domain_id", .str "0x0000000000000000000000000000000000000000000000000000000000000001"),
    ("max_total_units", .num 60)])])
  runnerIngestUrl := some "rtmp://runner.example/live"
  runnerIngestKey := some "key-1"
  credentials := some (.obj [("customer_stream_key", .str "live_1"), ("broker_session_credential", .str "cred-1")])
  refillIntent := none

def liveRuntime : PaidSessionRuntimeState := { sampleRuntime with runnerHlsUrl := some "https://runner.example/hls" }

def liveOperation : PaidOperation :=
  rowToOperation "op-1" { sampleOperation with
    recoveryOwner := some "gateway-a"
    recoveryLeaseExpiresAt := some 30000
    sessionRuntime := some liveRuntime }

def liveSession : OwnedPaidSession where
  operation := liveOperation
  claim := ⟨"gateway-a", "4", some 30000⟩
  liveStreamId := "live-1"
  runtime := liveRuntime
  streamed := rfl
  recoverable := rfl

def liveDeps : Deps where
  store := ⟨"gateway-a", 30000⟩
  hasControlSource := false
  refillThresholdUnits := 15
  maxTotalUnits := 600
  maxRefills := 60
  disconnectGraceMs := 15000

def statusResponse : HttpResponse := ⟨200, fun _ => none, some []⟩

/-- Every statement is answered, and the intent is not stored. -/
def liveAnswer : (e : LiveCall) → e.Answer
  | .repo (.readSecrets ..) => .ok (some liveSecrets)
  | .repo (.recordProgress ..) => .ok (some liveOperation)
  | .repo (.putSecrets ..) => .ok false
  | .repo _ => .error .connection
  | .prepareSession _ | .openSession _ | .refillSession _ | .closeSession _ | .readControl .. => .error (.error "")
  | .streamByKeyHash _ => .ok none
  | .updateStreamStatus .. => .ok ()
  | .playbackIdsOf _ => .ok ["pb_1"]
  | .insertPlaybackId _ => .ok ()
  | .recordRoute _ => ()
  | .removeRoute _ => ()
  | .relay _ (.enter ..) => true
  | .relay _ (.publishing _) => true
  | .relay _ (.spawn ..) => .ok ()
  | .relay _ (.stopSession _) => none
  | .relay _ (.exited _) => none
  | .relay _ (.failed _) => none
  | .relay _ (.leave _) => ()
  | .relay _ (.destroy _) => ()
  | .relay _ .stopAll => ()
  | .handOver .. => ()
  | .takeOver _ => none
  | .fetch _ => some statusResponse
  | .randomBytes _ => [1]
  | .now => 0

def storedBound : LiveCall → Option ℚ
  | .repo (.putSecrets _ _ secrets) =>
    match secrets.refillIntent.bind (property "max_total_units") with
    | some (.num bound) => some bound
    | _ => none
  | _ => none

theorem storedBound_some {bound : ℚ} (h : storedBound e = some bound) :
    ∃ id claim secrets json, e = .repo (.putSecrets id claim secrets) ∧ secrets.refillIntent = some json ∧
      property "max_total_units" json = some (.num bound) := by
  unfold storedBound at h
  split at h
  · rename_i id claim secrets
    split at h
    · rename_i bound' hnum
      cases h
      obtain ⟨json, hjson, hproperty⟩ := Option.bind_eq_some_iff.mp hnum
      exact ⟨id, claim, secrets, json, rfl, hjson, hproperty⟩
    · cases h
  · cases h

def liveTrace : List LiveEvent :=
  (reconcileOne (statusPlatform authorizationMaxUnits) liveDeps liveSession).run.trace liveAnswer

variable {authorizationMaxUnits} {bound : ℚ}

theorem live_stores
    (h : ((liveTrace authorizationMaxUnits).any fun event => storedBound event.effect == some bound) = true) :
    ∃ h id claim secrets json k,
      Reaches (reconcileOne (statusPlatform authorizationMaxUnits) liveDeps liveSession).run h
        (.call (.repo (.putSecrets id claim secrets)) k) ∧
      secrets.refillIntent = some json ∧ ¬ StoredIntent h json ∧
      property "max_total_units" json = some (.num bound) ∧
      ∀ event ∈ h, event = ⟨event.effect, liveAnswer event.effect⟩ := by
  obtain ⟨event, hmem, hevent⟩ := List.any_eq_true.mp h
  obtain ⟨id, claim, secrets, json, heffect, hjson, hproperty⟩ := storedBound_some (beq_iff_eq.mp hevent)
  obtain ⟨before, after, hsplit⟩ := List.append_of_mem hmem
  have hpath := reaches_outcome liveAnswer
    (reconcileOne (statusPlatform authorizationMaxUnits) liveDeps liveSession).run
  change Reaches _ (liveTrace authorizationMaxUnits) _ at hpath
  rw [hsplit] at hpath
  obtain ⟨k, hk⟩ := hpath.at_call
  have hanswers : ∀ past ∈ before, past = ⟨past.effect, liveAnswer past.effect⟩ := by
    intro past hpast
    refine mem_trace liveAnswer (p := (reconcileOne (statusPlatform authorizationMaxUnits) liveDeps liveSession).run) ?_
    change past ∈ liveTrace authorizationMaxUnits
    rw [hsplit]
    exact List.mem_append_left _ hpast
  revert k hk
  rw [heffect]
  intro k hk
  refine ⟨before, id, claim, secrets, json, k, hk, hjson, ?_, hproperty, hanswers⟩
  rintro ⟨stored, ⟨id', claim', hread⟩, hstored⟩
  have hanswer := hanswers _ hread
  cases hanswer
  cases hstored

theorem refill_intent_bound_doubled :
    ∃ h status, ∃ intent : RefillIntent, LastStatus (statusPlatform 120) h status ∧
      (((status.balance.authorizationMaxUnits : ℚ) < intent.maxTotalUnits ∧ intent.maxTotalUnits ≤ 600) ↔
        (status.balance.authorizationMaxUnits : ℚ) < 600) := by
  have hrun : ((liveTrace 120).any fun event => storedBound event.effect == some 240) = true := by decide +kernel
  obtain ⟨h, id, claim, secrets, json, k, hreach, hjson, hnew, -⟩ := live_stores hrun
  obtain ⟨status, intent, hlast, -, hbound⟩ := refill_intent_bound (statusPlatform 120) liveDeps liveSession h
    id claim secrets json k hreach hjson hnew
  exact ⟨h, status, intent, hlast, hbound⟩

theorem statusDocument_authorization :
    (SessionClient.parseResponse (statusPlatform 600) SessionClient.statusWire statusResponse).toOption.map
      (fun value => value.balance.authorizationMaxUnits) = some 600 := by
  decide +kernel

/-- The broker has authorized all the policy allows, of which only 110 units are funded: the intent
asks for what is authorized already. -/
theorem refill_without_increase :
    ∃ h id claim secrets json k status, ∃ intent : RefillIntent,
      Reaches (reconcileOne (statusPlatform 600) liveDeps liveSession).run h
        (.call (.repo (.putSecrets id claim secrets)) k) ∧
      secrets.refillIntent = some json ∧ ¬ StoredIntent h json ∧ LastStatus (statusPlatform 600) h status ∧
      json = intent.json ∧ ¬ (status.balance.authorizationMaxUnits : ℚ) < intent.maxTotalUnits := by
  have hrun : ((liveTrace 600).any fun event => storedBound event.effect == some 600) = true := by decide +kernel
  obtain ⟨h, id, claim, secrets, json, k, hreach, hjson, hnew, -, hanswers⟩ := live_stores hrun
  rcases (@reconcileOne_intentRule (statusPlatform 600) liveDeps [] liveSession).allowed hreach json hjson with
    hstored | ⟨status, intent, hlast, hintent, hbound⟩
  · exact absurd hstored hnew
  refine ⟨h, id, claim, secrets, json, k, status, intent, hreach, hjson, hnew, hlast, hintent, ?_⟩
  obtain ⟨before, after, input, request, response, hsplit, -, -, haccept⟩ := hlast
  have hresponse := hanswers ⟨.fetch request, some response⟩ (by rw [hsplit]; simp)
  cases hresponse
  obtain ⟨value, hvalue, hstatus⟩ := ok_bind_iff.mp haccept
  have hmax := statusDocument_authorization
  rw [hvalue] at hmax
  obtain ⟨-, hresult⟩ := ok_seq_iff.mp hstatus
  cases hresult
  have hauth : value.balance.authorizationMaxUnits = 600 := Option.some.inj hmax
  rw [hbound, hauth]
  norm_num [refillBound, liveDeps]

end

end LivepeerTranscode.Gateway
