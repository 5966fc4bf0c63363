import LivepeerTranscode.Gateway.LiveReconciler

/-!
# The calls of the live programs

Which kinds of calls the programs of the session client, of the store and of the reconciler make.
-/

namespace LivepeerTranscode.Gateway
open Checked Interaction JsonText LiveReconciler
set_option autoImplicit false

def LiveCall.ofClient : LiveCall → Prop
  | .prepareSession _ | .openSession _ | .refillSession _ | .closeSession _ | .fetch _ => True
  | _ => False

def LiveCall.keepsSecrets : LiveCall → Prop
  | .repo (.putSecrets ..) => False
  | _ => True

/-- Calls of the store, which reads the clock for its leases. -/
def LiveCall.ofStore : LiveCall → Prop
  | .repo (.claimSessionByLiveStreamId ..) | .repo (.recordProgress ..) | .repo (.releaseClaim ..)
  | .repo (.readSecrets ..) | .repo (.recordLiveTerminal ..) | .now => True
  | _ => False

theorem LiveCall.ofStore.keepsSecrets {e : LiveCall} (h : e.ofStore) : e.keepsSecrets := by
  cases e with
  | repo call => cases call <;> trivial
  | _ => trivial

theorem LiveCall.ofClient.keepsSecrets {e : LiveCall} (h : e.ofClient) : e.keepsSecrets := by
  cases e <;> trivial

namespace SessionClient
variable {P : LivePlatform}

theorem fetchImpl_only (request : HttpRequest) : Only LiveCall.ofClient (fetchImpl request) :=
  .attempt trivial

theorem closeSession_only (input : LocCloseSessionInput) : Only LiveCall.ofClient (closeSession input) :=
  .attempt trivial

theorem settleCapacityOpen_only (opened : LocOpenSessionResult) (gatewaySessionId : String)
    (response : HttpResponse) :
    Only LiveCall.ofClient (settleCapacityOpen P opened gatewaySessionId response) :=
  .bind .lift fun _ => .bind .lift fun _ => .bind .lift fun _ => .bind .lift fun _ =>
    .bind (closeSession_only _) fun _ => .lift

theorem open'_only (input : PaidSessionOpenRequest) : Only LiveCall.ofClient (open' P input) := by
  refine .bind .lift fun _ => .bind .lift fun _ => .bind (.attempt trivial) fun _ => .bind .lift fun _ =>
    .bind (.attempt trivial) fun _ => .bind .lift fun _ => .bind (fetchImpl_only _) fun response => ?_
  split
  · exact .bind (settleCapacityOpen_only _ _ _) fun _ => .throw
  · exact .bind .lift fun _ => .bind .lift fun _ => .pure

theorem issueStreamKey_only (input : PaidSessionStreamKeyRequest) :
    Only LiveCall.ofClient (issueStreamKey P input) :=
  .bind .lift fun _ => .bind .lift fun _ => .bind (fetchImpl_only _) fun _ => .bind .lift fun _ =>
    .bind .lift fun _ => .pure

theorem refill_only (input : PaidSessionRefillRequest) : Only LiveCall.ofClient (refill P input) :=
  .bind .lift fun _ => .bind (.attempt trivial) fun _ => .bind .lift fun _ => .bind (fetchImpl_only _) fun _ =>
    .bind .lift fun _ => .bind .lift fun _ => .pure

theorem settlementLookup_only (opened : PaidSessionControlHandle) (gatewaySessionId : String)
    (header : Option String) : Only LiveCall.ofClient (settlementLookup P opened gatewaySessionId header) :=
  .bind (fetchImpl_only _) fun _ => .bind .lift fun _ => .bind .lift fun _ => .bind .lift fun _ => .pure

theorem end'_only (input : PaidSessionEndRequest) : Only LiveCall.ofClient (end' P input) :=
  .bind .lift fun _ => .bind .lift fun _ => .bind (fetchImpl_only _) fun _ => .bind .lift fun _ =>
    .bind .lift fun _ => .bind (settlementLookup_only _ _ _) fun _ => .bind .lift fun _ => .bind .lift fun _ =>
    .bind (closeSession_only _) fun _ => .bind .lift fun _ => .pure

end SessionClient

namespace SessionStore
variable {options : PaidSessionStoreOptions}

theorem claimByLiveStreamId_only (liveStreamId : String) :
    Only LiveCall.ofStore (claimByLiveStreamId options liveStreamId) :=
  .bind (.invoke trivial) fun _ => .bind (.attempt trivial) fun _ => .lift

theorem recordProgress_only (value : OwnedPaidSession) (progress : PaidOperationProgress) :
    Only LiveCall.ofStore (recordProgress options value progress) :=
  .bind (.attempt trivial) fun _ => .lift

theorem release_only (value : OwnedPaidSession) : Only LiveCall.ofStore (release value) := .attempt trivial

theorem readSecrets_only (value : OwnedPaidSession) : Only LiveCall.ofStore (readSecrets value) := .attempt trivial

theorem recordLiveTerminal_only (value : OwnedPaidSession) (terminal : PaidLiveTerminal) :
    Only LiveCall.ofStore (recordLiveTerminal value terminal) := .attempt trivial

end SessionStore

namespace LiveReconciler
variable {P : LivePlatform} {deps : Deps}

theorem retryProgress_only (operation : PaidOperation) (e : LiveFailure) (report : PaidOperationProgress) :
    Only LiveCall.ofStore (retryProgress operation e report) :=
  .bind (.invoke trivial) fun _ => .pure

theorem requestWinddown_only (owned : OwnedPaidSession) (reason : String) :
    Only LiveCall.ofStore (requestWinddown deps owned reason) :=
  .bind (SessionStore.recordProgress_only _ _) fun _ => .pure

theorem executeWinddown_only (owned : OwnedPaidSession) (brokerSessionId : String)
    (handle : PaidSessionControlHandle) (credential reason : String) :
    Only LiveCall.keepsSecrets (executeWinddown P deps owned brokerSessionId handle credential reason) := by
  refine .tryCatch ?_ fun e => ?_
  · refine .bind ((SessionClient.end'_only _).mono fun _ => LiveCall.ofClient.keepsSecrets) fun _ =>
      .bind (.invoke trivial) fun _ =>
      .bind ((SessionStore.recordLiveTerminal_only _ _).mono fun _ => LiveCall.ofStore.keepsSecrets) fun recorded => ?_
    split
    · exact .invoke trivial
    · exact .pure
  · refine Only.mono ?_ fun _ => LiveCall.ofStore.keepsSecrets
    exact .bind (retryProgress_only _ _ _) fun _ => .bind (SessionStore.recordProgress_only _ _) fun _ => .pure

theorem showActive_only (liveStreamId brokerSessionId brokerUrl : String) (relayStatus : RelayStatus) :
    Only LiveCall.keepsSecrets (showActive liveStreamId brokerSessionId brokerUrl relayStatus) := by
  unfold showActive
  split
  · exact .bind (.invoke trivial) fun _ => .attempt trivial
  · exact .pure

theorem ensurePlaybackId_only (liveStreamId apiKeyId : String) :
    Only LiveCall.keepsSecrets (ensurePlaybackId liveStreamId apiKeyId) := by
  refine .bind (.attempt trivial) fun playback => ?_
  split
  · exact .bind (.invoke trivial) fun _ => .attempt trivial
  · exact .pure

theorem repairLiveArtifacts_only (operation : PaidOperation) (secrets : PaidOperationSecrets) :
    Only LiveCall.keepsSecrets (repairLiveArtifacts P operation secrets) := by
  refine .bind .lift fun context => .bind .lift fun streamKey => ?_
  split
  · split
    · exact .throw
    · exact .bind (showActive_only _ _ _ _) fun _ => .bind (ensurePlaybackId_only _ _) fun _ => .invoke trivial
  · exact .throw

theorem applyAdvisoryEvent_only (owned : OwnedPaidSession) (event : PaidSessionControlEvent) :
    Only LiveCall.ofStore (applyAdvisoryEvent P deps owned event) := by
  unfold applyAdvisoryEvent
  split
  · exact .pure
  · exact SessionStore.recordProgress_only _ _

theorem applyFrames_only (frames : List JsonValue) (owned : OwnedPaidSession) :
    Only LiveCall.ofStore (applyFrames P deps frames owned) := by
  induction frames generalizing owned with
  | nil => exact .pure
  | cons frame rest ih =>
    exact .bind (.mapThrown .lift) fun _ => .bind (.mapThrown (applyAdvisoryEvent_only _ _)) fun next => ih _

theorem giveBack_only (owned : OwnedPaidSession) : Only LiveCall.ofStore (giveBack deps owned) := by
  refine .bind (.tryCatch (SessionStore.release_only _) fun _ => .pure) fun released => ?_
  split
  · refine .bind (.tryCatch (SessionStore.claimByLiveStreamId_only _) fun _ => .pure) fun latest => ?_
    split
    · exact .pure
    · exact .bind (.tryCatch (SessionStore.release_only _) fun _ => .pure) fun _ => .pure
  · exact .pure

theorem recordFailure_only (owned : OwnedPaidSession) (e : LiveFailure) :
    Only LiveCall.ofStore (recordFailure deps owned e) :=
  .bind (retryProgress_only _ _ _) fun _ => .bind (SessionStore.recordProgress_only _ _) fun _ => .pure

end LiveReconciler

end LivepeerTranscode.Gateway
