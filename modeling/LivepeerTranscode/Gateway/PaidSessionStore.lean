import LivepeerTranscode.Gateway.LiveCalls

/-!
# The paid session store

`livepeer/paidSessionStore.ts`: the repository as one process uses it for sessions. The owner of
its claims and the length of its leases are fixed when the store is made.
-/

namespace LivepeerTranscode.Gateway
open Checked Interaction
set_option autoImplicit false

structure PaidSessionStoreOptions where
  owner : String
  leaseDurationMs : Nat

def PaidSessionStoreOptions.valid (options : PaidSessionStoreOptions) : Bool :=
  0 < utf16Length options.owner && utf16Length options.owner ≤ 255 && 1000 ≤ options.leaseDurationMs

namespace SessionStore

def missingState : LiveFailure := .error "paid session is missing durable recovery state"

/-- `owned`, with the claim `claimFor` makes. -/
def owned (operation : PaidOperation) (expectedOwner : String) : Except LiveFailure OwnedPaidSession :=
  match hstream : operation.liveStreamId, hruntime : operation.sessionRuntime,
      operation.recoveryLeaseExpiresAt with
  | some liveStreamId, some runtime, some leaseExpiresAt =>
    if operation.kind = .session ∧ liveStreamId ≠ "" ∧ operation.recoveryOwner = some expectedOwner then
      .ok {
        operation := operation
        claim := ⟨expectedOwner, operation.lifecycleVersion, some leaseExpiresAt⟩
        liveStreamId := liveStreamId
        runtime := runtime
        streamed := hstream
        recoverable := hruntime }
    else .error missingState
  | _, _, _ => .error missingState

theorem owned_ok {operation : PaidOperation} {owner : String} {session : OwnedPaidSession}
    (h : owned operation owner = .ok session) :
    session.operation = operation ∧ operation.kind = .session ∧ session.liveStreamId ≠ "" ∧
      operation.recoveryOwner = some owner ∧ ∃ lease, operation.recoveryLeaseExpiresAt = some lease ∧
        session.claim = ⟨owner, operation.lifecycleVersion, some lease⟩ := by
  unfold owned at h
  split at h
  · rename_i hlease
    split at h
    · rename_i hkind
      cases h
      exact ⟨rfl, hkind.1, hkind.2.1, hkind.2.2, _, hlease, rfl⟩
    · cases h
  · cases h

theorem owned_of {operation : PaidOperation} {owner liveStreamId : String} {runtime : PaidSessionRuntimeState}
    {lease : Time} (hkind : operation.kind = .session) (hne : liveStreamId ≠ "")
    (howner : operation.recoveryOwner = some owner) (hlease : operation.recoveryLeaseExpiresAt = some lease)
    (hstream : operation.liveStreamId = some liveStreamId) (hruntime : operation.sessionRuntime = some runtime) :
    owned operation owner = .ok ⟨operation, ⟨owner, operation.lifecycleVersion, some lease⟩, liveStreamId,
      runtime, hstream, hruntime⟩ := by
  unfold owned
  split
  · rename_i hstream' hruntime' hlease'
    cases hstream.symm.trans hstream'
    cases hruntime.symm.trans hruntime'
    cases hlease.symm.trans hlease'
    rw [if_pos ⟨hkind, hne, howner⟩]
  · rename_i hnone
    exact (hnone _ _ _ hstream hruntime hlease).elim

def ownedWhenFound (operation : Option PaidOperation) (expectedOwner : String) :
    Except LiveFailure (Option OwnedPaidSession) :=
  match operation with
  | none => .ok none
  | some operation => (owned operation expectedOwner).map some

section
variable (options : PaidSessionStoreOptions)

def leaseAfter (now : Time) : Date := some (now + options.leaseDurationMs)

def create (value : NewPaidOperation) (secrets : PaidOperationSecrets) : LiveProg OwnedPaidSession := do
  let now ← invoke LiveCall.now
  failWhen (value.kind ≠ .session ∨ truthyText value.liveStreamId = false ∨ value.sessionRuntime = none)
    (LiveFailure.error "paid session create requires live recovery state")
  let operation ← askRepo (.insertWithSecrets value secrets options.owner (leaseAfter options now))
  owned operation options.owner
where
  truthyText (text : Option String) : Bool := text.any fun value => value ≠ ""

def claimRecoverable (limit : Int) : LiveProg (List OwnedPaidSession) := do
  let now ← invoke LiveCall.now
  let operations ← askRepo (.claimRecoverable .session options.owner now (leaseAfter options now) limit)
  operations.mapM fun operation => owned operation options.owner

def claimByLiveStreamId (liveStreamId : String) : LiveProg (Option OwnedPaidSession) := do
  let now ← invoke LiveCall.now
  let operation ← askRepo (.claimSessionByLiveStreamId liveStreamId options.owner now (leaseAfter options now))
  ownedWhenFound operation options.owner

def recordProgress (value : OwnedPaidSession) (progress : PaidOperationProgress) :
    LiveProg (Option OwnedPaidSession) := do
  let operation ← askRepo (.recordProgress value.operation.id value.claim progress)
  ownedWhenFound operation options.owner

end

def readSecrets (value : OwnedPaidSession) : LiveProg (Option PaidOperationSecrets) :=
  askRepo (.readSecrets value.operation.id value.claim)

def putSecrets (value : OwnedPaidSession) (secrets : PaidOperationSecrets) : LiveProg Bool :=
  askRepo (.putSecrets value.operation.id value.claim secrets)

def recordLiveTerminal (value : OwnedPaidSession) (terminal : PaidLiveTerminal) : LiveProg Bool :=
  askRepo (.recordLiveTerminal value.operation.id value.claim terminal)

def release (value : OwnedPaidSession) : LiveProg Bool :=
  askRepo (.releaseClaim value.operation.id value.claim)

end SessionStore

end LivepeerTranscode.Gateway
