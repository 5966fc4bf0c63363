import LivepeerTranscode.Shared.Actors
import LivepeerTranscode.Shared.Flock

/-!
# GPU admission between processes

`GPUAdmissionGate.Acquire` and `GPUAdmissionLease.Close` of `transcode-core/gpu_admission.go`
as programs over the kernel's file locks. Any number of processes run them on the lock files
of any number of base paths, and a process may die between any two of its calls: the kernel
then drops its locks.
-/

namespace LivepeerTranscode.TranscodeCore
open Interaction Flock
set_option autoImplicit false

inductive GPUAdmissionCohort where
  | batch | live
  | other (value : UInt8)
  deriving DecidableEq

/-- An open file description of a process; no two are numbered alike. -/
structure Descriptor where
  process : Nat
  path : String
  number : Nat
  deriving DecidableEq

inductive AdmissionError where
  | capacity
  | failure (message : String)
  deriving DecidableEq

/-- `file` is `none` for the lease of a gate that is not configured. -/
structure GPUAdmissionLease where
  file : Option Descriptor
  deriving DecidableEq

/-- `LOCK_EX`, `LOCK_EX|LOCK_NB` and `LOCK_SH|LOCK_NB` -/
inductive LockRequest where
  | exclusive | tryExclusive | tryShared
  deriving DecidableEq

def LockRequest.mode : LockRequest → Mode
  | .exclusive | .tryExclusive => .exclusive
  | .tryShared => .shared

inductive LockAnswer where
  | locked
  | wouldBlock
  | failed (errno : String)
  deriving DecidableEq

/-- How far `sync.Once` of a lease has come, with the error it left. -/
inductive OnceState where
  | unset
  | running
  | finished (err : Option String)
  deriving DecidableEq

inductive Effect where
  | openFile (process : Nat) (path : String)
  | flock (d : Descriptor) (request : LockRequest)
  | unlock (d : Descriptor)
  | close (d : Descriptor)
  | returned (process : Nat) (result : Except AdmissionError GPUAdmissionLease)
  | enterOnce (d : Descriptor)
  | leaveOnce (d : Descriptor) (err : Option String)
  | exit (process : Nat)

/-- An `Option String` is the error of a call, if there was one. A caller that finds the
function of a `sync.Once` already run gets what it left. -/
@[reducible] def Effect.Answer : Effect → Type
  | .openFile .. => Option Descriptor
  | .flock .. => LockAnswer
  | .unlock _ | .close _ => Option String
  | .enterOnce _ => Option (Option String)
  | .returned .. | .leaveOnce .. | .exit _ => Unit

abbrev AdmissionProg (α : Type) : Type := Prog Effect Effect.Answer α
abbrev AdmissionEvent : Type := Event Effect Effect.Answer

def perform (e : Effect) : AdmissionProg e.Answer := .call e .pure

/-! ## Programs -/

def mutexPath (base : String) : String := base ++ ".mutex"
def batchPath (base : String) : String := base ++ ".batch"
def livePath (base : String) : String := base ++ ".live"

def cohortPaths (base : String) : GPUAdmissionCohort → Option (String × String)
  | .batch => some (batchPath base, livePath base)
  | .live => some (livePath base, batchPath base)
  | .other _ => none

/-- The part of `Acquire` that follows the probe. -/
def joinCohort (process : Nat) (ownPath : String) :
    AdmissionProg (Except AdmissionError GPUAdmissionLease) := do
  match ← perform (.openFile process ownPath) with
  | none => return .error (.failure "open GPU admission cohort")
  | some own =>
    match ← perform (.flock own .tryShared) with
    | .wouldBlock =>
      let _ ← perform (.close own)
      return .error .capacity
    | .failed errno =>
      let _ ← perform (.close own)
      return .error (.failure ("acquire GPU admission cohort: " ++ errno))
    | .locked => return .ok ⟨some own⟩

/-- The part of `Acquire` under the admission mutex. -/
def admitCohort (process : Nat) (ownPath opposingPath : String) :
    AdmissionProg (Except AdmissionError GPUAdmissionLease) := do
  match ← perform (.openFile process opposingPath) with
  | none => return .error (.failure "open opposing GPU admission cohort")
  | some opposing =>
    match ← perform (.flock opposing .tryExclusive) with
    | .wouldBlock =>
      let _ ← perform (.close opposing)
      return .error .capacity
    | .failed errno =>
      let _ ← perform (.close opposing)
      return .error (.failure ("probe opposing GPU admission cohort: " ++ errno))
    | .locked =>
      let _ ← perform (.unlock opposing)
      let _ ← perform (.close opposing)
      joinCohort process ownPath

/-- `Acquire`; a nil gate has no base path either. -/
def acquire (process : Nat) (basePath : String) (cohort : GPUAdmissionCohort) :
    AdmissionProg (Except AdmissionError GPUAdmissionLease) :=
  if basePath = "" then return .ok ⟨none⟩
  else
    match cohortPaths basePath cohort with
    | none => return .error (.failure "invalid GPU admission cohort")
    | some (ownPath, opposingPath) => do
      match ← perform (.openFile process (mutexPath basePath)) with
      | none => return .error (.failure "open GPU admission mutex")
      | some mutex =>
        match ← perform (.flock mutex .exclusive) with
        | .wouldBlock =>
          let _ ← perform (.close mutex)
          return .error (.failure "acquire GPU admission mutex")
        | .failed errno =>
          let _ ← perform (.close mutex)
          return .error (.failure ("acquire GPU admission mutex: " ++ errno))
        | .locked =>
          let result ← admitCohort process ownPath opposingPath
          let _ ← perform (.unlock mutex)
          let _ ← perform (.close mutex)
          return result

/-- A goroutine that acquires a lease and hands the result to its caller. -/
def acquiring (process : Nat) (basePath : String) (cohort : GPUAdmissionCohort) : AdmissionProg Unit := do
  let result ← acquire process basePath cohort
  perform (.returned process result)

/-- `Close` of a lease. Only a lease that `Acquire` returned can be closed. -/
def closeLease : GPUAdmissionLease → AdmissionProg (Option String)
  | ⟨none⟩ => return none
  | ⟨some file⟩ => do
    match ← perform (.enterOnce file) with
    | some err => return err
    | none =>
      let unlocked ← perform (.unlock file)
      let closed ← perform (.close file)
      let err :=
        match unlocked, closed with
        | some errno, _ => some ("release GPU admission lock: " ++ errno)
        | none, some errno => some ("close GPU admission lock: " ++ errno)
        | none, none => none
      let _ ← perform (.leaveOnce file err)
      return err

def closing (lease : GPUAdmissionLease) : AdmissionProg Unit := do
  let _ ← closeLease lease

/-! ## The kernel -/

/-- `leases` are those callers have been given. -/
structure Kernel where
  serial : Nat
  held : List (Hold Descriptor)
  dead : List Nat
  leases : List Descriptor
  once : Descriptor → OnceState

def Kernel.start : Kernel := ⟨0, [], [], [], fun _ => .unset⟩

def Kernel.setOnce (k : Kernel) (d : Descriptor) (state : OnceState) : Kernel :=
  { k with once := fun other => if other = d then state else k.once other }

/-- A lock that can be had is taken. One that cannot blocks, or is refused where the caller
does not wait; any call may fail for another reason. -/
def lockOutcome (k : Kernel) (d : Descriptor) (request : LockRequest) : LockAnswer → Kernel → Prop
  | .locked, k' => Grantable Descriptor.path k.held d request.mode ∧
      k' = { k with held := take k.held d request.mode }
  | .wouldBlock, k' => request ≠ .exclusive ∧
      ¬ Grantable Descriptor.path k.held d request.mode ∧ k' = k
  | .failed _, k' => k' = k

/-- What a call does. Every call of a process needs it alive. Closing a description drops
its lock even where it reports an error. -/
def execute (k : Kernel) : (e : Effect) → e.Answer → Kernel → Prop
  | .openFile process path, answer, k' => process ∉ k.dead ∧
      match answer with
      | none => k' = k
      | some d => d = ⟨process, path, k.serial⟩ ∧ k' = { k with serial := k.serial + 1 }
  | .flock d request, answer, k' => d.process ∉ k.dead ∧ lockOutcome k d request answer k'
  | .unlock d, answer, k' => d.process ∉ k.dead ∧
      match answer with
      | none => k' = { k with held := release k.held d }
      | some _ => k' = k
  | .close d, _, k' => d.process ∉ k.dead ∧ k' = { k with held := release k.held d }
  | .returned process result, _, k' => process ∉ k.dead ∧
      match result with
      | .ok ⟨some d⟩ => k' = { k with leases := d :: k.leases }
      | _ => k' = k
  | .enterOnce d, answer, k' => d.process ∉ k.dead ∧ d ∈ k.leases ∧
      match answer with
      | none => k.once d = .unset ∧ k' = k.setOnce d .running
      | some err => k.once d = .finished err ∧ k' = k
  | .leaveOnce d err, _, k' => d.process ∉ k.dead ∧ k' = k.setOnce d (.finished err)
  | .exit process, _, k' =>
      k' = { k with dead := process :: k.dead,
                    held := k.held.filter fun hold => decide (hold.owner.process ≠ process) }

/-- The programs of the processes; any process may end at any time. -/
inductive AdmissionStarts : AdmissionProg Unit → Prop where
  | acquiring (process : Nat) (basePath : String) (cohort : GPUAdmissionCohort) :
      AdmissionStarts (acquiring process basePath cohort)
  | closing (lease : GPUAdmissionLease) : AdmissionStarts (closing lease)
  | exit (process : Nat) : AdmissionStarts (perform (.exit process))

def admissionWorld : Actors.World Kernel Effect Effect.Answer where
  act := execute
  starts := AdmissionStarts

abbrev AdmissionScene : Type := Actors.Scene Kernel Effect Effect.Answer

def AdmissionRuns (c : AdmissionScene) : Prop :=
  Actors.Reachable admissionWorld (fun k => k = Kernel.start) c

/-- A lease of a caller that has not begun to close it and is alive. -/
def Kernel.Leased (k : Kernel) (path : String) (d : Descriptor) : Prop :=
  d ∈ k.leases ∧ k.once d = .unset ∧ d.process ∉ k.dead ∧ d.path = path

def Kernel.CohortHeld (k : Kernel) (path : String) : Prop :=
  ∃ hold ∈ k.held, hold.owner.path = path ∧ hold.mode = .shared

end LivepeerTranscode.TranscodeCore
