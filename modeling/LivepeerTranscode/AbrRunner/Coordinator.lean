import LivepeerTranscode.AbrRunner.Store
import LivepeerTranscode.Shared.Actors

/-!
# The ABR handler and its execution coordinator

`abr-runner/abr_handler_v2.go`: requests, subscriptions and executions of one process, as
programs that share the workload store and the coordinator's memory. `Subscribe` holds the
coordinator's mutex over several calls; the other methods that take it touch nothing but the
memory it guards, so each is one step that needs the mutex free. The store serialises its own
operations.
-/

namespace LivepeerTranscode.AbrRunner
open Interaction Checked GoText JsonText
set_option autoImplicit false

/-- One rung of a ladder; its encoder settings only reach FFmpeg. -/
structure ABRRendition where
  name : String
  video : Bool

structure ABRPreset where
  name : String
  renditions : List ABRRendition

def ABRPreset.renditionNames (preset : ABRPreset) : List String := preset.renditions.map (·.name)

/-- The code the runner is built on, with its configuration. -/
structure Runner extends StorePlatform where
  sha256Hex : List UInt8 → String
  equalFold : String → String → Bool
  presets : List ABRPreset
  limit : Nat

def Runner.findABRPreset (runner : Runner) (name : String) : Option ABRPreset :=
  runner.presets.find? fun preset => runner.equalFold preset.name name

structure HttpRequest where
  method : String
  accept : String
  body : List UInt8

/-- What a handler writes: an error document, the head of an event stream, an event, a
comment or the work-units trailer. -/
inductive Reply where
  | refused (status : Nat) (error : String)
  | opened
  | event (stored : StoredSSEEventV2)
  | keepalive
  | trailer (units : Nat)

inductive AcquireError where
  | capacity
  | failure (message : String)

/-- An entry of the active map; `serial` tells the executions of a process apart. -/
structure Execution where
  serial : Nat
  requestSHA256 : String
  subscribers : List Nat
  lease : Nat

/-- An execution that is started: its request and the GPU lease it holds. -/
structure Spawn where
  req : ABRWorkloadRequestV2
  requestSHA256 : String
  lease : Nat

/-- What a streaming handler waits for: a notification with whether the channel is still open,
the keepalive ticker, or the end of the request. -/
inductive Selected where
  | notified (isOpen : Bool)
  | tick
  | gone

inductive Effect where
  | arrive (request : HttpRequest)
  | store (op : Operation)
  | lock
  | unlock
  | lookup (workloadID : String)
  | acquire
  | start (spawn : Spawn)
  | attach (workloadID : String)
  | detach (workloadID : String) (subscriber : Nat)
  | begin (req : ABRWorkloadRequestV2) (requestSHA256 : String)
  | contextErr (serial : Nat)
  | notify (workloadID : String)
  | finish (workloadID : String)
  | select (subscriber : Nat)
  | reply (reply : Reply)

/-- `lookup` also tells how many executions are active, `start` and `begin` the number of the
execution, `finish` the execution it took out, and `reply` whether it was written. -/
@[reducible] def Effect.Answer : Effect → Type
  | .store op => Except StoreError op.Answer
  | .lookup _ => Option Execution × Nat
  | .acquire => Except AcquireError Nat
  | .start _ | .attach _ | .begin _ _ => Nat
  | .contextErr _ | .reply _ => Bool
  | .finish _ => Option Execution
  | .select _ => Selected
  | .arrive _ | .lock | .unlock | .detach _ _ | .notify _ => Unit

abbrev AbrProg (α : Type) : Type := Prog Effect Effect.Answer α
abbrev AbrEvent : Type := Event Effect Effect.Answer

def perform (e : Effect) : AbrProg e.Answer := .call e .pure

/-! ## Subscriptions -/

inductive SubscribeError where
  | capacity
  | failed (message : String)
  | unavailable (err : StoreError)

/-- The part of `Subscribe` that found no execution. -/
def startExecution (limit : Nat) (req : ABRWorkloadRequestV2) (requestSHA256 : String) (count : Nat) :
    AbrProg (Except SubscribeError (Option Nat)) :=
  if limit ≤ count then return .error .capacity
  else do
    match ← perform .acquire with
    | .error .capacity => return .error .capacity
    | .error (.failure message) => return .error (.failed message)
    | .ok lease =>
      let _ ← perform (.start ⟨req, requestSHA256, lease⟩)
      let subscriber ← perform (.attach req.workloadID)
      return .ok (some subscriber)

/-- `Subscribe` under the mutex; `none` means that the workload has become terminal. -/
def subscribeLocked (limit : Nat) (req : ABRWorkloadRequestV2) (requestSHA256 : String) :
    AbrProg (Except SubscribeError (Option Nat)) := do
  match ← perform (.store (.load req.workloadID)) with
  | .error err => return .error (.unavailable err)
  | .ok record =>
    if record.requestSHA256 ≠ requestSHA256 then
      return .error (.failed "request identity changed while subscribing")
    else if record.state ≠ .inProgress then return .ok none
    else
      match ← perform (.lookup req.workloadID) with
      | (none, count) => startExecution limit req requestSHA256 count
      | (some execution, _) =>
        if execution.requestSHA256 ≠ requestSHA256 then
          return .error (.failed "active execution identity mismatch")
        else
          let subscriber ← perform (.attach req.workloadID)
          return .ok (some subscriber)

def subscribe (limit : Nat) (req : ABRWorkloadRequestV2) (requestSHA256 : String) :
    AbrProg (Except SubscribeError (Option Nat)) := do
  perform .lock
  let result ← subscribeLocked limit req requestSHA256
  perform .unlock
  return result

/-! ## Executions -/

/-- What an executor can do to its workload, and its context. -/
inductive ReporterEffect where
  | progress (phase : String) (overallProgress : Binary64.Number) (rendition : String) (frames : Nat)
  | prepared (prepared : PreparedRenditionV2) (fits : prepared.Fits)
  | delivered (delivered : RenditionResultV2) (fits : delivered.Fits)
  | preparedManifest (prepared : PreparedArtifactV2)
  | deliveredManifest (artifactURI : String)
  | contextErr

@[reducible] def ReporterEffect.Answer : ReporterEffect → Type
  | .contextErr => Bool
  | _ => Except StoreError Unit

abbrev ReporterProg (α : Type) : Type := Prog ReporterEffect ReporterEffect.Answer α

/-- What an executor returns: a result, or an error that may wrap an `ABRExecutionErrorV2`. -/
abbrev ExecutorOutcome : Type := Except (Option ABRErrorV2) ABRTerminalResultV2

def reporterProgress (workloadID phase : String) (overallProgress : Binary64.Number) (rendition : String)
    (frames : Nat) : AbrProg (Except StoreError Unit) := do
  match ← perform (.store (.appendProgress workloadID phase overallProgress rendition frames)) with
  | .error err => return .error err
  | .ok _ =>
    perform (.notify workloadID)
    return .ok ()

def reporterCall (workloadID : String) (serial : Nat) : (e : ReporterEffect) → AbrProg e.Answer
  | .progress phase overallProgress rendition frames =>
    reporterProgress workloadID phase overallProgress rendition frames
  | .prepared prepared _ => perform (.store (.savePrepared workloadID prepared))
  | .delivered delivered _ => perform (.store (.saveDelivered workloadID delivered))
  | .preparedManifest prepared => perform (.store (.savePreparedManifest workloadID prepared))
  | .deliveredManifest artifactURI => perform (.store (.saveDeliveredManifest workloadID artifactURI))
  | .contextErr => perform (.contextErr serial)

/-- The error document of a failure before it is known for which workload. -/
def failureProbe (candidate : ABRErrorV2) : ABRTerminalErrorV2 :=
  { schema := abrResultSchemaV2, workloadID := "validation",
    requestSHA256 := String.ofList (List.replicate 64 '0'), outcome := "failed", error := candidate,
    usage := ⟨abrWorkUnitV2, 0⟩ }

def safeABRExecutionFailureV2 (err : Option ABRErrorV2) : ABRErrorV2 :=
  match err with
  | none => ⟨"execution_failed", "ABR execution failed", true⟩
  | some candidate =>
    match validateABRTerminalErrorV2 (failureProbe candidate) with
    | .ok () => candidate
    | .error _ => ⟨"execution_failed", "ABR execution failed", true⟩

section
variable (runner : Runner)

/-- `deliveredWorkUnits` on what `Load` answered. -/
def deliveredWorkUnits (loaded : Except StoreError WorkloadJournalV2) : Option Nat :=
  match loaded with
  | .error _ => none
  | .ok record => (calculateFrameMegapixelUnitsV2 runner.toPlatform record.deliveredResults).toOption

def failureEvent (req : ABRWorkloadRequestV2) (requestSHA256 : String) (err : Option ABRErrorV2)
    (units : Option Nat) : ABRTerminalErrorV2 :=
  { schema := abrResultSchemaV2, workloadID := req.workloadID, requestSHA256, outcome := "failed",
    error := if units.isSome then safeABRExecutionFailureV2 err else usageFailed,
    usage := ⟨abrWorkUnitV2, units.getD 0⟩ }

/-- Record how an execution ended; whether that succeeded. -/
def settle (req : ABRWorkloadRequestV2) (requestSHA256 : String) (outcome : ExecutorOutcome) : AbrProg Bool := do
  match outcome with
  | .ok result =>
    let recorded ← perform (.store (.recordTerminalResult req.workloadID result))
    return recorded.isOk
  | .error err =>
    let loaded ← perform (.store (.load req.workloadID))
    let recorded ← perform (.store (.recordTerminalError req.workloadID
      (failureEvent req requestSHA256 err (deliveredWorkUnits runner loaded))))
    return recorded.isOk

/-- `run`; an executor does whatever it likes with its reporter. -/
def run (req : ABRWorkloadRequestV2) (requestSHA256 : String) (serial : Nat)
    (execute : ReporterProg ExecutorOutcome) : AbrProg Unit := do
  let outcome ← execute.handle (reporterCall req.workloadID serial)
  let cancelled ← perform (.contextErr serial)
  if cancelled then
    let _ ← perform (.finish req.workloadID)
  else
    let recorded ← settle runner req requestSHA256 outcome
    if recorded then
      perform (.notify req.workloadID)
      let _ ← perform (.finish req.workloadID)
    else
      let _ ← perform (.finish req.workloadID)

def running (req : ABRWorkloadRequestV2) (requestSHA256 : String) (execute : ReporterProg ExecutorOutcome) :
    AbrProg Unit := do
  let serial ← perform (.begin req requestSHA256)
  run runner req requestSHA256 serial execute

/-! ## Responses -/

instance : Inhabited UsageClaimV2 := ⟨⟨"", 0⟩⟩
instance : Inhabited ABRErrorV2 := ⟨⟨"", "", false⟩⟩
instance : Inhabited ABRTerminalResultV2 := ⟨⟨"", "", "", "", "", [], default⟩⟩
instance : Inhabited ABRTerminalErrorV2 := ⟨⟨"", "", "", "", default, default⟩⟩

def usageFields : FieldsOf RawDocument UsageClaimV2 :=
  [textMember "unit" (·.unit) fun value text => { value with unit := text },
    uintMember 64 "units" (·.units) fun value n => { value with units := n }]

def errorFields : FieldsOf RawDocument ABRErrorV2 :=
  [textMember "code" (·.code) fun value text => { value with code := text },
    textMember "message" (·.message) fun value text => { value with message := text },
    ("retryable", fun value item => (rawBoolField value.retryable item).map fun b =>
      { value with retryable := b })]

def terminalResultFields : FieldsOf RawDocument ABRTerminalResultV2 :=
  [textMember "schema" (·.schema) fun value text => { value with schema := text },
    textMember "workload_id" (·.workloadID) fun value text => { value with workloadID := text },
    textMember "request_sha256" (·.requestSHA256) fun value text => { value with requestSHA256 := text },
    textMember "outcome" (·.outcome) fun value text => { value with outcome := text },
    textMember "manifest_uri" (·.manifestURI) fun value text => { value with manifestURI := text },
    freshMember "renditions" (rawSlice (rawStruct resultFields default)) fun value renditions =>
      { value with renditions },
    freshMember "usage" (rawStruct usageFields default) fun value usage => { value with usage }]

def terminalErrorFields : FieldsOf RawDocument ABRTerminalErrorV2 :=
  [textMember "schema" (·.schema) fun value text => { value with schema := text },
    textMember "workload_id" (·.workloadID) fun value text => { value with workloadID := text },
    textMember "request_sha256" (·.requestSHA256) fun value text => { value with requestSHA256 := text },
    textMember "outcome" (·.outcome) fun value text => { value with outcome := text },
    freshMember "error" (rawStruct errorFields default) fun value error => { value with error },
    freshMember "usage" (rawStruct usageFields default) fun value usage => { value with usage }]

/-- The units of a terminal event; what `Marshal` wrote has no unknown fields. -/
def terminalUnits (event : StoredSSEEventV2) : Option Nat :=
  if event.event = "result" then
    ((rawDocument event.data).bind (rawStruct terminalResultFields default)).map (·.usage.units)
  else if event.event = "error" then
    ((rawDocument event.data).bind (rawStruct terminalErrorFields default)).map (·.usage.units)
  else none

def terminalWorkUnitsV2 (record : WorkloadJournalV2) : Option Nat := record.terminalEvent.bind terminalUnits

def writeWorkUnitsTrailerV2 (record : WorkloadJournalV2) : AbrProg Unit :=
  match terminalWorkUnitsV2 record with
  | none => return ()
  | some units => do
    let _ ← perform (.reply (.trailer units))

/-- The events after a sequence number; `none` when the client is gone. -/
def writeEvents (after : Nat) : Nat → List StoredSSEEventV2 → AbrProg (Option Nat)
  | last, [] => return some last
  | last, event :: rest =>
    if event.sequence ≤ after then writeEvents after last rest
    else do
      if ← perform (.reply (.event event)) then writeEvents after event.sequence rest
      else return none

/-- The last sequence number written, and whether the journal is terminal. -/
def writeJournalEventsV2 (record : WorkloadJournalV2) (after : Nat) : AbrProg (Option (Nat × Bool)) := do
  match ← writeEvents after after record.progressEvents with
  | none => return none
  | some last =>
    match record.terminalEvent with
    | none => return some (last, false)
    | some event =>
      if event.sequence ≤ after then return some (last, true)
      else if ← perform (.reply (.event event)) then return some (event.sequence, true)
      else return none

def follow (workloadID : String) (subscriber : Nat) : Nat → Nat → AbrProg Unit
  | 0, _ => return ()
  | turns + 1, last => do
    match ← perform (.select subscriber) with
    | .gone => return ()
    | .tick =>
      if ← perform (.reply .keepalive) then follow workloadID subscriber turns last
      else return ()
    | .notified isOpen =>
      match ← perform (.store (.load workloadID)) with
      | .error _ => return ()
      | .ok record =>
        match ← writeJournalEventsV2 record last with
        | none => return ()
        | some (_, true) => writeWorkUnitsTrailerV2 record
        | some (last, false) => if isOpen then follow workloadID subscriber turns last else return ()

def stream (workloadID : String) (turns : Nat) (record : WorkloadJournalV2) (subscription : Option Nat) :
    AbrProg Unit := do
  let _ ← perform (.reply .opened)
  match ← writeJournalEventsV2 record 0 with
  | none => return ()
  | some (_, true) => writeWorkUnitsTrailerV2 record
  | some (last, false) =>
    match subscription with
    | none => return ()
    | some subscriber => follow workloadID subscriber turns last

/-- `stream` with the deferred `Close` of its subscription. -/
def streamSubscribed (workloadID : String) (turns : Nat) (record : WorkloadJournalV2) (subscriber : Nat) :
    AbrProg Unit := do
  stream workloadID turns record (some subscriber)
  perform (.detach workloadID subscriber)

def refuse (status : Nat) (error : String) : AbrProg Unit := do
  let _ ← perform (.reply (.refused status error))

/-- What is decided before the store is asked: a refusal, or the request and its hash. -/
def admitRequest (request : HttpRequest) : Except (Nat × String) (ABRWorkloadRequestV2 × String) :=
  if request.method ≠ "POST" then .error (405, "method_not_allowed")
  else if ¬ "text/event-stream".toList <:+: request.accept.toList then .error (406, "sse_transport_required")
  else
    match decodeABRRequestV2 request.body with
    | none => .error (400, "invalid_request")
    | some req =>
      match runner.findABRPreset req.ladder.preset with
      | none => .error (400, "unknown_preset")
      | some preset =>
        match validateABRRequestV2 runner.toPlatform req preset.renditionNames with
        | .error _ => .error (400, "invalid_request")
        | .ok () => .ok (req, requestContentSHA256V2 runner.sha256Hex req)

def resume (turns : Nat) (req : ABRWorkloadRequestV2) (requestSHA256 : String) (record : WorkloadJournalV2) :
    AbrProg Unit := do
  match ← subscribe runner.limit req requestSHA256 with
  | .error .capacity => refuse 429 "capacity_reached"
  | .error _ => refuse 500 "execution_unavailable"
  | .ok none =>
    match ← perform (.store (.load req.workloadID)) with
    | .error _ => refuse 500 "journal_unavailable"
    | .ok record => stream req.workloadID turns record none
  | .ok (some subscriber) => streamSubscribed req.workloadID turns record subscriber

def serve (turns : Nat) (req : ABRWorkloadRequestV2) (requestSHA256 : String) : AbrProg Unit := do
  match ← perform (.store (.loadOrCreate req.workloadID requestSHA256)) with
  | .error _ => refuse 500 "journal_unavailable"
  | .ok (_, .rejectIDReuse) => refuse 409 "workload_id_reuse"
  | .ok (record, .replayTerminal) => stream req.workloadID turns record none
  | .ok (record, .resumeExisting) => resume runner turns req requestSHA256 record

/-- `ServeHTTP` -/
def serveHTTP (turns : Nat) (request : HttpRequest) : AbrProg Unit := do
  perform (.arrive request)
  match admitRequest runner request with
  | .error (status, error) => refuse status error
  | .ok (req, requestSHA256) => serve runner turns req requestSHA256

end

/-! ## Shared state -/

structure Channel where
  buffered : Bool
  closed : Bool

structure AbrState where
  disk : Disk
  locked : Bool
  active : List (String × Execution)
  nextSubscriber : Nat
  executions : Nat
  spawned : List (Nat × Spawn)
  cancelled : List Nat
  channels : Nat → Channel
  leases : List Nat
  granted : Nat

def AbrState.boot (disk : Disk) : AbrState :=
  ⟨disk, false, [], 0, 0, [], [], fun _ => ⟨false, false⟩, [], 0⟩

def findExecution (active : List (String × Execution)) (workloadID : String) : Option Execution :=
  (active.find? fun entry => entry.1 == workloadID).map Prod.snd

def removeExecution (active : List (String × Execution)) (workloadID : String) : List (String × Execution) :=
  active.filter fun entry => entry.1 != workloadID

def setSubscribers (active : List (String × Execution)) (workloadID : String) (change : List Nat → List Nat) :
    List (String × Execution) :=
  active.map fun entry =>
    if entry.1 = workloadID then (entry.1, { entry.2 with subscribers := change entry.2.subscribers }) else entry

def changeChannels (channels : Nat → Channel) (subscribers : List Nat) (change : Channel → Channel) :
    Nat → Channel :=
  fun subscriber => if subscriber ∈ subscribers then change (channels subscriber) else channels subscriber

def detachFrom (s : AbrState) (workloadID : String) (subscriber : Nat) : AbrState :=
  match findExecution s.active workloadID with
  | none => s
  | some execution =>
    { s with
      active := setSubscribers s.active workloadID fun subscribers => subscribers.filter (· ≠ subscriber)
      cancelled := if execution.subscribers.filter (· ≠ subscriber) = [] then execution.serial :: s.cancelled
        else s.cancelled }

def notifyAll (s : AbrState) (workloadID : String) : AbrState :=
  match findExecution s.active workloadID with
  | none => s
  | some execution =>
    { s with channels := changeChannels s.channels execution.subscribers fun channel =>
        { channel with buffered := true } }

def finishExecution (s : AbrState) (workloadID : String) : AbrState :=
  match findExecution s.active workloadID with
  | none => s
  | some execution =>
    { s with
      active := removeExecution s.active workloadID
      leases := s.leases.filter (· ≠ execution.lease)
      channels := changeChannels s.channels execution.subscribers fun channel => { channel with closed := true } }

def execute (P : StorePlatform) (s : AbrState) : (e : Effect) → e.Answer → AbrState → Prop
  | .store op, answer, s' => ∃ faults, (op.perform P faults s.disk).answer = answer ∧
      s' = { s with disk := s.disk.after (op.perform P faults s.disk).saved }
  | .lock, _, s' => s.locked = false ∧ s' = { s with locked := true }
  | .unlock, _, s' => s' = { s with locked := false }
  | .lookup workloadID, answer, s' =>
      answer = (findExecution s.active workloadID, s.active.length) ∧ s' = s
  | .acquire, answer, s' =>
      match answer with
      | .ok lease => lease = s.granted ∧ s' = { s with granted := s.granted + 1, leases := lease :: s.leases }
      | .error _ => s' = s
  | .start spawn, serial, s' => serial = s.executions ∧
      s' = { s with
        executions := s.executions + 1
        active := (spawn.req.workloadID, ⟨serial, spawn.requestSHA256, [], spawn.lease⟩) :: s.active
        spawned := (serial, spawn) :: s.spawned }
  | .attach workloadID, subscriber, s' => subscriber = s.nextSubscriber + 1 ∧
      s' = { s with
        nextSubscriber := subscriber
        active := setSubscribers s.active workloadID fun subscribers => subscriber :: subscribers }
  | .detach workloadID subscriber, _, s' => s.locked = false ∧ s' = detachFrom s workloadID subscriber
  | .begin req requestSHA256, serial, s' => ∃ spawn, (serial, spawn) ∈ s.spawned ∧ spawn.req = req ∧
      spawn.requestSHA256 = requestSHA256 ∧
      s' = { s with spawned := s.spawned.filter fun other => decide (other.1 ≠ serial) }
  | .contextErr serial, answer, s' => answer = decide (serial ∈ s.cancelled) ∧ s' = s
  | .notify workloadID, _, s' => s.locked = false ∧ s' = notifyAll s workloadID
  | .finish workloadID, answer, s' => s.locked = false ∧ answer = findExecution s.active workloadID ∧
      s' = finishExecution s workloadID
  | .select subscriber, answer, s' =>
      match answer with
      | .notified isOpen => isOpen = (s.channels subscriber).buffered ∧
          ((s.channels subscriber).buffered ∨ (s.channels subscriber).closed) ∧
          s' = { s with channels := changeChannels s.channels [subscriber] fun channel =>
            { channel with buffered := false } }
      | .tick | .gone => s' = s
  | .arrive _, _, s' => s' = s
  | .reply _, _, s' => s' = s

/-- Requests arrive at any time; an execution runs once it was started. -/
inductive AbrStarts (runner : Runner) : AbrProg Unit → Prop where
  | serveHTTP (turns : Nat) (request : HttpRequest) : AbrStarts runner (serveHTTP runner turns request)
  | running (req : ABRWorkloadRequestV2) (requestSHA256 : String) (execute : ReporterProg ExecutorOutcome) :
      AbrStarts runner (running runner req requestSHA256 execute)

def abrWorld (runner : Runner) : Actors.World AbrState Effect Effect.Answer where
  act := execute runner.toStorePlatform
  starts := AbrStarts runner

abbrev AbrScene : Type := Actors.Scene AbrState Effect Effect.Answer

/-- What a life of the process leads to, and the logs of those before it. A process that ends
leaves nothing but the files. -/
inductive Lives (runner : Runner) : List (List (Nat × AbrEvent)) → AbrScene → Prop where
  | first {c : AbrScene} : Actors.Reachable (abrWorld runner) (· = .boot .empty) c → Lives runner [] c
  | restarted {past : List (List (Nat × AbrEvent))} {c c' : AbrScene} : Lives runner past c →
      Actors.Reachable (abrWorld runner) (· = .boot c.shared.disk) c' → Lives runner (past ++ [c.log]) c'

end LivepeerTranscode.AbrRunner
