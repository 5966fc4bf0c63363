import LivepeerTranscode.Gateway.PaidSessionStore
import LivepeerTranscode.Gateway.Wire

/-!
# The RTMP dispatcher

`runtime/rtmp/dispatcher.ts`. The RTMP server calls back when a session publishes and when it is
done; a relay calls back when its process ends or fails. A published stream is looked up, claimed
and relayed to the runner by a process, and what becomes of the relay is written to the session's
row. What a callback does between two of its `await`s is one call on the tables of the process.
-/

namespace LivepeerTranscode.Gateway
open Checked Interaction JsonText NodeText
set_option autoImplicit false

namespace Dispatcher

/-! ## The tables of one process -/

/-- `ActiveRelay`, with the session it was spawned for and whether its process has ended. -/
structure Relay where
  streamId : String
  sessionId : String
  intentionalStop : Bool
  exited : Bool
  deriving DecidableEq, Repr

/-- The maps of `attachDispatcher`. A relay is named by its number in the order of spawns. -/
structure Tables where
  activeByNmsSession : String → Option Nat
  activeByStream : String → Option String
  pendingPaths : List String
  relays : List Relay

def Tables.empty : Tables := ⟨fun _ => none, fun _ => none, [], []⟩

section
variable (t : Tables)

def enter (streamPath : String) : Bool × Tables :=
  if streamPath ∈ t.pendingPaths then (false, t)
  else (true, { t with pendingPaths := streamPath :: t.pendingPaths })

def leave (streamPath : String) : Tables :=
  { t with pendingPaths := t.pendingPaths.filter fun path => path ≠ streamPath }

/-- A relay that was spawned, under its session and its stream. -/
def register (sessionId streamId : String) : Tables :=
  { t with
    activeByNmsSession := Function.update t.activeByNmsSession sessionId (some t.relays.length)
    activeByStream := Function.update t.activeByStream streamId (some sessionId)
    relays := t.relays ++ [⟨streamId, sessionId, false, false⟩] }

def unregister (sessionId streamId : String) : Tables :=
  { t with
    activeByNmsSession := Function.update t.activeByNmsSession sessionId none
    activeByStream := Function.update t.activeByStream streamId none }

def changeRelay (n : Nat) (change : Relay → Relay) : Tables :=
  { t with relays := t.relays.modify n change }

/-- The table part of `donePublish`: the stream of the relay it told to stop. -/
def stopSession (sessionId : String) : Option String × Tables :=
  match t.activeByNmsSession sessionId with
  | none => (none, t)
  | some n =>
    match t.relays[n]? with
    | none => (none, t)
    | some relay =>
      (some relay.streamId,
        unregister (changeRelay t n fun relay => { relay with intentionalStop := true }) sessionId relay.streamId)

/-- The `exit` of a relay, which comes once: its stream, unless it was told to stop. -/
def exited (n : Nat) : Option String × Tables :=
  match t.relays[n]? with
  | none => (none, t)
  | some relay =>
    if relay.exited then (none, t)
    else
      (if relay.intentionalStop then none else some relay.streamId,
        unregister (changeRelay t n fun relay => { relay with exited := true }) relay.sessionId relay.streamId)

theorem enter_cases (streamPath : String) :
    streamPath ∈ t.pendingPaths ∧ enter t streamPath = (false, t) ∨
      streamPath ∉ t.pendingPaths ∧
        enter t streamPath = (true, { t with pendingPaths := streamPath :: t.pendingPaths }) := by
  by_cases hpending : streamPath ∈ t.pendingPaths
  · exact .inl ⟨hpending, if_pos hpending⟩
  · exact .inr ⟨hpending, if_neg hpending⟩

theorem stopSession_cases (sessionId : String) :
    stopSession t sessionId = (none, t) ∨ ∃ n relay, t.activeByNmsSession sessionId = some n ∧
      t.relays[n]? = some relay ∧ stopSession t sessionId = (some relay.streamId,
        unregister (changeRelay t n fun relay => { relay with intentionalStop := true }) sessionId relay.streamId) := by
  unfold stopSession
  split
  · exact .inl rfl
  · rename_i n hn
    split
    · exact .inl rfl
    · rename_i relay hrelay
      exact .inr ⟨n, relay, hn, hrelay, rfl⟩

theorem exited_cases (n : Nat) :
    exited t n = (none, t) ∨ ∃ relay, t.relays[n]? = some relay ∧ relay.exited = false ∧
      exited t n = (if relay.intentionalStop then none else some relay.streamId,
        unregister (changeRelay t n fun relay => { relay with exited := true }) relay.sessionId relay.streamId) := by
  unfold exited
  split
  · exact .inl rfl
  · rename_i relay hrelay
    cases hexited : relay.exited with
    | true => exact .inl (if_pos rfl)
    | false => exact .inr ⟨relay, hrelay, hexited, if_neg (by simp)⟩

/-- The table part of `stop`. -/
def stopAll : Tables :=
  { activeByNmsSession := fun _ => none
    activeByStream := fun _ => none
    pendingPaths := []
    relays := t.relays.mapIdx fun n relay =>
      if t.activeByNmsSession relay.sessionId = some n then { relay with intentionalStop := true } else relay }

end

end Dispatcher

open Dispatcher in
/-- What a call answers and leaves; a process that is spawned is registered. -/
def RelayCall.run (t : Tables) : (call : RelayCall) → call.Answer × Tables
  | .enter _ streamPath => Dispatcher.enter t streamPath
  | .leave streamPath => ((), Dispatcher.leave t streamPath)
  | .destroy _ => ((), t)
  | .publishing streamId => ((t.activeByStream streamId).isSome, t)
  | .spawn sessionId streamId _ => (.ok (), register t sessionId streamId)
  | .stopSession sessionId => Dispatcher.stopSession t sessionId
  | .exited n => Dispatcher.exited t n
  | .failed n => ((t.relays[n]?).map fun relay => relay.streamId, t)
  | .stopAll => ((), Dispatcher.stopAll t)

namespace Dispatcher

structure Deps where
  store : PaidSessionStoreOptions
  listenPort : Nat
  expectedApp : String

section
variable (P : LivePlatform) (deps : Deps)

def relay (call : RelayCall) : LiveProg call.Answer := invoke (LiveCall.relay deps.store.owner call)

/-! ## Deciding -/

/-- `STREAM_PATH_RE`: the application and the key of a path. -/
def parseStreamPath (streamPath : String) : Option (String × String) :=
  match streamPath.toList.splitOn '/' with
  | [[], app, streamKey] => if app = [] ∨ streamKey = [] then none else some (String.ofList app, String.ofList streamKey)
  | _ => none

def hashStreamKey (streamKey : String) : String := P.sha256Hex (utf8Bytes streamKey.toList)

structure DispatchAccept where
  streamId : String
  targetUrl : String
  owned : OwnedPaidSession
  relayGeneration : Nat

inductive DispatchResult where
  | reject (parsed : Bool) (reason : String)
  | accept (value : DispatchAccept)

/-- The part of `decideDispatch` after the stream was found. -/
def claimStream (stream : LiveStream) : LiveProg DispatchResult := do
  match ← SessionStore.claimByLiveStreamId deps.store stream.id with
  | none => return .reject true "session_claim_unavailable"
  | some owned =>
    let secrets ← SessionStore.readSecrets owned
    match truthy (secrets.bind (·.runnerIngestUrl)), truthy (secrets.bind (·.runnerIngestKey)) with
    | some ingestUrl, some ingestKey =>
      return .accept {
        streamId := stream.id
        targetUrl := withoutTrailingSlash ingestUrl ++ "/" ++ ingestKey
        owned := owned
        relayGeneration := owned.runtime.relayGeneration + 1 }
    | _, _ =>
      let _ ← SessionStore.release owned
      return .reject true "runner_ingest_missing"

def decideDispatch (streamPath : String) : LiveProg DispatchResult := do
  match parseStreamPath streamPath with
  | none => return .reject false "stream_path_unparseable"
  | some (app, streamKey) =>
    if app ≠ deps.expectedApp then return .reject true "unknown_app"
    else
      match ← attempt (LiveCall.streamByKeyHash (hashStreamKey P streamKey)) fun answer => answer with
      | none => return .reject true "stream_not_found"
      | some stream =>
        if stream.status = "ended" ∨ stream.status = "errored" then
          return .reject true ("stream_" ++ stream.status)
        else claimStream deps stream

/-! ## Durable writes -/

def relayedRuntime (runtime : PaidSessionRuntimeState) (relayStatus : RelayStatus) (relayGeneration : Option Nat)
    (relayDisconnectedAt : Option String) : PaidSessionRuntimeState :=
  { runtime with
    relayStatus := relayStatus
    relayGeneration := relayGeneration.getD runtime.relayGeneration
    relayDisconnectedAt := relayDisconnectedAt }

def persistRelayState (streamId : String) (relayStatus : RelayStatus) (status : String)
    (relayGeneration : Option Nat) (relayDisconnectedAt : Option String) : LiveProg Bool := do
  match ← SessionStore.claimByLiveStreamId deps.store streamId with
  | none => return false
  | some owned =>
    match ← SessionStore.recordProgress deps.store owned {
      status := status
      sessionRuntime := some (relayedRuntime owned.runtime relayStatus relayGeneration relayDisconnectedAt) } with
    | none => return false
    | some progressed =>
      let _ ← SessionStore.release progressed
      return true

def updateStatus (streamId status : String) : LiveProg Unit := do
  let lastSeenAt ← invoke LiveCall.now
  attempt (LiveCall.updateStreamStatus streamId status { lastSeenAt := some lastSeenAt }) fun answer => answer

def scheduleAuthoritativeReconcile (streamId : String) (relayStatus : RelayStatus) : LiveProg Unit := do
  let now ← invoke LiveCall.now
  let scheduled ← persistRelayState deps streamId relayStatus "reconcile_pending" none (some (P.toISOString now))
  if scheduled then updateStatus streamId "reconnecting" else return ()

/-! ## Callbacks -/

def relayArgs (streamPath targetUrl : String) : List String :=
  ["-loglevel", "error", "-i", "rtmp://127.0.0.1:" ++ toString deps.listenPort ++ streamPath,
    "-c", "copy", "-f", "flv", targetUrl]

def startRelay (sessionId streamPath : String) (accept : DispatchAccept) : LiveProg Unit := do
  match ← SessionStore.recordProgress deps.store accept.owned {
    status := "relay_starting"
    sessionRuntime := some { accept.owned.runtime with
      relayStatus := .starting
      relayGeneration := accept.relayGeneration } } with
  | none => throw (LiveFailure.error "relay lifecycle fence lost")
  | some starting =>
    let _ ← SessionStore.release starting
    attempt (LiveCall.relay deps.store.owner
      (.spawn sessionId accept.streamId (relayArgs deps streamPath accept.targetUrl))) fun answer => answer
    let _ ← persistRelayState deps accept.streamId .active "active" (some accept.relayGeneration) none
    updateStatus accept.streamId "active"

/-- The asynchronous part of `postPublish`. -/
def setUp (sessionId streamPath : String) : LiveProg Unit := do
  match ← decideDispatch P deps streamPath with
  | .reject _ _ => relay deps (.destroy sessionId)
  | .accept accept =>
    if ← relay deps (.publishing accept.streamId) then
      let _ ← SessionStore.release accept.owned
      relay deps (.destroy sessionId)
    else startRelay deps sessionId streamPath accept

def postPublish (sessionId streamPath : String) : LiveProg Unit := do
  if ← relay deps (.enter sessionId streamPath) then
    tryCatch (setUp P deps sessionId streamPath) fun _ => relay deps (.destroy sessionId)
    relay deps (.leave streamPath)
  else relay deps (.destroy sessionId)

def donePublish (sessionId : String) : LiveProg Unit := do
  match ← relay deps (.stopSession sessionId) with
  | none => return ()
  | some streamId => scheduleAuthoritativeReconcile P deps streamId .reconnecting

/-- The `exit` of a relay. -/
def relayExit (n : Nat) : LiveProg Unit := do
  match ← relay deps (.exited n) with
  | none => return ()
  | some streamId => scheduleAuthoritativeReconcile P deps streamId .failed

/-- The `error` of a relay. -/
def relayError (n : Nat) : LiveProg Unit := do
  match ← relay deps (.failed n) with
  | none => return ()
  | some streamId => scheduleAuthoritativeReconcile P deps streamId .failed

def stop : LiveProg Unit := relay deps .stopAll

end

end Dispatcher

end LivepeerTranscode.Gateway
