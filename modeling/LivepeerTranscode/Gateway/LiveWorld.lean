import LivepeerTranscode.Gateway.Dispatcher
import LivepeerTranscode.Gateway.LiveProgramCalls
import LivepeerTranscode.Gateway.World

/-!
# Gateways with live sessions

Any number of gateways run their dispatchers and their reconcilers against one database. The
tables of a dispatcher, and the sessions a scan has handed to tasks, belong to a process. A live
stream keeps the hash of its key from its insertion on.
-/

namespace LivepeerTranscode.Gateway
open Actors Checked Interaction
set_option autoImplicit false

structure LiveState where
  db : Database
  clock : Time
  tables : String → Dispatcher.Tables
  handed : String → List OwnedPaidSession

structure LiveState.Idle (s : LiveState) : Prop where
  tables : ∀ gateway, s.tables gateway = .empty
  handed : ∀ gateway, s.handed gateway = []

/-- Calls that leave what is modelled as it is, and may be answered in any way. -/
def LiveCall.outside : LiveCall → Prop
  | .prepareSession _ | .openSession _ | .refillSession _ | .closeSession _ | .fetch _ | .readControl ..
  | .updateStreamStatus .. | .playbackIdsOf _ | .insertPlaybackId _ | .recordRoute _ | .removeRoute _
  | .randomBytes _ => True
  | _ => False

/-- A call on the tables of a process; a spawn may throw. -/
inductive RelayActs (t : Dispatcher.Tables) : (call : RelayCall) → call.Answer → Dispatcher.Tables → Prop where
  | run (call : RelayCall) : RelayActs t call (call.run t).1 (call.run t).2
  | unspawned {sessionId streamId : String} {args : List String} (e : LiveFailure) :
      RelayActs t (.spawn sessionId streamId args) (.error e) t

section
variable (pg : Postgres) (cipher : OperationSecretCipher) (keyHash : String → String)

inductive LivePerforms (s : LiveState) : (e : LiveCall) → e.Answer → LiveState → Prop where
  | repo {call : RepoCall} {exec : Execution} : exec.now = s.clock →
      LivePerforms s (.repo call) (call.run pg cipher exec s.db).1
        { s with db := (call.run pg cipher exec s.db).2 }
  | now : LivePerforms s .now s.clock s
  | relay {gateway : String} {call : RelayCall} {answer : call.Answer} {t : Dispatcher.Tables} :
      RelayActs (s.tables gateway) call answer t →
      LivePerforms s (.relay gateway call) answer { s with tables := Function.update s.tables gateway t }
  | lookup {hash : String} {answer : Except LiveFailure (Option LiveStream)} :
      (∀ stream, answer = .ok (some stream) → keyHash stream.id = hash) →
      LivePerforms s (.streamByKeyHash hash) answer s
  | handOver {gateway : String} {sessions : List OwnedPaidSession} :
      LivePerforms s (.handOver gateway sessions) ()
        { s with handed := Function.update s.handed gateway (s.handed gateway ++ sessions) }
  | takeOver {gateway : String} {session : OwnedPaidSession} {before after : List OwnedPaidSession} :
      s.handed gateway = before ++ session :: after →
      LivePerforms s (.takeOver gateway) (some session)
        { s with handed := Function.update s.handed gateway (before ++ after) }
  | nothing {gateway : String} : LivePerforms s (.takeOver gateway) none s
  | outside {e : LiveCall} {answer : e.Answer} : e.outside → LivePerforms s e answer s

/-- `advance` is what the clock may do. The tables beside the operations and their secrets are
written by other code at any time. -/
def liveWorld (advance : Time → Time → Prop) (starts : Prog LiveCall LiveCall.Answer Unit → Prop) :
    World LiveState LiveCall LiveCall.Answer where
  act s e answer s' := ∃ db clock, s.db.Beside db ∧ advance s.clock clock ∧
    LivePerforms pg cipher keyHash { s with db := db, clock := clock } e answer s'
  starts := starts

end

inductive TablesStep (s s' : LiveState) : (e : LiveCall) → e.Answer → Prop where
  | relay {gateway : String} {call : RelayCall} {answer : call.Answer} :
      RelayActs (s.tables gateway) call answer (s'.tables gateway) →
      (∀ other, other ≠ gateway → s'.tables other = s.tables other) →
      TablesStep s s' (.relay gateway call) answer
  | same {e : LiveCall} {answer : e.Answer} : (∀ gateway call, e ≠ .relay gateway call) →
      s'.tables = s.tables → TablesStep s s' e answer

section
variable {pg : Postgres} {cipher : OperationSecretCipher} {keyHash : String → String}
  {advance : Time → Time → Prop} {starts : Prog LiveCall LiveCall.Answer Unit → Prop} {s s' : LiveState}

theorem act_tables {e : LiveCall} {answer : e.Answer}
    (h : (liveWorld pg cipher keyHash advance starts).act s e answer s') : TablesStep s s' e answer := by
  obtain ⟨db, clock, -, -, hperforms⟩ := h
  cases hperforms with
  | @relay gateway call answer t hacts =>
    refine .relay ?_ fun other hother => Function.update_of_ne hother _ _
    show RelayActs (s.tables gateway) call answer (Function.update s.tables gateway t gateway)
    rwa [Function.update_self]
  | outside hout =>
    refine .same ?_ rfl
    rintro gateway call rfl
    exact hout
  | _ => exact .same (by simp) rfl

end

/-- The callbacks of the dispatchers; `app` is the application a gateway expects. -/
inductive Callback (P : LivePlatform) (app : String → String) : Prog LiveCall LiveCall.Answer Unit → Prop where
  | publish {deps : Dispatcher.Deps} (sessionId streamPath : String) : deps.expectedApp = app deps.store.owner →
      Callback P app (detached (Dispatcher.postPublish P deps sessionId streamPath))
  | done (deps : Dispatcher.Deps) (sessionId : String) :
      Callback P app (detached (Dispatcher.donePublish P deps sessionId))
  | exit (deps : Dispatcher.Deps) (relay : Nat) : Callback P app (detached (Dispatcher.relayExit P deps relay))
  | error (deps : Dispatcher.Deps) (relay : Nat) : Callback P app (detached (Dispatcher.relayError P deps relay))

end LivepeerTranscode.Gateway
