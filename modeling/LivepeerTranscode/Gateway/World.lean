import LivepeerTranscode.Gateway.Calls
import LivepeerTranscode.Gateway.Terminals
import LivepeerTranscode.Shared.Actors

/-!
# Gateways over one database

Any number of gateways run their services against one database. A statement of the
repository acts on the tables; the clock is read by it and by the services. The tables beside
the operations and their secrets are also written by code that is not modelled here, at any
time and in any way.
-/

namespace LivepeerTranscode.Gateway
open Actors Checked History Interaction
set_option autoImplicit false

structure GatewayState where
  db : Database
  clock : Time

def Database.Beside (db db' : Database) : Prop :=
  db'.operations = db.operations ∧ db'.secrets = db.secrets

section
variable (pg : Postgres) (cipher : OperationSecretCipher)

inductive Performs (db : Database) (now : Time) : (e : Call) → e.Answer → Database → Prop where
  | repo {call : RepoCall} {exec : Execution} : exec.now = now →
      Performs db now (.repo call) (call.run pg cipher exec db).1 (call.run pg cipher exec db).2
  | now : Performs db now .now now db
  | outside {e : Call} {answer : e.Answer} : e.outside → Performs db now e answer db

/-- `advance` is what the clock may do. -/
def gatewayWorld (advance : Time → Time → Prop) (starts : Prog Call Call.Answer Unit → Prop) :
    World GatewayState Call Call.Answer where
  act s e answer s' := advance s.clock s'.clock ∧
    ∃ db, s.db.Beside db ∧ Performs pg cipher db s'.clock e answer s'.db
  starts := starts

end

def discard {α : Type} (p : GatewayProg α) : Prog Call Call.Answer Unit := p.run >>= fun _ => .pure ()

theorem discard_obeys {α : Type} {may : List GatewayEvent → Call → Prop}
    {returns : List GatewayEvent → α → Prop} {p : GatewayProg α} (h : Keeps may returns p []) :
    Obeys may (fun _ _ => True) (discard p) [] := by
  refine Obeys.bind h ?_
  intro h result _
  trivial

section
variable {pg : Postgres} {cipher : OperationSecretCipher} {advance : Time → Time → Prop}
  {starts : Prog Call Call.Answer Unit → Prop} {s s' : GatewayState}

theorem RowChange.beside {exec : Execution} {call : RepoCall} {db before db' : Database} {id : String}
    (h : RowChange pg exec call db db' id) (hbeside : before.Beside db) :
    RowChange pg exec call before db' id := by
  have hlookup : db.operations.lookup id = before.operations.lookup id := by
    rw [hbeside.1]
  cases h with
  | same hsame => exact .same (hsame.trans hlookup)
  | move hrow hrow' hmove => exact .move (hlookup.symm.trans hrow) hrow' hmove
  | create hnone hrow' hcreated => exact .create (hlookup.symm.trans hnone) hrow' hcreated

inductive RowStep (pg : Postgres) (s : GatewayState) (e : Call) (s' : GatewayState) (id : String) : Prop where
  | same : s'.db.operations.lookup id = s.db.operations.lookup id → RowStep pg s e s' id
  | move {call : RepoCall} {exec : Execution} {row row' : OperationRow} : e = .repo call →
      exec.now = s'.clock → s.db.operations.lookup id = some row →
      s'.db.operations.lookup id = some row' → RowMove pg exec id row call row' → RowStep pg s e s' id
  | create {call : RepoCall} {exec : Execution} {row' : OperationRow} : e = .repo call →
      exec.now = s'.clock → s.db.operations.lookup id = none →
      s'.db.operations.lookup id = some row' → RowCreated pg exec id call row' → RowStep pg s e s' id

theorem act_row {e : Call} {answer : e.Answer}
    (h : (gatewayWorld pg cipher advance starts).act s e answer s') (id : String) :
    RowStep pg s e s' id := by
  obtain ⟨-, db, hbeside, hperforms⟩ := h
  generalize hclock : s'.clock = now at hperforms
  generalize hdb : s'.db = db' at hperforms
  cases hperforms with
  | @repo call exec hnow =>
    have hchange := (run_row pg cipher exec db call id).beside hbeside
    rw [← hdb] at hchange
    cases hchange with
    | same hsame => exact .same hsame
    | move hrow hrow' hmove => exact .move rfl (hnow.trans hclock.symm) hrow hrow' hmove
    | create hnone hrow' hcreated => exact .create rfl (hnow.trans hclock.symm) hnone hrow' hcreated
  | now => exact .same (by rw [hdb, hbeside.1])
  | outside _ => exact .same (by rw [hdb, hbeside.1])

theorem Database.Sealed.beside {db before : Database} (h : before.Sealed) (hbeside : before.Beside db) :
    db.Sealed := by
  intro id row hrow hterminal
  rw [hbeside.1] at hrow
  rw [hbeside.2]
  exact h id row hrow hterminal

theorem act_sealed {e : Call} {answer : e.Answer} (hsealed : s.db.Sealed)
    (h : (gatewayWorld pg cipher advance starts).act s e answer s') : s'.db.Sealed := by
  obtain ⟨-, db, hbeside, hperforms⟩ := h
  have hdb := hsealed.beside hbeside
  generalize s'.clock = now at hperforms
  generalize s'.db = db' at hperforms
  cases hperforms with
  | @repo call exec _ => exact hdb.step (exec, call)
  | now => exact hdb
  | outside _ => exact hdb

theorem act_answer {call : RepoCall} {answer : call.Answer}
    (h : (gatewayWorld pg cipher advance starts).act s (.repo call) (.ok answer) s') :
    ∃ db exec, s.db.Beside db ∧ exec.now = s'.clock ∧
      call.statement pg cipher exec db = .ok (answer, s'.db) := by
  obtain ⟨-, db, hbeside, hperforms⟩ := h
  generalize hanswer : (Except.ok answer : Repo call.Answer) = given at hperforms
  generalize s'.clock = now at hperforms ⊢
  generalize s'.db = db' at hperforms ⊢
  cases hperforms with
  | @repo _ exec hnow =>
    exact ⟨db, exec, hbeside, hnow, run_ok hanswer.symm⟩
  | outside hout => exact hout.elim

theorem act_now {now : Time} (h : (gatewayWorld pg cipher advance starts).act s .now now s') :
    now ≤ s'.clock := by
  obtain ⟨-, db, -, hperforms⟩ := h
  generalize s'.clock = clock at hperforms ⊢
  generalize s'.db = db' at hperforms
  cases hperforms with
  | now => exact le_refl _
  | outside hout => exact hout.elim

/-- Answers that are computed: the clock is not before that of `exec`, the repository runs its
statement, and `reply` answers every other call. -/
def gatewayAnswer (pg : Postgres) (cipher : OperationSecretCipher) (reply : (e : Call) → e.Answer)
    (exec : Execution) (s : GatewayState) : (e : Call) → e.Answer × GatewayState
  | .repo call =>
    let result := call.run pg cipher { exec with now := max s.clock exec.now } s.db
    (result.1, ⟨result.2, max s.clock exec.now⟩)
  | .now => (max s.clock exec.now, ⟨s.db, max s.clock exec.now⟩)
  | e => (reply e, s)

theorem gatewayAnswer_acts (reply : (e : Call) → e.Answer) (exec : Execution) (s : GatewayState) (e : Call) :
    (gatewayWorld pg cipher (· ≤ ·) starts).act s e (gatewayAnswer pg cipher reply exec s e).1
      (gatewayAnswer pg cipher reply exec s e).2 := by
  cases e with
  | repo call => exact ⟨le_max_left _ _, s.db, ⟨rfl, rfl⟩, .repo rfl⟩
  | now => exact ⟨le_max_left _ _, s.db, ⟨rfl, rfl⟩, .now⟩
  | _ => exact ⟨le_refl _, s.db, ⟨rfl, rfl⟩, .outside trivial⟩

end

end LivepeerTranscode.Gateway
