import LivepeerTranscode.Gateway.LiveWorld
import LivepeerTranscode.Gateway.RefillBounds

/-!
# Setups of relays

A publish that entered is a setup: it looks for the stream of its path, finds the stream without a
relay, spawns one, and leaves. How far a setup has come follows from its calls, and decides which
calls on the tables it makes next.
-/

namespace LivepeerTranscode.Gateway
open Actors Checked Dispatcher Interaction
set_option autoImplicit false

variable {e : LiveCall} {t t' : Tables} {h more : List LiveEvent} {app : String → String}
  {turns : List (Turn Time LiveCall LiveCall.Answer)}

inductive SetupStep where
  | looking
  | resolved (streamId : String)
  | free (streamId : String)
  | spawned
  deriving DecidableEq

structure Setup where
  gateway : String
  sessionId : String
  streamPath : String
  step : SetupStep
  deriving DecidableEq

def Setup.at (setup : Setup) (step : SetupStep) : Setup :=
  { setup with step := if setup.step = .spawned then .spawned else step }

def relaySetup (setup : Option Setup) (gateway : String) : (call : RelayCall) → call.Answer → Option Setup
  | .enter sessionId streamPath, free =>
    if free then some ⟨gateway, sessionId, streamPath, .looking⟩ else setup
  | .publishing streamId, publishing => if publishing then setup else setup.map (·.at (.free streamId))
  | .spawn .., _ => setup.map (·.at .spawned)
  | .leave _, _ => none
  | _, _ => setup

def nextSetup (setup : Option Setup) (event : LiveEvent) : Option Setup :=
  match event with
  | ⟨.relay gateway call, answer⟩ => relaySetup setup gateway call answer
  | ⟨.streamByKeyHash _, .ok (some stream)⟩ => setup.map (·.at (.resolved stream.id))
  | _ => setup

def setupOf (h : List LiveEvent) : Option Setup := h.foldl nextSetup none

theorem setupOf_append (h more : List LiveEvent) : setupOf (h ++ more) = more.foldl nextSetup (setupOf h) :=
  List.foldl_append

@[simp] theorem setupOf_concat (h : List LiveEvent) (event : LiveEvent) :
    setupOf (h ++ [event]) = nextSetup (setupOf h) event := by
  rw [setupOf_append, List.foldl_cons, List.foldl_nil]

def LiveCall.plain : LiveCall → Prop
  | .relay .. | .streamByKeyHash _ => False
  | _ => True

/-- Calls that a setup makes between entering and leaving. -/
def LiveCall.inside : LiveCall → Prop
  | .relay _ (.enter ..) | .relay _ (.leave _) => False
  | _ => True

theorem LiveCall.plain.inside (h : e.plain) : e.inside := by
  cases e <;> trivial

theorem LiveCall.ofStore.plain (h : e.ofStore) : e.plain := by
  cases e with
  | repo call => trivial
  | _ => trivial

variable {event : LiveEvent} {gateway sessionId streamPath : String} {call : RelayCall}

theorem nextSetup_plain (h : event.effect.plain) (setup : Option Setup) :
    nextSetup setup event = setup := by
  obtain ⟨effect, answer⟩ := event
  cases effect <;> first | rfl | cases h

theorem setupOf_plain (hmore : ∀ event ∈ more, event.effect.plain) :
    setupOf (h ++ more) = setupOf h := by
  induction more using List.reverseRecOn with
  | nil => rw [List.append_nil]
  | append_singleton more event ih =>
    rw [← List.append_assoc, setupOf_concat, nextSetup_plain (hmore event (by simp))]
    exact ih fun event hevent => hmore event (by simp [hevent])

def Setup.IsOf (gateway sessionId streamPath : String) (setup : Option Setup) : Prop :=
  ∃ step, setup = some ⟨gateway, sessionId, streamPath, step⟩

theorem nextSetup_inside {setup : Option Setup}
    (h : event.effect.inside) (hsetup : Setup.IsOf gateway sessionId streamPath setup) :
    Setup.IsOf gateway sessionId streamPath (nextSetup setup event) := by
  obtain ⟨step, rfl⟩ := hsetup
  obtain ⟨effect, answer⟩ := event
  cases effect with
  | relay owner call =>
    cases call with
    | enter | leave => cases h
    | publishing => cases answer <;> exact ⟨_, rfl⟩
    | _ => exact ⟨_, rfl⟩
  | streamByKeyHash hash =>
    rcases answer with e | _ | stream
    · exact ⟨_, rfl⟩
    · exact ⟨_, rfl⟩
    · exact ⟨_, rfl⟩
  | _ => exact ⟨_, rfl⟩

theorem setupOf_inside
    (hmore : ∀ event ∈ more, event.effect.inside) (hsetup : Setup.IsOf gateway sessionId streamPath (setupOf h)) :
    Setup.IsOf gateway sessionId streamPath (setupOf (h ++ more)) := by
  induction more using List.reverseRecOn with
  | nil => rwa [List.append_nil]
  | append_singleton more event ih =>
    rw [← List.append_assoc, setupOf_concat]
    exact nextSetup_inside (hmore event (by simp)) (ih fun event hevent => hmore event (by simp [hevent]))

inductive SetupMove (setup : Option Setup) : LiveEvent → Setup → Prop where
  | keep {event : LiveEvent} {kept : Setup} : setup = some kept →
      (∀ gateway streamPath, event.effect ≠ .relay gateway (.leave streamPath)) → SetupMove setup event kept
  | enter {gateway sessionId streamPath : String} :
      SetupMove setup ⟨.relay gateway (.enter sessionId streamPath), true⟩
        ⟨gateway, sessionId, streamPath, .looking⟩
  | resolve {before : Setup} {hash : String} {stream : LiveStream} : setup = some before →
      SetupMove setup ⟨.streamByKeyHash hash, .ok (some stream)⟩ (before.at (.resolved stream.id))
  | free {before : Setup} {gateway streamId : String} : setup = some before →
      SetupMove setup ⟨.relay gateway (.publishing streamId), false⟩ (before.at (.free streamId))
  | spawn {before : Setup} {gateway sessionId streamId : String} {args : List String}
      {answer : Except LiveFailure Unit} : setup = some before →
      SetupMove setup ⟨.relay gateway (.spawn sessionId streamId args), answer⟩ (before.at .spawned)

theorem nextSetup_move {setup : Option Setup} {next : Setup}
    (h : nextSetup setup event = some next) : SetupMove setup event next := by
  obtain ⟨effect, answer⟩ := event
  cases effect with
  | relay gateway call =>
    cases call with
    | enter sessionId streamPath =>
      cases answer with
      | true =>
        cases h
        exact .enter
      | false => exact .keep h (by simp)
    | publishing streamId =>
      cases answer with
      | true => exact .keep h (by simp)
      | false =>
        obtain ⟨before, hbefore, rfl⟩ := Option.map_eq_some_iff.mp h
        exact .free hbefore
    | spawn sessionId streamId args =>
      obtain ⟨before, hbefore, rfl⟩ := Option.map_eq_some_iff.mp h
      exact .spawn hbefore
    | leave streamPath => cases h
    | _ => exact .keep h (by simp)
  | streamByKeyHash hash =>
    rcases answer with e | _ | stream
    · exact .keep h (by simp)
    · exact .keep h (by simp)
    · obtain ⟨before, hbefore, rfl⟩ := Option.map_eq_some_iff.mp h
      exact .resolve hbefore
  | _ => exact .keep h (by simp)

/-! ## What a setup may call -/

section
variable (P : LivePlatform) (app : String → String)

/-- The hash of the key of a path, when its application is the one the gateway expects. -/
def pathHash (gateway streamPath : String) : Option String :=
  match parseStreamPath streamPath with
  | some (application, streamKey) => if application = app gateway then some (hashStreamKey P streamKey) else none
  | none => none

def SetupRule (h : List LiveEvent) : LiveCall → Prop
  | .relay _ (.enter ..) => h = []
  | .streamByKeyHash hash => ∃ gateway sessionId streamPath,
      setupOf h = some ⟨gateway, sessionId, streamPath, .looking⟩ ∧ pathHash P app gateway streamPath = some hash
  | .relay gateway (.publishing streamId) => ∃ sessionId streamPath,
      setupOf h = some ⟨gateway, sessionId, streamPath, .resolved streamId⟩
  | .relay gateway (.spawn sessionId streamId _) => ∃ streamPath,
      setupOf h = some ⟨gateway, sessionId, streamPath, .free streamId⟩
  | .relay gateway (.leave streamPath) => ∃ sessionId, Setup.IsOf gateway sessionId streamPath (setupOf h)
  | .relay _ .stopAll => False
  | _ => True

end

section
variable {P : LivePlatform} {app : String → String} {h : List LiveEvent}

theorem SetupRule.of_plain (he : e.plain) : SetupRule P app h e := by
  cases e <;> trivial

theorem setupRule_of_plain {ε α : Type} {p : Throwing LiveCall LiveCall.Answer ε α} (hp : Only LiveCall.plain p) :
    Keeps (SetupRule P app) (fun h' _ => setupOf h' = setupOf h) p h := by
  refine (hp.keeps fun _ _ => SetupRule.of_plain).weaken ?_
  rintro h' _ ⟨more, rfl, hmore⟩
  exact setupOf_plain hmore

variable {deps : Dispatcher.Deps}

theorem relay_keeps (call : RelayCall) (hcall : SetupRule P app h (.relay deps.store.owner call)) :
    Keeps (SetupRule P app) (fun h' answer => setupOf h' = relaySetup (setupOf h) deps.store.owner call answer)
      (relay deps call) h := by
  refine (Keeps.invoke hcall).weaken ?_
  rintro h' answer rfl
  exact setupOf_concat h _

theorem destroy_keeps (sessionId : String) :
    Keeps (SetupRule P app) (fun _ _ => True) (relay deps (.destroy sessionId)) h :=
  (relay_keeps (.destroy sessionId) trivial).forget

/-! ## The programs -/

theorem claimByLiveStreamId_plain (streamId : String) :
    Only LiveCall.plain (SessionStore.claimByLiveStreamId deps.store streamId) :=
  (SessionStore.claimByLiveStreamId_only streamId).mono fun _ => LiveCall.ofStore.plain

theorem recordProgress_plain (value : OwnedPaidSession) (report : PaidOperationProgress) :
    Only LiveCall.plain (SessionStore.recordProgress deps.store value report) :=
  (SessionStore.recordProgress_only value report).mono fun _ => LiveCall.ofStore.plain

theorem release_plain (value : OwnedPaidSession) : Only LiveCall.plain (SessionStore.release value) :=
  (SessionStore.release_only value).mono fun _ => LiveCall.ofStore.plain

theorem readSecrets_plain (value : OwnedPaidSession) : Only LiveCall.plain (SessionStore.readSecrets value) :=
  (SessionStore.readSecrets_only value).mono fun _ => LiveCall.ofStore.plain

theorem persistRelayState_plain (streamId : String) (relayStatus : RelayStatus) (status : String)
    (relayGeneration : Option Nat) (relayDisconnectedAt : Option String) :
    Only LiveCall.plain
      (persistRelayState deps streamId relayStatus status relayGeneration relayDisconnectedAt) := by
  refine .bind (claimByLiveStreamId_plain _) fun owned => ?_
  split
  · exact .pure
  · refine .bind (recordProgress_plain _ _) fun progressed => ?_
    split
    · exact .pure
    · exact .bind (release_plain _) fun _ => .pure

theorem claimStream_plain (stream : LiveStream) : Only LiveCall.plain (claimStream deps stream) := by
  refine .bind (claimByLiveStreamId_plain _) fun owned => ?_
  split
  · exact .pure
  · refine .bind (readSecrets_plain _) fun secrets => ?_
    split
    · exact .pure
    · exact .bind (release_plain _) fun _ => .pure

theorem updateStatus_plain (streamId status : String) : Only LiveCall.plain (Dispatcher.updateStatus streamId status) :=
  .bind (.invoke trivial) fun _ => .attempt trivial

theorem scheduleAuthoritativeReconcile_plain (streamId : String) (relayStatus : RelayStatus) :
    Only LiveCall.plain (scheduleAuthoritativeReconcile P deps streamId relayStatus) := by
  refine .bind (.invoke trivial) fun _ => .bind (persistRelayState_plain _ _ _ _ _) fun scheduled => ?_
  split
  · exact updateStatus_plain _ _
  · exact .pure

theorem claimStream_keeps (stream : LiveStream) :
    Keeps (SetupRule P app) (fun h' result => setupOf h' = setupOf h ∧
      ∀ accept, result = .accept accept → accept.streamId = stream.id) (claimStream deps stream) h := by
  refine (setupRule_of_plain (claimByLiveStreamId_plain _)).bind fun h₁ owned hclaimed => ?_
  split
  · exact .pure ⟨hclaimed, fun _ hresult => by cases hresult⟩
  · refine (setupRule_of_plain (readSecrets_plain _)).bind fun h₂ secrets hread => ?_
    split
    · exact .pure ⟨hread.trans hclaimed, fun accept haccept => by cases haccept; rfl⟩
    · refine (setupRule_of_plain (release_plain _)).bind fun h₃ _ hreleased => ?_
      exact .pure ⟨hreleased.trans (hread.trans hclaimed), fun _ hresult => by cases hresult⟩

theorem decideDispatch_keeps (happ : deps.expectedApp = app deps.store.owner)
    (hsetup : setupOf h = some ⟨deps.store.owner, sessionId, streamPath, .looking⟩) :
    Keeps (SetupRule P app) (fun h' result => ∀ accept, result = .accept accept →
      setupOf h' = some ⟨deps.store.owner, sessionId, streamPath, .resolved accept.streamId⟩)
      (decideDispatch P deps streamPath) h := by
  unfold decideDispatch
  split
  · exact .pure fun _ hresult => by cases hresult
  · rename_i application streamKey hpath
    split
    · exact .pure fun _ hresult => by cases hresult
    · rename_i hexpected
      have hhash : pathHash P app deps.store.owner streamPath = some (hashStreamKey P streamKey) := by
        rw [pathHash, hpath]
        exact if_pos ((not_not.mp hexpected).trans happ)
      refine (Keeps.attempt ⟨_, _, _, hsetup, hhash⟩).bind fun h₁ found hfound => ?_
      obtain ⟨answer, rfl, rfl⟩ := hfound
      split
      · exact .pure fun _ hresult => by cases hresult
      · rename_i stream
        split
        · exact .pure fun _ hresult => by cases hresult
        · refine (claimStream_keeps stream).weaken ?_
          rintro h' result ⟨hsame, hstream⟩ accept haccept
          rw [hsame, setupOf_concat, hsetup, hstream accept haccept]
          rfl

theorem startRelay_keeps {accept : DispatchAccept}
    (hsetup : setupOf h = some ⟨deps.store.owner, sessionId, streamPath, .free accept.streamId⟩) :
    Keeps (SetupRule P app) (fun _ _ => True) (startRelay deps sessionId streamPath accept) h := by
  refine (setupRule_of_plain (recordProgress_plain _ _)).bind fun h₁ starting hrecorded => ?_
  split
  · exact .throw
  · refine (setupRule_of_plain (release_plain _)).bind fun h₂ _ hreleased => ?_
    refine (Keeps.attempt ⟨streamPath, hreleased.trans (hrecorded.trans hsetup)⟩).bind fun h₃ _ _ => ?_
    refine (setupRule_of_plain (persistRelayState_plain _ _ _ _ _)).bind fun h₄ _ _ => ?_
    exact (setupRule_of_plain (updateStatus_plain _ _)).forget

theorem setUp_keeps (happ : deps.expectedApp = app deps.store.owner)
    (hsetup : setupOf h = some ⟨deps.store.owner, sessionId, streamPath, .looking⟩) :
    Keeps (SetupRule P app) (fun _ _ => True) (setUp P deps sessionId streamPath) h := by
  refine (decideDispatch_keeps happ hsetup).bind fun h₁ result hdecided => ?_
  split
  · exact destroy_keeps _
  · rename_i accept
    have hresolved := hdecided accept rfl
    refine (relay_keeps (.publishing _) ⟨_, _, hresolved⟩).bind fun h₂ publishing hasked => ?_
    split
    · exact (setupRule_of_plain (release_plain _)).bind fun h₃ _ _ => destroy_keeps _
    · rename_i hfree
      rw [Bool.not_eq_true] at hfree
      subst hfree
      rw [hresolved] at hasked
      exact startRelay_keeps hasked

theorem decideDispatch_inside (streamPath : String) :
    Only LiveCall.inside (decideDispatch P deps streamPath) := by
  unfold decideDispatch
  split
  · exact .pure
  · split
    · exact .pure
    · refine .bind (.attempt trivial) fun found => ?_
      split
      · exact .pure
      · split
        · exact .pure
        · exact (claimStream_plain _).mono fun _ => LiveCall.plain.inside

theorem startRelay_inside (sessionId streamPath : String) (accept : DispatchAccept) :
    Only LiveCall.inside (startRelay deps sessionId streamPath accept) := by
  have hplain {α : Type} {p : LiveProg α} (hp : Only LiveCall.plain p) : Only LiveCall.inside p :=
    hp.mono fun _ => LiveCall.plain.inside
  refine .bind (hplain (recordProgress_plain _ _)) fun starting => ?_
  split
  · exact .throw
  · exact .bind (hplain (release_plain _)) fun _ => .bind (.attempt trivial) fun _ =>
      .bind (hplain (persistRelayState_plain _ _ _ _ _)) fun _ => hplain (updateStatus_plain _ _)

theorem setUp_inside (sessionId streamPath : String) :
    Only LiveCall.inside (setUp P deps sessionId streamPath) := by
  refine .bind (decideDispatch_inside _) fun result => ?_
  split
  · exact .invoke trivial
  · refine .bind (.invoke trivial) fun publishing => ?_
    split
    · exact .bind ((release_plain _).mono fun _ => LiveCall.plain.inside) fun _ => .invoke trivial
    · exact startRelay_inside _ _ _

theorem postPublish_keeps (happ : deps.expectedApp = app deps.store.owner) :
    Keeps (SetupRule P app) (fun _ _ => True) (postPublish P deps sessionId streamPath) [] := by
  refine (Keeps.invoke rfl).bind fun h₁ entered hentered => ?_
  subst hentered
  split
  · rename_i hfree
    subst hfree
    have hsetup : setupOf ([] ++ [⟨.relay deps.store.owner (.enter sessionId streamPath), true⟩]) =
        some ⟨deps.store.owner, sessionId, streamPath, .looking⟩ := rfl
    have hinside : Only LiveCall.inside (tryCatch (setUp P deps sessionId streamPath) fun _ =>
        relay deps (.destroy sessionId)) := .tryCatch (setUp_inside _ _) fun _ => .invoke trivial
    have hset : Keeps (SetupRule P app) (fun _ _ => True) (tryCatch (setUp P deps sessionId streamPath) fun _ =>
        relay deps (.destroy sessionId)) _ := (setUp_keeps happ hsetup).tryCatch fun _ _ _ => destroy_keeps _
    refine Keeps.bind (hinside.adds hset) ?_
    rintro h₂ _ ⟨⟨more, rfl, hmore⟩, -⟩
    exact (relay_keeps (.leave streamPath) ⟨sessionId, setupOf_inside hmore ⟨_, hsetup⟩⟩).forget
  · exact destroy_keeps _

theorem report_keeps (call : RelayCall) {f : call.Answer → LiveProg Unit}
    (hcall : SetupRule P app [] (.relay deps.store.owner call)) (hf : ∀ answer, Only LiveCall.plain (f answer)) :
    Keeps (SetupRule P app) (fun _ _ => True) (relay deps call >>= f) [] :=
  (relay_keeps call hcall).bind fun _ answer _ => (setupRule_of_plain (hf answer)).forget

end

theorem callback_obeys {P : LivePlatform} {p : Prog LiveCall LiveCall.Answer Unit}
    (h : Callback P app p) : Obeys (SetupRule P app) (fun _ _ => True) p [] := by
  cases h with
  | publish sessionId streamPath happ => exact (postPublish_keeps happ).detached
  | done deps sessionId =>
    refine (report_keeps (.stopSession sessionId) trivial fun answer => ?_).detached
    cases answer with
    | none => exact .pure
    | some streamId => exact scheduleAuthoritativeReconcile_plain _ _
  | exit deps n =>
    refine (report_keeps (.exited n) trivial fun answer => ?_).detached
    cases answer with
    | none => exact .pure
    | some streamId => exact scheduleAuthoritativeReconcile_plain _ _
  | error deps n =>
    refine (report_keeps (.failed n) trivial fun answer => ?_).detached
    cases answer with
    | none => exact .pure
    | some streamId => exact scheduleAuthoritativeReconcile_plain _ _

/-- The callbacks, among programs that leave the setups alone. -/
def Dispatching (P : LivePlatform) (app : String → String) (p : Prog LiveCall LiveCall.Answer Unit) : Prop :=
  Callback P app p ∨ Obeys (fun _ e => e.plain) (fun _ _ => True) p []

theorem dispatching_obeys {P : LivePlatform} (p : Prog LiveCall LiveCall.Answer Unit)
    (h : Dispatching P app p) : Obeys (SetupRule P app) (fun _ _ => True) p [] := by
  rcases h with h | h
  · exact callback_obeys h
  · exact Obeys.mono (fun _ _ => SetupRule.of_plain) h

/-! ## Publishers that are gone -/

theorem setup_began {more : List LiveEvent} {start : Option Setup} {setup : Setup}
    (h : more.foldl nextSetup start = some setup) (hgateway : setup.gateway = gateway)
    (hsession : setup.sessionId = sessionId) (hstep : setup.step ≠ .spawned)
    (hmore : ∀ streamPath answer, ⟨.relay gateway (.enter sessionId streamPath), answer⟩ ∉ more) :
    ∃ before, start = some before ∧ before.gateway = gateway ∧ before.sessionId = sessionId ∧
      before.step ≠ .spawned := by
  induction more using List.reverseRecOn generalizing setup with
  | nil => exact ⟨setup, h, hgateway, hsession, hstep⟩
  | append_singleton more event ih =>
    have hrest : ∀ streamPath answer, ⟨.relay gateway (.enter sessionId streamPath), answer⟩ ∉ more :=
      fun streamPath answer hmem => hmore streamPath answer (List.mem_append_left _ hmem)
    have hat : ∀ {before : Setup} {step : SetupStep}, (before.at step).step ≠ .spawned → before.step ≠ .spawned := by
      intro before step hne heq
      exact hne (if_pos heq)
    rw [List.foldl_append, List.foldl_cons, List.foldl_nil] at h
    cases nextSetup_move h with
    | keep hkept _ => exact ih hkept hgateway hsession hstep hrest
    | enter =>
      subst hgateway hsession
      exact absurd (List.mem_append_right _ List.mem_cons_self) (hmore _ _)
    | resolve hbefore => exact ih hbefore hgateway hsession (hat hstep) hrest
    | free hbefore => exact ih hbefore hgateway hsession (hat hstep) hrest
    | spawn hbefore => exact ih hbefore hgateway hsession (hat hstep) hrest

/-- What is registered under a session is a relay. -/
def Known (t : Tables) : Prop :=
  ∀ sessionId n, t.activeByNmsSession sessionId = some n → n < t.relays.length

theorem unregister_registered {t : Tables} {streamId other : String} {n : Nat}
    (h : (unregister t sessionId streamId).activeByNmsSession other = some n) :
    other ≠ sessionId ∧ t.activeByNmsSession other = some n := by
  by_cases hother : other = sessionId
  · subst hother
    cases (Function.update_self ..).symm.trans h
  · exact ⟨hother, (Function.update_of_ne hother _ _).symm.trans h⟩

theorem RelayActs.registered {answer : call.Answer} {n : Nat}
    (h : RelayActs t call answer t') (hregistered : t'.activeByNmsSession sessionId = some n) :
    t.activeByNmsSession sessionId = some n ∨
      n = t.relays.length ∧ t'.relays.length = t.relays.length + 1 ∧
        ∃ streamId args, call = .spawn sessionId streamId args := by
  cases h with
  | unspawned e => exact .inl hregistered
  | run =>
    cases call with
    | enter session streamPath =>
      change (enter t streamPath).2.activeByNmsSession sessionId = some n at hregistered
      rcases enter_cases t streamPath with ⟨-, henter⟩ | ⟨-, henter⟩ <;> rw [henter] at hregistered <;>
        exact .inl hregistered
    | spawn session streamId args =>
      by_cases hsession : sessionId = session
      · subst hsession
        change Function.update t.activeByNmsSession sessionId (some t.relays.length) sessionId = some n at hregistered
        rw [Function.update_self] at hregistered
        have hnew := (Option.some.inj hregistered).symm
        exact .inr ⟨hnew, by simp [RelayCall.run, register], streamId, args, rfl⟩
      · exact .inl ((Function.update_of_ne hsession _ _).symm.trans hregistered)
    | stopSession session =>
      change (stopSession t session).2.activeByNmsSession sessionId = some n at hregistered
      rcases stopSession_cases t session with hstop | ⟨_, _, -, -, hstop⟩ <;> rw [hstop] at hregistered
      · exact .inl hregistered
      · exact .inl (unregister_registered hregistered).2
    | exited m =>
      change (exited t m).2.activeByNmsSession sessionId = some n at hregistered
      rcases exited_cases t m with hexit | ⟨_, -, -, hexit⟩ <;> rw [hexit] at hregistered
      · exact .inl hregistered
      · exact .inl (unregister_registered hregistered).2
    | stopAll => cases hregistered
    | _ => exact .inl hregistered

theorem RelayActs.length_le {answer : call.Answer} (h : RelayActs t call answer t') :
    t.relays.length ≤ t'.relays.length := by
  cases h with
  | unspawned e => exact le_refl _
  | run =>
    cases call with
    | enter session streamPath =>
      show t.relays.length ≤ (enter t streamPath).2.relays.length
      rcases enter_cases t streamPath with ⟨-, henter⟩ | ⟨-, henter⟩ <;> rw [henter]
    | spawn session streamId args => simp [RelayCall.run, register]
    | stopSession session =>
      show t.relays.length ≤ (stopSession t session).2.relays.length
      rcases stopSession_cases t session with hstop | ⟨_, _, -, -, hstop⟩ <;> rw [hstop]
      simp [unregister, changeRelay]
    | exited n =>
      show t.relays.length ≤ (exited t n).2.relays.length
      rcases exited_cases t n with hexit | ⟨_, -, -, hexit⟩ <;> rw [hexit]
      simp [unregister, changeRelay]
    | stopAll => simp [RelayCall.run, stopAll]
    | _ => exact le_refl _

theorem Known.acts {answer : call.Answer} (ht : Known t) (h : RelayActs t call answer t') : Known t' := by
  intro sessionId n hregistered
  rcases h.registered hregistered with hold | ⟨rfl, hlength, -⟩
  · exact (ht sessionId n hold).trans_le h.length_le
  · omega

theorem stopSession_unregistered {t : Tables} (ht : Known t) (sessionId : String) :
    (stopSession t sessionId).2.activeByNmsSession sessionId = none := by
  unfold stopSession
  split
  · rename_i hnone
    exact hnone
  · rename_i n hregistered
    split
    · rename_i hmissing
      exact absurd (ht sessionId n hregistered) (not_lt.mpr (List.getElem?_eq_none_iff.mp hmissing))
    · exact Function.update_self ..

section
variable {pg : Postgres} {cipher : OperationSecretCipher} {keyHash : String → String}
  {advance : Time → Time → Prop} {P : LivePlatform} {app : String → String}
  {c : Scene LiveState LiveCall LiveCall.Answer}

theorem no_spawn_after_done
    (h : Reachable (liveWorld pg cipher keyHash advance (Dispatching P app)) LiveState.Idle c)
    {before after : List (Nat × LiveEvent)} {entry : Nat × LiveEvent}
    (hlog : c.log = before ++ entry :: after) (hentry : entry.2.effect = .relay gateway (.stopSession sessionId))
    (hsetups : ∀ m setup, setupOf (history m before) = some setup → setup.gateway = gateway →
      setup.sessionId = sessionId → setup.step = .spawned)
    (hpublish : ∀ m streamPath answer, (m, ⟨.relay gateway (.enter sessionId streamPath), answer⟩) ∉ after)
    (m : Nat) (streamId : String) (args : List String) (answer : Except LiveFailure Unit) :
    (m, ⟨.relay gateway (.spawn sessionId streamId args), answer⟩) ∉ after := by
  intro hspawn
  obtain ⟨mid, rest, rfl⟩ := List.append_of_mem hspawn
  have hsplit : c.log = (before ++ entry :: mid) ++
      (m, ⟨.relay gateway (.spawn sessionId streamId args), answer⟩) :: rest := by
    rw [hlog, List.append_assoc, List.cons_append]
  obtain ⟨streamPath, hsetup⟩ := Reachable.logged dispatching_obeys h hsplit
  rw [history_append, setupOf_append] at hsetup
  obtain ⟨pending, hpending, hgateway, hsession, hstep⟩ := setup_began hsetup rfl rfl (by simp) (by
    intro streamPath answer hmem
    rcases List.mem_cons.mp (mem_history.mp hmem) with rfl | hmem
    · cases hentry
    · exact hpublish _ _ _ (List.mem_append_left _ hmem))
  exact hstep (hsetups m pending hpending hgateway hsession)

theorem tables_known (h : Reachable (liveWorld pg cipher keyHash advance (Dispatching P app)) LiveState.Idle c)
    (gateway : String) : Known (c.shared.tables gateway) := by
  refine Reachable.invariant (I := fun s _ => ∀ gateway, Known (s.tables gateway)) dispatching_obeys ?_ ?_ h gateway
  · intro s hs gateway sessionId n hregistered
    rw [hs.tables] at hregistered
    cases hregistered
  · intro s log n e answer s' hknown _ hact gateway
    cases act_tables hact with
    | @relay owner call answer hacts hothers =>
      by_cases hgateway : gateway = owner
      · subst hgateway
        exact (hknown gateway).acts hacts
      · rw [hothers gateway hgateway]
        exact hknown gateway
    | same _ hsame =>
      rw [hsame]
      exact hknown gateway

theorem done_unregisters {s' : LiveState} {answer : Option String}
    (h : Reachable (liveWorld pg cipher keyHash advance (Dispatching P app)) LiveState.Idle c)
    (hact : (liveWorld pg cipher keyHash advance (Dispatching P app)).act c.shared
      (.relay gateway (.stopSession sessionId)) answer s') :
    (s'.tables gateway).activeByNmsSession sessionId = none := by
  have hstep := act_tables hact
  cases hstep with
  | relay hacts _ =>
    generalize s'.tables gateway = t' at hacts ⊢
    cases hacts with
    | run => exact stopSession_unregistered (tables_known h gateway) sessionId
  | same hnot _ => exact absurd rfl (hnot _ _)

theorem unregistered_later {c' : Scene LiveState LiveCall LiveCall.Answer}
    (h : Reachable (liveWorld pg cipher keyHash advance (Dispatching P app)) LiveState.Idle c)
    (hlater : Later (liveWorld pg cipher keyHash advance (Dispatching P app)) c c')
    (hnone : (c.shared.tables gateway).activeByNmsSession sessionId = none) :
    ∃ since, c'.log = c.log ++ since ∧
      ((∀ m streamId args answer, (m, ⟨.relay gateway (.spawn sessionId streamId args), answer⟩) ∉ since) →
        (c'.shared.tables gateway).activeByNmsSession sessionId = none) := by
  refine Later.invariant (I := fun s since =>
    (∀ m streamId args answer, (m, ⟨.relay gateway (.spawn sessionId streamId args), answer⟩) ∉ since) →
      (s.tables gateway).activeByNmsSession sessionId = none) h hlater dispatching_obeys (fun _ => hnone) ?_
  intro s since n e answer s' hI _ hact hall
  have hbefore := hI fun m streamId args answer hmem => hall m streamId args answer (List.mem_append_left _ hmem)
  cases act_tables hact with
  | @relay owner call answer hacts hothers =>
    by_cases hgateway : gateway = owner
    · subst hgateway
      cases hregistered : (s'.tables gateway).activeByNmsSession sessionId with
      | none => rfl
      | some n =>
        rcases hacts.registered hregistered with hold | ⟨-, -, streamId, args, rfl⟩
        · cases hbefore.symm.trans hold
        · exact absurd (List.mem_append_right _ List.mem_cons_self) (hall _ _ _ _)
    · rw [hothers gateway hgateway]
      exact hbefore
  | same _ hsame =>
    rw [hsame]
    exact hbefore

/-- Once a publisher's session is done, with no setup of it under way and without publishing again,
no relay is spawned for it and none is registered under it. -/
theorem done_publish_final (h : Reachable (liveWorld pg cipher keyHash advance (Dispatching P app)) LiveState.Idle c)
    {before after : List (Nat × LiveEvent)} {entry : Nat × LiveEvent} {gateway sessionId : String}
    (hlog : c.log = before ++ entry :: after) (hentry : entry.2.effect = .relay gateway (.stopSession sessionId))
    (hsetups : ∀ m setup, setupOf (history m before) = some setup → setup.gateway = gateway →
      setup.sessionId = sessionId → setup.step = .spawned)
    (hpublish : ∀ m streamPath answer, (m, ⟨.relay gateway (.enter sessionId streamPath), answer⟩) ∉ after) :
    (∀ m streamId args answer, (m, ⟨.relay gateway (.spawn sessionId streamId args), answer⟩) ∉ after) ∧
      (c.shared.tables gateway).activeByNmsSession sessionId = none := by
  have hspawn := no_spawn_after_done h hlog hentry hsetups hpublish
  refine ⟨hspawn, ?_⟩
  obtain ⟨n, effect, answer⟩ := entry
  subst hentry
  obtain ⟨c₀, c₁, h₀, -, hlog₁, hact, h₁, hlater⟩ := h.moment hlog
  have hinit : (c₁.shared.tables gateway).activeByNmsSession sessionId = none := done_unregisters h₀ hact
  obtain ⟨since, hsince, hnone⟩ := unregistered_later h₁ hlater hinit
  refine hnone ?_
  have hafter : since = after := by
    rw [hlog, hlog₁, List.append_assoc] at hsince
    exact (List.cons.inj (List.append_cancel_left hsince)).2.symm
  rwa [hafter]

end

/-! ## A publisher that is gone too early -/

def relayPlatform : LivePlatform := { statusPlatform 60 with sha256Hex := NodeText.hexText }

def relayDeps : Dispatcher.Deps := ⟨⟨"gateway-a", 30000⟩, 1935, "live"⟩

def liveCipher : OperationSecretCipher where
  encrypt _ _ _ := ⟨"", [], [], [], [], [], []⟩
  decrypt _ _ := .ok liveSecrets

def relayStart : LiveState where
  db := { sampleDatabase with secrets := AList.singleton "op-1" ⟨⟨"", [], [], [], [], [], []⟩, 0, 0⟩ }
  clock := 0
  tables _ := .empty
  handed _ := []

/-- The only stream of the samples has the key `key`. -/
def relayKeyHash (_ : String) : String := hashStreamKey relayPlatform "key"

def relayAnswer (s : LiveState) : (e : LiveCall) → e.Answer × LiveState
  | .repo call =>
    let result := call.run plainPostgres liveCipher ⟨s.clock, ["op-1"], [], .answered⟩ s.db
    (result.1, { s with db := result.2 })
  | .relay gateway call =>
    let result := call.run (s.tables gateway)
    (result.1, { s with tables := Function.update s.tables gateway result.2 })
  | .streamByKeyHash hash =>
    (.ok (if relayKeyHash "live-1" = hash then some ⟨"live-1", "active"⟩ else none), s)
  | .handOver gateway sessions =>
    ((), { s with handed := Function.update s.handed gateway (s.handed gateway ++ sessions) })
  | .takeOver gateway =>
    ((s.handed gateway).head?, { s with handed := Function.update s.handed gateway (s.handed gateway).tail })
  | .now => (s.clock, s)
  | e => (liveAnswer e, s)

def relayAnswerAt (now : Time) (s : LiveState) (e : LiveCall) : e.Answer × LiveState :=
  relayAnswer { s with clock := max s.clock now } e

/-- A world with one stream, whose clock does not go back. -/
abbrev relayWorld (starts : Prog LiveCall LiveCall.Answer Unit → Prop) : World LiveState LiveCall LiveCall.Answer :=
  liveWorld plainPostgres liveCipher relayKeyHash (· ≤ ·) starts

theorem relayAnswer_performs (s : LiveState) (e : LiveCall) :
    LivePerforms plainPostgres liveCipher relayKeyHash s e (relayAnswer s e).1 (relayAnswer s e).2 := by
  cases e with
  | repo call => exact .repo rfl
  | relay gateway call => exact .relay (.run call)
  | streamByKeyHash hash =>
    refine .lookup fun stream hstream => ?_
    have hfound := Except.ok.inj hstream
    split at hfound
    · rename_i hhash
      exact hhash
    · cases hfound
  | handOver gateway sessions => exact .handOver
  | takeOver gateway =>
    show LivePerforms _ _ _ s (.takeOver gateway) (s.handed gateway).head?
      { s with handed := Function.update s.handed gateway (s.handed gateway).tail }
    cases hhanded : s.handed gateway with
    | nil =>
      have hsame : Function.update s.handed gateway [] = s.handed := by rw [← hhanded, Function.update_eq_self]
      rw [List.tail_nil, hsame]
      exact .nothing
    | cons session rest => exact @LivePerforms.takeOver _ _ _ s gateway session [] rest hhanded
  | now => exact .now
  | _ => exact .outside trivial

theorem relayAnswerAt_acts (starts : Prog LiveCall LiveCall.Answer Unit → Prop) (now : Time) (s : LiveState)
    (e : LiveCall) : (relayWorld starts).act s e (relayAnswerAt now s e).1 (relayAnswerAt now s e).2 :=
  ⟨s.db, max s.clock now, ⟨rfl, rfl⟩, le_max_left _ _, relayAnswer_performs _ e⟩

def publishing (sessionId : String) : Prog LiveCall LiveCall.Answer Unit :=
  detached (postPublish relayPlatform relayDeps sessionId "/live/key")

def donePublishing (sessionId : String) : Prog LiveCall LiveCall.Answer Unit :=
  detached (donePublish relayPlatform relayDeps sessionId)

abbrev dispatchWorld : World LiveState LiveCall LiveCall.Answer :=
  relayWorld (Dispatching relayPlatform fun _ => "live")

/-- A scene of the samples; each call is made at the time of its turn. -/
def relayScene (turns : List (Turn Time LiveCall LiveCall.Answer)) : Scene LiveState LiveCall LiveCall.Answer :=
  Scene.play relayAnswerAt ⟨relayStart, [], []⟩ turns

theorem relayScene_reachable {starts : Prog LiveCall LiveCall.Answer Unit → Prop}
    (hstarts : ∀ n p, .start n p ∈ turns → starts p) :
    Reachable (relayWorld starts) LiveState.Idle (relayScene turns) :=
  Reachable.play (relayAnswerAt_acts starts) hstarts (.initial ⟨fun _ => rfl, fun _ => rfl⟩)

def LiveCall.onTables : LiveCall → Option (String × RelayCall)
  | .relay gateway call => some (gateway, call)
  | _ => none

theorem LiveCall.onTables_some (h : e.onTables = some (gateway, call)) : e = .relay gateway call := by
  cases e with
  | relay => cases h; rfl
  | _ => cases h

theorem call_at {log : List (Nat × LiveEvent)} {i : Nat}
    (h : (log.drop i).head?.bind (fun entry => entry.2.effect.onTables) = some (gateway, call)) :
    ∃ entry, log = log.take i ++ entry :: log.drop (i + 1) ∧ entry.2.effect = .relay gateway call := by
  obtain ⟨entry, hhead, hentry⟩ := Option.bind_eq_some_iff.mp h
  obtain ⟨rest, hrest⟩ := List.head?_eq_some_iff.mp hhead
  have htail := congrArg List.tail hrest
  rw [List.tail_drop, List.tail_cons] at htail
  refine ⟨entry, ?_, LiveCall.onTables_some hentry⟩
  rw [htail, ← hrest, List.take_append_drop]

def earlyDone : List (Turn Time LiveCall LiveCall.Answer) :=
  .start 0 (publishing "nms-1") :: List.replicate 2 (.go 0 0) ++ .start 1 (donePublishing "nms-1") :: .go 1 0 ::
    List.replicate 20 (.go 0 0)

def timelyDone : List (Turn Time LiveCall LiveCall.Answer) :=
  .start 0 (publishing "nms-1") :: List.replicate 16 (.go 0 0) ++ .start 1 (donePublishing "nms-1") ::
    List.replicate 9 (.go 1 0)

theorem doneTurns_start
    (h : turns = earlyDone ∨ turns = timelyDone) (n : Nat) (p : Prog LiveCall LiveCall.Answer Unit)
    (hstart : .start n p ∈ turns) : Dispatching relayPlatform (fun _ => "live") p := by
  have hp : p = publishing "nms-1" ∨ p = donePublishing "nms-1" := by
    rcases h with rfl | rfl <;> simp [earlyDone, timelyDone] at hstart <;> tauto
  rcases hp with rfl | rfl
  · exact .inl (.publish "nms-1" "/live/key" rfl)
  · exact .inl (.done relayDeps "nms-1")

def LiveCall.enters (e : LiveCall) : Bool :=
  match e.onTables with
  | some (_, .enter ..) => true
  | _ => false

theorem timelyDone_calls :
    ((relayScene timelyDone).log.drop 16).head?.bind (fun entry => entry.2.effect.onTables) =
        some ("gateway-a", .stopSession "nms-1") ∧
      setupOf (history 0 ((relayScene timelyDone).log.take 16)) = none ∧
      (((relayScene timelyDone).log.take 16).all fun entry => entry.1 = 0) = true ∧
      (((relayScene timelyDone).log.drop 17).all fun entry => !entry.2.effect.enters) = true := by
  decide +kernel

theorem done_publish_final_timely : ∃ entry,
    (relayScene timelyDone).log = (relayScene timelyDone).log.take 16 ++ entry :: (relayScene timelyDone).log.drop 17 ∧
    entry.2.effect = .relay "gateway-a" (.stopSession "nms-1") ∧
    ((relayScene timelyDone).shared.tables "gateway-a").activeByNmsSession "nms-1" = none := by
  obtain ⟨hdone, hleft, hnumbers, hlater⟩ := timelyDone_calls
  obtain ⟨entry, hlog, hentry⟩ := call_at hdone
  refine ⟨entry, hlog, hentry, ?_⟩
  refine (done_publish_final (relayScene_reachable (doneTurns_start (.inr rfl))) hlog hentry ?_ ?_).2
  · intro m setup hsetup
    by_cases hm : m = 0
    · subst hm
      cases hleft.symm.trans hsetup
    · rw [history_fresh fun entry hentry => by
        rw [of_decide_eq_true (List.all_eq_true.mp hnumbers entry hentry)]
        exact Ne.symm hm] at hsetup
      cases hsetup
  · intro m streamPath answer hmem
    cases List.all_eq_true.mp hlater _ hmem

theorem earlyDone_calls :
    ((relayScene earlyDone).log.drop 2).head?.bind (fun entry => entry.2.effect.onTables) =
        some ("gateway-a", .stopSession "nms-1") ∧
      (((relayScene earlyDone).log.drop 3).any fun entry => entry.2.effect.onTables =
        some ("gateway-a", .spawn "nms-1" "live-1"
          (relayArgs relayDeps "/live/key" "rtmp://runner.example/live/key-1"))) = true ∧
      ((relayScene earlyDone).shared.tables "gateway-a").activeByNmsSession "nms-1" = some 0 := by
  decide +kernel

/-- A relay is spawned for a session that is done, and stays registered under it. -/
theorem spawned_after_done : ∃ c before entry after, Reachable dispatchWorld LiveState.Idle c ∧
    c.log = before ++ entry :: after ∧ entry.2.effect = .relay "gateway-a" (.stopSession "nms-1") ∧
    (∃ later ∈ after, ∃ streamId args, later.2.effect = .relay "gateway-a" (.spawn "nms-1" streamId args)) ∧
    (c.shared.tables "gateway-a").activeByNmsSession "nms-1" = some 0 := by
  obtain ⟨hdone, hspawn, hregistered⟩ := earlyDone_calls
  obtain ⟨entry, hlog, hentry⟩ := call_at hdone
  obtain ⟨later, hlater, hspawns⟩ := List.any_eq_true.mp hspawn
  exact ⟨_, _, entry, _, relayScene_reachable (doneTurns_start (.inl rfl)), hlog, hentry,
    ⟨later, hlater, _, _, LiveCall.onTables_some (of_decide_eq_true hspawns)⟩, hregistered⟩

end LivepeerTranscode.Gateway
