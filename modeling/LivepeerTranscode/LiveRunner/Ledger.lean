import LivepeerTranscode.LiveRunner.Store

/-!
# What a store method can do to a session

`Ledger` is the part of a record that metering and delivery depend on, `Standing` says what
the session is, how far it is stopped and which secrets it seals, and the reserved attempt
is the cursor of its callbacks. `RecordMove` lists everything a store method can do to the
three. This file is the only place that looks into the method bodies: a call leaves a
session's file as it is, creates it, or moves it.
-/

namespace LivepeerTranscode.LiveRunner
open Checked GoText
set_option autoImplicit false

variable {eventTime : Time} {e : GoError} {eventID : String} {segments : List FinalizedHLSSegmentV1}
  {secrets : Option SessionSecretsV1} {request : RunnerCreateRequestV1} {response : RunnerCreateResponseV1}

structure Ledger where
  runnerSessionID : String
  state : SessionState
  stopping : Bool
  usageTotal : Nat
  lastSequence : Nat
  meteredMicroseconds : Nat
  meteredSegmentSHA256 : List String
  pendingEvents : List RunnerEventV1
  hasSecrets : Bool

def SessionRecordV1.ledger (record : SessionRecordV1) : Ledger :=
  { runnerSessionID := record.runnerSessionID
    state := record.state
    stopping := record.stopping
    usageTotal := record.usageTotal
    lastSequence := record.lastSequence
    meteredMicroseconds := record.meteredMicroseconds
    meteredSegmentSHA256 := record.meteredSegmentSHA256
    pendingEvents := record.pendingEvents
    hasSecrets := record.sealedSecrets.isSome }

/-- The session id a call is about, when it is about one session. -/
def StoreCall.session : StoreCall → Option String
  | .createOrReplay request _ _ => some request.sessionID
  | .loadByRunnerSessionID _ | .recoverable => none
  | .load id | .recordKeyIssue id _ _ | .completeKeyActivation id _ | .advance id _
  | .recordFinalizedSegments id _ _ | .recordHeartbeat id _ _ | .recordIngestPresence id _ _
  | .recordLadderRestart id _ _ _ | .evaluateOutputHealth id _ _ _ | .recordOutputStalled id _
  | .beginTermination id _ | .beginFailure id _ | .acknowledgeEvent id _
  | .reserveCallbackAttempt id _ _ _ _ | .recordCallbackRetryFailure id _ _ _
  | .parkCallbackRejection id _ _ _ _ | .clearTerminalSecrets id => some id

/-- The event a call takes off the outbox, by its id: it was acknowledged or parked. -/
def StoreCall.removes : StoreCall → Option String
  | .acknowledgeEvent _ eventID | .parkCallbackRejection _ eventID _ _ _ => some eventID
  | _ => none

namespace Ledger

def running (l : Ledger) : Prop := l.state = .active ∧ l.stopping = false

def push (l : Ledger) (event : RunnerEventV1) : Ledger :=
  { l with lastSequence := event.sequence, pendingEvents := l.pendingEvents ++ [event] }

def meter (l : Ledger) (cursor : MeterCursor) : Ledger :=
  { l with
    meteredMicroseconds := cursor.microseconds
    meteredSegmentSHA256 := cursor.identities }

/-- The cursor `RecordFinalizedSegments` starts from. -/
def cursor (l : Ledger) : MeterCursor :=
  { microseconds := l.meteredMicroseconds, identities := l.meteredSegmentSHA256, changed := false }

def setUsage (l : Ledger) (total : Nat) : Ledger := { l with usageTotal := total }

def close (l : Ledger) (state : SessionState) : Ledger := { l with state := state, stopping := false }

/-- An event under the next sequence number and the identity that belongs to it. -/
def Next (l : Ledger) (event : RunnerEventV1) : Prop :=
  event.sequence = l.lastSequence + 1 ∧
    event.eventID = eventIDFor l.runnerSessionID event.sequence

/-- The ledger after `Advance` accepted an event. -/
def advanced (l : Ledger) (event : RunnerEventV1) : Ledger :=
  let pushed := (l.push event).setUsage ((event.usage.map UsageV1.total).getD l.usageTotal)
  if event.state = .active then pushed else pushed.close event.state

theorem advanced_pending (l : Ledger) (event : RunnerEventV1) :
    (l.advanced event).pendingEvents = l.pendingEvents ++ [event] := by
  unfold advanced
  dsimp only
  split <;> rfl

/-- The ledger after a metering call that found new segments: usage, and with it a tick,
only when a whole second was completed. -/
inductive Counted (l : Ledger) (cursor : MeterCursor) : Ledger → Prop where
  | quiet : cursor.microseconds / 1000000 ≤ l.usageTotal → Counted l cursor (l.meter cursor)
  | tick {event : RunnerEventV1} : l.usageTotal < cursor.microseconds / 1000000 → l.Next event →
      event.eventType = .usageTick → event.state = .active →
      event.usage = some ⟨workUnitV1, cursor.microseconds / 1000000⟩ →
      Counted l cursor (((l.meter cursor).push event).setUsage (cursor.microseconds / 1000000))

inductive Move (P : Platform) : StoreCall → Ledger → Ledger → Prop where
  | keep (call : StoreCall) (l : Ledger) : Move P call l l
  | emit {call : StoreCall} {l : Ledger} {event : RunnerEventV1} :
      l.running → l.Next event → event.eventType ≠ .usageTick → event.state = .active →
      (∀ usage ∈ event.usage, usage.total = l.usageTotal) → Move P call l (l.push event)
  | meter {id : String} {segments : List FinalizedHLSSegmentV1} {time : Time} {l l' : Ledger}
      {cursor : MeterCursor} :
      l.running → 0 < l.lastSequence → meterSegments P l.cursor segments = .ok cursor →
      l.Counted cursor l' → Move P (.recordFinalizedSegments id segments time) l l'
  | advance {id : String} {event : RunnerEventV1} {l : Ledger} :
      l.state = .active → (l.stopping = true → event.state ≠ .active) →
      event.eventID = eventIDFor l.runnerSessionID event.sequence →
      l.lastSequence < event.sequence →
      (0 < l.lastSequence → ∀ usage ∈ event.usage, l.usageTotal ≤ usage.total) →
      Move P (.advance id event) l (l.advanced event)
  | stop {call : StoreCall} {l : Ledger} : l.running → Move P call l { l with stopping := true }
  | remove {call : StoreCall} {l : Ledger} {event : RunnerEventV1} {rest : List RunnerEventV1} :
      call.removes = some event.eventID → l.pendingEvents = event :: rest →
      Move P call l { l with pendingEvents := rest }
  | forget {id : String} {l : Ledger} : l.state ≠ .active → l.pendingEvents = [] →
      Move P (.clearTerminalSecrets id) l { l with hasSecrets := false }

end Ledger

structure Standing where
  runnerSessionID : String
  createFingerprint : String
  state : SessionState
  stopping : Bool
  pendingCloseReason : String
  pendingTerminalState : Option SessionState
  pendingKeyActivationID : String
  closeReason : String
  sealedSecrets : Option SessionSecretsV1

def SessionRecordV1.standing (record : SessionRecordV1) : Standing :=
  { runnerSessionID := record.runnerSessionID
    createFingerprint := record.createFingerprint
    state := record.state
    stopping := record.stopping
    pendingCloseReason := record.pendingCloseReason
    pendingTerminalState := record.pendingTerminalState
    pendingKeyActivationID := record.pendingKeyActivationID
    closeReason := record.closeReason
    sealedSecrets := record.sealedSecrets }

/-- The close reason and the terminal state a call asks for. -/
def StoreCall.stops : StoreCall → Option (String × SessionState)
  | .beginTermination _ reason => some (reason, .ended)
  | .beginFailure _ reason => some (reason, .failed)
  | _ => none

namespace Standing

def running (s : Standing) : Prop := s.state = .active ∧ s.stopping = false

def stop (s : Standing) (reason : String) (target : SessionState) : Standing :=
  { s with
    stopping := true
    pendingCloseReason := reason
    pendingTerminalState := some target
    pendingKeyActivationID := "" }

def close (s : Standing) (state : SessionState) (reason : String) : Standing :=
  { s with
    state := state
    closeReason := reason
    stopping := false
    pendingCloseReason := ""
    pendingTerminalState := none
    pendingKeyActivationID := "" }

/-- The standing once a new stream key is the current one. -/
def issue (P : Platform) (s : Standing) (secrets : SessionSecretsV1)
    (request : StreamKeyIssueRequestV1) (response : StreamKeyIssueResponseV1) : Standing :=
  { s with
    pendingKeyActivationID :=
      if secrets.currentKeyID ≠ "" then request.requestID else s.pendingKeyActivationID
    sealedSecrets := some { secrets with
      keyIssues := (blankStreamKeys secrets.keyIssues).insert request.requestID
        ⟨keyIssueFingerprintV1 P request, request, response⟩
      currentKeyID := request.requestID } }

inductive Move (P : Platform) : StoreCall → Standing → Standing → Prop where
  | keep (call : StoreCall) (s : Standing) : Move P call s s
  | issue {id : String} {request : StreamKeyIssueRequestV1} {response : StreamKeyIssueResponseV1}
      {s : Standing} {secrets : SessionSecretsV1} : s.running → s.sealedSecrets = some secrets →
      secrets.keyIssues.lookup request.requestID = none → s.pendingKeyActivationID = "" →
      Move P (.recordKeyIssue id request response) s (s.issue P secrets request response)
  | activate {id requestID : String} {s : Standing} : s.running →
      Move P (.completeKeyActivation id requestID) s { s with pendingKeyActivationID := "" }
  | stop {call : StoreCall} {s : Standing} {reason : String} {target : SessionState} : s.running →
      call.stops = some (reason, target) → Move P call s (s.stop reason target)
  | close {id : String} {event : RunnerEventV1} {s : Standing} : s.state = .active →
      event.state ≠ .active → (s.stopping = true → event.closeReason = some s.pendingCloseReason) →
      Move P (.advance id event) s (s.close event.state (event.closeReason.getD ""))
  | forget {id : String} {s : Standing} : s.state ≠ .active →
      Move P (.clearTerminalSecrets id) s { s with sealedSecrets := none }

end Standing

/-- The event an attempt is reserved for, the number of the attempt and when the next is due. -/
def SessionRecordV1.reserved (record : SessionRecordV1) : Option (String × Nat × String) :=
  record.callbackDelivery.map fun delivery =>
    (delivery.eventID, delivery.attempts, delivery.nextAttemptAt)

inductive AttemptMove (P : Platform) (record new : SessionRecordV1) : StoreCall → Prop where
  | keep {call : StoreCall} : call.removes = none → new.reserved = record.reserved →
      AttemptMove P record new call
  | reserve {id eventID : String} {attemptAt : Time} {initial maximum : Int} {attempts : Nat} :
      record.headID = some eventID → nextAttemptNumber P eventID attemptAt record = .ok attempts →
      new.reserved = some (eventID, attempts,
        P.formatNano (attemptAt + callbackRetryDelayV1 P eventID attempts initial maximum)) →
      AttemptMove P record new (.reserveCallbackAttempt id eventID attemptAt initial maximum)
  | remove {call : StoreCall} {event : RunnerEventV1} {rest : List RunnerEventV1} :
      call.removes = some event.eventID → record.pendingEvents = event :: rest →
      new.pendingEvents = rest → new.reserved = none → AttemptMove P record new call

structure RecordMove (P : Platform) (call : StoreCall) (record new : SessionRecordV1) : Prop where
  identity : new.brokerSessionID = record.brokerSessionID
  ledger : Ledger.Move P call record.ledger new.ledger
  standing : Standing.Move P call record.standing new.standing
  attempt : AttemptMove P record new call

def SessionRecordV1.frame (record : SessionRecordV1) :
    String × Ledger × Standing × Option (String × Nat × String) :=
  (record.brokerSessionID, record.ledger, record.standing, record.reserved)

section
variable {P : Platform} {call : StoreCall} {record new : SessionRecordV1}

theorem RecordMove.keep (hcall : call.removes = none) (h : new.frame = record.frame) :
    RecordMove P call record new := by
  simp only [SessionRecordV1.frame, Prod.mk.injEq] at h
  obtain ⟨hid, hledger, hstanding, hreserved⟩ := h
  refine ⟨hid, ?_, ?_, .keep hcall hreserved⟩
  · rw [hledger]
    exact .keep call _
  · rw [hstanding]
    exact .keep call _

/-- An outcome that, if it replaces the record, moves it. -/
def Outcome.Moves {α : Type} (P : Platform) (call : StoreCall) (record : SessionRecordV1) :
    Outcome α → Prop
  | .answer _ => True
  | .replace new _ => RecordMove P call record new

theorem running_of_requireRunning {u : Unit} (h : requireRunning record = .ok u) :
    record.ledger.running := by
  simp only [requireRunning, failWhen_ok_iff, not_or, ne_eq, not_not] at h
  exact ⟨h.1, Bool.eq_false_iff.mpr h.2⟩

theorem ledger_defaultOutputState : (record.defaultOutputState P).ledger = record.ledger := by
  unfold SessionRecordV1.defaultOutputState
  split <;> rfl

theorem ledger_defaultTerminalState : record.defaultTerminalState.ledger = record.ledger := by
  unfold SessionRecordV1.defaultTerminalState
  split <;> rfl

theorem ledger_upgrade : (record.upgrade P).ledger = record.ledger := by
  rw [SessionRecordV1.upgrade, ledger_defaultTerminalState, ledger_defaultOutputState]

theorem RecordMove.onFile (h : RecordMove P call (record.upgrade P) new) :
    Ledger.Move P call record.ledger new.ledger :=
  @ledger_upgrade P record ▸ h.ledger

variable {α : Type} {dir : Directory} {id : String} {faults : Faults}

theorem emit_push {type : EventType} {time : String} {usage : Option Nat}
    {details : JsonText.Json String String} {changed : SessionRecordV1} {answer : α}
    (hcall : call.removes = none) (hrun : record.ledger.running)
    (hframe : changed.frame = record.frame) (htype : type ≠ .usageTick)
    (husage : ∀ total ∈ usage, total = record.usageTotal) :
    (Outcome.replace (changed.push (nextEvent changed type time usage details)) answer).Moves
      P call record := by
  simp only [SessionRecordV1.frame, Prod.mk.injEq] at hframe
  obtain ⟨hid, hledger, hstanding, hreserved⟩ := hframe
  refine ⟨hid, ?_, ?_, .keep hcall hreserved⟩
  · change Ledger.Move P call record.ledger (changed.ledger.push _)
    rw [hledger]
    refine .emit hrun ⟨?_, ?_⟩ htype rfl ?_
    · exact congrArg (fun l : Ledger => l.lastSequence + 1) hledger
    · exact congrArg (fun l : Ledger => eventIDFor l.runnerSessionID (changed.lastSequence + 1)) hledger
    · intro u hu
      simp only [nextEvent, Option.mem_def, Option.map_eq_some_iff] at hu
      obtain ⟨total, htotal, rfl⟩ := hu
      exact husage total htotal
  · change Standing.Move P call record.standing changed.standing
    rw [hstanding]
    exact .keep call _

/-- A method body that only moves its record, run on the secrets the record seals. -/
def BodyMoves {α : Type} (P : Platform) (call : StoreCall)
    (body : SessionRecordV1 → Option SessionSecretsV1 → Result (Outcome α)) : Prop :=
  ∀ record outcome, body record record.sealedSecrets = .ok outcome → outcome.Moves P call record

theorem recordKeyIssue_moves {request : StreamKeyIssueRequestV1} {response : StreamKeyIssueResponseV1} :
    BodyMoves P (.recordKeyIssue id request response) (recordKeyIssue P request response) := by
  intro record outcome h
  unfold recordKeyIssue at h
  rw [ok_bind_iff] at h
  obtain ⟨_, hrun, h⟩ := h
  split at h
  · cases h
  · rename_i secrets hsecrets
    split at h
    · simp only [ok_bind_iff] at h
      obtain ⟨_, _, _, _, h⟩ := h
      cases h
      trivial
    · rename_i hnone
      simp only [ok_bind_iff, failWhen_ok_iff, not_not] at h
      obtain ⟨_, hpending, h⟩ := h
      cases h
      refine ⟨rfl, ?_, .issue (running_of_requireRunning hrun) hsecrets hnone hpending, .keep rfl rfl⟩
      have hkeep := Ledger.Move.keep (P := P) (.recordKeyIssue id request response) record.ledger
      simpa [SessionRecordV1.ledger, hsecrets] using hkeep

theorem completeKeyActivation_moves {requestID : String} :
    BodyMoves P (.completeKeyActivation id requestID) (completeKeyActivation requestID) := by
  intro record outcome h
  unfold completeKeyActivation at h
  rw [ok_bind_iff] at h
  obtain ⟨_, hrun, h⟩ := h
  split at h
  · cases h
  · split at h
    · cases h
      trivial
    · rw [ok_bind_iff] at h
      obtain ⟨_, _, h⟩ := h
      cases h
      exact ⟨rfl, .keep _ _, .activate (running_of_requireRunning hrun), .keep rfl rfl⟩

theorem recordHeartbeat_moves {minimumInterval : Int} (hcall : call.removes = none) :
    BodyMoves P call (recordHeartbeat P eventTime minimumInterval) := by
  intro record outcome h
  unfold recordHeartbeat at h
  simp only [ok_bind_iff] at h
  obtain ⟨_, hrun, _, _, _, _, h⟩ := h
  split at h
  · cases h
    trivial
  · simp only [ok_bind_iff] at h
    obtain ⟨_, _, _, _, h⟩ := h
    cases h
    exact emit_push hcall (running_of_requireRunning hrun) rfl (by decide) (by simp)

theorem recordIngestPresence_moves {online : Bool} (hcall : call.removes = none) :
    BodyMoves P call (recordIngestPresence P online eventTime) := by
  intro record outcome h
  unfold recordIngestPresence at h
  rw [ok_bind_iff] at h
  obtain ⟨_, _, h⟩ := h
  split at h
  · cases h
    exact RecordMove.keep hcall rfl
  · split at h
    · cases h
      exact RecordMove.keep hcall rfl
    · cases h
      trivial

theorem ladderWindow_frame (now : Time) (window : Int) :
    (record.ladderWindow P now window).frame = record.frame := by
  unfold SessionRecordV1.ladderWindow
  dsimp only
  split <;> rfl

theorem recordLadderRestart_moves {code : String} {window : Int}
    (hcall : call.removes = none) : BodyMoves P call (recordLadderRestart P code eventTime window) := by
  intro record outcome h
  unfold recordLadderRestart at h
  simp only [ok_bind_iff] at h
  obtain ⟨_, hrun, _, _, _, _, h⟩ := h
  cases h
  exact emit_push hcall (running_of_requireRunning hrun) (ladderWindow_frame eventTime window)
    (by decide) (by simp)

theorem recordOutputStalledLockedV1_moves {answer : α} (hcall : call.removes = none)
    (hrun : record.ledger.running) (h : recordOutputStalledLockedV1 P eventTime record = .ok new) :
    (Outcome.replace new answer).Moves P call record := by
  unfold recordOutputStalledLockedV1 at h
  simp only [ok_bind_iff] at h
  obtain ⟨_, _, _, _, h⟩ := h
  cases h
  exact emit_push hcall hrun rfl (by decide) (by simp)

theorem evaluateOutputHealth_moves {stallAfter failAfter : Int} (hcall : call.removes = none) :
    BodyMoves P call (evaluateOutputHealth P eventTime stallAfter failAfter) := by
  intro record outcome h
  unfold evaluateOutputHealth at h
  rw [ok_bind_iff] at h
  obtain ⟨_, hrun, h⟩ := h
  split at h
  · cases h
    trivial
  · rw [ok_bind_iff] at h
    obtain ⟨base, _, h⟩ := h
    split at h
    · cases h
      trivial
    · split at h
      · cases h
        trivial
      · rw [ok_bind_iff] at h
        obtain ⟨stalled, hstalled, h⟩ := h
        cases h
        exact recordOutputStalledLockedV1_moves hcall (running_of_requireRunning hrun) hstalled

theorem recordOutputStalled_moves (hcall : call.removes = none) :
    BodyMoves P call (recordOutputStalled P eventTime) := by
  intro record outcome h
  unfold recordOutputStalled at h
  rw [ok_bind_iff] at h
  obtain ⟨_, hrun, h⟩ := h
  split at h
  · cases h
    trivial
  · rw [ok_bind_iff] at h
    obtain ⟨stalled, hstalled, h⟩ := h
    cases h
    exact recordOutputStalledLockedV1_moves hcall (running_of_requireRunning hrun) hstalled

theorem recordFinalizedSegments_spec {outcome : Outcome Bool}
    (h : recordFinalizedSegments P segments eventTime record secrets = .ok outcome) :
    record.ledger.running ∧ 0 < record.ledger.lastSequence ∧
      ∃ cursor, meterSegments P record.ledger.cursor segments = .ok cursor ∧
        ((cursor.changed = false ∧ outcome = .answer false) ∨
          ∃ new answer, cursor.changed = true ∧ outcome = .replace new answer ∧
            (new.brokerSessionID, new.standing, new.reserved) =
              (record.brokerSessionID, record.standing, record.reserved) ∧
            record.ledger.Counted cursor new.ledger) := by
  unfold recordFinalizedSegments at h
  simp only [ok_bind_iff, reject_ok_iff] at h
  obtain ⟨_, hrun, _, hstarted, cursor, hcursor, h⟩ := h
  refine ⟨running_of_requireRunning hrun, Nat.pos_of_ne_zero hstarted, cursor, hcursor, ?_⟩
  split at h
  · rename_i hchanged
    split at h
    · rename_i hmore
      simp only [ok_bind_iff] at h
      obtain ⟨_, _, _, _, h⟩ := h
      cases h
      exact Or.inr ⟨_, true, hchanged, rfl, rfl, .tick hmore ⟨rfl, rfl⟩ rfl rfl rfl⟩
    · rename_i hless
      cases h
      exact Or.inr ⟨_, false, hchanged, rfl, rfl, .quiet (Nat.le_of_not_lt hless)⟩
  · rename_i hsame
    cases h
    exact Or.inl ⟨Bool.eq_false_iff.mpr hsame, rfl⟩

theorem recordFinalizedSegments_moves :
    BodyMoves P (.recordFinalizedSegments id segments eventTime)
      (recordFinalizedSegments P segments eventTime) := by
  intro record outcome h
  obtain ⟨hrun, hpos, cursor, hcursor, hcases⟩ := recordFinalizedSegments_spec h
  rcases hcases with ⟨_, rfl⟩ | ⟨new, answer, _, rfl, hframe, hcounted⟩
  · trivial
  · simp only [Prod.mk.injEq] at hframe
    obtain ⟨hid, hstanding, hreserved⟩ := hframe
    refine ⟨hid, .meter hrun hpos hcursor hcounted, ?_, .keep rfl hreserved⟩
    rw [hstanding]
    exact .keep _ _

theorem accept_spec {cursor next : EventCursorV1} {event : RunnerEventV1}
    (h : cursor.accept P event = .ok next) :
    validateEventV1 P event = .ok () ∧ cursor.sequence < event.sequence ∧
      (cursor.hasUsage = true → ∀ usage ∈ event.usage, cursor.usageTotal ≤ usage.total) ∧
      next.usageTotal = (event.usage.map UsageV1.total).getD cursor.usageTotal := by
  unfold EventCursorV1.accept at h
  simp only [ok_bind_iff, reject_ok_iff, check_ok_iff] at h
  obtain ⟨_, hvalid, _, hseq, _, _, _, husage, h⟩ := h
  cases h
  refine ⟨hvalid, Nat.lt_of_not_le hseq, ?_, rfl⟩
  intro hhas usage hmem
  by_contra hlt
  apply husage
  refine ⟨hhas, ?_⟩
  rw [Option.mem_def.mp hmem]
  simpa using Nat.lt_of_not_le hlt

theorem advance_moves {event : RunnerEventV1} : BodyMoves P (.advance id event) (advance P event) := by
  intro record outcome h
  unfold advance at h
  simp only [ok_bind_iff, reject_ok_iff, failWhen_ok_iff] at h
  obtain ⟨_, hstate, _, hreason, _, hid, _, _, cursor, hcursor, h⟩ := h
  obtain ⟨_, hseq, husage, htotal⟩ := accept_spec hcursor
  cases h
  simp only [not_or, not_and, ne_eq, not_not] at hstate hid hreason
  have hmove : Ledger.Move P (.advance id event) record.ledger (record.ledger.advanced event) :=
    .advance hstate.1 hstate.2 hid hseq fun hpos => husage (decide_eq_true hpos)
  -- the two ways a state is terminal are the one way it is not active
  have hterm : (event.state = .ended ∨ event.state = .failed) ↔ event.state ≠ .active := by
    cases event.state <;> simp
  unfold Ledger.advanced at hmove
  by_cases hactive : event.state = .active
  · rw [if_neg (fun hor => hterm.mp hor hactive)]
    rw [if_pos hactive] at hmove
    refine ⟨rfl, ?_, .keep _ _, .keep rfl rfl⟩
    rw [htotal]
    exact hmove
  · rw [if_pos (hterm.mpr hactive)]
    rw [if_neg hactive] at hmove
    refine ⟨rfl, ?_, .close hstate.1 hactive hreason, .keep rfl rfl⟩
    rw [htotal]
    exact hmove

theorem beginTerminalV1_moves {reason : String} {target : SessionState} (hcall : call.removes = none)
    (hstops : call.stops = some (reason, target)) : BodyMoves P call (beginTerminalV1 reason target) := by
  intro record outcome h
  unfold beginTerminalV1 at h
  split at h
  · cases h
    trivial
  · rename_i hrun
    simp only [not_or, ne_eq, not_not] at hrun
    have hrunning : record.ledger.running := ⟨hrun.1, Bool.eq_false_iff.mpr hrun.2⟩
    cases h
    exact ⟨rfl, .stop hrunning, .stop hrunning hstops, .keep hcall rfl⟩

theorem pendingEvents_of_headID (h : ¬ record.headID ≠ some eventID) :
    ∃ event rest, record.pendingEvents = event :: rest ∧ event.eventID = eventID := by
  rw [not_not, SessionRecordV1.headID, Option.map_eq_some_iff] at h
  obtain ⟨event, hhead, heq⟩ := h
  obtain ⟨rest, hrest⟩ := List.head?_eq_some_iff.mp hhead
  exact ⟨event, rest, hrest, heq⟩

theorem acknowledgeEvent_moves :
    BodyMoves P (.acknowledgeEvent id eventID) (acknowledgeEvent eventID) := by
  intro record outcome h
  unfold acknowledgeEvent at h
  simp only [ok_bind_iff, reject_ok_iff] at h
  obtain ⟨_, hhead, h⟩ := h
  cases h
  obtain ⟨event, rest, hpending, rfl⟩ := pendingEvents_of_headID hhead
  refine ⟨rfl, ?_, .keep _ _, .remove rfl hpending (congrArg List.tail hpending) rfl⟩
  have hmove : Ledger.Move P (.acknowledgeEvent id event.eventID) record.ledger
      { record.ledger with pendingEvents := rest } := .remove rfl hpending
  simpa [SessionRecordV1.ledger, hpending] using hmove

theorem reserveCallbackAttempt_moves {attemptAt : Time} {initial maximum : Int} :
    BodyMoves P (.reserveCallbackAttempt id eventID attemptAt initial maximum)
      (reserveCallbackAttempt P eventID attemptAt initial maximum) := by
  intro record outcome h
  unfold reserveCallbackAttempt at h
  simp only [ok_bind_iff, reject_ok_iff, not_not] at h
  obtain ⟨_, hhead, attempts, hattempts, h⟩ := h
  cases h
  exact ⟨rfl, .keep _ _, .keep _ _, .reserve hhead hattempts rfl⟩

theorem recordCallbackRetryFailure_moves {eventID errorCode : String} {statusCode : Nat}
    (hcall : call.removes = none) :
    BodyMoves P call (recordCallbackRetryFailure eventID statusCode errorCode) := by
  intro record outcome h
  unfold recordCallbackRetryFailure at h
  split at h
  · cases h
  · rename_i delivery hdelivery
    rw [ok_bind_iff] at h
    obtain ⟨_, _, h⟩ := h
    cases h
    refine ⟨rfl, .keep _ _, .keep _ _, .keep hcall ?_⟩
    simp [SessionRecordV1.reserved, hdelivery]

theorem parkCallbackRejection_moves {eventID errorCode : String} {statusCode : Nat} {rejectedAt : Time} :
    BodyMoves P (.parkCallbackRejection id eventID statusCode errorCode rejectedAt)
      (parkCallbackRejection P eventID statusCode errorCode rejectedAt) := by
  intro record outcome h
  unfold parkCallbackRejection at h
  split at h
  · rename_i event rest delivery hpending _
    simp only [ok_bind_iff, reject_ok_iff, not_or, not_not] at h
    obtain ⟨_, ⟨rfl, _⟩, _, _, h⟩ := h
    cases h
    exact ⟨rfl, .remove rfl hpending, .keep _ _, .remove rfl hpending rfl rfl⟩
  · cases h

theorem clearTerminalSecrets_moves :
    BodyMoves P (.clearTerminalSecrets id) clearTerminalSecrets := by
  intro record outcome h
  unfold clearTerminalSecrets at h
  simp only [ok_bind_iff, reject_ok_iff, not_or, not_not] at h
  obtain ⟨_, hterminal, h⟩ := h
  cases h
  exact ⟨rfl, .forget hterminal.1 hterminal.2, .forget hterminal.1, .keep rfl rfl⟩

/-! ## Whole calls -/

theorem loadLocked_spec {readFails : Bool}
    (h : loadLocked P readFails dir id = .ok (record, secrets)) :
    ∃ file, dir.lookup id = some file ∧ record = file.upgrade P ∧
      record.brokerSessionID = id ∧ secrets = record.sealedSecrets := by
  unfold loadLocked at h
  simp only [ok_bind_iff] at h
  obtain ⟨_, _, _, _, h⟩ := h
  split at h
  · cases h
  · rename_i file hfile
    simp only [ok_bind_iff] at h
    obtain ⟨_, hvalid, opened, hopened, h⟩ := h
    cases h
    refine ⟨file, hfile, rfl, ?_, ?_⟩
    · simp only [check_ok_iff, validateSessionRecordV1, validateSessionLifecycle, ok_bind_iff,
        deny_ok_iff, not_or, ne_eq, not_not] at hvalid
      obtain ⟨_, ⟨_, hidentity, _⟩, _⟩ := hvalid
      exact hidentity.2.1
    · unfold openSecrets at hopened
      split at hopened
      · rename_i hnone
        cases hopened
        exact hnone.symm
      · rename_i sealed hsome
        simp only [ok_bind_iff] at hopened
        obtain ⟨_, _, _, _, hopened⟩ := hopened
        cases hopened
        exact hsome.symm

theorem commit_cases (save : Save) (dir : Directory) (outcome : Outcome α) :
    (commit save dir outcome).2 = dir ∨
      ∃ record value, outcome = .replace record value ∧
        (commit save dir outcome).2 = dir.insert record.brokerSessionID record := by
  cases outcome with
  | answer value => exact Or.inl rfl
  | replace record value =>
    cases save with
    | failed => exact Or.inl rfl
    | done => exact Or.inr ⟨record, value, rfl, rfl⟩
    | unsynced => exact Or.inr ⟨record, value, rfl, rfl⟩

/-- What a call does to the file of one session: nothing, a move of the record as a load
upgrades it, or its creation. -/
inductive SessionMove (P : Platform) (call : StoreCall) (id : String)
    (before after : Option SessionRecordV1) : Prop where
  | same : after = before → SessionMove P call id before after
  | move {file new : SessionRecordV1} : before = some file → after = some new →
      call.session = some id → RecordMove P call (file.upgrade P) new → SessionMove P call id before after
  | create {request : RunnerCreateRequestV1} {response : RunnerCreateResponseV1} {grant : GrantV1}
      {now : Time} : before = none → after = some (newSessionRecord P request response grant now) →
      call = .createOrReplay request response now → request.sessionID = id →
      SessionMove P call id before after

/-- What `transact` leaves: the directory as it was, or with the record its body decided on. -/
theorem transact_replaces (faults : Faults) (dir : Directory) (id : String)
    (body : SessionRecordV1 → Option SessionSecretsV1 → Result (Outcome α)) :
    (transact P faults dir id body).2 = dir ∨
      ∃ file new value, dir.lookup id = some file ∧ (file.upgrade P).brokerSessionID = id ∧
        body (file.upgrade P) (file.upgrade P).sealedSecrets = .ok (.replace new value) ∧
        (transact P faults dir id body).2 = dir.insert new.brokerSessionID new := by
  unfold transact
  split
  · exact .inl rfl
  · rename_i record secrets hload
    obtain ⟨file, hfile, hrecord, hid, hsecrets⟩ := loadLocked_spec hload
    subst hrecord
    subst hsecrets
    split
    · exact .inl rfl
    · rename_i outcome houtcome
      rcases commit_cases faults.save dir outcome with hsame | ⟨new, value, rfl, hnew⟩
      · exact .inl hsame
      · exact .inr ⟨file, new, value, hfile, hid, houtcome, hnew⟩

theorem transact_ok {body : SessionRecordV1 → Option SessionSecretsV1 → Result (Outcome α)} {value : α}
    (h : (transact P faults dir id body).1 = .ok value) :
    ∃ file outcome, dir.lookup id = some file ∧ (file.upgrade P).brokerSessionID = id ∧
      body (file.upgrade P) (file.upgrade P).sealedSecrets = .ok outcome ∧
      commit faults.save dir outcome = (.ok value, (transact P faults dir id body).2) := by
  unfold transact at h ⊢
  split at h
  · cases h
  · rename_i record secrets hload
    obtain ⟨file, hfile, rfl, hid, rfl⟩ := loadLocked_spec hload
    split at h
    · cases h
    · rename_i outcome houtcome
      exact ⟨file, outcome, hfile, hid, houtcome, Prod.ext h rfl⟩

theorem commit_ok {save : Save} {value answer : α} {dir' : Directory}
    (h : commit save dir (.replace new value) = (.ok answer, dir')) :
    dir' = dir.insert new.brokerSessionID new := by
  cases save with
  | done => exact (congrArg Prod.snd h).symm
  | failed => cases congrArg Prod.fst h
  | unsynced => cases congrArg Prod.fst h

theorem transact_moves {target : String}
    {body : SessionRecordV1 → Option SessionSecretsV1 → Result (Outcome α)}
    (hsession : call.session = some target) (hbody : BodyMoves P call body) :
    SessionMove P call id (dir.lookup id) ((transact P faults dir target body).2.lookup id) := by
  rcases transact_replaces (P := P) faults dir target body with
    hsame | ⟨file, new, value, hfile, hid, houtcome, hnew⟩
  · exact .same (by rw [hsame])
  · have hmove := hbody _ _ houtcome
    rw [hnew, hmove.identity, hid]
    by_cases htarget : id = target
    · subst htarget
      exact .move hfile (AList.lookup_insert _) hsession hmove
    · exact .same (AList.lookup_insert_ne htarget)

theorem openSecrets_ne_notExist : openSecrets P record id ≠ .error .notExist := by
  intro h
  unfold openSecrets at h
  split at h
  · cases h
  · simp [reject, pure, Except.pure] at h

/-- Only a missing file reads as not existing: every other failure of a load has its own error. -/
theorem lookup_none_of_notExist {readFails : Bool}
    (h : loadLocked P readFails dir id = .error .notExist) : dir.lookup id = none := by
  cases hfile : dir.lookup id with
  | none => rfl
  | some file =>
    simp [loadLocked, hfile, reject, pure, Except.pure, openSecrets_ne_notExist] at h

theorem createOrReplay_creates (faults : Faults) (dir : Directory) (request : RunnerCreateRequestV1)
    (response : RunnerCreateResponseV1) (now : Time) :
    (createOrReplay P faults dir request response now).2 = dir ∨
      ∃ grant, dir.lookup request.sessionID = none ∧
        (createOrReplay P faults dir request response now).2 =
          dir.insert request.sessionID (newSessionRecord P request response grant now) := by
  unfold createOrReplay
  split
  · left
    split
    · rfl
    · split
      · rfl
      · split <;> rfl
  · rename_i hload
    have hmissing := lookup_none_of_notExist hload
    split
    · exact .inl rfl
    · rename_i grant rest _
      dsimp only
      rcases commit_cases faults.save dir (.replace (newSessionRecord P request response grant now)
        (newSessionRecord P request response grant now, _, false)) with hsame | ⟨new, value, hout, hnew⟩
      · exact .inl hsame
      · cases hout
        exact .inr ⟨grant, hmissing, hnew⟩
  · exact .inl rfl

theorem createOrReplay_moves {now : Time} :
    SessionMove P (.createOrReplay request response now) id (dir.lookup id)
      ((createOrReplay P faults dir request response now).2.lookup id) := by
  rcases createOrReplay_creates (P := P) faults dir request response now with
    hsame | ⟨grant, hmissing, hnew⟩
  · exact .same (by rw [hsame])
  · rw [hnew]
    by_cases hid : id = request.sessionID
    · subst hid
      exact .create hmissing (AList.lookup_insert _) rfl rfl
    · exact .same (AList.lookup_insert_ne hid)

theorem run_moves (call : StoreCall) (faults : Faults) (dir : Directory) (id : String) :
    SessionMove P call id (dir.lookup id) ((call.run P faults dir).2.lookup id) := by
  unfold StoreCall.run
  split
  · exact .same rfl
  · cases call with
    | createOrReplay => exact createOrReplay_moves
    | load | loadByRunnerSessionID | recoverable => exact .same rfl
    | recordKeyIssue => exact transact_moves rfl recordKeyIssue_moves
    | completeKeyActivation => exact transact_moves rfl completeKeyActivation_moves
    | advance => exact transact_moves rfl advance_moves
    | recordFinalizedSegments => exact transact_moves rfl recordFinalizedSegments_moves
    | recordHeartbeat => exact transact_moves rfl (recordHeartbeat_moves rfl)
    | recordIngestPresence => exact transact_moves rfl (recordIngestPresence_moves rfl)
    | recordLadderRestart => exact transact_moves rfl (recordLadderRestart_moves rfl)
    | evaluateOutputHealth => exact transact_moves rfl (evaluateOutputHealth_moves rfl)
    | recordOutputStalled => exact transact_moves rfl (recordOutputStalled_moves rfl)
    | beginTermination | beginFailure => exact transact_moves rfl (beginTerminalV1_moves rfl rfl)
    | acknowledgeEvent => exact transact_moves rfl acknowledgeEvent_moves
    | reserveCallbackAttempt => exact transact_moves rfl reserveCallbackAttempt_moves
    | recordCallbackRetryFailure => exact transact_moves rfl (recordCallbackRetryFailure_moves rfl)
    | parkCallbackRejection => exact transact_moves rfl parkCallbackRejection_moves
    | clearTerminalSecrets => exact transact_moves rfl clearTerminalSecrets_moves

/-! ## Rejected calls -/

theorem commit_error {save : Save} {outcome : Outcome α}
    (hsave : save ≠ .unsynced) (h : (commit save dir outcome).1 = .error e) :
    (commit save dir outcome).2 = dir := by
  cases outcome with
  | answer value => rfl
  | replace record value =>
    cases save with
    | failed => rfl
    | done => cases h
    | unsynced => exact absurd rfl hsave

theorem transact_error
    {body : SessionRecordV1 → Option SessionSecretsV1 → Result (Outcome α)}
    (hsave : faults.save ≠ .unsynced) (h : (transact P faults dir id body).1 = .error e) :
    (transact P faults dir id body).2 = dir := by
  unfold transact at h ⊢
  split
  · rfl
  · rename_i record secrets hload
    split
    · rfl
    · rename_i outcome houtcome
      simp only [hload, houtcome] at h
      exact commit_error hsave h

theorem createOrReplay_error {now : Time} (hsave : faults.save ≠ .unsynced)
    (h : (createOrReplay P faults dir request response now).1 = .error e) :
    (createOrReplay P faults dir request response now).2 = dir := by
  unfold createOrReplay at h ⊢
  split
  · split
    · rfl
    · split
      · rfl
      · split <;> rfl
  · rename_i hload
    split
    · rfl
    · rename_i hgrants
      simp only [hload, hgrants] at h
      exact commit_error hsave h
  · rfl

/-- A call that returns an error has changed nothing, unless the file had been replaced
and only the sync of the directory failed. -/
theorem run_error {call : StoreCall}
    (hsave : faults.save ≠ .unsynced) (h : (call.run P faults dir).1 = .error e) :
    (call.run P faults dir).2 = dir := by
  unfold StoreCall.run at h ⊢
  split
  · rfl
  · rename_i hcheck
    simp only [hcheck] at h
    cases call with
    | createOrReplay request response now => exact createOrReplay_error hsave h
    | load | loadByRunnerSessionID | recoverable => rfl
    | _ => exact transact_error hsave h

end

end LivepeerTranscode.LiveRunner
