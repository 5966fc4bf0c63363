import LivepeerTranscode.LiveRunner.Runs

/-!
# How one callback attempt ends

The POST of a reserved attempt and the store method that follows on its answer. Whether the
worker survives the attempt depends on the status alone, and on a counter that may be full.
-/

namespace LivepeerTranscode.LiveRunner
open Checked Interaction
set_option autoImplicit false

inductive Settlement where
  | acknowledged | kept | parked
  deriving DecidableEq

/-- What an attempt did to the head of the outbox: the record before it and the one after. -/
def Settlement.Of (before after : SessionRecordV1) : Settlement → Prop
  | .acknowledged => after.pendingEvents = before.pendingEvents.tail ∧ after.callbackDelivery = none ∧
      after.callbackRejectedTotal = before.callbackRejectedTotal
  | .kept => after.pendingEvents = before.pendingEvents ∧
      after.callbackDelivery.map (·.nextAttemptAt) = before.callbackDelivery.map (·.nextAttemptAt)
  | .parked => after.pendingEvents = before.pendingEvents.tail ∧ after.callbackDelivery = none ∧
      after.callbackRejectedTotal = before.callbackRejectedTotal + 1 ∧
      after.callbackDeadLetters.getLast?.map (·.event) = before.pendingEvents.head?

/-- The worker goes on: the error of the attempt, if any, is one of the callback's own. -/
def workerGoesOn : Except DeliveryError Bool → Bool
  | .error (.other _) => false
  | _ => true

/-- The answers an attempt can end on; a counter that is full refuses a dead letter. -/
def Answerable (record : SessionRecordV1) : PostAnswer → Prop
  | .transportError => True
  | .response statusCode _ => 200 ≤ statusCode ∧ statusCode < 300 ∨
      callbackStatusRetryableV1 statusCode ∨ statusCode ≤ 599 ∧ record.callbackRejectedTotal ≠ maxUint64

section
variable {P : Platform} {dir : Directory} {id : String} {record : SessionRecordV1}
  {found : Option SessionSecretsV1} {event : RunnerEventV1} {rest : List RunnerEventV1}
  {delivery : CallbackDeliveryAttemptV1}

theorem transact_saved {α : Type} {body : SessionRecordV1 → Option SessionSecretsV1 → Result (Outcome α)}
    {new : SessionRecordV1} {value : α} (hload : loadLocked P false dir id = .ok (record, found))
    (hbody : body record found = .ok (.replace new value))
    (hnew : new.brokerSessionID = record.brokerSessionID) :
    transact P noFaults dir id body = (.ok value, dir.insert id new) := by
  obtain ⟨-, -, -, hid, -⟩ := loadLocked_spec hload
  have hread : loadLocked P noFaults.readFails dir id = .ok (record, found) := hload
  simp only [transact, hread, hbody]
  change (Except.ok value, dir.insert new.brokerSessionID new) = _
  rw [hnew, hid]

theorem safeCallbackErrorCodeV1_valid {statusCode : Nat} (h : statusCode ≤ 599)
    (codes : Option (String × String)) :
    callbackErrorCodePatternV1 (safeCallbackErrorCodeV1 statusCode codes) = true := by
  have hdigits (c) (hc : c ∈ Nat.toDigits 10 statusCode) : '0' ≤ c ∧ c ≤ '9' := by
    simpa [Char.isDigit, Char.le_def] using Nat.isDigit_of_mem_toDigits (by omega) (by omega) hc
  have hlen : (Nat.toDigits 10 statusCode).length ≤ 3 :=
    (Nat.length_toDigits_le_iff (by omega) (by omega)).mpr (by omega)
  unfold safeCallbackErrorCodeV1
  split
  · decide
  split
  · decide
  split
  · rename_i code hfind
    obtain ⟨⟨error, given⟩, -, hfind⟩ := Option.bind_eq_some_iff.mp hfind
    have hsafe : safeBrokerCallbackCodeV1 code = true := List.find?_some hfind
    exact (Bool.and_eq_true_iff.mp hsafe).1
  · rw [Nat.toString_eq_ofList_toDigits, callbackErrorCodePatternV1, String.toList_append]
    simp +contextual [hdigits]
    omega

theorem Settlement.unique {before after : SessionRecordV1} {a b : Settlement}
    (hpending : before.pendingEvents = event :: rest) (ha : a.Of before after) (hb : b.Of before after) :
    a = b := by
  have hne : rest ≠ event :: rest := fun h => absurd (congrArg List.length h) (by simp)
  cases a <;> cases b <;> simp_all [Settlement.Of]

/-- The call that follows on an answer, with the result it gives the attempt. -/
def SettlesBy (P : Platform) (dir : Directory) (id : String) (record : SessionRecordV1)
    (secrets : SessionSecretsV1) (event : RunnerEventV1) (now : Time) (answer : PostAnswer) (goesOn : Prop) :
    Prop :=
  ∃ call result, Reaches (deliverReserved id secrets event now)
      [⟨.post id secrets.createRequest.callbackURL secrets.createRequest.callbackToken event, answer⟩,
        ⟨.store call, (call.run P noFaults dir).1⟩] (.pure result) ∧
    (workerGoesOn result = true ∧ (∃ after, (call.run P noFaults dir).2.lookup id = some after ∧
      ∃! settlement : Settlement, settlement.Of record after) ↔ goesOn)

theorem settled_of {new : SessionRecordV1} {settlement : Settlement}
    (hpending : record.pendingEvents = event :: rest) (h : settlement.Of record new) :
    ∃ after, (dir.insert id new).lookup id = some after ∧
      ∃! settlement : Settlement, settlement.Of record after :=
  ⟨new, AList.lookup_insert _, settlement, h, fun _ hother => Settlement.unique hpending hother h⟩

theorem parkCallbackRejection_parks (P : Platform) (found : Option SessionSecretsV1) (statusCode : Nat)
    (code : String) (now : Time) (hpending : record.pendingEvents = event :: rest)
    (hcursor : record.callbackDelivery = some delivery) (hcurrent : delivery.eventID = event.eventID)
    (hroom : record.callbackRejectedTotal ≠ maxUint64) :
    ∃ new, parkCallbackRejection P event.eventID statusCode code now record found = .ok (.replace new ()) ∧
      new.brokerSessionID = record.brokerSessionID ∧ Settlement.parked.Of record new := by
  unfold parkCallbackRejection
  rw [hpending, hcursor]
  refine ⟨_, ok_seq_iff.mpr ⟨failWhen_ok_iff.mpr (by simp [hcurrent]),
    ok_seq_iff.mpr ⟨failWhen_ok_iff.mpr hroom, rfl⟩⟩, rfl, ?_⟩
  refine ⟨by simp [hpending], rfl, rfl, ?_⟩
  simp [hpending, List.getLast?_drop, maxCallbackDeadLettersV1]

/-- With a store that works, one attempt acknowledges the head, keeps it for its retry or parks it,
and the worker goes on, exactly for the answers named. -/
theorem attempt_settles (hload : loadLocked P false dir id = .ok (record, found))
    (hpending : record.pendingEvents = event :: rest) (hcursor : record.callbackDelivery = some delivery)
    (hcurrent : delivery.eventID = event.eventID) (secrets : SessionSecretsV1) {now : Time}
    (hnow : now.isZero = false) (answer : PostAnswer)
    (hstatus : ∀ statusCode codes, answer = .response statusCode codes →
      100 ≤ statusCode ∧ statusCode ≤ 999) :
    SettlesBy P dir id record secrets event now answer (Answerable record answer) := by
  have hhead : record.headID = some event.eventID := by simp [SessionRecordV1.headID, hpending]
  have hretry : ∀ statusCode code, validCallbackFailureV1 statusCode code true = true →
      ∃ new, (StoreCall.recordCallbackRetryFailure id event.eventID statusCode code).run P noFaults dir =
        (.ok (), dir.insert id new) ∧ Settlement.kept.Of record new := by
    intro statusCode code hvalid
    refine ⟨{ record with callbackDelivery := some { delivery with
      lastStatusCode := statusCode, lastErrorCode := code } }, ?_, rfl, by simp [hcursor]⟩
    have hpass : (StoreCall.recordCallbackRetryFailure id event.eventID statusCode code).precheck P =
        .ok () := by
      simp [StoreCall.precheck, reject, hvalid]
    rw [StoreCall.run, hpass]
    refine transact_saved hload ?_ rfl
    unfold recordCallbackRetryFailure
    rw [hcursor]
    exact ok_seq_iff.mpr ⟨failWhen_ok_iff.mpr (by simp [hcurrent, hhead]), rfl⟩
  cases answer with
  | transportError =>
    obtain ⟨new, hrun, hkept⟩ := hretry 0 "transport_error" (by decide)
    refine ⟨.recordCallbackRetryFailure id event.eventID 0 "transport_error",
      .error (.callback 0 "transport_error" true), .step _ (.step _ ?_), ?_⟩
    · rw [hrun]
      exact .refl _
    · rw [hrun]
      exact ⟨fun _ => trivial, fun _ => ⟨rfl, settled_of hpending hkept⟩⟩
  | response statusCode codes =>
    obtain ⟨hlow, hhigh⟩ := hstatus statusCode codes rfl
    by_cases haccepted : 200 ≤ statusCode ∧ statusCode < 300
    · have hrun : (StoreCall.acknowledgeEvent id event.eventID).run P noFaults dir = (.ok (), dir.insert id
          { record with pendingEvents := record.pendingEvents.tail, callbackDelivery := none }) :=
        transact_saved hload (ok_seq_iff.mpr ⟨failWhen_ok_iff.mpr (not_not.mpr hhead), rfl⟩) rfl
      refine ⟨.acknowledgeEvent id event.eventID, .ok true, .step _ ?_, ?_⟩
      · dsimp only [Prog.bind]
        rw [if_pos haccepted]
        refine .step _ ?_
        rw [hrun]
        exact .refl _
      · rw [hrun]
        have hpopped : Settlement.acknowledged.Of record { record with
            pendingEvents := record.pendingEvents.tail, callbackDelivery := none } := ⟨rfl, rfl, rfl⟩
        exact ⟨fun _ => .inl haccepted, fun _ => ⟨rfl, settled_of hpending hpopped⟩⟩
    by_cases hagain : callbackStatusRetryableV1 statusCode = true
    · have hbound : statusCode ≤ 599 := by
        simp [callbackStatusRetryableV1] at hagain
        omega
      have hvalid : validCallbackFailureV1 statusCode (safeCallbackErrorCodeV1 statusCode codes) true = true := by
        simp [validCallbackFailureV1, safeCallbackErrorCodeV1_valid hbound, hlow, hbound,
          Nat.ne_of_gt (by omega : 0 < statusCode)]
      obtain ⟨new, hrun, hkept⟩ := hretry statusCode _ hvalid
      refine ⟨.recordCallbackRetryFailure id event.eventID statusCode (safeCallbackErrorCodeV1 statusCode codes),
        .error (.callback statusCode (safeCallbackErrorCodeV1 statusCode codes) true), .step _ ?_, ?_⟩
      · dsimp only [Prog.bind]
        rw [if_neg haccepted, if_pos hagain]
        refine .step _ ?_
        rw [hrun]
        exact .refl _
      · rw [hrun]
        exact ⟨fun _ => .inr (.inl hagain), fun _ => ⟨rfl, settled_of hpending hkept⟩⟩
    · have hstep : ∀ answer, Reaches (deliverReserved id secrets event now)
          [⟨.post id secrets.createRequest.callbackURL secrets.createRequest.callbackToken event,
              .response statusCode codes⟩,
            ⟨.store (.parkCallbackRejection id event.eventID statusCode
              (safeCallbackErrorCodeV1 statusCode codes) now), answer⟩]
          (.pure (answer.mapError .other >>= fun _ =>
            .error (.callback statusCode (safeCallbackErrorCodeV1 statusCode codes) false))) := by
        intro answer
        refine .step _ ?_
        dsimp only [Prog.bind]
        rw [if_neg haccepted, if_neg hagain]
        cases answer <;> exact .step _ (.refl _)
      by_cases hpark : statusCode ≤ 599 ∧ record.callbackRejectedTotal ≠ maxUint64
      · have hvalid : validCallbackFailureV1 statusCode (safeCallbackErrorCodeV1 statusCode codes) false =
            true := by
          simp [validCallbackFailureV1, safeCallbackErrorCodeV1_valid hpark.1, hlow, hpark.1,
            Nat.ne_of_gt (by omega : 0 < statusCode)]
        have hpass : (StoreCall.parkCallbackRejection id event.eventID statusCode
            (safeCallbackErrorCodeV1 statusCode codes) now).precheck P = .ok () := by
          simp [StoreCall.precheck, reject, hvalid, hnow]
        obtain ⟨new, hbody, hnew, hparked⟩ := parkCallbackRejection_parks P found statusCode
          (safeCallbackErrorCodeV1 statusCode codes) now hpending hcursor hcurrent hpark.2
        have hrun : (StoreCall.parkCallbackRejection id event.eventID statusCode
            (safeCallbackErrorCodeV1 statusCode codes) now).run P noFaults dir = (.ok (), dir.insert id new) := by
          rw [StoreCall.run, hpass]
          exact transact_saved hload hbody hnew
        refine ⟨_, _, hstep _, ?_⟩
        rw [hrun]
        exact ⟨fun _ => .inr (.inr hpark), fun _ => ⟨rfl, settled_of hpending hparked⟩⟩
      · refine ⟨_, _, hstep _, ?_⟩
        have hfails : ∃ e, ((StoreCall.parkCallbackRejection id event.eventID statusCode
            (safeCallbackErrorCodeV1 statusCode codes) now).run P noFaults dir).1 = .error e := by
          by_cases hbound : statusCode ≤ 599
          · have hfull : record.callbackRejectedTotal = maxUint64 := by
              by_contra hne
              exact hpark ⟨hbound, hne⟩
            have hread : loadLocked P noFaults.readFails dir id = .ok (record, found) := hload
            unfold StoreCall.run
            split
            · exact ⟨_, rfl⟩
            · simp [StoreCall.locked, transact, hread, parkCallbackRejection, hpending, hcursor, hcurrent, hfull,
                reject, failWhen, bind, Except.bind]
          · have hinvalid : validCallbackFailureV1 statusCode (safeCallbackErrorCodeV1 statusCode codes)
                false = false := by
              simp [validCallbackFailureV1, hbound, Nat.ne_of_gt (by omega : 0 < statusCode)]
            have hrefused : (StoreCall.parkCallbackRejection id event.eventID statusCode
                (safeCallbackErrorCodeV1 statusCode codes) now).precheck P =
                  .error (.message "callback rejection is invalid") := by
              simp [StoreCall.precheck, reject, failWhen, hinvalid]
            rw [StoreCall.run, hrefused]
            exact ⟨_, rfl⟩
        obtain ⟨e, he⟩ := hfails
        rw [he]
        constructor
        · rintro ⟨hgoes, -⟩
          cases hgoes
        · rintro (haccept | hretryable | hparks)
          · exact absurd haccept haccepted
          · exact absurd hretryable hagain
          · exact absurd hparks hpark

end

/-- The sample session with its start event reserved for a first attempt. -/
def dueRecord : SessionRecordV1 :=
  { ((sampleStarted.dir.lookup "s1").getD sampleRecord).upgrade samplePlatform with
    callbackDelivery := some ⟨"r1:1", 1, sampleStamp, sampleStamp, 0, ""⟩ }

def dueDirectory : Directory := (∅ : Directory).insert "s1" dueRecord

theorem dueDirectory_loads : loadLocked samplePlatform false dueDirectory "s1" =
    .ok (dueRecord.upgrade samplePlatform, (dueRecord.upgrade samplePlatform).sealedSecrets) := by
  have hloads : (loadLocked samplePlatform false dueDirectory "s1").isOk = true := by decide +kernel
  cases hload : loadLocked samplePlatform false dueDirectory "s1" with
  | error e => simp [hload, Except.isOk, Except.toBool] at hloads
  | ok loaded =>
    obtain ⟨file, hfile, hrecord, -, hsecrets⟩ := loadLocked_spec hload
    rw [dueDirectory, AList.lookup_insert] at hfile
    cases hfile
    rw [← hrecord, ← hsecrets]

theorem attempt_settles_rejected : SettlesBy samplePlatform dueDirectory "s1"
    (dueRecord.upgrade samplePlatform) sampleSecrets (startedEvent samplePlatform sampleRecord sampleTime)
    sampleTime (.response 404 none) (Answerable (dueRecord.upgrade samplePlatform) (.response 404 none)) :=
  attempt_settles dueDirectory_loads rfl rfl rfl sampleSecrets (by decide) _
    fun _ _ h => by cases h; decide

/-- A broker that answers 600 stops the worker: the store refuses the rejection, the head stays. -/
theorem status_600_stops : ∃ e,
    Reaches (deliverReserved "s1" sampleSecrets (startedEvent samplePlatform sampleRecord sampleTime) sampleTime)
      [⟨.post "s1" "http://b/c" "t" (startedEvent samplePlatform sampleRecord sampleTime), .response 600 none⟩,
        ⟨.store (.parkCallbackRejection "s1" "r1:1" 600 "http_600" sampleTime),
          ((StoreCall.parkCallbackRejection "s1" "r1:1" 600 "http_600" sampleTime).run
            samplePlatform noFaults dueDirectory).1⟩]
      (.pure (.error (.other e))) ∧
    workerGoesOn (.error (.other e)) = false ∧
    ((StoreCall.parkCallbackRejection "s1" "r1:1" 600 "http_600" sampleTime).run
      samplePlatform noFaults dueDirectory).2.lookup "s1" = some dueRecord := by
  have hrefused : (StoreCall.parkCallbackRejection "s1" "r1:1" 600 "http_600" sampleTime).run
      samplePlatform noFaults dueDirectory =
        (.error (.message "callback rejection is invalid"), dueDirectory) := rfl
  refine ⟨.message "callback rejection is invalid", ?_, rfl, ?_⟩
  · rw [hrefused]
    exact .step _ (.step _ (.refl _))
  · rw [hrefused]
    exact AList.lookup_insert _

end LivepeerTranscode.LiveRunner
