import LivepeerTranscode.AbrRunner.Coordinator

/-!
# The calls of the handler's programs

What a request or an execution has done before each call it makes, read off its own history.
A program is inside the coordinator's mutex from `lock` to `unlock`; what it has done there is
the section it is in.
-/

namespace LivepeerTranscode.AbrRunner
open Interaction Checked GoText JsonText
set_option autoImplicit false

def sectionStep (calls : Option (List AbrEvent)) (event : AbrEvent) : Option (List AbrEvent) :=
  match event.effect with
  | .lock => some []
  | .unlock => none
  | _ => calls.map (· ++ [event])

/-- The calls since the mutex was taken, where it is held. -/
def currentSection (h : List AbrEvent) : Option (List AbrEvent) := h.foldl sectionStep none

@[simp] theorem currentSection_concat (h : List AbrEvent) (event : AbrEvent) :
    currentSection (h ++ [event]) = sectionStep (currentSection h) event := by
  rw [currentSection, List.foldl_append]
  rfl

def loaded (workloadID : String) (record : WorkloadJournalV2) : AbrEvent :=
  ⟨.store (.load workloadID), .ok record⟩

def lookedUp (workloadID : String) (found : Option Execution) (count : Nat) : AbrEvent :=
  ⟨.lookup workloadID, (found, count)⟩

def acquired (lease : Nat) : AbrEvent := ⟨.acquire, .ok lease⟩

def started (spawn : Spawn) (serial : Nat) : AbrEvent := ⟨.start spawn, serial⟩

/-- The program of an execution that has begun and not finished. -/
def Executing (h : List AbrEvent) (serial : Nat) (req : ABRWorkloadRequestV2) (requestSHA256 : String) : Prop :=
  h.head? = some ⟨.begin req requestSHA256, serial⟩ ∧ ∀ event ∈ h, ∀ workloadID, event.effect ≠ .finish workloadID

def Serving (runner : Runner) (h : List AbrEvent) (req : ABRWorkloadRequestV2) (requestSHA256 : String) : Prop :=
  ∃ request, h.head? = some ⟨.arrive request, ()⟩ ∧ admitRequest runner request = .ok (req, requestSHA256)

/-- The journal of a workload as an operation has read it. -/
def HasRead (h : List AbrEvent) (workloadID : String) (record : WorkloadJournalV2) : Prop :=
  loaded workloadID record ∈ h ∨ ∃ requestSHA256 disposition,
    (⟨.store (.loadOrCreate workloadID requestSHA256), .ok (record, disposition)⟩ : AbrEvent) ∈ h

/-- A response is opened for a subscriber, or for a journal that was found terminal. -/
inductive Served (h : List AbrEvent) (workloadID : String) : Prop where
  | attached {subscriber : Nat} : (⟨.attach workloadID, subscriber⟩ : AbrEvent) ∈ h → Served h workloadID
  | ended {record : WorkloadJournalV2} : loaded workloadID record ∈ h → record.state ≠ .inProgress →
      Served h workloadID
  | replayed {requestSHA256 : String} {record : WorkloadJournalV2} :
      (⟨.store (.loadOrCreate workloadID requestSHA256), .ok (record, .replayTerminal)⟩ : AbrEvent) ∈ h →
      Served h workloadID

def Accepted (h : List AbrEvent) : Prop :=
  ∃ workloadID requestSHA256 record disposition, disposition ≠ .rejectIDReuse ∧
    (⟨.store (.loadOrCreate workloadID requestSHA256), .ok (record, disposition)⟩ : AbrEvent) ∈ h

inductive Refusal (runner : Runner) (h : List AbrEvent) : Nat → String → Prop where
  | early {request : HttpRequest} {status : Nat} {error : String} : h = [⟨.arrive request, ()⟩] →
      admitRequest runner request = .error (status, error) → Refusal runner h status error
  | unavailable {first : AbrEvent} {workloadID requestSHA256 : String} {err : StoreError} :
      h = [first, ⟨.store (.loadOrCreate workloadID requestSHA256), .error err⟩] →
      Refusal runner h 500 "journal_unavailable"
  | reuse {first : AbrEvent} {workloadID requestSHA256 : String} {record : WorkloadJournalV2} :
      h = [first, ⟨.store (.loadOrCreate workloadID requestSHA256), .ok (record, .rejectIDReuse)⟩] →
      Refusal runner h 409 "workload_id_reuse"
  | later {status : Nat} {error : String} : Accepted h → Refusal runner h status error

/-- The calls with which a run records the outcome of its executor. -/
inductive Recorded (runner : Runner) (req : ABRWorkloadRequestV2) (requestSHA256 : String) (serial : Nat) :
    ExecutorOutcome → List AbrEvent → Prop where
  | result (h : List AbrEvent) (result : ABRTerminalResultV2) (answer : Except StoreError StoredSSEEventV2) :
      Recorded runner req requestSHA256 serial (.ok result)
        (h ++ [⟨.contextErr serial, false⟩, ⟨.store (.recordTerminalResult req.workloadID result), answer⟩] ++
          if answer.isOk then [⟨.notify req.workloadID, ()⟩] else [])
  | error (h : List AbrEvent) (err : Option ABRErrorV2) (journal : Except StoreError WorkloadJournalV2)
      (answer : Except StoreError StoredSSEEventV2) :
      Recorded runner req requestSHA256 serial (.error err)
        (h ++ [⟨.contextErr serial, false⟩, ⟨.store (.load req.workloadID), journal⟩,
            ⟨.store (.recordTerminalError req.workloadID
              (failureEvent req requestSHA256 err (deliveredWorkUnits runner journal))), answer⟩] ++
          if answer.isOk then [⟨.notify req.workloadID, ()⟩] else [])

/-- How an execution has come to its end: its context was cancelled, or it was tried to record
the outcome of its executor. -/
inductive Settled (runner : Runner) (req : ABRWorkloadRequestV2) (requestSHA256 : String) (serial : Nat) :
    List AbrEvent → Prop where
  | cancelled (h : List AbrEvent) : Settled runner req requestSHA256 serial (h ++ [⟨.contextErr serial, true⟩])
  | recorded {h : List AbrEvent} {outcome : ExecutorOutcome} :
      Recorded runner req requestSHA256 serial outcome h → Settled runner req requestSHA256 serial h

def abrRule (runner : Runner) (h : List AbrEvent) : Effect → Prop
  | .arrive _ => h = []
  | .begin _ _ => h = []
  | .lock => currentSection h = none
  | .unlock => ∃ calls, currentSection h = some calls ∧ ∀ lease, calls.getLast? ≠ some (acquired lease)
  | .lookup workloadID => ∃ record, currentSection h = some [loaded workloadID record] ∧
      record.state = .inProgress
  | .acquire => ∃ workloadID record count,
      currentSection h = some [loaded workloadID record, lookedUp workloadID none count] ∧
      record.state = .inProgress ∧ count < runner.limit
  | .start spawn => ∃ record count,
      currentSection h = some [loaded spawn.req.workloadID record,
        lookedUp spawn.req.workloadID none count, acquired spawn.lease] ∧
      record.state = .inProgress ∧ record.requestSHA256 = spawn.requestSHA256 ∧ count < runner.limit ∧
      Serving runner h spawn.req spawn.requestSHA256 ∧ Accepted h
  | .attach workloadID => Accepted h ∧ ∃ record, record.state = .inProgress ∧
      ((∃ execution count, currentSection h =
        some [loaded workloadID record, lookedUp workloadID (some execution) count]) ∨
      ∃ spawn serial count, spawn.req.workloadID = workloadID ∧ currentSection h =
        some [loaded workloadID record, lookedUp workloadID none count, acquired spawn.lease,
          started spawn serial])
  | .detach _ _ => currentSection h = none
  | .notify workloadID => currentSection h = none ∧
      ∃ serial req requestSHA256, Executing h serial req requestSHA256 ∧ req.workloadID = workloadID
  | .finish workloadID => currentSection h = none ∧
      ∃ serial req requestSHA256, Executing h serial req requestSHA256 ∧ req.workloadID = workloadID ∧
        Settled runner req requestSHA256 serial h
  | .store op =>
      match op with
      | .load workloadID => (currentSection h = none ∨ currentSection h = some []) ∧
          ((∃ req requestSHA256, Serving runner h req requestSHA256 ∧ req.workloadID = workloadID) ∨
          ∃ serial req requestSHA256, Executing h serial req requestSHA256 ∧ req.workloadID = workloadID)
      | .loadOrCreate workloadID requestSHA256 => ∃ request req, h = [⟨.arrive request, ()⟩] ∧
          admitRequest runner request = .ok (req, requestSHA256) ∧ req.workloadID = workloadID
      | op => op.Fits ∧ currentSection h = none ∧ ∃ serial req requestSHA256,
          Executing h serial req requestSHA256 ∧ req.workloadID = op.workloadID
  | .contextErr _ | .select _ => currentSection h = none
  | .reply reply => currentSection h = none ∧
      match reply with
      | .event stored => Accepted h ∧ ∃ req requestSHA256 record,
          Serving runner h req requestSHA256 ∧ HasRead h req.workloadID record ∧
          (stored ∈ record.progressEvents ∨ record.terminalEvent = some stored)
      | .trailer units => Accepted h ∧ ∃ req requestSHA256 record,
          Serving runner h req requestSHA256 ∧ HasRead h req.workloadID record ∧
          terminalWorkUnitsV2 record = some units
      | .opened => Accepted h ∧ ∃ req requestSHA256, Serving runner h req requestSHA256 ∧
          Served h req.workloadID
      | .refused status error => Refusal runner h status error
      | .keepalive => Accepted h

section
variable {runner : Runner} {h : List AbrEvent} {req : ABRWorkloadRequestV2} {requestSHA256 : String}

theorem Serving.concat (hserving : Serving runner h req requestSHA256) (event : AbrEvent) :
    Serving runner (h ++ [event]) req requestSHA256 := by
  obtain ⟨request, hhead, hadmit⟩ := hserving
  refine ⟨request, ?_, hadmit⟩
  cases h with
  | nil => cases hhead
  | cons first rest => exact hhead

variable {record : WorkloadJournalV2} {event : AbrEvent} {serial : Nat}

theorem HasRead.concat {workloadID : String} (hread : HasRead h workloadID record)
    (event : AbrEvent) : HasRead (h ++ [event]) workloadID record := by
  rcases hread with hread | ⟨sha, disposition, hread⟩
  · exact .inl (List.mem_append_left _ hread)
  · exact .inr ⟨sha, disposition, List.mem_append_left _ hread⟩

theorem hasRead_load (h : List AbrEvent) (workloadID : String) (record : WorkloadJournalV2) :
    HasRead (h ++ [loaded workloadID record]) workloadID record :=
  .inl (List.mem_append_right _ (List.mem_singleton_self _))

theorem Accepted.concat (haccepted : Accepted h) (event : AbrEvent) : Accepted (h ++ [event]) := by
  obtain ⟨workloadID, sha, record, disposition, hne, hmem⟩ := haccepted
  exact ⟨workloadID, sha, record, disposition, hne, List.mem_append_left _ hmem⟩

/-- What stays true of an accepted request's program outside the mutex. -/
structure Outside (runner : Runner) (req : ABRWorkloadRequestV2) (requestSHA256 : String) (h : List AbrEvent) :
    Prop where
  serving : Serving runner h req requestSHA256
  accepted : Accepted h
  unlocked : currentSection h = none

theorem Outside.concat (hout : Outside runner req requestSHA256 h)
    (hplain : sectionStep none event = none) : Outside runner req requestSHA256 (h ++ [event]) :=
  ⟨hout.serving.concat event, hout.accepted.concat event,
    by rw [currentSection_concat, hout.unlocked, hplain]⟩

/-- A request's program that has read this journal of its workload. -/
structure Reading (runner : Runner) (req : ABRWorkloadRequestV2) (requestSHA256 : String)
    (record : WorkloadJournalV2) (h : List AbrEvent) : Prop where
  outside : Outside runner req requestSHA256 h
  read : HasRead h req.workloadID record

theorem Reading.concat (hreading : Reading runner req requestSHA256 record h)
    (hplain : sectionStep none event = none) : Reading runner req requestSHA256 record (h ++ [event]) :=
  ⟨hreading.outside.concat hplain, hreading.read.concat event⟩

theorem Outside.loads (hout : Outside runner req requestSHA256 h) :
    Reading runner req requestSHA256 record (h ++ [loaded req.workloadID record]) :=
  ⟨hout.concat rfl, hasRead_load h req.workloadID record⟩

/-! ## Responses -/

theorem refuse_obeys (hout : Outside runner req requestSHA256 h) (status : Nat) (error : String) :
    Obeys (abrRule runner) (fun h' _ => Outside runner req requestSHA256 h') (refuse status error) h :=
  ⟨⟨hout.unlocked, .later hout.accepted⟩, fun _ => hout.concat rfl⟩

theorem writeWorkUnitsTrailerV2_obeys (hreading : Reading runner req requestSHA256 record h) :
    Obeys (abrRule runner) (fun h' _ => Outside runner req requestSHA256 h') (writeWorkUnitsTrailerV2 record) h := by
  unfold writeWorkUnitsTrailerV2
  split
  · exact hreading.outside
  · rename_i units hunits
    refine ⟨⟨hreading.outside.unlocked, hreading.outside.accepted, req, requestSHA256, record,
      hreading.outside.serving, hreading.read, hunits⟩, ?_⟩
    intro _
    exact hreading.outside.concat rfl

theorem writeEvents_obeys {events : List StoredSSEEventV2}
    (hevents : ∀ event ∈ events, event ∈ record.progressEvents) (after last : Nat)
    (hreading : Reading runner req requestSHA256 record h) :
    Obeys (abrRule runner) (fun h' _ => Reading runner req requestSHA256 record h')
      (writeEvents after last events) h := by
  induction events generalizing last h with
  | nil => exact hreading
  | cons event events ih =>
    have hrest : ∀ other ∈ events, other ∈ record.progressEvents :=
      fun other hother => hevents other (List.mem_cons_of_mem _ hother)
    unfold writeEvents
    split
    · exact ih hrest last hreading
    · refine ⟨⟨hreading.outside.unlocked, hreading.outside.accepted, req, requestSHA256, record,
        hreading.outside.serving, hreading.read, .inl (hevents event List.mem_cons_self)⟩, ?_⟩
      intro written
      cases written with
      | false => exact hreading.concat rfl
      | true => exact ih hrest event.sequence (hreading.concat rfl)

theorem writeJournalEventsV2_obeys (after : Nat)
    (hreading : Reading runner req requestSHA256 record h) :
    Obeys (abrRule runner) (fun h' _ => Reading runner req requestSHA256 record h')
      (writeJournalEventsV2 record after) h := by
  unfold writeJournalEventsV2
  refine (writeEvents_obeys (fun _ hevent => hevent) after after hreading).bind ?_
  intro h' written hreading
  cases written with
  | none => exact hreading
  | some last =>
    dsimp only
    split
    · exact hreading
    · rename_i event hevent
      split
      · exact hreading
      · refine ⟨⟨hreading.outside.unlocked, hreading.outside.accepted, req, requestSHA256, record,
          hreading.outside.serving, hreading.read, .inr hevent⟩, ?_⟩
        intro written
        cases written <;> exact hreading.concat rfl

theorem follow_obeys (subscriber turns last : Nat) (hout : Outside runner req requestSHA256 h) :
    Obeys (abrRule runner) (fun h' _ => Outside runner req requestSHA256 h')
      (follow req.workloadID subscriber turns last) h := by
  induction turns generalizing last h with
  | zero => exact hout
  | succ turns ih =>
    refine ⟨hout.unlocked, ?_⟩
    intro selected
    cases selected with
    | gone => exact hout.concat rfl
    | tick =>
      have hnext : Outside runner req requestSHA256 (h ++ [⟨.select subscriber, .tick⟩]) := hout.concat rfl
      refine ⟨⟨hnext.unlocked, hnext.accepted⟩, ?_⟩
      intro written
      cases written with
      | false => exact (hout.concat rfl).concat rfl
      | true => exact ih last ((hout.concat rfl).concat rfl)
    | notified isOpen =>
      have hnext : Outside runner req requestSHA256 (h ++ [⟨.select subscriber, .notified isOpen⟩]) :=
        hout.concat rfl
      refine ⟨⟨.inl hnext.unlocked, .inl ⟨req, requestSHA256, hnext.serving, rfl⟩⟩, ?_⟩
      intro journal
      cases journal with
      | error err => exact hnext.concat rfl
      | ok record =>
        refine (writeJournalEventsV2_obeys last hnext.loads).bind ?_
        intro h' written hreading
        rcases written with _ | ⟨last', terminal⟩
        · exact hreading.outside
        · cases terminal with
          | true => exact writeWorkUnitsTrailerV2_obeys hreading
          | false =>
            cases isOpen with
            | true => exact ih last' hreading.outside
            | false => exact hreading.outside

theorem stream_obeys (turns : Nat) (subscription : Option Nat)
    (hreading : Reading runner req requestSHA256 record h) (hserved : Served h req.workloadID) :
    Obeys (abrRule runner) (fun h' _ => Outside runner req requestSHA256 h')
      (stream req.workloadID turns record subscription) h := by
  refine ⟨⟨hreading.outside.unlocked, hreading.outside.accepted, req, requestSHA256, hreading.outside.serving,
    hserved⟩, ?_⟩
  intro written
  refine (writeJournalEventsV2_obeys 0 (hreading.concat rfl)).bind ?_
  intro h' written hreading
  rcases written with _ | ⟨last, terminal⟩
  · exact hreading.outside
  · cases terminal with
    | true => exact writeWorkUnitsTrailerV2_obeys hreading
    | false =>
      cases subscription with
      | none => exact hreading.outside
      | some subscriber => exact follow_obeys subscriber turns last hreading.outside

/-! ## Subscriptions -/

structure Inside (runner : Runner) (req : ABRWorkloadRequestV2) (requestSHA256 : String) (calls : List AbrEvent)
    (h : List AbrEvent) : Prop where
  serving : Serving runner h req requestSHA256
  accepted : Accepted h
  locked : currentSection h = some calls

theorem Inside.concat {calls : List AbrEvent} (hin : Inside runner req requestSHA256 calls h)
    (hplain : sectionStep (some calls) event = some (calls ++ [event])) :
    Inside runner req requestSHA256 (calls ++ [event]) (h ++ [event]) :=
  ⟨hin.serving.concat event, hin.accepted.concat event, by rw [currentSection_concat, hin.locked, hplain]⟩

/-- What `Subscribe` has done for its result. -/
def Answered (h : List AbrEvent) (workloadID : String) : Except SubscribeError (Option Nat) → Prop
  | .ok (some subscriber) => (⟨.attach workloadID, subscriber⟩ : AbrEvent) ∈ h
  | .ok none => ∃ record, loaded workloadID record ∈ h ∧ record.state ≠ .inProgress
  | .error _ => True

theorem Answered.concat {result : Except SubscribeError (Option Nat)} {workloadID : String}
    (hanswered : Answered h workloadID result) (event : AbrEvent) :
    Answered (h ++ [event]) workloadID result := by
  rcases result with err | _ | subscriber
  · trivial
  · obtain ⟨record, hloaded, hstate⟩ := hanswered
    exact ⟨record, List.mem_append_left _ hloaded, hstate⟩
  · exact List.mem_append_left _ hanswered

/-- A request's program that is about to leave the mutex. -/
def Leaving (runner : Runner) (req : ABRWorkloadRequestV2) (requestSHA256 : String) (h : List AbrEvent)
    (result : Except SubscribeError (Option Nat)) : Prop :=
  Answered h req.workloadID result ∧ ∃ calls, Inside runner req requestSHA256 calls h ∧
    ∀ lease, calls.getLast? ≠ some (acquired lease)

theorem Inside.leaves {calls : List AbrEvent} {result : Except SubscribeError (Option Nat)}
    (hin : Inside runner req requestSHA256 (calls ++ [event]) h) (hlast : ∀ lease, event ≠ acquired lease)
    (hanswered : Answered h req.workloadID result) : Leaving runner req requestSHA256 h result := by
  refine ⟨hanswered, calls ++ [event], hin, ?_⟩
  intro lease hlease
  rw [List.getLast?_concat] at hlease
  exact hlast lease (Option.some.inj hlease)

theorem startExecution_obeys {count : Nat} (hin : Inside runner req requestSHA256
      [loaded req.workloadID record, lookedUp req.workloadID none count] h)
    (hstate : record.state = .inProgress) (hsha : record.requestSHA256 = requestSHA256) :
    Obeys (abrRule runner) (Leaving runner req requestSHA256)
      (startExecution runner.limit req requestSHA256 count) h := by
  unfold startExecution
  split
  · have hlooked : Inside runner req requestSHA256
        ([loaded req.workloadID record] ++ [lookedUp req.workloadID none count]) h := hin
    exact hlooked.leaves nofun trivial
  · rename_i hlimit
    have hlimit := Nat.lt_of_not_le hlimit
    refine ⟨⟨req.workloadID, record, count, hin.locked, hstate, hlimit⟩, ?_⟩
    intro answer
    cases answer with
    | error err =>
      cases err with
      | capacity => exact (hin.concat rfl).leaves nofun trivial
      | failure message => exact (hin.concat rfl).leaves nofun trivial
    | ok lease =>
      have hacquired : Inside runner req requestSHA256 [loaded req.workloadID record,
          lookedUp req.workloadID none count, acquired lease] (h ++ [acquired lease]) := hin.concat rfl
      refine ⟨⟨record, count, hacquired.locked, hstate, hsha, hlimit, hacquired.serving,
        hacquired.accepted⟩, ?_⟩
      intro serial
      let spawn : Spawn := ⟨req, requestSHA256, lease⟩
      have hstarted : Inside runner req requestSHA256 [loaded req.workloadID record,
          lookedUp req.workloadID none count, acquired lease, started spawn serial]
          (h ++ [acquired lease] ++ [started spawn serial]) := hacquired.concat rfl
      refine ⟨⟨hstarted.accepted, record, hstate, .inr ⟨spawn, serial, count, rfl, hstarted.locked⟩⟩, ?_⟩
      intro subscriber
      exact (hstarted.concat rfl).leaves nofun (List.mem_append_right _ (List.mem_singleton_self _))

theorem subscribeLocked_obeys (hin : Inside runner req requestSHA256 [] h) :
    Obeys (abrRule runner) (Leaving runner req requestSHA256)
      (subscribeLocked runner.limit req requestSHA256) h := by
  refine ⟨⟨.inr hin.locked, .inl ⟨req, requestSHA256, hin.serving, rfl⟩⟩, ?_⟩
  intro journal
  cases journal with
  | error err => exact (hin.concat rfl).leaves nofun trivial
  | ok record =>
    have hloaded : Inside runner req requestSHA256 [loaded req.workloadID record]
        (h ++ [loaded req.workloadID record]) := hin.concat rfl
    dsimp only [Prog.bind]
    split
    · exact (hin.concat rfl).leaves nofun trivial
    · rename_i hsha
      split
      · rename_i hstate
        exact (hin.concat rfl).leaves nofun
          ⟨record, List.mem_append_right _ (List.mem_singleton_self _), hstate⟩
      · rename_i hstate
        have hsha := not_not.mp hsha
        have hstate := not_not.mp hstate
        refine ⟨⟨record, hloaded.locked, hstate⟩, ?_⟩
        rintro ⟨found, count⟩
        have hfound : Inside runner req requestSHA256 [loaded req.workloadID record,
            lookedUp req.workloadID found count]
            (h ++ [loaded req.workloadID record] ++ [lookedUp req.workloadID found count]) :=
          hloaded.concat rfl
        cases found with
        | none => exact startExecution_obeys hfound hstate hsha
        | some execution =>
          dsimp only [Prog.bind]
          split
          · exact (hloaded.concat rfl).leaves nofun trivial
          · refine ⟨⟨hfound.accepted, record, hstate, .inl ⟨execution, count, hfound.locked⟩⟩, ?_⟩
            intro subscriber
            exact (hfound.concat rfl).leaves nofun (List.mem_append_right _ (List.mem_singleton_self _))

theorem subscribe_obeys (hout : Outside runner req requestSHA256 h) :
    Obeys (abrRule runner) (fun h' result => Outside runner req requestSHA256 h' ∧
        Answered h' req.workloadID result)
      (subscribe runner.limit req requestSHA256) h := by
  refine ⟨hout.unlocked, ?_⟩
  intro _
  have hin : Inside runner req requestSHA256 [] (h ++ [⟨.lock, ()⟩]) :=
    ⟨hout.serving.concat _, hout.accepted.concat _, by rw [currentSection_concat]; rfl⟩
  refine (subscribeLocked_obeys hin).bind ?_
  rintro h' result ⟨hanswered, calls, hleaving, hlast⟩
  refine ⟨⟨calls, hleaving.locked, hlast⟩, ?_⟩
  intro _
  exact ⟨⟨hleaving.serving.concat _, hleaving.accepted.concat _, by rw [currentSection_concat]; rfl⟩,
    hanswered.concat _⟩

theorem resume_obeys (turns : Nat) (hreading : Reading runner req requestSHA256 record h) :
    Obeys (abrRule runner) (fun _ _ => True) (resume runner turns req requestSHA256 record) h := by
  have hkept : Obeys (abrRule runner) (fun h' result => h <+: h' ∧ Outside runner req requestSHA256 h' ∧
      Answered h' req.workloadID result) (subscribe runner.limit req requestSHA256) h := (subscribe_obeys hreading.outside).extends
  refine hkept.bind ?_
  rintro h' result ⟨⟨rest, rfl⟩, hout, hanswered⟩
  cases result with
  | error err =>
    cases err with
    | capacity => exact (refuse_obeys hout _ _).weaken fun _ _ _ => trivial
    | failed message => exact (refuse_obeys hout _ _).weaken fun _ _ _ => trivial
    | unavailable err => exact (refuse_obeys hout _ _).weaken fun _ _ _ => trivial
  | ok subscription =>
    cases subscription with
    | none =>
      refine ⟨⟨.inl hout.unlocked, .inl ⟨req, requestSHA256, hout.serving, rfl⟩⟩, ?_⟩
      intro journal
      cases journal with
      | error err => exact (refuse_obeys (hout.concat rfl) _ _).weaken fun _ _ _ => trivial
      | ok record =>
        obtain ⟨ended, hended, hstate⟩ := hanswered
        have hserved : Served (h ++ rest ++ [loaded req.workloadID record]) req.workloadID :=
          .ended (List.mem_append_left _ hended) hstate
        exact (stream_obeys turns none hout.loads hserved).weaken fun _ _ _ => trivial
    | some subscriber =>
      have hread : HasRead (h ++ rest) req.workloadID record := by
        rcases hreading.read with hread | ⟨sha, disposition, hread⟩
        · exact .inl (List.mem_append_left _ hread)
        · exact .inr ⟨sha, disposition, List.mem_append_left _ hread⟩
      refine (stream_obeys turns (some subscriber) ⟨hout, hread⟩ (.attached hanswered)).bind ?_
      intro h' _ hout
      exact ⟨hout.unlocked, fun _ => trivial⟩

theorem serve_obeys {request : HttpRequest} (turns : Nat)
    (hadmitted : admitRequest runner request = .ok (req, requestSHA256)) :
    Obeys (abrRule runner) (fun _ _ => True) (serve runner turns req requestSHA256) [⟨.arrive request, ()⟩] := by
  refine ⟨⟨request, req, rfl, hadmitted, rfl⟩, ?_⟩
  intro journal
  rcases journal with err | ⟨record, disposition⟩
  · exact ⟨⟨rfl, .unavailable rfl⟩, fun _ => trivial⟩
  · have hserving : Serving runner ([⟨.arrive request, ()⟩] ++ [⟨.store (.loadOrCreate req.workloadID requestSHA256),
        .ok (record, disposition)⟩]) req requestSHA256 := ⟨request, rfl, hadmitted⟩
    have hread : HasRead ([⟨.arrive request, ()⟩] ++ [⟨.store (.loadOrCreate req.workloadID requestSHA256),
        .ok (record, disposition)⟩]) req.workloadID record :=
      .inr ⟨requestSHA256, disposition, List.mem_append_right _ (List.mem_singleton_self _)⟩
    have haccepted : disposition ≠ .rejectIDReuse → Accepted ([⟨.arrive request, ()⟩] ++
        [⟨.store (.loadOrCreate req.workloadID requestSHA256), .ok (record, disposition)⟩]) :=
      fun hne => ⟨_, _, record, disposition, hne, List.mem_append_right _ (List.mem_singleton_self _)⟩
    cases disposition with
    | rejectIDReuse => exact ⟨⟨rfl, .reuse rfl⟩, fun _ => trivial⟩
    | replayTerminal =>
      refine (stream_obeys turns none ⟨⟨hserving, haccepted nofun, rfl⟩, hread⟩ ?_).weaken fun _ _ _ => trivial
      exact .replayed (List.mem_append_right _ (List.mem_singleton_self _))
    | resumeExisting => exact resume_obeys turns ⟨⟨hserving, haccepted nofun, rfl⟩, hread⟩

theorem serveHTTP_obeys (turns : Nat) (request : HttpRequest) :
    Obeys (abrRule runner) (fun _ _ => True) (serveHTTP runner turns request) [] := by
  refine ⟨rfl, ?_⟩
  intro _
  dsimp only [Prog.bind]
  split
  · rename_i status error hrefused
    exact ⟨⟨rfl, .early rfl hrefused⟩, fun _ => trivial⟩
  · rename_i req requestSHA256 hadmitted
    exact serve_obeys turns hadmitted

/-! ## Executions -/

/-- The program of an execution, which never takes the mutex. -/
structure Working (serial : Nat) (req : ABRWorkloadRequestV2) (requestSHA256 : String) (h : List AbrEvent) :
    Prop where
  executing : Executing h serial req requestSHA256
  unlocked : currentSection h = none

theorem Working.concat (hworking : Working serial req requestSHA256 h)
    (hplain : sectionStep none event = none) (hfinish : ∀ workloadID, event.effect ≠ .finish workloadID) :
    Working serial req requestSHA256 (h ++ [event]) := by
  obtain ⟨⟨hhead, hnone⟩, hunlocked⟩ := hworking
  refine ⟨⟨?_, ?_⟩, ?_⟩
  · cases h with
    | nil => cases hhead
    | cons first rest => exact hhead
  · intro other hother
    rcases List.mem_append.mp hother with hother | hother
    · exact hnone other hother
    · rw [List.mem_singleton.mp hother]
      exact hfinish
  · rw [currentSection_concat, hunlocked, hplain]

theorem Working.stores (hworking : Working serial req requestSHA256 h) {op : Operation}
    (hid : op.workloadID = req.workloadID) (hfits : op.Fits)
    (hload : ∀ workloadID, op ≠ .load workloadID)
    (hcreate : ∀ workloadID sha, op ≠ .loadOrCreate workloadID sha) :
    abrRule runner h (.store op) := by
  cases op with
  | load workloadID => exact absurd rfl (hload workloadID)
  | loadOrCreate workloadID sha => exact absurd rfl (hcreate workloadID sha)
  | _ => exact ⟨hfits, hworking.unlocked, serial, req, requestSHA256, hworking.executing, hid.symm⟩

theorem Working.notifies (hworking : Working serial req requestSHA256 h) :
    abrRule runner h (.notify req.workloadID) :=
  ⟨hworking.unlocked, serial, req, requestSHA256, hworking.executing, rfl⟩

theorem reporterCall_obeys (e : ReporterEffect) (h : List AbrEvent)
    (hworking : Working serial req requestSHA256 h) :
    Obeys (abrRule runner) (fun h' _ => Working serial req requestSHA256 h')
      (reporterCall req.workloadID serial e) h := by
  cases e with
  | progress phase overallProgress rendition frames =>
    refine ⟨hworking.stores rfl trivial nofun nofun, ?_⟩
    intro answer
    cases answer with
    | error err => exact hworking.concat rfl nofun
    | ok event =>
      have hnext : Working serial req requestSHA256 (h ++ [⟨.store (.appendProgress req.workloadID phase
          overallProgress rendition frames), .ok event⟩]) := hworking.concat rfl nofun
      exact ⟨hnext.notifies, fun _ => hnext.concat rfl nofun⟩
  | prepared prepared fits =>
    exact ⟨hworking.stores rfl fits nofun nofun, fun _ => hworking.concat rfl nofun⟩
  | delivered delivered fits =>
    exact ⟨hworking.stores rfl fits nofun nofun, fun _ => hworking.concat rfl nofun⟩
  | preparedManifest prepared =>
    exact ⟨hworking.stores rfl trivial nofun nofun, fun _ => hworking.concat rfl nofun⟩
  | deliveredManifest artifactURI =>
    exact ⟨hworking.stores rfl trivial nofun nofun, fun _ => hworking.concat rfl nofun⟩
  | contextErr => exact ⟨hworking.unlocked, fun _ => hworking.concat rfl nofun⟩

theorem Working.finishes (hworking : Working serial req requestSHA256 h)
    (hsettled : Settled runner req requestSHA256 serial h) : abrRule runner h (.finish req.workloadID) :=
  ⟨hworking.unlocked, serial, req, requestSHA256, hworking.executing, rfl, hsettled⟩

theorem settled_obeys {recorded : Bool} (hworking : Working serial req requestSHA256 h)
    (hsettled : Settled runner req requestSHA256 serial
      (h ++ if recorded then [⟨.notify req.workloadID, ()⟩] else [])) :
    Obeys (abrRule runner) (fun _ _ => True) (if recorded then do
        perform (.notify req.workloadID)
        let _ ← perform (.finish req.workloadID)
      else do
        let _ ← perform (.finish req.workloadID)) h := by
  cases recorded with
  | true =>
    have hnext : Working serial req requestSHA256 (h ++ [⟨.notify req.workloadID, ()⟩]) :=
      hworking.concat rfl nofun
    exact ⟨hworking.notifies, fun _ => ⟨hnext.finishes hsettled, fun _ => trivial⟩⟩
  | false =>
    rw [if_neg Bool.false_ne_true, List.append_nil] at hsettled
    exact ⟨hworking.finishes hsettled, fun _ => trivial⟩

theorem settle_obeys {outcome : ExecutorOutcome} (hworking : Working serial req requestSHA256 h) :
    Obeys (abrRule runner) (fun h' recorded => Working serial req requestSHA256 h' ∧
        Settled runner req requestSHA256 serial
          (h' ++ if recorded then [⟨.notify req.workloadID, ()⟩] else []))
      (settle runner req requestSHA256 outcome) (h ++ [⟨.contextErr serial, false⟩]) := by
  have hchecked : Working serial req requestSHA256 (h ++ [⟨.contextErr serial, false⟩]) :=
    hworking.concat rfl nofun
  cases outcome with
  | ok result =>
    refine ⟨hchecked.stores rfl trivial nofun nofun, ?_⟩
    intro answer
    refine ⟨hchecked.concat rfl nofun, ?_⟩
    have hsettled : Settled runner req requestSHA256 serial _ := .recorded (.result h result answer)
    simpa only [List.append_assoc, List.cons_append, List.nil_append] using hsettled
  | error err =>
    refine ⟨⟨.inl hchecked.unlocked, .inr ⟨serial, req, requestSHA256, hchecked.executing, rfl⟩⟩, ?_⟩
    intro journal
    have hloaded : Working serial req requestSHA256 (h ++ [⟨.contextErr serial, false⟩] ++
        [⟨.store (.load req.workloadID), journal⟩]) := hchecked.concat rfl nofun
    refine ⟨hloaded.stores rfl trivial nofun nofun, ?_⟩
    intro answer
    refine ⟨hloaded.concat rfl nofun, ?_⟩
    have hsettled : Settled runner req requestSHA256 serial _ := .recorded (.error h err journal answer)
    simpa only [List.append_assoc, List.cons_append, List.nil_append] using hsettled

theorem run_obeys (execute : ReporterProg ExecutorOutcome)
    (hworking : Working serial req requestSHA256 h) :
    Obeys (abrRule runner) (fun _ _ => True) (run runner req requestSHA256 serial execute) h := by
  refine (Obeys.handle reporterCall_obeys execute hworking).bind ?_
  intro h' outcome hworking
  refine ⟨hworking.unlocked, ?_⟩
  intro cancelled
  cases cancelled with
  | true =>
    have hchecked : Working serial req requestSHA256 (h' ++ [⟨.contextErr serial, true⟩]) :=
      hworking.concat rfl nofun
    exact ⟨hchecked.finishes (.cancelled h'), fun _ => trivial⟩
  | false =>
    refine (settle_obeys hworking).bind ?_
    rintro h'' recorded ⟨hworking, hsettled⟩
    exact settled_obeys hworking hsettled

theorem running_obeys (execute : ReporterProg ExecutorOutcome) :
    Obeys (abrRule runner) (fun _ _ => True) (running runner req requestSHA256 execute) [] := by
  refine ⟨rfl, ?_⟩
  intro serial
  refine run_obeys execute ⟨⟨rfl, ?_⟩, rfl⟩
  intro event hevent
  rw [List.mem_singleton.mp hevent]
  exact nofun

theorem abr_obeys {p : AbrProg Unit} (hp : AbrStarts runner p) :
    Obeys (abrRule runner) (fun _ _ => True) p [] := by
  cases hp with
  | serveHTTP turns request => exact serveHTTP_obeys turns request
  | running req requestSHA256 execute => exact running_obeys execute

end

end LivepeerTranscode.AbrRunner
