import LivepeerTranscode.LiveRunner.ServerRuns

/-!
# How a session ends

A session is stopped once: the close reason and the terminal state that were recorded first
are the ones its terminal event carries, whoever finalizes it. After that event the outbox
gets no other.
-/

namespace LivepeerTranscode.LiveRunner
open Actors hiding World Step Reachable
open Checked GoText Interaction
set_option autoImplicit false

variable {start : Directory} {now : Time} {events : List RunnerEventV1}

def Entry.stopped (entry : Entry) (id : String) : Option (String × SessionState) :=
  match entry.before.lookup id, entry.after.lookup id with
  | some before, some after =>
    if before.stopping = false ∧ after.stopping = true then
      after.pendingTerminalState.map fun state => (after.pendingCloseReason, state)
    else none
  | _, _ => none

def recordedStops (log : List Entry) (id : String) : List (String × SessionState) :=
  log.filterMap fun entry => entry.stopped id

theorem recordedStops_append (log : List Entry) (entry : Entry) (id : String) :
    recordedStops (log ++ [entry]) id = recordedStops log id ++ (entry.stopped id).toList := by
  rw [recordedStops, List.filterMap_append]
  cases hstop : entry.stopped id <;> simp [recordedStops, hstop]

def AllActive (events : List RunnerEventV1) : Prop := ∀ event ∈ events, event.state = .active

/-- How far a session has come: its standing, the events appended to its outbox and the stops
recorded for it. -/
inductive Phase : Option Standing → List RunnerEventV1 → List (String × SessionState) → Prop where
  | absent : Phase none [] []
  | running {s : Standing} {events : List RunnerEventV1} : s.running → AllActive events →
      Phase (some s) events []
  | stopping {s : Standing} {state : SessionState} {events : List RunnerEventV1} : s.state = .active →
      s.stopping = true → s.pendingTerminalState = some state → state ≠ .active → AllActive events →
      Phase (some s) events [(s.pendingCloseReason, state)]
  | closed {s : Standing} {event : RunnerEventV1} {front : List RunnerEventV1} : s.state ≠ .active →
      s.stopping = false → AllActive front → event.state = s.state →
      event.closeReason = some s.closeReason → Phase (some s) (front ++ [event]) [(s.closeReason, s.state)]

def World.PhaseOf (w : World) (id : String) : Prop :=
  Phase ((w.dir.lookup id).map SessionRecordV1.standing) (appendedEvents w.log id) (recordedStops w.log id)

section
variable {P : Platform} {config : LiveRunnerServerV1} {w : World} {id : String} {call : StoreCall}
  {faults : Faults} {l l' : Ledger}

/-- The events a move appends: none, or one that says what the state is afterwards. -/
theorem Ledger.Move.appended (hmove : Ledger.Move P call l l') :
    (l'.pendingEvents.drop l.pendingEvents.length = [] ∧ l'.state = l.state) ∨
    ∃ event, l'.pendingEvents.drop l.pendingEvents.length = [event] ∧ l.state = .active ∧
      l'.state = event.state ∧ (event.state ≠ .active → ∃ target, call = .advance target event) := by
  cases hmove with
  | keep => exact .inl ⟨List.drop_length, rfl⟩
  | @emit _ _ event hrun _ _ hactive _ =>
    refine .inr ⟨event, by simp [Ledger.push], hrun.1, ?_, fun h => absurd hactive h⟩
    rw [hactive]
    exact hrun.1
  | meter hrun _ _ hcounted =>
    cases hcounted with
    | quiet _ => exact .inl ⟨List.drop_length, rfl⟩
    | @tick event _ _ _ hactive _ =>
      refine .inr ⟨event, by simp [Ledger.push, Ledger.setUsage, Ledger.meter], hrun.1, ?_,
        fun h => absurd hactive h⟩
      rw [hactive]
      exact hrun.1
  | @advance target event _ hactive _ _ _ _ =>
    refine .inr ⟨event, ?_, hactive, ?_, fun _ => ⟨target, rfl⟩⟩
    · rw [Ledger.advanced_pending]
      simp
    · unfold Ledger.advanced
      dsimp only
      split
      · rename_i hstate
        rw [hstate]
        exact hactive
      · rfl
  | stop _ => exact .inl ⟨List.drop_length, rfl⟩
  | @remove _ _ event rest _ hpending =>
    refine .inl ⟨?_, rfl⟩
    rw [hpending]
    simp
  | forget _ _ => exact .inl ⟨List.drop_length, rfl⟩

variable {record : SessionRecordV1} {event : RunnerEventV1} {secrets : Option SessionSecretsV1}
  {calls : List RunnerEvent}

theorem standing_upgrade (h : record.stopping = true → record.pendingTerminalState ≠ none) :
    (record.upgrade P).standing = record.standing := by
  have houtput : (record.defaultOutputState P).standing = record.standing := by
    unfold SessionRecordV1.defaultOutputState
    split <;> rfl
  rw [SessionRecordV1.upgrade, SessionRecordV1.defaultTerminalState, if_neg, houtput]
  rintro ⟨hstopping, hnone⟩
  have hsame := congrArg Standing.stopping houtput
  have hpending := congrArg Standing.pendingTerminalState houtput
  exact h (hsame.symm.trans hstopping) (hpending.symm.trans hnone)

theorem stopped_same {entry : Entry} (h : entry.after.lookup id = entry.before.lookup id) :
    entry.stopped id = none := by
  unfold Entry.stopped
  rw [h]
  cases entry.before.lookup id with
  | none => rfl
  | some record =>
    dsimp only
    rw [if_neg]
    rintro ⟨hbefore, hafter⟩
    rw [hbefore] at hafter
    cases hafter

theorem World.PhaseOf.same (h : w.PhaseOf id)
    (hsame : (call.run P faults w.dir).2.lookup id = w.dir.lookup id) : (w.call P call faults).PhaseOf id := by
  have happended : appendedEvents (w.call P call faults).log id = appendedEvents w.log id := by
    rw [World.call, appendedEvents_append, appended_same hsame, List.append_nil]
  have hstops : recordedStops (w.call P call faults).log id = recordedStops w.log id := by
    rw [World.call, recordedStops_append, stopped_same hsame]
    exact List.append_nil _
  rw [World.PhaseOf, happended, hstops]
  exact hsame ▸ h

theorem AllActive.append {events more : List RunnerEventV1} (h : AllActive events)
    (hmore : AllActive more) : AllActive (events ++ more) := by
  intro event hevent
  rcases List.mem_append.mp hevent with hold | hnew
  · exact h event hold
  · exact hmore event hnew

theorem Ledger.Move.allActive (hmove : Ledger.Move P call l l') (hstate : l'.state = l.state) :
    AllActive (l'.pendingEvents.drop l.pendingEvents.length) := by
  rcases hmove.appended with ⟨hnone, -⟩ | ⟨event, hone, hactive, hafter, -⟩
  · rw [hnone]
    intro event hevent
    cases hevent
  · rw [hone]
    intro found hfound
    rw [List.mem_singleton.mp hfound, ← hafter, hstate, hactive]

theorem Ledger.Move.quiet (hmove : Ledger.Move P call l l') (hstate : l.state ≠ .active) :
    l'.pendingEvents.drop l.pendingEvents.length = [] := by
  rcases hmove.appended with ⟨hnone, -⟩ | ⟨event, -, hactive, -⟩
  · exact hnone
  · exact absurd hactive hstate

def Standing.stopAfter (s s' : Standing) : Option (String × SessionState) :=
  if s.stopping = false ∧ s'.stopping = true then
    s'.pendingTerminalState.map fun state => (s'.pendingCloseReason, state)
  else none

theorem stopAfter_same {s s' : Standing} (h : s'.stopping = s.stopping) : s.stopAfter s' = none := by
  simp [Standing.stopAfter, h]

/-- A terminal event carries the stop that was recorded. -/
def MatchesStop (stops : List (String × SessionState)) (call : StoreCall) : Prop :=
  ∀ id event, call = .advance id event → event.state ≠ .active →
    ∃ reason, event.closeReason = some reason ∧ stops = [(reason, event.state)]

theorem Phase.moved {s s' : Standing} {stops : List (String × SessionState)}
    (h : Phase (some s) events stops) (hmatch : MatchesStop stops call) (hmove : Standing.Move P call s s')
    (hledger : Ledger.Move P call l l') (hbefore : l.state = s.state) (hafter : l'.state = s'.state) :
    Phase (some s') (events ++ l'.pendingEvents.drop l.pendingEvents.length)
      (stops ++ (s.stopAfter s').toList) := by
  have hactive : s'.state = s.state → AllActive (l'.pendingEvents.drop l.pendingEvents.length) :=
    fun hstate => hledger.allActive (hafter.trans (hstate.trans hbefore.symm))
  cases h with
  | running hrun hevents =>
    have hkeep : s'.running → Phase (some s') (events ++ l'.pendingEvents.drop l.pendingEvents.length)
        ([] ++ (s.stopAfter s').toList) := by
      intro hrunning
      rw [stopAfter_same (hrunning.2.trans hrun.2.symm)]
      exact .running hrunning (hevents.append (hactive (hrunning.1.trans hrun.1.symm)))
    cases hmove with
    | keep => exact hkeep hrun
    | issue => exact hkeep hrun
    | activate => exact hkeep hrun
    | @stop _ _ reason target _ hcall =>
      have htarget : target ≠ .active := by
        unfold StoreCall.stops at hcall
        split at hcall <;> cases hcall <;> decide
      rw [Standing.stopAfter, if_pos ⟨hrun.2, rfl⟩]
      exact .stopping hrun.1 rfl rfl htarget (hevents.append (hactive rfl))
    | close _ hne _ =>
      obtain ⟨reason, -, hrecorded⟩ := hmatch _ _ rfl hne
      cases hrecorded
    | forget hne => exact absurd hrun.1 hne
  | stopping hopen hstopping hstate hne hevents =>
    have hnot : ¬ s.running := fun hrun => by cases hrun.2.symm.trans hstopping
    cases hmove with
    | keep =>
      rw [stopAfter_same rfl]
      exact .stopping hopen hstopping hstate hne (hevents.append (hactive rfl))
    | issue hrun _ _ _ => exact absurd hrun hnot
    | activate hrun => exact absurd hrun hnot
    | stop hrun _ => exact absurd hrun hnot
    | @close _ event _ _ hterminal _ =>
      obtain ⟨reason, hreason, hrecorded⟩ := hmatch _ event rfl hterminal
      have hlast : l'.pendingEvents.drop l.pendingEvents.length = [event] := by
        rcases hledger.appended with ⟨-, hkept⟩ | ⟨found, hone, -, hfound, hadvance⟩
        · exact absurd (hafter.symm.trans (hkept.trans (hbefore.trans hopen))) hterminal
        · obtain ⟨_, heq⟩ := hadvance fun h => hterminal (hafter.symm.trans (hfound.trans h))
          cases heq
          exact hone
      rw [hlast, hrecorded, Standing.stopAfter, if_neg (by rw [hstopping]; nofun), hreason]
      exact .closed hterminal rfl hevents rfl hreason
    | forget hclosed => exact absurd hopen hclosed
  | closed hne hstopping hfront hstate hreason =>
    rw [hledger.quiet (hbefore ▸ hne), List.append_nil]
    have hnot : ¬ s.running := fun hrun => hne hrun.1
    cases hmove with
    | keep =>
      rw [stopAfter_same rfl]
      exact .closed hne hstopping hfront hstate hreason
    | issue hrun _ _ _ => exact absurd hrun hnot
    | activate hrun => exact absurd hrun hnot
    | stop hrun _ => exact absurd hrun hnot
    | close hopen _ _ => exact absurd hopen hne
    | forget _ =>
      have hsame : s.stopAfter { s with sealedSecrets := none } = none := stopAfter_same rfl
      rw [hsame]
      exact .closed hne hstopping hfront hstate hreason

theorem Phase.settled {stops : List (String × SessionState)}
    (h : Phase (some record.standing) events stops) : (record.upgrade P).standing = record.standing := by
  apply standing_upgrade
  intro hstopping
  cases h with
  | running hrun _ => cases hrun.2.symm.trans hstopping
  | stopping _ _ hstate _ _ => exact fun hnone => by cases hnone.symm.trans hstate
  | closed _ hnot _ _ _ => cases hnot.symm.trans hstopping

theorem World.PhaseOf.found (h : w.PhaseOf id) (hfile : w.dir.lookup id = some record) :
    Phase (some record.standing) (appendedEvents w.log id) (recordedStops w.log id) := by
  rw [World.PhaseOf, hfile] at h
  exact h

theorem World.PhaseOf.after (h : w.PhaseOf id) (hmatch : call.session = some id →
    MatchesStop (recordedStops w.log id) call) (faults : Faults) : (w.call P call faults).PhaseOf id := by
  cases run_moves (P := P) call faults w.dir id with
  | same hsame => exact h.same hsame
  | @move file new hfile hnew hsession hmove =>
    have hphase := h.found hfile
    have hstanding := hmove.standing
    rw [hphase.settled] at hstanding
    have hmoved := hphase.moved (hmatch hsession) hstanding hmove.onFile rfl rfl
    have happended : (w.entry P call faults).appended id =
        new.ledger.pendingEvents.drop file.ledger.pendingEvents.length := by
      simp [Entry.appended, World.entry, pendingAt, hfile, hnew, SessionRecordV1.ledger]
    have hstopped : (w.entry P call faults).stopped id = file.standing.stopAfter new.standing := by
      simp only [Entry.stopped, World.entry, hfile, hnew]
      rfl
    rw [World.PhaseOf, World.call, appendedEvents_append, recordedStops_append, happended, hstopped]
    exact hnew ▸ hmoved
  | @create request response grant now hnone hnew _ _ =>
    have happended : (w.entry P call faults).appended id = [] := by
      simp [Entry.appended, World.entry, pendingAt, hnew, hnone, newSessionRecord]
    have hstopped : (w.entry P call faults).stopped id = none := by
      simp [Entry.stopped, World.entry, hnone]
    rw [World.PhaseOf, hnone] at h
    rw [World.PhaseOf, World.call, appendedEvents_append, recordedStops_append, happended, hstopped,
      List.append_nil]
    dsimp only
    rw [hnew]
    generalize appendedEvents w.log id = events at h
    generalize recordedStops w.log id = stops at h
    cases h
    exact .running ⟨rfl, rfl⟩ (List.forall_mem_nil _)

/-! ## Over a run -/

theorem execute_cases {e : Effect} {answer : e.Answer} {w' : World}
    (hact : execute P .method w e answer w') :
    (∃ call faults, e = .store call ∧ w' = w.call P call faults) ∨
      (w'.dir = w.dir ∧ w'.log = w.log ∧ ∀ call, e ≠ .store call) := by
  cases e with
  | store call =>
    obtain ⟨faults, -, rfl⟩ := hact
    exact .inl ⟨call, faults, rfl, rfl⟩
  | post =>
    cases hact
    exact .inr ⟨rfl, rfl, fun _ heq => Effect.noConfusion heq⟩
  | _ =>
    cases hact
    exact .inr ⟨rfl, rfl, fun _ heq => Effect.noConfusion heq⟩

theorem World.PhaseOf.stops (h : w.PhaseOf id) : (recordedStops w.log id).length ≤ 1 ∧
    ∀ stop ∈ recordedStops w.log id, stop.2 ≠ .active := by
  unfold World.PhaseOf at h
  generalize (w.dir.lookup id).map SessionRecordV1.standing = s at h
  generalize appendedEvents w.log id = events at h
  generalize recordedStops w.log id = stops at h ⊢
  cases h with
  | absent => exact ⟨Nat.zero_le _, nofun⟩
  | running => exact ⟨Nat.zero_le _, nofun⟩
  | stopping _ _ _ hne _ => exact ⟨Nat.le_refl _, fun stop hstop => by rwa [List.mem_singleton.mp hstop]⟩
  | closed hne _ _ _ _ => exact ⟨Nat.le_refl _, fun stop hstop => by rwa [List.mem_singleton.mp hstop]⟩

theorem World.PhaseOf.stops_stay (h : (w.call P call faults).PhaseOf id) {stop : String × SessionState}
    (hstop : recordedStops w.log id = [stop]) :
    recordedStops (w.call P call faults).log id = [stop] := by
  have hle := h.stops.1
  rw [World.call, recordedStops_append, hstop] at hle ⊢
  cases hmore : (w.entry P call faults).stopped id with
  | none => rfl
  | some more =>
    rw [hmore] at hle
    simp at hle

/-- What a load of the session says about the stop that was recorded. -/
structure LoadMeans (record : SessionRecordV1) (stops : List (String × SessionState)) : Prop where
  stopping : ¬ record.terminal → record.stopping = true → ∃ state,
    record.pendingTerminalState = some state ∧ stops = [(record.pendingCloseReason, state)]
  closed : record.terminal → stops = [(record.closeReason, record.state)]

structure Ending (id : String) (w : World) (log : RunnerLog) : Prop where
  phase : w.PhaseOf id
  named : ∀ n target record secrets, (n, ⟨.store (.load target), .ok (record, secrets)⟩) ∈ log →
    record.brokerSessionID = target
  loads : ∀ n record secrets, (n, ⟨.store (.load id), .ok (record, secrets)⟩) ∈ log →
    LoadMeans record (recordedStops w.log id)

theorem terminal_iff : record.terminal ↔ record.state ≠ .active := by
  unfold SessionRecordV1.terminal
  cases record.state <;> simp

theorem World.PhaseOf.loadMeans (h : w.PhaseOf id) {readFails : Bool}
    (hload : loadLocked P readFails w.dir id = .ok (record, secrets)) :
    LoadMeans record (recordedStops w.log id) := by
  obtain ⟨file, hfile, hrecord, -, -⟩ := loadLocked_spec hload
  have hphase := h.found hfile
  rw [← hphase.settled (P := P), ← hrecord] at hphase
  generalize recordedStops w.log id = stops at hphase ⊢
  generalize appendedEvents w.log id = events at hphase
  cases hphase with
  | running hrun _ =>
    refine ⟨fun _ hstop => ?_, fun hterminal => absurd hrun.1 (terminal_iff.mp hterminal)⟩
    cases hrun.2.symm.trans hstop
  | stopping hactive _ hstate _ _ =>
    exact ⟨fun _ _ => ⟨_, hstate, rfl⟩, fun hterminal => absurd hactive (terminal_iff.mp hterminal)⟩
  | closed hne _ _ _ _ => exact ⟨fun hopen => absurd (terminal_iff.mpr hne) hopen, fun _ => rfl⟩

theorem Ending.matches {log : RunnerLog} {n : Nat} (h : Ending id w log)
    (hrule : serverRule P (history n log) (.store call)) (hsession : call.session = some id) :
    MatchesStop (recordedStops w.log id) call := by
  rintro _ event rfl hne
  cases hsession
  rcases hrule with hactive | ⟨target, record, secrets, now, hmem, hid, hterminal, hstopping, rfl⟩
  · exact absurd hactive hne
  · have hload := mem_history.mp hmem
    have hnamed := h.named n target record secrets hload
    rw [← hid] at hnamed
    subst hnamed
    obtain ⟨state, hstate, hstops⟩ := (h.loads n record secrets hload).stopping hterminal hstopping
    refine ⟨record.pendingCloseReason, rfl, ?_⟩
    rw [hstops]
    simp [terminalEvent, hstate]

theorem LoadMeans.later (h : LoadMeans record (recordedStops w.log id))
    (hphase : (w.call P call faults).PhaseOf id) :
    LoadMeans record (recordedStops (w.call P call faults).log id) := by
  constructor
  · intro hterminal hstopping
    obtain ⟨state, hstate, hstops⟩ := h.stopping hterminal hstopping
    exact ⟨state, hstate, hphase.stops_stay hstops⟩
  · intro hterminal
    exact hphase.stops_stay (h.closed hterminal)

theorem Ending.act {log : RunnerLog} {n : Nat} {e : Effect} {answer : e.Answer} {w' : World}
    (h : Ending id w log) (hrule : serverRule P (history n log) e)
    (hact : execute P .method w e answer w') : Ending id w' (log ++ [(n, ⟨e, answer⟩)]) := by
  rcases execute_cases hact with ⟨call, faults, rfl, rfl⟩ | ⟨hdir, hlog, hother⟩
  · have hphase := h.phase.after (h.matches hrule) faults (P := P)
    refine ⟨hphase, ?_, ?_⟩
    · intro m target record secrets hmem
      rcases List.mem_append.mp hmem with hold | hnew
      · exact h.named m target record secrets hold
      · cases List.mem_singleton.mp hnew
        obtain ⟨faults', hanswer, -⟩ := hact
        obtain ⟨_, _, _, hid, _⟩ := loadLocked_spec (P := P) hanswer.symm
        exact hid
    · intro m record secrets hmem
      rcases List.mem_append.mp hmem with hold | hnew
      · exact (h.loads m record secrets hold).later hphase
      · cases List.mem_singleton.mp hnew
        obtain ⟨faults', hanswer, -⟩ := hact
        exact (h.phase.loadMeans (P := P) hanswer.symm).later hphase
  · refine ⟨by rw [World.PhaseOf, hdir, hlog]; exact h.phase, ?_, ?_⟩
    · intro m target record secrets hmem
      rcases List.mem_append.mp hmem with hold | hnew
      · exact h.named m target record secrets hold
      · cases List.mem_singleton.mp hnew
        exact absurd rfl (hother _)
    · intro m record secrets hmem
      rw [hlog]
      rcases List.mem_append.mp hmem with hold | hnew
      · exact h.loads m record secrets hold
      · cases List.mem_singleton.mp hnew
        exact absurd rfl (hother _)

theorem Runs.ending {c : RunnerScene} (hstart : start.lookup id = none)
    (h : Runs P config start c) : Ending id c.shared c.log := by
  refine Actors.Reachable.invariant (I := Ending id) (fun p hp => server_obeys hp) ?_ ?_ h
  · rintro _ rfl
    exact ⟨by rw [World.PhaseOf, hstart]; exact .absent, fun _ _ _ _ hmem => absurd hmem List.not_mem_nil,
      fun _ _ _ hmem => absurd hmem List.not_mem_nil⟩
  · intro w log n e answer w' hending hrule hact
    exact hending.act hrule hact

/-! ## Finalizers -/

/-- The actor has run a finalizer of the session to its end, and it returned this record. -/
def Finalized (P : Platform) (n : Nat) (id : String) (record : SessionRecordV1) (log : RunnerLog) : Prop :=
  ∃ front calls back now, history n log = front ++ calls ++ back ∧
    Reaches (finalizeLiveTerminationV1 P id now) calls (.pure (.ok record))

theorem reaches_ask {α : Type} {f : Result call.Answer → RunnerProg α} {a : α}
    (h : Reaches (ask call >>= f) calls (.pure a)) :
    ∃ answer rest, calls = ⟨.store call, answer⟩ :: rest ∧ Reaches (f answer) rest (.pure a) := by
  cases h with
  | step answer hrest => exact ⟨answer, _, rfl, hrest⟩

theorem reaches_pure {α : Type} {a b : α}
    (h : Reaches (.pure a : RunnerProg α) calls (.pure b)) : calls = [] ∧ a = b := by
  cases h
  exact ⟨rfl, rfl⟩

theorem loadRecord_returns (h : Reaches (loadRecord id) calls (.pure (.ok record))) :
    ∃ secrets, calls = [⟨.store (.load id), .ok (record, secrets)⟩] := by
  obtain ⟨answer, rest, rfl, hrest⟩ := reaches_ask h
  rcases answer with e | ⟨found, secrets⟩
  · cases (reaches_pure hrest).2
  · obtain ⟨rfl, heq⟩ := reaches_pure hrest
    cases heq
    exact ⟨secrets, rfl⟩

/-- A finalizer returns what it loads: a session that had ended, or the one it ended. -/
theorem finalize_returns (h : Reaches (finalizeLiveTerminationV1 P id now) calls (.pure (.ok record))) :
    (∃ secrets, calls = [⟨.store (.load id), .ok (record, secrets)⟩] ∧ record.terminal) ∨
    ∃ loaded secrets answer again, calls = [⟨.store (.load id), .ok (loaded, secrets)⟩,
        ⟨.store (.advance loaded.brokerSessionID (terminalEvent P loaded now)), answer⟩,
        ⟨.store (.load loaded.brokerSessionID), .ok (record, again)⟩] ∧
      ¬ loaded.terminal ∧ loaded.stopping = true ∧ (answer = .ok () ∨ answer = .error .sessionTerminal) := by
  unfold finalizeLiveTerminationV1 at h
  split at h
  · cases (reaches_pure h).2
  · obtain ⟨answer, rest, rfl, hrest⟩ := reaches_ask h
    rcases answer with e | ⟨loaded, secrets⟩
    · cases (reaches_pure hrest).2
    · dsimp only at hrest
      split at hrest
      · rename_i hterminal
        obtain ⟨rfl, heq⟩ := reaches_pure hrest
        cases heq
        exact .inl ⟨secrets, rfl, hterminal⟩
      · rename_i hterminal
        split at hrest
        · cases (reaches_pure hrest).2
        · rename_i hstopping
          rw [not_not] at hstopping
          obtain ⟨advanced, rest, rfl, hlast⟩ := reaches_ask hrest
          right
          rcases advanced with e | _
          · cases e with
            | sessionTerminal =>
              obtain ⟨again, rfl⟩ := loadRecord_returns hlast
              exact ⟨loaded, secrets, _, again, rfl, hterminal, hstopping, .inr rfl⟩
            | _ => cases (reaches_pure hlast).2
          · obtain ⟨again, rfl⟩ := loadRecord_returns hlast
            exact ⟨loaded, secrets, _, again, rfl, hterminal, hstopping, .inl rfl⟩

def Closed (id : String) (dir : Directory) : Prop :=
  ∃ record, dir.lookup id = some record ∧ record.state ≠ .active

theorem upgrade_state : (record.upgrade P).state = record.state :=
  congrArg Ledger.state (ledger_upgrade (P := P))

theorem Closed.run (h : Closed id w.dir) (call : StoreCall) (faults : Faults) :
    Closed id (call.run P faults w.dir).2 := by
  obtain ⟨record, hrecord, hne⟩ := h
  cases run_moves (P := P) call faults w.dir id with
  | same hsame => exact ⟨record, hsame.trans hrecord, hne⟩
  | @move file new hfile hnew _ hmove =>
    cases hfile.symm.trans hrecord
    refine ⟨new, hnew, ?_⟩
    have hbefore : (record.upgrade P).standing.state ≠ .active :=
      fun hstate => hne (upgrade_state.symm.trans hstate)
    have hstanding := hmove.standing
    change new.standing.state ≠ .active
    generalize (record.upgrade P).standing = before at hstanding hbefore
    generalize new.standing = after at hstanding
    cases hstanding with
    | close _ hterminal _ => exact hterminal
    | _ => exact hbefore
  | create hnone _ _ _ => cases hnone.symm.trans hrecord

theorem loadLocked_ne_terminal {readFails : Bool} {dir : Directory} :
    loadLocked P readFails dir id ≠ .error .sessionTerminal := by
  intro h
  unfold loadLocked at h
  simp only [error_bind_iff, reject, failWhen_error_iff] at h
  rcases h with ⟨-, h⟩ | ⟨_, -, ⟨-, h⟩ | ⟨_, -, h⟩⟩
  · cases h
  · cases h
  · split at h
    · cases h
    · simp only [error_bind_iff, check_error_iff] at h
      rcases h with ⟨_, -, h⟩ | ⟨_, -, h | ⟨_, -, h⟩⟩
      · cases h
      · unfold openSecrets at h
        split at h
        · cases h
        · simp [reject, pure, Except.pure] at h
      · cases h

theorem advance_not_terminal (h : advance P event record secrets = .error .sessionTerminal)
    (hactive : record.state = .active) : event.state = .active := by
  have haccept : ∀ cursor : EventCursorV1, cursor.accept P event ≠ .error .sessionTerminal := by
    intro cursor herror
    simp [EventCursorV1.accept, reject, pure, Except.pure] at herror
  unfold advance at h
  simp only [error_bind_iff, failWhen_error_iff, reject] at h
  rcases h with ⟨hterminal, -⟩ | ⟨_, -, ⟨-, h⟩ | ⟨_, -, ⟨-, h⟩ | ⟨_, -, ⟨-, h⟩ | ⟨_, -, h | ⟨_, -, h⟩⟩⟩⟩⟩
  · rcases hterminal with hstate | ⟨-, hevent⟩
    · exact absurd hactive hstate
    · exact hevent
  · cases h
  · cases h
  · cases h
  · exact absurd h (haccept _)
  · cases h

theorem advance_closed {outcome : Outcome Unit}
    (h : advance P event record secrets = .ok outcome) (hne : event.state ≠ .active) :
    ∃ new, outcome = .replace new () ∧ new.brokerSessionID = record.brokerSessionID ∧
      new.state = event.state := by
  unfold advance at h
  simp only [ok_bind_iff] at h
  obtain ⟨_, _, _, _, _, _, _, _, cursor, _, h⟩ := h
  cases h
  refine ⟨_, rfl, ?_, ?_⟩
  · split <;> rfl
  · rw [if_pos (by cases hevent : event.state <;> simp_all)]
    rfl

theorem advance_closes {dir : Directory} {answer : Result Unit}
    (hanswer : answer = ((StoreCall.advance id event).run P faults dir).1)
    (hne : event.state ≠ .active) (hdone : answer = .ok () ∨ answer = .error .sessionTerminal) :
    Closed id ((StoreCall.advance id event).run P faults dir).2 := by
  change answer = (transact P faults dir id (advance P event)).1 at hanswer
  change Closed id (transact P faults dir id (advance P event)).2
  unfold transact at hanswer ⊢
  cases hload : loadLocked P faults.readFails dir id with
  | error e =>
    simp only [hload] at hanswer
    rcases hdone with rfl | rfl
    · cases hanswer
    · cases hanswer
      exact absurd hload loadLocked_ne_terminal
  | ok loaded =>
    obtain ⟨record, secrets⟩ := loaded
    obtain ⟨file, hfile, rfl, hid, -⟩ := loadLocked_spec hload
    simp only [hload] at hanswer ⊢
    cases hbody : advance P event (file.upgrade P) secrets with
    | error e =>
      simp only [hbody] at hanswer ⊢
      rcases hdone with rfl | rfl
      · cases hanswer
      · cases hanswer
        exact ⟨file, hfile, fun hactive => hne (advance_not_terminal hbody (upgrade_state.trans hactive))⟩
    | ok outcome =>
      simp only [hbody] at hanswer ⊢
      obtain ⟨new, rfl, hnewid, hstate⟩ := advance_closed hbody hne
      have hsave : faults.save = .done := by
        cases hcase : faults.save with
        | done => rfl
        | failed =>
          rw [hcase] at hanswer
          rcases hdone with rfl | rfl <;> cases hanswer
        | unsynced =>
          rw [hcase] at hanswer
          rcases hdone with rfl | rfl <;> cases hanswer
      rw [hsave]
      refine ⟨new, ?_, hstate ▸ hne⟩
      change (dir.insert new.brokerSessionID new).lookup id = some new
      rw [hnewid, hid]
      exact AList.lookup_insert _

theorem Runs.closed_since {c₁ c : RunnerScene} (h : Runs P config start c₁)
    (hclosed : Closed id c₁.shared.dir) (hlater : Later (serverWorld P config) c₁ c) :
    ∃ since, c.log = c₁.log ++ since ∧ Closed id c.shared.dir ∧
      ∀ n record secrets, (n, ⟨.store (.load id), .ok (record, secrets)⟩) ∈ since → record.terminal := by
  refine Later.invariant (I := fun w since => Closed id w.dir ∧ ∀ n record secrets,
    (n, ⟨.store (.load id), .ok (record, secrets)⟩) ∈ since → record.terminal) h hlater
    (fun p hp => server_obeys hp) ⟨hclosed, fun _ _ _ hmem => absurd hmem List.not_mem_nil⟩ ?_
  rintro w since n e answer w' ⟨hclosed, hloads⟩ _ hact
  constructor
  · rcases execute_cases hact with ⟨call, faults, rfl, rfl⟩ | ⟨hdir, -, -⟩
    · exact hclosed.run call faults
    · rw [hdir]
      exact hclosed
  · intro m record secrets hmem
    rcases List.mem_append.mp hmem with hold | hnew
    · exact hloads m record secrets hold
    · cases List.mem_singleton.mp hnew
      obtain ⟨faults, hanswer, -⟩ := hact
      obtain ⟨file, hfile, rfl, -, -⟩ := loadLocked_spec (P := P) hanswer.symm
      obtain ⟨found, hfound, hne⟩ := hclosed
      cases hfile.symm.trans hfound
      rw [terminal_iff, upgrade_state]
      exact hne

theorem terminalEvent_state {stops : List (String × SessionState)}
    (now : Time) (h : LoadMeans record stops) (hstops : ∀ stop ∈ stops, stop.2 ≠ .active) (hterminal : ¬ record.terminal)
    (hstopping : record.stopping = true) : (terminalEvent P record now).state ≠ .active := by
  obtain ⟨state, hstate, rfl⟩ := h.stopping hterminal hstopping
  have hne := hstops _ List.mem_cons_self
  simpa [terminalEvent, hstate] using hne

theorem Runs.finalized {c : RunnerScene} {n : Nat}
    (hstart : start.lookup id = none) (h : Runs P config start c) (hdone : Finalized P n id record c.log) :
    Closed id c.shared.dir ∧ record.terminal ∧
      ∃ secrets, (n, ⟨.store (.load id), .ok (record, secrets)⟩) ∈ c.log := by
  obtain ⟨front, calls, back, now, hhistory, hpath⟩ := hdone
  rcases finalize_returns hpath with ⟨secrets, rfl, hterminal⟩ |
    ⟨loaded, secrets, answer, again, rfl, hopen, hstopping, hanswer⟩
  · obtain ⟨before, after, hlog, -, -⟩ := history_split (by simpa using hhistory)
    obtain ⟨c₀, c₁, -, -, -, hact, h₁, hlater⟩ := Actors.Reachable.moment h hlog
    obtain ⟨faults, hload, hshared⟩ := hact
    obtain ⟨file, hfile, hrecord, -, -⟩ := loadLocked_spec (P := P) hload.symm
    have hclosed : Closed id c₁.shared.dir := by
      rw [hshared]
      refine ⟨file, hfile, ?_⟩
      rw [terminal_iff, hrecord, upgrade_state] at hterminal
      exact hterminal
    obtain ⟨since, -, hstill, -⟩ := Runs.closed_since h₁ hclosed hlater
    refine ⟨hstill, hterminal, secrets, ?_⟩
    rw [hlog]
    exact List.mem_append_right _ List.mem_cons_self
  · have hending := h.ending hstart
    have hcalls : history n c.log = (front ++ [⟨.store (.load id), .ok (loaded, secrets)⟩]) ++
        ⟨.store (.advance loaded.brokerSessionID (terminalEvent P loaded now)), answer⟩ ::
        (⟨.store (.load loaded.brokerSessionID), .ok (record, again)⟩ :: back) := by simpa using hhistory
    have hloaded : (n, ⟨.store (.load id), .ok (loaded, secrets)⟩) ∈ c.log :=
      mem_history.mp (by rw [hcalls]; simp)
    have hid := hending.named n id loaded secrets hloaded
    have hne := terminalEvent_state (P := P) now (hending.loads n loaded secrets hloaded)
      hending.phase.stops.2 hopen hstopping
    rw [hid] at hcalls
    obtain ⟨before, after, hlog, -, hafter⟩ := history_split hcalls
    obtain ⟨c₀, c₁, -, -, hlog₁, hact, h₁, hlater⟩ := Actors.Reachable.moment h hlog
    obtain ⟨faults, hadvance, hshared⟩ := hact
    have hclosed : Closed id c₁.shared.dir := by
      rw [hshared]
      exact advance_closes hadvance hne hanswer
    obtain ⟨since, hsince, hstill, hloads⟩ := Runs.closed_since h₁ hclosed hlater
    have hlast : (n, ⟨.store (.load id), .ok (record, again)⟩) ∈ after :=
      mem_history.mp (by rw [hafter]; exact List.mem_cons_self)
    have hsame : since = after := by
      rw [hlog₁, hlog, List.append_cons] at hsince
      exact (List.append_cancel_left hsince).symm
    refine ⟨hstill, hloads n record again (hsame ▸ hlast), again, ?_⟩
    rw [hlog]
    exact List.mem_append_right _ (List.mem_cons_of_mem _ hlast)

/-- What a finalizer returned is closed on file, and what is closed on file is never found open again. -/
theorem closed_sessions_stay {c : RunnerScene} (hstart : start.lookup id = none) (h : Runs P config start c) :
    (∀ n record, Finalized P n id record c.log → record.terminal ∧ Closed id c.shared.dir) ∧
    (Closed id c.shared.dir → ∀ c', Later (serverWorld P config) c c' → Closed id c'.shared.dir ∧
      ∃ since, c'.log = c.log ++ since ∧ ∀ n record secrets,
        (n, ⟨.store (.load id), .ok (record, secrets)⟩) ∈ since → record.terminal) := by
  constructor
  · intro n record hdone
    obtain ⟨hclosed, hterminal, -⟩ := h.finalized hstart hdone
    exact ⟨hterminal, hclosed⟩
  · intro hclosed c' hlater
    obtain ⟨since, hlog, hstill, hloads⟩ := h.closed_since hclosed hlater
    exact ⟨hstill, since, hlog, hloads⟩

/-- In every run a session gets at most one terminal event and none after it. The event and
the record carry the stop that was recorded first, and so does what every finalizer that
succeeds returns; by then the event is there. -/
theorem one_terminal_event (P : Platform) (config : LiveRunnerServerV1) (id : String)
    (start : Directory) (hstart : start.lookup id = none) (c : RunnerScene) (h : Runs P config start c) :
    (∀ front event back, appendedEvents c.shared.log id = front ++ event :: back →
      event.state ≠ .active → back = [] ∧ AllActive front ∧ ∃ record,
        c.shared.dir.lookup id = some record ∧ event.state = record.state ∧
        event.closeReason = some record.closeReason ∧
        (recordedStops c.shared.log id).head? = some (record.closeReason, record.state)) ∧
    ∀ n record, Finalized P n id record c.log → ∃ front event,
      appendedEvents c.shared.log id = front ++ [event] ∧ AllActive front ∧ event.state ≠ .active ∧
      event.state = record.state ∧ event.closeReason = some record.closeReason ∧
      (recordedStops c.shared.log id).head? = some (record.closeReason, record.state) := by
  have hending := h.ending hstart
  constructor
  · intro front event back hevents hne
    have hnot : ¬ AllActive (appendedEvents c.shared.log id) := by
      intro hactive
      exact hne (hactive event (by rw [hevents]; simp))
    have hphase := hending.phase
    unfold World.PhaseOf at hphase
    generalize recordedStops c.shared.log id = stops at hphase ⊢
    generalize appendedEvents c.shared.log id = events at hphase hevents hnot
    cases hlookup : c.shared.dir.lookup id with
    | none =>
      rw [hlookup] at hphase
      cases hphase
      simp at hevents
    | some record =>
      rw [hlookup] at hphase
      cases hphase with
      | running _ hactive => exact absurd hactive hnot
      | stopping _ _ _ _ hactive => exact absurd hactive hnot
      | @closed _ last first _ _ hfirst hstate hreason =>
        rcases List.eq_nil_or_concat back with rfl | ⟨rest, final, rfl⟩
        · obtain ⟨rfl, hlast⟩ := List.append_inj' hevents rfl
          cases hlast
          exact ⟨rfl, hfirst, record, rfl, hstate, hreason, rfl⟩
        · have hassoc : first ++ [last] = (front ++ event :: rest) ++ [final] := by
            rw [hevents]
            simp
          obtain ⟨rfl, -⟩ := List.append_inj' hassoc rfl
          exact absurd (hfirst event (by simp)) hne
  · intro n record hdone
    obtain ⟨⟨current, hcurrent, hne⟩, hterminal, secrets, hload⟩ := h.finalized hstart hdone
    have hstops := (hending.loads n record secrets hload).closed hterminal
    have hphase := hending.phase.found hcurrent
    generalize recordedStops c.shared.log id = stops at hphase hstops ⊢
    generalize appendedEvents c.shared.log id = events at hphase ⊢
    cases hphase with
    | running hrun _ => exact absurd hrun.1 hne
    | stopping hactive _ _ _ _ => exact absurd hactive hne
    | @closed _ event front _ _ hfront hstate hreason =>
      obtain ⟨hclose, hsame⟩ := Prod.mk.inj (List.cons.inj hstops).1
      refine ⟨front, event, rfl, hfront, hstate ▸ hne, hstate.trans hsame, hreason.trans (congrArg some hclose), ?_⟩
      rw [hclose, hsame]
      rfl

/-! ## A session that fails -/

theorem failSession_reaches {stopping : SessionRecordV1} {id runner reason : String} {begun : Bool}
    {q : RunnerProg (Result SessionRecordV1)}
    (hid : record.brokerSessionID = id) (hrunner : record.runnerSessionID = runner)
    (hstopping : stopping.stopping = true)
    (hpath : Reaches (finalizeLiveTerminationV1 P id now) calls q) :
    Reaches (failSession P record reason false)
      ([⟨.store (.beginFailure id reason), .ok (stopping, begun)⟩,
        ⟨.kickPublisher runner, .ok ()⟩, ⟨.now, now⟩] ++ calls)
      (q >>= fun _ => .pure ()) := by
  subst hid hrunner
  let begin : Effect := .store (.beginFailure record.brokerSessionID reason)
  let answer : begin.Answer := Except.ok (stopping, begun)
  refine Reaches.step answer ?_
  dsimp only [answer, Prog.pure_eq, Prog.bind]
  rw [if_neg (not_not.mpr hstopping)]
  let kick : Effect := .kickPublisher record.runnerSessionID
  let kicked : kick.Answer := Except.ok ()
  exact .step kicked (@Reaches.step Effect Effect.Answer Unit .now _ _ _ now (hpath.bind _))

theorem failing_acts {config : LiveRunnerServerV1} {w w' : World} {id runner reason : String}
    {answer : Result (SessionRecordV1 × Bool)}
    (hanswer : ((StoreCall.beginFailure id reason).run P noFaults w.dir).1 = answer)
    (hacts : Acts (serverWorld P config) (w.call P (.beginFailure id reason) noFaults) calls w') :
    Acts (serverWorld P config) w
      ([⟨.store (.beginFailure id reason), answer⟩, ⟨.kickPublisher runner, .ok ()⟩, ⟨.now, now⟩] ++ calls)
      w' := by
  have hbegin : (serverWorld P config).act w (.store (.beginFailure id reason)) answer
      (w.call P (.beginFailure id reason) noFaults) := ⟨noFaults, hanswer.symm, rfl⟩
  exact .cons hbegin (.cons (Eq.refl (w.call P (.beginFailure id reason) noFaults))
    (.cons (Eq.refl (w.call P (.beginFailure id reason) noFaults)) hacts))

end

def failedSample : World :=
  servedScene.shared.call plainPlatform (.beginFailure "s1" "output_failed") noFaults

def finalizedSample : World × List RunnerEvent × RunnerProg (Result SessionRecordV1) :=
  simulate (plainAnswer plainPlatform 0) 3 failedSample
    (finalizeLiveTerminationV1 plainPlatform "s1" sampleTime)

def finalizedRecord : Option SessionRecordV1 :=
  finalizedSample.2.2.result?.bind fun result => result.toOption

/-- The calls of the failing ladder before the finalizer. -/
def failingCalls : List RunnerEvent :=
  [⟨.store (.beginFailure "s1" "output_failed"),
      ((StoreCall.beginFailure "s1" "output_failed").run plainPlatform noFaults servedScene.shared.dir).1⟩,
    ⟨.kickPublisher "r1", .ok ()⟩, ⟨.now, sampleTime⟩]

def failedScene : RunnerScene :=
  ⟨finalizedSample.1,
    servedScene.log ++ (failingCalls ++ finalizedSample.2.1).map (fun event => (1, event)),
    ⟨1, failSession plainPlatform sampleRecord "output_failed" false,
      finalizedSample.2.2 >>= fun _ => .pure ()⟩ :: servedScene.actors⟩

theorem failedSample_values :
    (((StoreCall.beginFailure "s1" "output_failed").run plainPlatform noFaults
      servedScene.shared.dir).1.toOption.any fun answer => answer.1.stopping) = true ∧
    finalizedRecord.map (fun record => (record.state, record.closeReason)) = some (.failed, "output_failed") ∧
    (failedScene.shared.dir.lookup "s1").map (·.state) = some .failed := by
  decide +kernel

theorem failedScene_runs : Runs plainPlatform plainServer ∅ failedScene := by
  have hanswer := failedSample_values.1
  unfold failedScene failingCalls
  cases hbegun : ((StoreCall.beginFailure "s1" "output_failed").run plainPlatform noFaults
      servedScene.shared.dir).1 with
  | error e =>
    rw [hbegun] at hanswer
    cases hanswer
  | ok answer =>
    rw [hbegun] at hanswer
    obtain ⟨stopping, begun⟩ := answer
    have hfresh : servedScene.Fresh 1 := servedScene_fresh (by decide)
    have hpath : Reaches (finalizeLiveTerminationV1 plainPlatform "s1" sampleTime) finalizedSample.2.1
        finalizedSample.2.2 := simulate_reaches _ _ _ _
    have hacts : Acts (serverWorld plainPlatform plainServer) failedSample finalizedSample.2.1
        finalizedSample.1 := simulate_acts (plainAnswer_acts plainPlatform plainServer 0) _ _ _
    exact Actors.Reachable.enters servedScene_runs (.fail sampleRecord "output_failed" false) hfresh.1
      hfresh.2 (failSession_reaches rfl rfl hanswer hpath) (failing_acts hbegun hacts)

theorem closed_sessions_stay_failed : Closed "s1" failedScene.shared.dir ∧
    ∀ c, Later (serverWorld plainPlatform plainServer) failedScene c → Closed "s1" c.shared.dir := by
  obtain ⟨record, hrecord, hstate⟩ := Option.map_eq_some_iff.mp failedSample_values.2.2
  have hclosed : Closed "s1" failedScene.shared.dir := ⟨record, hrecord, hstate ▸ nofun⟩
  exact ⟨hclosed, fun c hlater => ((closed_sessions_stay rfl failedScene_runs).2 hclosed c hlater).1⟩

theorem one_terminal_event_sample : ∃ record, Runs plainPlatform plainServer ∅ failedScene ∧
    Finalized plainPlatform 1 "s1" record failedScene.log ∧ record.state = .failed ∧
    record.closeReason = "output_failed" ∧ ∃ front event,
      appendedEvents failedScene.shared.log "s1" = front ++ [event] ∧ event.state = .failed ∧
      event.closeReason = some "output_failed" := by
  obtain ⟨record, hrecord, hfields⟩ := Option.map_eq_some_iff.mp failedSample_values.2.1
  obtain ⟨result, hresult, hok⟩ := Option.bind_eq_some_iff.mp hrecord
  have hreturned : finalizedSample.2.2 = .pure (.ok record) := by
    rw [Prog.result?_eq_some hresult]
    cases result with
    | error e => cases hok
    | ok found =>
      cases hok
      rfl
  have hfinalized : Finalized plainPlatform 1 "s1" record failedScene.log := by
    refine ⟨failingCalls, finalizedSample.2.1, [], sampleTime, ?_, hreturned ▸ simulate_reaches _ _ _ _⟩
    rw [failedScene, history_append, history_fresh (servedScene_fresh (by decide)).1, history_map]
    simp
  obtain ⟨hstate, hreason⟩ := Prod.mk.inj hfields
  obtain ⟨-, hfinal⟩ := one_terminal_event plainPlatform plainServer "s1" ∅ rfl failedScene failedScene_runs
  obtain ⟨front, event, hevents, -, -, hevent, hclose, -⟩ := hfinal 1 record hfinalized
  exact ⟨record, failedScene_runs, hfinalized, hstate, hreason, front, event, hevents,
    hevent.trans hstate, hclose.trans (congrArg some hreason)⟩

end LivepeerTranscode.LiveRunner
