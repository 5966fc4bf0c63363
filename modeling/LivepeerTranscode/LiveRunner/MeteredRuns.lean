import LivepeerTranscode.LiveRunner.Metering
import LivepeerTranscode.LiveRunner.ProgramCalls

/-!
# Metering over whole runs

Every program of the runner keeps to one discipline: it hands `Advance` only events
without usage, or a terminal event whose usage is the session's own. The finalizer is
the delicate one, since it builds its event from a snapshot it loaded earlier.
-/

namespace LivepeerTranscode.LiveRunner
open Interaction
set_option autoImplicit false

section
variable {P : Platform}

/-! ## The programs -/

/-- An effect that is allowed in every state: `Advance` only with an event without usage. -/
def Harmless : Effect → Prop
  | .store (.advance _ event) => event.eventType ≠ .usageTick ∧ event.usage = none
  | _ => True

theorem harmless_of_ensures {e : Effect} (h : e.ensures) : Harmless e := by
  unfold Effect.ensures at h
  split at h
  · exact ⟨by simp [h.1], h.2.2⟩
  · trivial
  · trivial
  · exact h.elim

theorem harmless_of_delivers {e : Effect} (h : e.delivers) : Harmless e := by
  unfold Effect.delivers at h
  split at h <;> trivial

inductive RunnerStep (P : Platform) : World → World → Prop where
  | outside (w : World) (posts : List Post) : RunnerStep P w { w with posts := posts }
  | call {w : World} {call : StoreCall} (faults : Faults) : Allowed w call →
      RunnerStep P w (w.call P call faults)

def RejectedUnchanged (log : List Entry) : Prop :=
  ∀ entry ∈ log, entry.save ≠ .unsynced → entry.answered = false → entry.after = entry.before

theorem RejectedUnchanged.call {w : World} (h : RejectedUnchanged w.log) (call : StoreCall)
    (faults : Faults) : RejectedUnchanged (w.call P call faults).log := by
  intro entry hmem hsave hanswer
  rcases List.mem_append.mp hmem with hmem | hmem
  · exact h entry hmem hsave hanswer
  · rw [List.mem_singleton.mp hmem] at hsave hanswer ⊢
    dsimp only [World.entry] at hsave hanswer ⊢
    cases hresult : (call.run P faults w.dir).1 with
    | ok value =>
      rw [hresult] at hanswer
      cases hanswer
    | error e => exact run_error hsave hresult

/-- Every call of every program is a step the runner is allowed. -/
def runnerDiscipline (P : Platform) (start : World) : Discipline (runnerSystem P) where
  inv := Relation.ReflTransGen (RunnerStep P) start
  rely _ := RunnerStep P
  guar _ := RunnerStep P
  inv_guar := fun h hstep => h.tail hstep
  guar_rely := fun _ h => h

theorem allowed_of_harmless {w : World} {call : StoreCall} (h : Harmless (.store call)) :
    Allowed w call := by
  intro id event hcall
  subst hcall
  refine ⟨h.1, ?_⟩
  intro record _ _ usage husage
  rw [h.2] at husage
  cases husage

theorem harmless_step {role : Role} {w w' : World} {e : Effect} {answer : e.Answer}
    (he : Harmless e) (h : execute P role w e answer w') : RunnerStep P w w' := by
  cases e with
  | store call =>
    obtain ⟨faults, _, rfl⟩ := h
    exact .call faults (allowed_of_harmless he)
  | post id url token event =>
    cases h
    exact .outside w _
  | _ =>
    cases h
    exact .outside w w.posts

theorem Within.safe {α : Type} {start : World} {role : Role} {p : RunnerProg α}
    (h : Within Harmless p) (w : World) :
    Safe (runnerDiscipline P start) role (fun _ _ => True) p w :=
  Safe.of_obeys (fun he _ hexec => @harmless_step P role _ _ _ _ he hexec) (h []) w

/-! ## Finalizing -/

/-- The session exists and, as long as it is active, it is stopping with this usage. -/
def Stopped (id : String) (usage : Nat) (w : World) : Prop :=
  ∃ record, w.dir.lookup id = some record ∧
    (record.state = .active → record.stopping = true ∧ record.usageTotal = usage)

theorem Ledger.Move.stopped {call : StoreCall} {l l' : Ledger} {usage : Nat}
    (hmove : Ledger.Move P call l l')
    (h : l.state = .active → l.stopping = true ∧ l.usageTotal = usage) :
    l'.state = .active → l'.stopping = true ∧ l'.usageTotal = usage := by
  have hnot : ¬ l.running := by
    intro hrun
    have := (h hrun.1).1
    rw [hrun.2] at this
    cases this
  cases hmove with
  | keep => exact h
  | emit hrun _ _ _ _ => exact absurd hrun hnot
  | meter hrun _ _ _ => exact absurd hrun hnot
  | stop hrun => exact absurd hrun hnot
  | remove _ _ => exact h
  | forget hterminal _ => exact h
  | advance hactive hstopping _ _ _ =>
    rename_i id event
    -- a stopping session accepts terminal events only
    have hstate := hstopping (h hactive).1
    unfold Ledger.advanced
    rw [if_neg hstate]
    exact fun hclosed => absurd hclosed hstate

theorem Stopped.step {id : String} {usage : Nat} {w w' : World} (h : Stopped id usage w)
    (hstep : RunnerStep P w w') : Stopped id usage w' := by
  cases hstep with
  | outside posts => exact h
  | @call call faults _ =>
    obtain ⟨record, hrecord, hstopped⟩ := h
    cases run_moves (P := P) call faults w.dir id with
    | same hsame => exact ⟨record, hsame.trans hrecord, hstopped⟩
    | @move file new hfile hnew _ hmove =>
      cases hfile.symm.trans hrecord
      exact ⟨new, hnew, hmove.onFile.stopped hstopped⟩
    | create hnone _ _ _ => cases hnone.symm.trans hrecord

theorem Stopped.steps {id : String} {usage : Nat} {w w' : World} (h : Stopped id usage w)
    (hsteps : Relation.ReflTransGen (RunnerStep P) w w') : Stopped id usage w' := by
  induction hsteps with
  | refl => exact h
  | tail _ hstep ih => exact ih.step hstep

theorem upgrade_frame {record : SessionRecordV1} :
    (record.upgrade P).state = record.state ∧ (record.upgrade P).stopping = record.stopping ∧
      (record.upgrade P).usageTotal = record.usageTotal := by
  have h := @ledger_upgrade P record
  exact ⟨congrArg Ledger.state h, congrArg Ledger.stopping h, congrArg Ledger.usageTotal h⟩

section
variable {start : World} {role : Role}

theorem safe_ask {α : Type} {call : StoreCall} {f : Result call.Answer → RunnerProg α} {w : World}
    (h : ∀ w₁ faults, Relation.ReflTransGen (RunnerStep P) w w₁ → Allowed w₁ call ∧
      Safe (runnerDiscipline P start) role (fun _ _ => True) (f (call.run P faults w₁.dir).1)
        (w₁.call P call faults)) :
    Safe (runnerDiscipline P start) role (fun _ _ => True) (ask call >>= f) w := by
  rintro w₁ hsteps _ result w₂ ⟨faults, rfl, rfl⟩
  obtain ⟨hallowed, hnext⟩ := h w₁ faults hsteps
  exact ⟨.call faults hallowed, hnext⟩

theorem Within.safe_bind {α β : Type} {p : RunnerProg α} {f : α → RunnerProg β} {w : World}
    (hp : Within Harmless p)
    (hf : ∀ a w₁, Safe (runnerDiscipline P start) role (fun _ _ => True) (f a) w₁) :
    Safe (runnerDiscipline P start) role (fun _ _ => True) (p >>= f) w :=
  (hp.safe w).bind fun a w₁ _ => hf a w₁

theorem loadRecord_harmless (session : String) : Within Harmless (loadRecord session) := by
  refine .bind (.ask trivial) fun result => ?_
  rcases result with e | ⟨record, secrets⟩ <;> exact .pure _

/-- The terminal event is built from a snapshot, but the usage of a stopping session no
longer moves until a terminal event ends it. -/
theorem allowed_terminalEvent {session : String} {record : SessionRecordV1} {now : Time} {w : World}
    (h : Stopped session record.usageTotal w) :
    Allowed w (.advance session (terminalEvent P record now)) := by
  rintro _ _ ⟨⟩
  refine ⟨?_, ?_⟩
  · simp only [terminalEvent]
    split <;> decide
  · intro current hcurrent hactive usage husage
    obtain ⟨known, hknown, hstopped⟩ := h
    obtain rfl := Option.some.inj (hcurrent.symm.trans hknown)
    cases husage
    exact (hstopped hactive).2.symm

theorem finalizeLiveTerminationV1_safe (session : String) (now : Time) (w : World) :
    Safe (runnerDiscipline P start) role (fun _ _ => True) (finalizeLiveTerminationV1 P session now) w := by
  unfold finalizeLiveTerminationV1
  split
  · trivial
  · refine safe_ask fun w₁ faults _ => ⟨allowed_of_harmless trivial, ?_⟩
    generalize hload : ((StoreCall.load session).run P faults w₁.dir).1 = loaded
    rcases loaded with e | ⟨record, secrets⟩
    · trivial
    · obtain ⟨file, hfile, rfl, hid, _⟩ := loadLocked_spec (P := P) hload
      obtain ⟨_, hstopping, husage⟩ := @upgrade_frame P file
      dsimp only
      split
      · trivial
      · split
        · trivial
        · rename_i hstop
          rw [hid]
          have hstopped : Stopped session (file.upgrade P).usageTotal
              (w₁.call P (.load session) faults) := by
            refine ⟨file, hfile, fun _ => ⟨?_, husage.symm⟩⟩
            simpa [hstopping] using hstop
          refine safe_ask fun w₂ faults₂ hsteps =>
            ⟨allowed_terminalEvent (hstopped.steps hsteps), ?_⟩
          generalize ((StoreCall.advance session _).run P faults₂ w₂.dir).1 = advanced
          rcases advanced with e | _
          · cases e with
            | sessionTerminal => exact (loadRecord_harmless session).safe _
            | _ => trivial
          · exact (loadRecord_harmless session).safe _

theorem completeLiveTerminationV1_safe (record : SessionRecordV1) (now : Time) (w : World) :
    Safe (runnerDiscipline P start) role (fun _ _ => True) (completeLiveTerminationV1 P record now) w := by
  unfold completeLiveTerminationV1
  split
  · trivial
  · refine Within.safe_bind (.call trivial fun _ => .pure _) fun result w₁ => ?_
    rcases result with e | _
    · trivial
    · exact finalizeLiveTerminationV1_safe _ _ _

theorem recoverSession_safe (session : String) (w : World) :
    Safe (runnerDiscipline P start) role (fun _ _ => True) (recoverSession P session) w := by
  unfold recoverSession
  refine Within.safe_bind (.ask trivial) fun loaded w₁ => ?_
  rcases loaded with e | ⟨record, secrets⟩
  · trivial
  · dsimp only
    split
    · refine Within.safe_bind (.call trivial fun _ => .pure _) fun now w₂ => ?_
      refine Safe.bind (completeLiveTerminationV1_safe record now w₂) fun result w₃ _ => ?_
      split <;> trivial
    · split
      · trivial
      · split
        · exact ((ensureSession_within _ _).mono fun _ => harmless_of_ensures).safe _
        · refine Within.safe_bind (.call trivial fun _ => .pure _) fun result w₂ => ?_
          rcases result with e | _
          · trivial
          · refine Within.safe_bind (.ask trivial) fun result w₃ => ?_
            rcases result with e | _
            · trivial
            · exact ((ensureSession_within _ _).mono fun _ => harmless_of_ensures).safe _

theorem recoverEach_safe (records : List SessionRecordV1) (w : World) :
    Safe (runnerDiscipline P start) role (fun _ _ => True) (recoverEach P records) w := by
  induction records generalizing w with
  | nil => trivial
  | cons candidate rest ih =>
    unfold recoverEach
    split
    · exact ih w
    · refine Safe.bind (recoverSession_safe _ w) fun result w₁ _ => ?_
      split
      · trivial
      · exact ih w₁

theorem recoverLiveSessionsV1_safe (w : World) :
    Safe (runnerDiscipline P start) role (fun _ _ => True) (recoverLiveSessionsV1 P) w := by
  refine Within.safe_bind (.ask trivial) fun result w₁ => ?_
  rcases result with e | records
  · trivial
  · exact recoverEach_safe records w₁

theorem discard_safe {α : Type} {p : RunnerProg α} {w : World}
    (h : Safe (runnerDiscipline P start) role (fun _ _ => True) p w) :
    Safe (runnerDiscipline P start) role (fun _ _ => True) (discard p) w :=
  h.bind fun _ _ _ => trivial

theorem runner_safe {p : RunnerProg Unit} (h : RunnerSpawn P role p) (w : World) :
    Safe (runnerDiscipline P start) role (fun _ _ => True) p w := by
  cases h with
  | method call hcall =>
    refine discard_safe (Within.safe (.ask ?_) w)
    cases call with
    | advance session event => exact absurd rfl (hcall session event)
    | _ => trivial
  | ensure record secrets => exact discard_safe (((ensureSession_within record secrets).mono fun _ => harmless_of_ensures).safe w)
  | finalize session now => exact discard_safe (finalizeLiveTerminationV1_safe session now w)
  | complete record now => exact discard_safe (completeLiveTerminationV1_safe record now w)
  | recover => exact discard_safe (recoverLiveSessionsV1_safe w)
  | sweep => exact discard_safe ((sweepOnce_within.mono fun _ => harmless_of_delivers).safe w)

end

/-! ## The timeline -/

theorem foldlM_timeline (durations : List Nat) (total : Nat) (h : total + durations.sum ≤ maxUint64) :
    durations.foldlM (fun total duration =>
      if total + duration ≤ maxUint64 then pure (total + duration)
      else throw (GoError.message "output timeline overflow")) total =
      (.ok (total + durations.sum) : Result Nat) := by
  induction durations generalizing total with
  | nil => rfl
  | cons duration rest ih =>
    rw [List.sum_cons] at h
    have hfits : total + duration ≤ maxUint64 := by omega
    rw [List.foldlM_cons, if_pos hfits, List.sum_cons, ← Nat.add_assoc]
    exact ih (total + duration) (by omega)

theorem calculateOutputSecondsV1_eq {durations : List Nat} (h : durations.sum ≤ maxUint64) :
    calculateOutputSecondsV1 durations = .ok (durations.sum / 1000000) := by
  unfold calculateOutputSecondsV1
  rw [foldlM_timeline durations 0 (by omega), Nat.zero_add]
  rfl

theorem runner_steps {start : World} {c : Config World Role Effect Effect.Answer}
    (hrun : Reachable (runnerSystem P) start c) :
    Relation.ReflTransGen (RunnerStep P) start c.shared :=
  (Sound.of_reachable (d := runnerDiscipline P start) .refl
    (fun _ _ hspawn w _ => runner_safe hspawn w) hrun).inv

theorem meter_sound {id : String} {start : Directory} (hstart : start.lookup id = none) {w : World}
    (hsteps : Relation.ReflTransGen (RunnerStep P) ⟨start, [], []⟩ w) :
    MeterInv P id w ∧ RejectedUnchanged w.log := by
  induction hsteps with
  | refl =>
    refine ⟨?_, by simp [RejectedUnchanged]⟩
    unfold MeterInv
    rw [hstart]
    exact ⟨rfl, rfl⟩
  | tail _ hstep ih =>
    cases hstep with
    | outside posts => exact ih
    | call faults hallowed => exact ⟨ih.1.step faults hallowed, ih.2.call _ faults⟩

end

/-- Exactly-once metering. In every run of the runner that creates the session, whatever the
playlists repeat, however calls and restarts interleave: the meter is the sum, over the distinct
URIs accepted, of the duration each was first accepted with; the usage is that timeline in whole
seconds; the emitted ticks increase up to the usage; and a call that returns an error, with file
replacement all or nothing, has changed no file. -/
theorem metering_exactly_once (P : Platform) (id : String) (start : Directory)
    (hstart : start.lookup id = none) (c : Config World Role Effect Effect.Answer)
    (hrun : Reachable (runnerSystem P) ⟨start, [], []⟩ c)
    (record : SessionRecordV1) (hrecord : c.shared.dir.lookup id = some record)
    (hsha : Set.InjOn P.sha256Hex
      {uri | uri ∈ (observedSegments c.shared.log id).map FinalizedHLSSegmentV1.uri}) :
    let segments := keepFirst FinalizedHLSSegmentV1.uri [] (observedSegments c.shared.log id)
    record.meteredMicroseconds = (segments.map FinalizedHLSSegmentV1.durationMicroseconds).sum ∧
      record.usageTotal = record.meteredMicroseconds / 1000000 ∧
      calculateOutputSecondsV1 (segments.map FinalizedHLSSegmentV1.durationMicroseconds) =
        .ok record.usageTotal ∧
      (tickTotals c.shared.log id).Pairwise (· < ·) ∧
      (tickTotals c.shared.log id).getLast?.getD 0 = record.usageTotal ∧
      ∀ entry ∈ c.shared.log, entry.save ≠ .unsynced → entry.answered = false →
        entry.after = entry.before := by
  obtain ⟨hmeter, hlog⟩ := meter_sound hstart (runner_steps hrun)
  have h := hmeter.metered hrecord
  have hkeep : keepFirst (identity P) [] (observedSegments c.shared.log id) =
      keepFirst FinalizedHLSSegmentV1.uri [] (observedSegments c.shared.log id) :=
    keepFirst_comp FinalizedHLSSegmentV1.uri P.sha256Hex [] _ (by simpa using hsha)
  have hsum : record.meteredMicroseconds =
      ((keepFirst FinalizedHLSSegmentV1.uri [] (observedSegments c.shared.log id)).map
        FinalizedHLSSegmentV1.durationMicroseconds).sum := by
    rw [← hkeep]
    exact h.microseconds
  refine ⟨hsum, h.usage, ?_, h.increasing, h.last, hlog⟩
  rw [calculateOutputSecondsV1_eq (hsum ▸ h.bounded), ← hsum]
  exact congrArg Except.ok h.usage.symm

def sampleMetered : World :=
  sampleStarted.call samplePlatform
    (.recordFinalizedSegments "s1" [sampleSegment, sampleSegment] sampleTime) noFaults

/-- The sample session, once a playlist naming its one segment twice has been observed. -/
theorem metering_exactly_once_sample : ∃ record,
    sampleMetered.dir.lookup "s1" = some record ∧ record.meteredMicroseconds = 2500000 ∧
      record.usageTotal = 2 ∧ (tickTotals sampleMetered.log "s1").getLast?.getD 0 = 2 := by
  obtain ⟨running, hstarted⟩ := sampleStarted_reachable
  have hrun := reachable_method (.recordFinalizedSegments "s1" [sampleSegment, sampleSegment] sampleTime)
    (fun _ _ h => by cases h) noFaults hstarted
  have hvalues : (sampleMetered.dir.lookup "s1").isSome = true ∧
      observedSegments sampleMetered.log "s1" = [sampleSegment, sampleSegment] := by decide +kernel
  obtain ⟨record, hrecord⟩ := Option.isSome_iff_exists.mp hvalues.1
  have hinj : Set.InjOn samplePlatform.sha256Hex
      {uri | uri ∈ (observedSegments sampleMetered.log "s1").map FinalizedHLSSegmentV1.uri} := by
    rw [hvalues.2]
    intro u hu v hv _
    simp only [List.map_cons, List.map_nil, Set.mem_ofPred_eq, List.mem_cons, List.not_mem_nil,
      or_false, or_self] at hu hv
    rw [hu, hv]
  have h := metering_exactly_once samplePlatform "s1" ∅ rfl _ hrun record hrecord hinj
  have hkeep : keepFirst FinalizedHLSSegmentV1.uri [] (observedSegments sampleMetered.log "s1") =
      [sampleSegment] := by
    rw [hvalues.2]
    decide
  obtain ⟨hsum, husage, _, _, hlast, _⟩ := h
  have hmicros : record.meteredMicroseconds = 2500000 :=
    hsum.trans (congrArg totalDuration hkeep)
  rw [hmicros] at husage
  exact ⟨record, hrecord, hmicros, husage, hlast.trans husage⟩

end LivepeerTranscode.LiveRunner
