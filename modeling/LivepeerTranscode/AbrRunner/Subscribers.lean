import LivepeerTranscode.AbrRunner.ExecutionLeases

/-!
# Subscribers of cancelled executions

The last subscriber that leaves cancels the execution, which stays in the map until its
program has finished it. A request that looks the workload up in between is attached to it.
Where every lookup finds an execution with a subscriber left, this does not happen.
-/

namespace LivepeerTranscode.AbrRunner
open Interaction Actors Checked GoText JsonText
set_option autoImplicit false

/-- Every request that found an execution of its workload found one with a subscriber. -/
def JoinsSubscribed (log : List (Nat × AbrEvent)) : Prop :=
  ∀ n workloadID execution count, (n, lookedUp workloadID (some execution) count) ∈ log →
    execution.subscribers ≠ []

/-- An execution that was just started inside the mutex is there and not cancelled. -/
def FreshStarts (s : AbrState) (log : List (Nat × AbrEvent)) : Prop :=
  ∀ n first second third spawn serial, sectionAt log n = some [first, second, third, started spawn serial] →
    serial ∉ s.cancelled ∧ ∃ execution, findExecution s.active spawn.req.workloadID = some execution ∧
      execution.serial = serial

section
variable {runner : Runner} {P : StorePlatform} {s s' : AbrState} {log : List (Nat × AbrEvent)} {n : Nat}
  {e : Effect} {r : e.Answer} {c : AbrScene}

theorem AbrMove.cancelled_same (hmove : AbrMove s e r s') (hlocked : s.locked = true) :
    s'.cancelled = s.cancelled := by
  cases hmove with
  | quiet _ hsame => exact hsame.cancelled
  | lock | unlock | refused | acquire | start | attach | begin => rfl
  | detach workloadID subscriber hfree =>
    rw [hlocked] at hfree
    cases hfree
  | finish workloadID hfree =>
    rw [hlocked] at hfree
    cases hfree

theorem AbrRuns.cancelled_lt (h : AbrRuns runner c) :
    ∀ serial ∈ c.shared.cancelled, serial < c.shared.executions := by
  refine Reachable.invariant_of (K := fun s log => Threads s log ∧ Registry runner s log)
    (I := fun s _ => ∀ serial ∈ s.cancelled, serial < s.executions)
    (fun h => ⟨AbrRuns.threads h, AbrRuns.registry h⟩) (fun _ hp => abr_obeys hp) ?_ ?_ h
  · rintro s ⟨disk, -, rfl⟩ serial hserial
    cases hserial
  · intro s log n e r s' ⟨hthreads, hregistry⟩ hbelow hrule hexec _
    cases execute_moves hexec with
    | quiet _ hsame =>
      rw [hsame.cancelled, hsame.executions]
      exact hbelow
    | lock | unlock | refused | acquire | attach | begin => exact hbelow
    | start spawn =>
      intro serial hserial
      exact Nat.lt_succ_of_lt (hbelow serial hserial)
    | detach workloadID subscriber =>
      unfold detachFrom
      split
      · exact hbelow
      · rename_i execution hfind
        intro serial hserial
        dsimp only at hserial ⊢
        split at hserial
        · rcases List.mem_cons.mp hserial with rfl | hserial
          · obtain ⟨number, spawn, hactive, heq⟩ := (hregistry.listed _).mp (mem_roster_of_find hfind)
            rw [show execution.serial = number from congrArg Registered.serial heq]
            exact hthreads.below _ _ hactive.1
          · exact hbelow serial hserial
        · exact hbelow serial hserial
    | finish workloadID =>
      unfold finishExecution
      split <;> exact hbelow

theorem FreshStarts.step (h : FreshStarts s log) (hex : Exclusive s log)
    (hbelow : ∀ serial ∈ s.cancelled, serial < s.executions) (hrule : abrRule runner (history n log) e)
    (hexec : execute P s e r s') : FreshStarts s' (log ++ [(n, ⟨e, r⟩)]) := by
  intro m first second third spawn serial hafter
  by_cases hm : n = m
  · subst hm
    have hmove := sectionAt_move hrule r
    rw [hafter] at hmove
    generalize sectionAt log n = before at hmove
    cases hmove with
    | start =>
      obtain ⟨rfl, rfl⟩ := hexec
      refine ⟨?_, _, findExecution_cons_self _ _ _, rfl⟩
      intro hcancelled
      exact Nat.lt_irrefl _ (hbelow _ hcancelled)
  · rw [sectionAt_other hm] at hafter
    have hinside : (sectionAt log m).isSome := by rw [hafter]; rfl
    rw [(execute_moves hexec).cancelled_same (hex.held m hinside),
      hex.active_same hrule (execute_moves hexec) hm hinside]
    exact h m first second third spawn serial hafter

theorem AbrRuns.freshStarts (h : AbrRuns runner c) : FreshStarts c.shared c.log := by
  refine Reachable.invariant_of (K := fun s log => Exclusive s log ∧ ∀ serial ∈ s.cancelled, serial < s.executions)
    (I := FreshStarts) (fun h => ⟨AbrRuns.exclusive h, AbrRuns.cancelled_lt h⟩) (fun _ hp => abr_obeys hp) ?_ ?_ h
  · intro s _ n first second third spawn serial hsection
    cases hsection
  · intro s log n e r s' ⟨hex, hbelow⟩ hfresh hrule hexec _
    exact hfresh.step hex hbelow hrule hexec

/-! ## Executions that have lost their subscribers -/

def Deserted (s : AbrState) : Prop :=
  ∀ workloadID execution, findExecution s.active workloadID = some execution → execution.serial ∈ s.cancelled →
    execution.subscribers = []

theorem JoinsSubscribed.before {log : List (Nat × AbrEvent)} {last : Nat × AbrEvent}
    (h : JoinsSubscribed (log ++ [last])) : JoinsSubscribed log :=
  fun n workloadID execution count hmem => h n workloadID execution count (List.mem_append_left _ hmem)

theorem Deserted.attaches (h : Deserted s) (hlooked : Looked s log) (hfresh : FreshStarts s log)
    (hjoins : JoinsSubscribed log) {workloadID : String} (hrule : abrRule runner (history n log) (.attach workloadID)) :
    ∃ execution, findExecution s.active workloadID = some execution ∧ execution.serial ∉ s.cancelled := by
  obtain ⟨-, record, -, ⟨execution, count, hsection⟩ | ⟨spawn, serial, count, rfl, hsection⟩⟩ := hrule
  · have hfind := (hlooked n _ _ _ _ _ hsection nofun).1
    have hmem : (n, lookedUp workloadID (some execution) count) ∈ log :=
      mem_history.mp (mem_of_currentSection hsection (by simp))
    refine ⟨execution, hfind, ?_⟩
    intro hcancelled
    exact hjoins _ _ _ _ hmem (h _ _ hfind hcancelled)
  · obtain ⟨hopen, execution, hfind, rfl⟩ := hfresh n _ _ _ _ _ hsection
    exact ⟨execution, hfind, hopen⟩

theorem Deserted.attach (h : Deserted s) {workloadID : String} {execution : Execution}
    (hfind : findExecution s.active workloadID = some execution) (hopen : execution.serial ∉ s.cancelled)
    (change : List Nat → List Nat) (hactive : s'.active = setSubscribers s.active workloadID change)
    (hcancelled : s'.cancelled = s.cancelled) : Deserted s' := by
  intro other found hfound hserial
  rw [hactive, findExecution_setSubscribers] at hfound
  rw [hcancelled] at hserial
  obtain ⟨old, hold, rfl⟩ := Option.map_eq_some_iff.mp hfound
  by_cases hid : other = workloadID
  · subst hid
    rw [hfind] at hold
    cases hold
    rw [if_pos rfl] at hserial
    exact absurd hserial hopen
  · rw [if_neg hid] at hserial ⊢
    exact h other old hold hserial

theorem Deserted.detach (h : Deserted s) (hregistry : Registry runner s log) (hthreads : Threads s log)
    (workloadID : String) (subscriber : Nat) : Deserted (detachFrom s workloadID subscriber) := by
  unfold detachFrom
  split
  · exact h
  · rename_i execution hfind
    intro other found hfound hserial
    dsimp only at hfound hserial
    rw [findExecution_setSubscribers] at hfound
    obtain ⟨old, hold, rfl⟩ := Option.map_eq_some_iff.mp hfound
    by_cases hid : other = workloadID
    · subst hid
      rw [hfind] at hold
      cases hold
      rw [if_pos rfl] at hserial ⊢
      dsimp only at hserial ⊢
      split at hserial
      · assumption
      · rw [h other execution hfind hserial]
        rfl
    · rw [if_neg hid] at hserial ⊢
      have hne : old.serial ≠ execution.serial := by
        intro hsame
        obtain ⟨number, spawn, hactive, heq⟩ := (hregistry.listed _).mp (mem_roster_of_find hold)
        obtain ⟨number', spawn', hactive', heq'⟩ := (hregistry.listed _).mp (mem_roster_of_find hfind)
        have hnumber : old.serial = number := congrArg Registered.serial heq
        have hnumber' : execution.serial = number' := congrArg Registered.serial heq'
        rw [hnumber, hnumber'] at hsame
        subst hsame
        have hspawn := hthreads.one _ _ _ hactive.1 hactive'.1
        subst hspawn
        exact hid ((congrArg Registered.workloadID heq).trans (congrArg Registered.workloadID heq').symm)
      refine h other old hold ?_
      split at hserial
      · exact List.mem_of_ne_of_mem hne hserial
      · exact hserial

theorem Deserted.step (h : Deserted s) (hjoins : JoinsSubscribed log) (hlooked : Looked s log)
    (hfresh : FreshStarts s log) (hregistry : Registry runner s log) (hthreads : Threads s log)
    (hrule : abrRule runner (history n log) e) (hexec : execute P s e r s') : Deserted s' := by
  cases execute_moves hexec with
  | quiet _ hsame =>
    intro workloadID execution hfind hserial
    rw [hsame.active] at hfind
    rw [hsame.cancelled] at hserial
    exact h workloadID execution hfind hserial
  | lock | unlock | refused | acquire | begin => exact h
  | start spawn =>
    intro workloadID execution hfind hserial
    by_cases hid : workloadID = spawn.req.workloadID
    · subst hid
      rw [findExecution_cons_self] at hfind
      cases hfind
      rfl
    · rw [findExecution_cons_ne hid] at hfind
      exact h workloadID execution hfind hserial
  | attach workloadID =>
    obtain ⟨execution, hfind, hopen⟩ := h.attaches hlooked hfresh hjoins hrule
    exact h.attach hfind hopen _ rfl rfl
  | detach workloadID subscriber => exact h.detach hregistry hthreads workloadID subscriber
  | finish workloadID =>
    unfold finishExecution
    split
    · exact h
    · rename_i execution hfind
      intro other found hfound hserial
      by_cases hid : other = workloadID
      · subst hid
        rw [findExecution_remove_self] at hfound
        cases hfound
      · rw [findExecution_remove_ne hid] at hfound
        exact h other found hfound hserial

theorem AbrRuns.deserted (h : AbrRuns runner c) (hjoins : JoinsSubscribed c.log) : Deserted c.shared := by
  refine Reachable.invariant_of (K := fun s log => Looked s log ∧ FreshStarts s log ∧ Registry runner s log ∧
      Threads s log)
    (I := fun s log => JoinsSubscribed log → Deserted s)
    (fun h => ⟨AbrRuns.looked h, AbrRuns.freshStarts h, AbrRuns.registry h, AbrRuns.threads h⟩) (fun _ hp => abr_obeys hp) ?_ ?_ h hjoins
  · rintro s ⟨disk, -, rfl⟩ _ workloadID execution hfind
    cases hfind
  · intro s log n e r s' ⟨hlooked, hfresh, hregistry, hthreads⟩ hdeserted hrule hexec _ hjoins
    exact (hdeserted hjoins.before).step hjoins.before hlooked hfresh hregistry hthreads hrule hexec

end

/-! ## Responses -/

section
variable {runner : Runner} {past : List (List (Nat × AbrEvent))} {c : AbrScene} {n : Nat}

theorem DiskSound.ended {P : StorePlatform} {disk : Disk} (h : DiskSound P disk) {workloadID : String}
    {record : WorkloadJournalV2} (hread : disk.read workloadID = some record)
    (hstate : record.state ≠ .inProgress) : record.terminal = true := by
  obtain ⟨appended, hsound⟩ := h
  exact (hsound.read hread).2.2.terminal_iff.mpr hstate

theorem classify_replayTerminal {existing incoming : String} {terminal : Bool}
    (h : WorkloadReplayDispositionV2.replayTerminal = classifyWorkloadReplayV2 existing incoming terminal) :
    terminal = true := by
  unfold classifyWorkloadReplayV2 at h
  split at h
  · cases h
  · split at h
    · assumption
    · cases h

theorem Lives.served (h : Lives runner past c) {workloadID : String} (hserved : Served (history n c.log) workloadID) :
    (∃ subscriber, ((n, ⟨.attach workloadID, subscriber⟩) : Nat × AbrEvent) ∈ c.log) ∨
      ∃ record, HasRead (history n c.log) workloadID record ∧ record.terminal = true := by
  cases hserved with
  | attached hmem => exact .inl ⟨_, mem_history.mp hmem⟩
  | @ended record hmem hstate =>
    obtain ⟨before, after, hsplit⟩ := List.append_of_mem (mem_history.mp hmem)
    obtain ⟨c₀, c₁, h₀, -, -, ⟨faults, hanswer, -⟩, -⟩ := h.moment_step hsplit
    have hsound := h₀.runs.diskSound
    exact .inr ⟨record, .inl hmem, hsound.ended (load_answers hsound hanswer) hstate⟩
  | @replayed sha record hmem =>
    obtain ⟨before, after, hsplit⟩ := List.append_of_mem (mem_history.mp hmem)
    obtain ⟨c₀, c₁, h₀, -, -, ⟨faults, hanswer, -⟩, -⟩ := h.moment_step hsplit
    have hdisposition := (loadOrCreate_answers h₀.runs.diskSound hanswer).2
    exact .inr ⟨record, .inr ⟨sha, _, hmem⟩, classify_replayTerminal hdisposition⟩

/-- As long as every lookup finds an execution with a subscriber left, whoever is attached is
attached to an execution that is not cancelled, and every response is opened by such a
subscriber or for a terminal journal. -/
theorem joins_uncancelled (h : Lives runner past c) (hjoins : JoinsSubscribed c.log) :
    (∀ before n workloadID subscriber after, c.log = before ++ (n, ⟨.attach workloadID, subscriber⟩) :: after →
      ∃ c₀ c₁ : AbrScene, Lives runner past c₀ ∧ c₀.log = before ∧
        c₁.log = before ++ [(n, ⟨.attach workloadID, subscriber⟩)] ∧ Step (abrWorld runner) c₀ c₁ ∧
        Later (abrWorld runner) c₁ c ∧ ∃ execution, findExecution c₀.shared.active workloadID = some execution ∧
          execution.serial ∉ c₀.shared.cancelled) ∧
    ∀ before n written after, c.log = before ++ (n, ⟨.reply .opened, written⟩) :: after →
      ∃ req requestSHA256, Serving runner (history n before) req requestSHA256 ∧
        ((∃ subscriber, ((n, ⟨.attach req.workloadID, subscriber⟩) : Nat × AbrEvent) ∈ before) ∨
          ∃ record, HasRead (history n before) req.workloadID record ∧ record.terminal = true) := by
  constructor
  · intro before n workloadID subscriber after hsplit
    obtain ⟨c₀, c₁, h₀, rfl, hlog₁, -, hstep, hlater⟩ := h.moment_step hsplit
    have hbefore : JoinsSubscribed c₀.log := by
      intro m id execution count hmem
      exact hjoins m id execution count (by rw [hsplit]; exact List.mem_append_left _ hmem)
    have hruns := h₀.runs
    refine ⟨c₀, c₁, h₀, rfl, hlog₁, hstep, hlater, ?_⟩
    exact (hruns.deserted hbefore).attaches hruns.looked hruns.freshStarts hbefore (h.runs.logged hsplit)
  · intro before n written after hsplit
    obtain ⟨c₀, c₁, h₀, rfl, -⟩ := h.moment_step hsplit
    obtain ⟨-, -, req, requestSHA256, hserving, hserved⟩ := h.runs.logged hsplit
    exact ⟨req, requestSHA256, hserving, h₀.served hserved⟩

end

/-! ## A request that comes too late -/

/-- The first request subscribes and its response is opened. -/
def subscribeCalls : List AbrEvent := startCalls ++ [⟨.attach "workload", 1⟩, ⟨.unlock, ()⟩, ⟨.reply .opened, true⟩]

def afterSubscribe : AbrProg Unit := do
  follow "workload" 1 1 0
  perform (.detach "workload" 1)

def subscribedState : AbrState :=
  { startedState with locked := false, active := [("workload", ⟨0, sampleSHA256, [1], 0⟩)], nextSubscriber := 1 }

theorem subscribeCalls_reach :
    Reaches (serveHTTP sampleAbrRunner 1 sampleArrival) subscribeCalls afterSubscribe := by
  refine (startCalls_reach 1).trans ?_
  refine reaches_call (.attach "workload") 1 ?_
  refine reaches_call .unlock () ?_
  refine reaches_call (.reply .opened) true ?_
  exact .refl _

theorem subscribeCalls_act : Acts (abrWorld sampleAbrRunner) (.boot .empty) subscribeCalls subscribedState := by
  refine startCalls_act.append ?_
  refine .cons ⟨rfl, rfl⟩ ?_
  refine .cons rfl ?_
  refine .cons rfl ?_
  exact .nil _

def subscribedScene : AbrScene where
  shared := subscribedState
  log := subscribeCalls.map fun event => (0, event)
  actors := [⟨0, serveHTTP sampleAbrRunner 1 sampleArrival, afterSubscribe⟩]

theorem subscribedScene_reachable :
    Reachable (abrWorld sampleAbrRunner) (· = .boot .empty) subscribedScene := by
  have hempty : Reachable (abrWorld sampleAbrRunner) (· = .boot .empty) ⟨.boot .empty, [], []⟩ := .initial rfl
  exact hempty.enters (.serveHTTP 1 sampleArrival) nofun nofun subscribeCalls_reach subscribeCalls_act

/-- The first request is attached to the execution it has started. -/
theorem joins_uncancelled_first : JoinsSubscribed subscribedScene.log ∧
    ∃ c₀ c₁ : AbrScene, Lives sampleAbrRunner [] c₀ ∧ c₀.log = startCalls.map (fun event => (0, event)) ∧
      c₁.log = startCalls.map (fun event => (0, event)) ++ [(0, ⟨.attach "workload", 1⟩)] ∧
      Step (abrWorld sampleAbrRunner) c₀ c₁ ∧ Later (abrWorld sampleAbrRunner) c₁ subscribedScene ∧
      ∃ execution, findExecution c₀.shared.active "workload" = some execution ∧
        execution.serial ∉ c₀.shared.cancelled := by
  have hjoins : JoinsSubscribed subscribedScene.log := by
    intro n workloadID execution count hmem
    obtain ⟨event, hevent, heq⟩ := List.mem_map.mp hmem
    cases heq
    simp [subscribeCalls, startCalls, loaded, lookedUp, acquired, started] at hevent
  exact ⟨hjoins, (joins_uncancelled (.first subscribedScene_reachable) hjoins).1 _ 0 "workload" 1
    [(0, ⟨.unlock, ()⟩), (0, ⟨.reply .opened, true⟩)] (by simp [subscribedScene, subscribeCalls])⟩

theorem sample_resumes : (Operation.loadOrCreate "workload" sampleSHA256).perform sampleAbrRunner.toStorePlatform
    noFaults sampleDisk = ⟨.ok (sampleJournal, .resumeExisting), none⟩ := by
  decide +kernel

def leaveCalls : List AbrEvent := [⟨.select 1, .gone⟩, ⟨.detach "workload" 1, ()⟩]

def joinCalls : List AbrEvent :=
  [⟨.arrive sampleArrival, ()⟩,
    ⟨.store (.loadOrCreate "workload" sampleSHA256), .ok (sampleJournal, .resumeExisting)⟩,
    ⟨.lock, ()⟩, loaded "workload" sampleJournal, lookedUp "workload" (some ⟨0, sampleSHA256, [], 0⟩) 1]

def desertedState : AbrState :=
  { startedState with
    locked := false
    active := [("workload", ⟨0, sampleSHA256, [], 0⟩)]
    nextSubscriber := 1
    cancelled := [0] }

theorem leaveCalls_act : Acts (abrWorld sampleAbrRunner) subscribedState leaveCalls desertedState := by
  refine .cons rfl ?_
  refine .cons ⟨rfl, rfl⟩ ?_
  exact .nil _

theorem leaveCalls_reach : Reaches afterSubscribe leaveCalls (.pure ()) := by
  refine reaches_call (.select 1) .gone ?_
  refine reaches_call (.detach "workload" 1) () ?_
  exact .refl _

def afterJoin : AbrProg Unit := do
  let subscriber ← perform (.attach "workload")
  perform .unlock
  streamSubscribed "workload" 1 sampleJournal subscriber

theorem joinCalls_reach : Reaches (serveHTTP sampleAbrRunner 1 sampleArrival) joinCalls afterJoin := by
  refine serveHTTP_admitted sampleArrival_admitted ?_
  refine reaches_call (.store (.loadOrCreate "workload" sampleSHA256)) (.ok (sampleJournal, .resumeExisting)) ?_
  refine reaches_call .lock () ?_
  refine reaches_call (.store (.load "workload")) (.ok sampleJournal) ?_
  refine reaches_call (.lookup "workload") (some ⟨0, sampleSHA256, [], 0⟩, 1) ?_
  exact .refl _

theorem joinCalls_act : Acts (abrWorld sampleAbrRunner) desertedState joinCalls
    { desertedState with locked := true } := by
  refine .cons rfl ?_
  refine .cons (execute_store sample_resumes) ?_
  refine .cons ⟨rfl, rfl⟩ ?_
  refine .cons (execute_store sample_load) ?_
  refine .cons ⟨rfl, rfl⟩ ?_
  exact .nil _

/-- A request that arrives after the last subscriber left and before the execution is finished
is attached to the cancelled execution. -/
theorem late_request_joins_cancelled : ∃ c₀ c₁ : AbrScene, Lives sampleAbrRunner [] c₀ ∧
    Step (abrWorld sampleAbrRunner) c₀ c₁ ∧ c₁.log = c₀.log ++ [(1, ⟨.attach "workload", 2⟩)] ∧
    ∃ execution, findExecution c₀.shared.active "workload" = some execution ∧
      execution.serial ∈ c₀.shared.cancelled := by
  have hleft := subscribedScene_reachable.runs leaveCalls_reach leaveCalls_act
  have hfresh : ∀ entry ∈ subscribeCalls.map (fun event => (0, event)) ++ leaveCalls.map (fun event => (0, event)),
      entry.1 ≠ 1 := by
    intro entry hentry
    rw [← List.map_append] at hentry
    obtain ⟨event, -, rfl⟩ := List.mem_map.mp hentry
    exact Nat.zero_ne_one
  have hjoining := hleft.enters (.serveHTTP 1 sampleArrival) hfresh (by simp) joinCalls_reach joinCalls_act
  exact ⟨_, _, .first hjoining, .first (r := 2) _ ⟨rfl, rfl⟩, rfl, _, rfl, List.mem_singleton_self 0⟩

end LivepeerTranscode.AbrRunner
