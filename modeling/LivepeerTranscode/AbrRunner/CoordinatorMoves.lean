import LivepeerTranscode.AbrRunner.CoordinatorCalls

/-!
# Steps of the coordinator

What each call can do to the coordinator's memory, who is inside its mutex, and how the map
of active executions is read and changed. Nobody changes the map while another program is
inside.
-/

namespace LivepeerTranscode.AbrRunner
open Interaction Actors Checked GoText JsonText
set_option autoImplicit false

/-! ## Steps -/

structure SameMemory (s s' : AbrState) : Prop where
  locked : s'.locked = s.locked
  active : s'.active = s.active
  executions : s'.executions = s.executions
  spawned : s'.spawned = s.spawned
  cancelled : s'.cancelled = s.cancelled
  leases : s'.leases = s.leases
  granted : s'.granted = s.granted

def Quiet : Effect → Prop
  | .arrive _ | .store _ | .lookup _ | .contextErr _ | .notify _ | .select _ | .reply _ => True
  | _ => False

inductive AbrMove (s : AbrState) : (e : Effect) → e.Answer → AbrState → Prop where
  | quiet {e : Effect} {r : e.Answer} {s' : AbrState} (hquiet : Quiet e) (hsame : SameMemory s s') :
      AbrMove s e r s'
  | lock (hfree : s.locked = false) : AbrMove s .lock () { s with locked := true }
  | unlock : AbrMove s .unlock () { s with locked := false }
  | refused (err : AcquireError) : AbrMove s .acquire (.error err) s
  | acquire : AbrMove s .acquire (.ok s.granted)
      { s with granted := s.granted + 1, leases := s.granted :: s.leases }
  | start (spawn : Spawn) : AbrMove s (.start spawn) s.executions
      { s with
        executions := s.executions + 1
        active := (spawn.req.workloadID, ⟨s.executions, spawn.requestSHA256, [], spawn.lease⟩) :: s.active
        spawned := (s.executions, spawn) :: s.spawned }
  | attach (workloadID : String) : AbrMove s (.attach workloadID) (s.nextSubscriber + 1)
      { s with
        nextSubscriber := s.nextSubscriber + 1
        active := setSubscribers s.active workloadID fun subscribers => (s.nextSubscriber + 1) :: subscribers }
  | detach (workloadID : String) (subscriber : Nat) (hfree : s.locked = false) :
      AbrMove s (.detach workloadID subscriber) () (detachFrom s workloadID subscriber)
  | begin {serial : Nat} {spawn : Spawn} (hspawned : (serial, spawn) ∈ s.spawned) :
      AbrMove s (.begin spawn.req spawn.requestSHA256) serial
        { s with spawned := s.spawned.filter fun other => decide (other.1 ≠ serial) }
  | finish (workloadID : String) (hfree : s.locked = false) :
      AbrMove s (.finish workloadID) (findExecution s.active workloadID) (finishExecution s workloadID)

theorem execute_moves {P : StorePlatform} {s s' : AbrState} {e : Effect} {r : e.Answer}
    (h : execute P s e r s') : AbrMove s e r s' := by
  cases e with
  | arrive request =>
    cases h
    exact .quiet trivial ⟨rfl, rfl, rfl, rfl, rfl, rfl, rfl⟩
  | store op =>
    obtain ⟨faults, -, rfl⟩ := h
    exact .quiet trivial ⟨rfl, rfl, rfl, rfl, rfl, rfl, rfl⟩
  | lock =>
    obtain ⟨hfree, rfl⟩ := h
    exact .lock hfree
  | unlock =>
    cases h
    exact .unlock
  | lookup workloadID =>
    obtain ⟨-, rfl⟩ := h
    exact .quiet trivial ⟨rfl, rfl, rfl, rfl, rfl, rfl, rfl⟩
  | acquire =>
    cases r with
    | error err =>
      cases h
      exact .refused err
    | ok lease =>
      obtain ⟨rfl, rfl⟩ := h
      exact .acquire
  | start spawn =>
    obtain ⟨rfl, rfl⟩ := h
    exact .start spawn
  | attach workloadID =>
    obtain ⟨rfl, rfl⟩ := h
    exact .attach workloadID
  | detach workloadID subscriber =>
    obtain ⟨hfree, rfl⟩ := h
    exact .detach workloadID subscriber hfree
  | begin req requestSHA256 =>
    obtain ⟨spawn, hspawned, rfl, rfl, rfl⟩ := h
    exact .begin hspawned
  | contextErr serial =>
    obtain ⟨-, rfl⟩ := h
    exact .quiet trivial ⟨rfl, rfl, rfl, rfl, rfl, rfl, rfl⟩
  | notify workloadID =>
    obtain ⟨-, rfl⟩ := h
    refine .quiet trivial ?_
    unfold notifyAll
    split <;> exact ⟨rfl, rfl, rfl, rfl, rfl, rfl, rfl⟩
  | finish workloadID =>
    obtain ⟨hfree, rfl, rfl⟩ := h
    exact .finish workloadID hfree
  | select subscriber =>
    refine .quiet trivial ?_
    cases r with
    | notified isOpen =>
      obtain ⟨-, -, rfl⟩ := h
      exact ⟨rfl, rfl, rfl, rfl, rfl, rfl, rfl⟩
    | tick =>
      cases h
      exact ⟨rfl, rfl, rfl, rfl, rfl, rfl, rfl⟩
    | gone =>
      cases h
      exact ⟨rfl, rfl, rfl, rfl, rfl, rfl, rfl⟩
  | reply reply =>
    cases h
    exact .quiet trivial ⟨rfl, rfl, rfl, rfl, rfl, rfl, rfl⟩

/-! ## The mutex -/

def sectionAt (log : List (Nat × AbrEvent)) (n : Nat) : Option (List AbrEvent) :=
  currentSection (history n log)

theorem sectionAt_own (log : List (Nat × AbrEvent)) (n : Nat) (event : AbrEvent) :
    sectionAt (log ++ [(n, event)]) n = sectionStep (sectionAt log n) event := by
  rw [sectionAt, history_own, currentSection_concat]
  rfl

theorem sectionAt_other {n m : Nat} (h : m ≠ n) (log : List (Nat × AbrEvent)) (event : AbrEvent) :
    sectionAt (log ++ [(m, event)]) n = sectionAt log n := by
  rw [sectionAt, history_other h]
  rfl

theorem sectionStep_plain {event : AbrEvent} (hlock : event.effect ≠ .lock) (hunlock : event.effect ≠ .unlock)
    (calls : Option (List AbrEvent)) : sectionStep calls event = calls.map (· ++ [event]) := by
  unfold sectionStep
  split
  · rename_i heq
    exact absurd heq hlock
  · rename_i heq
    exact absurd heq hunlock
  · rfl

structure Exclusive (s : AbrState) (log : List (Nat × AbrEvent)) : Prop where
  held : ∀ n, (sectionAt log n).isSome → s.locked = true
  one : ∀ n m, (sectionAt log n).isSome → (sectionAt log m).isSome → n = m

section
variable {runner : Runner} {s s' : AbrState} {log : List (Nat × AbrEvent)} {n : Nat} {e : Effect}
  {r : e.Answer}

theorem AbrMove.locked_same (hmove : AbrMove s e r s') (hlock : e ≠ .lock) (hunlock : e ≠ .unlock) :
    s'.locked = s.locked := by
  cases hmove with
  | quiet _ hsame => exact hsame.locked
  | lock => exact absurd rfl hlock
  | unlock => exact absurd rfl hunlock
  | refused | acquire | start | attach | begin => rfl
  | detach workloadID subscriber =>
    unfold detachFrom
    split <;> rfl
  | finish workloadID =>
    unfold finishExecution
    split <;> rfl

theorem isSome_sectionAt_plain (hlock : e ≠ .lock) (hunlock : e ≠ .unlock) (m : Nat) :
    (sectionAt (log ++ [(n, ⟨e, r⟩)]) m).isSome = (sectionAt log m).isSome := by
  by_cases hm : n = m
  · subst hm
    rw [sectionAt_own, sectionStep_plain hlock hunlock, Option.isSome_map]
  · rw [sectionAt_other hm]

theorem Exclusive.step (h : Exclusive s log) (hrule : abrRule runner (history n log) e)
    (hmove : AbrMove s e r s') : Exclusive s' (log ++ [(n, ⟨e, r⟩)]) := by
  by_cases hlock : e = .lock
  · subst hlock
    cases hmove with
    | quiet hquiet => exact absurd hquiet id
    | lock hfree =>
      have hnobody : ∀ m, (sectionAt log m).isSome = false := by
        intro m
        by_contra hsome
        rw [h.held m (Bool.of_not_eq_false hsome)] at hfree
        cases hfree
      have hself : ∀ m, (sectionAt (log ++ [(n, ⟨.lock, ()⟩)]) m).isSome → m = n := by
        intro m hm
        by_contra hne
        rw [sectionAt_other (Ne.symm hne), hnobody m] at hm
        cases hm
      exact ⟨fun _ _ => rfl, fun m m' hm hm' => (hself m hm).trans (hself m' hm').symm⟩
  · by_cases hunlock : e = .unlock
    · subst hunlock
      have hothers : ∀ m, (sectionAt (log ++ [(n, ⟨.unlock, r⟩)]) m).isSome = false := by
        intro m
        by_cases hm : n = m
        · subst hm
          rw [sectionAt_own]
          rfl
        · rw [sectionAt_other hm]
          by_contra hsome
          obtain ⟨calls, hcalls, -⟩ := hrule
          exact hm (h.one n m (by rw [sectionAt, hcalls]; rfl) (Bool.of_not_eq_false hsome))
      constructor
      · intro m hm
        rw [hothers m] at hm
        cases hm
      · intro m m' hm _
        rw [hothers m] at hm
        cases hm
    · constructor
      · intro m hm
        rw [isSome_sectionAt_plain hlock hunlock] at hm
        rw [hmove.locked_same hlock hunlock]
        exact h.held m hm
      · intro m m' hm hm'
        rw [isSome_sectionAt_plain hlock hunlock] at hm hm'
        exact h.one m m' hm hm'

inductive SectionMove (runner : Runner) (h : List AbrEvent) :
    Option (List AbrEvent) → AbrEvent → Option (List AbrEvent) → Prop where
  | outside {event : AbrEvent} : SectionMove runner h none event none
  | enter : SectionMove runner h none ⟨.lock, ()⟩ (some [])
  | leave {calls : List AbrEvent} (hlast : ∀ lease, calls.getLast? ≠ some (acquired lease)) :
      SectionMove runner h (some calls) ⟨.unlock, ()⟩ none
  | load (workloadID : String) (answer : Except StoreError WorkloadJournalV2) :
      SectionMove runner h (some []) ⟨.store (.load workloadID), answer⟩
        (some [⟨.store (.load workloadID), answer⟩])
  | lookup {workloadID : String} {record : WorkloadJournalV2} (found : Option Execution) (count : Nat)
      (hstate : record.state = .inProgress) :
      SectionMove runner h (some [loaded workloadID record]) (lookedUp workloadID found count)
        (some [loaded workloadID record, lookedUp workloadID found count])
  | acquire {workloadID : String} {record : WorkloadJournalV2} {count : Nat} (answer : Except AcquireError Nat)
      (hstate : record.state = .inProgress) (hlimit : count < runner.limit) :
      SectionMove runner h (some [loaded workloadID record, lookedUp workloadID none count])
        ⟨.acquire, answer⟩
        (some [loaded workloadID record, lookedUp workloadID none count, ⟨.acquire, answer⟩])
  | start {spawn : Spawn} {record : WorkloadJournalV2} {count : Nat} (serial : Nat)
      (hstate : record.state = .inProgress) (hsha : record.requestSHA256 = spawn.requestSHA256)
      (hlimit : count < runner.limit) (hserving : Serving runner h spawn.req spawn.requestSHA256) :
      SectionMove runner h
        (some [loaded spawn.req.workloadID record, lookedUp spawn.req.workloadID none count,
          acquired spawn.lease])
        (started spawn serial)
        (some [loaded spawn.req.workloadID record, lookedUp spawn.req.workloadID none count,
          acquired spawn.lease, started spawn serial])
  | join {workloadID : String} {record : WorkloadJournalV2} {execution : Execution} {count : Nat}
      (subscriber : Nat) (hstate : record.state = .inProgress) :
      SectionMove runner h
        (some [loaded workloadID record, lookedUp workloadID (some execution) count])
        ⟨.attach workloadID, subscriber⟩
        (some [loaded workloadID record, lookedUp workloadID (some execution) count,
          ⟨.attach workloadID, subscriber⟩])
  | attach {spawn : Spawn} {record : WorkloadJournalV2} {serial count : Nat} (subscriber : Nat)
      (hstate : record.state = .inProgress) :
      SectionMove runner h
        (some [loaded spawn.req.workloadID record, lookedUp spawn.req.workloadID none count,
          acquired spawn.lease, started spawn serial])
        ⟨.attach spawn.req.workloadID, subscriber⟩
        (some [loaded spawn.req.workloadID record, lookedUp spawn.req.workloadID none count,
          acquired spawn.lease, started spawn serial, ⟨.attach spawn.req.workloadID, subscriber⟩])

theorem SectionMove.of_outside {h : List AbrEvent} (hnone : currentSection h = none) (hlock : e ≠ .lock) :
    SectionMove runner h (currentSection h) ⟨e, r⟩ (currentSection (h ++ [⟨e, r⟩])) := by
  have hafter : currentSection (h ++ [⟨e, r⟩]) = none := by
    rw [currentSection_concat, hnone]
    cases e with
    | lock => exact absurd rfl hlock
    | _ => rfl
  rw [hafter, hnone]
  exact .outside

theorem abrRule_sectionMove {h : List AbrEvent} (hrule : abrRule runner h e) (r : e.Answer) :
    SectionMove runner h (currentSection h) ⟨e, r⟩ (currentSection (h ++ [⟨e, r⟩])) := by
  cases e with
  | arrive request =>
    cases hrule
    exact .outside
  | begin req requestSHA256 =>
    cases hrule
    exact .outside
  | lock =>
    rw [currentSection_concat, hrule]
    exact .enter
  | unlock =>
    obtain ⟨calls, hcalls, hlast⟩ := hrule
    rw [currentSection_concat, hcalls]
    exact .leave hlast
  | lookup workloadID =>
    obtain ⟨record, hcalls, hstate⟩ := hrule
    rw [currentSection_concat, hcalls]
    exact .lookup r.1 r.2 hstate
  | acquire =>
    obtain ⟨workloadID, record, count, hcalls, hstate, hlimit⟩ := hrule
    rw [currentSection_concat, hcalls]
    exact .acquire r hstate hlimit
  | start spawn =>
    obtain ⟨record, count, hcalls, hstate, hsha, hlimit, hserving, -⟩ := hrule
    rw [currentSection_concat, hcalls]
    exact .start r hstate hsha hlimit hserving
  | attach workloadID =>
    obtain ⟨-, record, hstate, ⟨execution, count, hcalls⟩ | ⟨spawn, serial, count, rfl, hcalls⟩⟩ := hrule
    · rw [currentSection_concat, hcalls]
      exact .join r hstate
    · rw [currentSection_concat, hcalls]
      exact .attach r hstate
  | detach workloadID subscriber => exact .of_outside hrule nofun
  | notify workloadID => exact .of_outside hrule.1 nofun
  | finish workloadID => exact .of_outside hrule.1 nofun
  | contextErr serial => exact .of_outside hrule nofun
  | select subscriber => exact .of_outside hrule nofun
  | store op =>
    cases op with
    | load workloadID =>
      obtain ⟨hnone | hcalls, -⟩ := hrule
      · exact .of_outside hnone nofun
      · rw [currentSection_concat, hcalls]
        exact .load workloadID r
    | loadOrCreate workloadID requestSHA256 =>
      obtain ⟨request, req, rfl, -⟩ := hrule
      exact .outside
    | _ => exact .of_outside hrule.2.1 nofun
  | reply reply => exact .of_outside hrule.1 nofun

theorem mem_of_currentSection {h calls : List AbrEvent} (hcalls : currentSection h = some calls)
    {event : AbrEvent} (hevent : event ∈ calls) : event ∈ h := by
  induction h using List.reverseRecOn generalizing calls with
  | nil => cases hcalls
  | append_singleton h last ih =>
    rw [currentSection_concat] at hcalls
    unfold sectionStep at hcalls
    split at hcalls
    · cases hcalls
      cases hevent
    · cases hcalls
    · obtain ⟨before, hbefore, rfl⟩ := Option.map_eq_some_iff.mp hcalls
      rcases List.mem_append.mp hevent with hevent | hevent
      · exact List.mem_append_left _ (ih hbefore hevent)
      · exact List.mem_append_right _ hevent

theorem Exclusive.active_same (h : Exclusive s log) (hrule : abrRule runner (history n log) e)
    (hmove : AbrMove s e r s') {m : Nat} (hne : n ≠ m) (hinside : (sectionAt log m).isSome) :
    s'.active = s.active := by
  have hlocked := h.held m hinside
  have hother : (sectionAt log n).isSome → False := fun hsome => hne (h.one n m hsome hinside)
  cases hmove with
  | quiet _ hsame => exact hsame.active
  | lock | unlock | refused | acquire | begin => rfl
  | start spawn =>
    obtain ⟨record, count, hsection, -⟩ := hrule
    exact absurd (by rw [sectionAt, hsection]; rfl) hother
  | attach workloadID =>
    obtain ⟨-, record, -, ⟨execution, count, hsection⟩ | ⟨spawn, serial, count, -, hsection⟩⟩ := hrule
    · exact absurd (by rw [sectionAt, hsection]; rfl) hother
    · exact absurd (by rw [sectionAt, hsection]; rfl) hother
  | detach workloadID subscriber hfree =>
    rw [hlocked] at hfree
    cases hfree
  | finish workloadID hfree =>
    rw [hlocked] at hfree
    cases hfree

end

/-! ## The active map -/

section
variable {active : List (String × Execution)} {workloadID other : String} {execution : Execution}

theorem findExecution_cons_self (active : List (String × Execution)) (workloadID : String)
    (execution : Execution) : findExecution ((workloadID, execution) :: active) workloadID = some execution := by
  simp [findExecution]

theorem findExecution_cons_ne (h : other ≠ workloadID) :
    findExecution ((workloadID, execution) :: active) other = findExecution active other := by
  simp [findExecution, Ne.symm h]

theorem findExecution_remove_ne (h : other ≠ workloadID) :
    findExecution (removeExecution active workloadID) other = findExecution active other := by
  unfold findExecution removeExecution
  congr 1
  induction active with
  | nil => rfl
  | cons entry active ih =>
    by_cases hentry : entry.1 = workloadID
    · have hskip : ¬ (entry.1 != workloadID) = true := by simp [hentry]
      have hmiss : ¬ (entry.1 == other) = true := by simpa [hentry] using Ne.symm h
      rw [List.filter_cons, if_neg hskip, ih, List.find?_cons, Bool.of_not_eq_true hmiss]
    · have hkeep : (entry.1 != workloadID) = true := by simpa using hentry
      rw [List.filter_cons, if_pos hkeep, List.find?_cons, List.find?_cons, ih]

theorem findExecution_remove_self (active : List (String × Execution)) (workloadID : String) :
    findExecution (removeExecution active workloadID) workloadID = none := by
  unfold findExecution removeExecution
  rw [Option.map_eq_none_iff, List.find?_eq_none]
  intro entry hentry
  have hne := (List.mem_filter.mp hentry).2
  simpa using hne

theorem findExecution_setSubscribers (change : List Nat → List Nat) :
    findExecution (setSubscribers active workloadID change) other =
      (findExecution active other).map fun execution =>
        if other = workloadID then { execution with subscribers := change execution.subscribers }
        else execution := by
  induction active with
  | nil => rfl
  | cons entry active ih =>
    obtain ⟨key, execution⟩ := entry
    by_cases hother : key = other
    · subst hother
      by_cases hkey : key = workloadID
      · subst hkey
        simp [findExecution, setSubscribers]
      · simp [findExecution, setSubscribers, hkey]
    · have htail : findExecution ((key, execution) :: active) other = findExecution active other :=
        findExecution_cons_ne (Ne.symm hother)
      rw [htail, ← ih]
      by_cases hkey : key = workloadID
      · simp [findExecution, setSubscribers, hkey, hkey ▸ hother]
      · simp [findExecution, setSubscribers, hkey, hother]

theorem mem_of_findExecution (h : findExecution active workloadID = some execution) :
    (workloadID, execution) ∈ active := by
  obtain ⟨entry, hfind, rfl⟩ := Option.map_eq_some_iff.mp h
  have hkey : entry.1 = workloadID := by simpa using List.find?_some hfind
  rw [← hkey]
  exact List.mem_of_find?_eq_some hfind

theorem findExecution_of_mem (hkeys : (active.map Prod.fst).Nodup) (h : (workloadID, execution) ∈ active) :
    findExecution active workloadID = some execution := by
  induction active with
  | nil => cases h
  | cons entry active ih =>
    obtain ⟨key, found⟩ := entry
    rw [List.map_cons, List.nodup_cons] at hkeys
    rcases List.mem_cons.mp h with heq | htail
    · cases heq
      exact findExecution_cons_self active workloadID execution
    · have hne : workloadID ≠ key := by
        rintro rfl
        exact hkeys.1 (List.mem_map.mpr ⟨_, htail, rfl⟩)
      rw [findExecution_cons_ne hne]
      exact ih hkeys.2 htail

theorem map_fst_setSubscribers (change : List Nat → List Nat) :
    (setSubscribers active workloadID change).map Prod.fst = active.map Prod.fst := by
  rw [setSubscribers, List.map_map]
  apply List.map_congr_left
  intro entry _
  simp only [Function.comp_apply]
  split <;> rfl

end

end LivepeerTranscode.AbrRunner
