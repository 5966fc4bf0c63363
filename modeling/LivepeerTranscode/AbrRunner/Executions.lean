import LivepeerTranscode.AbrRunner.CoordinatorMoves
import LivepeerTranscode.AbrRunner.JournalRuns

/-!
# Executions of a process

Every execution that was started stays registered until its own program finishes it, and
nothing is started for a workload that is registered. Inside the mutex the map of active
executions stands still, so what `Subscribe` looked up is still so when it acts on it.
-/

namespace LivepeerTranscode.AbrRunner
open Interaction Actors Checked GoText JsonText
set_option autoImplicit false

variable {runner : Runner} {P : StorePlatform} {s s' : AbrState} {log : List (Nat × AbrEvent)} {n : Nat}
  {e : Effect} {r : e.Answer} {c : AbrScene} {h : List AbrEvent} {op : Operation} {req : ABRWorkloadRequestV2}

/-! ## Files -/

def DiskSound (P : StorePlatform) (disk : Disk) : Prop := ∃ appended, StoreRun.Sound P ⟨disk, appended⟩

def AbrRuns (runner : Runner) (c : AbrScene) : Prop :=
  Reachable (abrWorld runner) (fun s => ∃ disk, DiskSound runner.toStorePlatform disk ∧ s = .boot disk) c

theorem abrRule_fits (hrule : abrRule runner h (.store op)) : op.Fits := by
  cases op with
  | load workloadID => trivial
  | loadOrCreate workloadID requestSHA256 => trivial
  | _ => exact hrule.1

theorem execute_disk_same (h : execute P s e r s') (hstore : ∀ op, e ≠ .store op) : s'.disk = s.disk := by
  cases e with
  | store op => exact absurd rfl (hstore op)
  | arrive request => rw [show s' = s from h]
  | lock => rw [h.2]
  | unlock => rw [show s' = _ from h]
  | lookup workloadID => rw [h.2]
  | acquire =>
    cases r with
    | error err => rw [show s' = s from h]
    | ok lease => rw [h.2]
  | start spawn => rw [h.2]
  | attach workloadID => rw [h.2]
  | detach workloadID subscriber =>
    rw [h.2, detachFrom]
    split <;> rfl
  | begin req requestSHA256 =>
    obtain ⟨spawn, -, -, -, rfl⟩ := h
    rfl
  | contextErr serial => rw [h.2]
  | notify workloadID =>
    rw [h.2, notifyAll]
    split <;> rfl
  | finish workloadID =>
    rw [h.2.2, finishExecution]
    split <;> rfl
  | select subscriber =>
    cases r with
    | notified isOpen => rw [h.2.2]
    | tick => rw [show s' = s from h]
    | gone => rw [show s' = s from h]
  | reply reply => rw [show s' = s from h]

theorem DiskSound.step (hsound : DiskSound P s.disk) (hrule : abrRule runner h e)
    (hexec : execute P s e r s') : DiskSound P s'.disk := by
  by_cases hstore : ∃ op, e = .store op
  · obtain ⟨op, rfl⟩ := hstore
    obtain ⟨faults, -, rfl⟩ := hexec
    obtain ⟨appended, hsound⟩ := hsound
    have hnext := @StoreRun.Sound.step _ _ (op, faults) hsound (abrRule_fits hrule)
    exact ⟨_, hnext⟩
  · rw [execute_disk_same hexec fun op heq => hstore ⟨op, heq⟩]
    exact hsound

theorem AbrRuns.diskSound (h : AbrRuns runner c) : DiskSound runner.toStorePlatform c.shared.disk := by
  refine Reachable.invariant (I := fun s _ => DiskSound runner.toStorePlatform s.disk)
    (fun _ hp => abr_obeys hp) ?_ ?_ h
  · rintro s ⟨disk, hdisk, rfl⟩
    exact hdisk
  · intro s log n e r s' hsound hrule hexec
    exact hsound.step hrule hexec

theorem Lives.runs {past : List (List (Nat × AbrEvent))} (h : Lives runner past c) : AbrRuns runner c := by
  induction h with
  | first hreach =>
    refine hreach.mono ?_
    rintro s rfl
    exact ⟨.empty, ⟨fun _ => 0, fun _ => .inl ⟨rfl, rfl⟩⟩, rfl⟩
  | restarted _ hreach ih =>
    refine hreach.mono ?_
    rintro s rfl
    exact ⟨_, ih.diskSound, rfl⟩

theorem AbrRuns.exclusive (h : AbrRuns runner c) : Exclusive c.shared c.log := by
  refine Reachable.invariant (I := Exclusive) (fun _ hp => abr_obeys hp) ?_ ?_ h
  · intro s _
    exact ⟨nofun, nofun⟩
  · intro s log n e r s' hex hrule hexec
    exact hex.step hrule (execute_moves hexec)

/-! ## What was looked up -/

/-- What was looked up inside the mutex is still so until the program acts on it. -/
def Looked (s : AbrState) (log : List (Nat × AbrEvent)) : Prop :=
  ∀ n first workloadID found count rest,
    sectionAt log n = some (first :: lookedUp workloadID found count :: rest) →
    (∀ event ∈ rest, event.effect = .acquire) →
    findExecution s.active workloadID = found ∧ s.active.length = count

theorem sectionAt_move (hrule : abrRule runner (history n log) e) (r : e.Answer) :
    SectionMove runner (history n log) (sectionAt log n) ⟨e, r⟩ (sectionAt (log ++ [(n, ⟨e, r⟩)]) n) := by
  have hmove := abrRule_sectionMove hrule r
  rw [← history_own] at hmove
  exact hmove

theorem Looked.step (h : Looked s log) (hex : Exclusive s log) (hrule : abrRule runner (history n log) e)
    (hexec : execute P s e r s') : Looked s' (log ++ [(n, ⟨e, r⟩)]) := by
  intro m first workloadID found count rest hafter hrest
  by_cases hm : n = m
  · subst hm
    have hmove := sectionAt_move hrule r
    have hbefore := h n
    generalize sectionAt log n = before at hmove hbefore
    rw [hafter] at hmove
    cases hmove with
    | lookup =>
      obtain ⟨hanswer, rfl⟩ := hexec
      exact ⟨(congrArg Prod.fst hanswer).symm, (congrArg Prod.snd hanswer).symm⟩
    | acquire answer =>
      have hsame : s'.active = s.active := by
        cases execute_moves hexec with
        | quiet _ hsame => exact hsame.active
        | refused | acquire => rfl
      rw [hsame]
      exact hbefore _ _ _ _ _ rfl nofun
    | start => exact absurd (hrest _ (List.mem_cons_of_mem _ List.mem_cons_self)) nofun
    | join => exact absurd (hrest _ List.mem_cons_self) nofun
    | attach => exact absurd (hrest _ (List.mem_cons_of_mem _ List.mem_cons_self)) nofun
  · rw [sectionAt_other hm] at hafter
    rw [hex.active_same hrule (execute_moves hexec) hm (by rw [hafter]; rfl)]
    exact h m first workloadID found count rest hafter hrest

theorem AbrRuns.looked (h : AbrRuns runner c) : Looked c.shared c.log := by
  refine Reachable.invariant_of (K := Exclusive) (I := Looked) AbrRuns.exclusive (fun _ hp => abr_obeys hp)
    ?_ ?_ h
  · intro s _ n first workloadID found count rest hsection
    cases hsection
  · intro s log n e r s' hex hlooked hrule hexec _
    exact hlooked.step hex hrule hexec

/-! ## Started and active -/

def Started (log : List (Nat × AbrEvent)) (serial : Nat) (spawn : Spawn) : Prop :=
  ∃ n, (n, started spawn serial) ∈ log

def Ended (log : List (Nat × AbrEvent)) (serial : Nat) : Prop :=
  ∃ n workloadID execution, ((n, ⟨.finish workloadID, some execution⟩) : Nat × AbrEvent) ∈ log ∧
    execution.serial = serial

/-- Executions that were started and have not been finished. -/
def Active (log : List (Nat × AbrEvent)) (serial : Nat) (spawn : Spawn) : Prop :=
  Started log serial spawn ∧ ¬ Ended log serial

structure Registered where
  workloadID : String
  serial : Nat
  requestSHA256 : String
  lease : Nat

def Spawn.registered (spawn : Spawn) (serial : Nat) : Registered :=
  ⟨spawn.req.workloadID, serial, spawn.requestSHA256, spawn.lease⟩

def roster (active : List (String × Execution)) : List Registered :=
  active.map fun entry => ⟨entry.1, entry.2.serial, entry.2.requestSHA256, entry.2.lease⟩

theorem roster_setSubscribers (active : List (String × Execution)) (workloadID : String)
    (change : List Nat → List Nat) : roster (setSubscribers active workloadID change) = roster active := by
  rw [roster, setSubscribers, List.map_map]
  apply List.map_congr_left
  intro entry _
  simp only [Function.comp_apply]
  split <;> rfl

variable {active : List (String × Execution)} {workloadID requestSHA256 : String} {serial : Nat}
  {spawn : Spawn} {disk : Disk}

theorem mem_roster_remove {entry : Registered} :
    entry ∈ roster (removeExecution active workloadID) ↔ entry ∈ roster active ∧ entry.workloadID ≠ workloadID := by
  unfold roster removeExecution
  constructor
  · intro h
    obtain ⟨old, hold, rfl⟩ := List.mem_map.mp h
    obtain ⟨hold, hne⟩ := List.mem_filter.mp hold
    exact ⟨List.mem_map_of_mem hold, by simpa using hne⟩
  · rintro ⟨h, hne⟩
    obtain ⟨old, hold, rfl⟩ := List.mem_map.mp h
    exact List.mem_map_of_mem (List.mem_filter.mpr ⟨hold, by simpa using hne⟩)

theorem roster_keys (active : List (String × Execution)) :
    (roster active).map Registered.workloadID = active.map Prod.fst := by
  rw [roster, List.map_map]
  rfl

theorem roster_unique (hkeys : (active.map Prod.fst).Nodup)
    {entry other : Registered} (hentry : entry ∈ roster active) (hother : other ∈ roster active)
    (hsame : entry.workloadID = other.workloadID) : entry = other := by
  rw [← roster_keys] at hkeys
  exact List.inj_on_of_nodup_map hkeys hentry hother hsame

theorem mem_roster_of_find {execution : Execution}
    (h : findExecution active workloadID = some execution) :
    ⟨workloadID, execution.serial, execution.requestSHA256, execution.lease⟩ ∈ roster active :=
  List.mem_map.mpr ⟨_, mem_of_findExecution h, rfl⟩

theorem find_of_mem_roster (hkeys : (active.map Prod.fst).Nodup)
    {entry : Registered} (h : entry ∈ roster active) :
    ∃ execution, findExecution active entry.workloadID = some execution ∧
      entry = ⟨entry.workloadID, execution.serial, execution.requestSHA256, execution.lease⟩ := by
  obtain ⟨⟨workloadID, execution⟩, hmem, rfl⟩ := List.mem_map.mp h
  exact ⟨execution, findExecution_of_mem hkeys hmem, rfl⟩

/-! ## Programs of executions -/

def Effect.launches : Effect → Bool
  | .start _ | .begin _ _ => true
  | _ => false

theorem mem_concat_launches {log : List (Nat × AbrEvent)} {n : Nat} {e : Effect} {r : e.Answer}
    (hplain : e.launches = false) {entry : Nat × AbrEvent} (hentry : entry.2.effect.launches = true) :
    entry ∈ log ++ [(n, ⟨e, r⟩)] ↔ entry ∈ log := by
  constructor
  · intro h
    rcases List.mem_append.mp h with h | h
    · exact h
    · rw [List.mem_singleton.mp h, hplain] at hentry
      cases hentry
  · intro h
    exact List.mem_append_left _ h

/-- Every serial belongs to one start and at most one program. -/
structure Threads (s : AbrState) (log : List (Nat × AbrEvent)) : Prop where
  below : ∀ serial spawn, Started log serial spawn → serial < s.executions
  one : ∀ serial spawn other, Started log serial spawn → Started log serial other → spawn = other
  spawned : ∀ serial spawn, (serial, spawn) ∈ s.spawned → Started log serial spawn ∧
    ∀ n req sha, ((n, ⟨.begin req sha, serial⟩) : Nat × AbrEvent) ∉ log
  begun : ∀ n req sha serial, ((n, ⟨.begin req sha, serial⟩) : Nat × AbrEvent) ∈ log →
    ∃ spawn, Started log serial spawn ∧ spawn.req = req ∧ spawn.requestSHA256 = sha
  runs : ∀ n m req sha req' sha' serial, ((n, ⟨.begin req sha, serial⟩) : Nat × AbrEvent) ∈ log →
    ((m, ⟨.begin req' sha', serial⟩) : Nat × AbrEvent) ∈ log → n = m

theorem started_concat_iff {event : AbrEvent} :
    Started (log ++ [(n, event)]) serial spawn ↔ Started log serial spawn ∨ event = started spawn serial := by
  unfold Started
  constructor
  · rintro ⟨m, hm⟩
    rcases List.mem_append.mp hm with hm | hm
    · exact .inl ⟨m, hm⟩
    · cases List.mem_singleton.mp hm
      exact .inr rfl
  · rintro (⟨m, hm⟩ | rfl)
    · exact ⟨m, List.mem_append_left _ hm⟩
    · exact ⟨n, List.mem_append_right _ (List.mem_singleton_self _)⟩

theorem started_concat_same (hstart : ∀ spawn, e ≠ .start spawn) :
    Started (log ++ [(n, ⟨e, r⟩)]) serial spawn ↔ Started log serial spawn := by
  rw [started_concat_iff, or_iff_left]
  intro heq
  cases heq
  exact hstart spawn rfl

theorem ended_concat_same (hfinish : ∀ workloadID, e ≠ .finish workloadID) :
    Ended (log ++ [(n, ⟨e, r⟩)]) serial ↔ Ended log serial := by
  unfold Ended
  constructor
  · rintro ⟨m, workloadID, execution, hm, hserial⟩
    rcases List.mem_append.mp hm with hm | hm
    · exact ⟨m, workloadID, execution, hm, hserial⟩
    · cases List.mem_singleton.mp hm
      exact absurd rfl (hfinish workloadID)
  · rintro ⟨m, workloadID, execution, hm, hserial⟩
    exact ⟨m, workloadID, execution, List.mem_append_left _ hm, hserial⟩

theorem Threads.plain (h : Threads s log) (hplain : e.launches = false) (hexecutions : s'.executions = s.executions)
    (hspawned : s'.spawned = s.spawned) : Threads s' (log ++ [(n, ⟨e, r⟩)]) := by
  have hstart : ∀ spawn, e ≠ .start spawn := by
    rintro spawn rfl
    cases hplain
  constructor
  · intro serial spawn hstarted
    rw [hexecutions]
    exact h.below serial spawn ((started_concat_same hstart).mp hstarted)
  · intro serial spawn other hspawn hother
    exact h.one serial spawn other ((started_concat_same hstart).mp hspawn)
      ((started_concat_same hstart).mp hother)
  · intro serial spawn hmem
    rw [hspawned] at hmem
    obtain ⟨hstarted, hnone⟩ := h.spawned serial spawn hmem
    refine ⟨(started_concat_same hstart).mpr hstarted, ?_⟩
    intro m req sha hbegin
    exact hnone m req sha ((mem_concat_launches hplain rfl).mp hbegin)
  · intro m req sha serial hbegin
    obtain ⟨spawn, hstarted, hreq⟩ := h.begun m req sha serial ((mem_concat_launches hplain rfl).mp hbegin)
    exact ⟨spawn, (started_concat_same hstart).mpr hstarted, hreq⟩
  · intro m m' req sha req' sha' serial hbegin hbegin'
    exact h.runs m m' req sha req' sha' serial ((mem_concat_launches hplain rfl).mp hbegin)
      ((mem_concat_launches hplain rfl).mp hbegin')

theorem mem_concat_ne {entry last : Nat × AbrEvent} (h : entry ∈ log ++ [last]) (hne : entry ≠ last) :
    entry ∈ log := by
  rcases List.mem_append.mp h with h | h
  · exact h
  · exact absurd (List.mem_singleton.mp h) hne

theorem Threads.start (h : Threads s log) (spawn : Spawn) (hexecutions : s'.executions = s.executions + 1)
    (hspawned : s'.spawned = (s.executions, spawn) :: s.spawned) :
    Threads s' (log ++ [(n, started spawn s.executions)]) := by
  have hfresh : ∀ other, ¬ Started log s.executions other :=
    fun other hother => Nat.lt_irrefl _ (h.below _ other hother)
  have hunbegun : ∀ m req sha, ((m, ⟨.begin req sha, s.executions⟩) : Nat × AbrEvent) ∉ log := by
    intro m req sha hbegin
    obtain ⟨other, hother, -⟩ := h.begun m req sha _ hbegin
    exact hfresh other hother
  constructor
  · intro serial other hstarted
    rw [hexecutions]
    rcases started_concat_iff.mp hstarted with hstarted | heq
    · exact Nat.lt_succ_of_lt (h.below serial other hstarted)
    · cases heq
      exact Nat.lt_succ_self _
  · intro serial first second hfirst hsecond
    rcases started_concat_iff.mp hfirst with hfirst | heq
    · rcases started_concat_iff.mp hsecond with hsecond | heq
      · exact h.one serial first second hfirst hsecond
      · cases heq
        exact absurd hfirst (hfresh first)
    · cases heq
      rcases started_concat_iff.mp hsecond with hsecond | heq
      · exact absurd hsecond (hfresh second)
      · cases heq
        rfl
  · intro serial other hmem
    rw [hspawned] at hmem
    rcases List.mem_cons.mp hmem with heq | hmem
    · cases heq
      refine ⟨started_concat_iff.mpr (.inr rfl), ?_⟩
      intro m req sha hbegin
      exact hunbegun m req sha (mem_concat_ne hbegin nofun)
    · obtain ⟨hstarted, hnone⟩ := h.spawned serial other hmem
      refine ⟨started_concat_iff.mpr (.inl hstarted), ?_⟩
      intro m req sha hbegin
      exact hnone m req sha (mem_concat_ne hbegin nofun)
  · intro m req sha serial hbegin
    obtain ⟨other, hstarted, hreq⟩ := h.begun m req sha serial (mem_concat_ne hbegin nofun)
    exact ⟨other, started_concat_iff.mpr (.inl hstarted), hreq⟩
  · intro m m' req sha req' sha' serial hbegin hbegin'
    exact h.runs m m' req sha req' sha' serial (mem_concat_ne hbegin nofun) (mem_concat_ne hbegin' nofun)

theorem Threads.begin (h : Threads s log) (hmem : (serial, spawn) ∈ s.spawned)
    (hexecutions : s'.executions = s.executions)
    (hspawned : s'.spawned = s.spawned.filter fun other => decide (other.1 ≠ serial)) :
    Threads s' (log ++ [(n, ⟨.begin spawn.req spawn.requestSHA256, serial⟩)]) := by
  obtain ⟨hstarted, hunbegun⟩ := h.spawned serial spawn hmem
  have hsame : ∀ other number, Started (log ++ [(n, ⟨.begin spawn.req spawn.requestSHA256, serial⟩)]) number other ↔
      Started log number other := by
    intro other number
    exact started_concat_same (e := .begin spawn.req spawn.requestSHA256) nofun
  constructor
  · intro number other hother
    rw [hexecutions]
    exact h.below number other ((hsame _ _).mp hother)
  · intro number first second hfirst hsecond
    exact h.one number first second ((hsame _ _).mp hfirst) ((hsame _ _).mp hsecond)
  · intro number other hother
    rw [hspawned] at hother
    obtain ⟨hother, hne⟩ := List.mem_filter.mp hother
    have hne : number ≠ serial := of_decide_eq_true hne
    obtain ⟨hotherStarted, hnone⟩ := h.spawned number other hother
    refine ⟨(hsame _ _).mpr hotherStarted, ?_⟩
    intro m req sha hbegin
    refine hnone m req sha (mem_concat_ne hbegin ?_)
    intro heq
    cases heq
    exact hne rfl
  · intro m req sha number hbegin
    rcases List.mem_append.mp hbegin with hbegin | hbegin
    · obtain ⟨other, hother, hreq⟩ := h.begun m req sha number hbegin
      exact ⟨other, (hsame _ _).mpr hother, hreq⟩
    · cases List.mem_singleton.mp hbegin
      exact ⟨spawn, (hsame _ _).mpr hstarted, rfl, rfl⟩
  · intro m m' req sha req' sha' number hbegin hbegin'
    rcases List.mem_append.mp hbegin with hbegin | hbegin
    · rcases List.mem_append.mp hbegin' with hbegin' | hbegin'
      · exact h.runs m m' req sha req' sha' number hbegin hbegin'
      · cases List.mem_singleton.mp hbegin'
        exact absurd hbegin (hunbegun m req sha)
    · cases List.mem_singleton.mp hbegin
      rcases List.mem_append.mp hbegin' with hbegin' | hbegin'
      · exact absurd hbegin' (hunbegun m' req' sha')
      · cases List.mem_singleton.mp hbegin'
        rfl

theorem Threads.step (h : Threads s log) (hexec : execute P s e r s') : Threads s' (log ++ [(n, ⟨e, r⟩)]) := by
  cases execute_moves hexec with
  | quiet hquiet hsame =>
    have hplain : e.launches = false := by
      cases e <;> first | rfl | exact absurd hquiet id
    exact h.plain hplain hsame.executions hsame.spawned
  | lock | unlock | refused | acquire | attach => exact h.plain rfl rfl rfl
  | start spawn => exact h.start spawn rfl rfl
  | detach workloadID subscriber =>
    refine h.plain rfl ?_ ?_
    · unfold detachFrom
      split <;> rfl
    · unfold detachFrom
      split <;> rfl
  | begin hspawned => exact h.begin hspawned rfl rfl
  | finish workloadID =>
    refine h.plain rfl ?_ ?_
    · unfold finishExecution
      split <;> rfl
    · unfold finishExecution
      split <;> rfl

theorem AbrRuns.threads (h : AbrRuns runner c) : Threads c.shared c.log := by
  refine Reachable.invariant (I := Threads) (fun _ hp => abr_obeys hp) ?_ ?_ h
  · rintro s ⟨disk, -, rfl⟩
    have hnone : ∀ serial spawn, ¬ Started [] serial spawn := by
      rintro serial spawn ⟨n, hn⟩
      cases hn
    exact ⟨fun _ _ hs => absurd hs (hnone _ _), fun _ _ _ hs => absurd hs (hnone _ _), nofun, nofun, nofun⟩
  · intro s log n e r s' hthreads _ hexec
    exact hthreads.step hexec

/-! ## The registry -/

/-- The map holds the active executions, one for a workload and within the limit, and only
the program of an execution finishes it. -/
structure Registry (runner : Runner) (s : AbrState) (log : List (Nat × AbrEvent)) : Prop where
  keys : (s.active.map Prod.fst).Nodup
  room : s.active.length ≤ runner.limit
  listed : ∀ entry, entry ∈ roster s.active ↔ ∃ serial spawn, Active log serial spawn ∧ entry = spawn.registered serial
  ended : ∀ n workloadID answer, ((n, ⟨.finish workloadID, answer⟩) : Nat × AbrEvent) ∈ log →
    ∃ execution spawn, answer = some execution ∧ Started log execution.serial spawn ∧
      spawn.req.workloadID = workloadID ∧ execution.lease = spawn.lease ∧
      ((n, ⟨.begin spawn.req spawn.requestSHA256, execution.serial⟩) : Nat × AbrEvent) ∈ log

theorem Executing.begun
    (hexecuting : Executing h serial req requestSHA256) : (⟨.begin req requestSHA256, serial⟩ : AbrEvent) ∈ h :=
  List.mem_of_head? hexecuting.1

theorem Registry.executing (h : Registry runner s log) (hthreads : Threads s log)
    (hexecuting : Executing (history n log) serial req requestSHA256) :
    ∃ spawn, Active log serial spawn ∧ spawn.req = req ∧ spawn.requestSHA256 = requestSHA256 := by
  have hbegun := mem_history.mp hexecuting.begun
  obtain ⟨spawn, hstarted, hspawn⟩ := hthreads.begun _ _ _ _ hbegun
  refine ⟨spawn, ⟨hstarted, ?_⟩, hspawn⟩
  rintro ⟨m, workloadID, execution, hfinish, hserial⟩
  obtain ⟨found, other, hfound, -, -, -, hbegin⟩ := h.ended m workloadID _ hfinish
  cases hfound
  rw [hserial] at hbegin
  have hm := hthreads.runs _ _ _ _ _ _ _ hbegun hbegin
  subst hm
  exact hexecuting.2 _ (mem_history.mpr hfinish) workloadID rfl

theorem Registry.finds (h : Registry runner s log)
    (hactive : Active log serial spawn) : ∃ execution, findExecution s.active spawn.req.workloadID = some execution ∧
      execution.serial = serial ∧ execution.requestSHA256 = spawn.requestSHA256 ∧
      execution.lease = spawn.lease := by
  have hmem : spawn.registered serial ∈ roster s.active := (h.listed _).mpr ⟨serial, spawn, hactive, rfl⟩
  obtain ⟨execution, hfind, heq⟩ := find_of_mem_roster h.keys hmem
  have hserial := congrArg Registered.serial heq
  have hsha := congrArg Registered.requestSHA256 heq
  have hlease := congrArg Registered.lease heq
  exact ⟨execution, hfind, hserial.symm, hsha.symm, hlease.symm⟩

theorem active_concat_same (hstart : ∀ spawn, e ≠ .start spawn)
    (hfinish : ∀ workloadID, e ≠ .finish workloadID)
    : Active (log ++ [(n, ⟨e, r⟩)]) serial spawn ↔ Active log serial spawn := by
  rw [Active, Active, started_concat_same hstart, ended_concat_same hfinish]

theorem Registry.ended_concat (h : Registry runner s log) (last : Nat × AbrEvent) {m : Nat}
    {answer : Option Execution} (hmem : ((m, ⟨.finish workloadID, answer⟩) : Nat × AbrEvent) ∈ log) :
    ∃ execution spawn, answer = some execution ∧ Started (log ++ [last]) execution.serial spawn ∧
      spawn.req.workloadID = workloadID ∧ execution.lease = spawn.lease ∧
      ((m, ⟨.begin spawn.req spawn.requestSHA256, execution.serial⟩) : Nat × AbrEvent) ∈ log ++ [last] := by
  obtain ⟨execution, spawn, hanswer, ⟨starter, hstarted⟩, hid, hlease, hbegin⟩ := h.ended m workloadID answer hmem
  exact ⟨execution, spawn, hanswer, ⟨starter, List.mem_append_left _ hstarted⟩, hid, hlease,
    List.mem_append_left _ hbegin⟩

theorem Registry.same (h : Registry runner s log) (hstart : ∀ spawn, e ≠ .start spawn)
    (hfinish : ∀ workloadID, e ≠ .finish workloadID) (hkeys : s'.active.map Prod.fst = s.active.map Prod.fst)
    (hroster : roster s'.active = roster s.active) : Registry runner s' (log ++ [(n, ⟨e, r⟩)]) := by
  constructor
  · rw [hkeys]
    exact h.keys
  · have hlength := congrArg List.length hkeys
    rw [List.length_map, List.length_map] at hlength
    rw [hlength]
    exact h.room
  · intro entry
    simp only [hroster, h.listed, active_concat_same hstart hfinish]
  · intro m workloadID answer hmem
    refine h.ended_concat _ (mem_concat_ne hmem ?_)
    intro heq
    cases heq
    exact hfinish workloadID rfl

theorem not_ended_executions (h : Registry runner s log) (hthreads : Threads s log) : ¬ Ended log s.executions := by
  rintro ⟨m, workloadID, execution, hfinish, hserial⟩
  obtain ⟨found, spawn, hfound, hstarted, -⟩ := h.ended m workloadID _ hfinish
  cases hfound
  rw [hserial] at hstarted
  exact Nat.lt_irrefl _ (hthreads.below _ _ hstarted)

theorem Registry.start (h : Registry runner s log) (hthreads : Threads s log)
    (hnone : findExecution s.active spawn.req.workloadID = none) (hroom : s.active.length < runner.limit)
    (hactive : s'.active =
      (spawn.req.workloadID, ⟨s.executions, spawn.requestSHA256, [], spawn.lease⟩) :: s.active) :
    Registry runner s' (log ++ [(n, started spawn s.executions)]) := by
  have hended : ∀ number, Ended (log ++ [(n, started spawn s.executions)]) number ↔ Ended log number :=
    fun number => ended_concat_same (e := .start spawn) nofun
  have hcons : roster s'.active = spawn.registered s.executions :: roster s.active := by
    rw [hactive]
    rfl
  constructor
  · rw [hactive, List.map_cons, List.nodup_cons]
    refine ⟨?_, h.keys⟩
    intro hmem
    obtain ⟨⟨workloadID, execution⟩, hmem, rfl⟩ := List.mem_map.mp hmem
    rw [findExecution_of_mem h.keys hmem] at hnone
    cases hnone
  · rw [hactive]
    exact hroom
  · intro entry
    rw [hcons, List.mem_cons, h.listed]
    constructor
    · rintro (rfl | ⟨number, other, ⟨hstarted, hopen⟩, rfl⟩)
      · refine ⟨s.executions, spawn, ⟨started_concat_iff.mpr (.inr rfl), ?_⟩, rfl⟩
        rw [hended]
        exact not_ended_executions h hthreads
      · refine ⟨number, other, ⟨started_concat_iff.mpr (.inl hstarted), ?_⟩, rfl⟩
        rw [hended]
        exact hopen
    · rintro ⟨number, other, ⟨hstarted, hopen⟩, rfl⟩
      rw [hended] at hopen
      rcases started_concat_iff.mp hstarted with hstarted | heq
      · exact .inr ⟨number, other, ⟨hstarted, hopen⟩, rfl⟩
      · cases heq
        exact .inl rfl
  · intro m workloadID answer hmem
    exact h.ended_concat _ (mem_concat_ne hmem nofun)

theorem ended_concat_finish {execution : Execution} :
    Ended (log ++ [(n, ⟨.finish workloadID, some execution⟩)]) serial ↔
      Ended log serial ∨ execution.serial = serial := by
  unfold Ended
  constructor
  · rintro ⟨m, workloadID, other, hm, hserial⟩
    rcases List.mem_append.mp hm with hm | hm
    · exact .inl ⟨m, workloadID, other, hm, hserial⟩
    · cases List.mem_singleton.mp hm
      exact .inr hserial
  · rintro (⟨m, workloadID, other, hm, hserial⟩ | hserial)
    · exact ⟨m, workloadID, other, List.mem_append_left _ hm, hserial⟩
    · exact ⟨n, workloadID, execution, List.mem_append_right _ (List.mem_singleton_self _), hserial⟩

theorem Registry.own (h : Registry runner s log) (hthreads : Threads s log)
    (hrule : abrRule runner (history n log) (.finish workloadID)) :
    ∃ execution spawn, findExecution s.active workloadID = some execution ∧ Active log execution.serial spawn ∧
      spawn.req.workloadID = workloadID ∧ execution.lease = spawn.lease ∧
      ((n, ⟨.begin spawn.req spawn.requestSHA256, execution.serial⟩) : Nat × AbrEvent) ∈ log := by
  obtain ⟨-, serial, req, sha, hexecuting, rfl, -⟩ := hrule
  obtain ⟨spawn, hactive, rfl, rfl⟩ := h.executing hthreads hexecuting
  obtain ⟨execution, hfind, rfl, -, hlease⟩ := h.finds hactive
  exact ⟨execution, spawn, hfind, hactive, rfl, hlease, mem_history.mp hexecuting.begun⟩

theorem Registry.finish (h : Registry runner s log) (hthreads : Threads s log)
    (hrule : abrRule runner (history n log) (.finish workloadID)) :
    Registry runner (finishExecution s workloadID)
      (log ++ [(n, ⟨.finish workloadID, findExecution s.active workloadID⟩)]) := by
  obtain ⟨execution, spawn, hfind, hactive, rfl, hlease, hbegun⟩ := h.own hthreads hrule
  have hremoved : (finishExecution s spawn.req.workloadID).active =
      removeExecution s.active spawn.req.workloadID := by
    unfold finishExecution
    rw [hfind]
  have hstarted : ∀ number other, Started (log ++ [(n, ⟨.finish spawn.req.workloadID, some execution⟩)])
      number other ↔ Started log number other := by
    intro number other
    exact started_concat_same (e := .finish spawn.req.workloadID) nofun
  have hmem : spawn.registered execution.serial ∈ roster s.active :=
    (h.listed _).mpr ⟨_, spawn, hactive, rfl⟩
  rw [hfind]
  constructor
  · rw [hremoved]
    exact h.keys.sublist (List.filter_sublist.map Prod.fst)
  · rw [hremoved]
    exact (List.length_filter_le _ _).trans h.room
  · intro entry
    rw [hremoved, mem_roster_remove, h.listed]
    constructor
    · rintro ⟨⟨number, other, ⟨hother, hopen⟩, rfl⟩, hne⟩
      refine ⟨number, other, ⟨(hstarted _ _).mpr hother, ?_⟩, rfl⟩
      rw [ended_concat_finish]
      rintro (hends | rfl)
      · exact hopen hends
      · rw [hthreads.one _ _ _ hother hactive.1] at hne
        exact hne rfl
    · rintro ⟨number, other, ⟨hother, hopen⟩, rfl⟩
      rw [ended_concat_finish, not_or] at hopen
      have hother := (hstarted _ _).mp hother
      refine ⟨⟨number, other, ⟨hother, hopen.1⟩, rfl⟩, ?_⟩
      intro hsame
      have hlisted : other.registered number ∈ roster s.active :=
        (h.listed _).mpr ⟨number, other, ⟨hother, hopen.1⟩, rfl⟩
      have heq := roster_unique h.keys hlisted hmem hsame
      exact hopen.2 (congrArg Registered.serial heq).symm
  · intro m workloadID answer hends
    rcases List.mem_append.mp hends with hends | hends
    · exact h.ended_concat _ hends
    · cases List.mem_singleton.mp hends
      exact ⟨execution, spawn, rfl, (hstarted _ _).mpr hactive.1, rfl, hlease, List.mem_append_left _ hbegun⟩

theorem Registry.step (h : Registry runner s log) (hthreads : Threads s log) (hlooked : Looked s log)
    (hrule : abrRule runner (history n log) e) (hexec : execute P s e r s') :
    Registry runner s' (log ++ [(n, ⟨e, r⟩)]) := by
  cases execute_moves hexec with
  | quiet hquiet hsame =>
    refine h.same ?_ ?_ ?_ ?_
    · intro spawn heq
      subst heq
      exact hquiet
    · intro workloadID heq
      subst heq
      exact hquiet
    · rw [hsame.active]
    · rw [hsame.active]
  | lock | unlock | refused | acquire | begin => exact h.same nofun nofun rfl rfl
  | attach workloadID =>
    exact h.same nofun nofun (map_fst_setSubscribers _) (roster_setSubscribers _ _ _)
  | start spawn =>
    obtain ⟨record, count, hsection, -, -, hlimit, -⟩ := hrule
    obtain ⟨hnone, hcount⟩ := hlooked n _ _ _ _ _ hsection (by
      intro event hevent
      rw [List.mem_singleton.mp hevent]
      rfl)
    exact h.start hthreads hnone (hcount ▸ hlimit) rfl
  | detach workloadID subscriber =>
    refine h.same nofun nofun ?_ ?_
    · unfold detachFrom
      split
      · rfl
      · exact map_fst_setSubscribers _
    · unfold detachFrom
      split
      · rfl
      · exact roster_setSubscribers _ _ _
  | finish workloadID => exact h.finish hthreads hrule

theorem AbrRuns.registry (h : AbrRuns runner c) : Registry runner c.shared c.log := by
  refine Reachable.invariant_of (K := fun s log => Threads s log ∧ Looked s log) (I := Registry runner)
    (fun h => ⟨AbrRuns.threads h, AbrRuns.looked h⟩) (fun _ hp => abr_obeys hp) ?_ ?_ h
  · rintro s ⟨disk, -, rfl⟩
    refine ⟨List.nodup_nil, Nat.zero_le _, ?_, nofun⟩
    intro entry
    constructor
    · intro hentry
      cases hentry
    · rintro ⟨serial, spawn, ⟨⟨n, hn⟩, -⟩, -⟩
      cases hn
  · intro s log n e r s' ⟨hthreads, hlooked⟩ hregistry hrule hexec _
    exact hregistry.step hthreads hlooked hrule hexec

/-! ## Journals of workloads about to be started -/

/-- A journal that was found in progress inside the mutex is still so, unless an execution of
the workload is registered. -/
def LoadedRunning (s : AbrState) (log : List (Nat × AbrEvent)) : Prop :=
  ∀ n workloadID record rest, sectionAt log n = some (loaded workloadID record :: rest) →
    record.state = .inProgress →
    (∃ current, s.disk.read workloadID = some current ∧ current.state = .inProgress) ∨
      (findExecution s.active workloadID).isSome

theorem Placed.names {P : StorePlatform} {event : Bool}
    {next : WorkloadJournalV2} (h : Placed P disk workloadID event next) : next.workloadID = workloadID := by
  cases h with
  | created => rfl
  | moved hload _ hmove =>
    obtain ⟨-, hid, -⟩ := loadLocked_ok hload
    cases hmove <;> exact hid

variable {faults : Faults} {record : WorkloadJournalV2}

theorem Operation.Fits.read_other (hfits : op.Fits) (hne : workloadID ≠ op.workloadID) :
    (disk.after (op.perform P faults disk).saved).read workloadID = disk.read workloadID := by
  cases hsaved : (op.perform P faults disk).saved with
  | none => rfl
  | some next =>
    have hid := (op.perform_saved hfits hsaved).names
    rw [Disk.read, disk.after_other (hid ▸ hne)]
    rfl

/-- What `Load` answers is the journal of the file. -/
theorem load_answers (hsound : DiskSound P disk)
    (h : ((Operation.load workloadID).perform P faults disk).answer = .ok record) :
    disk.read workloadID = some record := by
  obtain ⟨appended, hsound⟩ := hsound
  obtain ⟨current, hload, rfl⟩ := map_ok h
  have hread := (loadLocked_ok hload).1
  rw [(hsound.read hread).2.2.kept.clone]
  exact hread

/-- What `LoadOrCreate` answers is the journal of the file, or the one it has just put there. -/
theorem loadOrCreate_answers {disposition : WorkloadReplayDispositionV2} (hsound : DiskSound P disk)
    (h : ((Operation.loadOrCreate workloadID requestSHA256).perform P faults disk).answer =
      .ok (record, disposition)) :
    (disk.after ((Operation.loadOrCreate workloadID requestSHA256).perform P faults disk).saved).read workloadID =
        some record ∧
      disposition = classifyWorkloadReplayV2 record.requestSHA256 requestSHA256 record.terminal := by
  obtain ⟨appended, hsound⟩ := hsound
  simp only [Operation.perform, loadOrCreate] at h ⊢
  split at h
  · cases h
  · rename_i hidentity
    rw [if_neg hidentity]
    simp only [not_or, not_not] at hidentity
    have hfresh : (freshJournal workloadID requestSHA256).Sound P 0 :=
      freshJournal_sound hidentity.1 hidentity.2
    split at h
    · rw [saveLocked_ok h]
      have hanswer : (record, disposition) =
          (cloneJournalV2 (freshJournal workloadID requestSHA256), .resumeExisting) := saveLocked_answer h
      cases hanswer
      rw [hfresh.kept.clone]
      refine ⟨hfresh.kept.read (disk.after_self hfresh.kept), ?_⟩
      exact (if_neg (not_not.mpr rfl)).symm
    · cases h
    · rename_i current hload
      have hread := (loadLocked_ok hload).1
      cases h
      rw [(hsound.read hread).2.2.kept.clone]
      exact ⟨hread, rfl⟩

theorem loadOrCreate_keeps {other sha : String} (hread : disk.read workloadID = some record) :
    (disk.after ((Operation.loadOrCreate other sha).perform P faults disk).saved).read workloadID =
      some record := by
  by_cases hid : workloadID = other
  · subst hid
    cases hsaved : ((Operation.loadOrCreate workloadID sha).perform P faults disk).saved with
    | none => exact hread
    | some next =>
      obtain ⟨-, -, hnone, -⟩ := loadOrCreate_saved hsaved
      rw [Disk.read, hnone] at hread
      cases hread
  · have hfits : (Operation.loadOrCreate other sha).Fits := trivial
    rw [hfits.read_other hid]
    exact hread

theorem LoadedRunning.store (hregistry : Registry runner s log) (hthreads : Threads s log)
    (hrule : abrRule runner (history n log) (.store op))
    (h : (∃ current, s.disk.read workloadID = some current ∧ current.state = .inProgress) ∨
      (findExecution s.active workloadID).isSome) :
    (∃ current, (s.disk.after (op.perform P faults s.disk).saved).read workloadID = some current ∧
      current.state = .inProgress) ∨ (findExecution s.active workloadID).isSome := by
  rcases h with ⟨current, hread, hstate⟩ | hsome
  · have hfits := abrRule_fits hrule
    have hexecution : ∀ serial req sha, Executing (history n log) serial req sha →
        req.workloadID = op.workloadID → (∃ current,
          (s.disk.after (op.perform P faults s.disk).saved).read workloadID = some current ∧
          current.state = .inProgress) ∨ (findExecution s.active workloadID).isSome := by
      intro serial req sha hexecuting hid
      by_cases hsame : workloadID = op.workloadID
      · obtain ⟨spawn, hactive, rfl, -⟩ := hregistry.executing hthreads hexecuting
        obtain ⟨execution, hfind, -⟩ := hregistry.finds hactive
        rw [hsame, ← hid, hfind]
        exact .inr rfl
      · rw [hfits.read_other hsame]
        exact .inl ⟨current, hread, hstate⟩
    cases op with
    | load other => exact .inl ⟨current, hread, hstate⟩
    | loadOrCreate other sha => exact .inl ⟨current, loadOrCreate_keeps hread, hstate⟩
    | _ =>
      obtain ⟨-, -, serial, req, sha, hexecuting, hid⟩ := hrule
      exact hexecution serial req sha hexecuting hid
  · exact .inr hsome

theorem LoadedRunning.step (h : LoadedRunning s log) (hsound : DiskSound P s.disk) (hex : Exclusive s log)
    (hregistry : Registry runner s log) (hthreads : Threads s log)
    (hrule : abrRule runner (history n log) e) (hexec : execute P s e r s') :
    LoadedRunning s' (log ++ [(n, ⟨e, r⟩)]) := by
  intro m workloadID record rest hafter hstate
  by_cases hm : n = m
  · subst hm
    have hmove := sectionAt_move hrule r
    have hbefore := h n
    generalize sectionAt log n = before at hmove hbefore
    rw [hafter] at hmove
    cases hmove with
    | load =>
      obtain ⟨faults, hanswer, rfl⟩ := hexec
      exact .inl ⟨record, load_answers hsound hanswer, hstate⟩
    | lookup =>
      obtain ⟨-, rfl⟩ := hexec
      exact hbefore _ _ _ rfl hstate
    | acquire answer =>
      have hnext := hbefore _ _ _ rfl hstate
      cases answer with
      | error err =>
        cases hexec
        exact hnext
      | ok lease =>
        obtain ⟨-, rfl⟩ := hexec
        exact hnext
    | start =>
      obtain ⟨-, rfl⟩ := hexec
      rw [findExecution_cons_self]
      exact .inr rfl
    | join =>
      obtain ⟨-, rfl⟩ := hexec
      rw [findExecution_setSubscribers, Option.isSome_map]
      exact hbefore _ _ _ rfl hstate
    | attach =>
      obtain ⟨-, rfl⟩ := hexec
      rw [findExecution_setSubscribers, Option.isSome_map]
      exact hbefore _ _ _ rfl hstate
  · rw [sectionAt_other hm] at hafter
    have hkept := h m workloadID record rest hafter hstate
    rw [hex.active_same hrule (execute_moves hexec) hm (by rw [hafter]; rfl)]
    by_cases hstore : ∃ op, e = .store op
    · obtain ⟨op, rfl⟩ := hstore
      obtain ⟨faults, -, rfl⟩ := hexec
      exact LoadedRunning.store hregistry hthreads hrule hkept
    · rw [execute_disk_same hexec fun op heq => hstore ⟨op, heq⟩]
      exact hkept

theorem AbrRuns.loadedRunning (h : AbrRuns runner c) : LoadedRunning c.shared c.log := by
  refine Reachable.invariant_of (K := fun s log => DiskSound runner.toStorePlatform s.disk ∧ Exclusive s log ∧
    Registry runner s log ∧ Threads s log) (I := LoadedRunning)
    (fun h => ⟨AbrRuns.diskSound h, AbrRuns.exclusive h, AbrRuns.registry h, AbrRuns.threads h⟩)
    (fun _ hp => abr_obeys hp) ?_ ?_ h
  · intro s _ n workloadID record rest hsection
    cases hsection
  · intro s log n e r s' ⟨hsound, hex, hregistry, hthreads⟩ hloaded hrule hexec _
    exact hloaded.step hsound hex hregistry hthreads hrule hexec

theorem AbrRuns.start_inProgress (h : AbrRuns runner c)
    (hrule : abrRule runner (history n c.log) (.start spawn)) :
    ∃ record, c.shared.disk.read spawn.req.workloadID = some record ∧ record.state = .inProgress := by
  obtain ⟨record, count, hsection, hstate, -⟩ := hrule
  have hnone := (h.looked n _ _ _ _ _ hsection (by
    intro event hevent
    rw [List.mem_singleton.mp hevent]
    rfl)).1
  rcases h.loadedRunning n _ _ _ hsection hstate with hrunning | hsome
  · exact hrunning
  · rw [hnone] at hsome
    cases hsome

end LivepeerTranscode.AbrRunner
