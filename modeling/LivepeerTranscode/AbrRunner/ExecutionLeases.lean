import LivepeerTranscode.AbrRunner.Executions

/-!
# GPU leases of executions

A lease is granted inside the mutex to the program that starts an execution with it next, and
is given back when that execution is finished. Every lease that was granted is open or was
given back once, and an open one belongs to an active execution or to a start about to happen.
-/

namespace LivepeerTranscode.AbrRunner
open Interaction Actors Checked GoText JsonText
set_option autoImplicit false

variable {s : AbrState} {log : List (Nat × AbrEvent)} {P : StorePlatform}
  {before after : List (Nat × AbrEvent)}

def grantedLease (event : AbrEvent) : Option Nat :=
  match event with
  | ⟨.acquire, .ok lease⟩ => some lease
  | _ => none

def releasedLease (event : AbrEvent) : Option Nat :=
  match event with
  | ⟨.finish _, some execution⟩ => some execution.lease
  | _ => none

def grants (log : List (Nat × AbrEvent)) : List Nat := log.filterMap fun entry => grantedLease entry.2

def releases (log : List (Nat × AbrEvent)) : List Nat := log.filterMap fun entry => releasedLease entry.2

/-- A program that holds a lease and starts its execution next. -/
def Pending (log : List (Nat × AbrEvent)) (n lease : Nat) : Prop :=
  ∃ first second, sectionAt log n = some [first, second, acquired lease]

structure Leases (s : AbrState) (log : List (Nat × AbrEvent)) : Prop where
  below : ∀ lease ∈ grants log, lease < s.granted
  nodup : (grants log).Nodup
  balance : (grants log).Perm (s.leases ++ releases log)
  leased : ∀ n serial spawn, (n, started spawn serial) ∈ log → (n, acquired spawn.lease) ∈ log
  one : ∀ serial spawn number other, Started log serial spawn → Started log number other →
    spawn.lease = other.lease → serial = number
  unstarted : ∀ n serial spawn, Pending log n spawn.lease → ¬ Started log serial spawn
  held : ∀ lease, lease ∈ s.leases ↔
    (∃ serial spawn, Active log serial spawn ∧ spawn.lease = lease) ∨ ∃ n, Pending log n lease

theorem mem_grants {lease : Nat} :
    lease ∈ grants log ↔ ∃ n, (n, acquired lease) ∈ log := by
  unfold grants
  rw [List.mem_filterMap]
  constructor
  · rintro ⟨⟨n, event⟩, hmem, hlease⟩
    dsimp only at hlease
    unfold grantedLease at hlease
    split at hlease
    · cases hlease
      exact ⟨n, hmem⟩
    · cases hlease
  · rintro ⟨n, hmem⟩
    exact ⟨_, hmem, rfl⟩

section
variable {runner : Runner} {P : StorePlatform} {s s' : AbrState} {log : List (Nat × AbrEvent)} {n m lease : Nat}
  {e : Effect} {r : e.Answer} {c : AbrScene}

theorem grants_same (hacquire : ∀ lease, (⟨e, r⟩ : AbrEvent) ≠ acquired lease) :
    grants (log ++ [(n, ⟨e, r⟩)]) = grants log := by
  have hnone : grantedLease ⟨e, r⟩ = none := by
    unfold grantedLease
    split
    · rename_i lease heq
      exact absurd heq (hacquire lease)
    · rfl
  rw [grants, List.filterMap_append, List.filterMap_cons, hnone]
  exact List.append_nil _

theorem releases_same (hfinish : ∀ workloadID, e ≠ .finish workloadID) :
    releases (log ++ [(n, ⟨e, r⟩)]) = releases log := by
  have hnone : releasedLease ⟨e, r⟩ = none := by
    unfold releasedLease
    split
    · rename_i workloadID execution heq
      cases heq
      exact absurd rfl (hfinish workloadID)
    · rfl
  rw [releases, List.filterMap_append, List.filterMap_cons, hnone]
  exact List.append_nil _

theorem Pending.starts (h : Pending log n lease) (hrule : abrRule runner (history n log) e) (r : e.Answer) :
    ∃ spawn, e = .start spawn ∧ spawn.lease = lease := by
  obtain ⟨first, second, hsection⟩ := h
  have hmove := sectionAt_move hrule r
  rw [hsection] at hmove
  generalize sectionAt (log ++ [(n, ⟨e, r⟩)]) n = after at hmove
  cases hmove with
  | leave hlast => exact absurd rfl (hlast lease)
  | start => exact ⟨_, rfl, rfl⟩

theorem pending_own (hrule : abrRule runner (history n log) e)
    (h : Pending (log ++ [(n, ⟨e, r⟩)]) n lease) : (⟨e, r⟩ : AbrEvent) = acquired lease := by
  obtain ⟨first, second, hsection⟩ := h
  have hmove := sectionAt_move hrule r
  rw [hsection] at hmove
  generalize sectionAt log n = before at hmove
  cases hmove with
  | acquire => rfl

theorem pending_other (hne : n ≠ m) (event : AbrEvent) :
    Pending (log ++ [(n, event)]) m lease ↔ Pending log m lease := by
  rw [Pending, Pending, sectionAt_other hne]

theorem pending_same (hrule : abrRule runner (history n log) e) (hstart : ∀ spawn, e ≠ .start spawn)
    (hacquire : ∀ lease, (⟨e, r⟩ : AbrEvent) ≠ acquired lease) :
    Pending (log ++ [(n, ⟨e, r⟩)]) m lease ↔ Pending log m lease := by
  by_cases hm : n = m
  · subst hm
    constructor
    · intro h
      exact absurd (pending_own hrule h) (hacquire lease)
    · intro h
      obtain ⟨spawn, heq, -⟩ := h.starts hrule r
      exact absurd heq (hstart spawn)
  · exact pending_other hm _

theorem Leases.same (h : Leases s log) (hrule : abrRule runner (history n log) e)
    (hstart : ∀ spawn, e ≠ .start spawn) (hfinish : ∀ workloadID, e ≠ .finish workloadID)
    (hacquire : ∀ lease, (⟨e, r⟩ : AbrEvent) ≠ acquired lease) (hleases : s'.leases = s.leases)
    (hgranted : s'.granted = s.granted) : Leases s' (log ++ [(n, ⟨e, r⟩)]) := by
  constructor
  · rw [grants_same hacquire, hgranted]
    exact h.below
  · rw [grants_same hacquire]
    exact h.nodup
  · rw [grants_same hacquire, releases_same hfinish, hleases]
    exact h.balance
  · intro m serial spawn hstarted
    refine List.mem_append_left _ (h.leased m serial spawn (mem_concat_ne hstarted ?_))
    intro heq
    cases heq
    exact hstart spawn rfl
  · intro serial spawn number other hspawn hother
    exact h.one serial spawn number other ((started_concat_same hstart).mp hspawn)
      ((started_concat_same hstart).mp hother)
  · intro m serial spawn hpending hspawn
    exact h.unstarted m serial spawn ((pending_same hrule hstart hacquire).mp hpending)
      ((started_concat_same hstart).mp hspawn)
  · intro lease
    simp only [hleases, h.held, active_concat_same hstart hfinish, pending_same hrule hstart hacquire]

theorem Leases.grant (h : Leases s log) (hrule : abrRule runner (history n log) .acquire) :
    Leases { s with granted := s.granted + 1, leases := s.granted :: s.leases }
      (log ++ [(n, acquired s.granted)]) := by
  have hgrants : grants (log ++ [(n, acquired s.granted)]) = grants log ++ [s.granted] := by
    rw [grants, List.filterMap_append]
    rfl
  have hreleases : releases (log ++ [(n, acquired s.granted)]) = releases log :=
    releases_same (e := .acquire) (by simp)
  have hstarted : ∀ serial spawn, Started (log ++ [(n, acquired s.granted)]) serial spawn ↔
      Started log serial spawn := fun _ _ => started_concat_same (e := .acquire) (by simp)
  have hactive : ∀ serial spawn, Active (log ++ [(n, acquired s.granted)]) serial spawn ↔
      Active log serial spawn := fun _ _ => active_concat_same (e := .acquire) (by simp) (by simp)
  have hfresh : ∀ serial spawn, Started log serial spawn → spawn.lease ≠ s.granted := by
    rintro serial spawn ⟨m, hm⟩ heq
    have hlt := h.below _ (mem_grants.mpr ⟨m, h.leased m serial spawn hm⟩)
    omega
  have hnotPending : ∀ lease, ¬ Pending log n lease := by
    intro lease hpending
    obtain ⟨spawn, heq, -⟩ := hpending.starts hrule (.ok s.granted)
    cases heq
  have hpending : ∀ m lease, Pending (log ++ [(n, acquired s.granted)]) m lease ↔
      Pending log m lease ∨ (m = n ∧ lease = s.granted) := by
    intro m lease
    by_cases hm : n = m
    · subst hm
      constructor
      · intro hafter
        cases pending_own (e := .acquire) hrule hafter
        exact .inr ⟨rfl, rfl⟩
      · rintro (hbefore | ⟨-, rfl⟩)
        · exact absurd hbefore (hnotPending lease)
        · obtain ⟨workloadID, record, count, hsection, -⟩ := hrule
          refine ⟨loaded workloadID record, lookedUp workloadID none count, ?_⟩
          rw [sectionAt_own, sectionAt, hsection]
          rfl
    · rw [pending_other hm]
      constructor
      · exact .inl
      · rintro (hbefore | ⟨rfl, -⟩)
        · exact hbefore
        · exact absurd rfl hm
  constructor
  · intro lease hlease
    rw [hgrants, List.mem_append, List.mem_singleton] at hlease
    rcases hlease with hlease | rfl
    · exact Nat.lt_succ_of_lt (h.below lease hlease)
    · exact Nat.lt_succ_self _
  · rw [hgrants]
    refine List.nodup_append.mpr ⟨h.nodup, List.nodup_singleton _, ?_⟩
    intro lease hlease other hother heq
    rw [List.mem_singleton.mp hother] at heq
    exact absurd (h.below lease hlease) (heq ▸ Nat.lt_irrefl _)
  · rw [hgrants, hreleases]
    exact (List.perm_append_singleton _ _).trans (h.balance.cons _)
  · intro m serial spawn hm
    exact List.mem_append_left _ (h.leased m serial spawn (mem_concat_ne hm fun heq => by cases heq))
  · intro serial spawn number other hspawn hother
    exact h.one serial spawn number other ((hstarted _ _).mp hspawn) ((hstarted _ _).mp hother)
  · intro m serial spawn hafter hspawn
    have hspawn := (hstarted _ _).mp hspawn
    rcases (hpending _ _).mp hafter with hbefore | ⟨-, heq⟩
    · exact h.unstarted m serial spawn hbefore hspawn
    · exact hfresh serial spawn hspawn heq
  · intro lease
    simp only [List.mem_cons, h.held, hactive, hpending]
    constructor
    · rintro (rfl | hactive | ⟨m, hm⟩)
      · exact .inr ⟨n, .inr ⟨rfl, rfl⟩⟩
      · exact .inl hactive
      · exact .inr ⟨m, .inl hm⟩
    · rintro (hactive | ⟨m, hm | ⟨-, rfl⟩⟩)
      · exact .inr (.inl hactive)
      · exact .inr (.inr ⟨m, hm⟩)
      · exact .inl rfl

theorem Leases.start (h : Leases s log) (hex : Exclusive s log) (hthreads : Threads s log)
    (hregistry : Registry runner s log) {spawn : Spawn} (hrule : abrRule runner (history n log) (.start spawn))
    (hleases : s'.leases = s.leases) (hgranted : s'.granted = s.granted) :
    Leases s' (log ++ [(n, started spawn s.executions)]) := by
  have hgrants : grants (log ++ [(n, started spawn s.executions)]) = grants log :=
    grants_same (e := .start spawn) nofun
  have hreleases : releases (log ++ [(n, started spawn s.executions)]) = releases log :=
    releases_same (e := .start spawn) nofun
  have hended : ∀ serial, Ended (log ++ [(n, started spawn s.executions)]) serial ↔ Ended log serial :=
    fun _ => ended_concat_same (e := .start spawn) nofun
  have hown : Pending log n spawn.lease := by
    obtain ⟨record, count, hsection, -⟩ := hrule
    exact ⟨_, _, hsection⟩
  have hinside : ∀ m lease, Pending log m lease → m = n ∧ lease = spawn.lease := by
    intro m lease hpending
    obtain ⟨first, second, hm⟩ := hpending
    obtain ⟨first', second', hn⟩ := hown
    have heq := hex.one m n (by rw [hm]; rfl) (by rw [hn]; rfl)
    subst heq
    rw [hm] at hn
    cases hn
    exact ⟨rfl, rfl⟩
  have hnone : ∀ m lease, ¬ Pending (log ++ [(n, started spawn s.executions)]) m lease := by
    intro m lease hpending
    by_cases hm : n = m
    · subst hm
      cases pending_own (e := .start spawn) hrule hpending
    · exact hm (hinside m lease ((pending_other hm _).mp hpending)).1.symm
  constructor
  · rw [hgrants, hgranted]
    exact h.below
  · rw [hgrants]
    exact h.nodup
  · rw [hgrants, hreleases, hleases]
    exact h.balance
  · intro m serial other hm
    refine List.mem_append_left _ ?_
    rcases List.mem_append.mp hm with hm | hm
    · exact h.leased m serial other hm
    · cases List.mem_singleton.mp hm
      obtain ⟨record, count, hsection, -⟩ := hrule
      exact mem_history.mp (mem_of_currentSection hsection (by simp))
  · intro serial first number second hfirst hsecond hsame
    rcases started_concat_iff.mp hfirst with hfirst | heq
    · rcases started_concat_iff.mp hsecond with hsecond | heq
      · exact h.one serial first number second hfirst hsecond hsame
      · cases heq
        exact absurd hfirst (h.unstarted n serial first (hsame ▸ hown))
    · cases heq
      rcases started_concat_iff.mp hsecond with hsecond | heq
      · exact absurd hsecond (h.unstarted n number second (hsame ▸ hown))
      · cases heq
        rfl
  · intro m serial other hpending
    exact absurd hpending (hnone m _)
  · intro lease
    rw [hleases, h.held]
    constructor
    · rintro (⟨serial, other, ⟨hother, hopen⟩, rfl⟩ | ⟨m, hm⟩)
      · exact .inl ⟨serial, other, ⟨started_concat_iff.mpr (.inl hother), (hended _).not.mpr hopen⟩, rfl⟩
      · have hlease := (hinside m lease hm).2
        refine .inl ⟨s.executions, spawn, ⟨started_concat_iff.mpr (.inr rfl), ?_⟩, hlease.symm⟩
        exact (hended _).not.mpr (not_ended_executions hregistry hthreads)
    · rintro (⟨serial, other, ⟨hother, hopen⟩, rfl⟩ | ⟨m, hm⟩)
      · rcases started_concat_iff.mp hother with hother | heq
        · exact .inl ⟨serial, other, ⟨hother, (hended _).not.mp hopen⟩, rfl⟩
        · cases heq
          exact .inr ⟨n, hown⟩
      · exact absurd hm (hnone m lease)

theorem Leases.finish (h : Leases s log) (hthreads : Threads s log) (hregistry : Registry runner s log)
    {workloadID : String} (hrule : abrRule runner (history n log) (.finish workloadID)) :
    Leases (finishExecution s workloadID)
      (log ++ [(n, ⟨.finish workloadID, findExecution s.active workloadID⟩)]) := by
  obtain ⟨execution, spawn, hfind, hactive, hid, hlease, -⟩ := hregistry.own hthreads hrule
  have hleft : finishExecution s workloadID = { s with
      active := removeExecution s.active workloadID
      leases := s.leases.filter (· ≠ execution.lease)
      channels := changeChannels s.channels execution.subscribers fun channel =>
        { channel with closed := true } } := by
    unfold finishExecution
    rw [hfind]
  rw [hleft, hfind]
  have hgrants : grants (log ++ [(n, ⟨.finish workloadID, some execution⟩)]) = grants log :=
    grants_same (e := .finish workloadID) nofun
  have hreleases : releases (log ++ [(n, ⟨.finish workloadID, some execution⟩)]) =
      releases log ++ [execution.lease] := by
    rw [releases, List.filterMap_append]
    rfl
  have hstarted : ∀ serial other, Started (log ++ [(n, ⟨.finish workloadID, some execution⟩)]) serial other ↔
      Started log serial other := fun _ _ => started_concat_same (e := .finish workloadID) nofun
  have hpending : ∀ m lease, Pending (log ++ [(n, ⟨.finish workloadID, some execution⟩)]) m lease ↔
      Pending log m lease := fun _ _ => pending_same (e := .finish workloadID) hrule nofun nofun
  have hopen : execution.lease ∈ s.leases := (h.held _).mpr (.inl ⟨_, spawn, hactive, hlease.symm⟩)
  have hnodup : s.leases.Nodup := (h.balance.nodup_iff.mp h.nodup).of_append_left
  constructor
  · rw [hgrants]
    exact h.below
  · rw [hgrants]
    exact h.nodup
  · rw [hgrants, hreleases]
    have hback : s.leases.Perm (s.leases.filter (· ≠ execution.lease) ++ [execution.lease]) := by
      have herase : s.leases.erase execution.lease = s.leases.filter (· ≠ execution.lease) := by
        rw [hnodup.erase_eq_filter]
        apply List.filter_congr
        intro lease _
        by_cases hsame : lease = execution.lease <;> simp [hsame]
      have hcons := List.perm_cons_erase hopen
      rw [herase] at hcons
      exact hcons.trans (List.perm_append_singleton _ _).symm
    refine h.balance.trans ((hback.append_right _).trans ?_)
    rw [List.append_assoc]
    exact List.perm_append_comm.append_left _
  · intro m serial other hm
    exact List.mem_append_left _ (h.leased m serial other (mem_concat_ne hm nofun))
  · intro serial first number second hfirst hsecond
    exact h.one serial first number second ((hstarted _ _).mp hfirst) ((hstarted _ _).mp hsecond)
  · intro m serial other hafter hother
    exact h.unstarted m serial other ((hpending _ _).mp hafter) ((hstarted _ _).mp hother)
  · intro lease
    rw [List.mem_filter, h.held, decide_eq_true_iff]
    constructor
    · rintro ⟨⟨serial, other, ⟨hother, hends⟩, rfl⟩ | ⟨m, hm⟩, hne⟩
      · refine .inl ⟨serial, other, ⟨(hstarted _ _).mpr hother, ?_⟩, rfl⟩
        rw [ended_concat_finish]
        rintro (hended | rfl)
        · exact hends hended
        · rw [hthreads.one _ _ _ hother hactive.1, hlease] at hne
          exact hne rfl
      · exact .inr ⟨m, (hpending _ _).mpr hm⟩
    · rintro (⟨serial, other, ⟨hother, hends⟩, rfl⟩ | ⟨m, hm⟩)
      · have hother := (hstarted _ _).mp hother
        rw [ended_concat_finish, not_or] at hends
        refine ⟨.inl ⟨serial, other, ⟨hother, hends.1⟩, rfl⟩, ?_⟩
        intro hsame
        exact hends.2 (h.one _ _ _ _ hactive.1 hother (hlease ▸ hsame.symm))
      · have hm := (hpending _ _).mp hm
        refine ⟨.inr ⟨m, hm⟩, ?_⟩
        rintro rfl
        exact h.unstarted m _ spawn (hlease ▸ hm) hactive.1

theorem Leases.step (h : Leases s log) (hex : Exclusive s log) (hthreads : Threads s log)
    (hregistry : Registry runner s log) (hrule : abrRule runner (history n log) e)
    (hexec : execute P s e r s') : Leases s' (log ++ [(n, ⟨e, r⟩)]) := by
  cases execute_moves hexec with
  | quiet hquiet hsame =>
    refine h.same hrule ?_ ?_ ?_ hsame.leases hsame.granted
    · intro spawn heq
      subst heq
      exact hquiet
    · intro workloadID heq
      subst heq
      exact hquiet
    · intro lease heq
      cases heq
      exact hquiet
  | lock | unlock | refused | attach | begin => exact h.same hrule nofun nofun nofun rfl rfl
  | acquire => exact h.grant hrule
  | start spawn => exact h.start hex hthreads hregistry hrule rfl rfl
  | detach workloadID subscriber =>
    refine h.same hrule nofun nofun nofun ?_ ?_
    · unfold detachFrom
      split <;> rfl
    · unfold detachFrom
      split <;> rfl
  | finish workloadID => exact h.finish hthreads hregistry hrule

theorem AbrRuns.leases (h : AbrRuns runner c) : Leases c.shared c.log := by
  refine Reachable.invariant_of (K := fun s log => Exclusive s log ∧ Threads s log ∧ Registry runner s log)
    (I := Leases) (fun h => ⟨AbrRuns.exclusive h, AbrRuns.threads h, AbrRuns.registry h⟩)
    (fun _ hp => abr_obeys hp) ?_ ?_ h
  · rintro s ⟨disk, -, rfl⟩
    have hnone : ∀ serial spawn, ¬ Started [] serial spawn := by
      rintro serial spawn ⟨n, hn⟩
      cases hn
    refine ⟨nofun, List.nodup_nil, .refl _, nofun, fun _ _ _ _ hs => absurd hs (hnone _ _),
      fun _ _ _ _ => hnone _ _, ?_⟩
    intro lease
    constructor
    · intro hlease
      cases hlease
    · rintro (⟨serial, spawn, ⟨hspawn, -⟩, -⟩ | ⟨n, first, second, hsection⟩)
      · exact absurd hspawn (hnone _ _)
      · cases hsection
  · intro s log n e r s' ⟨hex, hthreads, hregistry⟩ hleases hrule hexec _
    exact hleases.step hex hthreads hregistry hrule hexec

end

/-! ## Whole lives of a process -/

/-- What holds of the executions of a process at any time. -/
structure ExecutionsKept (runner : Runner) (past : List (List (Nat × AbrEvent))) (c : AbrScene) : Prop where
  /-- A workload has at most one active execution. -/
  one : ∀ serial spawn number other, Active c.log serial spawn → Active c.log number other →
    spawn.req.workloadID = other.req.workloadID → serial = number ∧ spawn = other
  /-- A program that runs an execution runs an active one. -/
  running : ∀ n serial req requestSHA256, Executing (history n c.log) serial req requestSHA256 →
    ∃ spawn, Active c.log serial spawn ∧ spawn.req = req ∧ spawn.requestSHA256 = requestSHA256
  /-- No two programs run executions of one workload. -/
  alone : ∀ n m serial number req other sha sha', Executing (history n c.log) serial req sha →
    Executing (history m c.log) number other sha' → req.workloadID = other.workloadID → n = m
  /-- The active executions are within the limit. -/
  within : ∀ serials : List Nat, serials.Nodup → (∀ serial ∈ serials, ∃ spawn, Active c.log serial spawn) →
    serials.length ≤ runner.limit
  /-- When an execution was started, the journal of its workload was not terminal. -/
  unfinished : ∀ before n spawn serial after, c.log = before ++ (n, started spawn serial) :: after →
    ∃ c₀ c₁ : AbrScene, Lives runner past c₀ ∧ c₀.log = before ∧ c₁.log = before ++ [(n, started spawn serial)] ∧
      Step (abrWorld runner) c₀ c₁ ∧ Later (abrWorld runner) c₁ c ∧
      ∃ record, c₀.shared.disk.read spawn.req.workloadID = some record ∧ record.terminal = false
  /-- Whoever started an execution had acquired its lease, which is no other execution's. -/
  leased : ∀ n serial spawn, (n, started spawn serial) ∈ c.log → (n, acquired spawn.lease) ∈ c.log ∧
    ∀ number other, Started c.log number other → other.lease = spawn.lease → number = serial
  /-- Every lease granted is open, or was given back once. -/
  balance : (grants c.log).Nodup ∧ (grants c.log).Perm (c.shared.leases ++ releases c.log)
  /-- Only the program of an execution gives its lease back. -/
  released : ∀ n workloadID answer, ((n, ⟨.finish workloadID, answer⟩) : Nat × AbrEvent) ∈ c.log →
    ∃ execution spawn, answer = some execution ∧ Started c.log execution.serial spawn ∧
      spawn.req.workloadID = workloadID ∧ execution.lease = spawn.lease ∧
      ((n, ⟨.begin spawn.req spawn.requestSHA256, execution.serial⟩) : Nat × AbrEvent) ∈ c.log
  /-- The open leases are those of the active executions and of a start about to happen. -/
  held : ∀ lease, lease ∈ c.shared.leases ↔
    (∃ serial spawn, Active c.log serial spawn ∧ spawn.lease = lease) ∨ ∃ n, Pending c.log n lease

section
variable {runner : Runner} {past : List (List (Nat × AbrEvent))} {c : AbrScene}

theorem Registry.one (h : Registry runner s log)
    (hthreads : Threads s log) {serial number : Nat} {spawn other : Spawn} (hspawn : Active log serial spawn)
    (hother : Active log number other) (hid : spawn.req.workloadID = other.req.workloadID) :
    serial = number ∧ spawn = other := by
  have hfirst : spawn.registered serial ∈ roster s.active := (h.listed _).mpr ⟨serial, spawn, hspawn, rfl⟩
  have hsecond : other.registered number ∈ roster s.active := (h.listed _).mpr ⟨number, other, hother, rfl⟩
  have hserial := congrArg Registered.serial (roster_unique h.keys hfirst hsecond hid)
  cases hserial
  exact ⟨rfl, hthreads.one _ _ _ hspawn.1 hother.1⟩

theorem Registry.within (h : Registry runner s log) {serials : List Nat} (hnodup : serials.Nodup)
    (hactive : ∀ serial ∈ serials, ∃ spawn, Active log serial spawn) : serials.length ≤ runner.limit := by
  have hsubset : serials ⊆ (roster s.active).map Registered.serial := by
    intro serial hserial
    obtain ⟨spawn, hspawn⟩ := hactive serial hserial
    exact List.mem_map.mpr ⟨spawn.registered serial, (h.listed _).mpr ⟨serial, spawn, hspawn, rfl⟩, rfl⟩
  have hlength := (hnodup.subperm hsubset).length_le
  rw [List.length_map, roster, List.length_map] at hlength
  exact hlength.trans h.room

theorem Lives.moment_step (h : Lives runner past c) {n : Nat}
    {event : AbrEvent} (hsplit : c.log = before ++ (n, event) :: after) :
    ∃ c₀ c₁ : AbrScene, Lives runner past c₀ ∧ c₀.log = before ∧ c₁.log = before ++ [(n, event)] ∧
      execute runner.toStorePlatform c₀.shared event.effect event.answer c₁.shared ∧
      Step (abrWorld runner) c₀ c₁ ∧ Later (abrWorld runner) c₁ c := by
  cases h with
  | first hreach =>
    obtain ⟨c₀, c₁, h₀, hlog⟩ := hreach.moment_step hsplit
    exact ⟨c₀, c₁, .first h₀, hlog⟩
  | restarted hpast hreach =>
    obtain ⟨c₀, c₁, h₀, hlog⟩ := hreach.moment_step hsplit
    exact ⟨c₀, c₁, .restarted hpast h₀, hlog⟩

theorem Lives.step {c' : AbrScene} (h : Lives runner past c) (hstep : Step (abrWorld runner) c c') :
    Lives runner past c' := by
  cases h with
  | first hreach => exact .first (hreach.step hstep)
  | restarted hpast hreach => exact .restarted hpast (hreach.step hstep)

theorem AbrRuns.logged (h : AbrRuns runner c) {n : Nat} {event : AbrEvent}
    (hsplit : c.log = before ++ (n, event) :: after) : abrRule runner (history n before) event.effect :=
  Reachable.logged (fun _ hp => abr_obeys hp) h hsplit

theorem DiskSound.running {disk : Disk} (h : DiskSound P disk) {workloadID : String}
    {record : WorkloadJournalV2} (hread : disk.read workloadID = some record)
    (hstate : record.state = .inProgress) : record.terminal = false := by
  obtain ⟨appended, hsound⟩ := h
  have hiff := (hsound.read hread).2.2.terminal_iff
  by_contra hterminal
  exact hiff.mp (Bool.of_not_eq_false hterminal) hstate

/-- Executions of a workload never overlap, stay within the limit, are never started for a
terminal workload, and hold one lease each from their start to their end. -/
theorem executions_exclusive (h : Lives runner past c) : ExecutionsKept runner past c := by
  have hruns := h.runs
  have hregistry := hruns.registry
  have hthreads := hruns.threads
  have hleases := hruns.leases
  constructor
  · intro serial spawn number other hspawn hother hid
    exact hregistry.one hthreads hspawn hother hid
  · intro n serial req requestSHA256 hexecuting
    exact hregistry.executing hthreads hexecuting
  · intro n m serial number req other sha sha' hn hm hid
    obtain ⟨spawn, hspawn, rfl, -⟩ := hregistry.executing hthreads hn
    obtain ⟨spawn', hspawn', rfl, -⟩ := hregistry.executing hthreads hm
    obtain ⟨rfl, -⟩ := hregistry.one hthreads hspawn hspawn' hid
    exact hthreads.runs _ _ _ _ _ _ _ (mem_history.mp hn.begun) (mem_history.mp hm.begun)
  · intro serials hnodup hactive
    exact hregistry.within hnodup hactive
  · intro before n spawn serial after hsplit
    obtain ⟨c₀, c₁, h₀, rfl, hlog₁, -, hstep, hlater⟩ := h.moment_step hsplit
    obtain ⟨record, hread, hstate⟩ := h₀.runs.start_inProgress (hruns.logged hsplit)
    exact ⟨c₀, c₁, h₀, rfl, hlog₁, hstep, hlater, record, hread, h₀.runs.diskSound.running hread hstate⟩
  · intro n serial spawn hstarted
    refine ⟨hleases.leased n serial spawn hstarted, ?_⟩
    intro number other hother hsame
    exact hleases.one _ _ _ _ hother ⟨n, hstarted⟩ hsame
  · exact ⟨hleases.nodup, hleases.balance⟩
  · exact hregistry.ended
  · exact hleases.held

end

/-! ## A first request -/

def sampleAbrRunner : Runner where
  toStorePlatform := { samplePlatform with parseURL := fun _ => some ⟨"https", "host", false, "", "", ""⟩ }
  sha256Hex _ := sampleSHA256
  equalFold a b := a == b
  presets := [⟨"ladder", [⟨"360p", true⟩]⟩]
  limit := 1

def sampleWorkload : ABRWorkloadRequestV2 where
  schema := abrRequestSchemaV2
  workloadID := "workload"
  input := ⟨"https://host/in", ""⟩
  ladder := ⟨"ladder"⟩
  output := ⟨⟨"master.m3u8", "https://host/m"⟩,
    some (StringMap.empty.insert "360p" ⟨⟨"360p.m3u8", "https://host/p"⟩, ⟨"360p.mp4", "https://host/s"⟩⟩)⟩

def sampleArrival : HttpRequest := ⟨"POST", "text/event-stream", canonicalBytes sampleWorkload⟩

theorem sampleArrival_admitted : admitRequest sampleAbrRunner sampleArrival = .ok (sampleWorkload, sampleSHA256) := by
  have hdecode : decodeABRRequestV2 sampleArrival.body = some sampleWorkload := by
    have hsize : ¬ maxABRRequestBodyV2 < sampleArrival.body.length := by decide +kernel
    rw [decodeABRRequestV2, if_neg hsize]
    change (goDocument (utf8Bytes (write (goQuote false) Empty.elim sampleWorkload.document))).bind _ = _
    rw [goDocument_write]
    rfl
  have hmethod : ¬ sampleArrival.method ≠ "POST" := by decide
  have haccept : ¬ ¬ "text/event-stream".toList <:+: sampleArrival.accept.toList := by decide +kernel
  have hpreset : sampleAbrRunner.findABRPreset sampleWorkload.ladder.preset = some ⟨"ladder", [⟨"360p", true⟩]⟩ := by
    rfl
  have hvalid : validateABRRequestV2 sampleAbrRunner.toPlatform sampleWorkload ["360p"] = .ok () := by
    decide +kernel
  unfold admitRequest
  rw [if_neg hmethod, if_neg haccept]
  simp only [hdecode, hpreset, ABRPreset.renditionNames, List.map_cons, List.map_nil, hvalid]
  rfl

def sampleJournal : WorkloadJournalV2 := freshJournal "workload" sampleSHA256

def sampleDisk : Disk := Disk.empty.after (some sampleJournal)

theorem sample_creates : (Operation.loadOrCreate "workload" sampleSHA256).perform sampleAbrRunner.toStorePlatform
    noFaults Disk.empty = ⟨.ok (sampleJournal, .resumeExisting), some sampleJournal⟩ := by
  decide +kernel

theorem sample_load : (Operation.load "workload").perform sampleAbrRunner.toStorePlatform noFaults sampleDisk =
    ⟨.ok sampleJournal, none⟩ := by
  decide +kernel

def sampleSpawn : Spawn := ⟨sampleWorkload, sampleSHA256, 0⟩

/-- The calls of the first request up to the start of its execution. -/
def startCalls : List AbrEvent :=
  [⟨.arrive sampleArrival, ()⟩,
    ⟨.store (.loadOrCreate "workload" sampleSHA256), .ok (sampleJournal, .resumeExisting)⟩,
    ⟨.lock, ()⟩, loaded "workload" sampleJournal, lookedUp "workload" none 0, acquired 0,
    started sampleSpawn 0]

def afterStart (turns : Nat) : AbrProg Unit := do
  let subscriber ← perform (.attach "workload")
  perform .unlock
  streamSubscribed "workload" turns sampleJournal subscriber

theorem reaches_call (e : Effect) (r : e.Answer) {k : e.Answer → AbrProg Unit} {t : List AbrEvent}
    {q : AbrProg Unit} (h : Reaches (k r) t q) : Reaches (.call e k) (⟨e, r⟩ :: t) q := .step r h

theorem serveHTTP_admitted {runner : Runner} {request : HttpRequest} {req : ABRWorkloadRequestV2} {sha : String}
    (hadmitted : admitRequest runner request = .ok (req, sha)) {turns : Nat} {t : List AbrEvent} {q : AbrProg Unit}
    (h : Reaches (serve runner turns req sha) t q) :
    Reaches (serveHTTP runner turns request) (⟨.arrive request, ()⟩ :: t) q := by
  refine reaches_call (.arrive request) () ?_
  simp only [Prog.bind, hadmitted]
  exact h

theorem startCalls_reach (turns : Nat) :
    Reaches (serveHTTP sampleAbrRunner turns sampleArrival) startCalls (afterStart turns) := by
  refine serveHTTP_admitted sampleArrival_admitted ?_
  refine reaches_call (.store (.loadOrCreate "workload" sampleSHA256)) (.ok (sampleJournal, .resumeExisting)) ?_
  refine reaches_call .lock () ?_
  refine reaches_call (.store (.load "workload")) (.ok sampleJournal) ?_
  refine reaches_call (.lookup "workload") (none, 0) ?_
  refine reaches_call .acquire (.ok 0) ?_
  refine reaches_call (.start sampleSpawn) 0 ?_
  exact .refl _

def startedState : AbrState where
  disk := sampleDisk
  locked := true
  active := [("workload", ⟨0, sampleSHA256, [], 0⟩)]
  nextSubscriber := 0
  executions := 1
  spawned := [(0, sampleSpawn)]
  cancelled := []
  channels _ := ⟨false, false⟩
  leases := [0]
  granted := 1

theorem execute_store {op : Operation} {answer : Except StoreError op.Answer}
    {saved : Option WorkloadJournalV2} (h : op.perform P noFaults s.disk = ⟨answer, saved⟩) :
    execute P s (.store op) answer { s with disk := s.disk.after saved } :=
  ⟨noFaults, by rw [h], by rw [h]⟩

theorem execute_read {op : Operation} {answer : Except StoreError op.Answer}
    (h : op.perform P noFaults s.disk = ⟨answer, none⟩) : execute P s (.store op) answer s :=
  execute_store h

theorem startCalls_act : Acts (abrWorld sampleAbrRunner) (.boot .empty) startCalls startedState := by
  refine .cons rfl ?_
  refine .cons (execute_store sample_creates) ?_
  refine .cons ⟨rfl, rfl⟩ ?_
  refine .cons (execute_store sample_load) ?_
  refine .cons ⟨rfl, rfl⟩ ?_
  refine .cons ⟨rfl, rfl⟩ ?_
  refine .cons ⟨rfl, rfl⟩ ?_
  exact .nil _

def startedScene (turns : Nat) : AbrScene where
  shared := startedState
  log := startCalls.map fun event => (0, event)
  actors := [⟨0, serveHTTP sampleAbrRunner turns sampleArrival, afterStart turns⟩]

theorem startedScene_lives (turns : Nat) : Lives sampleAbrRunner [] (startedScene turns) := by
  have hempty : Reachable (abrWorld sampleAbrRunner) (· = .boot .empty) ⟨.boot .empty, [], []⟩ := .initial rfl
  exact .first (hempty.enters (.serveHTTP turns sampleArrival) nofun nofun (startCalls_reach turns)
    startCalls_act)

/-- The first request has started an execution that is active. -/
theorem executions_exclusive_started : Active (startedScene 1).log 0 sampleSpawn ∧
    ExecutionsKept sampleAbrRunner [] (startedScene 1) := by
  refine ⟨⟨⟨0, ?_⟩, ?_⟩, executions_exclusive (startedScene_lives 1)⟩
  · exact List.mem_map_of_mem (by simp [startCalls])
  · rintro ⟨n, workloadID, execution, hmem, -⟩
    obtain ⟨event, hevent, heq⟩ := List.mem_map.mp hmem
    cases heq
    simp [startCalls, loaded, lookedUp, acquired, started] at hevent

end LivepeerTranscode.AbrRunner
