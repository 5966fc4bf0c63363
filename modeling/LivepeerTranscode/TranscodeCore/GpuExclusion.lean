import LivepeerTranscode.TranscodeCore.GpuLocks

/-!
# Live and batch leases exclude each other

The admission mutex has one holder. Between a probe that was granted and the release of the
mutex nobody else locks the opposing file, so the cohort a program then joins is alone. A
probe is refused only by leases: another probe would need the mutex.
-/

namespace LivepeerTranscode.TranscodeCore
open Interaction Actors Flock
set_option autoImplicit false

/-- What is known of the locks in every scene. -/
structure Known (k : Kernel) (log : List (Nat × AdmissionEvent)) : Prop where
  opens : Opens k log
  facts : ∀ n, LockFacts (history n log)
  agrees : Agrees k log

variable {c : AdmissionScene} {process n : Nat} {base own opposing : String} {k : Kernel}
  {log : List (Nat × AdmissionEvent)} {d : Descriptor} {hold : Hold Descriptor} {event : AdmissionEvent}
  {cohort : GPUAdmissionCohort}

theorem AdmissionRuns.known (h : AdmissionRuns c) : Known c.shared c.log :=
  ⟨h.opens, h.lockFacts, h.agrees⟩

/-! ## The mutex -/

theorem Known.lease_path (h : Known k log)
    (hlease : d ∈ k.leases) : ∃ base, CohortFile base d.path := by
  obtain ⟨n, -, hheld⟩ := h.agrees.leased d hlease
  obtain ⟨-, -, base, opposing, hpair⟩ := (h.facts n).holds _ hheld
  exact ⟨base, hpair.own_file⟩

theorem Known.mutex_held (h : Known k log) {m : Descriptor}
    (hheld : ⟨m, .exclusive⟩ ∈ locks (history n log))
    (hpath : m.path = mutexPath base) (halive : m.process ∉ k.dead) : ⟨m, .exclusive⟩ ∈ k.held := by
  refine h.agrees.kept n _ hheld halive ?_
  intro hlease
  obtain ⟨base', hfile⟩ := h.lease_path hlease
  exact absurd hpath hfile.ne_mutex

theorem Known.one_holder (h : Known k log) {n' process' : Nat}
    (hmutex : HasMutex (history n log) process base)
    (hmutex' : HasMutex (history n' log) process' base) (halive : process ∉ k.dead)
    (halive' : process' ∉ k.dead) : n = n' := by
  obtain ⟨m, hm, rfl, hpath⟩ := hmutex
  obtain ⟨m', hm', rfl, hpath'⟩ := hmutex'
  have hsame := h.agrees.exclusion.alone (h.mutex_held hm hpath halive) (h.mutex_held hm' hpath' halive')
    (hpath.trans hpath'.symm) rfl
  simp only at hsame
  subst hsame
  exact h.opens.one ((h.facts n).holds _ hm).1 ((h.facts n').holds _ hm').1

theorem Known.probe_of_exclusive (h : Known k log) (hheld : hold ∈ k.held)
    (hmode : hold.mode = .exclusive) (hfile : CohortFile base hold.owner.path) :
    ∃ n, ⟨.flock hold.owner .tryExclusive, .locked⟩ ∈ history n log ∧
      HasMutex (history n log) hold.owner.process base := by
  obtain ⟨n, hlocks⟩ := h.agrees.owned hold hheld
  obtain ⟨owner, mode⟩ := hold
  subst hmode
  rcases ((h.facts n).holds _ hlocks).2 with ⟨base', hpath⟩ | ⟨hprobe, base', own, hpair, hmutex⟩
  · exact absurd hpath hfile.ne_mutex
  · rw [hfile.same_base hpair.opposing_file]
    exact ⟨n, hprobe, hmutex⟩

theorem Known.join_of_shared (h : Known k log) (hheld : hold ∈ k.held) (hmode : hold.mode = .shared) :
    ∃ n, ⟨.flock hold.owner .tryShared, .locked⟩ ∈ history n log ∧ Opened (history n log) hold.owner := by
  obtain ⟨n, hlocks⟩ := h.agrees.owned hold hheld
  obtain ⟨owner, mode⟩ := hold
  subst hmode
  obtain ⟨hopen, hjoin, -⟩ := (h.facts n).holds _ hlocks
  exact ⟨n, hjoin, hopen⟩

/-! ## Cohorts -/

/-- A program that was granted its probe and still has the mutex has the opposing file for
itself, and the two cohorts are not held together. -/
structure Guarded (k : Kernel) (log : List (Nat × AdmissionEvent)) : Prop where
  clear : ∀ n base own o, Opposing base own o.path → ⟨.flock o .tryExclusive, .locked⟩ ∈ history n log →
    HasMutex (history n log) o.process base → o.process ∉ k.dead →
    ∀ hold ∈ k.held, hold.owner.path = o.path → hold.owner = o
  apart : ∀ base, ¬ (k.CohortHeld (livePath base) ∧ k.CohortHeld (batchPath base))
  unrefused : ∀ n d, (n, ⟨.flock d .tryShared, .wouldBlock⟩) ∉ log

theorem mem_locks_history {m : Nat} (hevent : gained event = none)
    (h : hold ∈ locks (history m (log ++ [(n, event)]))) : hold ∈ locks (history m log) := by
  rcases history_concat n m log event with ⟨rfl, hown⟩ | ⟨-, hother⟩
  · rw [hown, locks_concat, mem_lockedAfter, hevent] at h
    exact (h.resolve_left nofun).1
  · rwa [hother] at h

theorem mem_history_concat {m : Nat} {found : AdmissionEvent}
    (h : found ∈ history m (log ++ [(n, event)])) : found ∈ history m log ∨ m = n ∧ found = event := by
  rcases List.mem_append.mp (mem_history.mp h) with hpast | hlast
  · exact .inl (mem_history.mpr hpast)
  · exact .inr (Prod.mk.inj (List.mem_singleton.mp hlast))

theorem Guarded.shrinks {k' : Kernel}
    (hguarded : Guarded k log) (hheld : ∀ hold ∈ k'.held, hold ∈ k.held)
    (hdead : ∀ process ∈ k.dead, process ∈ k'.dead)
    (hevent : gained event = none)
    (hrefused : ∀ d, event ≠ ⟨.flock d .tryShared, .wouldBlock⟩) : Guarded k' (log ++ [(n, event)]) where
  clear m base own o hpair hprobe hmutex halive hold hhold hpath := by
    obtain ⟨mutex, hm, hprocess, hfile⟩ := hmutex
    refine hguarded.clear m base own o hpair ?_ ⟨mutex, mem_locks_history hevent hm, hprocess, hfile⟩
      (fun hmem => halive (hdead _ hmem)) hold (hheld hold hhold) hpath
    rcases mem_history_concat hprobe with hpast | ⟨-, heq⟩
    · exact hpast
    · rw [← heq] at hevent
      cases hevent
  apart base := by
    rintro ⟨⟨live, hlive, hlivePath⟩, batch, hbatch, hbatchPath⟩
    exact hguarded.apart base ⟨⟨live, hheld live hlive, hlivePath⟩, batch, hheld batch hbatch, hbatchPath⟩
  unrefused m d hmem := by
    rcases List.mem_append.mp hmem with hpast | hlast
    · exact hguarded.unrefused m d hpast
    · exact hrefused d (Prod.mk.inj (List.mem_singleton.mp hlast)).2.symm

theorem Known.join_granted (h : Known k log)
    (hrule : ruleOf (history n log) (.flock d .tryShared)) (halive : d.process ∉ k.dead) :
    Grantable Descriptor.path k.held d .shared := by
  obtain ⟨-, -, base, o, hpair, -, -, hprobe, hmutex⟩ := hrule
  intro hold hhold hpath hne
  refine ⟨?_, rfl⟩
  by_contra hmode
  have hexclusive : hold.mode = .exclusive := by
    cases hm : hold.mode with
    | shared => exact absurd hm hmode
    | exclusive => rfl
  have hfile : CohortFile base hold.owner.path := by
    rw [hpath]
    exact hpair.own_file
  obtain ⟨m, hprobe', hmutex'⟩ := h.probe_of_exclusive hhold hexclusive hfile
  obtain rfl := h.one_holder hmutex hmutex' halive (h.agrees.alive hold hhold)
  have hsame := ((h.facts n).one _ _ _ _ hprobe hprobe').1
  rw [← hsame] at hpath
  exact hpair.ne hpath.symm

theorem Guarded.opposing_free (hguarded : Guarded k log) (h : Known k log)
    (hrule : ruleOf (history n log) (.flock d .tryShared)) (halive : d.process ∉ k.dead) :
    ∃ base opposing, Opposing base d.path opposing ∧ ¬ k.CohortHeld opposing := by
  obtain ⟨-, hjoins, base, o, hpair, hopposing, hprocess, hprobe, hmutex⟩ := hrule
  refine ⟨base, o.path, hpair, ?_⟩
  rintro ⟨hold, hhold, hfile, hmode⟩
  have howner : hold.owner = o :=
    hguarded.clear n base d.path o hpair hprobe (hprocess ▸ hmutex) (hprocess ▸ halive) hold hhold hfile
  obtain ⟨m, hjoin, hopen⟩ := h.join_of_shared hhold hmode
  rw [howner] at hjoin hopen
  obtain rfl := h.opens.one hopposing hopen
  exact hjoins ⟨o, _, hjoin⟩

theorem locker_mutex {request : LockRequest}
    (hrule : ruleOf (history n log) (.flock d request))
    (hfile : CohortFile base d.path) : HasMutex (history n log) d.process base := by
  cases request with
  | exclusive =>
    obtain ⟨-, -, base', hpath⟩ := hrule
    exact absurd hpath hfile.ne_mutex
  | tryExclusive =>
    obtain ⟨-, -, -, base', own, hpair, hmutex⟩ := hrule
    rwa [hfile.same_base hpair.opposing_file]
  | tryShared =>
    obtain ⟨-, -, base', o, hpair, -, -, -, hmutex⟩ := hrule
    rwa [hfile.same_base hpair.own_file]

theorem Guarded.taken {request : LockRequest} (hguarded : Guarded k log) (h : Known k log)
    (hrule : ruleOf (history n log) (.flock d request)) (halive : d.process ∉ k.dead)
    (hgrant : Grantable Descriptor.path k.held d request.mode) :
    Guarded { k with held := take k.held d request.mode } (log ++ [(n, ⟨.flock d request, .locked⟩)]) where
  clear m base own o hpair hprobe hmutex ho hold hhold hpath := by
    by_cases hm : m = n
    · subst hm
      cases request with
      | exclusive =>
        -- the mutex comes before the probe
        rcases mem_history_concat hprobe with hpast | ⟨-, heq⟩
        · exact absurd ⟨o, _, hpast⟩ hrule.2.1
        · cases heq
      | tryExclusive =>
        rcases mem_history_concat hprobe with hpast | ⟨-, heq⟩
        · exact absurd ⟨o, _, hpast⟩ hrule.2.1
        · cases heq
          rcases mem_take.mp hhold with rfl | ⟨hhold, hne⟩
          · rfl
          · cases (hgrant hold hhold hpath hne).2
      | tryShared =>
        rcases mem_history_concat hprobe with hpast | ⟨-, heq⟩
        · rcases mem_take.mp hhold with rfl | ⟨hhold, hne⟩
          · obtain ⟨-, -, base', o', hpair', -, -, hprobe', -⟩ := hrule
            cases ((h.facts m).one _ _ _ _ hpast hprobe').1
            exact absurd hpath hpair'.ne
          · obtain ⟨mutex, hheld, hprocess, hfile⟩ := hmutex
            rw [history_own, locks_concat] at hheld
            rcases mem_take.mp hheld with heq | ⟨hheld, -⟩
            · cases heq
            · exact hguarded.clear m base own o hpair hpast ⟨mutex, hheld, hprocess, hfile⟩ ho hold hhold hpath
        · cases heq
    · rw [history_other (Ne.symm hm)] at hprobe hmutex
      rcases mem_take.mp hhold with rfl | ⟨hhold, -⟩
      · have hlocker : HasMutex (history n log) d.process base := by
          refine locker_mutex hrule ?_
          rw [hpath]
          exact hpair.opposing_file
        exact absurd (h.one_holder hmutex hlocker ho halive) hm
      · exact hguarded.clear m base own o hpair hprobe hmutex ho hold hhold hpath
  apart base := by
    rintro ⟨⟨live, hlive, hlivePath, hliveMode⟩, batch, hbatch, hbatchPath, hbatchMode⟩
    have hnew : ∀ hold, hold ∈ take k.held d request.mode → hold.mode = .shared →
        hold ∈ k.held ∨ hold.owner = d ∧ request = .tryShared := by
      intro hold hhold hmode
      rcases mem_take.mp hhold with rfl | ⟨hhold, -⟩
      · cases request with
        | exclusive => cases hmode
        | tryExclusive => cases hmode
        | tryShared => exact .inr ⟨rfl, rfl⟩
      · exact .inl hhold
    rcases hnew live hlive hliveMode with hliveOld | ⟨hliveNew, hrequest⟩
    · rcases hnew batch hbatch hbatchMode with hbatchOld | ⟨hbatchNew, hrequest⟩
      · exact hguarded.apart base
          ⟨⟨live, hliveOld, hlivePath, hliveMode⟩, batch, hbatchOld, hbatchPath, hbatchMode⟩
      · subst hrequest
        obtain ⟨base', opposing, hpair, hfree⟩ := hguarded.opposing_free h hrule halive
        rw [hpair.opposite.1 (hbatchNew ▸ hbatchPath)] at hfree
        exact hfree ⟨live, hliveOld, hlivePath, hliveMode⟩
    · subst hrequest
      obtain ⟨base', opposing, hpair, hfree⟩ := hguarded.opposing_free h hrule halive
      rw [hpair.opposite.2 (hliveNew ▸ hlivePath)] at hfree
      rcases hnew batch hbatch hbatchMode with hbatchOld | ⟨hbatchNew, -⟩
      · exact hfree ⟨batch, hbatchOld, hbatchPath, hbatchMode⟩
      · rw [hbatchNew, ← hliveNew, hlivePath] at hbatchPath
        exact livePath_ne_batchPath _ _ hbatchPath
  unrefused m d' hmem := by
    rcases List.mem_append.mp hmem with hpast | hlast
    · exact hguarded.unrefused m d' hpast
    · cases List.mem_singleton.mp hlast

theorem Guarded.step {k' : Kernel} {e : Effect}
    {r : e.Answer} (hguarded : Guarded k log) (h : Known k log)
    (hrule : admissionRule (history n log) e) (hexec : execute k e r k') :
    Guarded k' (log ++ [(n, ⟨e, r⟩)]) := by
  replace hrule := hrule.2 (h.opens.sane n)
  cases hgained : gained ⟨e, r⟩ with
  | some hold =>
    obtain ⟨d, request, heq, -⟩ := gained_some hgained
    cases heq
    obtain ⟨halive, hgrant, rfl⟩ := hexec
    exact hguarded.taken h hrule halive hgrant
  | none =>
    refine hguarded.shrinks ?_ ?_ hgained ?_
    · intro hold hhold
      rcases execute_held hexec with ⟨-, hheld⟩ | ⟨process, -, -, hheld⟩
      · rw [hheld, mem_lockedAfter, hgained] at hhold
        exact (hhold.resolve_left nofun).1
      · rw [hheld] at hhold
        exact (List.mem_filter.mp hhold).1
    · intro process hdead
      rcases execute_held hexec with ⟨hsame, -⟩ | ⟨other, -, hmore, -⟩
      · rwa [hsame]
      · rw [hmore]
        exact List.mem_cons_of_mem _ hdead
    · intro d heq
      cases heq
      exact hexec.2.2.1 (h.join_granted hrule hexec.1)

theorem AdmissionRuns.guarded (h : AdmissionRuns c) : Guarded c.shared c.log := by
  refine Actors.Reachable.invariant_of (K := Known) (I := Guarded) (fun hc => AdmissionRuns.known hc)
    admission_obeys ?_ ?_ h
  · rintro k rfl
    refine ⟨?_, ?_, ?_⟩
    · intro n base own o _ hprobe
      exact absurd hprobe List.not_mem_nil
    · rintro base ⟨⟨hold, hhold, -⟩, -⟩
      exact absurd hhold List.not_mem_nil
    · intro n d hmem
      exact absurd hmem List.not_mem_nil
  · intro k log n e r k' hknown hguarded hrule hexec _
    exact hguarded.step hknown hrule hexec

/-! ## Refusals -/

/-- What a probe finds: it is refused when a lease of the opposing cohort is held, and
granted when none is. -/
theorem AdmissionRuns.probe (h : AdmissionRuns c) {before after : List (Nat × AdmissionEvent)}
    {o : Descriptor} {answer : LockAnswer}
    (hsplit : c.log = before ++ (n, ⟨.flock o .tryExclusive, answer⟩) :: after) :
    ∃ c₀ base own, AdmissionRuns c₀ ∧ c₀.log = before ∧ Later admissionWorld c₀ c ∧
      Opposing base own o.path ∧ HasMutex (history n before) o.process base ∧
      (answer = .wouldBlock → c₀.shared.CohortHeld o.path) ∧
      (answer = .locked → ¬ c₀.shared.CohortHeld o.path) := by
  obtain ⟨c₀, c₁, h₀, hlog, -, hexec, hstep, hlater⟩ := Actors.Reachable.moment_step h hsplit
  have hknown := AdmissionRuns.known h₀
  have hrule := Actors.Reachable.logged admission_obeys h hsplit
  rw [hlog] at hknown
  obtain ⟨hopen, hprobes, hjoins, base, own, hpair, hmutex⟩ := hrule.2 (hknown.opens.sane n)
  refine ⟨c₀, base, own, h₀, hlog, hlater.after_step hstep, hpair, hmutex, ?_, ?_⟩
  · rintro rfl
    have hrefused : ¬ Grantable Descriptor.path c₀.shared.held o .exclusive := hexec.2.2.1
    by_contra hnone
    apply hrefused
    intro hold hhold hfile hne
    have hexclusive : hold.mode = .exclusive := by
      cases hmode : hold.mode with
      | shared => exact absurd ⟨hold, hhold, hfile, hmode⟩ hnone
      | exclusive => rfl
    have hcohort : CohortFile base hold.owner.path := by
      rw [hfile]
      exact hpair.opposing_file
    obtain ⟨m, hprobe', hmutex'⟩ := hknown.probe_of_exclusive hhold hexclusive hcohort
    obtain rfl := hknown.one_holder hmutex hmutex' hexec.1 (hknown.agrees.alive hold hhold)
    exact absurd ⟨_, _, hprobe'⟩ hprobes
  · rintro rfl ⟨hold, hhold, hfile, hmode⟩
    have hgrant : Grantable Descriptor.path c₀.shared.held o .exclusive := hexec.2.1
    by_cases howner : hold.owner = o
    · obtain ⟨m, hjoin, hopen'⟩ := hknown.join_of_shared hhold hmode
      rw [howner] at hjoin hopen'
      obtain rfl := hknown.opens.one hopen hopen'
      exact hjoins ⟨o, _, hjoin⟩
    · cases (hgrant hold hhold hfile howner).2

theorem AdmissionRuns.result_of (h : AdmissionRuns c) {result : Except AdmissionError GPUAdmissionLease}
    (hreturned : (n, ⟨.returned process result, ()⟩) ∈ c.log) :
    ∃ past, ResultOf past result ∧ (∀ event ∈ past, (n, event) ∈ c.log) ∧
      ∀ o answer, (n, ⟨.flock o .tryExclusive, answer⟩) ∈ c.log → ⟨.flock o .tryExclusive, answer⟩ ∈ past := by
  obtain ⟨before, after, hsplit⟩ := List.append_of_mem hreturned
  obtain ⟨c₀, c₁, h₀, hlog, -, -, -, -⟩ := Actors.Reachable.moment h hsplit
  have hsane := (AdmissionRuns.opens h₀).sane n
  rw [hlog] at hsane
  have hrule := Actors.Reachable.logged admission_obeys h hsplit
  refine ⟨history n before, hrule.2 hsane, ?_, ?_⟩
  · intro event hevent
    rw [hsplit]
    exact List.mem_append_left _ (mem_history.mp hevent)
  · intro o answer hprobe
    rw [hsplit] at hprobe
    rcases List.mem_append.mp hprobe with hbefore | hrest
    · exact mem_history.mpr hbefore
    · rcases List.mem_cons.mp hrest with heq | hafter
      · cases heq
      · obtain ⟨front, back, hback⟩ := List.append_of_mem hafter
        have hlast : c.log = (before ++ (n, ⟨.returned process result, ()⟩) :: front) ++
            (n, ⟨.flock o .tryExclusive, answer⟩) :: back := by
          rw [hsplit, hback, List.append_assoc, List.cons_append]
        have hlater := Actors.Reachable.logged admission_obeys h hlast
        refine absurd ?_ hlater.1
        refine ⟨process, result, mem_history.mpr ?_⟩
        exact List.mem_append_right _ List.mem_cons_self

/-! ## Leases of one cohort -/

/-- Nobody is in the admission mutex and nobody is in the cohort of this file. -/
structure Kernel.Admits (k : Kernel) (base opposing : String) : Prop where
  mutex : ∀ hold ∈ k.held, hold.owner.path ≠ mutexPath base
  cohort : ¬ k.CohortHeld opposing

theorem Known.only_shared (h : Known k log) (hmutex : ∀ hold ∈ k.held, hold.owner.path ≠ mutexPath base)
    (hhold : hold ∈ k.held) (hfile : CohortFile base hold.owner.path) : hold.mode = .shared := by
  cases hmode : hold.mode with
  | shared => rfl
  | exclusive =>
    obtain ⟨n, -, m, hm, hprocess, hpath⟩ := h.probe_of_exclusive hhold hmode hfile
    have halive := h.agrees.alive hold hhold
    rw [← hprocess] at halive
    exact absurd hpath (hmutex _ (h.mutex_held hm hpath halive))

section
variable (k : Kernel) (process : Nat) (base own opposing : String)

def nextMutex : Descriptor := ⟨process, mutexPath base, k.serial⟩
def nextProbe : Descriptor := ⟨process, opposing, k.serial + 1⟩
def nextLease : Descriptor := ⟨process, own, k.serial + 2⟩

/-- The calls of an `Acquire` that is granted everything. -/
def grantedCalls : List AdmissionEvent :=
  [⟨.openFile process (mutexPath base), some (nextMutex k process base)⟩,
    ⟨.flock (nextMutex k process base) .exclusive, .locked⟩,
    ⟨.openFile process opposing, some (nextProbe k process opposing)⟩,
    ⟨.flock (nextProbe k process opposing) .tryExclusive, .locked⟩,
    ⟨.unlock (nextProbe k process opposing), none⟩, ⟨.close (nextProbe k process opposing), none⟩,
    ⟨.openFile process own, some (nextLease k process own)⟩,
    ⟨.flock (nextLease k process own) .tryShared, .locked⟩,
    ⟨.unlock (nextMutex k process base), none⟩, ⟨.close (nextMutex k process base), none⟩,
    ⟨.returned process (.ok ⟨some (nextLease k process own)⟩), ()⟩]

def afterGranted : Kernel :=
  let locked := take k.held (nextMutex k process base) .exclusive
  let probed := release (release (take locked (nextProbe k process opposing) .exclusive)
    (nextProbe k process opposing)) (nextProbe k process opposing)
  { k with
    serial := k.serial + 3
    held := release (release (take probed (nextLease k process own) .shared) (nextMutex k process base))
      (nextMutex k process base)
    leases := nextLease k process own :: k.leases }

end

theorem grantedCalls_reaches (k : Kernel)
    (hbase : base ≠ "") (hpaths : cohortPaths base cohort = some (own, opposing)) :
    Reaches (acquiring process base cohort) (grantedCalls k process base own opposing) (.pure ()) := by
  unfold acquiring acquire
  rw [if_neg hbase, hpaths]
  unfold grantedCalls
  refine .step _ (.step _ (.step _ (.step _ (.step _ (.step _ (.step _ (.step _ (.step _ (.step _
    (.step _ ?_))))))))))
  exact .refl _

theorem Known.number_lt (h : Known k log) (hhold : hold ∈ k.held) : hold.owner.number < k.serial := by
  obtain ⟨n, hlocks⟩ := h.agrees.owned hold hhold
  obtain ⟨⟨process, path, hopen⟩, -⟩ := (h.facts n).holds hold hlocks
  exact (h.opens.named n process path _ (mem_history.mp hopen)).2.2

/-- An `Acquire` that is granted everything adds one lock and keeps the others. -/
theorem Known.mem_afterGranted (h : Known k log) :
    hold ∈ (afterGranted k process base own opposing).held ↔
      hold = ⟨nextLease k process own, .shared⟩ ∨ hold ∈ k.held := by
  have hfresh : hold ∈ k.held → hold.owner ≠ nextMutex k process base ∧
      hold.owner ≠ nextProbe k process opposing ∧ hold.owner ≠ nextLease k process own := by
    intro hhold
    have hnumber := h.number_lt hhold
    refine ⟨?_, ?_, ?_⟩
    · intro heq
      rw [heq] at hnumber
      exact absurd hnumber (Nat.lt_irrefl _)
    · intro heq
      rw [heq, nextProbe] at hnumber
      simp only at hnumber
      omega
    · intro heq
      rw [heq, nextLease] at hnumber
      simp only at hnumber
      omega
  have hother : nextLease k process own ≠ nextMutex k process base := by
    intro heq
    have hnumber := congrArg Descriptor.number heq
    simp only [nextLease, nextMutex] at hnumber
    omega
  simp only [afterGranted, mem_release, mem_take]
  constructor
  · rintro ⟨⟨rfl | ⟨⟨⟨rfl | ⟨rfl | ⟨hhold, -⟩, -⟩, hprobe⟩, -⟩, -⟩, hmutex⟩, -⟩
    · exact .inl rfl
    · exact absurd rfl hprobe
    · exact absurd rfl hmutex
    · exact .inr hhold
  · rintro (rfl | hhold)
    · exact ⟨⟨.inl rfl, hother⟩, hother⟩
    · obtain ⟨hmutex, hprobe, hlease⟩ := hfresh hhold
      exact ⟨⟨.inr ⟨⟨⟨.inr ⟨.inr ⟨hhold, hmutex⟩, hprobe⟩, hprobe⟩, hprobe⟩, hlease⟩, hmutex⟩, hmutex⟩

theorem Known.grantedCalls_acts (h : Known k log) (hpair : Opposing base own opposing)
    (halive : process ∉ k.dead) (hadmits : k.Admits base opposing) :
    Acts admissionWorld k (grantedCalls k process base own opposing)
      (afterGranted k process base own opposing) := by
  have hmutex : Grantable Descriptor.path k.held (nextMutex k process base) .exclusive := by
    intro hold hhold hpath
    exact absurd hpath (hadmits.mutex hold hhold)
  have hprobe : Grantable Descriptor.path (take k.held (nextMutex k process base) .exclusive)
      (nextProbe k process opposing) .exclusive := by
    intro hold hhold hpath
    rcases mem_take.mp hhold with rfl | ⟨hhold, -⟩
    · exact absurd hpath.symm hpair.opposing_file.ne_mutex
    · have hfile : CohortFile base hold.owner.path := by
        rw [hpath]
        exact hpair.opposing_file
      exact absurd ⟨hold, hhold, hpath, h.only_shared hadmits.mutex hhold hfile⟩ hadmits.cohort
  have hlease : Grantable Descriptor.path (release (release (take (take k.held (nextMutex k process base)
      .exclusive) (nextProbe k process opposing) .exclusive) (nextProbe k process opposing))
        (nextProbe k process opposing)) (nextLease k process own) .shared := by
    intro hold hhold hpath _
    refine ⟨?_, rfl⟩
    obtain ⟨hhold, hother⟩ := mem_release.mp hhold
    rcases mem_take.mp (mem_release.mp hhold).1 with rfl | ⟨hhold, -⟩
    · exact absurd rfl hother
    · rcases mem_take.mp hhold with rfl | ⟨hhold, -⟩
      · exact absurd hpath.symm hpair.own_file.ne_mutex
      · refine h.only_shared hadmits.mutex hhold ?_
        rw [hpath]
        exact hpair.own_file
  exact .cons ⟨halive, rfl, rfl⟩ (.cons ⟨halive, hmutex, rfl⟩ (.cons ⟨halive, rfl, rfl⟩
    (.cons ⟨halive, hprobe, rfl⟩ (.cons ⟨halive, rfl⟩ (.cons ⟨halive, rfl⟩ (.cons ⟨halive, rfl, rfl⟩
      (.cons ⟨halive, hlease, rfl⟩ (.cons ⟨halive, rfl⟩ (.cons ⟨halive, rfl⟩ (.cons ⟨halive, rfl⟩
        (.nil _)))))))))))

/-- A program can join a cohort while the mutex is free and the opposing cohort is empty,
whoever is in the cohort already. -/
theorem AdmissionRuns.one_more (h : AdmissionRuns c)
    (hbase : base ≠ "") (hpaths : cohortPaths base cohort = some (own, opposing))
    (hadmits : c.shared.Admits base opposing) :
    ∃ c' d, AdmissionRuns c' ∧ c.log <+: c'.log ∧ c'.shared.Admits base opposing ∧
      c'.shared.leases = d :: c.shared.leases ∧ d ∉ c.shared.leases ∧ c'.shared.Leased own d ∧
      ∀ path d', c.shared.Leased path d' → c'.shared.Leased path d' := by
  have hknown := h.known
  have hpair := cohortPaths_opposing hpaths
  obtain ⟨process, hprocess⟩ := exists_above c.shared.dead
  have halive : process ∉ c.shared.dead := fun hdead => Nat.lt_irrefl _ (hprocess process hdead)
  obtain ⟨n, hlog, hactors⟩ := c.exists_fresh
  have hnew : nextLease c.shared process own ∉ c.shared.leases := by
    intro hlease
    obtain ⟨m, -, hlocks⟩ := hknown.agrees.leased _ hlease
    obtain ⟨⟨process', path, hopen⟩, -⟩ := (hknown.facts m).holds _ hlocks
    have hnumber := (hknown.opens.named m process' path _ (mem_history.mp hopen)).2.2
    simp only [nextLease] at hnumber
    omega
  have hunset : c.shared.once (nextLease c.shared process own) = .unset := by
    by_contra hset
    exact hnew (hknown.agrees.begun _ hset)
  refine ⟨_, nextLease c.shared process own, Actors.Reachable.enters h (.acquiring process base cohort) hlog
    hactors (grantedCalls_reaches c.shared hbase hpaths) (hknown.grantedCalls_acts hpair halive hadmits),
    List.prefix_append _ _, ⟨?_, ?_⟩, rfl, hnew, ⟨List.mem_cons_self, hunset, halive, rfl⟩, ?_⟩
  · intro hold hhold
    rcases hknown.mem_afterGranted.mp hhold with rfl | hhold
    · exact hpair.own_file.ne_mutex
    · exact hadmits.mutex hold hhold
  · rintro ⟨hold, hhold, hpath, hmode⟩
    rcases hknown.mem_afterGranted.mp hhold with rfl | hhold
    · exact hpair.ne hpath
    · exact hadmits.cohort ⟨hold, hhold, hpath, hmode⟩
  · rintro path d' ⟨hlease, hunset', halive', hpath⟩
    exact ⟨List.mem_cons_of_mem _ hlease, hunset', halive', hpath⟩

theorem AdmissionRuns.coexist (h : AdmissionRuns c)
    (hbase : base ≠ "") (hpaths : cohortPaths base cohort = some (own, opposing))
    (hadmits : c.shared.Admits base opposing) (count : Nat) :
    ∃ c' leases, AdmissionRuns c' ∧ c.log <+: c'.log ∧ c'.shared.Admits base opposing ∧ leases.Nodup ∧
      leases.length = count ∧ c'.shared.leases = leases ++ c.shared.leases ∧
      (∀ d ∈ leases, c'.shared.Leased own d ∧ d ∉ c.shared.leases) ∧
      ∀ path d, c.shared.Leased path d → c'.shared.Leased path d := by
  induction count with
  | zero =>
    refine ⟨c, [], h, List.prefix_refl _, hadmits, List.nodup_nil, rfl, rfl, ?_, fun _ _ hd => hd⟩
    intro d hd
    exact absurd hd List.not_mem_nil
  | succ count ih =>
    obtain ⟨c₁, leases, h₁, hlog₁, hadmits₁, hnodup, hlength, hall, hleased, hkept⟩ := ih
    obtain ⟨c₂, d, h₂, hlog₂, hadmits₂, hcons, hnew, hd, hkept₂⟩ := h₁.one_more hbase hpaths hadmits₁
    rw [hall, List.mem_append, not_or] at hnew
    refine ⟨c₂, d :: leases, h₂, hlog₁.trans hlog₂, hadmits₂, List.nodup_cons.mpr ⟨hnew.1, hnodup⟩, ?_, ?_, ?_, ?_⟩
    · rw [List.length_cons, hlength]
    · rw [hcons, hall, List.cons_append]
    · intro d' hd'
      rcases List.mem_cons.mp hd' with rfl | hd'
      · exact ⟨hd, hnew.2⟩
      · exact ⟨hkept₂ own d' (hleased d' hd').1, (hleased d' hd').2⟩
    · intro path d' hd'
      exact hkept₂ path d' (hkept path d' hd')

theorem AdmissionRuns.lease_held (h : AdmissionRuns c) {path : String}
    (hleased : c.shared.Leased path d) : ⟨d, .shared⟩ ∈ c.shared.held := by
  obtain ⟨hlease, hunset, halive, -⟩ := hleased
  obtain ⟨n, -, hlocks⟩ := h.agrees.leased d hlease
  exact h.agrees.kept n _ hlocks halive fun _ => hunset

/-- Live and batch leases of one base path are never held together; leases of one cohort can
be held in any number; and an `Acquire` is refused for capacity exactly when the opposing
cohort is held at its probe. -/
theorem gpu_cohorts_exclude (c : AdmissionScene) (h : AdmissionRuns c) :
    (∀ base, ¬ (c.shared.CohortHeld (livePath base) ∧ c.shared.CohortHeld (batchPath base))) ∧
    (∀ path d, c.shared.Leased path d → ⟨d, .shared⟩ ∈ c.shared.held ∧ c.shared.CohortHeld path) ∧
    (∀ base own opposing cohort, base ≠ "" → cohortPaths base cohort = some (own, opposing) →
      c.shared.Admits base opposing → ∀ count, ∃ c' : AdmissionScene, ∃ leases : List Descriptor,
        AdmissionRuns c' ∧ c.log <+: c'.log ∧ leases.Nodup ∧ leases.length = count ∧
        (∀ d ∈ leases, c'.shared.Leased own d ∧ d ∉ c.shared.leases) ∧
        ∀ path d, c.shared.Leased path d → c'.shared.Leased path d) ∧
    (∀ before after n o answer, c.log = before ++ (n, ⟨.flock o .tryExclusive, answer⟩) :: after →
      ∃ c₀ base own, AdmissionRuns c₀ ∧ c₀.log = before ∧ Later admissionWorld c₀ c ∧
        Opposing base own o.path ∧ HasMutex (history n before) o.process base ∧ ((∀ errno, answer ≠ .failed errno) →
          ∀ process result, (n, ⟨.returned process result, ()⟩) ∈ c.log →
            (result = .error .capacity ↔ c₀.shared.CohortHeld o.path))) ∧
    ∀ n process, (n, ⟨.returned process (.error .capacity), ()⟩) ∈ c.log →
      ∃ o, (n, ⟨.flock o .tryExclusive, .wouldBlock⟩) ∈ c.log := by
  refine ⟨h.guarded.apart, ?_, ?_, ?_, ?_⟩
  · intro path d hleased
    have hheld := h.lease_held hleased
    exact ⟨hheld, ⟨d, .shared⟩, hheld, hleased.2.2.2, rfl⟩
  · intro base own opposing cohort hbase hpaths hadmits count
    obtain ⟨c', leases, h', hlog, -, hnodup, hlength, -, hleased, hkept⟩ :=
      h.coexist hbase hpaths hadmits count
    exact ⟨c', leases, h', hlog, hnodup, hlength, hleased, hkept⟩
  · intro before after n o answer hsplit
    obtain ⟨c₀, base, own, h₀, hlog, hlater, hpair, hmutex, hrefused, hgranted⟩ := h.probe hsplit
    refine ⟨c₀, base, own, h₀, hlog, hlater, hpair, hmutex, ?_⟩
    intro hanswer process result hreturned
    obtain ⟨past, hresult, hpast, hprobes⟩ := h.result_of hreturned
    have hprobe := hprobes o answer (by rw [hsplit]; exact List.mem_append_right _ List.mem_cons_self)
    cases answer with
    | wouldBlock => exact iff_of_true (hresult.blocked ⟨o, hprobe⟩) (hrefused rfl)
    | failed errno => exact absurd rfl (hanswer errno)
    | locked =>
      refine iff_of_false ?_ (hgranted rfl)
      intro hcapacity
      rcases hresult.refused hcapacity with ⟨o', hblocked⟩ | ⟨d, hblocked⟩
      · have hone := (h.lockFacts n).one o o' .locked .wouldBlock
          (mem_history.mpr (hpast _ hprobe)) (mem_history.mpr (hpast _ hblocked))
        cases hone.2
      · exact h.guarded.unrefused n d (hpast _ hblocked)
  · intro n process hreturned
    obtain ⟨past, hresult, hpast, -⟩ := h.result_of hreturned
    rcases hresult.refused rfl with ⟨o, hblocked⟩ | ⟨d, hblocked⟩
    · exact ⟨o, hpast _ hblocked⟩
    · exact absurd (hpast _ hblocked) (h.guarded.unrefused n d)

theorem gpu_cohorts_exclude_sample : ∃ c, AdmissionRuns c ∧ (∃ d, c.shared.Leased (livePath "/gpu/0") d) ∧
    ¬ c.shared.CohortHeld (batchPath "/gpu/0") := by
  have hstart : AdmissionRuns ⟨Kernel.start, [], []⟩ := .initial rfl
  have hadmits : Kernel.start.Admits "/gpu/0" (batchPath "/gpu/0") := by
    refine ⟨fun hold hhold => absurd hhold List.not_mem_nil, ?_⟩
    rintro ⟨hold, hhold, -⟩
    exact absurd hhold List.not_mem_nil
  have hpaths : cohortPaths "/gpu/0" .live = some (livePath "/gpu/0", batchPath "/gpu/0") := rfl
  obtain ⟨c, d, h, -, -, -, -, hleased, -⟩ := hstart.one_more (by decide) hpaths hadmits
  obtain ⟨hapart, hlocked, -⟩ := gpu_cohorts_exclude c h
  refine ⟨c, h, ⟨d, hleased⟩, ?_⟩
  intro hbatch
  exact hapart "/gpu/0" ⟨(hlocked _ d hleased).2, hbatch⟩

end LivepeerTranscode.TranscodeCore
