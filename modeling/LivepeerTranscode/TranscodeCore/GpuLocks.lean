import LivepeerTranscode.TranscodeCore.GpuAdmission

/-!
# Which locks a program holds

What a program has locked is read off its own calls. The rule says under which locks of its
own a program takes the next one, and both `Acquire` and `Close` keep it. The kernel's table
agrees with the programs of the processes that are alive.
-/

namespace LivepeerTranscode.TranscodeCore
open Interaction Actors Flock
set_option autoImplicit false

variable {e : Effect} {c : AdmissionScene} {more : List AdmissionEvent}
  {result : Except AdmissionError GPUAdmissionLease}

/-! ## Lock files -/

theorem mutexPath_ne_batchPath (base base' : String) : mutexPath base ≠ batchPath base' := by
  intro h
  have hlast := congrArg (fun text : String => text.toList.getLast?) h
  simp [mutexPath, batchPath] at hlast

theorem mutexPath_ne_livePath (base base' : String) : mutexPath base ≠ livePath base' := by
  intro h
  have hlast := congrArg (fun text : String => text.toList.getLast?) h
  simp [mutexPath, livePath] at hlast

theorem livePath_ne_batchPath (base base' : String) : livePath base ≠ batchPath base' := by
  intro h
  have hlast := congrArg (fun text : String => text.toList.getLast?) h
  simp [livePath, batchPath] at hlast

/-- The two cohort files of a base path, one's own and the opposing one. -/
inductive Opposing (base : String) : String → String → Prop where
  | batch : Opposing base (batchPath base) (livePath base)
  | live : Opposing base (livePath base) (batchPath base)

variable {base own opposing base' path : String} {h : List AdmissionEvent} {process n : Nat}
  {d m o : Descriptor} {event : AdmissionEvent} {k : Kernel} {log : List (Nat × AdmissionEvent)}
  {hold : Hold Descriptor}

theorem cohortPaths_opposing {cohort : GPUAdmissionCohort}
    (h : cohortPaths base cohort = some (own, opposing)) : Opposing base own opposing := by
  cases cohort with
  | batch =>
    cases h
    exact .batch
  | live =>
    cases h
    exact .live
  | other value => cases h

theorem Opposing.ne (h : Opposing base own opposing) : own ≠ opposing := by
  cases h with
  | batch => exact (livePath_ne_batchPath _ _).symm
  | live => exact livePath_ne_batchPath _ _

/-- A path is one of the two cohort files of the base path. -/
def CohortFile (base path : String) : Prop := path = livePath base ∨ path = batchPath base

theorem Opposing.own_file (h : Opposing base own opposing) : CohortFile base own := by
  cases h with
  | batch => exact .inr rfl
  | live => exact .inl rfl

theorem Opposing.opposing_file (h : Opposing base own opposing) : CohortFile base opposing := by
  cases h with
  | batch => exact .inl rfl
  | live => exact .inr rfl

theorem CohortFile.ne_mutex (h : CohortFile base path) : path ≠ mutexPath base' := by
  rcases h with rfl | rfl
  · exact (mutexPath_ne_livePath _ _).symm
  · exact (mutexPath_ne_batchPath _ _).symm

theorem CohortFile.same_base (h : CohortFile base path)
    (h' : CohortFile base' path) : base = base' := by
  rcases h with rfl | rfl
  · rcases h' with h' | h'
    · exact (String.append_left_inj _).mp h'
    · exact absurd h' (livePath_ne_batchPath _ _)
  · rcases h' with h' | h'
    · exact absurd h'.symm (livePath_ne_batchPath _ _)
    · exact (String.append_left_inj _).mp h'

theorem Opposing.opposite (h : Opposing base own opposing) :
    (own = batchPath base' → opposing = livePath base') ∧
      (own = livePath base' → opposing = batchPath base') := by
  cases h with
  | batch =>
    refine ⟨?_, fun heq => absurd heq.symm (livePath_ne_batchPath _ _)⟩
    intro heq
    rw [(String.append_left_inj _).mp heq]
  | live =>
    refine ⟨fun heq => absurd heq (livePath_ne_batchPath _ _), ?_⟩
    intro heq
    rw [(String.append_left_inj _).mp heq]

/-! ## What a program has locked -/

def lockedAfter (table : List (Hold Descriptor)) : AdmissionEvent → List (Hold Descriptor)
  | ⟨.flock d request, .locked⟩ => take table d request.mode
  | ⟨.unlock d, none⟩ => release table d
  | ⟨.close d, _⟩ => release table d
  | _ => table

def locks (h : List AdmissionEvent) : List (Hold Descriptor) := h.foldl lockedAfter []

@[simp] theorem locks_concat (h : List AdmissionEvent) (event : AdmissionEvent) :
    locks (h ++ [event]) = lockedAfter (locks h) event := by
  simp [locks]

def Opened (h : List AdmissionEvent) (d : Descriptor) : Prop :=
  ∃ process path, ⟨.openFile process path, some d⟩ ∈ h

/-- The kernel names descriptions after what was opened. -/
def Sane (h : List AdmissionEvent) : Prop :=
  ∀ process path d, ⟨.openFile process path, some d⟩ ∈ h → d.process = process ∧ d.path = path

def HasMutex (h : List AdmissionEvent) (process : Nat) (base : String) : Prop :=
  ∃ m, ⟨m, .exclusive⟩ ∈ locks h ∧ m.process = process ∧ m.path = mutexPath base

def Returned (h : List AdmissionEvent) : Prop := ∃ process result, ⟨.returned process result, ()⟩ ∈ h

def Probes (h : List AdmissionEvent) : Prop := ∃ o answer, ⟨.flock o .tryExclusive, answer⟩ ∈ h

def Joins (h : List AdmissionEvent) : Prop := ∃ d answer, ⟨.flock d .tryShared, answer⟩ ∈ h

def Blocked (h : List AdmissionEvent) (request : LockRequest) : Prop := ∃ d, ⟨.flock d request, .wouldBlock⟩ ∈ h

structure ResultOf (h : List AdmissionEvent) (result : Except AdmissionError GPUAdmissionLease) : Prop where
  lease : ∀ d, result = .ok ⟨some d⟩ → ⟨d, .shared⟩ ∈ locks h
  refused : result = .error .capacity → Blocked h .tryExclusive ∨ Blocked h .tryShared
  blocked : Blocked h .tryExclusive → result = .error .capacity

/-- When a program makes a call, in terms of the calls it has made. -/
def ruleOf (h : List AdmissionEvent) : Effect → Prop
  | .flock d .exclusive => Opened h d ∧ ¬ Probes h ∧ ∃ base, d.path = mutexPath base
  | .flock o .tryExclusive => Opened h o ∧ ¬ Probes h ∧ ¬ Joins h ∧
      ∃ base own, Opposing base own o.path ∧ HasMutex h o.process base
  | .flock d .tryShared => Opened h d ∧ ¬ Joins h ∧ ∃ base o, Opposing base d.path o.path ∧
      Opened h o ∧ o.process = d.process ∧ ⟨.flock o .tryExclusive, .locked⟩ ∈ h ∧ HasMutex h d.process base
  | .unlock d | .close d => ⟨.enterOnce d, none⟩ ∈ h ∧ locks h = [] ∨ Opened h d ∧
      ∀ hold ∈ locks h, hold.owner ≠ d → hold.mode = .exclusive → ∃ base, hold.owner.path = mutexPath base
  | .returned _ result => ResultOf h result
  | .leaveOnce d _ => ⟨.enterOnce d, none⟩ ∈ h
  | .openFile .. | .enterOnce _ | .exit _ => True

def admissionRule (h : List AdmissionEvent) (e : Effect) : Prop := ¬ Returned h ∧ (Sane h → ruleOf h e)

/-! ## The programs keep the rule -/

/-- How `Acquire` ends. -/
def AcquirePost (h : List AdmissionEvent) (result : Except AdmissionError GPUAdmissionLease) : Prop :=
  ¬ Returned h ∧ (Sane h → ResultOf h result)

theorem Sane.of_append (hsane : Sane (h ++ more)) : Sane h :=
  fun process path d hopen => hsane process path d (List.mem_append_left _ hopen)

theorem Opened.append (hopen : Opened h d) : Opened (h ++ more) d := by
  obtain ⟨process, path, hopen⟩ := hopen
  exact ⟨process, path, List.mem_append_left _ hopen⟩

theorem locks_unlock (unlocked : Option String) : locks (h ++ [⟨.unlock d, unlocked⟩]) ⊆ locks h := by
  intro hold hhold
  rw [locks_concat] at hhold
  cases unlocked with
  | none => exact (mem_release.mp hhold).1
  | some errno => exact hhold

theorem ResultOf.leaves (hresult : ResultOf h result)
    (hevent : event = ⟨.unlock m, none⟩ ∨ (∃ errno, event = ⟨.unlock m, some errno⟩) ∨
      ∃ answer, event = ⟨.close m, answer⟩)
    (hlease : ∀ d, result = .ok ⟨some d⟩ → d ≠ m) : ResultOf (h ++ [event]) result := by
  have hblocked : ∀ request, Blocked (h ++ [event]) request ↔ Blocked h request := by
    intro request
    rcases hevent with rfl | ⟨errno, rfl⟩ | ⟨answer, rfl⟩ <;> simp [Blocked]
  refine ⟨fun d heq => ?_, by simpa only [hblocked] using hresult.refused,
    by simpa only [hblocked] using hresult.blocked⟩
  have hheld := hresult.lease d heq
  rcases hevent with rfl | ⟨errno, rfl⟩ | ⟨answer, rfl⟩
  · rw [locks_concat]
    exact mem_release.mpr ⟨hheld, hlease d heq⟩
  · rw [locks_concat]
    exact hheld
  · rw [locks_concat]
    exact mem_release.mpr ⟨hheld, hlease d heq⟩

/-- The end of `Acquire`, with the mutex still locked. -/
theorem leave_obeys (hquiet : ¬ Returned h)
    (hopen : Opened h m) (halone : Sane h → ∀ hold ∈ locks h, hold.mode = .exclusive → hold.owner = m)
    (hresult : Sane h → ResultOf h result ∧ ∀ d, result = .ok ⟨some d⟩ → d ≠ m) :
    Obeys admissionRule AcquirePost
      (perform (.unlock m) >>= fun _ => perform (.close m) >>= fun _ => .pure result) h := by
  refine ⟨⟨hquiet, fun hsane => .inr ⟨hopen, ?_⟩⟩, fun unlocked => ?_⟩
  · intro hold hhold hne hmode
    exact absurd (halone hsane hold hhold hmode) hne
  have hquiet' : ¬ Returned (h ++ [⟨.unlock m, unlocked⟩]) := by simpa [Returned] using hquiet
  refine ⟨⟨hquiet', fun hsane => .inr ⟨hopen.append, ?_⟩⟩, fun closed => ⟨?_, fun hsane => ?_⟩⟩
  · intro hold hhold hne hmode
    exact absurd (halone hsane.of_append hold (locks_unlock unlocked hhold) hmode) hne
  · simpa [Returned] using hquiet
  · obtain ⟨hresult, hlease⟩ := hresult hsane.of_append.of_append
    refine (hresult.leaves ?_ hlease).leaves (.inr (.inr ⟨closed, rfl⟩)) hlease
    cases unlocked with
    | none => exact .inl rfl
    | some errno => exact .inr (.inl ⟨errno, rfl⟩)

/-- An `Acquire` that fails closes the file it had opened and leaves. -/
theorem drop_obeys {e : AdmissionError} (hquiet : ¬ Returned h) (hopen : Opened h m) (hown : Opened h d)
    (hlocks : Sane h → locks h = [⟨m, .exclusive⟩] ∧ d ≠ m ∧ ∃ base, m.path = mutexPath base)
    (hresult : ResultOf h (.error e)) :
    Obeys admissionRule AcquirePost (perform (.close d) >>= fun _ => perform (.unlock m) >>= fun _ =>
      perform (.close m) >>= fun _ => .pure (.error e)) h := by
  refine ⟨⟨hquiet, fun hsane => .inr ⟨hown, ?_⟩⟩, fun closed => ?_⟩
  · obtain ⟨hlocks, -, hpath⟩ := hlocks hsane
    intro hold hhold _ _
    rw [hlocks] at hhold
    rw [List.mem_singleton.mp hhold]
    exact hpath
  · refine leave_obeys (by simpa [Returned] using hquiet) hopen.append ?_ ?_
    · intro hsane hold hhold _
      rw [locks_concat, (hlocks hsane.of_append).1] at hhold
      rw [List.mem_singleton.mp (mem_release.mp hhold).1]
    · exact fun _ => ⟨hresult.leaves (.inr (.inr ⟨closed, rfl⟩)) nofun, nofun⟩

theorem locks_probed (hlocks : locks h = [⟨m, .exclusive⟩]) (hne : o ≠ m) (unlocked closed : Option String) :
    locks (h ++ [⟨.flock o .tryExclusive, .locked⟩] ++ [⟨.unlock o, unlocked⟩] ++ [⟨.close o, closed⟩]) =
      [⟨m, .exclusive⟩] := by
  rw [locks_concat, locks_concat, locks_concat, hlocks]
  cases unlocked <;> simp [lockedAfter, take, release, hne.symm]

theorem joinCohort_obeys (hquiet : ¬ Returned h) (hfree : ¬ Joins h ∧ ¬ Blocked h .tryExclusive)
    (hmutex : ⟨.openFile process (mutexPath base), some m⟩ ∈ h)
    (hopposing : ⟨.openFile process opposing, some o⟩ ∈ h) (hpair : Opposing base own opposing)
    (hprobed : ⟨.flock o .tryExclusive, .locked⟩ ∈ h) (hlocks : Sane h → locks h = [⟨m, .exclusive⟩]) :
    Obeys admissionRule AcquirePost (joinCohort process own >>= fun result =>
      perform (.unlock m) >>= fun _ => perform (.close m) >>= fun _ => .pure result) h := by
  have hopen : Opened h m := ⟨_, _, hmutex⟩
  refine ⟨⟨hquiet, fun _ => trivial⟩, fun opened => ?_⟩
  have hquiet' : ¬ Returned (h ++ [⟨.openFile process own, opened⟩]) := by simpa [Returned] using hquiet
  have hkept : locks (h ++ [⟨.openFile process own, opened⟩]) = locks h := locks_concat h _
  have hfree' : ¬ Blocked (h ++ [⟨.openFile process own, opened⟩]) .tryExclusive := by
    simpa [Blocked] using hfree.2
  cases opened with
  | none =>
    refine leave_obeys hquiet' hopen.append ?_ fun _ => ⟨⟨nofun, nofun, fun h => absurd h hfree'⟩, nofun⟩
    intro hsane hold hhold _
    rw [hkept, hlocks hsane.of_append] at hhold
    rw [List.mem_singleton.mp hhold]
  | some d =>
    have hown : Opened (h ++ [⟨.openFile process own, some d⟩]) d := ⟨_, _, List.mem_concat_self⟩
    have hfacts : Sane (h ++ [⟨.openFile process own, some d⟩]) →
        locks (h ++ [⟨.openFile process own, some d⟩]) = [⟨m, .exclusive⟩] ∧ m.process = process ∧
          m.path = mutexPath base ∧ d.process = process ∧ d.path = own ∧ d ≠ m := by
      intro hsane
      obtain ⟨hprocess, hpath⟩ := hsane _ _ _ (List.mem_append_left _ hmutex)
      obtain ⟨hprocess', hpath'⟩ := hsane _ _ _ List.mem_concat_self
      refine ⟨hkept.trans (hlocks hsane.of_append), hprocess, hpath, hprocess', hpath', ?_⟩
      rintro rfl
      exact hpair.own_file.ne_mutex (hpath'.symm.trans hpath)
    refine ⟨⟨hquiet', fun hsane => ?_⟩, fun answer => ?_⟩
    · obtain ⟨hheld, hprocess, hpath, hprocess', hpath', -⟩ := hfacts hsane
      obtain ⟨hprobe, hfile⟩ := hsane _ _ _ (List.mem_append_left _ hopposing)
      refine ⟨hown, by simpa [Joins] using hfree.1, base, o, by rw [hpath', hfile]; exact hpair,
        ⟨_, _, List.mem_append_left _ hopposing⟩, hprobe.trans hprocess'.symm, List.mem_append_left _ hprobed, m, ?_,
        hprocess.trans hprocess'.symm, hpath⟩
      rw [hheld]
      exact List.mem_cons_self
    have hdrop : ∀ answer : LockAnswer, answer ≠ .locked → ∀ e, ResultOf (h ++
        [⟨.openFile process own, some d⟩] ++ [⟨.flock d .tryShared, answer⟩]) (.error e) →
        Obeys admissionRule AcquirePost (perform (.close d) >>= fun _ => perform (.unlock m) >>= fun _ =>
          perform (.close m) >>= fun _ => .pure (.error e))
          (h ++ [⟨.openFile process own, some d⟩] ++ [⟨.flock d .tryShared, answer⟩]) := by
      intro answer hanswer e hresult
      refine drop_obeys (by simpa [Returned] using hquiet) hopen.append.append hown.append ?_ hresult
      intro hsane
      obtain ⟨hheld, -, hpath, -, -, hne⟩ := hfacts hsane.of_append
      refine ⟨?_, hne, base, hpath⟩
      rw [locks_concat, hheld]
      cases answer with
      | locked => exact absurd rfl hanswer
      | _ => rfl
    cases answer with
    | locked =>
      refine leave_obeys (by simpa [Returned] using hquiet) hopen.append.append ?_ ?_
      · intro hsane hold hhold hmode
        rw [locks_concat, lockedAfter, (hfacts hsane.of_append).1] at hhold
        rcases mem_take.mp hhold with rfl | ⟨hhold, -⟩
        · cases hmode
        · rw [List.mem_singleton.mp hhold]
      · intro hsane
        refine ⟨⟨fun d' heq => ?_, nofun, fun hblocked => absurd ?_ hfree.2⟩, fun d' heq => ?_⟩
        · cases heq
          rw [locks_concat]
          exact mem_take.mpr (.inl rfl)
        · simpa [Blocked] using hblocked
        · cases heq
          exact (hfacts hsane.of_append).2.2.2.2.2
    | wouldBlock => exact hdrop .wouldBlock nofun .capacity ⟨nofun, fun _ => .inr ⟨d, List.mem_concat_self⟩, fun _ => rfl⟩
    | failed errno =>
      refine hdrop (.failed errno) nofun _ ⟨nofun, nofun, fun hblocked => absurd ?_ hfree.2⟩
      simpa [Blocked] using hblocked

theorem acquire_obeys (process : Nat) (basePath : String) (cohort : GPUAdmissionCohort) :
    Obeys admissionRule AcquirePost (acquire process basePath cohort) [] := by
  have hfailed : ∀ message, ResultOf [] (.error (.failure message)) := fun _ => ⟨nofun, nofun, by simp [Blocked]⟩
  unfold acquire
  split
  · exact ⟨by simp [Returned], fun _ => ⟨nofun, nofun, by simp [Blocked]⟩⟩
  split
  · exact ⟨by simp [Returned], fun _ => hfailed _⟩
  rename_i own opposing hpaths
  have hpair := cohortPaths_opposing hpaths
  refine ⟨⟨by simp [Returned], fun _ => trivial⟩, fun opened => ?_⟩
  cases opened with
  | none => exact ⟨by simp [Returned], fun _ => ⟨nofun, nofun, by simp [Blocked]⟩⟩
  | some m =>
    have hmutex : Opened [⟨.openFile process (mutexPath basePath), some m⟩] m := ⟨_, _, List.mem_cons_self⟩
    refine ⟨⟨by simp [Returned], fun hsane => ⟨hmutex, by simp [Probes], basePath,
      (hsane _ _ _ List.mem_cons_self).2⟩⟩, fun answer => ?_⟩
    -- a mutex that was not got is closed, and nothing is locked
    have hclose : ∀ answer : LockAnswer, answer ≠ .locked → ∀ message, Obeys admissionRule AcquirePost
        (perform (.close m) >>= fun _ => .pure (.error (.failure message)))
        [⟨.openFile process (mutexPath basePath), some m⟩, ⟨.flock m .exclusive, answer⟩] := by
      intro answer hanswer message
      refine ⟨⟨by simp [Returned], fun _ => .inr ⟨hmutex.append, ?_⟩⟩, fun closed => ⟨by simp [Returned], fun _ => ?_⟩⟩
      · intro hold hhold
        cases answer with
        | locked => exact absurd rfl hanswer
        | _ => cases hhold
      · exact ⟨nofun, nofun, by simp [Blocked]⟩
    cases answer with
    | wouldBlock => exact hclose .wouldBlock nofun _
    | failed errno => exact hclose (.failed errno) nofun _
    | locked =>
      refine ⟨⟨by simp [Returned], fun _ => trivial⟩, fun opened => ?_⟩
      cases opened with
      | none =>
        refine leave_obeys (by simp [Returned]) ⟨_, _, List.mem_cons_self⟩ ?_ ?_
        · intro _ hold hhold _
          exact List.mem_singleton.mp hhold ▸ rfl
        · exact fun _ => ⟨⟨nofun, nofun, by simp [Blocked]⟩, nofun⟩
      | some o =>
        have hfacts : ∀ {h : List AdmissionEvent}, ⟨.openFile process (mutexPath basePath), some m⟩ ∈ h →
            ⟨.openFile process opposing, some o⟩ ∈ h → Sane h → m.process = o.process ∧
              m.path = mutexPath basePath ∧ o.path = opposing ∧ o ≠ m := by
          intro h hmutex hopposing hsane
          obtain ⟨hprocess, hpath⟩ := hsane _ _ _ hmutex
          obtain ⟨hprocess', hpath'⟩ := hsane _ _ _ hopposing
          refine ⟨hprocess.trans hprocess'.symm, hpath, hpath', ?_⟩
          rintro rfl
          exact hpair.opposing_file.ne_mutex (hpath'.symm.trans hpath)
        refine ⟨⟨by simp [Returned], fun hsane => ?_⟩, fun answer => ?_⟩
        · obtain ⟨hprocess, hpath, hfile, -⟩ := hfacts (by simp) (by simp) hsane
          exact ⟨⟨_, _, List.mem_concat_self⟩, by simp [Probes], by simp [Joins], basePath, own, hfile ▸ hpair, m,
            List.mem_cons_self, hprocess, hpath⟩
        cases answer with
        | wouldBlock =>
          refine drop_obeys (by simp [Returned]) ⟨_, _, List.mem_cons_self⟩ ⟨process, opposing, by simp⟩ ?_
            ⟨nofun, fun _ => .inl ⟨o, List.mem_concat_self⟩, fun _ => rfl⟩
          intro hsane
          obtain ⟨-, hpath, -, hne⟩ := hfacts (by simp) (by simp) hsane
          exact ⟨rfl, hne, _, hpath⟩
        | failed errno =>
          refine drop_obeys (by simp [Returned]) ⟨_, _, List.mem_cons_self⟩ ⟨process, opposing, by simp⟩ ?_
            ⟨nofun, nofun, by simp [Blocked]⟩
          intro hsane
          obtain ⟨-, hpath, -, hne⟩ := hfacts (by simp) (by simp) hsane
          exact ⟨rfl, hne, _, hpath⟩
        | locked =>
          have hothers : ∀ {h : List AdmissionEvent}, ⟨.openFile process (mutexPath basePath), some m⟩ ∈ h →
              ⟨.openFile process opposing, some o⟩ ∈ h → locks h ⊆ [⟨o, .exclusive⟩, ⟨m, .exclusive⟩] →
              Sane h → ruleOf h (.close o) := by
            intro h hmutex hopposing hlocks hsane
            obtain ⟨-, hpath, -, -⟩ := hfacts hmutex hopposing hsane
            refine .inr ⟨⟨_, _, hopposing⟩, ?_⟩
            intro hold hhold hne _
            rcases List.mem_cons.mp (hlocks hhold) with rfl | hlast
            · exact absurd rfl hne
            · rw [List.mem_singleton.mp hlast]
              exact ⟨_, hpath⟩
          have hprobed : locks ([] ++ [⟨.openFile process (mutexPath basePath), some m⟩] ++
              [⟨.flock m .exclusive, .locked⟩] ++ [⟨.openFile process opposing, some o⟩] ++
              [⟨.flock o .tryExclusive, .locked⟩]) ⊆ [⟨o, .exclusive⟩, ⟨m, .exclusive⟩] :=
            List.cons_subset_cons _ fun _ hhold => (mem_release.mp hhold).1
          refine ⟨⟨by simp [Returned], hothers (by simp) (by simp) hprobed⟩, fun unlocked => ?_⟩
          refine ⟨⟨by simp [Returned], hothers (by simp) (by simp) ?_⟩, fun closed => ?_⟩
          · exact List.Subset.trans (locks_unlock unlocked) hprobed
          refine joinCohort_obeys (o := o) (by simp [Returned]) (by simp [Joins, Blocked]) (by simp) (by simp) hpair
            (by simp) fun hsane => ?_
          obtain ⟨-, -, -, hne⟩ := hfacts (by simp) (by simp) hsane
          exact locks_probed rfl hne unlocked closed

theorem closing_obeys (lease : GPUAdmissionLease) :
    Obeys admissionRule (fun _ _ => True) (closing lease) [] := by
  obtain ⟨file⟩ := lease
  cases file with
  | none => trivial
  | some d =>
    refine ⟨⟨by simp [Returned], fun _ => trivial⟩, fun entered => ?_⟩
    cases entered with
    | some err => trivial
    | none =>
      refine ⟨⟨by simp [Returned], fun _ => .inl ⟨List.mem_cons_self, rfl⟩⟩, fun unlocked => ?_⟩
      refine ⟨⟨by simp [Returned], fun _ => .inl ⟨List.mem_cons_self, ?_⟩⟩, fun closed => ?_⟩
      · cases unlocked <;> rfl
      · exact ⟨⟨by simp [Returned], fun _ => List.mem_cons_self⟩, fun _ => trivial⟩

theorem admission_obeys (p : AdmissionProg Unit) (h : AdmissionStarts p) :
    Obeys admissionRule (fun _ _ => True) p [] := by
  cases h with
  | acquiring process basePath cohort =>
    refine Obeys.bind (acquire_obeys process basePath cohort) ?_
    intro h result hpost
    exact ⟨hpost, fun _ => trivial⟩
  | closing lease => exact closing_obeys lease
  | exit process => exact ⟨⟨by simp [Returned], fun _ => trivial⟩, fun _ => trivial⟩

/-! ## What a call does to the kernel -/

def gained : AdmissionEvent → Option (Hold Descriptor)
  | ⟨.flock d request, .locked⟩ => some ⟨d, request.mode⟩
  | _ => none

/-- The description a call gives another lock, or none. -/
def touched : AdmissionEvent → Option Descriptor
  | ⟨.flock d _, .locked⟩ | ⟨.unlock d, none⟩ | ⟨.close d, _⟩ => some d
  | _ => none

theorem mem_lockedAfter {table : List (Hold Descriptor)} : hold ∈ lockedAfter table event ↔
    gained event = some hold ∨ hold ∈ table ∧ touched event ≠ some hold.owner := by
  obtain ⟨e, r⟩ := event
  cases e with
  | flock d request => cases r <;> simp [lockedAfter, gained, touched, mem_take, eq_comm]
  | unlock d => cases r <;> simp [lockedAfter, gained, touched, mem_release, eq_comm]
  | close d => simp [lockedAfter, gained, touched, mem_release, eq_comm]
  | _ => simp [lockedAfter, gained, touched]

theorem gained_some (h : gained event = some hold) :
    ∃ d request, event = ⟨.flock d request, .locked⟩ ∧ hold = ⟨d, request.mode⟩ := by
  unfold gained at h
  split at h
  · cases h
    exact ⟨_, _, rfl, rfl⟩
  · cases h

theorem touched_some (h : touched event = some d) : (∃ request, event = ⟨.flock d request, .locked⟩) ∨
    event = ⟨.unlock d, none⟩ ∨ ∃ answer, event = ⟨.close d, answer⟩ := by
  unfold touched at h
  split at h
  · cases h
    exact .inl ⟨_, rfl⟩
  · cases h
    exact .inr (.inl rfl)
  · cases h
    exact .inr (.inr ⟨_, rfl⟩)
  · cases h

section
variable {k' : Kernel} {e : Effect} {r : e.Answer}

theorem execute_held (h : execute k e r k') :
    (k'.dead = k.dead ∧ k'.held = lockedAfter k.held ⟨e, r⟩) ∨
      ∃ process, e = .exit process ∧ k'.dead = process :: k.dead ∧
        k'.held = k.held.filter fun hold => decide (hold.owner.process ≠ process) := by
  cases e with
  | openFile => cases r <;> simp_all [execute, lockedAfter]
  | flock => cases r <;> simp_all [execute, lockOutcome, lockedAfter]
  | unlock => cases r <;> simp_all [execute, lockedAfter]
  | close => simp_all [execute, lockedAfter]
  | returned process result => rcases result with e | ⟨_ | d⟩ <;> simp_all [execute, lockedAfter]
  | enterOnce => cases r <;> simp_all [execute, lockedAfter, Kernel.setOnce]
  | leaveOnce => simp_all [execute, lockedAfter, Kernel.setOnce]
  | exit => simp_all [execute]

theorem execute_leases (h : execute k e r k') : k.serial ≤ k'.serial ∧ (k'.leases = k.leases ∨
    ∃ process d, e = .returned process (.ok ⟨some d⟩) ∧ k'.leases = d :: k.leases) := by
  cases e with
  | openFile => cases r <;> simp_all [execute]
  | flock => cases r <;> simp_all [execute, lockOutcome]
  | unlock => cases r <;> simp_all [execute]
  | returned process result => rcases result with e | ⟨_ | d⟩ <;> simp_all [execute]
  | enterOnce => cases r <;> simp_all [execute, Kernel.setOnce]
  | _ => simp_all [execute, Kernel.setOnce]

theorem execute_once (h : execute k e r k') (d : Descriptor) : k'.once d = k.once d ∨
    k'.once d ≠ .unset ∧ (d ∈ k.leases ∨ ∃ err, e = .leaveOnce d err) := by
  cases e with
  | openFile => cases r <;> simp_all [execute]
  | flock => cases r <;> simp_all [execute, lockOutcome]
  | unlock => cases r <;> simp_all [execute]
  | returned process result => rcases result with e | ⟨_ | d⟩ <;> simp_all [execute]
  | enterOnce d' => cases r <;> by_cases hd : d = d' <;> simp_all [execute, Kernel.setOnce]
  | leaveOnce d' => by_cases hd : d = d' <;> simp_all [execute, Kernel.setOnce]
  | _ => simp_all [execute]

end

/-! ## Descriptions -/

/-- Descriptions are named after what was opened, and no two programs get the same one. -/
structure Opens (k : Kernel) (log : List (Nat × AdmissionEvent)) : Prop where
  named : ∀ n process path d, (n, ⟨.openFile process path, some d⟩) ∈ log →
    d.process = process ∧ d.path = path ∧ d.number < k.serial
  unique : ∀ n n' process process' path path' d, (n, ⟨.openFile process path, some d⟩) ∈ log →
    (n', ⟨.openFile process' path', some d⟩) ∈ log → n = n'

theorem Opens.step {k' : Kernel} {r : e.Answer} (hopens : Opens k log) (hexec : execute k e r k') :
    Opens k' (log ++ [(n, ⟨e, r⟩)]) := by
  have hserial := (execute_leases hexec).1
  -- the number of a description that is opened now is the kernel's next one
  have hnew : ∀ m process path d, (m, (⟨.openFile process path, some d⟩ : AdmissionEvent)) = (n, ⟨e, r⟩) →
      m = n ∧ d = ⟨process, path, k.serial⟩ ∧ k'.serial = k.serial + 1 := by
    intro m process path d heq
    cases heq
    exact ⟨rfl, hexec.2.1, congrArg Kernel.serial hexec.2.2⟩
  constructor
  · intro m process path d hmem
    rcases List.mem_append.mp hmem with hpast | hlast
    · obtain ⟨hprocess, hpath, hnumber⟩ := hopens.named m process path d hpast
      exact ⟨hprocess, hpath, by omega⟩
    · obtain ⟨-, rfl, hnext⟩ := hnew m process path d (List.mem_singleton.mp hlast)
      exact ⟨rfl, rfl, by simp only; omega⟩
  · intro m m' process process' path path' d hmem hmem'
    rcases List.mem_append.mp hmem with hpast | hlast
    · rcases List.mem_append.mp hmem' with hpast' | hlast'
      · exact hopens.unique m m' process process' path path' d hpast hpast'
      · obtain ⟨-, rfl, -⟩ := hnew m' process' path' d (List.mem_singleton.mp hlast')
        have hnumber := (hopens.named m process path _ hpast).2.2
        simp only at hnumber
        omega
    · obtain ⟨hm, rfl, -⟩ := hnew m process path d (List.mem_singleton.mp hlast)
      rcases List.mem_append.mp hmem' with hpast' | hlast'
      · have hnumber := (hopens.named m' process' path' _ hpast').2.2
        simp only at hnumber
        omega
      · obtain ⟨hm', -, -⟩ := hnew m' process' path' _ (List.mem_singleton.mp hlast')
        rw [hm, hm']

theorem AdmissionRuns.opens (h : AdmissionRuns c) : Opens c.shared c.log := by
  refine Actors.Reachable.invariant (I := Opens) admission_obeys ?_ ?_ h
  · intro k _
    exact ⟨fun _ _ _ _ hmem => absurd hmem List.not_mem_nil,
      fun _ _ _ _ _ _ _ hmem => absurd hmem List.not_mem_nil⟩
  · intro k log n e r k' hopens _ hexec
    exact hopens.step hexec

theorem Opens.sane (h : Opens k log) (n : Nat) : Sane (history n log) := by
  intro process path d hopen
  have hnamed := h.named n process path d (mem_history.mp hopen)
  exact ⟨hnamed.1, hnamed.2.1⟩

theorem Opens.one (h : Opens k log) {n' : Nat} (hopen : Opened (history n log) d)
    (hopen' : Opened (history n' log) d) : n = n' := by
  obtain ⟨process, path, hopen⟩ := hopen
  obtain ⟨process', path', hopen'⟩ := hopen'
  exact h.unique n n' process process' path path' d (mem_history.mp hopen) (mem_history.mp hopen')

/-! ## Locks of one program -/

/-- A program has only files locked that it opened. Exclusively it has the mutex, and an
opposing file only under the mutex; shared it has the file of a cohort. -/
def HoldOf (h : List AdmissionEvent) (hold : Hold Descriptor) : Prop :=
  Opened h hold.owner ∧ match hold.mode with
  | .exclusive => (∃ base, hold.owner.path = mutexPath base) ∨
      ⟨.flock hold.owner .tryExclusive, .locked⟩ ∈ h ∧
        ∃ base own, Opposing base own hold.owner.path ∧ HasMutex h hold.owner.process base
  | .shared => ⟨.flock hold.owner .tryShared, .locked⟩ ∈ h ∧
      ∃ base opposing, Opposing base hold.owner.path opposing

structure LockFacts (h : List AdmissionEvent) : Prop where
  holds : ∀ hold ∈ locks h, HoldOf h hold
  one : ∀ o o' answer answer', ⟨.flock o .tryExclusive, answer⟩ ∈ h →
    ⟨.flock o' .tryExclusive, answer'⟩ ∈ h → o = o' ∧ answer = answer'

theorem HoldOf.concat (hhold : HoldOf h hold) (hkeeps : ∀ m base, m.path = mutexPath base →
    ⟨m, .exclusive⟩ ∈ locks h → ⟨m, .exclusive⟩ ∈ locks (h ++ [event])) : HoldOf (h ++ [event]) hold := by
  obtain ⟨owner, mode⟩ := hold
  obtain ⟨hopen, hmode⟩ := hhold
  refine ⟨hopen.append, ?_⟩
  cases mode with
  | shared => exact ⟨List.mem_append_left _ hmode.1, hmode.2⟩
  | exclusive =>
    refine hmode.imp_right ?_
    rintro ⟨hprobe, base, own, hpair, m, hm, hprocess, hpath⟩
    exact ⟨List.mem_append_left _ hprobe, base, own, hpair, m, hkeeps m base hpath hm, hprocess, hpath⟩

theorem LockFacts.step (r : e.Answer) (hfacts : LockFacts h) (hrule : ruleOf h e) :
    LockFacts (h ++ [⟨e, r⟩]) where
  holds hold hhold := by
    have hneutral : lockedAfter (locks h) ⟨e, r⟩ = locks h → HoldOf (h ++ [⟨e, r⟩]) hold := by
      intro hlocks
      rw [locks_concat, hlocks] at hhold
      exact (hfacts.holds hold hhold).concat fun m _ _ hm => by rwa [locks_concat, hlocks]
    have hreleased : ∀ d, ruleOf h (.close d) → lockedAfter (locks h) ⟨e, r⟩ = release (locks h) d →
        HoldOf (h ++ [⟨e, r⟩]) hold := by
      intro d hrule hlocks
      rw [locks_concat, hlocks] at hhold
      obtain ⟨hhold, hne⟩ := mem_release.mp hhold
      obtain ⟨owner, mode⟩ := hold
      have hold := hfacts.holds _ hhold
      rcases hrule with ⟨-, hnothing⟩ | ⟨-, hothers⟩
      · rw [hnothing] at hhold
        cases hhold
      · cases mode with
        | shared => exact ⟨hold.1.append, List.mem_append_left _ hold.2.1, hold.2.2⟩
        | exclusive => exact ⟨hold.1.append, .inl (hothers _ hhold hne rfl)⟩
    cases e with
    | flock d request =>
      cases r with
      | locked =>
        rw [locks_concat] at hhold
        have hlast : ⟨.flock d request, .locked⟩ ∈ h ++ [(⟨.flock d request, .locked⟩ : AdmissionEvent)] :=
          List.mem_concat_self
        -- a description that was locked for the mutex stays so, also if it is this one again
        have hkeeps : ∀ m base, m.path = mutexPath base → ⟨m, .exclusive⟩ ∈ locks h →
            ⟨m, .exclusive⟩ ∈ locks (h ++ [⟨.flock d request, .locked⟩]) := by
          intro m base hpath hm
          rw [locks_concat]
          refine mem_take.mpr ?_
          by_cases hmd : m = d
          · subst hmd
            cases request with
            | tryShared =>
              obtain ⟨-, -, _, o, hpair, -⟩ := hrule
              exact absurd hpath hpair.own_file.ne_mutex
            | _ => exact .inl rfl
          · exact .inr ⟨hm, hmd⟩
        rcases mem_take.mp hhold with rfl | ⟨hhold, -⟩
        · cases request with
          | exclusive =>
            obtain ⟨hopen, -, hpath⟩ := hrule
            exact ⟨hopen.append, .inl hpath⟩
          | tryExclusive =>
            obtain ⟨hopen, -, -, base, own, hpair, m, hm, hprocess, hpath⟩ := hrule
            exact ⟨hopen.append, .inr ⟨hlast, base, own, hpair, m, hkeeps m base hpath hm, hprocess, hpath⟩⟩
          | tryShared =>
            obtain ⟨hopen, -, base, o, hpair, -⟩ := hrule
            exact ⟨hopen.append, hlast, base, o.path, hpair⟩
        · exact (hfacts.holds hold hhold).concat hkeeps
      | _ => exact hneutral rfl
    | unlock d =>
      cases r with
      | none => exact hreleased d hrule rfl
      | some errno => exact hneutral rfl
    | close d => exact hreleased d hrule rfl
    | _ => exact hneutral rfl
  one o o' answer answer' hmem hmem' := by
    rcases List.mem_append.mp hmem with hpast | hlast
    · rcases List.mem_append.mp hmem' with hpast' | hlast'
      · exact hfacts.one o o' answer answer' hpast hpast'
      · cases List.mem_singleton.mp hlast'
        exact absurd ⟨o, answer, hpast⟩ hrule.2.1
    · rcases List.mem_append.mp hmem' with hpast' | hlast'
      · cases List.mem_singleton.mp hlast
        exact absurd ⟨o', answer', hpast'⟩ hrule.2.1
      · cases (List.mem_singleton.mp hlast).trans (List.mem_singleton.mp hlast').symm
        exact ⟨rfl, rfl⟩

theorem AdmissionRuns.lockFacts (h : AdmissionRuns c) (n : Nat) :
    LockFacts (history n c.log) := by
  have hall : Sane (history n c.log) → LockFacts (history n c.log) := by
    refine Actors.Reachable.each_history (F := fun h => Sane h → LockFacts h) admission_obeys ?_ ?_ h n
    · exact fun _ => ⟨nofun, nofun⟩
    · intro h e r hfacts hrule hsane
      exact (hfacts hsane.of_append).step r (hrule.2 hsane.of_append)
  exact hall (h.opens.sane n)

/-! ## The kernel's table -/

/-- The table holds what the programs of live processes have locked, and nothing else. A lease
stays locked until somebody begins to close it. -/
structure Agrees (k : Kernel) (log : List (Nat × AdmissionEvent)) : Prop where
  exclusion : Exclusion Descriptor.path k.held
  alive : ∀ hold ∈ k.held, hold.owner.process ∉ k.dead
  owned : ∀ hold ∈ k.held, ∃ n, hold ∈ locks (history n log)
  kept : ∀ n, ∀ hold ∈ locks (history n log), hold.owner.process ∉ k.dead →
    (hold.owner ∈ k.leases → k.once hold.owner = .unset) → hold ∈ k.held
  leased : ∀ d ∈ k.leases, ∃ n, Returned (history n log) ∧ ⟨d, .shared⟩ ∈ locks (history n log)
  entered : ∀ n d, ⟨.enterOnce d, none⟩ ∈ history n log → d ∈ k.leases ∧ k.once d ≠ .unset
  begun : ∀ d, k.once d ≠ .unset → d ∈ k.leases

theorem history_concat (n m : Nat) (log : List (Nat × AdmissionEvent)) (event : AdmissionEvent) :
    m = n ∧ history m (log ++ [(n, event)]) = history n log ++ [event] ∨
      m ≠ n ∧ history m (log ++ [(n, event)]) = history m log := by
  by_cases hm : m = n
  · subst hm
    exact .inl ⟨rfl, history_own m log event⟩
  · exact .inr ⟨hm, history_other (Ne.symm hm) log event⟩

theorem Agrees.step {k' : Kernel} {r : e.Answer} (hagrees : Agrees k log) (hopens : Opens k log)
    (hfacts : ∀ m, LockFacts (history m log)) (hrule : admissionRule (history n log) e)
    (hexec : execute k e r k') : Agrees k' (log ++ [(n, ⟨e, r⟩)]) := by
  obtain ⟨hquiet, hrule⟩ := hrule
  replace hrule := hrule (hopens.sane n)
  have hleases : ∀ d ∈ k.leases, d ∈ k'.leases := by
    intro d hd
    rcases (execute_leases hexec).2 with hsame | ⟨process, d', -, hnew⟩
    · rwa [hsame]
    · rw [hnew]
      exact List.mem_cons_of_mem _ hd
  -- a description whose lock changes is one of the caller's own, or a lease that is being closed
  have hmine : ∀ {d : Descriptor}, touched ⟨e, r⟩ = some d →
      ⟨.enterOnce d, none⟩ ∈ history n log ∨ Opened (history n log) d := by
    intro d htouched
    rcases touched_some htouched with ⟨request, heq⟩ | heq | ⟨answer, heq⟩
    · cases heq
      cases request <;> exact .inr hrule.1
    · cases heq
      exact hrule.imp (·.1) (·.1)
    · cases heq
      exact hrule.imp (·.1) (·.1)
  have hunset : ∀ d, (d ∈ k'.leases → k'.once d = .unset) → d ∈ k.leases → k.once d = .unset := by
    intro d h hd
    rcases execute_once hexec d with hsame | ⟨hset, -⟩
    · exact hsame ▸ h (hleases d hd)
    · exact absurd (h (hleases d hd)) hset
  refine ⟨?_, ?_, ?_, ?_, ?_, ?_, ?_⟩
  · rcases execute_held hexec with ⟨-, hheld⟩ | ⟨process, -, -, hheld⟩
    · cases hgained : gained ⟨e, r⟩ with
      | none =>
        refine hagrees.exclusion.mono fun hold hhold => ?_
        rw [hheld, mem_lockedAfter, hgained] at hhold
        exact (hhold.resolve_left nofun).1
      | some hold =>
        obtain ⟨d, request, heq, -⟩ := gained_some hgained
        cases heq
        rw [hheld]
        exact hagrees.exclusion.take hexec.2.1
    · rw [hheld]
      exact hagrees.exclusion.mono fun hold hhold => (List.mem_filter.mp hhold).1
  · intro hold hhold
    rcases execute_held hexec with ⟨hdead, hheld⟩ | ⟨process, -, hdead, hheld⟩
    · rw [hheld, mem_lockedAfter] at hhold
      rw [hdead]
      rcases hhold with hgained | ⟨hhold, -⟩
      · obtain ⟨d, request, heq, rfl⟩ := gained_some hgained
        cases heq
        exact hexec.1
      · exact hagrees.alive hold hhold
    · rw [hheld] at hhold
      obtain ⟨hhold, hne⟩ := List.mem_filter.mp hhold
      rw [hdead, List.mem_cons, not_or]
      exact ⟨of_decide_eq_true hne, hagrees.alive hold hhold⟩
  · intro hold hhold
    have hafter : hold ∈ lockedAfter k.held ⟨e, r⟩ := by
      rcases execute_held hexec with ⟨-, hheld⟩ | ⟨process, rfl, -, hheld⟩
      · rwa [hheld] at hhold
      · rw [hheld] at hhold
        exact (List.mem_filter.mp hhold).1
    rcases mem_lockedAfter.mp hafter with hgained | ⟨hhold, hother⟩
    · refine ⟨n, ?_⟩
      rw [history_own, locks_concat, mem_lockedAfter]
      exact .inl hgained
    · obtain ⟨m, hm⟩ := hagrees.owned hold hhold
      refine ⟨m, ?_⟩
      rcases history_concat n m log ⟨e, r⟩ with ⟨rfl, hown⟩ | ⟨-, hsame⟩
      · rw [hown, locks_concat, mem_lockedAfter]
        exact .inr ⟨hm, hother⟩
      · rwa [hsame]
  · intro m hold hhold hprocess hlease
    have hafter : hold.owner.process ∉ k.dead → hold ∈ lockedAfter k.held ⟨e, r⟩ := by
      intro halive
      rw [mem_lockedAfter]
      rcases history_concat n m log ⟨e, r⟩ with ⟨rfl, hown⟩ | ⟨hm, hsame⟩
      · rw [hown, locks_concat, mem_lockedAfter] at hhold
        exact hhold.imp_right fun hhold => ⟨hagrees.kept m hold hhold.1 halive (hunset _ hlease), hhold.2⟩
      · rw [hsame] at hhold
        refine .inr ⟨hagrees.kept m hold hhold halive (hunset _ hlease), fun htouched => ?_⟩
        rcases hmine htouched with hentered | hopen
        · obtain ⟨hleased, hset⟩ := hagrees.entered n _ hentered
          exact hset (hunset _ hlease hleased)
        · exact hm (hopens.one ((hfacts m).holds hold hhold).1 hopen)
    rcases execute_held hexec with ⟨hdead, hheld⟩ | ⟨process, rfl, hdead, hheld⟩
    · rw [hheld]
      exact hafter (hdead ▸ hprocess)
    · rw [hdead, List.mem_cons, not_or] at hprocess
      rw [hheld]
      exact List.mem_filter.mpr ⟨hafter hprocess.2, decide_eq_true hprocess.1⟩
  · intro d hd
    have hold : d ∈ k.leases → ∃ m, Returned (history m (log ++ [(n, ⟨e, r⟩)])) ∧
        ⟨d, .shared⟩ ∈ locks (history m (log ++ [(n, ⟨e, r⟩)])) := by
      intro hd
      obtain ⟨m, hreturned, hm⟩ := hagrees.leased d hd
      have hne : n ≠ m := fun heq => hquiet (heq ▸ hreturned)
      exact ⟨m, by rwa [history_other hne], by rwa [history_other hne]⟩
    rcases (execute_leases hexec).2 with hsame | ⟨process, d', rfl, hnew⟩
    · exact hold (hsame ▸ hd)
    · rw [hnew] at hd
      rcases List.mem_cons.mp hd with rfl | hd
      · refine ⟨n, ⟨process, .ok ⟨some d⟩, ?_⟩, ?_⟩
        · rw [history_own]
          exact List.mem_concat_self
        · rw [history_own, locks_concat]
          exact hrule.lease d rfl
      · exact hold hd
  · intro m d hmem
    rcases List.mem_append.mp (mem_history.mp hmem) with hpast | hlast
    · obtain ⟨hd, hset⟩ := hagrees.entered m d (mem_history.mpr hpast)
      refine ⟨hleases d hd, ?_⟩
      rcases execute_once hexec d with hsame | ⟨hset', -⟩
      · rwa [hsame]
      · exact hset'
    · cases List.mem_singleton.mp hlast
      obtain ⟨-, hd, -, rfl⟩ := hexec
      exact ⟨hd, by simp [Kernel.setOnce]⟩
  · intro d hset
    rcases execute_once hexec d with hsame | ⟨-, hd | ⟨err, rfl⟩⟩
    · exact hleases d (hagrees.begun d (hsame ▸ hset))
    · exact hleases d hd
    · exact hleases d (hagrees.entered n d hrule).1

theorem AdmissionRuns.agrees (h : AdmissionRuns c) : Agrees c.shared c.log := by
  refine Actors.Reachable.invariant_of
    (K := fun k log => Opens k log ∧ ∀ m, LockFacts (history m log)) (I := Agrees) ?_ admission_obeys ?_ ?_ h
  · intro c hc
    exact ⟨AdmissionRuns.opens hc, AdmissionRuns.lockFacts hc⟩
  · rintro k rfl
    exact ⟨nofun, nofun, nofun, nofun, nofun, nofun, fun d hset => absurd rfl hset⟩
  · intro k log n e r k' hknown hagrees hrule hexec _
    exact hagrees.step hknown.1 hknown.2 hrule hexec

end LivepeerTranscode.TranscodeCore
