import LivepeerTranscode.AbrRunner.Subscribers

/-!
# Replays of a workload

A journal keeps the identity it was recorded with, and once it is terminal it stays as it is,
over every life of the process. What a response says of the end of a workload is read from
its journal, so all responses say the same.
-/

namespace LivepeerTranscode.AbrRunner
open Interaction Actors Checked GoText JsonText
set_option autoImplicit false

/-! ## Journals over time -/

structure WorkloadJournalV2.Becomes (record next : WorkloadJournalV2) : Prop where
  requestSHA256 : next.requestSHA256 = record.requestSHA256
  terminal : record.terminal = true → next = record

def JournalsKept (before after : Disk) : Prop :=
  ∀ workloadID record, before.read workloadID = some record →
    ∃ next, after.read workloadID = some next ∧ record.Becomes next

theorem JournalsKept.refl (disk : Disk) : JournalsKept disk disk :=
  fun _ record hread => ⟨record, hread, rfl, fun _ => rfl⟩

theorem JournalsKept.trans {first second third : Disk} (h : JournalsKept first second)
    (h' : JournalsKept second third) : JournalsKept first third := by
  intro workloadID record hread
  obtain ⟨next, hnext, hsha, hterminal⟩ := h workloadID record hread
  obtain ⟨last, hlast, hsha', hterminal'⟩ := h' workloadID next hnext
  refine ⟨last, hlast, hsha'.trans hsha, ?_⟩
  intro hended
  have hsame := hterminal hended
  rw [← hsame] at hended
  exact (hterminal' hended).trans hsame

variable {record next : WorkloadJournalV2} {before after : List (Nat × AbrEvent)}
  {workloadID requestSHA256 : String} {req : ABRWorkloadRequestV2}
  {answer : Except StoreError (WorkloadJournalV2 × WorkloadReplayDispositionV2)}

theorem JournalMove.same_request {P : StorePlatform} {event : Bool}
    (h : JournalMove P record event next) : next.requestSHA256 = record.requestSHA256 := by
  cases h <;> rfl

section
variable {runner : Runner} {P : StorePlatform} {s s' : AbrState} {log : List (Nat × AbrEvent)} {n : Nat}
  {e : Effect} {r : e.Answer} {c c' : AbrScene} {disk : Disk}

theorem Operation.keeps {op : Operation} (hfits : op.Fits) {faults : Faults} (hsound : DiskSound P disk) :
    JournalsKept disk (disk.after (op.perform P faults disk).saved) := by
  intro workloadID record hread
  by_cases hid : workloadID = op.workloadID
  · by_cases hcreate : ∃ id sha, op = .loadOrCreate id sha
    · obtain ⟨id, sha, rfl⟩ := hcreate
      exact ⟨record, loadOrCreate_keeps hread, rfl, fun _ => rfl⟩
    · obtain ⟨appended, hsound⟩ := hsound
      cases hsaved : (op.perform P faults disk).saved with
      | none => exact ⟨record, hread, rfl, fun _ => rfl⟩
      | some next =>
        obtain ⟨current, hcurrent, -, hstate, hmove⟩ :=
          op.perform_moved hfits (fun id sha heq => hcreate ⟨id, sha, heq⟩) hsaved
        subst hid
        rw [hread] at hcurrent
        cases hcurrent
        have hputs := (@StoreRun.Sound.puts _ _ _ (op, faults) hsound hfits hsaved).1
        rw [StoreRun.step_disk, hsaved] at hputs
        refine ⟨next, hputs, hmove.same_request, ?_⟩
        intro hterminal
        exact absurd hstate ((hsound.read hread).2.2.terminal_iff.mp hterminal)
  · rw [hfits.read_other hid]
    exact ⟨record, hread, rfl, fun _ => rfl⟩

variable {h : List AbrEvent} {past : List (List (Nat × AbrEvent))} {stored : StoredSSEEventV2}

theorem JournalsKept.step (hrule : abrRule runner h e) (hsound : DiskSound P s.disk)
    (hexec : execute P s e r s') : JournalsKept s.disk s'.disk := by
  by_cases hstore : ∃ op, e = .store op
  · obtain ⟨op, rfl⟩ := hstore
    obtain ⟨faults, -, rfl⟩ := hexec
    exact Operation.keeps (abrRule_fits hrule) hsound
  · rw [execute_disk_same hexec fun op heq => hstore ⟨op, heq⟩]
    exact .refl _

theorem AbrRuns.later_kept (h : AbrRuns runner c) (hlater : Later (abrWorld runner) c c') :
    JournalsKept c.shared.disk c'.shared.disk := by
  have hsound : ∀ {c : AbrScene}, Reachable (abrWorld runner)
      (fun s => ∃ disk, DiskSound runner.toStorePlatform disk ∧ s = .boot disk) c →
      DiskSound runner.toStorePlatform c.shared.disk := fun h => AbrRuns.diskSound h
  have hkept := Later.invariant_of (K := fun s _ => DiskSound runner.toStorePlatform s.disk)
    (I := fun s _ => JournalsKept c.shared.disk s.disk) h hlater hsound (fun _ hp => abr_obeys hp)
    (.refl _) fun hsound hkept hrule hexec => hkept.trans (.step hrule hsound hexec)
  exact hkept.choose_spec.2

theorem DiskSound.of_boot (hdisk : DiskSound runner.toStorePlatform disk)
    (h : Reachable (abrWorld runner) (· = .boot disk) c) : DiskSound runner.toStorePlatform c.shared.disk := by
  refine AbrRuns.diskSound (h.mono ?_)
  rintro s rfl
  exact ⟨disk, hdisk, rfl⟩

theorem JournalsKept.of_boot (hdisk : DiskSound runner.toStorePlatform disk)
    (h : Reachable (abrWorld runner) (· = .boot disk) c) : JournalsKept disk c.shared.disk := by
  refine Reachable.invariant_of (K := fun s _ => DiskSound runner.toStorePlatform s.disk)
    (I := fun s _ => JournalsKept disk s.disk) hdisk.of_boot (fun _ hp => abr_obeys hp) ?_ ?_ h
  · rintro s rfl
    exact .refl _
  · intro s log n e r s' hsound hkept hrule hexec _
    exact hkept.trans (.step hrule hsound hexec)

/-! ## All lives of a process -/

theorem Lives.lived (h : Lives runner past c) (hlog : log ∈ past ++ [c.log]) :
    ∃ (earlier : List (List (Nat × AbrEvent))) (c' : AbrScene), Lives runner earlier c' ∧ c'.log = log ∧
      JournalsKept c'.shared.disk c.shared.disk := by
  induction h with
  | first hreach =>
    rw [List.nil_append, List.mem_singleton] at hlog
    exact ⟨_, _, .first hreach, hlog.symm, .refl _⟩
  | restarted hpast hreach ih =>
    rcases List.mem_append.mp hlog with hlog | hlog
    · obtain ⟨earlier, c', h', heq, hkept⟩ := ih hlog
      exact ⟨earlier, c', h', heq, hkept.trans (.of_boot hpast.runs.diskSound hreach)⟩
    · exact ⟨_, _, .restarted hpast hreach, (List.mem_singleton.mp hlog).symm, .refl _⟩

/-- A call of any life: the scene before it, and what its files have become since. -/
theorem Lives.called (h : Lives runner past c) (hlog : log ∈ past ++ [c.log]) {event : AbrEvent}
    (hsplit : log = before ++ (n, event) :: after) :
    ∃ (earlier : List (List (Nat × AbrEvent))) (c₀ c₁ : AbrScene), Lives runner earlier c₀ ∧ c₀.log = before ∧
      execute runner.toStorePlatform c₀.shared event.effect event.answer c₁.shared ∧
      abrRule runner (history n before) event.effect ∧ Lives runner earlier c₁ ∧
      JournalsKept c₁.shared.disk c.shared.disk := by
  obtain ⟨earlier, c', h', rfl, hkept⟩ := h.lived hlog
  obtain ⟨c₀, c₁, h₀, hlog₀, -, hexec, hstep, hlater⟩ := h'.moment_step hsplit
  have h₁ := h₀.step hstep
  exact ⟨earlier, c₀, c₁, h₀, hlog₀, hexec, h'.runs.logged hsplit, h₁, (h₁.runs.later_kept hlater).trans hkept⟩

theorem Lives.has_read (h : Lives runner past c) (hlog : log ∈ past ++ [c.log])
    (hread : HasRead (history n log) workloadID record) :
    ∃ (earlier : List (List (Nat × AbrEvent))) (c₁ : AbrScene), Lives runner earlier c₁ ∧
      c₁.shared.disk.read workloadID = some record ∧ JournalsKept c₁.shared.disk c.shared.disk := by
  rcases hread with hread | ⟨sha, disposition, hread⟩
  all_goals
    obtain ⟨before, after, hsplit⟩ := List.append_of_mem (mem_history.mp hread)
    obtain ⟨earlier, c₀, c₁, h₀, -, ⟨faults, hanswer, heq⟩, -, h₁, hkept⟩ := h.called hlog hsplit
    refine ⟨earlier, c₁, h₁, ?_, hkept⟩
    rw [heq]
  · exact load_answers h₀.runs.diskSound hanswer
  · exact (loadOrCreate_answers h₀.runs.diskSound hanswer).1

/-! ## Who recorded a journal -/

/-- A request that was let in with this hash and has asked for this journal. -/
def Recorder (runner : Runner) (log : List (Nat × AbrEvent)) (m : Nat) (first : ABRWorkloadRequestV2)
    (workloadID requestSHA256 : String) : Prop :=
  Serving runner (history m log) first requestSHA256 ∧ first.workloadID = workloadID ∧
    ∃ answer, ((m, ⟨.store (.loadOrCreate workloadID requestSHA256), answer⟩) : Nat × AbrEvent) ∈ log

theorem Serving.append (hserving : Serving runner h req requestSHA256) (more : List AbrEvent) :
    Serving runner (h ++ more) req requestSHA256 := by
  obtain ⟨request, hhead, hadmitted⟩ := hserving
  refine ⟨request, ?_, hadmitted⟩
  rw [List.head?_append, hhead]
  rfl

theorem Recorder.append {m : Nat} {first : ABRWorkloadRequestV2}
    (h : Recorder runner log m first workloadID requestSHA256) (more : List (Nat × AbrEvent)) :
    Recorder runner (log ++ more) m first workloadID requestSHA256 := by
  obtain ⟨hserving, hid, answer, hmem⟩ := h
  refine ⟨?_, hid, answer, List.mem_append_left _ hmem⟩
  rw [history_append]
  exact hserving.append _

/-- The journals of a process are those it came up with and those its requests recorded. -/
def Recorders (runner : Runner) (disk : Disk) (s : AbrState) (log : List (Nat × AbrEvent)) : Prop :=
  ∀ workloadID record, s.disk.read workloadID = some record →
    (∃ old, disk.read workloadID = some old ∧ old.requestSHA256 = record.requestSHA256) ∨
      ∃ m first, Recorder runner log m first workloadID record.requestSHA256

theorem Recorders.same (h : Recorders runner disk s log) (hdisk : s'.disk = s.disk)
    (last : Nat × AbrEvent) : Recorders runner disk s' (log ++ [last]) := by
  intro workloadID record hread
  rw [hdisk] at hread
  rcases h workloadID record hread with hold | ⟨m, first, hrecorder⟩
  · exact .inl hold
  · exact .inr ⟨m, first, hrecorder.append _⟩

theorem Recorders.store (h : Recorders runner disk s log) (hsound : DiskSound P s.disk) {op : Operation}
    {faults : Faults} (hrule : abrRule runner (history n log) (.store op)) (r : (Effect.store op).Answer) :
    Recorders runner disk { s with disk := s.disk.after (op.perform P faults s.disk).saved }
      (log ++ [(n, ⟨.store op, r⟩)]) := by
  have hfits := abrRule_fits hrule
  cases hsaved : (op.perform P faults s.disk).saved with
  | none => exact h.same rfl _
  | some next =>
    obtain ⟨appended, hsound⟩ := hsound
    have hputs := (@StoreRun.Sound.puts _ _ _ (op, faults) hsound hfits hsaved).1
    rw [StoreRun.step_disk, hsaved] at hputs
    have hother : ∀ workloadID, workloadID ≠ op.workloadID →
        (s.disk.after (some next)).read workloadID = s.disk.read workloadID := by
      intro workloadID hne
      rw [← hsaved]
      exact hfits.read_other hne
    intro workloadID record hread
    dsimp only at hread
    by_cases hid : workloadID = op.workloadID
    · subst hid
      rw [show (s.disk.after (some next)).read op.workloadID = some next from hputs] at hread
      cases hread
      by_cases hcreate : ∃ id sha, op = .loadOrCreate id sha
      · obtain ⟨id, sha, rfl⟩ := hcreate
        obtain ⟨-, -, -, rfl⟩ := loadOrCreate_saved hsaved
        obtain ⟨request, req, hhistory, hadmitted, hid⟩ := hrule
        refine .inr ⟨n, req, ?_, hid, r, List.mem_append_right _ (List.mem_singleton_self _)⟩
        rw [history_own, hhistory]
        exact ⟨request, rfl, hadmitted⟩
      · obtain ⟨current, hcurrent, -, -, hmove⟩ :=
          op.perform_moved hfits (fun id sha heq => hcreate ⟨id, sha, heq⟩) hsaved
        rw [hmove.same_request]
        rcases h _ current hcurrent with hold | ⟨m, first, hrecorder⟩
        · exact .inl hold
        · exact .inr ⟨m, first, hrecorder.append _⟩
    · rw [hother workloadID hid] at hread
      rcases h workloadID record hread with hold | ⟨m, first, hrecorder⟩
      · exact .inl hold
      · exact .inr ⟨m, first, hrecorder.append _⟩

theorem Recorders.of_boot (hdisk : DiskSound runner.toStorePlatform disk)
    (h : Reachable (abrWorld runner) (· = .boot disk) c) : Recorders runner disk c.shared c.log := by
  refine Reachable.invariant_of (K := fun s _ => DiskSound runner.toStorePlatform s.disk)
    (I := Recorders runner disk) hdisk.of_boot (fun _ hp => abr_obeys hp) ?_ ?_ h
  · rintro s rfl workloadID record hread
    exact .inl ⟨record, hread, rfl⟩
  · intro s log n e r s' hsound hrecorders hrule hexec _
    by_cases hstore : ∃ op, e = .store op
    · obtain ⟨op, rfl⟩ := hstore
      obtain ⟨faults, -, rfl⟩ := hexec
      exact hrecorders.store hsound hrule r
    · exact hrecorders.same (execute_disk_same hexec fun op heq => hstore ⟨op, heq⟩) _

theorem emptyDisk_sound (P : StorePlatform) : DiskSound P .empty := ⟨fun _ => 0, fun _ => .inl ⟨rfl, rfl⟩⟩

theorem Lives.recorder (h : Lives runner past c) (hread : c.shared.disk.read workloadID = some record) :
    ∃ log ∈ past ++ [c.log], ∃ m first, Recorder runner log m first workloadID record.requestSHA256 := by
  induction h generalizing record with
  | @first c hreach =>
    rcases Recorders.of_boot (emptyDisk_sound _) hreach workloadID record hread with ⟨old, hold, -⟩ | hrecorder
    · cases hold
    · exact ⟨c.log, List.mem_append_right _ (List.mem_singleton_self _), hrecorder⟩
  | @restarted past c c' hpast hreach ih =>
    rcases Recorders.of_boot hpast.runs.diskSound hreach workloadID record hread with
      ⟨old, hold, hsha⟩ | hrecorder
    · obtain ⟨log, hlog, hrecorder⟩ := ih hold
      rw [hsha] at hrecorder
      exact ⟨log, List.mem_append_left _ hlog, hrecorder⟩
    · exact ⟨c'.log, List.mem_append_right _ (List.mem_singleton_self _), hrecorder⟩

/-! ## Names of events -/

theorem Lives.disk_invariant {I : Disk → Prop} (hempty : I .empty)
    (hstep : ∀ {disk op faults}, Operation.Fits op → DiskSound runner.toStorePlatform disk → I disk →
      I (disk.after (op.perform runner.toStorePlatform faults disk).saved))
    (h : Lives runner past c) : I c.shared.disk := by
  have hlife : ∀ {disk : Disk} {c : AbrScene}, DiskSound runner.toStorePlatform disk → I disk →
      Reachable (abrWorld runner) (· = .boot disk) c → I c.shared.disk := by
    intro disk c hsound hdisk hreach
    refine And.right (a := DiskSound runner.toStorePlatform c.shared.disk) ?_
    refine Reachable.invariant (I := fun s _ => DiskSound runner.toStorePlatform s.disk ∧ I s.disk)
      (fun _ hp => abr_obeys hp) ?_ ?_ hreach
    · rintro s rfl
      exact ⟨hsound, hdisk⟩
    · intro s log n e r s' hboth hrule hexec
      refine ⟨hboth.1.step hrule hexec, ?_⟩
      by_cases hstore : ∃ op, e = .store op
      · obtain ⟨op, rfl⟩ := hstore
        obtain ⟨faults, -, rfl⟩ := hexec
        exact hstep (abrRule_fits hrule) hboth.1 hboth.2
      · rw [execute_disk_same hexec fun op heq => hstore ⟨op, heq⟩]
        exact hboth.2
  induction h with
  | first hreach => exact hlife (emptyDisk_sound _) hempty hreach
  | restarted hpast hreach ih => exact hlife hpast.runs.diskSound ih hreach

def StoredSSEEventV2.IsProgress (P : StorePlatform) (stored : StoredSSEEventV2) : Prop :=
  stored.event = "progress" ∧ ∃ (progress : ABRProgressV2) (value : GoValue),
    progress.schema = abrProgressSchemaV2 ∧ progress.value P.formatFloat = some value ∧
      stored.data = marshal value

def ProgressWritten (P : StorePlatform) (disk : Disk) : Prop :=
  ∀ workloadID record, disk.read workloadID = some record →
    ∀ event ∈ record.progressEvents, event.IsProgress P

theorem JournalMove.progressWritten {event : Bool} (h : JournalMove P record event next)
    (hwritten : ∀ stored ∈ record.progressEvents, stored.IsProgress P) :
    ∀ stored ∈ next.progressEvents, stored.IsProgress P := by
  cases h with
  | progress phase value hschema hvalue =>
    intro stored hstored
    dsimp only at hstored
    rcases List.mem_append.mp (mem_newestEvents hstored) with hstored | hstored
    · exact hwritten stored hstored
    · rw [List.mem_singleton.mp hstored]
      exact ⟨rfl, _, value, hschema, hvalue, rfl⟩
  | prepared | delivered | manifestPrepared | manifestDelivered | terminal => exact hwritten

theorem Operation.progressWritten {op : Operation} {faults : Faults} (hfits : op.Fits) (hsound : DiskSound P disk)
    (h : ProgressWritten P disk) : ProgressWritten P (disk.after (op.perform P faults disk).saved) := by
  cases hsaved : (op.perform P faults disk).saved with
  | none => exact h
  | some next =>
    obtain ⟨appended, hsound⟩ := hsound
    have hputs := (@StoreRun.Sound.puts _ _ _ (op, faults) hsound hfits hsaved).1
    rw [StoreRun.step_disk, hsaved] at hputs
    intro workloadID record hread
    by_cases hid : workloadID = op.workloadID
    · subst hid
      rw [show (disk.after (some next)).read op.workloadID = some next from hputs] at hread
      cases hread
      by_cases hcreate : ∃ id sha, op = .loadOrCreate id sha
      · obtain ⟨id, sha, rfl⟩ := hcreate
        obtain ⟨-, -, -, rfl⟩ := loadOrCreate_saved hsaved
        intro event hevent
        cases hevent
      · obtain ⟨current, hcurrent, -, -, hmove⟩ :=
          op.perform_moved hfits (fun id sha heq => hcreate ⟨id, sha, heq⟩) hsaved
        exact hmove.progressWritten (h _ current hcurrent)
    · rw [← hsaved, hfits.read_other hid] at hread
      exact h workloadID record hread

theorem Lives.progressWritten (h : Lives runner past c) :
    ProgressWritten runner.toStorePlatform c.shared.disk := by
  refine h.disk_invariant ?_ fun hfits hsound hwritten => Operation.progressWritten hfits hsound hwritten
  intro workloadID record hread
  cases hread

/-! ## What responses tell -/

theorem Serving.unique {more : List AbrEvent} {other : ABRWorkloadRequestV2} {sha sha' : String}
    (hserving : Serving runner (h ++ more) req sha) (hother : Serving runner h other sha') :
    req = other ∧ sha = sha' := by
  obtain ⟨request, hhead, hadmitted⟩ := hserving
  obtain ⟨request', hhead', hadmitted'⟩ := hother
  rw [List.head?_append, hhead'] at hhead
  cases hhead
  rw [hadmitted] at hadmitted'
  cases hadmitted'
  exact ⟨rfl, rfl⟩

theorem HasRead.append
    (hread : HasRead h workloadID record) (more : List AbrEvent) : HasRead (h ++ more) workloadID record := by
  rcases hread with hread | ⟨sha, disposition, hread⟩
  · exact .inl (List.mem_append_left _ hread)
  · exact .inr ⟨sha, disposition, List.mem_append_left _ hread⟩

def Told (runner : Runner) (logs : List (List (Nat × AbrEvent))) (workloadID : String) (reply : Reply) : Prop :=
  ∃ log ∈ logs, ∃ n req requestSHA256 written, Serving runner (history n log) req requestSHA256 ∧
    req.workloadID = workloadID ∧ ((n, ⟨.reply reply, written⟩) : Nat × AbrEvent) ∈ log

def StoredSSEEventV2.isTerminal (stored : StoredSSEEventV2) : Prop :=
  stored.event = "result" ∨ stored.event = "error"

theorem Lives.read_terminal (h : Lives runner past c) (hlog : log ∈ past ++ [c.log])
    (hread : HasRead (history n log) workloadID record) (hended : record.terminalEvent ≠ none) :
    c.shared.disk.read workloadID = some record := by
  obtain ⟨earlier, c₁, h₁, hread₁, hkept⟩ := h.has_read hlog hread
  obtain ⟨next, hnext, hbecomes⟩ := hkept workloadID record hread₁
  have hsound := h₁.runs.diskSound
  obtain ⟨appended, hsound⟩ := hsound
  have hrecord := (hsound.read hread₁).2.2
  have hterminal : record.terminal = true := hrecord.terminal_iff.mpr fun hstate => hended (hrecord.running hstate)
  rw [hbecomes.terminal hterminal] at hnext
  exact hnext

theorem Lives.streamed (h : Lives runner past c) (hlog : log ∈ past ++ [c.log]) {written : Bool}
    (hmem : ((n, ⟨.reply (.event stored), written⟩) : Nat × AbrEvent) ∈ log) :
    ∃ req requestSHA256, Serving runner (history n log) req requestSHA256 ∧
      (stored.IsProgress runner.toStorePlatform ∨
        ∃ record, c.shared.disk.read req.workloadID = some record ∧ record.terminalEvent = some stored) := by
  obtain ⟨before, after, hsplit⟩ := List.append_of_mem hmem
  obtain ⟨-, -, -, -, -, -, ⟨-, -, req, requestSHA256, record, hserving, hread, hevent⟩, -⟩ := h.called hlog hsplit
  have hhistory : history n log = history n before ++ history n ((n, ⟨.reply (.event stored), written⟩) :: after) := by
    rw [hsplit, history_append]
  have hread' : HasRead (history n log) req.workloadID record := by
    rw [hhistory]
    exact hread.append _
  refine ⟨req, requestSHA256, by rw [hhistory]; exact hserving.append _, ?_⟩
  rcases hevent with hevent | hevent
  · obtain ⟨earlier, c₁, h₁, hread₁, -⟩ := h.has_read hlog hread'
    exact .inl (h₁.progressWritten _ record hread₁ stored hevent)
  · exact .inr ⟨record, h.read_terminal hlog hread' (by rw [hevent]; nofun), hevent⟩

theorem StoredSSEEventV2.IsProgress.not_terminal {P : StorePlatform}
    (h : stored.IsProgress P) : ¬ stored.isTerminal := by
  rw [StoredSSEEventV2.isTerminal, h.1]
  simp

theorem Lives.told_event (h : Lives runner past c)
    (htold : Told runner (past ++ [c.log]) workloadID (.event stored)) (hterminal : stored.isTerminal) :
    ∃ record, c.shared.disk.read workloadID = some record ∧ record.terminalEvent = some stored := by
  obtain ⟨log, hlog, n, req, sha, written, hserving, rfl, hmem⟩ := htold
  obtain ⟨other, sha', hother, hprogress | hended⟩ := h.streamed hlog hmem
  · exact absurd hterminal hprogress.not_terminal
  · rw [← List.append_nil (history n log)] at hserving
    obtain ⟨rfl, rfl⟩ := hserving.unique hother
    exact hended

theorem Lives.told_trailer (h : Lives runner past c)
    {units : Nat} (htold : Told runner (past ++ [c.log]) workloadID (.trailer units)) :
    ∃ record, c.shared.disk.read workloadID = some record ∧ terminalWorkUnitsV2 record = some units := by
  obtain ⟨log, hlog, n, req, sha, written, hserving, rfl, hmem⟩ := htold
  obtain ⟨before, after, hsplit⟩ := List.append_of_mem hmem
  obtain ⟨-, -, -, -, -, -, ⟨-, -, other, sha', record, hother, hread, hunits⟩, -⟩ := h.called hlog hsplit
  have hhistory : history n log = history n before ++ history n ((n, ⟨.reply (.trailer units), written⟩) :: after) := by
    rw [hsplit, history_append]
  rw [hhistory] at hserving
  obtain ⟨rfl, rfl⟩ := hserving.unique hother
  have hread' : HasRead (history n log) req.workloadID record := by
    rw [hhistory]
    exact hread.append _
  refine ⟨record, h.read_terminal hlog hread' ?_, hunits⟩
  intro hnone
  rw [terminalWorkUnitsV2, hnone] at hunits
  cases hunits

/-! ## Requests that are refused -/

theorem AbrRuns.asks_once (h : AbrRuns runner c) (n : Nat)
    (hmem : (⟨.store (.loadOrCreate workloadID requestSHA256), answer⟩ : AbrEvent) ∈ history n c.log) :
    ∃ request rest, history n c.log =
      ⟨.arrive request, ()⟩ :: ⟨.store (.loadOrCreate workloadID requestSHA256), answer⟩ :: rest := by
  refine Reachable.each_history (F := fun h => ∀ workloadID requestSHA256 answer,
      (⟨.store (.loadOrCreate workloadID requestSHA256), answer⟩ : AbrEvent) ∈ h → ∃ request rest, h =
        ⟨.arrive request, ()⟩ :: ⟨.store (.loadOrCreate workloadID requestSHA256), answer⟩ :: rest)
    (fun _ hp => abr_obeys hp) ?_ ?_ h n _ _ _ hmem
  · intro workloadID requestSHA256 answer hmem
    cases hmem
  · intro h e r hbefore hrule workloadID requestSHA256 answer hmem
    rcases List.mem_append.mp hmem with hmem | hmem
    · obtain ⟨request, rest, rfl⟩ := hbefore _ _ _ hmem
      exact ⟨request, rest ++ [⟨e, r⟩], rfl⟩
    · cases List.mem_singleton.mp hmem
      obtain ⟨request, req, rfl, -⟩ := hrule
      exact ⟨request, [], rfl⟩

/-- What a refused request gets to see, and that it starts nothing. -/
structure Refused (log : List (Nat × AbrEvent)) (n : Nat)
    (answer : Except StoreError (WorkloadJournalV2 × WorkloadReplayDispositionV2)) : Prop where
  replies : ∀ reply written, ((n, ⟨.reply reply, written⟩) : Nat × AbrEvent) ∈ log →
    reply = .refused 409 "workload_id_reuse" ∨
      (reply = .refused 500 "journal_unavailable" ∧ ∃ err, answer = .error err)
  starts : ∀ spawn serial, (n, started spawn serial) ∉ log
  joins : ∀ workloadID subscriber, ((n, ⟨.attach workloadID, subscriber⟩) : Nat × AbrEvent) ∉ log

theorem Accepted.append (haccepted : Accepted h) (more : List AbrEvent) : Accepted (h ++ more) := by
  obtain ⟨workloadID, sha, record, disposition, hne, hmem⟩ := haccepted
  exact ⟨workloadID, sha, record, disposition, hne, List.mem_append_left _ hmem⟩

theorem AbrRuns.refused (h : AbrRuns runner c)
    (hsplit : c.log = before ++ (n, ⟨.store (.loadOrCreate workloadID requestSHA256), answer⟩) :: after)
    (hrejected : ∀ record disposition, answer = .ok (record, disposition) → disposition = .rejectIDReuse) :
    Refused c.log n answer := by
  have hmem : (⟨.store (.loadOrCreate workloadID requestSHA256), answer⟩ : AbrEvent) ∈ history n c.log := by
    refine mem_history.mpr ?_
    rw [hsplit]
    exact List.mem_append_right _ List.mem_cons_self
  obtain ⟨request, rest, hhistory⟩ := h.asks_once n hmem
  have hnot : ¬ Accepted (history n c.log) := by
    rintro ⟨id, sha, record, disposition, hne, hother⟩
    obtain ⟨request', rest', hhistory'⟩ := h.asks_once n hother
    rw [hhistory] at hhistory'
    cases hhistory'
    exact hne (hrejected record disposition rfl)
  -- what the program had done when it made any of its calls is the front of its history
  have hfront : ∀ {front back : List (Nat × AbrEvent)} {event : AbrEvent}, c.log = front ++ (n, event) :: back →
      abrRule runner (history n front) event.effect ∧ history n front <+: history n c.log := by
    intro front back event hcall
    refine ⟨h.logged hcall, ?_⟩
    rw [hcall, history_append]
    exact List.prefix_append _ _
  have hnever : ∀ {front : List (Nat × AbrEvent)}, history n front <+: history n c.log →
      ¬ Accepted (history n front) := by
    rintro front ⟨more, hmore⟩ haccepted
    apply hnot
    rw [← hmore]
    exact haccepted.append more
  constructor
  · intro reply written hreply
    obtain ⟨front, back, hcall⟩ := List.append_of_mem hreply
    obtain ⟨⟨-, hrule⟩, hprefix⟩ := hfront hcall
    cases reply with
    | opened => exact absurd hrule.1 (hnever hprefix)
    | event stored => exact absurd hrule.1 (hnever hprefix)
    | keepalive => exact absurd hrule (hnever hprefix)
    | trailer units => exact absurd hrule.1 (hnever hprefix)
    | refused status error =>
      have hrefusal : Refusal runner (history n front) status error := hrule
      rw [hhistory] at hprefix
      cases hrefusal with
      | @early request' _ _ heq hearly =>
        obtain ⟨hrule', -⟩ := hfront hsplit
        obtain ⟨request'', req, hstart, hadmitted, -⟩ := hrule'
        have hhead : history n c.log = [⟨.arrive request'', ()⟩] ++ history n
            ((n, ⟨.store (.loadOrCreate workloadID requestSHA256), answer⟩) :: after) := by
          rw [hsplit, history_append, hstart]
        rw [hhistory] at hhead
        cases (List.cons.inj hhead).1
        rw [heq] at hprefix
        cases (List.cons_prefix_cons.mp hprefix).1
        rw [hearly] at hadmitted
        cases hadmitted
      | @unavailable first id sha err heq =>
        rw [heq] at hprefix
        have hsecond := (List.cons_prefix_cons.mp (List.cons_prefix_cons.mp hprefix).2).1
        cases hsecond
        exact .inr ⟨rfl, err, rfl⟩
      | reuse => exact .inl rfl
      | later haccepted =>
        rw [← hhistory] at hprefix
        exact absurd haccepted (hnever hprefix)
  · intro spawn serial hstart
    obtain ⟨front, back, hcall⟩ := List.append_of_mem hstart
    obtain ⟨⟨_, _, _, _, _, _, _, haccepted⟩, hprefix⟩ := hfront hcall
    exact hnever hprefix haccepted
  · intro id subscriber hattach
    obtain ⟨front, back, hcall⟩ := List.append_of_mem hattach
    obtain ⟨⟨haccepted, -⟩, hprefix⟩ := hfront hcall
    exact hnever hprefix haccepted

theorem admitRequest_sha256 {request : HttpRequest}
    (h : admitRequest runner request = .ok (req, requestSHA256)) :
    requestSHA256 = runner.sha256Hex (canonicalBytes req) := by
  unfold admitRequest at h
  split at h
  · cases h
  · split at h
    · cases h
    · split at h
      · cases h
      · split at h
        · cases h
        · split at h
          · cases h
          · cases h
            rfl

end

/-- The canonical contents of the requests that were let in. -/
def receivedBytes (runner : Runner) (logs : List (List (Nat × AbrEvent))) : Set (List UInt8) :=
  {bytes | ∃ log ∈ logs, ∃ n req requestSHA256, Serving runner (history n log) req requestSHA256 ∧
    bytes = canonicalBytes req}

section
variable {runner : Runner} {past : List (List (Nat × AbrEvent))} {c : AbrScene}

theorem Lives.refuses_reuse (h : Lives runner past c)
    (hinjective : Set.InjOn runner.sha256Hex (receivedBytes runner (past ++ [c.log]))) {n : Nat}
    (hsplit : c.log = before ++ (n, ⟨.store (.loadOrCreate workloadID requestSHA256), answer⟩) :: after) :
    ∃ c₀ : AbrScene, Lives runner past c₀ ∧ c₀.log = before ∧
      ∀ record, c₀.shared.disk.read workloadID = some record → ∃ log ∈ past ++ [before], ∃ m first,
        Recorder runner log m first workloadID record.requestSHA256 ∧
        ∀ req, Serving runner (history n c.log) req requestSHA256 → canonicalBytes req ≠ canonicalBytes first →
          Refused c.log n answer := by
  obtain ⟨c₀, c₁, h₀, rfl, -, ⟨faults, hanswer, -⟩, -⟩ := h.moment_step hsplit
  refine ⟨c₀, h₀, rfl, ?_⟩
  intro record hread
  obtain ⟨log, hlog, m, first, hrecorder⟩ := h₀.recorder hread
  refine ⟨log, hlog, m, first, hrecorder, ?_⟩
  intro req hserving hdiffers
  have hfirst : canonicalBytes first ∈ receivedBytes runner (past ++ [c.log]) := by
    rcases List.mem_append.mp hlog with hlog | hlog
    · exact ⟨log, List.mem_append_left _ hlog, m, first, _, hrecorder.1, rfl⟩
    · rw [List.mem_singleton.mp hlog] at hrecorder
      refine ⟨c.log, List.mem_append_right _ (List.mem_singleton_self _), m, first, record.requestSHA256, ?_, rfl⟩
      rw [hsplit, history_append]
      exact hrecorder.1.append _
  have hreq : canonicalBytes req ∈ receivedBytes runner (past ++ [c.log]) :=
    ⟨c.log, List.mem_append_right _ (List.mem_singleton_self _), n, req, _, hserving, rfl⟩
  have hne : record.requestSHA256 ≠ requestSHA256 := by
    obtain ⟨_, -, hadmitted⟩ := hserving
    obtain ⟨⟨_, -, hadmittedFirst⟩, -⟩ := hrecorder
    rw [admitRequest_sha256 hadmitted, admitRequest_sha256 hadmittedFirst]
    intro heq
    exact hdiffers (hinjective hreq hfirst heq.symm)
  refine h.runs.refused hsplit ?_
  intro current disposition hok
  obtain ⟨hafter, hdisposition⟩ := loadOrCreate_answers h₀.runs.diskSound (hanswer.trans hok)
  rw [loadOrCreate_keeps hread] at hafter
  cases hafter
  rw [hdisposition, classifyWorkloadReplayV2, if_pos hne]

/-- A journal that was read in any life stays on disk, under its hash and unchanged once it is terminal; none
is there that no admitted request asked for. -/
theorem journals_kept (h : Lives runner past c) :
    (∀ log ∈ past ++ [c.log], ∀ n workloadID record, HasRead (history n log) workloadID record →
      ∃ next, c.shared.disk.read workloadID = some next ∧ record.Becomes next) ∧
    ∀ workloadID record, c.shared.disk.read workloadID = some record →
      ∃ log ∈ past ++ [c.log], ∃ m first, Recorder runner log m first workloadID record.requestSHA256 := by
  constructor
  · intro log hlog n workloadID record hread
    obtain ⟨-, c₁, -, hfound, hkept⟩ := h.has_read hlog hread
    exact hkept workloadID record hfound
  · intro workloadID record hread
    exact h.recorder hread

end

/-! ## A workload that fails and is asked for again -/

def WorkloadJournalV2.failedWith (record : WorkloadJournalV2) (stored : StoredSSEEventV2) : WorkloadJournalV2 :=
  { record with
    nextSequence := record.following
    state := .failed
    phase := WorkloadJournalStateV2.failed.text
    terminalEvent := some stored }

def endedJournal : WorkloadJournalV2 := sampleJournal.failedWith sampleEnd

def endedDisk : Disk := sampleDisk.after (some endedJournal)

theorem sample_ended :
    let P := sampleAbrRunner.toStorePlatform
    (Operation.recordTerminalError "workload" sampleFailure).perform P noFaults sampleDisk =
        ⟨.ok sampleEnd, some endedJournal⟩ ∧
      (Operation.loadOrCreate "workload" sampleSHA256).perform P noFaults endedDisk =
        ⟨.ok (endedJournal, .replayTerminal), none⟩ ∧ endedDisk.read "workload" = some endedJournal := by
  decide +kernel

/-- The program of the execution up to the record of its failure. -/
def failCalls : List AbrEvent :=
  [⟨.begin sampleWorkload sampleSHA256, 0⟩, ⟨.contextErr 0, false⟩, loaded "workload" sampleJournal,
    ⟨.store (.recordTerminalError "workload" sampleFailure), .ok sampleEnd⟩]

def failedProgram : AbrProg Unit := do
  perform (.notify "workload")
  let _ ← perform (.finish "workload")

def failing : ReporterProg ExecutorOutcome := .pure (.error none)

theorem failCalls_reach :
    Reaches (running sampleAbrRunner sampleWorkload sampleSHA256 failing) failCalls failedProgram := by
  have hfailure : failureEvent sampleWorkload sampleSHA256 none
      (deliveredWorkUnits sampleAbrRunner (.ok sampleJournal)) = sampleFailure := rfl
  refine reaches_call (.begin sampleWorkload sampleSHA256) 0 ?_
  refine reaches_call (.contextErr 0) false ?_
  refine reaches_call (.store (.load "workload")) (.ok sampleJournal) ?_
  refine reaches_call (.store (.recordTerminalError "workload" sampleFailure)) (.ok sampleEnd) ?_
  exact .refl _

def begunState (disk : Disk) : AbrState := { subscribedState with disk, spawned := [] }

theorem failCalls_act : Acts (abrWorld sampleAbrRunner) subscribedState failCalls (begunState endedDisk) := by
  refine .cons ⟨sampleSpawn, List.mem_singleton_self _, rfl, rfl, rfl⟩ ?_
  refine .cons ⟨rfl, rfl⟩ ?_
  refine .cons (execute_store sample_load) ?_
  refine .cons (execute_store sample_ended.1) ?_
  exact .nil _

/-- A request for a workload that has ended, up to the event that tells it. -/
def replayCalls (journal : WorkloadJournalV2) (stored : StoredSSEEventV2) : List AbrEvent :=
  [⟨.arrive sampleArrival, ()⟩,
    ⟨.store (.loadOrCreate "workload" sampleSHA256), .ok (journal, .replayTerminal)⟩,
    ⟨.reply .opened, true⟩, ⟨.reply (.event stored), true⟩]

theorem stream_reaches {event : StoredSSEEventV2} (workloadID : String) (turns : Nat)
    (hprogress : record.progressEvents = []) (hterminal : record.terminalEvent = some event)
    (hsequence : ¬ event.sequence ≤ 0) :
    Reaches (stream workloadID turns record none) [⟨.reply .opened, true⟩, ⟨.reply (.event event), true⟩]
      (writeWorkUnitsTrailerV2 record) := by
  unfold stream writeJournalEventsV2
  rw [hprogress, hterminal]
  refine reaches_call (.reply .opened) true ?_
  simp only [writeEvents, if_neg hsequence]
  exact reaches_call (.reply (.event event)) true (.refl _)

section
variable {journal : WorkloadJournalV2} {stored : StoredSSEEventV2}

theorem replayCalls_reach (hprogress : journal.progressEvents = []) (hterminal : journal.terminalEvent = some stored)
    (hsequence : ¬ stored.sequence ≤ 0) :
    Reaches (serveHTTP sampleAbrRunner 1 sampleArrival) (replayCalls journal stored)
      (writeWorkUnitsTrailerV2 journal) := by
  refine serveHTTP_admitted sampleArrival_admitted ?_
  refine reaches_call (.store (.loadOrCreate "workload" sampleSHA256)) (.ok (journal, .replayTerminal)) ?_
  exact stream_reaches "workload" 1 hprogress hterminal hsequence

theorem replayCalls_act {s : AbrState} (hreplayed : (Operation.loadOrCreate "workload" sampleSHA256).perform
    sampleAbrRunner.toStorePlatform noFaults s.disk = ⟨.ok (journal, .replayTerminal), none⟩) :
    Acts (abrWorld sampleAbrRunner) s (replayCalls journal stored) s := by
  refine .cons rfl ?_
  refine .cons (execute_read hreplayed) ?_
  refine .cons rfl ?_
  refine .cons rfl ?_
  exact .nil _

/-- An execution, and a request for its workload after it has ended. -/
def replayLog (calls : List AbrEvent) (journal : WorkloadJournalV2) (stored : StoredSSEEventV2) :
    List (Nat × AbrEvent) :=
  subscribeCalls.map (fun event => (0, event)) ++ calls.map (fun event => (1, event)) ++
    (replayCalls journal stored).map (fun event => (2, event))

theorem replayLog_fresh (calls : List AbrEvent) :
    ∀ entry ∈ subscribeCalls.map (fun event => (0, event)) ++ calls.map (fun event => (1, event)), entry.1 ≠ 2 := by
  intro entry hentry
  rcases List.mem_append.mp hentry with hentry | hentry
  · obtain ⟨event, -, rfl⟩ := List.mem_map.mp hentry
    exact nofun
  · obtain ⟨event, -, rfl⟩ := List.mem_map.mp hentry
    exact nofun

theorem history_replayLog (calls : List AbrEvent) : history 2 (replayLog calls journal stored) =
    replayCalls journal stored := by
  rw [replayLog, history_append, history_fresh (replayLog_fresh calls), history_map, List.nil_append]

theorem replayLog_written (calls : List AbrEvent) :
    ((2, ⟨.reply (.event stored), true⟩) : Nat × AbrEvent) ∈ replayLog calls journal stored := by
  refine mem_history.mp ?_
  rw [history_replayLog]
  simp [replayCalls]

theorem replayLog_serves {calls : List AbrEvent}
    (h : Serving sampleAbrRunner (history 2 (replayLog calls journal stored)) req requestSHA256) :
    req = sampleWorkload := by
  rw [history_replayLog] at h
  obtain ⟨request, hhead, hadmitted⟩ := h
  cases hhead
  rw [sampleArrival_admitted] at hadmitted
  cases hadmitted
  rfl

theorem replayLog_lives {calls : List AbrEvent} {execute : ReporterProg ExecutorOutcome} {q : AbrProg Unit}
    {disk : Disk} (hreach : Reaches (running sampleAbrRunner sampleWorkload sampleSHA256 execute) calls q)
    (hact : Acts (abrWorld sampleAbrRunner) subscribedState calls (begunState disk))
    (hreplayed : (Operation.loadOrCreate "workload" sampleSHA256).perform sampleAbrRunner.toStorePlatform
      noFaults disk = ⟨.ok (journal, .replayTerminal), none⟩) (hprogress : journal.progressEvents = [])
    (hterminal : journal.terminalEvent = some stored) (hsequence : ¬ stored.sequence ≤ 0) :
    ∃ c, Lives sampleAbrRunner [] c ∧ c.shared.disk = disk ∧ c.log = replayLog calls journal stored := by
  have hfirst : ∀ entry ∈ subscribeCalls.map (fun event => (0, event)), entry.1 ≠ 1 := by
    intro entry hentry
    obtain ⟨event, -, rfl⟩ := List.mem_map.mp hentry
    exact Nat.zero_ne_one
  have hran := subscribedScene_reachable.enters (.running sampleWorkload sampleSHA256 execute) hfirst
    (by simp [subscribedScene]) hreach hact
  have hreplayed := hran.enters (.serveHTTP 1 sampleArrival) (replayLog_fresh calls) (by simp [subscribedScene])
    (replayCalls_reach hprogress hterminal hsequence) (replayCalls_act hreplayed)
  exact ⟨_, .first hreplayed, rfl, rfl⟩

end

theorem endedLog_lives : ∃ c, Lives sampleAbrRunner [] c ∧ c.shared.disk = endedDisk ∧
    c.log = replayLog failCalls endedJournal sampleEnd :=
  replayLog_lives failCalls_reach failCalls_act sample_ended.2.1 rfl rfl (by decide)

theorem endedLog_received {n : Nat}
    (h : Serving sampleAbrRunner (history n (replayLog failCalls endedJournal sampleEnd)) req requestSHA256) :
    req = sampleWorkload := by
  obtain ⟨request, hhead, hadmitted⟩ := h
  have hmem : ((n, ⟨.arrive request, ()⟩) : Nat × AbrEvent) ∈ replayLog failCalls endedJournal sampleEnd :=
    mem_history.mp (List.mem_of_head? hhead)
  have hcases : n = 0 ∧ request = sampleArrival ∨ n = 2 ∧ request = sampleArrival := by
    simpa [replayLog, subscribeCalls, startCalls, failCalls, replayCalls, loaded, lookedUp, acquired, started]
      using hmem
  have hrequest : request = sampleArrival := hcases.elim And.right And.right
  rw [hrequest, sampleArrival_admitted] at hadmitted
  cases hadmitted
  rfl

theorem journals_kept_failure : ∃ c, Lives sampleAbrRunner [] c ∧ ∃ log ∈ [] ++ [c.log], ∃ m first,
    Recorder sampleAbrRunner log m first "workload" endedJournal.requestSHA256 := by
  obtain ⟨c, hlives, hdisk, -⟩ := endedLog_lives
  exact ⟨c, hlives, (journals_kept hlives).2 "workload" endedJournal (hdisk ▸ sample_ended.2.2)⟩

end LivepeerTranscode.AbrRunner
