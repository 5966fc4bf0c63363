import LivepeerTranscode.TranscodeRunner.Contract

/-!
# The event loop of a VOD request

One workload of `transcode-runner/vod_v2.go`: its journal file, the goroutine that executes it and
the handlers that follow it. A handler reads the journal again whenever its `select` returns, and a
channel that is closed makes it return at once.
-/

namespace LivepeerTranscode.TranscodeRunner
open Checked
set_option autoImplicit false

/-! ## The journal -/

inductive VODState where
  | inProgress | succeeded | failed
  deriving DecidableEq

structure VODEventV2 where
  sequence : Nat
  event : String
  data : String

structure VODJournalV2 where
  version : Nat
  workloadID : String
  requestSHA256 : String
  state : VODState
  nextSequence : Nat
  events : List VODEventV2
  preparedPath : String
  preparedHash : String
  video : Option VODVideoV2
  fileSizeBytes : Nat
  delivered : Bool

structure VODFaults where
  readFails : Bool
  saveFails : Bool

def loadLocked (id : String) : Option VODJournalV2 → Except String VODJournalV2
  | none => .error "file does not exist"
  | some j => if j.workloadID ≠ id ∨ j.version ≠ 1 then .error "invalid workload journal" else .ok j

/-- `value` is what `json.Marshal` gives for the payload, at the sequence number the event gets. -/
inductive VODStoreCall where
  | progress (value : Nat → Option String)
  | prepared (path hash : String) (video : Option VODVideoV2) (size : Nat)
  | delivered
  | terminal (state : VODState) (event : String) (value : Option String)

def VODJournalV2.push (j : VODJournalV2) (event data : String) : VODJournalV2 :=
  { j with nextSequence := (j.nextSequence + 1) % 2 ^ 64, events := j.events ++ [⟨j.nextSequence, event, data⟩] }

def VODStoreCall.change (j : VODJournalV2) : VODStoreCall → Except String VODJournalV2
  | .progress value => do
    failWhen (j.state ≠ .inProgress) "terminal workload"
    match value j.nextSequence with
    | none => .error "json: unsupported value"
    | some data =>
      let j := j.push "progress" data
      .ok { j with events := j.events.drop (j.events.length - 256) }
  | .prepared path hash video size => do
    failWhen (j.state ≠ .inProgress) "terminal workload"
    .ok { j with preparedPath := path, preparedHash := hash, video := video, fileSizeBytes := size }
  | .delivered => .ok { j with delivered := true }
  | .terminal state event value => do
    failWhen (j.state ≠ .inProgress) "terminal workload"
    match value with
    | none => .error "json: unsupported value"
    | some data => .ok { j.push event data with state := state }

/-- The file after a store method; a save is a rename, so it happens or it does not. -/
def VODStoreCall.run (id : String) (faults : VODFaults) (file : Option VODJournalV2) (call : VODStoreCall) :
    Option VODJournalV2 :=
  match loadLocked id file with
  | .error _ => file
  | .ok j =>
    match call.change j with
    | .error _ => file
    | .ok new => if faults.readFails ∨ faults.saveFails then file else some new

inductive Disposition where
  | new | reuse | terminal | resume
  deriving DecidableEq

/-- The disposition of a request, unless the journal is unavailable, and the file. -/
def loadOrCreate (id hash : String) (faults : VODFaults) (file : Option VODJournalV2) :
    Option Disposition × Option VODJournalV2 :=
  if faults.readFails then (none, file)
  else match file with
    | none =>
      if faults.saveFails then (none, none)
      else (some .new, some ⟨1, id, hash, .inProgress, 1, [], "", "", none, 0, false⟩)
    | some _ =>
      match loadLocked id file with
      | .error _ => (none, file)
      | .ok j =>
        if j.requestSHA256 ≠ hash then (some .reuse, file)
        else if j.state ≠ .inProgress then (some .terminal, file)
        else (some .resume, file)

/-! ## Handlers -/

/-- Where `ServeHTTP` is: before `subscribe`, before a read of the journal, in its `select`, or back. -/
inductive Stage where
  | subscribing (disposition : Disposition)
  | reading | selecting | returned
  deriving DecidableEq

/-- `sent` are the events of the response, `woken` counts the iterations that a closed channel began. -/
structure Handler where
  hash : String
  stage : Stage
  run : Nat
  last : Nat
  sent : List VODEventV2
  woken : Nat

def Handler.follow (h : Handler) (events : List VODEventV2) : Handler :=
  events.foldl (fun h event =>
    if h.last < event.sequence then { h with last := event.sequence, sent := h.sent ++ [event] } else h) h

/-- A run of `execute`; `ended` once it has called `terminal`. -/
structure VODRun where
  number : Nat
  hash : String
  ended : Bool

/-- `current` is the entry of the workload in `runs`; channels are numbered. -/
structure VODWorld where
  id : String
  file : Option VODJournalV2
  current : Option VODRun
  channels : Nat
  closed : List Nat
  handlers : List Handler

inductive Handler.Step (w : VODWorld) (h : Handler) : Handler → Prop where
  | unread : h.stage = .reading → Handler.Step w h { h with stage := .returned }
  | unsent {j : VODJournalV2} (count : Nat) : h.stage = .reading → loadLocked w.id w.file = .ok j →
      Handler.Step w h { h.follow (j.events.take count) with stage := .returned }
  | read {j : VODJournalV2} : h.stage = .reading → loadLocked w.id w.file = .ok j →
      Handler.Step w h { h.follow j.events with
        stage := if j.state = .inProgress then .selecting else .returned }
  | wakes : h.stage = .selecting → h.run ∈ w.closed →
      Handler.Step w h { h with stage := .reading, woken := h.woken + 1 }
  | ticks : h.stage = .selecting → Handler.Step w h { h with stage := .reading }
  | leaves : h.stage = .selecting → Handler.Step w h { h with stage := .returned }

inductive VODStep (w : VODWorld) : VODWorld → Prop where
  | arrives (hash : String) (faults : VODFaults) {d : Disposition} {file : Option VODJournalV2} :
      loadOrCreate w.id hash faults w.file = (some d, file) → d ≠ .reuse →
      VODStep w { w with file := file, handlers := w.handlers ++ [⟨hash, .subscribing d, 0, 0, [], 0⟩] }
  | subscribesTerminal {i : Nat} {h : Handler} : w.handlers[i]? = some h → h.stage = .subscribing .terminal →
      VODStep w { w with
        channels := w.channels + 1, closed := w.channels :: w.closed
        handlers := w.handlers.set i { h with stage := .reading, run := w.channels } }
  | joins {i : Nat} {h : Handler} {d : Disposition} {run : VODRun} : w.handlers[i]? = some h →
      h.stage = .subscribing d → d ≠ .terminal → w.current = some run → run.hash = h.hash →
      VODStep w { w with handlers := w.handlers.set i { h with stage := .reading, run := run.number } }
  | starts {i : Nat} {h : Handler} {d : Disposition} : w.handlers[i]? = some h →
      h.stage = .subscribing d → d ≠ .terminal → w.current = none →
      VODStep w { w with
        channels := w.channels + 1, current := some ⟨w.channels, h.hash, false⟩
        handlers := w.handlers.set i { h with stage := .reading, run := w.channels } }
  | rejected {i : Nat} {h : Handler} {d : Disposition} : w.handlers[i]? = some h →
      h.stage = .subscribing d → d ≠ .terminal →
      VODStep w { w with handlers := w.handlers.set i { h with stage := .returned } }
  | works {run : VODRun} (call : VODStoreCall) (faults : VODFaults) : w.current = some run →
      run.ended = false → (∀ state event value, call ≠ .terminal state event value) →
      VODStep w { w with file := call.run w.id faults w.file }
  | ends {run : VODRun} (state : VODState) (event : String) (value : Option String) (faults : VODFaults) :
      w.current = some run → run.ended = false → state ≠ .inProgress →
      VODStep w { w with
        current := some { run with ended := true }
        file := (VODStoreCall.terminal state event value).run w.id faults w.file }
  | closes {run : VODRun} : w.current = some run → run.ended = true →
      VODStep w { w with current := none, closed := run.number :: w.closed }
  | handler {i : Nat} {h h' : Handler} : w.handlers[i]? = some h → h.Step w h' →
      VODStep w { w with handlers := w.handlers.set i h' }

abbrev VODLater : VODWorld → VODWorld → Prop := Relation.ReflTransGen VODStep

/-- A process that has just started, with whatever file an earlier one has left. -/
def VODReachable (w : VODWorld) : Prop := ∃ id file, VODLater ⟨id, file, none, 0, [], []⟩ w

def VODWorld.InProgress (w : VODWorld) : Prop :=
  ∃ j, loadLocked w.id w.file = .ok j ∧ j.state = .inProgress

def Handler.Loops (h : Handler) : Prop := h.stage = .reading ∨ h.stage = .selecting

section
variable {w w' : VODWorld} {i : Nat} {h h' : Handler}

/-! ## The file -/

theorem loadLocked_some {id : String} {j new : VODJournalV2} (h : loadLocked id (some new) = .ok j) : new = j := by
  simp only [loadLocked] at h
  split at h <;> cases h
  rfl

/-- A journal that has left `in_progress` never gets back there, whoever writes. -/
theorem run_inProgress {id : String} {faults : VODFaults} {file : Option VODJournalV2} {call : VODStoreCall}
    {j : VODJournalV2} (hj : loadLocked id (call.run id faults file) = .ok j) (hstate : j.state = .inProgress) :
    ∃ old, loadLocked id file = .ok old ∧ old.state = .inProgress := by
  unfold VODStoreCall.run at hj
  split at hj
  · exact ⟨j, hj, hstate⟩
  rename_i old hold
  split at hj
  · exact ⟨j, hj, hstate⟩
  rename_i new hnew
  split at hj
  · exact ⟨j, hj, hstate⟩
  refine ⟨old, hold, ?_⟩
  obtain rfl := loadLocked_some hj
  cases call with
  | delivered =>
    cases hnew
    exact hstate
  | _ =>
    obtain ⟨_, hopen, -⟩ := ok_bind_iff.mp hnew
    exact not_not.mp (failWhen_ok_iff.mp hopen)

theorem run_isSome {id : String} {faults : VODFaults} {file : Option VODJournalV2} {call : VODStoreCall}
    (hfile : file ≠ none) : call.run id faults file ≠ none := by
  unfold VODStoreCall.run
  split
  · exact hfile
  split
  · exact hfile
  split
  · exact hfile
  · nofun

theorem loadOrCreate_file {id hash : String} {faults : VODFaults} {file file' : Option VODJournalV2}
    {d : Disposition} (h : loadOrCreate id hash faults file = (some d, file')) :
    file' ≠ none ∧ (file ≠ none → file' = file) := by
  unfold loadOrCreate at h
  split at h
  · cases h
  split at h
  · split at h <;> cases h
    exact ⟨nofun, fun hne => absurd rfl hne⟩
  · split at h
    · cases h
    · split at h
      · cases h
        exact ⟨nofun, fun _ => rfl⟩
      · split at h <;> cases h <;> exact ⟨nofun, fun _ => rfl⟩

theorem VODStep.file (hstep : VODStep w w') (hfile : w.file ≠ none) :
    w'.file ≠ none ∧ (w'.InProgress → w.InProgress) := by
  cases hstep with
  | arrives hash faults hload _ =>
    have hsame := (loadOrCreate_file hload).2 hfile
    subst hsame
    exact ⟨hfile, id⟩
  | works call faults _ _ _ => exact ⟨run_isSome hfile, fun ⟨j, hj, hstate⟩ => run_inProgress hj hstate⟩
  | ends state event value faults _ _ _ =>
    exact ⟨run_isSome hfile, fun ⟨j, hj, hstate⟩ => run_inProgress hj hstate⟩
  | _ => exact ⟨hfile, id⟩

theorem VODReachable.file (hreach : VODReachable w) (hi : w.handlers[i]? = some h) : w.file ≠ none := by
  obtain ⟨id, file, hlater⟩ := hreach
  have hall : w.handlers ≠ [] → w.file ≠ none := by
    clear hi
    induction hlater with
    | refl => exact fun hne => absurd rfl hne
    | tail _ hstep ih =>
      cases hstep with
      | arrives hash faults hload _ => exact fun _ => (loadOrCreate_file hload).1
      | works call faults _ _ _ => exact fun hne => run_isSome (ih hne)
      | ends state event value faults _ _ _ => exact fun hne => run_isSome (ih hne)
      | closes _ _ => exact ih
      | _ => exact fun hne => ih fun hnil => hne (by simp [hnil])
  refine hall fun hnil => ?_
  rw [hnil] at hi
  cases hi

/-! ## The loop -/

theorem Handler.follow_kept (h : Handler) (events : List VODEventV2) :
    (h.follow events).run = h.run ∧ (h.follow events).woken = h.woken := by
  induction events generalizing h with
  | nil => exact ⟨rfl, rfl⟩
  | cons event rest ih =>
    rw [Handler.follow, List.foldl_cons]
    split <;> exact ih _

theorem wakes_again (hi : w.handlers[i]? = some h) (hloop : h.Loops) (hclosed : h.run ∈ w.closed)
    (hprogress : w.InProgress) : ∃ w' h', VODLater w w' ∧ w'.handlers[i]? = some h' ∧ h'.Loops ∧
      h'.run ∈ w'.closed ∧ w'.InProgress ∧ h'.woken = h.woken + 1 := by
  have hwake : ∀ {w : VODWorld} {h : Handler}, w.handlers[i]? = some h → h.stage = .selecting →
      h.run ∈ w.closed → w.InProgress → ∃ w' h', VODLater w w' ∧ w'.handlers[i]? = some h' ∧ h'.Loops ∧
        h'.run ∈ w'.closed ∧ w'.InProgress ∧ h'.woken = h.woken + 1 := by
    intro w h hi hstage hclosed hprogress
    refine ⟨_, { h with stage := .reading, woken := h.woken + 1 },
      .single (.handler hi (.wakes hstage hclosed)), ?_, .inl rfl, hclosed, hprogress, rfl⟩
    exact List.getElem?_set_self (List.getElem?_eq_some_iff.mp hi).1
  rcases hloop with hstage | hstage
  · obtain ⟨j, hj, hstate⟩ := hprogress
    obtain ⟨hrun, hwoken⟩ := h.follow_kept j.events
    have hread := VODStep.handler hi (.read hstage hj)
    rw [if_pos hstate] at hread
    let h₁ : Handler := { h.follow j.events with stage := .selecting }
    have hi₁ : (w.handlers.set i h₁)[i]? = some h₁ :=
      List.getElem?_set_self (List.getElem?_eq_some_iff.mp hi).1
    obtain ⟨w', h', hlater, hrest⟩ := hwake (w := { w with handlers := w.handlers.set i h₁ }) hi₁ rfl
      (hrun.symm ▸ hclosed) ⟨j, hj, hstate⟩
    exact ⟨w', h', .head hread hlater, hwoken ▸ hrest⟩
  · exact hwake hi hstage hclosed hprogress

theorem wakes_often (hi : w.handlers[i]? = some h) (hloop : h.Loops) (hclosed : h.run ∈ w.closed)
    (hprogress : w.InProgress) (count : Nat) : ∃ w' h', VODLater w w' ∧ w'.handlers[i]? = some h' ∧
      h'.Loops ∧ h'.run ∈ w'.closed ∧ w'.InProgress ∧ h'.woken = h.woken + count := by
  induction count with
  | zero => exact ⟨w, h, .refl, hi, hloop, hclosed, hprogress, rfl⟩
  | succ count ih =>
    obtain ⟨w₁, h₁, hlater₁, hi₁, hloop₁, hclosed₁, hprogress₁, hwoken₁⟩ := ih
    obtain ⟨w₂, h₂, hlater₂, hi₂, hloop₂, hclosed₂, hprogress₂, hwoken₂⟩ :=
      wakes_again hi₁ hloop₁ hclosed₁ hprogress₁
    exact ⟨w₂, h₂, hlater₁.trans hlater₂, hi₂, hloop₂, hclosed₂, hprogress₂, by omega⟩

/-- Woken at most once more: in its `select` a handler has one wake left, elsewhere none. -/
def Handler.Spent (h : Handler) (start : Nat) : Prop :=
  (∀ d, h.stage ≠ .subscribing d) ∧ h.woken ≤ start + 1 ∧ (h.stage = .selecting → h.woken ≤ start)

theorem Handler.Step.spent {start : Nat} (hstep : h.Step w h') (hover : ¬ w.InProgress)
    (hspent : h.Spent start) : h'.Spent start := by
  obtain ⟨-, hle, hselect⟩ := hspent
  cases hstep with
  | unread _ => exact ⟨nofun, hle, nofun⟩
  | unsent count _ _ =>
    refine ⟨nofun, ?_, nofun⟩
    simpa only [(h.follow_kept _).2] using hle
  | @read j _ hj =>
    have hdone : ¬ j.state = .inProgress := fun hstate => hover ⟨j, hj, hstate⟩
    rw [if_neg hdone]
    refine ⟨nofun, ?_, nofun⟩
    simpa only [(h.follow_kept _).2] using hle
  | wakes hstage _ => exact ⟨nofun, Nat.succ_le_succ (hselect hstage), nofun⟩
  | ticks hstage => exact ⟨nofun, hle, nofun⟩
  | leaves hstage => exact ⟨nofun, hle, nofun⟩

theorem VODStep.spent {start : Nat} (hstep : VODStep w w') (hover : ¬ w.InProgress)
    (hi : w.handlers[i]? = some h) (hspent : h.Spent start) :
    ∃ h', w'.handlers[i]? = some h' ∧ h'.Spent start := by
  -- a step of the handler itself, or of another one
  have hset : ∀ {k : Nat} {g g' : Handler}, w.handlers[k]? = some g → (k = i → g'.Spent start) →
      ∃ h', (w.handlers.set k g')[i]? = some h' ∧ h'.Spent start := by
    intro k g g' hk hmine
    by_cases hki : k = i
    · subst hki
      exact ⟨g', List.getElem?_set_self (List.getElem?_eq_some_iff.mp hk).1, hmine rfl⟩
    · exact ⟨h, by rwa [List.getElem?_set_ne hki], hspent⟩
  have hother : ∀ {k : Nat} {g : Handler} {d : Disposition} {g' : Handler}, w.handlers[k]? = some g →
      g.stage = .subscribing d → k = i → g'.Spent start := by
    intro k g d g' hk hstage hki
    subst hki
    cases hk.symm.trans hi
    exact absurd hstage (hspent.1 d)
  cases hstep with
  | arrives hash faults _ _ =>
    exact ⟨h, by rwa [List.getElem?_append_left (List.getElem?_eq_some_iff.mp hi).1], hspent⟩
  | subscribesTerminal hk hstage => exact hset hk (hother hk hstage)
  | joins hk hstage _ _ _ => exact hset hk (hother hk hstage)
  | starts hk hstage _ _ => exact hset hk (hother hk hstage)
  | rejected hk hstage _ => exact hset hk (hother hk hstage)
  | works _ _ _ _ _ => exact ⟨h, hi, hspent⟩
  | ends _ _ _ _ _ _ _ => exact ⟨h, hi, hspent⟩
  | closes _ _ => exact ⟨h, hi, hspent⟩
  | @handler k g g' hk hstep =>
    refine hset hk fun hki => ?_
    subst hki
    cases hk.symm.trans hi
    exact hstep.spent hover hspent

/-- Once the channel of its run is closed, a handler is woken boundedly often exactly when the journal
is not in progress any more. -/
theorem loop_bounded_iff (hreach : VODReachable w) (hi : w.handlers[i]? = some h) (hloop : h.Loops)
    (hclosed : h.run ∈ w.closed) :
    (∃ bound, ∀ w' h', VODLater w w' → w'.handlers[i]? = some h' → h'.woken ≤ h.woken + bound) ↔
      ¬ w.InProgress := by
  constructor
  · rintro ⟨bound, hbound⟩ hprogress
    obtain ⟨w', h', hlater, hi', -, -, -, hwoken⟩ := wakes_often hi hloop hclosed hprogress (bound + 1)
    have hle := hbound w' h' hlater hi'
    omega
  · intro hover
    refine ⟨1, fun w' h' hlater hi' => ?_⟩
    have hinv : w'.file ≠ none ∧ ¬ w'.InProgress ∧ ∃ h', w'.handlers[i]? = some h' ∧ h'.Spent h.woken := by
      clear hi'
      induction hlater with
      | refl =>
        refine ⟨hreach.file hi, hover, h, hi, ?_, Nat.le_succ _, fun _ => Nat.le_refl _⟩
        intro d hstage
        rcases hloop with hreading | hselecting
        · cases hreading.symm.trans hstage
        · cases hselecting.symm.trans hstage
      | tail _ hstep ih =>
        obtain ⟨hfile, hover, h₁, hi₁, hspent⟩ := ih
        obtain ⟨hfile', hprogress⟩ := hstep.file hfile
        exact ⟨hfile', fun h => hover (hprogress h), hstep.spent hover hi₁ hspent⟩
    obtain ⟨-, -, h₁, hi₁, -, hle, -⟩ := hinv
    cases hi₁.symm.trans hi'
    exact hle

end

/-! ## A run that fails -/

def openJournal : VODJournalV2 := ⟨1, "w", "h", .inProgress, 1, [], "", "", none, 0, false⟩

/-- A run that has failed and closed its channel, with its handler before the next read. -/
def endedWorld (file : VODJournalV2) : VODWorld :=
  ⟨"w", some file, none, 1, [0], [⟨"h", .reading, 0, 0, [], 0⟩]⟩

theorem endedWorld_reachable (saveFails : Bool) : VODReachable (endedWorld
    (if saveFails then openJournal else { openJournal.push "error" "null" with state := .failed })) := by
  refine ⟨"w", none, ?_⟩
  have harrives : VODStep ⟨"w", none, none, 0, [], []⟩
      ⟨"w", some openJournal, none, 0, [], [⟨"h", .subscribing .new, 0, 0, [], 0⟩]⟩ :=
    .arrives "h" ⟨false, false⟩ rfl nofun
  have hstarts := VODStep.starts (w := ⟨"w", some openJournal, none, 0, [],
    [⟨"h", .subscribing .new, 0, 0, [], 0⟩]⟩) (i := 0) rfl rfl nofun rfl
  have hends := VODStep.ends (w := ⟨"w", some openJournal, some ⟨0, "h", false⟩, 1, [],
    [⟨"h", .reading, 0, 0, [], 0⟩]⟩) .failed "error" (some "null") ⟨false, saveFails⟩ rfl rfl nofun
  have hpath := (((Relation.ReflTransGen.single harrives).tail hstarts).tail hends).tail
    (@VODStep.closes _ ⟨0, "h", true⟩ rfl rfl)
  cases saveFails <;> exact hpath

theorem loop_bounded_iff_saved : ∃ bound, ∀ w' h',
    VODLater (endedWorld { openJournal.push "error" "null" with state := .failed }) w' →
      w'.handlers[0]? = some h' → h'.woken ≤ bound := by
  obtain ⟨bound, hbound⟩ := (loop_bounded_iff (endedWorld_reachable false) (i := 0) rfl (.inl rfl)
    List.mem_cons_self).mpr (by rintro ⟨j, hj, hstate⟩; cases hj; cases hstate)
  exact ⟨bound, fun w' h' hlater hi => (Nat.zero_add bound) ▸ hbound w' h' hlater hi⟩

/-- The write of the terminal event failed: the closed channel wakes the handler without end. -/
theorem unsaved_terminal_spins : VODReachable (endedWorld openJournal) ∧
    ∀ count, ∃ w' h', VODLater (endedWorld openJournal) w' ∧ w'.handlers[0]? = some h' ∧
      h'.woken = count := by
  refine ⟨endedWorld_reachable true, fun count => ?_⟩
  obtain ⟨w', h', hlater, hi, -, -, -, hwoken⟩ := wakes_often (w := endedWorld openJournal) (i := 0) rfl
    (.inl rfl) List.mem_cons_self ⟨openJournal, rfl, rfl⟩ count
  exact ⟨w', h', hlater, hi, hwoken.trans (Nat.zero_add count)⟩

end LivepeerTranscode.TranscodeRunner
