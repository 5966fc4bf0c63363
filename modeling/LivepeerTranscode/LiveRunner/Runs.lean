import LivepeerTranscode.LiveRunner.Ledger
import LivepeerTranscode.LiveRunner.Programs
import LivepeerTranscode.Shared.Concurrent

/-!
# Runs of the runner process

The shared state of the runner's goroutines is the session directory. `World` adds
the log of every store call and every callback POST made so far, so that a property
of a whole run is a property of one state. A restart is the loss of every running
program: the store keeps nothing in memory.
-/

namespace LivepeerTranscode.LiveRunner
open GoText Interaction
set_option autoImplicit false

/-- One store call that was made: whether it returned without an error, what the file
system did to its save, and the directory before and after. -/
structure Entry where
  call : StoreCall
  answered : Bool
  save : Save
  before : Directory
  after : Directory

/-- One callback POST, with the oldest pending event of the session when it was sent. -/
structure Post where
  id : String
  event : RunnerEventV1
  head : Option RunnerEventV1

structure World where
  dir : Directory
  log : List Entry
  posts : List Post

def pendingAt (dir : Directory) (id : String) : List RunnerEventV1 :=
  ((dir.lookup id).map SessionRecordV1.pendingEvents).getD []

def Entry.appended (entry : Entry) (id : String) : List RunnerEventV1 :=
  (pendingAt entry.after id).drop (pendingAt entry.before id).length

def appendedEvents (log : List Entry) (id : String) : List RunnerEventV1 :=
  log.flatMap fun entry => entry.appended id

@[simp] theorem appendedEvents_nil (id : String) : appendedEvents [] id = [] := rfl

@[simp] theorem appendedEvents_append (log : List Entry) (entry : Entry) (id : String) :
    appendedEvents (log ++ [entry]) id = appendedEvents log id ++ entry.appended id := by
  simp [appendedEvents]

def answeredOk {α : Type} (result : Result α) : Bool :=
  match result with
  | .ok _ => true
  | .error _ => false

section
variable (P : Platform)

def World.entry (w : World) (call : StoreCall) (faults : Faults) : Entry :=
  { call := call
    answered := answeredOk (call.run P faults w.dir).1
    save := faults.save
    before := w.dir
    after := (call.run P faults w.dir).2 }

def World.call (w : World) (call : StoreCall) (faults : Faults) : World :=
  { w with
    dir := (call.run P faults w.dir).2
    log := w.log ++ [w.entry P call faults] }

/-- The callback worker is one goroutine; everything else may run beside itself. -/
inductive Role where
  | worker | method
  deriving DecidableEq

def execute (_ : Role) (w : World) : (e : Effect) → e.Answer → World → Prop
  | .store call, answer, w' =>
    ∃ faults, answer = (call.run P faults w.dir).1 ∧ w' = w.call P call faults
  | .post id _ _ event, _, w' =>
    w' = { w with posts := w.posts ++ [⟨id, event, (pendingAt w.dir id).head?⟩] }
  | .admission .., _, w' | .terminateRuntime _, _, w' | .activateStreamKey _, _, w' | .now, _, w'
  | .receive _, _, w' | .respond .., _, w' | .validateSession _, _, w' | .random .., _, w'
  | .kickPublisher _, _, w' | .joinLadder _, _, w' => w' = w

def sideBySide (a b : Role) : Prop := ¬ (a = .worker ∧ b = .worker)

/-- The programs of the runner. A store method other than `Advance` may be called with any
arguments by any goroutine; `Advance` is called by the programs that build its event. -/
inductive RunnerSpawn : Role → RunnerProg Unit → Prop where
  | method (call : StoreCall) : (∀ id event, call ≠ .advance id event) →
      RunnerSpawn .method (discard (ask call))
  | ensure (record : SessionRecordV1) (secrets : SessionSecretsV1) :
      RunnerSpawn .method (discard (ensureSession P record secrets))
  | finalize (id : String) (now : Time) :
      RunnerSpawn .method (discard (finalizeLiveTerminationV1 P id now))
  | complete (record : SessionRecordV1) (now : Time) :
      RunnerSpawn .method (discard (completeLiveTerminationV1 P record now))
  | recover : RunnerSpawn .method (discard (recoverLiveSessionsV1 P))
  | sweep : RunnerSpawn .worker (discard (sweepOnce P))

def runnerSystem : System World Role Effect Effect.Answer where
  exec := execute P
  spawn := RunnerSpawn P
  together := sideBySide

end

/-! ## What a call appends -/

section
variable {P : Platform}

theorem appended_same {entry : Entry} {id : String}
    (h : entry.after.lookup id = entry.before.lookup id) : entry.appended id = [] := by
  simp [Entry.appended, pendingAt, h]

end

/-! ## Building runs -/

section
variable {P : Platform} {s w : World} {running : List (Role × RunnerProg Unit)}
theorem method_together (role : Role) : sideBySide .method role ∧ sideBySide role .method := by
  constructor <;> rintro ⟨h, h'⟩
  · cases h
  · cases h'

theorem reachable_method (call : StoreCall) (hcall : ∀ id event, call ≠ .advance id event)
    (faults : Faults) (h : Reachable (runnerSystem P) s ⟨w, running⟩) :
    Reachable (runnerSystem P) s ⟨w.call P call faults, (.method, .pure ()) :: running⟩ := by
  have hstart := h.tail (.start (.method call hcall) fun q _ => method_together q.1)
  exact hstart.tail (.first (call.run P faults w.dir).1 ⟨faults, rfl, rfl⟩)

theorem reachable_started (record : SessionRecordV1) (secrets : SessionSecretsV1)
    (hstate : ¬ (record.state ≠ .active ∨ record.stopping)) (hfirst : record.lastSequence = 0)
    (now : Time) (faults : Faults) (h : Reachable (runnerSystem P) s ⟨w, running⟩) :
    Reachable (runnerSystem P) s
      ⟨w.call P (.advance record.brokerSessionID (startedEvent P record now)) faults,
        (.method, .pure ()) :: running⟩ := by
  have hstart := h.tail (.start (.ensure record secrets) fun q _ => method_together q.1)
  unfold ensureSession at hstart
  rw [if_neg hstate] at hstart
  have hadmit := hstart.tail (.first .admitted rfl)
  simp only [Prog.pure_eq, hfirst, if_true] at hadmit
  have hclock := hadmit.tail (.first now rfl)
  exact hclock.tail (.first ((StoreCall.advance record.brokerSessionID
    (startedEvent P record now)).run P faults w.dir).1 ⟨faults, rfl, rfl⟩)
end
/-! ## A sample session

One created session, with the values the library functions take on it. -/

def sampleTime : Time := 1700000000000000000
def sampleStamp : String := "2023-11-14T22:13:20Z"

def sampleRequest : RunnerCreateRequestV1 :=
  { sessionID := "s1", workID := "w1", capability := "video:transcode.live", offering := "o"
    sessionParams :=
      { schema := "rtmp-hls-session/v1", publisherMode := "gateway-relay", outputProfile := "p"
        meteringRendition := "r", storage := { kind := "runner-local", s3 := none } }
    callbackURL := "http://b/c", callbackToken := "t" }

def sampleGrant : GrantV1 :=
  { id := "g", operations := ["stream-key-issue"], secret := "x", expiresAt := sampleStamp }

def sampleResponse : RunnerCreateResponseV1 :=
  { runnerSessionID := "r1"
    runtime :=
      { schema := "rtmp-hls/v1"
        runtimePublic :=
          { rtmpURL := "rtmp://r/l", hlsURL := "http://r/h", keyIssueURL := "http://r/k",
            statusURL := "" }
        grants := [sampleGrant] } }

def sampleSecrets : SessionSecretsV1 :=
  { createRequest := sampleRequest, createResponse := sampleResponse, currentKeyID := "",
    keyIssues := ∅ }

def sampleSegment : FinalizedHLSSegmentV1 :=
  { uri := goBytes "seg0.mp4", durationMicroseconds := 2500000 }

/-- The library functions on the values of the sample session. -/
def samplePlatform : Platform where
  sha256Hex bytes :=
    if bytes = goBytes "seg0.mp4" then
      "49e95751763191d03bd7d9f0539131477fcdde924eaa22d95731fd88fa66d8ba"
    else if bytes = goBytes "x" then
      "2d711642b726b04401627ca9fbac32f5c8530fb1903cc4db02258717921a4881"
    else "6a38a7a82234305c84024633fbe25e93e24bb751e9e671964eb5d676beb01732"
  formatNano t := if t = sampleTime then sampleStamp else ""
  parseNano text := if text = sampleStamp then some sampleTime else none
  parseRFC3339 text := if text = sampleStamp then some sampleTime else none
  parseURL text :=
    if text = "rtmp://r/l" then some ⟨"rtmp", "r", false, "/l", "", ""⟩
    else if text = "http://r/h" ∨ text = "http://r/k" then some ⟨"http", "r", false, "", "", ""⟩
    else if text = "http://b/c" then some ⟨"http", "b", false, "", "", ""⟩
    else none
  hmacSHA256Hex _ _ := ""
  formatRFC3339 t := if t = sampleTime then sampleStamp else ""

def noFaults : Faults := ⟨false, .done⟩

def sampleRecord : SessionRecordV1 :=
  newSessionRecord samplePlatform sampleRequest sampleResponse sampleGrant sampleTime

def sampleCreated : World :=
  (World.mk ∅ [] []).call samplePlatform (.createOrReplay sampleRequest sampleResponse sampleTime) noFaults
def sampleStarted : World :=
  sampleCreated.call samplePlatform
    (.advance "s1" (startedEvent samplePlatform sampleRecord sampleTime)) noFaults

theorem sampleStarted_reachable : ∃ running,
    Reachable (runnerSystem samplePlatform) ⟨∅, [], []⟩ ⟨sampleStarted, running⟩ := by
  have hcreated := reachable_method (P := samplePlatform) (s := ⟨∅, [], []⟩)
    (.createOrReplay sampleRequest sampleResponse sampleTime) (fun _ _ h => by cases h) noFaults .refl
  have hstate : ¬ (sampleRecord.state ≠ .active ∨ sampleRecord.stopping = true) := by decide
  exact ⟨_, reachable_started sampleRecord sampleSecrets hstate rfl sampleTime noFaults hcreated⟩

end LivepeerTranscode.LiveRunner
