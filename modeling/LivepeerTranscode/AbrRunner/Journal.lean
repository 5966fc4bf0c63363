import LivepeerTranscode.AbrRunner.Contract
import LivepeerTranscode.Shared.Binary64
import LivepeerTranscode.Shared.JsonRaw

/-!
# The workload journal

The journal a workload's file holds, how it is encoded and decoded, and its own checks,
as `abr-runner/workload_store_v2.go` has them. The `Data` of an event is the text
`json.Marshal` made; the encoder compacts it whenever the journal is written.
-/

namespace LivepeerTranscode.AbrRunner
open Checked GoText JsonText
set_option autoImplicit false

def abrProgressSchemaV2 : String := "video-transcode-abr-progress/v2"
def workloadJournalVersionV2 : Nat := 1
def maxStoredProgressEventsV2 : Nat := 256

def progressPhasesV2 : List String :=
  ["accepted", "downloading", "probing", "encoding", "packaging", "uploading"]

inductive WorkloadJournalStateV2 where
  | inProgress | succeeded | failed
  | unknown (text : String)
  deriving DecidableEq

def WorkloadJournalStateV2.text : WorkloadJournalStateV2 → String
  | .inProgress => "in_progress"
  | .succeeded => "succeeded"
  | .failed => "failed"
  | .unknown text => text

def WorkloadJournalStateV2.ofText (text : String) : WorkloadJournalStateV2 :=
  if text = "in_progress" then .inProgress
  else if text = "succeeded" then .succeeded
  else if text = "failed" then .failed
  else .unknown text

structure PreparedRenditionV2 where
  name : String
  playlistPath : String
  streamPath : String
  playlistSHA256 : String
  streamSHA256 : String
  video : Option DeliveredVideoV2
  fileSizeBytes : Nat
  deriving DecidableEq, Inhabited

structure PreparedArtifactV2 where
  path : String
  sha256 : String
  deriving DecidableEq, Inhabited

structure StoredSSEEventV2 where
  sequence : Nat
  event : String
  data : List Char
  deriving DecidableEq, Inhabited

structure WorkloadJournalV2 where
  version : Nat
  workloadID : String
  requestSHA256 : String
  state : WorkloadJournalStateV2
  phase : String
  nextSequence : Nat
  prepared : StringMap PreparedRenditionV2
  delivered : StringMap RenditionResultV2
  manifestPrepared : Option PreparedArtifactV2
  manifestDeliveredURI : String
  progressEvents : List StoredSSEEventV2
  terminalEvent : Option StoredSSEEventV2
  deriving DecidableEq

/-- The zero value, with the maps `loadLocked` puts in the place of nil ones. -/
instance : Inhabited WorkloadJournalV2 where
  default := ⟨0, "", "", .unknown "", "", 0, .empty, .empty, none, "", [], none⟩

def WorkloadJournalV2.terminal (record : WorkloadJournalV2) : Bool :=
  record.state = .succeeded ∨ record.state = .failed

/-! ## What the encoder is given -/

def goNum (n : Nat) : GoValue := .num (decimalLiteral n)

def DeliveredVideoV2.value (video : DeliveredVideoV2) : GoValue :=
  .obj [("actual_frames", goNum video.actualFrames), ("width", goNum video.width),
    ("height", goNum video.height)]

def videoMember : Option DeliveredVideoV2 → List (String × GoValue)
  | none => []
  | some video => [("video", video.value)]

def RenditionResultV2.value (result : RenditionResultV2) : GoValue :=
  .obj ([("name", .str result.name), ("playlist_uri", .str result.playlistURI),
    ("stream_uri", .str result.streamURI)] ++ videoMember result.video ++
      [("file_size_bytes", goNum result.fileSizeBytes)])

def UsageClaimV2.value (usage : UsageClaimV2) : GoValue :=
  .obj [("unit", .str usage.unit), ("units", goNum usage.units)]

def ABRErrorV2.value (error : ABRErrorV2) : GoValue :=
  .obj [("code", .str error.code), ("message", .str error.message), ("retryable", .bool error.retryable)]

def ABRTerminalResultV2.value (result : ABRTerminalResultV2) : GoValue :=
  .obj [("schema", .str result.schema), ("workload_id", .str result.workloadID),
    ("request_sha256", .str result.requestSHA256), ("outcome", .str result.outcome),
    ("manifest_uri", .str result.manifestURI), ("renditions", .arr (result.renditions.map (·.value))),
    ("usage", result.usage.value)]

def ABRTerminalErrorV2.value (result : ABRTerminalErrorV2) : GoValue :=
  .obj [("schema", .str result.schema), ("workload_id", .str result.workloadID),
    ("request_sha256", .str result.requestSHA256), ("outcome", .str result.outcome),
    ("error", result.error.value), ("usage", result.usage.value)]

structure ABRProgressV2 where
  schema : String
  workloadID : String
  requestSHA256 : String
  sequence : Nat
  phase : String
  overallProgress : Binary64.Number
  rendition : String
  frames : Nat

/-- `rendition` and `frames` are tagged `omitempty`; only a finite number can be written. -/
def ABRProgressV2.value (formatFloat : ℚ → NumberLiteral) (progress : ABRProgressV2) : Option GoValue :=
  progress.overallProgress.value.map fun overallProgress =>
    .obj ([("schema", .str progress.schema), ("workload_id", .str progress.workloadID),
      ("request_sha256", .str progress.requestSHA256), ("sequence", goNum progress.sequence),
      ("phase", .str progress.phase), ("overall_progress", .num (formatFloat overallProgress))] ++
      (if progress.rendition = "" then [] else [("rendition", .str progress.rendition)]) ++
      if progress.frames = 0 then [] else [("frames", goNum progress.frames)])

def PreparedRenditionV2.value (prepared : PreparedRenditionV2) : GoValue :=
  .obj ([("name", .str prepared.name), ("playlist_path", .str prepared.playlistPath),
    ("stream_path", .str prepared.streamPath), ("playlist_sha256", .str prepared.playlistSHA256),
    ("stream_sha256", .str prepared.streamSHA256)] ++ videoMember prepared.video ++
      [("file_size_bytes", goNum prepared.fileSizeBytes)])

def PreparedArtifactV2.value (prepared : PreparedArtifactV2) : GoValue :=
  .obj [("path", .str prepared.path), ("sha256", .str prepared.sha256)]

/-! ## The journal's text -/

/-- An event with its data as a raw message, which must be JSON. -/
def StoredSSEEventV2.document (event : StoredSSEEventV2) : Option RawDocument :=
  (rawDocument event.data).map fun data =>
    rawObj [("sequence", rawNum event.sequence), ("event", rawStr event.event), ("data", compact data)]

def eventDocuments : List StoredSSEEventV2 → Option (List RawDocument)
  | [] => some []
  | event :: rest => do
    let document ← event.document
    let rest ← eventDocuments rest
    some (document :: rest)

/-- A nil slice is written as `null`. -/
def progressDocument (events : List StoredSSEEventV2) : Option RawDocument :=
  match events with
  | [] => some .null
  | events => (eventDocuments events).map .arr

def terminalMember : Option StoredSSEEventV2 → Option (List (String × RawDocument))
  | none => some []
  | some event => event.document.map fun document => [("terminal_event", document)]

def manifestMembers (record : WorkloadJournalV2) : List (String × RawDocument) :=
  (match record.manifestPrepared with
    | none => []
    | some prepared => [("manifest_prepared", GoValue.raw prepared.value)]) ++
  if record.manifestDeliveredURI = "" then []
  else [("manifest_delivered_uri", rawStr record.manifestDeliveredURI)]

def WorkloadJournalV2.document (record : WorkloadJournalV2) : Option RawDocument := do
  let progress ← progressDocument record.progressEvents
  let terminal ← terminalMember record.terminalEvent
  some (rawObj ([("version", rawNum record.version), ("workload_id", rawStr record.workloadID),
    ("request_sha256", rawStr record.requestSHA256), ("state", rawStr record.state.text),
    ("phase", rawStr record.phase), ("next_sequence", rawNum record.nextSequence),
    ("prepared", rawMapDocument (fun prepared => GoValue.raw prepared.value) record.prepared),
    ("delivered", rawMapDocument (fun delivered => GoValue.raw delivered.value) record.delivered)] ++
    manifestMembers record ++ [("progress_events", progress)] ++ terminal))

/-- `json.NewEncoder(file).Encode(record)` -/
def encodeJournal (record : WorkloadJournalV2) : Option (List Char) :=
  record.document.map fun document => rawText document ++ ['\n']

section Decode
variable {σ τ : Type}

def textMember (name : String) (get : σ → String) (set : σ → String → σ) :
    String × (σ → RawDocument → Option σ) :=
  (name, fun value item => (rawTextField (get value) item).map (set value))

def uintMember (bits : Nat) (name : String) (get : σ → Nat) (set : σ → Nat → σ) :
    String × (σ → RawDocument → Option σ) :=
  (name, fun value item => (rawUintField (2 ^ bits) (get value) item).map (set value))

def freshMember (name : String) (decode : RawDocument → Option τ) (set : σ → τ → σ) :
    String × (σ → RawDocument → Option σ) :=
  (name, fun value item => (decode item).map (set value))

end Decode

instance : Inhabited DeliveredVideoV2 := ⟨⟨0, 0, 0⟩⟩
instance : Inhabited RenditionResultV2 := ⟨⟨"", "", "", none, 0⟩⟩

def videoFields : FieldsOf RawDocument DeliveredVideoV2 :=
  [uintMember 64 "actual_frames" (·.actualFrames) fun value n => { value with actualFrames := n },
    uintMember 32 "width" (·.width) fun value n => { value with width := n },
    uintMember 32 "height" (·.height) fun value n => { value with height := n }]

def videoPointer : RawDocument → Option (Option DeliveredVideoV2) :=
  rawPointer (rawStruct videoFields default)

def resultFields : FieldsOf RawDocument RenditionResultV2 :=
  [textMember "name" (·.name) fun value text => { value with name := text },
    textMember "playlist_uri" (·.playlistURI) fun value text => { value with playlistURI := text },
    textMember "stream_uri" (·.streamURI) fun value text => { value with streamURI := text },
    freshMember "video" videoPointer fun value video => { value with video },
    uintMember 64 "file_size_bytes" (·.fileSizeBytes) fun value n => { value with fileSizeBytes := n }]

def preparedFields : FieldsOf RawDocument PreparedRenditionV2 :=
  [textMember "name" (·.name) fun value text => { value with name := text },
    textMember "playlist_path" (·.playlistPath) fun value text => { value with playlistPath := text },
    textMember "stream_path" (·.streamPath) fun value text => { value with streamPath := text },
    textMember "playlist_sha256" (·.playlistSHA256) fun value text => { value with playlistSHA256 := text },
    textMember "stream_sha256" (·.streamSHA256) fun value text => { value with streamSHA256 := text },
    freshMember "video" videoPointer fun value video => { value with video },
    uintMember 64 "file_size_bytes" (·.fileSizeBytes) fun value n => { value with fileSizeBytes := n }]

def artifactMembers : FieldsOf RawDocument PreparedArtifactV2 :=
  [textMember "path" (·.path) fun value text => { value with path := text },
    textMember "sha256" (·.sha256) fun value text => { value with sha256 := text }]

/-- A raw message keeps the text of its value; the files hold no blanks. -/
def eventFields : FieldsOf RawDocument StoredSSEEventV2 :=
  [uintMember 64 "sequence" (·.sequence) fun value n => { value with sequence := n },
    textMember "event" (·.event) fun value text => { value with event := text },
    freshMember "data" (fun item => some (rawText item)) fun value data => { value with data }]

def journalFields : FieldsOf RawDocument WorkloadJournalV2 :=
  [uintMember 63 "version" (·.version) fun value n => { value with version := n },
    textMember "workload_id" (·.workloadID) fun value text => { value with workloadID := text },
    textMember "request_sha256" (·.requestSHA256) fun value text => { value with requestSHA256 := text },
    textMember "state" (·.state.text) fun value text => { value with state := .ofText text },
    textMember "phase" (·.phase) fun value text => { value with phase := text },
    uintMember 64 "next_sequence" (·.nextSequence) fun value n => { value with nextSequence := n },
    freshMember "prepared" (rawMap (rawStruct preparedFields default)) fun value prepared =>
      { value with prepared },
    freshMember "delivered" (rawMap (rawStruct resultFields default)) fun value delivered =>
      { value with delivered },
    freshMember "manifest_prepared" (rawPointer (rawStruct artifactMembers default))
      fun value manifestPrepared => { value with manifestPrepared },
    textMember "manifest_delivered_uri" (·.manifestDeliveredURI) fun value text =>
      { value with manifestDeliveredURI := text },
    freshMember "progress_events" (rawSlice (rawStruct eventFields default)) fun value progressEvents =>
      { value with progressEvents },
    freshMember "terminal_event" (rawPointer (rawStruct eventFields default)) fun value terminalEvent =>
      { value with terminalEvent }]

def decodeJournal (text : List Char) : Option WorkloadJournalV2 :=
  (rawDocument text).bind (rawStruct journalFields default)

def cloneJournalV2 (record : WorkloadJournalV2) : WorkloadJournalV2 :=
  ((encodeJournal record).bind decodeJournal).getD default

/-! ## Checks -/

/-- One element of a path, on the elements kept so far with the last one first. -/
def cleanElement (rooted : Bool) (kept : List (List Char)) (element : List Char) : List (List Char) :=
  if element = [] ∨ element = ['.'] then kept
  else if element = ['.', '.'] then
    match kept with
    | [] => if rooted then [] else [element]
    | last :: rest => if last = ['.', '.'] then element :: kept else rest
  else element :: kept

/-- `filepath.Clean` -/
def cleanPath (path : String) : List Char :=
  let rooted := path.toList.head? == some '/'
  let elements := (path.toList.splitOn '/').foldl (cleanElement rooted) []
  let body := ['/'].intercalate elements.reverse
  if rooted then '/' :: body else if body = [] then ['.'] else body

def safeJournalPathV2 (path : String) : Bool :=
  path != "" && path.toList == cleanPath path && path.toList.head? != some '/' &&
    cleanPath path != ['.', '.'] && !(['.', '.', '/'].isPrefixOf (cleanPath path))

def preparedMatchesResultV2 (prepared : PreparedRenditionV2) (result : RenditionResultV2) : Prop :=
  prepared.name = result.name ∧ prepared.fileSizeBytes = result.fileSizeBytes ∧
    prepared.video = result.video

instance (prepared : PreparedRenditionV2) (result : RenditionResultV2) :
    Decidable (preparedMatchesResultV2 prepared result) :=
  inferInstanceAs (Decidable (_ ∧ _ ∧ _))

def renditionResultsEqualV2 (left right : RenditionResultV2) : Prop :=
  left.playlistURI = right.playlistURI ∧ left.streamURI = right.streamURI ∧
    preparedMatchesResultV2 ⟨left.name, "", "", "", "", left.video, left.fileSizeBytes⟩ right

instance (left right : RenditionResultV2) : Decidable (renditionResultsEqualV2 left right) :=
  inferInstanceAs (Decidable (_ ∧ _ ∧ _))

def preparedEntryValid (entry : String × PreparedRenditionV2) : Bool :=
  entry.1 = entry.2.name && safeJournalPathV2 entry.2.playlistPath && safeJournalPathV2 entry.2.streamPath &&
    workIDPattern entry.2.playlistSHA256 && workIDPattern entry.2.streamSHA256

def deliveredEntryValid (prepared : StringMap PreparedRenditionV2) (entry : String × RenditionResultV2) :
    Bool :=
  match prepared.get? entry.1 with
  | none => false
  | some checkpoint => entry.1 = entry.2.name ∧ preparedMatchesResultV2 checkpoint entry.2

def terminalEventValid (nextSequence : Nat) (event : StoredSSEEventV2) : Bool :=
  event.sequence < nextSequence ∧ (event.event = "result" ∨ event.event = "error")

def manifestValid (prepared : PreparedArtifactV2) : Bool :=
  safeJournalPathV2 prepared.path && workIDPattern prepared.sha256

def validateJournalLocked (record : WorkloadJournalV2) : Check := do
  deny (record.nextSequence = 0) "next event sequence must be positive"
  deny (record.state ≠ .inProgress ∧ record.terminal = false) "unknown workload state"
  deny (record.terminal ≠ record.terminalEvent.isSome) "terminal state and event disagree"
  deny (¬ record.terminalEvent.all (terminalEventValid record.nextSequence))
    "terminal event identity is invalid"
  deny (¬ record.prepared.entries.all preparedEntryValid) "prepared checkpoint is invalid"
  deny (¬ record.delivered.entries.all (deliveredEntryValid record.prepared))
    "delivered checkpoint is invalid"
  deny (¬ record.manifestPrepared.all manifestValid) "prepared manifest checkpoint is invalid"
  if record.manifestDeliveredURI ≠ "" then
    deny (record.manifestPrepared = none) "delivered manifest has no prepared checkpoint"
    validateArtifactURI record.manifestDeliveredURI "manifest_delivered_uri"

end LivepeerTranscode.AbrRunner
