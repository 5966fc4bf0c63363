import LivepeerTranscode.Shared.Checked
import LivepeerTranscode.Shared.GoText
import LivepeerTranscode.Shared.GoJson

/-!
# The ABR runner's request contract

The workload request, how the handler decodes its body, the validator and the canonical
encoding whose hash identifies the request, as `abr-runner/contract_v2.go` and the decoder
of `abr_handler_v2.go` have them. The terminal events are modelled with the hash they carry.
-/

namespace LivepeerTranscode.AbrRunner
open Checked GoText JsonText
set_option autoImplicit false

def abrRequestSchemaV2 : String := "video-transcode-abr/v2"
def abrResultSchemaV2 : String := "video-transcode-abr-result/v2"
def abrWorkUnitV2 : String := "video-frame-megapixel"
def maxABRRequestBodyV2 : Nat := 5 * 2 ^ 20

structure ABRInputV2 where
  downloadURL : String
  contentSHA256 : String
  deriving Inhabited

structure ABRLadderV2 where
  preset : String
  deriving Inhabited

structure ArtifactDestinationV2 where
  artifactURI : String
  uploadURL : String
  deriving Inhabited

structure RenditionDestinationsV2 where
  playlist : ArtifactDestinationV2
  stream : ArtifactDestinationV2
  deriving Inhabited

/-- `renditions` is `none` where the Go map is nil. -/
structure ABROutputDestinationsV2 where
  manifest : ArtifactDestinationV2
  renditions : Option (StringMap RenditionDestinationsV2)
  deriving Inhabited

structure ABRWorkloadRequestV2 where
  schema : String
  workloadID : String
  input : ABRInputV2
  ladder : ABRLadderV2
  output : ABROutputDestinationsV2
  deriving Inhabited

/-! ## Decoding -/

section Fields
variable {σ τ : Type}

def textField (name : String) (get : σ → String) (set : σ → String → σ) :
    String × (σ → GoDocument → Option σ) :=
  (name, fun value item => (decodeText (get value) item).map (set value))

def structField (name : String) (fields : Fields τ) (get : σ → τ) (set : σ → τ → σ) :
    String × (σ → GoDocument → Option σ) :=
  (name, fun value item => (decodeStruct fields (get value) item).map (set value))

end Fields

def artifactFields : Fields ArtifactDestinationV2 :=
  [textField "artifact_uri" (·.artifactURI) fun value text => { value with artifactURI := text },
    textField "upload_url" (·.uploadURL) fun value text => { value with uploadURL := text }]

def renditionFields : Fields RenditionDestinationsV2 :=
  [structField "playlist" artifactFields (·.playlist) fun value item => { value with playlist := item },
    structField "stream" artifactFields (·.stream) fun value item => { value with stream := item }]

def outputFields : Fields ABROutputDestinationsV2 :=
  [structField "manifest" artifactFields (·.manifest) fun value item => { value with manifest := item },
    ("renditions", fun value item =>
      (decodeMap (decodeStruct renditionFields default) value.renditions item).map fun m =>
        { value with renditions := m })]

def inputFields : Fields ABRInputV2 :=
  [textField "download_url" (·.downloadURL) fun value text => { value with downloadURL := text },
    textField "content_sha256" (·.contentSHA256) fun value text => { value with contentSHA256 := text }]

def ladderFields : Fields ABRLadderV2 :=
  [textField "preset" (·.preset) fun value text => { value with preset := text }]

def requestFields : Fields ABRWorkloadRequestV2 :=
  [textField "schema" (·.schema) fun value text => { value with schema := text },
    textField "workload_id" (·.workloadID) fun value text => { value with workloadID := text },
    structField "input" inputFields (·.input) fun value item => { value with input := item },
    structField "ladder" ladderFields (·.ladder) fun value item => { value with ladder := item },
    structField "output" outputFields (·.output) fun value item => { value with output := item }]

/-- The request of a body: one JSON value within the size limit, without unknown fields. -/
def decodeABRRequestV2 (body : List UInt8) : Option ABRWorkloadRequestV2 :=
  if maxABRRequestBodyV2 < body.length then none
  else (goDocument body).bind (decodeStruct requestFields default)

/-! ## Canonical encoding -/

def ArtifactDestinationV2.document (value : ArtifactDestinationV2) : GoDocument :=
  .obj [("artifact_uri", .str value.artifactURI), ("upload_url", .str value.uploadURL)]

def RenditionDestinationsV2.document (value : RenditionDestinationsV2) : GoDocument :=
  .obj [("playlist", value.playlist.document), ("stream", value.stream.document)]

def ABROutputDestinationsV2.document (value : ABROutputDestinationsV2) : GoDocument :=
  .obj [("manifest", value.manifest.document),
    ("renditions", match value.renditions with
      | none => .null
      | some m => .obj (m.entries.map fun entry => (entry.1, entry.2.document)))]

/-- `content_sha256` is tagged `omitempty`. -/
def ABRInputV2.document (value : ABRInputV2) : GoDocument :=
  .obj (("download_url", .str value.downloadURL) ::
    if value.contentSHA256 = "" then [] else [("content_sha256", .str value.contentSHA256)])

def ABRLadderV2.document (value : ABRLadderV2) : GoDocument := .obj [("preset", .str value.preset)]

def ABRWorkloadRequestV2.document (req : ABRWorkloadRequestV2) : GoDocument :=
  .obj [("schema", .str req.schema), ("workload_id", .str req.workloadID),
    ("input", req.input.document), ("ladder", req.ladder.document), ("output", req.output.document)]

/-- The canonical text; the encoder's final newline is trimmed off again. -/
def canonicalText (req : ABRWorkloadRequestV2) : List Char :=
  write (goQuote false) Empty.elim req.document

def canonicalBytes (req : ABRWorkloadRequestV2) : List UInt8 := utf8Bytes (canonicalText req)

def requestContentSHA256V2 (sha256Hex : List UInt8 → String) (req : ABRWorkloadRequestV2) : String :=
  sha256Hex (canonicalBytes req)

/-! ## Validation -/

/-- `url.Parse` and the quoting of `%q`. -/
structure Platform where
  parseURL : String → Option ParsedURL
  quote : String → String

def validateArtifactURI (raw field : String) : Check :=
  deny (blank raw ∨ 1024 < (goBytes raw).length ∨
      raw.toList.any fun c => c == '?' || c == '\r' || c == '\n')
    (field ++ " must be a non-secret stable artifact reference")

section
variable (P : Platform)

def validateCredentialURL (raw field : String) : Check :=
  deny (¬ (P.parseURL raw).any fun parsed =>
      (parsed.scheme == "https" || parsed.scheme == "http") && parsed.host != "" && !parsed.hasUser)
    (field ++ " must be an http(s) URL without userinfo")

def validateDestination (destination : ArtifactDestinationV2) (field : String) : Check := do
  validateArtifactURI destination.artifactURI (field ++ ".artifact_uri")
  validateCredentialURL P destination.uploadURL (field ++ ".upload_url")

/-- The loop over the names of the selected preset; `required` holds those already seen. -/
def validateRequired (renditions : StringMap RenditionDestinationsV2) : List String → List String → Check
  | _, [] => .ok ()
  | required, name :: rest => do
    deny (name ∈ required ∨ blank name)
      "selected preset contains an invalid or duplicate rendition name"
    match renditions.get? name with
    | none => .error ("output.renditions is missing " ++ P.quote name)
    | some outputs =>
      validateDestination P outputs.playlist ("output.renditions." ++ name ++ ".playlist")
      validateDestination P outputs.stream ("output.renditions." ++ name ++ ".stream")
      validateRequired renditions (name :: required) rest

/-- Where several names are unexpected, Go reports whichever the map yields first. -/
def validateUnexpected (renditions : StringMap RenditionDestinationsV2) (required : List String) : Check :=
  match renditions.keys.find? fun name => decide (name ∉ required) with
  | some name => .error ("output.renditions contains unexpected rendition " ++ P.quote name)
  | none => .ok ()

def validateABRRequestV2 (req : ABRWorkloadRequestV2) (requiredRenditions : List String) : Check := do
  deny (req.schema ≠ abrRequestSchemaV2) ("schema must be " ++ P.quote abrRequestSchemaV2)
  deny (¬ opaqueIDPattern req.workloadID) "workload_id must be 1-128 safe opaque characters"
  validateCredentialURL P req.input.downloadURL "input.download_url"
  deny (req.input.contentSHA256 ≠ "" ∧ ¬ workIDPattern req.input.contentSHA256)
    "input.content_sha256 must be lowercase SHA-256 hex"
  deny (blank req.ladder.preset) "ladder.preset is required"
  validateDestination P req.output.manifest "output.manifest"
  deny (requiredRenditions = []) "selected preset must contain at least one rendition"
  validateRequired P (req.output.renditions.getD .empty) [] requiredRenditions
  validateUnexpected P (req.output.renditions.getD .empty) requiredRenditions

end

/-! ## Terminal events -/

structure DeliveredVideoV2 where
  actualFrames : Nat
  width : Nat
  height : Nat
  deriving DecidableEq

structure RenditionResultV2 where
  name : String
  playlistURI : String
  streamURI : String
  video : Option DeliveredVideoV2
  fileSizeBytes : Nat
  deriving DecidableEq

structure UsageClaimV2 where
  unit : String
  units : Nat

structure ABRErrorV2 where
  code : String
  message : String
  retryable : Bool

structure ABRTerminalResultV2 where
  schema : String
  workloadID : String
  requestSHA256 : String
  outcome : String
  manifestURI : String
  renditions : List RenditionResultV2
  usage : UsageClaimV2

structure ABRTerminalErrorV2 where
  schema : String
  workloadID : String
  requestSHA256 : String
  outcome : String
  error : ABRErrorV2
  usage : UsageClaimV2

inductive TerminalEventV2 where
  | result (value : ABRTerminalResultV2)
  | error (value : ABRTerminalErrorV2)

def TerminalEventV2.requestSHA256 : TerminalEventV2 → String
  | .result value => value.requestSHA256
  | .error value => value.requestSHA256

inductive WorkloadReplayDispositionV2 where
  | resumeExisting | replayTerminal | rejectIDReuse
  deriving DecidableEq

def classifyWorkloadReplayV2 (existingSHA256 incomingSHA256 : String) (terminal : Bool) :
    WorkloadReplayDispositionV2 :=
  if existingSHA256 ≠ incomingSHA256 then .rejectIDReuse
  else if terminal then .replayTerminal
  else .resumeExisting

section
variable (P : Platform)

/-- The pixels after one more rendition, with the three overflow checks on `uint64`. -/
def addPixels (pixels : Nat) (rendition : RenditionResultV2) : Except String Nat :=
  match rendition.video with
  | none => .ok pixels
  | some video => do
    let frameWidth := video.actualFrames * video.width
    failWhen (2 ^ 64 ≤ frameWidth) ("pixel count overflow for rendition " ++ P.quote rendition.name)
    let renditionPixels := frameWidth * video.height
    failWhen (2 ^ 64 ≤ renditionPixels) ("pixel count overflow for rendition " ++ P.quote rendition.name)
    failWhen (2 ^ 64 ≤ pixels + renditionPixels) "aggregate pixel count overflow"
    .ok (pixels + renditionPixels)

def sumPixels : Nat → List RenditionResultV2 → Except String Nat
  | pixels, [] => .ok pixels
  | pixels, rendition :: rest => addPixels P pixels rendition >>= fun pixels => sumPixels pixels rest

def calculateFrameMegapixelUnitsV2 (renditions : List RenditionResultV2) : Except String Nat := do
  let pixels ← sumPixels P 0 renditions
  .ok (pixels / 1000000 + if pixels % 1000000 ≠ 0 then 1 else 0)

def usageFailed : ABRErrorV2 := ⟨"usage_failed", "usage measurement failed", false⟩

/-- The end of `Execute`, once every rendition and the manifest are delivered. -/
def executionResult (sha256Hex : List UInt8 → String) (req : ABRWorkloadRequestV2)
    (delivered : List RenditionResultV2) : Except ABRErrorV2 ABRTerminalResultV2 :=
  match calculateFrameMegapixelUnitsV2 P delivered with
  | .error _ => .error usageFailed
  | .ok units => .ok
    { schema := abrResultSchemaV2, workloadID := req.workloadID,
      requestSHA256 := requestContentSHA256V2 sha256Hex req, outcome := "succeeded",
      manifestURI := req.output.manifest.artifactURI, renditions := delivered,
      usage := ⟨abrWorkUnitV2, units⟩ }

/-- The terminal error `run` records for a failed execution; `delivered` is what the journal
holds by then. -/
def executionError (req : ABRWorkloadRequestV2) (requestSHA256 : String) (failure : ABRErrorV2)
    (delivered : List RenditionResultV2) : ABRTerminalErrorV2 :=
  match calculateFrameMegapixelUnitsV2 P delivered with
  | .error _ =>
    { schema := abrResultSchemaV2, workloadID := req.workloadID, requestSHA256, outcome := "failed",
      error := usageFailed, usage := ⟨abrWorkUnitV2, 0⟩ }
  | .ok units =>
    { schema := abrResultSchemaV2, workloadID := req.workloadID, requestSHA256, outcome := "failed",
      error := failure, usage := ⟨abrWorkUnitV2, units⟩ }

/-- The terminal events a request can be answered with: what its own execution ended with,
or what the journal holds from an earlier one. A journal takes only terminal events that
carry its own hash. -/
inductive Emits (sha256Hex : List UInt8 → String) (req : ABRWorkloadRequestV2) :
    TerminalEventV2 → Prop where
  | result {delivered : List RenditionResultV2} {value : ABRTerminalResultV2}
      (h : executionResult P sha256Hex req delivered = .ok value) : Emits sha256Hex req (.result value)
  | error (failure : ABRErrorV2) (delivered : List RenditionResultV2) :
      Emits sha256Hex req
        (.error (executionError P req (requestContentSHA256V2 sha256Hex req) failure delivered))
  | replay {existingSHA256 : String} {event : TerminalEventV2}
      (hjournal : event.requestSHA256 = existingSHA256)
      (h : classifyWorkloadReplayV2 existingSHA256 (requestContentSHA256V2 sha256Hex req) true =
        .replayTerminal) : Emits sha256Hex req event

end

theorem Emits.requestSHA256 {P : Platform} {sha256Hex : List UInt8 → String}
    {req : ABRWorkloadRequestV2} {event : TerminalEventV2} (h : Emits P sha256Hex req event) :
    event.requestSHA256 = requestContentSHA256V2 sha256Hex req := by
  cases h with
  | result h =>
    unfold executionResult at h
    split at h
    · cases h
    · cases h
      rfl
  | error failure delivered =>
    rw [TerminalEventV2.requestSHA256]
    unfold executionError
    split <;> rfl
  | replay hjournal h =>
    unfold classifyWorkloadReplayV2 at h
    split at h
    · cases h
    · rename_i hsame
      rw [hjournal]
      exact not_not.mp hsame

/-! ## What the decoder makes of a request -/

theorem decode_structField {σ τ : Type} {name : String} {fields : Fields τ} {get : σ → τ}
    {set : σ → τ → σ} {value : σ} {item : GoDocument} {result : τ}
    (h : decodeStruct fields (get value) item = some result) :
    (structField name fields get set).2 value item = some (set value result) := by
  simp only [structField, h, Option.map_some]

theorem decode_artifact (value start : ArtifactDestinationV2) :
    decodeStruct artifactFields start value.document = some value := rfl

theorem decode_rendition (value start : RenditionDestinationsV2) :
    decodeStruct renditionFields start value.document = some value := rfl

theorem decode_input (value : ABRInputV2) :
    decodeStruct inputFields default value.document = some value := by
  obtain ⟨downloadURL, contentSHA256⟩ := value
  by_cases hempty : contentSHA256 = ""
  · subst hempty
    rfl
  · simp only [ABRInputV2.document, hempty, if_false]
    rfl

theorem decode_ladder (value : ABRLadderV2) :
    decodeStruct ladderFields default value.document = some value := rfl

theorem decode_output (manifest : ArtifactDestinationV2)
    (entries : List (String × RenditionDestinationsV2)) :
    decodeStruct outputFields default (.obj [("manifest", manifest.document),
      ("renditions", .obj (entries.map fun entry => (entry.1, entry.2.document)))]) =
      some ⟨manifest, some (StringMap.empty.insertAll entries)⟩ := by
  have hentries : decodeMap (decodeStruct renditionFields default) none
      (.obj (entries.map fun entry => (entry.1, entry.2.document))) =
        some (some (StringMap.empty.insertAll entries)) := by
    rw [decodeMap, Option.getD_none, decodeEntries_map fun entry _ => decode_rendition entry.2 default]
    rfl
  simp only [decodeStruct]
  refine decodeMembers_step rfl (decode_structField (decode_artifact manifest _)) ?_
  exact decodeMembers_step rfl (congrArg (Option.map _) hentries) rfl

theorem decode_request {schema workloadID : String} {input : ABRInputV2} {ladder : ABRLadderV2}
    {output : ABROutputDestinationsV2} {item : GoDocument}
    (h : decodeStruct outputFields default item = some output) :
    decodeStruct requestFields default (.obj [("schema", .str schema), ("workload_id", .str workloadID),
      ("input", input.document), ("ladder", ladder.document), ("output", item)]) =
      some ⟨schema, workloadID, input, ladder, output⟩ := by
  simp only [decodeStruct]
  refine decodeMembers_step rfl rfl ?_
  refine decodeMembers_step rfl rfl ?_
  refine decodeMembers_step rfl (by exact decode_structField (decode_input input)) ?_
  refine decodeMembers_step rfl (by exact decode_structField (decode_ladder ladder)) ?_
  exact decodeMembers_step rfl (by exact decode_structField h) rfl

end LivepeerTranscode.AbrRunner
