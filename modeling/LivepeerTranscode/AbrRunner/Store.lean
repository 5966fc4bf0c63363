import LivepeerTranscode.AbrRunner.JournalText

/-!
# The workload store

The operations of `FileWorkloadStoreV2`. A journal is one file, replaced by renaming a
complete copy over it; a write that reports an error may or may not have taken effect.
Everything an operation decides, it decides on the journal it has just read.
-/

namespace LivepeerTranscode.AbrRunner
open Checked GoText JsonText
set_option autoImplicit false

/-- `url.Parse`, `%q` and how `encoding/json` writes a float. -/
structure StorePlatform extends Platform where
  formatFloat : ℚ → NumberLiteral

/-- The journal files by workload. -/
abbrev Disk : Type := String → Option (List Char)

def Disk.empty : Disk := fun _ => none

def Disk.write (disk : Disk) (workloadID : String) (text : List Char) : Disk :=
  fun other => if other = workloadID then some text else disk other

def Disk.read (disk : Disk) (workloadID : String) : Option WorkloadJournalV2 :=
  (disk workloadID).bind decodeJournal

inductive StoreError where
  | notExist
  | io (text : String)
  | undecodable (workloadID : String)
  | invalid (text : String)
  deriving DecidableEq

/-- How writing a file can end: an error can come before or after the rename. -/
inductive SaveFault where
  | done
  | lost (text : String)
  | unsynced (text : String)

structure Faults where
  read : Option String
  save : SaveFault

/-- What an operation answers, and the journal it has put in place. -/
structure Outcome (α : Type) where
  answer : Except StoreError α
  saved : Option WorkloadJournalV2
  deriving DecidableEq

def Disk.after (disk : Disk) : Option WorkloadJournalV2 → Disk
  | none => disk
  | some record =>
    match encodeJournal record with
    | none => disk
    | some text => disk.write record.workloadID text

section
variable (P : StorePlatform)

def loadLocked (faults : Faults) (disk : Disk) (workloadID : String) : Except StoreError WorkloadJournalV2 := do
  failWhen (¬ opaqueIDPattern workloadID) (.invalid "invalid workload ID")
  match faults.read with
  | some text => .error (.io text)
  | none =>
    match disk workloadID with
    | none => .error .notExist
    | some text =>
      match decodeJournal text with
      | none => .error (.undecodable workloadID)
      | some record => do
        failWhen (record.version ≠ workloadJournalVersionV2 ∨ record.workloadID ≠ workloadID ∨
            ¬ workIDPattern record.requestSHA256)
          (.invalid ("workload journal " ++ P.quote workloadID ++ " failed identity validation"))
        match validateJournalLocked record with
        | .error text =>
          .error (.invalid ("workload journal " ++ P.quote workloadID ++ " is invalid: " ++ text))
        | .ok () => .ok record

def saveLocked {α : Type} (faults : Faults) (record : WorkloadJournalV2) (answer : α) : Outcome α :=
  match encodeJournal record, faults.save with
  | none, _ => ⟨.error (.invalid "encode workload journal"), none⟩
  | some _, .done => ⟨.ok answer, some record⟩
  | some _, .lost text => ⟨.error (.io text), none⟩
  | some _, .unsynced text => ⟨.error (.io text), some record⟩

def mutate {α : Type} (faults : Faults) (disk : Disk) (workloadID : String)
    (change : WorkloadJournalV2 → Except StoreError (WorkloadJournalV2 × α)) : Outcome α :=
  match loadLocked P faults disk workloadID with
  | .error e => ⟨.error e, none⟩
  | .ok record =>
    match change record with
    | .error e => ⟨.error e, none⟩
    | .ok (next, answer) => saveLocked faults next answer

/-! ## Validation of events -/

def validateABRProgressV2 (progress : ABRProgressV2) : Check := do
  deny (progress.schema ≠ abrProgressSchemaV2) ("schema must be " ++ P.quote abrProgressSchemaV2)
  deny (¬ opaqueIDPattern progress.workloadID ∨ ¬ workIDPattern progress.requestSHA256)
    "progress identity is invalid"
  deny (progress.sequence = 0) "progress sequence starts at 1"
  deny (progress.phase ∉ progressPhasesV2) "progress phase is invalid"
  deny (¬ progress.overallProgress.value.any fun x => decide (0 ≤ x) && decide (x ≤ 100))
    "progress phase or percentage is invalid"

/-- The loop over the reported renditions; `seen` holds the names so far. -/
def validateRenditions : List String → List RenditionResultV2 → Check
  | _, [] => .ok ()
  | seen, rendition :: rest => do
    deny (rendition.name = "") "rendition result is missing artifact identity"
    validateArtifactURI rendition.playlistURI "rendition.playlist_uri"
    validateArtifactURI rendition.streamURI "rendition.stream_uri"
    deny (rendition.name ∈ seen) ("duplicate rendition result " ++ P.quote rendition.name)
    deny (rendition.video.any fun video =>
        decide (video.actualFrames = 0) || decide (video.width = 0) || decide (video.height = 0))
      ("video rendition " ++ P.quote rendition.name ++ " has invalid delivered dimensions or frames")
    validateRenditions (rendition.name :: seen) rest

def validateABRTerminalResultV2 (result : ABRTerminalResultV2) : Check := do
  deny (result.schema ≠ abrResultSchemaV2 ∨ result.outcome ≠ "succeeded")
    "terminal result schema or outcome is invalid"
  deny (¬ opaqueIDPattern result.workloadID ∨ ¬ workIDPattern result.requestSHA256)
    "terminal result identity is invalid"
  validateArtifactURI result.manifestURI "manifest_uri"
  deny (result.renditions = []) "terminal result requires manifest and renditions"
  validateRenditions P [] result.renditions
  let units ← calculateFrameMegapixelUnitsV2 P.toPlatform result.renditions
  deny (result.usage.unit ≠ abrWorkUnitV2 ∨ result.usage.units ≠ units)
    ("usage claim mismatch: expected " ++ abrWorkUnitV2 ++ "=" ++ toString units)

/-- `unicode.ToLower`, as far as its value is one of the letters looked for. -/
def lowerRune (c : Char) : Char := if c.toNat = 0x130 then 'i' else c.toLower

def containsText (text part : String) : Prop := part.toList <:+: text.toList.map lowerRune

instance (text part : String) : Decidable (containsText text part) :=
  inferInstanceAs (Decidable (_ <:+: _))

def validateABRTerminalErrorV2 (result : ABRTerminalErrorV2) : Check := do
  deny (result.schema ≠ abrResultSchemaV2 ∨ result.outcome ≠ "failed")
    "terminal error schema or outcome is invalid"
  deny (¬ opaqueIDPattern result.workloadID ∨ ¬ workIDPattern result.requestSHA256)
    "terminal error identity is invalid"
  deny (result.error.code = "" ∨ result.error.message = "")
    "terminal error code and redacted message are required"
  deny (512 < (goBytes result.error.message).length ∨ containsText result.error.message "http://" ∨
      containsText result.error.message "https://" ∨ containsText result.error.message "sig=")
    "terminal error message is not safely redacted"
  deny (result.usage.unit ≠ abrWorkUnitV2) "failed terminal work unit is invalid"

/-! ## Changes of a journal -/

def freshJournal (workloadID requestSHA256 : String) : WorkloadJournalV2 :=
  { version := workloadJournalVersionV2, workloadID, requestSHA256, state := .inProgress,
    phase := "accepted", nextSequence := 1, prepared := .empty, delivered := .empty,
    manifestPrepared := none, manifestDeliveredURI := "", progressEvents := [], terminalEvent := none }

/-- Only the newest events are kept. -/
def newestEvents (events : List StoredSSEEventV2) : List StoredSSEEventV2 :=
  events.drop (events.length - maxStoredProgressEventsV2)

/-- `record.NextSequence++` on a `uint64`. -/
def WorkloadJournalV2.following (record : WorkloadJournalV2) : Nat := (record.nextSequence + 1) % 2 ^ 64

def progressChange (phase : String) (progress : Binary64.Number) (rendition : String) (frames : Nat)
    (record : WorkloadJournalV2) : Except StoreError (WorkloadJournalV2 × StoredSSEEventV2) := do
  failWhen (record.state ≠ .inProgress) (.invalid "cannot append progress to terminal workload")
  let eventValue : ABRProgressV2 :=
    { schema := abrProgressSchemaV2, workloadID := record.workloadID,
      requestSHA256 := record.requestSHA256, sequence := record.nextSequence, phase,
      overallProgress := progress, rendition, frames }
  (validateABRProgressV2 P eventValue).mapError .invalid
  match eventValue.value P.formatFloat with
  | none => .error (.invalid "json: unsupported value")
  | some value =>
    let event : StoredSSEEventV2 := ⟨record.nextSequence, "progress", marshal value⟩
    .ok ({ record with nextSequence := record.following, phase,
                       progressEvents := newestEvents (record.progressEvents ++ [event]) }, event)

def preparedChange (prepared : PreparedRenditionV2) (record : WorkloadJournalV2) :
    Except StoreError (WorkloadJournalV2 × Unit) := do
  failWhen (record.state ≠ .inProgress ∨ prepared.name = "" ∨ prepared.playlistPath = "" ∨
      prepared.streamPath = "" ∨ ¬ safeJournalPathV2 prepared.playlistPath ∨
      ¬ safeJournalPathV2 prepared.streamPath ∨ ¬ workIDPattern prepared.playlistSHA256 ∨
      ¬ workIDPattern prepared.streamSHA256 ∨ prepared.video.any fun video =>
        decide (video.actualFrames = 0) || decide (video.width = 0) || decide (video.height = 0))
    (.invalid "invalid prepared rendition checkpoint")
  failWhen ((record.delivered.get? prepared.name).isSome)
    (.invalid "cannot replace a delivered rendition checkpoint")
  .ok ({ record with prepared := record.prepared.insert prepared.name prepared }, ())

def deliveredChange (result : RenditionResultV2) (record : WorkloadJournalV2) :
    Except StoreError (WorkloadJournalV2 × Unit) := do
  failWhen (record.state ≠ .inProgress) (.invalid "cannot deliver a rendition for terminal workload")
  failWhen (¬ (record.prepared.get? result.name).any fun prepared =>
      decide (preparedMatchesResultV2 prepared result))
    (.invalid "delivered rendition has no matching prepared checkpoint")
  (validateArtifactURI result.playlistURI "playlist_uri").mapError .invalid
  (validateArtifactURI result.streamURI "stream_uri").mapError .invalid
  .ok ({ record with delivered := record.delivered.insert result.name result }, ())

def preparedManifestChange (prepared : PreparedArtifactV2) (record : WorkloadJournalV2) :
    Except StoreError (WorkloadJournalV2 × Unit) := do
  failWhen (record.state ≠ .inProgress ∨ record.manifestDeliveredURI ≠ "" ∨
      ¬ safeJournalPathV2 prepared.path ∨ ¬ workIDPattern prepared.sha256)
    (.invalid "invalid prepared manifest checkpoint")
  .ok ({ record with manifestPrepared := some prepared }, ())

def deliveredManifestChange (artifactURI : String) (record : WorkloadJournalV2) :
    Except StoreError (WorkloadJournalV2 × Unit) := do
  failWhen (record.state ≠ .inProgress ∨ record.manifestPrepared.isNone)
    (.invalid "manifest has no prepared checkpoint")
  (validateArtifactURI artifactURI "manifest_uri").mapError .invalid
  .ok ({ record with manifestDeliveredURI := artifactURI }, ())

def WorkloadJournalV2.deliveredResults (record : WorkloadJournalV2) : List RenditionResultV2 :=
  record.delivered.entries.map Prod.snd

def checkResult (result : ABRTerminalResultV2) (record : WorkloadJournalV2) : Except StoreError Unit := do
  failWhen (result.workloadID ≠ record.workloadID ∨ result.requestSHA256 ≠ record.requestSHA256)
    (.invalid "terminal result identity differs from workload journal")
  failWhen (result.manifestURI ≠ record.manifestDeliveredURI)
    (.invalid "terminal result differs from delivered manifest checkpoint")
  failWhen (result.renditions.length ≠ record.delivered.entries.length)
    (.invalid "terminal result does not match delivered checkpoints")
  failWhen (¬ result.renditions.all fun rendition => (record.delivered.get? rendition.name).any
      fun checkpoint => decide (renditionResultsEqualV2 checkpoint rendition))
    (.invalid "terminal result differs from delivered checkpoint")

/-- What a failure must agree with. Go adds the renditions up in the order its map yields
them, which only decides which of several overflows is reported. -/
def checkError (result : ABRTerminalErrorV2) (record : WorkloadJournalV2) : Except StoreError Unit := do
  failWhen (result.workloadID ≠ record.workloadID ∨ result.requestSHA256 ≠ record.requestSHA256)
    (.invalid "terminal error identity differs from workload journal")
  let units ← (calculateFrameMegapixelUnitsV2 P.toPlatform record.deliveredResults).mapError .invalid
  failWhen (result.usage.units ≠ units) (.invalid ("terminal error usage differs from delivered checkpoints: got " ++
    toString result.usage.units ++ " want " ++ toString units))

def TerminalEventV2.state : TerminalEventV2 → WorkloadJournalStateV2
  | .result _ => .succeeded
  | .error _ => .failed

def TerminalEventV2.name : TerminalEventV2 → String
  | .result _ => "result"
  | .error _ => "error"

def TerminalEventV2.value : TerminalEventV2 → GoValue
  | .result success => success.value
  | .error failure => failure.value

def TerminalEventV2.check : TerminalEventV2 → WorkloadJournalV2 → Except StoreError Unit
  | .result success => checkResult success
  | .error failure => checkError P failure

def terminalChange (terminal : TerminalEventV2) (record : WorkloadJournalV2) :
    Except StoreError (WorkloadJournalV2 × StoredSSEEventV2) := do
  failWhen (record.state ≠ .inProgress) (.invalid "workload is already terminal")
  terminal.check P record
  let event : StoredSSEEventV2 := ⟨record.nextSequence, terminal.name, marshal terminal.value⟩
  .ok ({ record with nextSequence := record.following, state := terminal.state,
                     phase := terminal.state.text, terminalEvent := some event }, event)

/-! ## Operations -/

def load (faults : Faults) (disk : Disk) (workloadID : String) : Outcome WorkloadJournalV2 :=
  ⟨(loadLocked P faults disk workloadID).map cloneJournalV2, none⟩

def loadOrCreate (faults : Faults) (disk : Disk) (workloadID requestSHA256 : String) :
    Outcome (WorkloadJournalV2 × WorkloadReplayDispositionV2) :=
  if ¬ opaqueIDPattern workloadID ∨ ¬ workIDPattern requestSHA256 then
    ⟨.error (.invalid "invalid workload journal identity"), none⟩
  else
    match loadLocked P faults disk workloadID with
    | .error .notExist =>
      let record := freshJournal workloadID requestSHA256
      saveLocked faults record (cloneJournalV2 record, .resumeExisting)
    | .error e => ⟨.error e, none⟩
    | .ok record => ⟨.ok (cloneJournalV2 record,
        classifyWorkloadReplayV2 record.requestSHA256 requestSHA256 record.terminal), none⟩

def recordTerminal (faults : Faults) (disk : Disk) (workloadID : String) (terminal : TerminalEventV2) :
    Outcome StoredSSEEventV2 :=
  mutate P faults disk workloadID (terminalChange P terminal)

def recordTerminalResult (faults : Faults) (disk : Disk) (workloadID : String)
    (result : ABRTerminalResultV2) : Outcome StoredSSEEventV2 :=
  match validateABRTerminalResultV2 P result with
  | .error text => ⟨.error (.invalid text), none⟩
  | .ok () => recordTerminal P faults disk workloadID (.result result)

def recordTerminalError (faults : Faults) (disk : Disk) (workloadID : String)
    (result : ABRTerminalErrorV2) : Outcome StoredSSEEventV2 :=
  match validateABRTerminalErrorV2 result with
  | .error text => ⟨.error (.invalid text), none⟩
  | .ok () => recordTerminal P faults disk workloadID (.error result)

end

inductive Operation where
  | loadOrCreate (workloadID requestSHA256 : String)
  | load (workloadID : String)
  | appendProgress (workloadID phase : String) (progress : Binary64.Number) (rendition : String) (frames : Nat)
  | savePrepared (workloadID : String) (prepared : PreparedRenditionV2)
  | saveDelivered (workloadID : String) (result : RenditionResultV2)
  | savePreparedManifest (workloadID : String) (prepared : PreparedArtifactV2)
  | saveDeliveredManifest (workloadID artifactURI : String)
  | recordTerminalResult (workloadID : String) (result : ABRTerminalResultV2)
  | recordTerminalError (workloadID : String) (result : ABRTerminalErrorV2)

namespace Operation

@[reducible] def Answer : Operation → Type
  | loadOrCreate _ _ => WorkloadJournalV2 × WorkloadReplayDispositionV2
  | load _ => WorkloadJournalV2
  | appendProgress _ _ _ _ _ | recordTerminalResult _ _ | recordTerminalError _ _ => StoredSSEEventV2
  | savePrepared _ _ | saveDelivered _ _ | savePreparedManifest _ _ | saveDeliveredManifest _ _ => Unit

def workloadID : Operation → String
  | loadOrCreate workloadID _ | load workloadID | appendProgress workloadID _ _ _ _
  | savePrepared workloadID _ | saveDelivered workloadID _ | savePreparedManifest workloadID _
  | saveDeliveredManifest workloadID _ | recordTerminalResult workloadID _
  | recordTerminalError workloadID _ => workloadID

def isEvent : Operation → Bool
  | appendProgress _ _ _ _ _ | recordTerminalResult _ _ | recordTerminalError _ _ => true
  | _ => false

/-- The numbers given are of their Go types. -/
def Fits : Operation → Prop
  | savePrepared _ prepared => prepared.Fits
  | saveDelivered _ result => result.Fits
  | _ => True

def perform (P : StorePlatform) (faults : Faults) (disk : Disk) : (op : Operation) → Outcome op.Answer
  | loadOrCreate workloadID requestSHA256 => AbrRunner.loadOrCreate P faults disk workloadID requestSHA256
  | load workloadID => AbrRunner.load P faults disk workloadID
  | appendProgress workloadID phase progress rendition frames =>
    mutate P faults disk workloadID (progressChange P phase progress rendition frames)
  | savePrepared workloadID prepared => mutate P faults disk workloadID (preparedChange prepared)
  | saveDelivered workloadID result => mutate P faults disk workloadID (deliveredChange result)
  | savePreparedManifest workloadID prepared => mutate P faults disk workloadID (preparedManifestChange prepared)
  | saveDeliveredManifest workloadID artifactURI =>
    mutate P faults disk workloadID (deliveredManifestChange artifactURI)
  | recordTerminalResult workloadID result => AbrRunner.recordTerminalResult P faults disk workloadID result
  | recordTerminalError workloadID result => AbrRunner.recordTerminalError P faults disk workloadID result

end Operation

end LivepeerTranscode.AbrRunner
