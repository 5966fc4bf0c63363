import LivepeerTranscode.AbrRunner.Store

/-!
# What the store does to a journal

Every journal the store puts in place is a fresh one, where there was none, or follows from
the one it has read by one of six moves. What a journal must satisfy is kept by each move.
-/

namespace LivepeerTranscode.AbrRunner
open Checked GoText JsonText
set_option autoImplicit false

variable {u : Unit} {disk : Disk} {record : WorkloadJournalV2} {event : StoredSSEEventV2}

/-! ## Units -/

/-- The pixels of a rendition; one without video has none. -/
def RenditionResultV2.pixels (rendition : RenditionResultV2) : Nat :=
  match rendition.video with
  | none => 0
  | some video => video.actualFrames * video.width * video.height

def RenditionResultV2.Counted (rendition : RenditionResultV2) : Prop :=
  ∀ video ∈ rendition.video, video.actualFrames * video.width < 2 ^ 64 ∧
    video.actualFrames * video.width * video.height < 2 ^ 64

theorem addPixels_ok_iff (P : Platform) {pixels total : Nat} (h : pixels < 2 ^ 64)
    (rendition : RenditionResultV2) : addPixels P pixels rendition = .ok total ↔
      rendition.Counted ∧ total = pixels + rendition.pixels ∧ total < 2 ^ 64 := by
  unfold addPixels RenditionResultV2.Counted RenditionResultV2.pixels
  cases rendition.video with
  | none =>
    simp only [Except.ok.injEq, Option.not_mem_none, false_imp_iff, implies_true, true_and, Nat.add_zero]
    constructor
    · rintro rfl
      exact ⟨rfl, h⟩
    · rintro ⟨rfl, -⟩
      rfl
  | some video =>
    simp only [ok_bind_iff, failWhen_ok_iff, Except.ok.injEq, Option.mem_def, Option.some.injEq, forall_eq',
      exists_and_left, exists_const, Nat.not_le]
    constructor
    · rintro ⟨hwidth, hpixels, htotal, rfl⟩
      exact ⟨⟨hwidth, hpixels⟩, rfl, htotal⟩
    · rintro ⟨⟨hwidth, hpixels⟩, rfl, htotal⟩
      exact ⟨hwidth, hpixels, htotal, rfl⟩

theorem sumPixels_ok_iff (P : Platform) (renditions : List RenditionResultV2) {pixels total : Nat}
    (h : pixels < 2 ^ 64) : sumPixels P pixels renditions = .ok total ↔
      (∀ rendition ∈ renditions, rendition.Counted) ∧
        total = pixels + (renditions.map RenditionResultV2.pixels).sum ∧ total < 2 ^ 64 := by
  induction renditions generalizing pixels with
  | nil =>
    simp only [sumPixels, Except.ok.injEq, List.not_mem_nil, false_imp_iff, implies_true, List.map_nil,
      List.sum_nil, Nat.add_zero, true_and]
    constructor
    · rintro rfl
      exact ⟨rfl, h⟩
    · rintro ⟨rfl, -⟩
      rfl
  | cons rendition renditions ih =>
    simp only [sumPixels, ok_bind_iff, List.forall_mem_cons, List.map_cons, List.sum_cons]
    constructor
    · rintro ⟨next, hadd, hrest⟩
      obtain ⟨hcounted, rfl, hnext⟩ := (addPixels_ok_iff P h rendition).mp hadd
      obtain ⟨hall, rfl, htotal⟩ := (ih hnext).mp hrest
      exact ⟨⟨hcounted, hall⟩, by omega, htotal⟩
    · rintro ⟨⟨hcounted, hall⟩, rfl, htotal⟩
      have hnext : pixels + rendition.pixels < 2 ^ 64 := by omega
      exact ⟨pixels + rendition.pixels, (addPixels_ok_iff P h rendition).mpr ⟨hcounted, rfl, hnext⟩,
        (ih hnext).mpr ⟨hall, by omega, htotal⟩⟩

theorem calculateFrameMegapixelUnitsV2_perm (P : Platform) {renditions others : List RenditionResultV2}
    (h : renditions.Perm others) {units : Nat}
    (hunits : calculateFrameMegapixelUnitsV2 P renditions = .ok units) :
    calculateFrameMegapixelUnitsV2 P others = .ok units := by
  unfold calculateFrameMegapixelUnitsV2 at hunits ⊢
  obtain ⟨pixels, hsum, hunits⟩ := ok_bind_iff.mp hunits
  obtain ⟨hall, htotal, hlt⟩ := (sumPixels_ok_iff P renditions (by omega)).mp hsum
  refine ok_bind_iff.mpr ⟨pixels, (sumPixels_ok_iff P others (by omega)).mpr ⟨?_, ?_, hlt⟩, hunits⟩
  · intro rendition hrendition
    exact hall rendition (h.mem_iff.mpr hrendition)
  · rw [htotal, (h.map RenditionResultV2.pixels).sum_eq]

/-! ## Moves -/

theorem validateArtifactURI_field {raw field : String} (h : validateArtifactURI raw field = .ok ())
    (other : String) : validateArtifactURI raw other = .ok () :=
  deny_ok_iff.mpr (deny_ok_iff.mp h)

/-- A terminal event that has passed its own validation. -/
def TerminalEventV2.Valid (P : StorePlatform) : TerminalEventV2 → Prop
  | .result success => validateABRTerminalResultV2 P success = .ok ()
  | .error failure => validateABRTerminalErrorV2 failure = .ok ()

/-- What an operation makes of a journal in progress, and whether that adds an event. -/
inductive JournalMove (P : StorePlatform) (record : WorkloadJournalV2) : Bool → WorkloadJournalV2 → Prop where
  | progress (phase : String) (value : GoValue) {progress : ABRProgressV2}
      (hschema : progress.schema = abrProgressSchemaV2)
      (hvalue : progress.value P.formatFloat = some value) : JournalMove P record true
      { record with nextSequence := record.following, phase,
                    progressEvents := newestEvents (record.progressEvents ++
                      [⟨record.nextSequence, "progress", marshal value⟩]) }
  | prepared {checkpoint : PreparedRenditionV2} (hfits : checkpoint.Fits)
      (hvalid : preparedEntryValid (checkpoint.name, checkpoint) = true)
      (hfresh : record.delivered.get? checkpoint.name = none) : JournalMove P record false
      { record with prepared := record.prepared.insert checkpoint.name checkpoint }
  | delivered {result : RenditionResultV2} {checkpoint : PreparedRenditionV2} (hfits : result.Fits)
      (hprepared : record.prepared.get? result.name = some checkpoint)
      (hmatch : preparedMatchesResultV2 checkpoint result) : JournalMove P record false
      { record with delivered := record.delivered.insert result.name result }
  | manifestPrepared {checkpoint : PreparedArtifactV2} (hvalid : manifestValid checkpoint = true)
      (hnone : record.manifestDeliveredURI = "") : JournalMove P record false
      { record with manifestPrepared := some checkpoint }
  | manifestDelivered {artifactURI : String} (hprepared : record.manifestPrepared ≠ none)
      (huri : validateArtifactURI artifactURI "manifest_delivered_uri" = .ok ()) : JournalMove P record false
      { record with manifestDeliveredURI := artifactURI }
  | terminal {event : TerminalEventV2} (hvalid : event.Valid P) (hcheck : event.check P record = .ok ()) :
      JournalMove P record true
      { record with nextSequence := record.following, state := event.state, phase := event.state.text,
                    terminalEvent := some ⟨record.nextSequence, event.name, marshal event.value⟩ }

variable {next : WorkloadJournalV2} {P : StorePlatform} {faults : Faults}

section
variable {P : StorePlatform} {faults : Faults} {disk : Disk} {workloadID : String}

theorem loadLocked_ok (h : loadLocked P faults disk workloadID = .ok record) :
    disk.read workloadID = some record ∧ record.workloadID = workloadID ∧
      opaqueIDPattern workloadID = true ∧ workIDPattern record.requestSHA256 = true ∧
      validateJournalLocked record = .ok () := by
  unfold loadLocked at h
  obtain ⟨_, hpattern, h⟩ := ok_bind_iff.mp h
  have hpattern := not_not.mp (failWhen_ok_iff.mp hpattern)
  split at h
  · cases h
  · split at h
    · cases h
    · rename_i text hfile
      split at h
      · cases h
      · rename_i decoded hdecode
        obtain ⟨_, hidentity, h⟩ := ok_bind_iff.mp h
        have hidentity := failWhen_ok_iff.mp hidentity
        split at h
        · cases h
        · rename_i hvalid
          cases h
          refine ⟨?_, ?_, hpattern, ?_, hvalid⟩
          · rw [Disk.read, hfile]
            exact hdecode
          · exact not_not.mp fun hne => hidentity (.inr (.inl hne))
          · exact not_not.mp fun hne => hidentity (.inr (.inr hne))

theorem loadLocked_notExist (h : loadLocked P faults disk workloadID = .error .notExist) :
    disk workloadID = none := by
  unfold loadLocked at h
  rcases error_bind_iff.mp h with h | ⟨-, -, h⟩
  · cases (failWhen_error_iff.mp h).2
  · split at h
    · cases h
    · split at h
      · rename_i hnone
        exact hnone
      · split at h
        · cases h
        · rcases error_bind_iff.mp h with h | ⟨-, -, h⟩
          · cases (failWhen_error_iff.mp h).2
          · split at h <;> cases h

theorem saveLocked_saved {α : Type} {answer : α}
    (h : (saveLocked faults record answer).saved = some next) : next = record := by
  unfold saveLocked at h
  split at h <;> cases h <;> rfl

theorem mutate_saved {α : Type} {change : WorkloadJournalV2 → Except StoreError (WorkloadJournalV2 × α)}
    (h : (mutate P faults disk workloadID change).saved = some next) :
    ∃ record answer, loadLocked P faults disk workloadID = .ok record ∧ change record = .ok (next, answer) := by
  unfold mutate at h
  split at h
  · cases h
  · rename_i record hload
    split at h
    · cases h
    · rename_i changed answer hchange
      cases saveLocked_saved h
      exact ⟨record, answer, hload, hchange⟩

end

section
variable {P : StorePlatform} {record next : WorkloadJournalV2}

theorem progressChange_moves {phase rendition : String} {progress : Binary64.Number} {frames : Nat}
    (h : progressChange P phase progress rendition frames record = .ok (next, event)) :
    record.state = .inProgress ∧ JournalMove P record true next := by
  unfold progressChange at h
  obtain ⟨_, hstate, h⟩ := ok_bind_iff.mp h
  obtain ⟨_, -, h⟩ := ok_bind_iff.mp h
  split at h
  · cases h
  · rename_i value hvalue
    cases h
    exact ⟨not_not.mp (failWhen_ok_iff.mp hstate), .progress phase value rfl hvalue⟩

theorem preparedChange_moves {prepared : PreparedRenditionV2} (hfits : prepared.Fits)
    (h : preparedChange prepared record = .ok (next, u)) :
    record.state = .inProgress ∧ JournalMove P record false next := by
  unfold preparedChange at h
  obtain ⟨_, hvalid, h⟩ := ok_bind_iff.mp h
  obtain ⟨_, hfresh, h⟩ := ok_bind_iff.mp h
  cases h
  have hvalid := failWhen_ok_iff.mp hvalid
  have hfresh := failWhen_ok_iff.mp hfresh
  simp only [not_or, not_not, ne_eq] at hvalid
  obtain ⟨hstate, -, -, -, hplaylist, hstream, hplaylistSHA, hstreamSHA, -⟩ := hvalid
  refine ⟨hstate, .prepared hfits ?_ ?_⟩
  · simp [preparedEntryValid, hplaylist, hstream, hplaylistSHA, hstreamSHA]
  · simpa using hfresh

theorem deliveredChange_moves {result : RenditionResultV2} (hfits : result.Fits)
    (h : deliveredChange result record = .ok (next, u)) :
    record.state = .inProgress ∧ JournalMove P record false next := by
  unfold deliveredChange at h
  obtain ⟨_, hstate, h⟩ := ok_bind_iff.mp h
  obtain ⟨_, hprepared, h⟩ := ok_bind_iff.mp h
  obtain ⟨_, -, h⟩ := ok_bind_iff.mp h
  obtain ⟨_, -, h⟩ := ok_bind_iff.mp h
  cases h
  have hprepared := not_not.mp (failWhen_ok_iff.mp hprepared)
  obtain ⟨checkpoint, hcheckpoint, hmatch⟩ := (Option.any_eq_true _ _).mp hprepared
  exact ⟨not_not.mp (failWhen_ok_iff.mp hstate), .delivered hfits hcheckpoint (of_decide_eq_true hmatch)⟩

theorem preparedManifestChange_moves {prepared : PreparedArtifactV2}
    (h : preparedManifestChange prepared record = .ok (next, u)) :
    record.state = .inProgress ∧ JournalMove P record false next := by
  unfold preparedManifestChange at h
  obtain ⟨_, hvalid, h⟩ := ok_bind_iff.mp h
  cases h
  have hvalid := failWhen_ok_iff.mp hvalid
  simp only [not_or, not_not, ne_eq] at hvalid
  obtain ⟨hstate, huri, hpath, hsha⟩ := hvalid
  exact ⟨hstate, .manifestPrepared (by simp [manifestValid, hpath, hsha]) huri⟩

theorem deliveredManifestChange_moves {artifactURI : String}
    (h : deliveredManifestChange artifactURI record = .ok (next, u)) :
    record.state = .inProgress ∧ JournalMove P record false next := by
  unfold deliveredManifestChange at h
  obtain ⟨_, hvalid, h⟩ := ok_bind_iff.mp h
  obtain ⟨_, huri, h⟩ := ok_bind_iff.mp h
  cases h
  have hvalid := failWhen_ok_iff.mp hvalid
  simp only [not_or, not_not, ne_eq] at hvalid
  refine ⟨hvalid.1, .manifestDelivered ?_ (validateArtifactURI_field (mapError_ok huri) _)⟩
  simpa using hvalid.2

theorem terminalChange_moves {terminal : TerminalEventV2}
    (hvalid : terminal.Valid P) (h : terminalChange P terminal record = .ok (next, event)) :
    record.state = .inProgress ∧ JournalMove P record true next := by
  unfold terminalChange at h
  obtain ⟨_, hstate, h⟩ := ok_bind_iff.mp h
  obtain ⟨_, hcheck, h⟩ := ok_bind_iff.mp h
  cases h
  exact ⟨not_not.mp (failWhen_ok_iff.mp hstate), .terminal hvalid hcheck⟩

end

/-- The journal an operation puts in place, seen from the one it found. -/
inductive Placed (P : StorePlatform) (disk : Disk) (workloadID : String) : Bool → WorkloadJournalV2 → Prop where
  | created {requestSHA256 : String} (hpattern : opaqueIDPattern workloadID = true)
      (hsha : workIDPattern requestSHA256 = true) (hnone : disk workloadID = none) :
      Placed P disk workloadID false (freshJournal workloadID requestSHA256)
  | moved {record next : WorkloadJournalV2} {event : Bool} {faults : Faults}
      (hload : loadLocked P faults disk workloadID = .ok record) (hstate : record.state = .inProgress)
      (hmove : JournalMove P record event next) : Placed P disk workloadID event next

theorem Placed.of_mutate {workloadID : String} {α : Type}
    {change : WorkloadJournalV2 → Except StoreError (WorkloadJournalV2 × α)} {event : Bool}
    (h : (mutate P faults disk workloadID change).saved = some next)
    (hmoves : ∀ {record answer}, change record = .ok (next, answer) →
      record.state = .inProgress ∧ JournalMove P record event next) : Placed P disk workloadID event next := by
  obtain ⟨record, answer, hload, hchange⟩ := mutate_saved h
  obtain ⟨hstate, hmove⟩ := hmoves hchange
  exact .moved hload hstate hmove

/-- `LoadOrCreate` only writes where there is no file. -/
theorem loadOrCreate_saved {workloadID requestSHA256 : String}
    (h : (loadOrCreate P faults disk workloadID requestSHA256).saved = some next) :
    opaqueIDPattern workloadID = true ∧ workIDPattern requestSHA256 = true ∧ disk workloadID = none ∧
      next = freshJournal workloadID requestSHA256 := by
  unfold loadOrCreate at h
  split at h
  · cases h
  · rename_i hidentity
    simp only [not_or, not_not] at hidentity
    split at h
    · rename_i hload
      exact ⟨hidentity.1, hidentity.2, loadLocked_notExist hload, saveLocked_saved h⟩
    · cases h
    · cases h

theorem Operation.perform_saved {op : Operation} (hfits : op.Fits)
    (h : (op.perform P faults disk).saved = some next) :
    Placed P disk op.workloadID op.isEvent next := by
  cases op with
  | loadOrCreate workloadID requestSHA256 =>
    obtain ⟨hpattern, hsha, hnone, rfl⟩ := loadOrCreate_saved h
    exact .created hpattern hsha hnone
  | load workloadID => cases h
  | appendProgress workloadID phase progress rendition frames =>
    exact .of_mutate h progressChange_moves
  | savePrepared workloadID prepared => exact .of_mutate h (preparedChange_moves hfits)
  | saveDelivered workloadID result => exact .of_mutate h (deliveredChange_moves hfits)
  | savePreparedManifest workloadID prepared => exact .of_mutate h preparedManifestChange_moves
  | saveDeliveredManifest workloadID artifactURI => exact .of_mutate h deliveredManifestChange_moves
  | recordTerminalResult workloadID result =>
    simp only [perform, AbrRunner.recordTerminalResult] at h
    split at h
    · cases h
    · rename_i hvalid
      exact .of_mutate h (terminalChange_moves hvalid)
  | recordTerminalError workloadID result =>
    simp only [perform, AbrRunner.recordTerminalError] at h
    split at h
    · cases h
    · rename_i hvalid
      exact .of_mutate h (terminalChange_moves hvalid)

theorem Operation.perform_moved {op : Operation} (hfits : op.Fits)
    (hcreate : ∀ workloadID requestSHA256, op ≠ .loadOrCreate workloadID requestSHA256)
    (h : (op.perform P faults disk).saved = some next) :
    ∃ record, disk.read op.workloadID = some record ∧ validateJournalLocked record = .ok () ∧
      record.state = .inProgress ∧ JournalMove P record op.isEvent next := by
  have hload : ∃ record, loadLocked P faults disk op.workloadID = .ok record := by
    cases op with
    | loadOrCreate workloadID requestSHA256 => exact absurd rfl (hcreate workloadID requestSHA256)
    | load workloadID => cases h
    | recordTerminalResult workloadID result =>
      simp only [perform, AbrRunner.recordTerminalResult] at h
      split at h
      · cases h
      · obtain ⟨record, _, hload, -⟩ := mutate_saved h
        exact ⟨record, hload⟩
    | recordTerminalError workloadID result =>
      simp only [perform, AbrRunner.recordTerminalError] at h
      split at h
      · cases h
      · obtain ⟨record, _, hload, -⟩ := mutate_saved h
        exact ⟨record, hload⟩
    | _ =>
      obtain ⟨record, _, hload, -⟩ := mutate_saved h
      exact ⟨record, hload⟩
  obtain ⟨record, hload⟩ := hload
  obtain ⟨hread, -, -, -, hvalid⟩ := loadLocked_ok hload
  have hplaced := op.perform_saved hfits h
  generalize op.isEvent = event at hplaced
  cases hplaced with
  | created _ _ hnone =>
    rw [Disk.read, hnone] at hread
    cases hread
  | moved hload' hstate hmove =>
    obtain ⟨hread', -⟩ := loadLocked_ok hload'
    rw [hread] at hread'
    cases hread'
    exact ⟨record, hread, hvalid, hstate, hmove⟩

end LivepeerTranscode.AbrRunner
