import LivepeerTranscode.AbrRunner.Journal

/-!
# Reading back a journal's text

A journal whose numbers fit their Go types and whose events hold what `json.Marshal` made
is read back as it was, byte for byte in its events.
-/

namespace LivepeerTranscode.AbrRunner
open Checked GoText JsonText
set_option autoImplicit false

variable {record : WorkloadJournalV2} {name : String} {video : DeliveredVideoV2}
  {events : List StoredSSEEventV2}

/-! ## Numbers of fixed width -/

def DeliveredVideoV2.Fits (video : DeliveredVideoV2) : Prop :=
  video.actualFrames < 2 ^ 64 ∧ video.width < 2 ^ 32 ∧ video.height < 2 ^ 32

def RenditionResultV2.Fits (result : RenditionResultV2) : Prop :=
  (∀ video ∈ result.video, video.Fits) ∧ result.fileSizeBytes < 2 ^ 64

def PreparedRenditionV2.Fits (prepared : PreparedRenditionV2) : Prop :=
  (∀ video ∈ prepared.video, video.Fits) ∧ prepared.fileSizeBytes < 2 ^ 64

/-- An event as `storedEventV2` makes it. -/
def StoredSSEEventV2.Marshalled (event : StoredSSEEventV2) : Prop :=
  event.sequence < 2 ^ 64 ∧ ∃ value : GoValue, event.data = marshal value

structure WorkloadJournalV2.Kept (record : WorkloadJournalV2) : Prop where
  version : record.version = workloadJournalVersionV2
  state : record.state = .inProgress ∨ record.terminal = true
  nextSequence : record.nextSequence < 2 ^ 64
  prepared : ∀ entry ∈ record.prepared.entries, entry.2.Fits
  delivered : ∀ entry ∈ record.delivered.entries, entry.2.Fits
  progressEvents : ∀ event ∈ record.progressEvents, event.Marshalled
  terminalEvent : ∀ event ∈ record.terminalEvent, event.Marshalled

/-! ## Parts of a journal -/

section Members
variable {σ τ : Type}

theorem textMember_rawStr {get : σ → String} {set : σ → String → σ} {value : σ} {s : String} :
    (textMember name get set).2 value (rawStr s) = some (set value s) := by
  simp only [textMember, rawTextField_rawStr, Option.map_some]

theorem uintMember_rawNum {bits n : Nat} (h : n < 2 ^ bits) {get : σ → Nat} {set : σ → Nat → σ}
    {value : σ} : (uintMember bits name get set).2 value (rawNum n) = some (set value n) := by
  simp only [uintMember, rawUintField_rawNum h, Option.map_some]

theorem freshMember_some {decode : RawDocument → Option τ} {item : RawDocument} {part : τ}
    (h : decode item = some part) {set : σ → τ → σ} {value : σ} :
    (freshMember name decode set).2 value item = some (set value part) := by
  simp only [freshMember, h, Option.map_some]

end Members

theorem decode_video (h : video.Fits) :
    rawStruct videoFields default (GoValue.raw video.value) = some video := by
  obtain ⟨hframes, hwidth, hheight⟩ := h
  rw [DeliveredVideoV2.value, raw_obj, rawStruct_rawObj]
  refine decodeMembers_step rfl (uintMember_rawNum hframes) ?_
  refine decodeMembers_step rfl (uintMember_rawNum hwidth) ?_
  exact decodeMembers_step rfl (uintMember_rawNum hheight) rfl

theorem decode_videoPointer (h : video.Fits) :
    videoPointer (GoValue.raw video.value) = some (some video) := by
  have hdecode := decode_video h
  rw [DeliveredVideoV2.value, raw_obj] at hdecode ⊢
  rw [videoPointer, rawObj, rawPointer]
  · exact congrArg (Option.map some) hdecode
  · simp

theorem decode_result {result : RenditionResultV2} (h : result.Fits) :
    rawStruct resultFields default (GoValue.raw result.value) = some result := by
  obtain ⟨name, playlistURI, streamURI, video, fileSizeBytes⟩ := result
  obtain ⟨hvideo, hsize⟩ := h
  rw [RenditionResultV2.value, raw_obj, rawStruct_rawObj]
  refine decodeMembers_step rfl textMember_rawStr ?_
  refine decodeMembers_step rfl textMember_rawStr ?_
  refine decodeMembers_step rfl textMember_rawStr ?_
  cases video with
  | none =>
    exact decodeMembers_step rfl (uintMember_rawNum hsize) rfl
  | some video =>
    refine decodeMembers_step rfl (freshMember_some (decode_videoPointer (hvideo video rfl))) ?_
    exact decodeMembers_step rfl (uintMember_rawNum hsize) rfl

theorem decode_prepared {prepared : PreparedRenditionV2} (h : prepared.Fits) :
    rawStruct preparedFields default (GoValue.raw prepared.value) = some prepared := by
  obtain ⟨name, playlistPath, streamPath, playlistSHA256, streamSHA256, video, fileSizeBytes⟩ := prepared
  obtain ⟨hvideo, hsize⟩ := h
  rw [PreparedRenditionV2.value, raw_obj, rawStruct_rawObj]
  refine decodeMembers_step rfl textMember_rawStr ?_
  refine decodeMembers_step rfl textMember_rawStr ?_
  refine decodeMembers_step rfl textMember_rawStr ?_
  refine decodeMembers_step rfl textMember_rawStr ?_
  refine decodeMembers_step rfl textMember_rawStr ?_
  cases video with
  | none =>
    exact decodeMembers_step rfl (uintMember_rawNum hsize) rfl
  | some video =>
    refine decodeMembers_step rfl (freshMember_some (decode_videoPointer (hvideo video rfl))) ?_
    exact decodeMembers_step rfl (uintMember_rawNum hsize) rfl

theorem decode_artifactMembers (prepared : PreparedArtifactV2) :
    rawPointer (rawStruct artifactMembers default) (GoValue.raw prepared.value) = some (some prepared) := by
  have hdecode : rawStruct artifactMembers default (GoValue.raw prepared.value) = some prepared := by
    rw [PreparedArtifactV2.value, raw_obj, rawStruct_rawObj]
    refine decodeMembers_step rfl textMember_rawStr ?_
    exact decodeMembers_step rfl textMember_rawStr rfl
  rw [PreparedArtifactV2.value, raw_obj] at hdecode ⊢
  rw [rawObj, rawPointer]
  · exact congrArg (Option.map some) hdecode
  · simp

/-! ## Events -/

/-- The document of an event whose data is what the encoder made. -/
def eventRaw (event : StoredSSEEventV2) (data : RawDocument) : RawDocument :=
  rawObj [("sequence", rawNum event.sequence), ("event", rawStr event.event), ("data", data)]

theorem StoredSSEEventV2.Marshalled.reads {event : StoredSSEEventV2} (h : event.Marshalled) :
    ∃ document, event.document = some document ∧ Written document ∧
      rawStruct eventFields default document = some event ∧
      rawPointer (rawStruct eventFields default) document = some (some event) := by
  obtain ⟨sequence, name, data⟩ := event
  obtain ⟨hsequence, value, rfl⟩ := h
  have hdecode : rawStruct eventFields default
      (eventRaw ⟨sequence, name, marshal value⟩ (GoValue.raw value)) = some ⟨sequence, name, marshal value⟩ := by
    rw [eventRaw, rawStruct_rawObj]
    refine decodeMembers_step rfl (uintMember_rawNum hsequence) ?_
    refine decodeMembers_step rfl textMember_rawStr ?_
    refine decodeMembers_step rfl (freshMember_some rfl) ?_
    rw [marshal_eq_rawText]
    rfl
  refine ⟨eventRaw ⟨sequence, name, marshal value⟩ (GoValue.raw value), ?_, ?_, hdecode, ?_⟩
  · simp only [StoredSSEEventV2.document, rawDocument_marshal, Option.map_some, compact_raw, eventRaw]
  · refine Written.obj ?_
    intro member hmember
    simp only [List.mem_cons, List.not_mem_nil, or_false] at hmember
    rcases hmember with rfl | rfl | rfl
    · exact Written.num _
    · exact Written.str _
    · exact ⟨value, rfl⟩
  · rw [eventRaw, rawObj, rawPointer]
    · exact congrArg (Option.map some) hdecode
    · simp

theorem eventDocuments_reads (h : ∀ event ∈ events, event.Marshalled) :
    ∃ documents, eventDocuments events = some documents ∧ (∀ document ∈ documents, Written document) ∧
      rawItems (rawStruct eventFields default) documents = some events := by
  induction events with
  | nil => exact ⟨[], rfl, by simp, rfl⟩
  | cons event events ih =>
    obtain ⟨document, hdocument, hwritten, hdecode, -⟩ := (h event List.mem_cons_self).reads
    obtain ⟨documents, hdocuments, hall, hitems⟩ := ih fun other hother => h other (List.mem_cons_of_mem _ hother)
    refine ⟨document :: documents, ?_, ?_, ?_⟩
    · simp only [eventDocuments, hdocument, hdocuments, Option.bind_eq_bind, Option.bind_some]
    · intro other hother
      rcases List.mem_cons.mp hother with rfl | hother
      · exact hwritten
      · exact hall other hother
    · simp only [rawItems, hdecode, hitems]

theorem progressDocument_reads (h : ∀ event ∈ events, event.Marshalled) :
    ∃ document, progressDocument events = some document ∧ Written document ∧
      rawSlice (rawStruct eventFields default) document = some events := by
  obtain ⟨documents, hdocuments, hwritten, hitems⟩ := eventDocuments_reads h
  cases events with
  | nil => exact ⟨.null, rfl, Written.null, rfl⟩
  | cons event events =>
    refine ⟨.arr documents, ?_, Written.arr hwritten, hitems⟩
    rw [progressDocument, hdocuments]
    · rfl
    · simp

/-! ## The journal -/

theorem ofText_text (h : record.state = .inProgress ∨ record.terminal = true) :
    WorkloadJournalStateV2.ofText record.state.text = record.state := by
  rcases h with h | h
  · rw [h]
    rfl
  · simp only [WorkloadJournalV2.terminal, Bool.decide_or, Bool.or_eq_true, decide_eq_true_eq] at h
    rcases h with h | h <;> rw [h] <;> rfl

theorem decode_manifestMembers (record start : WorkloadJournalV2) (hprepared : start.manifestPrepared = none)
    (huri : start.manifestDeliveredURI = "") :
    decodeMembers journalFields start (manifestMembers record) =
      some { start with manifestPrepared := record.manifestPrepared,
                        manifestDeliveredURI := record.manifestDeliveredURI } := by
  have huriMember : ∀ value : WorkloadJournalV2, value.manifestDeliveredURI = "" →
      decodeMembers journalFields value (if record.manifestDeliveredURI = "" then []
        else [("manifest_delivered_uri", rawStr record.manifestDeliveredURI)]) =
        some { value with manifestDeliveredURI := record.manifestDeliveredURI } := by
    intro value hempty
    by_cases h : record.manifestDeliveredURI = ""
    · rw [if_pos h, h, ← hempty]
      rfl
    · rw [if_neg h]
      exact decodeMembers_step rfl textMember_rawStr rfl
  unfold manifestMembers
  cases record.manifestPrepared with
  | none =>
    rw [List.nil_append, huriMember start huri, ← hprepared]
  | some prepared =>
    refine decodeMembers_append (decodeMembers_step rfl (freshMember_some (decode_artifactMembers prepared)) rfl) ?_
    exact huriMember _ huri

theorem terminalMember_reads {event : Option StoredSSEEventV2} (h : ∀ e ∈ event, e.Marshalled)
    (start : WorkloadJournalV2) (hnone : start.terminalEvent = none) :
    ∃ members, terminalMember event = some members ∧ (∀ member ∈ members, Written member.2) ∧
      decodeMembers journalFields start members = some { start with terminalEvent := event } := by
  cases event with
  | none =>
    refine ⟨[], rfl, by simp, ?_⟩
    rw [← hnone]
    rfl
  | some event =>
    obtain ⟨document, hdocument, hwritten, -, hpointer⟩ := (h event rfl).reads
    refine ⟨[("terminal_event", document)], ?_, ?_, ?_⟩
    · rw [terminalMember, hdocument, Option.map_some]
    · intro member hmember
      rw [List.mem_singleton.mp hmember]
      exact hwritten
    · exact decodeMembers_step rfl (freshMember_some hpointer) rfl

theorem manifestMembers_written (record : WorkloadJournalV2) :
    ∀ member ∈ manifestMembers record, Written member.2 := by
  intro member hmember
  unfold manifestMembers at hmember
  rcases List.mem_append.mp hmember with hmember | hmember
  · cases hprepared : record.manifestPrepared with
    | none =>
      rw [hprepared] at hmember
      cases hmember
    | some prepared =>
      rw [hprepared] at hmember
      rw [List.mem_singleton.mp hmember]
      exact ⟨prepared.value, rfl⟩
  · split at hmember
    · cases hmember
    · rw [List.mem_singleton.mp hmember]
      exact Written.str _

theorem rawMapDocument_written {α : Type} (value : α → GoValue) (m : StringMap α) :
    Written (rawMapDocument (fun item => GoValue.raw (value item)) m) := by
  refine Written.obj ?_
  intro member hmember
  obtain ⟨entry, -, rfl⟩ := List.mem_map.mp hmember
  exact ⟨value entry.2, rfl⟩

def journalHead (record : WorkloadJournalV2) : List (String × RawDocument) :=
  [("version", rawNum record.version), ("workload_id", rawStr record.workloadID),
    ("request_sha256", rawStr record.requestSHA256), ("state", rawStr record.state.text),
    ("phase", rawStr record.phase), ("next_sequence", rawNum record.nextSequence),
    ("prepared", rawMapDocument (fun prepared => GoValue.raw prepared.value) record.prepared),
    ("delivered", rawMapDocument (fun delivered => GoValue.raw delivered.value) record.delivered)]

theorem journalHead_written (record : WorkloadJournalV2) :
    ∀ member ∈ journalHead record, Written member.2 := by
  intro member hmember
  simp only [journalHead, List.mem_cons, List.not_mem_nil, or_false] at hmember
  rcases hmember with rfl | rfl | rfl | rfl | rfl | rfl | rfl | rfl
  · exact Written.num _
  · exact Written.str _
  · exact Written.str _
  · exact Written.str _
  · exact Written.str _
  · exact Written.num _
  · exact rawMapDocument_written PreparedRenditionV2.value _
  · exact rawMapDocument_written RenditionResultV2.value _

theorem WorkloadJournalV2.Kept.reads_head (h : record.Kept) :
    decodeMembers journalFields default (journalHead record) =
      some { record with manifestPrepared := none, manifestDeliveredURI := "", progressEvents := [],
                         terminalEvent := none } := by
  have hversion : record.version < 2 ^ 63 := by
    rw [h.version]
    decide
  have hprepared : rawMap (rawStruct preparedFields default)
      (rawMapDocument (fun prepared => GoValue.raw prepared.value) record.prepared) = some record.prepared :=
    rawMap_document fun entry hentry => decode_prepared (h.prepared entry hentry)
  have hdelivered : rawMap (rawStruct resultFields default)
      (rawMapDocument (fun delivered => GoValue.raw delivered.value) record.delivered) = some record.delivered :=
    rawMap_document fun entry hentry => decode_result (h.delivered entry hentry)
  unfold journalHead
  refine decodeMembers_step rfl (uintMember_rawNum hversion) ?_
  refine decodeMembers_step rfl textMember_rawStr ?_
  refine decodeMembers_step rfl textMember_rawStr ?_
  refine decodeMembers_step rfl textMember_rawStr ?_
  refine decodeMembers_step rfl textMember_rawStr ?_
  refine decodeMembers_step rfl (uintMember_rawNum h.nextSequence) ?_
  refine decodeMembers_step rfl (freshMember_some hprepared) ?_
  refine decodeMembers_step rfl (freshMember_some hdelivered) ?_
  rw [decodeMembers]
  dsimp only
  rw [ofText_text h.state]
  rfl

theorem WorkloadJournalV2.Kept.reads (h : record.Kept) :
    ∃ text, encodeJournal record = some text ∧ decodeJournal text = some record := by
  obtain ⟨progress, hprogress, hprogressWritten, hslice⟩ := progressDocument_reads h.progressEvents
  have hmanifest := decode_manifestMembers record
    { record with manifestPrepared := none, manifestDeliveredURI := "", progressEvents := [],
                  terminalEvent := none } rfl rfl
  obtain ⟨terminal, hterminal, hterminalWritten, hdecodeTerminal⟩ := terminalMember_reads h.terminalEvent
    { record with terminalEvent := none } rfl
  let document := rawObj (journalHead record ++ manifestMembers record ++ [("progress_events", progress)] ++
    terminal)
  have hdocument : record.document = some document := by
    simp only [WorkloadJournalV2.document, hprogress, hterminal, Option.bind_eq_bind, Option.bind_some]
    rfl
  have hwritten : Written document := by
    refine Written.obj ?_
    intro member hmember
    simp only [List.mem_append, List.mem_singleton] at hmember
    rcases hmember with ((hmember | hmember) | rfl) | hmember
    · exact journalHead_written record member hmember
    · exact manifestMembers_written record member hmember
    · exact hprogressWritten
    · exact hterminalWritten member hmember
  refine ⟨rawText document ++ ['\n'], by rw [encodeJournal, hdocument, Option.map_some], ?_⟩
  rw [decodeJournal, hwritten.scanned, Option.bind_some, rawStruct_rawObj, List.append_assoc, List.append_assoc]
  refine decodeMembers_append h.reads_head (decodeMembers_append hmanifest ?_)
  exact decodeMembers_append (decodeMembers_step rfl (freshMember_some hslice) rfl) hdecodeTerminal

theorem WorkloadJournalV2.Kept.clone (h : record.Kept) :
    cloneJournalV2 record = record := by
  obtain ⟨text, hencode, hdecode⟩ := h.reads
  rw [cloneJournalV2, hencode, Option.bind_some, hdecode, Option.getD_some]

end LivepeerTranscode.AbrRunner
