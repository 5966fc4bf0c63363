import LivepeerTranscode.Exchange.TerminalStream

/-!
# The failures of a runner, read by the gateway

The runner's terminal error carries the units of the renditions it had delivered. The gateway
takes a terminal error only with no units, so a failure after a delivery is reported as a
malformed terminal and loses its code and whether it can be retried.
-/

namespace LivepeerTranscode.Exchange
open AbrRunner Gateway Interaction Actors Checked GoText JsonText
set_option autoImplicit false

/-! ## Units -/

theorem round_zero : Binary64.round 0 = some 0 := by
  simp [Binary64.round, Binary64.roundEven]

theorem nodeNumber_decimal_ne_zero {n : Nat} (h : n ≠ 0) : nodeNumber (decimalLiteral n).text ≠ 0 := by
  have hone : (1 : ℚ) ≤ n := by exact_mod_cast Nat.one_le_iff_ne_zero.mpr h
  have hvalue := literalValue_decimal n
  unfold nodeNumber
  split
  · rename_i x hx
    rw [hvalue] at hx
    have hsmall : (2 : ℚ) ^ (-1074 : ℤ) ≤ n :=
      le_trans (zpow_le_one_of_nonpos₀ (by norm_num) (by norm_num)) hone
    exact (Binary64.round_pos hsmall hx).ne'
  · have hinfinity : (0 : ℚ) < infinity := by
      unfold infinity
      positivity
    split
    · exact (neg_lt_zero.mpr hinfinity).ne
    · exact hinfinity.ne'

theorem nodeNumber_decimal_zero : nodeNumber (decimalLiteral 0).text = 0 := by
  apply nodeNumber_of_round
  rw [literalValue_decimal]
  exact round_zero

theorem naturalNumber_decimal (n : Nat) :
    naturalNumber (nodeNumber (decimalLiteral n).text) = some 0 ↔ n = 0 := by
  constructor
  · intro h
    by_contra hne
    obtain ⟨x, hx, h⟩ := Option.bind_eq_some_iff.mp h
    rw [Binary64.safeInteger] at hx
    split at hx
    · rename_i hsafe
      cases hx
      split at h
      · rename_i hnonneg
        have hzero : (nodeNumber (decimalLiteral n).text).num = 0 :=
          le_antisymm (Int.toNat_eq_zero.mp (Option.some.inj h)) hnonneg
        exact nodeNumber_decimal_ne_zero hne (Rat.num_eq_zero.mp hzero)
      · cases h
    · cases hx
  · rintro rfl
    rw [nodeNumber_decimal_zero]
    rfl

/-! ## Schemas -/

theorem utf16Units_le (c : Char) : (if c.toNat < 0x10000 then 1 else 2) ≤ (String.utf8EncodeChar c).length := by
  have hval : c.val.toNat = c.toNat := rfl
  split
  · obtain ⟨a, tail, hencode, -⟩ := decodeRune_utf8EncodeChar c []
    rw [hencode]
    exact Nat.le_add_left 1 tail.length
  · unfold String.utf8EncodeChar
    simp only [hval]
    rw [if_neg (by omega), if_neg (by omega), if_neg (by omega)]
    exact Nat.le_add_left 2 2

theorem utf16Length_le (text : String) : utf16Length text ≤ (goBytes text).length := by
  rw [utf16Length, goBytes]
  induction text.toList with
  | nil => exact Nat.le_refl 0
  | cons c rest ih =>
    rw [utf8Bytes, List.flatMap_cons, List.length_append, List.map_cons, List.sum_cons]
    exact Nat.add_le_add (utf16Units_le c) ih

theorem node_failure (failure : ABRTerminalErrorV2) : GoValue.node failure.value =
    .obj [("schema", .str failure.schema), ("workload_id", .str failure.workloadID),
      ("request_sha256", .str failure.requestSHA256), ("outcome", .str failure.outcome),
      ("error", .obj [("code", .str failure.error.code), ("message", .str failure.error.message),
        ("retryable", .bool failure.error.retryable)]),
      ("usage", .obj [("unit", .str failure.usage.unit),
        ("units", .num (nodeNumber (decimalLiteral failure.usage.units).text))])] := by
  have herror : GoValue.node failure.error.value = .obj [("code", .str failure.error.code),
      ("message", .str failure.error.message), ("retryable", .bool failure.error.retryable)] := by
    rewrite [ABRErrorV2.value, node_obj (by simp)]
    rfl
  have husage : GoValue.node failure.usage.value = .obj [("unit", .str failure.usage.unit),
      ("units", .num (nodeNumber (decimalLiteral failure.usage.units).text))] := by
    rewrite [UsageClaimV2.value, node_obj (by simp)]
    rfl
  rewrite [ABRTerminalErrorV2.value, node_obj (by simp)]
  simp only [List.map_cons, List.map_nil, herror, husage]
  rfl

theorem sha256Text_of_pattern {text : String} (h : workIDPattern text = true) : sha256Text text = true := by
  simp only [workIDPattern, Bool.and_eq_true, decide_eq_true_eq] at h
  simp only [sha256Text, Bool.and_eq_true, beq_iff_eq]
  refine ⟨h.2, List.all_eq_true.mpr ?_⟩
  intro c hc
  have hhex := List.all_eq_true.mp h.1 c hc
  simp only [Bool.or_eq_true, Bool.and_eq_true, decide_eq_true_eq, Char.le_def, UInt32.le_iff_toNat_le] at hhex
  simp only [lowerHex, Char.isDigit, Bool.or_eq_true, Bool.and_eq_true, decide_eq_true_eq,
    UInt32.le_iff_toNat_le, ge_iff_le]
  exact hhex

structure Redacted (failure : ABRTerminalErrorV2) : Prop where
  schema : failure.schema = abrResultSchema
  outcome : failure.outcome = "failed"
  workloadID : failure.workloadID ≠ ""
  requestSHA256 : sha256Text failure.requestSHA256 = true
  code : failure.error.code ≠ ""
  message : failure.error.message ≠ ""
  short : utf16Length failure.error.message ≤ 512
  unit : failure.usage.unit = abrWorkUnit

theorem redacted_of_valid {failure : ABRTerminalErrorV2} (h : validateABRTerminalErrorV2 failure = .ok ()) :
    Redacted failure := by
  obtain ⟨_, hschema, h⟩ := ok_bind_iff.mp h
  obtain ⟨_, hidentity, h⟩ := ok_bind_iff.mp h
  obtain ⟨_, htexts, h⟩ := ok_bind_iff.mp h
  obtain ⟨_, hlength, hunit⟩ := ok_bind_iff.mp h
  obtain ⟨hschema, houtcome⟩ := not_or.mp (deny_ok_iff.mp hschema)
  obtain ⟨hid, hsha⟩ := not_or.mp (deny_ok_iff.mp hidentity)
  obtain ⟨hcode, hmessage⟩ := not_or.mp (deny_ok_iff.mp htexts)
  have hlength := (not_or.mp (deny_ok_iff.mp hlength)).1
  refine ⟨not_not.mp hschema, not_not.mp houtcome, ?_, sha256Text_of_pattern (not_not.mp hsha), hcode, hmessage,
    le_trans (utf16Length_le _) (Nat.le_of_not_lt hlength), not_not.mp (deny_ok_iff.mp hunit)⟩
  intro hempty
  rw [hempty] at hid
  exact hid (by simp [opaqueIDPattern])

section
variable {failure : ABRTerminalErrorV2}

theorem errorWire_failure (h : Redacted failure) :
    errorWire (some (.obj [("code", .str failure.error.code), ("message", .str failure.error.message),
      ("retryable", .bool failure.error.retryable)])) = some (failure.error.code, failure.error.retryable) := by
  have hcode : requiredWireText (some (.str failure.error.code)) = some failure.error.code := if_neg h.code
  have hmessage : requiredWireText (some (.str failure.error.message)) = some failure.error.message :=
    if_neg h.message
  have hlong : ¬ 512 < utf16Length failure.error.message := Nat.not_lt.mpr h.short
  simp [errorWire, strict, List.lookup, hcode, hmessage, hlong]

theorem usageWire_failure (h : Redacted failure) :
    usageWire (some (.obj [("unit", .str failure.usage.unit),
      ("units", .num (nodeNumber (decimalLiteral failure.usage.units).text))])) =
        naturalNumber (nodeNumber (decimalLiteral failure.usage.units).text) := by
  have hunit : wireLiteral abrWorkUnit (some (.str failure.usage.unit)) = some () := if_pos h.unit
  simp [usageWire, strict, List.lookup, hunit, nonnegativeInt]

theorem terminalErrorWire_failure (h : Redacted failure) :
    terminalErrorWire (GoValue.node failure.value) =
      if failure.usage.units = 0 then
        some ⟨failure.workloadID, failure.requestSHA256, failure.error.code, failure.error.retryable⟩
      else none := by
  have hschema : wireLiteral abrResultSchema (some (.str failure.schema)) = some () := if_pos h.schema
  have hid : requiredWireText (some (.str failure.workloadID)) = some failure.workloadID := if_neg h.workloadID
  have hsha : sha256Wire (some (.str failure.requestSHA256)) = some failure.requestSHA256 :=
    if_pos h.requestSHA256
  have houtcome : wireLiteral "failed" (some (.str failure.outcome)) = some () := if_pos h.outcome
  have hwire : terminalErrorWire (GoValue.node failure.value) =
      (naturalNumber (nodeNumber (decimalLiteral failure.usage.units).text)).bind fun units =>
        if units = 0 then
          some ⟨failure.workloadID, failure.requestSHA256, failure.error.code, failure.error.retryable⟩
        else none := by
    rw [node_failure]
    simp [terminalErrorWire, strict, List.lookup, hschema, hid, hsha, houtcome, errorWire_failure h,
      usageWire_failure h]
  rw [hwire]
  by_cases hzero : failure.usage.units = 0
  · rw [(naturalNumber_decimal _).mpr hzero, if_pos hzero]
    rfl
  · rw [if_neg hzero]
    cases hunits : naturalNumber (nodeNumber (decimalLiteral failure.usage.units).text) with
    | none => rfl
    | some units =>
      refine if_neg ?_
      rintro rfl
      exact hzero ((naturalNumber_decimal _).mp hunits)

theorem terminalWire_failure (failure : ABRTerminalErrorV2) : terminalWire (GoValue.node failure.value) = none := by
  rw [node_failure]
  simp [terminalWire, strict]

theorem validateAbrTerminal_failure {P : Gateway.Platform} {body : List UInt8} (h : Redacted failure)
    (hread : terminalJsonFromSse P body = .ok (GoValue.node failure.value)) (settlement : PaidJobSettlement)
    {expected : TerminalExpectation} (hid : expected.workloadId = failure.workloadID)
    (hsha : expected.requestSha256 = failure.requestSHA256) :
    validateAbrTerminal P body settlement expected = .error
      (if failure.usage.units = 0 then .abr failure.error.code failure.error.retryable
        else .abr "abr_terminal_invalid" false) := by
  have hown : failWhen (failure.workloadID ≠ expected.workloadId ∨ failure.requestSHA256 ≠ expected.requestSha256)
      identityMismatch = .ok () := by
    rw [hid, hsha]
    exact failWhen_ok_iff.mpr (by simp)
  simp only [validateAbrTerminal, hread, bind, Except.bind, terminalErrorWire_failure h]
  by_cases hzero : failure.usage.units = 0
  · simp only [if_pos hzero, hown]
    rfl
  · simp only [if_neg hzero, terminalWire_failure]
    rfl

end

section
variable {runner : Runner} {past : List (List (Nat × AbrEvent))} {c : AbrScene} {log : List (Nat × AbrEvent)}
  {n : Nat} {stored : StoredSSEEventV2}

/-- The gateway reports a failure of the runner under its own code exactly if the renditions
delivered before it have no units. -/
theorem failure_reported (h : Lives runner past c) (hlog : log ∈ past ++ [c.log])
    (hwritten : (n, ⟨.reply (.event stored), true⟩) ∈ log) (hfailed : stored.event = "error") :
    ∃ (req : ABRWorkloadRequestV2) (requestSHA256 : String) (record : WorkloadJournalV2)
        (failure : ABRTerminalErrorV2), Serving runner (history n log) req requestSHA256 ∧
      c.shared.disk.read req.workloadID = some record ∧ record.terminalEvent = some stored ∧
      stored.data = marshal failure.value ∧
      ∀ (P : Gateway.Platform) (settlement : PaidJobSettlement) (expected : TerminalExpectation),
        expected.workloadId = failure.workloadID → expected.requestSha256 = failure.requestSHA256 →
        (validateAbrTerminal (nodePlatform P) (utf8Bytes (streamText (history n log))) settlement expected =
          .error (.abr failure.error.code failure.error.retryable) ↔
        calculateFrameMegapixelUnitsV2 runner.toPlatform record.deliveredResults = .ok 0 ∨
          failure.error.code = "abr_terminal_invalid" ∧ failure.error.retryable = false) := by
  obtain ⟨req, requestSHA256, hserving, hprogress | ⟨record, hread, hstored⟩⟩ := h.streamed hlog hwritten
  · exact absurd (.inr hfailed) hprogress.not_terminal
  obtain ⟨event, hvalid, hname, hdata, hreports⟩ := recorded_end h hread hstored
  obtain ⟨members, hmembers, htells⟩ := tells_terminal hvalid hname hdata
  cases event with
  | result success =>
    rw [hfailed] at hname
    exact absurd hname (by simp [TerminalEventV2.name])
  | error failure =>
    refine ⟨req, requestSHA256, record, failure, hserving, hread, hstored, hdata, ?_⟩
    intro P settlement expected hid hsha
    have hjson := @terminalJsonFromSse_stream P _ _ _ htells (response_ends h hlog hserving hread hstored)
      (mem_history.mpr hwritten)
    rw [← hmembers] at hjson
    rw [validateAbrTerminal_failure (redacted_of_valid hvalid) hjson settlement hid hsha]
    have hunits : calculateFrameMegapixelUnitsV2 runner.toPlatform record.deliveredResults = .ok 0 ↔
        failure.usage.units = 0 := by
      rw [show calculateFrameMegapixelUnitsV2 runner.toPlatform record.deliveredResults =
        .ok failure.usage.units from hreports, Except.ok.injEq]
    rw [hunits, Except.error.injEq]
    by_cases hzero : failure.usage.units = 0
    · simp [hzero]
    · rw [if_neg hzero, Failure.abr.injEq]
      simp only [hzero, false_or]
      exact and_congr eq_comm eq_comm

end

theorem failure_of_marshal {failure other : ABRTerminalErrorV2} (h : marshal failure.value = marshal other.value) :
    failure.workloadID = other.workloadID ∧ failure.requestSHA256 = other.requestSHA256 ∧
      failure.error.code = other.error.code ∧ failure.error.retryable = other.error.retryable := by
  have hparse := congrArg jsonParse h
  rw [jsonParse_marshal, jsonParse_marshal, node_failure, node_failure] at hparse
  simp only [Option.some.injEq, Json.obj.injEq, List.cons.injEq, Prod.mk.injEq, Json.str.injEq, Json.bool.injEq,
    true_and, and_true] at hparse
  obtain ⟨-, hid, hsha, -, ⟨hcode, -, hretryable⟩, -⟩ := hparse
  exact ⟨hid, hsha, hcode, hretryable⟩

/-- A failure before any delivery is reported under its own code. -/
theorem failure_reported_undelivered :
    ∃ c, Lives sampleAbrRunner [] c ∧ (2, ⟨.reply (.event sampleEnd), true⟩) ∈ c.log ∧
      ∀ (P : Gateway.Platform) (settlement : PaidJobSettlement),
        validateAbrTerminal (nodePlatform P) (utf8Bytes (streamText (history 2 c.log))) settlement
          ⟨"workload", sampleSHA256, 0⟩ = .error (.abr "execution_failed" true) := by
  obtain ⟨c, hlives, hdisk, hlog⟩ := endedLog_lives
  have hwritten : (2, ⟨.reply (.event sampleEnd), true⟩) ∈ c.log := by
    rw [hlog]
    exact replayLog_written failCalls
  refine ⟨c, hlives, hwritten, ?_⟩
  intro P settlement
  obtain ⟨req, sha, record, failure, hserving, hread, -, hdata, hreported⟩ :=
    failure_reported hlives (List.mem_singleton_self _) hwritten rfl
  rw [hlog] at hserving
  rw [replayLog_serves hserving, hdisk] at hread
  cases sample_ended.2.2.symm.trans hread
  obtain ⟨hid, hsha, hcode, hretryable⟩ := failure_of_marshal hdata
  have hown := (hreported P settlement ⟨"workload", sampleSHA256, 0⟩ hid hsha).mpr (.inl rfl)
  rw [← hcode, ← hretryable] at hown
  exact hown

/-! ## A failure after a delivery -/

def latePrepared : PreparedRenditionV2 :=
  ⟨"360p", "360p.m3u8", "360p.mp4", sampleSHA256, sampleSHA256, some ⟨300, 1280, 720⟩, 10⟩

def lateDelivered : RenditionResultV2 := ⟨"360p", "360p.m3u8", "360p.mp4", some ⟨300, 1280, 720⟩, 10⟩

def preparedJournal : WorkloadJournalV2 :=
  { sampleJournal with prepared := sampleJournal.prepared.insert latePrepared.name latePrepared }

def deliveredJournal : WorkloadJournalV2 :=
  { preparedJournal with delivered := preparedJournal.delivered.insert lateDelivered.name lateDelivered }

def preparedDisk : Disk := sampleDisk.after (some preparedJournal)

def deliveredDisk : Disk := preparedDisk.after (some deliveredJournal)

def lateFailure : ABRTerminalErrorV2 := { sampleFailure with usage := ⟨abrWorkUnitV2, 277⟩ }

def lateEnd : StoredSSEEventV2 := ⟨1, "error", marshal lateFailure.value⟩

def lateJournal : WorkloadJournalV2 := deliveredJournal.failedWith lateEnd

def lateDisk : Disk := deliveredDisk.after (some lateJournal)

theorem latePrepared_fits : latePrepared.Fits := by
  refine ⟨?_, by decide⟩
  intro video hvideo
  cases hvideo
  exact ⟨by decide, by decide, by decide⟩

theorem late_performed :
    let P := sampleAbrRunner.toStorePlatform
    (Operation.savePrepared "workload" latePrepared).perform P noFaults sampleDisk =
        ⟨.ok (), some preparedJournal⟩ ∧
      (Operation.saveDelivered "workload" lateDelivered).perform P noFaults preparedDisk =
        ⟨.ok (), some deliveredJournal⟩ ∧
      (Operation.load "workload").perform P noFaults deliveredDisk = ⟨.ok deliveredJournal, none⟩ ∧
      (Operation.recordTerminalError "workload" lateFailure).perform P noFaults deliveredDisk =
        ⟨.ok lateEnd, some lateJournal⟩ ∧
      (Operation.loadOrCreate "workload" sampleSHA256).perform P noFaults lateDisk =
        ⟨.ok (lateJournal, .replayTerminal), none⟩ := by
  decide +kernel

def deliveringFailure : ReporterProg ExecutorOutcome :=
  .call (.prepared latePrepared latePrepared_fits) fun _ =>
    .call (.delivered lateDelivered latePrepared_fits) fun _ => .pure (.error none)

def lateCalls : List AbrEvent :=
  [⟨.begin sampleWorkload sampleSHA256, 0⟩, ⟨.store (.savePrepared "workload" latePrepared), .ok ()⟩,
    ⟨.store (.saveDelivered "workload" lateDelivered), .ok ()⟩, ⟨.contextErr 0, false⟩,
    loaded "workload" deliveredJournal, ⟨.store (.recordTerminalError "workload" lateFailure), .ok lateEnd⟩]

theorem lateCalls_reach :
    Reaches (running sampleAbrRunner sampleWorkload sampleSHA256 deliveringFailure) lateCalls failedProgram := by
  refine reaches_call (.begin sampleWorkload sampleSHA256) 0 ?_
  refine reaches_call (.store (.savePrepared "workload" latePrepared)) (.ok ()) ?_
  refine reaches_call (.store (.saveDelivered "workload" lateDelivered)) (.ok ()) ?_
  refine reaches_call (.contextErr 0) false ?_
  refine reaches_call (.store (.load "workload")) (.ok deliveredJournal) ?_
  refine reaches_call (.store (.recordTerminalError "workload" lateFailure)) (.ok lateEnd) ?_
  exact .refl _

theorem lateCalls_act : Acts (abrWorld sampleAbrRunner) subscribedState lateCalls (begunState lateDisk) := by
  obtain ⟨hprepared, hdelivered, hload, hends, -⟩ := late_performed
  refine .cons ⟨sampleSpawn, List.mem_singleton_self _, rfl, rfl, rfl⟩ ?_
  refine .cons (execute_store hprepared) ?_
  refine .cons (execute_store hdelivered) ?_
  refine .cons ⟨rfl, rfl⟩ ?_
  refine .cons (execute_read hload) ?_
  refine .cons (execute_store hends) ?_
  exact .nil _

theorem lateLog_lives : ∃ c, Lives sampleAbrRunner [] c ∧ c.log = replayLog lateCalls lateJournal lateEnd := by
  obtain ⟨-, -, -, -, hreplayed⟩ := late_performed
  obtain ⟨c, hlives, -, hlog⟩ := replayLog_lives lateCalls_reach lateCalls_act hreplayed rfl rfl (by decide)
  exact ⟨c, hlives, hlog⟩

/-- A retryable failure after a delivery of 277 units is reported as a malformed terminal. -/
theorem late_failure_lost : ∃ c, Lives sampleAbrRunner [] c ∧
    (2, ⟨.reply (.event lateEnd), true⟩) ∈ c.log ∧ lateEnd.data = marshal lateFailure.value ∧
    lateFailure.error.code = "execution_failed" ∧ lateFailure.error.retryable = true ∧
    ∀ (P : Gateway.Platform) (settlement : PaidJobSettlement),
      validateAbrTerminal (nodePlatform P) (utf8Bytes (streamText (history 2 c.log))) settlement
        ⟨"workload", sampleSHA256, 1000⟩ = .error (.abr "abr_terminal_invalid" false) := by
  obtain ⟨c, hlives, hlog⟩ := lateLog_lives
  have hwritten : (2, ⟨.reply (.event lateEnd), true⟩) ∈ c.log := by
    rw [hlog]
    exact replayLog_written lateCalls
  refine ⟨c, hlives, hwritten, rfl, rfl, rfl, ?_⟩
  intro P settlement
  have hvalid : validateABRTerminalErrorV2 lateFailure = .ok () := sampleFailure_valid
  obtain ⟨members, hmembers, htells⟩ := @tells_terminal sampleAbrRunner.toStorePlatform lateEnd (.error lateFailure) hvalid rfl rfl
  have hends : Ends lateEnd (history 2 c.log) := by
    rw [hlog, history_replayLog]
    intro stored hstored
    simp only [replayCalls, List.mem_cons, List.not_mem_nil, or_false] at hstored
    rcases hstored with hstored | hstored | hstored | hstored
    · cases hstored
    · cases hstored
    · cases hstored
    · cases hstored
      exact .inl rfl
  have hjson := @terminalJsonFromSse_stream P _ _ _ htells hends (mem_history.mpr hwritten)
  rw [← hmembers] at hjson
  exact validateAbrTerminal_failure (redacted_of_valid hvalid) hjson settlement rfl rfl

end LivepeerTranscode.Exchange
