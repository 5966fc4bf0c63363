import LivepeerTranscode.Exchange.TerminalStream
import LivepeerTranscode.Gateway.JobSettlement
import LivepeerTranscode.Gateway.RecoveryRequest
import LivepeerTranscode.Gateway.TerminalRenditions

/-!
# Terminals that are accepted

Which event streams of a runner both VOD services accept although the renditions they report are
not those of the ladder, and what becomes of such a terminal after its job was settled.
-/

namespace LivepeerTranscode.Exchange
open AbrRunner Gateway Interaction Checked JsonText
set_option autoImplicit false

section
variable (P : Gateway.Platform) (pg : Postgres)

/-- The terminals that are accepted have the requested renditions, and these can be completed,
when no name is repeated and exactly the video renditions have video; recovery needs besides
that the asset has one row for each of them. -/
theorem accepted_terminal_renditions :
    (∀ asset route h intent, Reaches (prepareAbr P asset route).run h (.pure (.ok intent)) →
      ∀ body settlement terminal, (intent.job P).Accepts body settlement terminal →
        (ExactRenditions intent.outputs.properties terminal ∧
            CompletesRenditions pg intent.rows intent.asset.id (intent.probe.durationSec.value.getD 0) terminal ↔
          terminal.names.Nodup ∧ terminal.MarksVideo)) ∧
    ∀ operation intent job, recoveredJob P operation intent = .ok job →
      ∀ body settlement terminal, job.Accepts body settlement terminal →
        (ExactRenditions intent.request.renditions.properties terminal ∧
            CompletesRenditions pg (rowsByResolution intent.renditions) intent.asset.id
              intent.durationSeconds terminal ↔
          terminal.names.Nodup ∧ terminal.MarksVideo ∧
            RowsRequested intent.request.renditions.properties (rowsByResolution intent.renditions)) := by
  constructor
  · rintro asset route h intent hrun body settlement terminal ⟨validate, hvalidate, haccepted⟩
    cases hvalidate
    have hprepared : Prepared P intent :=
      ((prepareAbr_prepares (h := [])).reaches hrun intent rfl).2
    rw [accepted_renditions_iff (terminalCheck_listed haccepted) intent.outputs.distinct]
    simp only [hprepared.ladder.rows_requested, and_true]
  · rintro operation intent job hjob body settlement terminal ⟨validate, hvalidate, haccepted⟩
    obtain ⟨route, units, -, -, rfl⟩ := recoveredJob_ok hjob
    cases hvalidate
    exact accepted_renditions_iff (terminalCheck_listed haccepted) intent.request.renditions.distinct

end

/-! ## A ladder of a second -/

def deliveredValue (name : String) (width height : Nat) : GoValue :=
  .obj [("name", .str name), ("playlist_uri", .str ("a1/" ++ name ++ "/playlist.m3u8")),
    ("stream_uri", .str ("a1/" ++ name ++ "/stream.mp4")),
    ("video", .obj [("actual_frames", .num (decimalLiteral 1)), ("width", .num (decimalLiteral width)),
      ("height", .num (decimalLiteral height))]),
    ("file_size_bytes", .num (decimalLiteral 1))]

def resultMembers (renditions : List GoValue) (units : Nat) : List (String × GoValue) :=
  [("schema", .str abrResultSchema), ("workload_id", .str "a1"),
    ("request_sha256", .str (vodPlatform.sha256Hex [])), ("outcome", .str "succeeded"),
    ("manifest_uri", .str "a1/master.m3u8"), ("renditions", .arr renditions),
    ("usage", .obj [("unit", .str abrWorkUnit), ("units", .num (decimalLiteral units))])]

def deliveredWire (name : String) (width height : ℚ) : TerminalRenditionWire :=
  ⟨name, "a1/" ++ name ++ "/playlist.m3u8", "a1/" ++ name ++ "/stream.mp4", some ⟨1, width, height⟩⟩

def deliveryTerminal (renditions : List TerminalRenditionWire) (units : Nat) : AbrTerminalResult :=
  ⟨"a1", vodPlatform.sha256Hex [], "a1/master.m3u8", renditions, units⟩

deriving instance DecidableEq for AbrDeliveredVideo, TerminalRenditionWire, AbrTerminalResult

def resultEvent (members : List (String × GoValue)) : StoredSSEEventV2 := ⟨1, "result", marshal (.obj members)⟩

def resultBody (members : List (String × GoValue)) : List UInt8 := utf8Bytes (writeSSEEventV2 (resultEvent members))

section
variable {P : Gateway.Platform} {members : List (String × GoValue)}

theorem resultBody_read
    (hschema : property "schema" (GoValue.node (.obj members)) = some (.str abrResultSchema)) :
    terminalJsonFromSse (nodePlatform P) (resultBody members) = .ok (GoValue.node (.obj members)) := by
  have hname : ("result" : String) = "progress" ∨ (resultEvent members).isTerminal := .inr (.inl rfl)
  have hplain : ∀ line ∈ eventLines (resultEvent members), PlainLine line := eventLines_plain rfl hname
  have htext : (nodePlatform P).utf8Text (resultBody members) =
      [eventLines (resultEvent members)].flatMap fun lines => blockText lines ++ ['\n', '\n'] := by
    rw [List.flatMap_singleton, ← writeSSEEventV2_lines]
    exact nodeText_utf8Bytes _
  have hblocks := @split_blocks [eventLines (resultEvent members)]
    (List.forall_mem_singleton.mpr ⟨eventLines_ne_nil _, hplain⟩)
  rw [terminalJsonFromSse, htext, hblocks, List.map_singleton, List.singleton_append,
    lastTerminal_event ⟨hname, rfl, hschema⟩, lastTerminal_empty rfl]
  rfl

end

def deliveryPlatform : Gateway.Platform := nodePlatform vodPlatform

def deliveryBytes (spec : RenditionSpec) : List UInt8 := [UInt8.ofNat (spec.bitrateKbps / 100)]

def deliveryIntent : AbrIntent :=
  ⟨vodAsset, vodRoute, vodProbe, vodAnswers.funding, rowsBy deliveryBytes (presets .baseline).renditions,
    vodAnswers.outputs, vodAnswers.manifest, vodAnswers.requestId, vodEncoded⟩

def deliveryReply : (e : Call) → e.Answer
  | .insertRendition value => .ok ⟨"rend_" ++ NodeText.hexText (deliveryBytes value.spec), value.spec.resolution⟩
  | e => vodReply e

set_option maxRecDepth 100000 in
theorem deliveryIntent_prepared :
    ∃ h, Reaches (prepareAbr deliveryPlatform vodAsset vodRoute).run h (.pure (.ok deliveryIntent)) := by
  have houtcome : (prepareAbr deliveryPlatform vodAsset vodRoute).run.outcome deliveryReply = .ok deliveryIntent := by
    with_unfolding_all rfl
  exact ⟨_, houtcome ▸ reaches_outcome deliveryReply (prepareAbr deliveryPlatform vodAsset vodRoute).run⟩

def deliveredMembers : List (String × GoValue) :=
  resultMembers [deliveredValue "720p" 1280 720, deliveredValue "480p" 854 480, deliveredValue "360p" 640 360] 2

def deliveredTerminal : AbrTerminalResult :=
  deliveryTerminal [deliveredWire "720p" 1280 720, deliveredWire "480p" 854 480, deliveredWire "360p" 640 360] 2

def repeatedMembers : List (String × GoValue) :=
  resultMembers [deliveredValue "720p" 1280 720, deliveredValue "720p" 1280 720, deliveredValue "480p" 854 480] 3

def repeatedTerminal : AbrTerminalResult :=
  deliveryTerminal [deliveredWire "720p" 1280 720, deliveredWire "720p" 1280 720, deliveredWire "480p" 854 480] 3

def deliverySettlement (units : Nat) : PaidJobSettlement := ⟨"job-1", units, abrWorkUnit, "SETTLED", sampleEnvelope⟩

theorem terminalCheck_accepts {P : Gateway.Platform} {message : String} {expected : TerminalExpectation}
    {manifest : JsString} {requested : List (JsString × AbrDestinations)} {body : List UInt8}
    {settlement : PaidJobSettlement} {candidate : JsonValue} {terminal : AbrTerminalResult}
    (hread : terminalJsonFromSse P body = .ok candidate) (herror : (terminalErrorWire candidate).isNone = true)
    (hwire : terminalWire candidate = some terminal)
    (hsame : ¬ (terminal.workloadId ≠ expected.workloadId ∨ terminal.requestSha256 ≠ expected.requestSha256 ∨
      terminal.units ≠ settlement.actualUnits ∨ abrWorkUnit ≠ settlement.workUnit))
    (husage : (reconcileAbrUsage (terminal.renditions.map fun rendition => ⟨rendition.name, rendition.video⟩)
      settlement.workUnit settlement.actualUnits expected.maximumUnits).isOk = true)
    (hcoordinates : ¬ (js terminal.manifestUri ≠ manifest ∨ terminal.renditions.length ≠ requested.length ∨
      ¬ terminal.renditions.all (coordinatesMatch requested))) :
    (terminalCheck P message expected manifest requested body settlement).run = .pure (.ok terminal) := by
  have hvalid : validateAbrTerminal P body settlement expected = .ok terminal := by
    cases hreconciled : reconcileAbrUsage (terminal.renditions.map fun rendition =>
        ⟨rendition.name, rendition.video⟩) settlement.workUnit settlement.actualUnits expected.maximumUnits with
    | error e =>
      rw [hreconciled] at husage
      cases husage
    | ok usage =>
      simp only [validateAbrTerminal, hread, Option.isNone_iff_eq_none.mp herror, hwire, failWhen, if_neg hsame,
        hreconciled, bind, Except.bind, Except.mapError, pure, Except.pure]
  have hchecked : validateCoordinates message manifest requested terminal = .ok () :=
    failWhen_ok_iff.mpr hcoordinates
  unfold terminalCheck
  rw [hvalid]
  change ((validateCoordinates message manifest requested terminal : GatewayProg Unit) >>= fun _ =>
    pure terminal).run = _
  rw [hchecked]
  rfl

section
variable (message : String)

theorem delivered_accepted :
    (terminalCheck deliveryPlatform message ⟨"a1", vodPlatform.sha256Hex [], 5⟩ (js vodAnswers.manifest.storageKey)
      vodAnswers.outputs.properties (resultBody deliveredMembers) (deliverySettlement 2)).run =
      .pure (.ok deliveredTerminal) :=
  terminalCheck_accepts (resultBody_read rfl) (by decide +kernel) (by decide +kernel) (by decide +kernel)
    (by decide +kernel) (by decide +kernel)

theorem repeated_accepted :
    (terminalCheck deliveryPlatform message ⟨"a1", vodPlatform.sha256Hex [], 5⟩ (js vodAnswers.manifest.storageKey)
      vodAnswers.outputs.properties (resultBody repeatedMembers) (deliverySettlement 3)).run =
      .pure (.ok repeatedTerminal) :=
  terminalCheck_accepts (resultBody_read rfl) (by decide +kernel) (by decide +kernel) (by decide +kernel)
    (by decide +kernel) (by decide +kernel)

end

def deliveryRecovered : RecoveredIntent :=
  ⟨vodRetaken.claim, vodRetaken.requestId, vodEncoded, vodRequest, vodAsset, 1,
    [⟨"rend_19", .p720⟩, ⟨"rend_0a", .p480⟩, ⟨"rend_06", .p360⟩], "job_1"⟩

theorem accepted_terminal_renditions_delivered :
    (∃ h, Reaches (prepareAbr deliveryPlatform vodAsset vodRoute).run h (.pure (.ok deliveryIntent)) ∧
      ExactRenditions deliveryIntent.outputs.properties deliveredTerminal ∧
      CompletesRenditions plainPostgres deliveryIntent.rows "a1" 1 deliveredTerminal) ∧
    ∃ job, recoveredJob deliveryPlatform vodOperation deliveryRecovered = .ok job ∧
      job.Accepts (resultBody deliveredMembers) (deliverySettlement 2) deliveredTerminal ∧
      CompletesRenditions plainPostgres (rowsByResolution deliveryRecovered.renditions) "a1" 1 deliveredTerminal := by
  have hnames : deliveredTerminal.names.Nodup := by decide +kernel
  have hvideo : deliveredTerminal.MarksVideo := by
    unfold AbrTerminalResult.MarksVideo
    decide +kernel
  constructor
  · obtain ⟨h, hrun⟩ := deliveryIntent_prepared
    have hrenditions := ((accepted_terminal_renditions deliveryPlatform plainPostgres).1 _ _ _ _ hrun _ _ _
      ⟨_, rfl, delivered_accepted _⟩).mpr ⟨hnames, hvideo⟩
    exact ⟨h, hrun, hrenditions⟩
  · have hjob : ∃ job, recoveredJob deliveryPlatform vodOperation deliveryRecovered = .ok job ∧
        job.Accepts (resultBody deliveredMembers) (deliverySettlement 2) deliveredTerminal := by
      have hroute : routeFrom vodOperation = .ok vodRetaken.route := rfl
      have hunits : uint vodOperation.fundedUnits = .ok 5 := by decide +kernel
      simp only [recoveredJob, hroute, hunits, bind, Except.bind, pure, Except.pure, Except.ok.injEq,
        exists_eq_left']
      exact ⟨_, rfl, delivered_accepted _⟩
    obtain ⟨job, hjob, haccepts⟩ := hjob
    have hrows : RowsRequested vodRequest.renditions.properties (rowsByResolution deliveryRecovered.renditions) := by
      unfold RowsRequested
      decide +kernel
    exact ⟨job, hjob, haccepts, (((accepted_terminal_renditions deliveryPlatform plainPostgres).2 _ _ _ hjob _ _ _
      haccepts).mpr ⟨hnames, hvideo, hrows⟩).2⟩

def queuedRow : RenditionRow := ⟨"a1", "queued", none, none, none⟩

def deliveryRows : Table RenditionRow :=
  ((AList.singleton "rend_19" queuedRow).insert "rend_0a" queuedRow).insert "rend_06" queuedRow

/-- A terminal with one rendition twice is accepted; once its job is settled, the row of that
rendition is completed twice. -/
theorem repeated_rendition_accepted :
    (∃ h, Reaches (prepareAbr deliveryPlatform vodAsset vodRoute).run h (.pure (.ok deliveryIntent))) ∧
    (deliveryIntent.job deliveryPlatform).Accepts (resultBody repeatedMembers) (deliverySettlement 3) repeatedTerminal ∧
    repeatedTerminal.names = ["720p", "720p", "480p"] ∧
    ¬ ExactRenditions deliveryIntent.outputs.properties repeatedTerminal ∧
    WaitingRows deliveryRows "a1" deliveryIntent.rows ∧
    ∃ completed, completedRenditions deliveryIntent.rows 1 repeatedTerminal = some completed ∧
      completed.length = deliveryIntent.rows.length ∧
      ∀ value : PaidVodTerminal, value.assetId = "a1" → completeRenditions plainPostgres value completed deliveryRows =
        .error (.error "terminal rendition identity mismatch") := by
  refine ⟨deliveryIntent_prepared, ⟨_, rfl, repeated_accepted _⟩, rfl, ?_, ?_, ?_⟩
  · rintro ⟨hperm, -⟩
    have hnodup := hperm.nodup_iff.mpr deliveryIntent.outputs.distinct
    revert hnodup
    decide +kernel
  · refine ⟨by decide +kernel, ?_⟩
    intro row hrow
    have hrows : deliveryIntent.rows = [("720p", "rend_19"), ("480p", "rend_0a"), ("360p", "rend_06")] := by
      decide +kernel
    rw [hrows] at hrow
    simp only [List.mem_cons, List.not_mem_nil, or_false] at hrow
    rcases hrow with rfl | rfl | rfl <;> exact ⟨_, rfl, rfl, .inl rfl⟩
  · refine ⟨_, rfl, rfl, ?_⟩
    rintro ⟨assetId⟩ rfl
    rfl

end LivepeerTranscode.Exchange
