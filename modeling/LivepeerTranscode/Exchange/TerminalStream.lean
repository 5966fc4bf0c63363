import LivepeerTranscode.AbrRunner.EventStream
import LivepeerTranscode.Gateway.AbrTerminal

/-!
# The terminal event of a runner, read by the gateway

A response of the runner that has told the end of its workload, in whatever batches and with
whatever comments in between, is read by the gateway as the JSON value of the journal's
terminal event. The encoder leaves no line ends in its texts, so the blocks and the lines the
gateway splits the stream into are the events and the lines the runner has written.
-/

namespace LivepeerTranscode.Exchange
open AbrRunner Gateway Interaction Actors Checked GoText JsonText
set_option autoImplicit false

variable {lines : List (List Char)} {members : List (String × GoValue)} {record : WorkloadJournalV2}

/-- The gateway's platform, with Node's own readers of bytes and of JSON. -/
def nodePlatform (P : Gateway.Platform) : Gateway.Platform :=
  { P with utf8Text := nodeText, parse := jsonParse }

/-! ## Splitting -/

theorem afterBlock_newline (c : Char) (text : List Char) (hnewline : c ≠ '\n') (hreturn : c ≠ '\r') :
    afterBlock ('\n' :: c :: text) = none := by
  unfold afterBlock
  split <;> simp_all

theorem blockText_single (line : List Char) : blockText [line] = line := by
  simp [blockText, List.intercalate]

theorem blockText_cons (first next : List Char) (rest : List (List Char)) :
    blockText (first :: next :: rest) = first ++ '\n' :: blockText (next :: rest) := by
  simp [blockText, List.intercalate]

theorem blockText_head {first : List Char} {rest : List (List Char)} (h : PlainLine first) :
    ∃ c text, blockText (first :: rest) = c :: text ∧ c ≠ '\n' ∧ c ≠ '\r' := by
  obtain ⟨hne, hplain⟩ := h
  cases first with
  | nil => exact absurd rfl hne
  | cons c text =>
    have hc := hplain c List.mem_cons_self
    cases rest with
    | nil => exact ⟨c, text, blockText_single _, hc⟩
    | cons next rest => exact ⟨c, _, blockText_cons _ _ _, hc⟩

theorem splitText_lines (hne : lines ≠ []) (hplain : ∀ line ∈ lines, PlainLine line)
    (fuel : Nat) : splitText afterLine ((blockText lines).length + (fuel + 1)) [] (blockText lines) = lines := by
  induction lines with
  | nil => exact absurd rfl hne
  | cons first rest ih =>
    have hfirst := (hplain first List.mem_cons_self).2
    cases rest with
    | nil =>
      have hwalk := splitText_plain afterLine_plain hfirst (fuel + 1) [] []
      rw [List.append_nil] at hwalk
      rw [blockText_single, hwalk]
      rfl
    | cons next rest =>
      have hlength : (blockText (first :: next :: rest)).length + (fuel + 1) =
          first.length + ((blockText (next :: rest)).length + (fuel + 1) + 1) := by
        rw [blockText_cons, List.length_append, List.length_cons]
        omega
      have hcut : afterLine ('\n' :: blockText (next :: rest)) = some (blockText (next :: rest)) := rfl
      rw [hlength, blockText_cons, splitText_plain afterLine_plain hfirst, splitText_cut hcut,
        ih nofun fun line hline => hplain line (List.mem_cons_of_mem _ hline)]
      rfl

theorem split_lines (hne : lines ≠ []) (hplain : ∀ line ∈ lines, PlainLine line) :
    split afterLine (blockText lines) = lines :=
  splitText_lines hne hplain 0

theorem splitText_block (hne : lines ≠ []) (hplain : ∀ line ∈ lines, PlainLine line)
    (fuel : Nat) (piece rest : List Char) :
    splitText afterBlock ((blockText lines).length + (fuel + 1)) piece (blockText lines ++ '\n' :: '\n' :: rest) =
      (piece ++ blockText lines) :: splitText afterBlock fuel [] rest := by
  induction lines generalizing piece with
  | nil => exact absurd rfl hne
  | cons first others ih =>
    have hfirst := (hplain first List.mem_cons_self).2
    cases others with
    | nil =>
      have hcut : afterBlock ('\n' :: '\n' :: rest) = some rest := rfl
      rw [blockText_single, splitText_plain afterBlock_plain hfirst, splitText_cut hcut]
    | cons next others =>
      have hothers : ∀ line ∈ next :: others, PlainLine line :=
        fun line hline => hplain line (List.mem_cons_of_mem _ hline)
      have hlength : (blockText (first :: next :: others)).length + (fuel + 1) =
          first.length + ((blockText (next :: others)).length + (fuel + 1) + 1) := by
        rw [blockText_cons, List.length_append, List.length_cons]
        omega
      obtain ⟨c, text, hhead, hnewline, hreturn⟩ := @blockText_head next others (hothers next List.mem_cons_self)
      have hskip : afterBlock ('\n' :: (blockText (next :: others) ++ '\n' :: '\n' :: rest)) = none := by
        rw [hhead, List.cons_append]
        exact afterBlock_newline c _ hnewline hreturn
      rw [hlength, blockText_cons, List.append_assoc, List.cons_append,
        splitText_plain afterBlock_plain hfirst, splitText_skip hskip, ih nofun hothers]
      simp only [List.append_assoc, List.singleton_append]

theorem split_blocks {blocks : List (List (List Char))}
    (hblocks : ∀ lines ∈ blocks, lines ≠ [] ∧ ∀ line ∈ lines, PlainLine line) :
    split afterBlock (blocks.flatMap fun lines => blockText lines ++ ['\n', '\n']) =
      blocks.map blockText ++ [[]] := by
  suffices hall : ∀ fuel, (blocks.flatMap fun lines => blockText lines ++ ['\n', '\n']).length < fuel →
      splitText afterBlock fuel [] (blocks.flatMap fun lines => blockText lines ++ ['\n', '\n']) =
        blocks.map blockText ++ [[]] from hall _ (Nat.lt_succ_self _)
  induction blocks with
  | nil =>
    intro fuel hfuel
    cases fuel with
    | zero => cases hfuel
    | succ fuel => rfl
  | cons lines blocks ih =>
    intro fuel hfuel
    obtain ⟨hne, hplain⟩ := hblocks lines List.mem_cons_self
    rw [List.flatMap_cons] at hfuel ⊢
    simp only [List.length_append, List.length_cons, List.length_nil] at hfuel
    obtain ⟨more, rfl⟩ : ∃ more, fuel = (blockText lines).length + (more + 1) :=
      ⟨fuel - (blockText lines).length - 1, by omega⟩
    rw [List.append_assoc, List.cons_append, List.cons_append, List.nil_append, splitText_block hne hplain,
      ih (fun lines hlines => hblocks lines (List.mem_cons_of_mem _ hlines)) more (by omega),
      List.nil_append, List.map_cons, List.cons_append]

/-! ## Events -/

theorem blockData_lines (hne : lines ≠ []) (hplain : ∀ line ∈ lines, PlainLine line) :
    blockData (blockText lines) = blockText (lines.filterMap dataLine) := by
  rw [blockData, split_lines hne hplain, blockText]

theorem eventLines_ne_nil (stored : StoredSSEEventV2) : eventLines stored ≠ [] := List.cons_ne_nil _ _

theorem blockData_event {stored : StoredSSEEventV2}
    (hdata : stored.data = marshal (.obj members)) (hname : stored.event = "progress" ∨ stored.isTerminal) :
    blockData (blockText (eventLines stored)) = stored.data := by
  have hspace : (' ' :: stored.data).dropWhile jsSpace = stored.data := by
    rw [hdata, marshal, write]
    rfl
  have hlines : (eventLines stored).filterMap dataLine = [(' ' :: stored.data).dropWhile jsSpace] := rfl
  rw [blockData_lines (eventLines_ne_nil stored) (eventLines_plain hdata hname), hlines, hspace, blockText_single]

theorem blockData_comment : blockData (blockText commentLines) = [] :=
  blockData_lines (List.cons_ne_nil _ _) commentLines_plain

structure Tells (stored : StoredSSEEventV2) (schema : String) (members : List (String × GoValue)) : Prop where
  named : stored.event = "progress" ∨ stored.isTerminal
  data : stored.data = marshal (.obj members)
  schema : property "schema" (GoValue.node (.obj members)) = some (.str schema)

theorem marshal_obj_ne_nil (members : List (String × GoValue)) : marshal (.obj members) ≠ [] := by
  rw [marshal, write]
  exact List.cons_ne_nil _ _

section
variable {P : Gateway.Platform} {stored : StoredSSEEventV2} {schema : String} {members : List (String × GoValue)}
  {rest : List (List Char)} {terminal : Option JsonValue}

theorem lastTerminal_event (h : Tells stored schema members) :
    lastTerminal (nodePlatform P) (blockText (eventLines stored) :: rest) terminal =
      lastTerminal (nodePlatform P) rest
        (if schema = abrResultSchema then some (GoValue.node (.obj members)) else terminal) := by
  have hparse : (nodePlatform P).parse stored.data = some (GoValue.node (.obj members)) := by
    rw [h.data]
    exact jsonParse_marshal _
  have hne : stored.data ≠ [] := by
    rw [h.data]
    exact marshal_obj_ne_nil members
  simp only [lastTerminal, blockData_event h.data h.named, if_neg hne, hparse, h.schema]

theorem lastTerminal_empty {block : List Char} (h : blockData block = []) :
    lastTerminal (nodePlatform P) (block :: rest) terminal = lastTerminal (nodePlatform P) rest terminal := by
  simp only [lastTerminal, h, if_true]

end

/-! ## Responses -/

/-- All the events that were written, but for one that ends the workload, tell of progress. -/
def Ends (final : StoredSSEEventV2) (calls : List AbrEvent) : Prop :=
  ∀ stored, (⟨.reply (.event stored), true⟩ : AbrEvent) ∈ calls →
    stored = final ∨ ∃ schema members, Tells stored schema members ∧ schema ≠ abrResultSchema

section
variable {P : Gateway.Platform} {final : StoredSSEEventV2} {members : List (String × GoValue)}
  {calls : List AbrEvent} {call : AbrEvent} {terminal : Option JsonValue}

/-- What a call adds to a stream: nothing, a comment or an event. -/
theorem streamBlock_cases (call : AbrEvent) :
    streamBlock call = none ∨ streamBlock call = some commentLines ∨
      ∃ stored, call = ⟨.reply (.event stored), true⟩ ∧ streamBlock call = some (eventLines stored) := by
  unfold streamBlock
  split
  · exact .inr (.inr ⟨_, rfl, rfl⟩)
  · exact .inr (.inl rfl)
  · exact .inl rfl

theorem Ends.tail (h : Ends final (call :: calls)) : Ends final calls :=
  fun stored hstored => h stored (List.mem_cons_of_mem _ hstored)

/-- The loop over the blocks of a stream: once the final event was read its value is held. -/
theorem lastTerminal_stream (hfinal : Tells final abrResultSchema members) (hends : Ends final calls)
    (hheld : terminal = some (GoValue.node (.obj members)) ∨ (⟨.reply (.event final), true⟩ : AbrEvent) ∈ calls) :
    lastTerminal (nodePlatform P) ((calls.filterMap streamBlock).map blockText ++ [[]]) terminal =
      .ok (some (GoValue.node (.obj members))) := by
  induction calls generalizing terminal with
  | nil =>
    rcases hheld with rfl | hmem
    · exact lastTerminal_empty rfl
    · cases hmem
  | cons call calls ih =>
    have hquiet : (∀ stored, call ≠ ⟨.reply (.event stored), true⟩) →
        terminal = some (GoValue.node (.obj members)) ∨ (⟨.reply (.event final), true⟩ : AbrEvent) ∈ calls := by
      intro hcall
      rcases hheld with hheld | hmem
      · exact .inl hheld
      · rcases List.mem_cons.mp hmem with rfl | hmem
        · exact absurd rfl (hcall final)
        · exact .inr hmem
    rcases streamBlock_cases call with hblock | hblock | ⟨stored, rfl, hblock⟩
    · rw [List.filterMap_cons_none hblock]
      refine ih hends.tail (hquiet ?_)
      rintro stored rfl
      cases hblock
    · rw [List.filterMap_cons_some hblock, List.map_cons, List.cons_append,
        lastTerminal_empty blockData_comment]
      refine ih hends.tail (hquiet ?_)
      rintro stored rfl
      cases hblock
    · rw [List.filterMap_cons_some hblock, List.map_cons, List.cons_append]
      by_cases hstored : stored = final
      · subst hstored
        rw [lastTerminal_event hfinal, if_pos rfl]
        exact ih hends.tail (.inl rfl)
      · obtain hsame | ⟨schema, others, htells, hschema⟩ := hends stored List.mem_cons_self
        · exact absurd hsame hstored
        · rw [lastTerminal_event htells, if_neg hschema]
          refine ih hends.tail ?_
          rcases hheld with hheld | hmem
          · exact .inl hheld
          · rcases List.mem_cons.mp hmem with heq | hmem
            · cases heq
              exact absurd rfl hstored
            · exact .inr hmem

theorem streamBlocks_plain (hfinal : Tells final abrResultSchema members) (hends : Ends final calls) :
    ∀ lines ∈ calls.filterMap streamBlock, lines ≠ [] ∧ ∀ line ∈ lines, PlainLine line := by
  intro lines hlines
  obtain ⟨call, hcall, hblock⟩ := List.mem_filterMap.mp hlines
  rcases streamBlock_cases call with hnone | hcomment | ⟨stored, rfl, hevent⟩
  · rw [hnone] at hblock
    cases hblock
  · rw [hcomment] at hblock
    cases hblock
    exact ⟨List.cons_ne_nil _ _, commentLines_plain⟩
  · rw [hevent] at hblock
    cases hblock
    refine ⟨eventLines_ne_nil stored, ?_⟩
    rcases hends stored hcall with rfl | ⟨schema, others, htells, -⟩
    · exact eventLines_plain hfinal.data hfinal.named
    · exact eventLines_plain htells.data htells.named

theorem terminalJsonFromSse_stream (hfinal : Tells final abrResultSchema members) (hends : Ends final calls)
    (hwritten : (⟨.reply (.event final), true⟩ : AbrEvent) ∈ calls) :
    terminalJsonFromSse (nodePlatform P) (utf8Bytes (streamText calls)) = .ok (GoValue.node (.obj members)) := by
  have htext : (nodePlatform P).utf8Text (utf8Bytes (streamText calls)) = streamText calls :=
    nodeText_utf8Bytes _
  rw [terminalJsonFromSse, htext, streamText_blocks, split_blocks (streamBlocks_plain hfinal hends),
    lastTerminal_stream hfinal hends (.inr hwritten)]
  rfl

end

/-! ## What the runner writes -/

section
variable {P : StorePlatform} {stored : StoredSSEEventV2}

theorem tells_object {schema : String} (hname : stored.event = "progress" ∨ stored.isTerminal)
    (hdata : stored.data = marshal (.obj (("schema", .str schema) :: members)))
    (hnodup : ("schema" :: members.map Prod.fst).Nodup) : Tells stored schema (("schema", .str schema) :: members) := by
  refine ⟨hname, hdata, ?_⟩
  rw [node_obj, List.map_cons, property, List.lookup_cons_self]
  · rfl
  · exact hnodup

theorem tells_progress (h : stored.IsProgress P) : ∃ members, Tells stored abrProgressSchemaV2 members := by
  obtain ⟨hname, progress, value, hschema, hvalue, hdata⟩ := h
  obtain ⟨percent, -, rfl⟩ := Option.map_eq_some_iff.mp hvalue
  rw [hschema] at hdata
  refine ⟨_, tells_object (.inl hname) hdata ?_⟩
  split_ifs <;> simp

theorem tells_terminal {event : TerminalEventV2} (hvalid : event.Valid P) (hname : stored.event = event.name)
    (hdata : stored.data = marshal event.value) :
    ∃ members, event.value = .obj members ∧ Tells stored abrResultSchema members := by
  cases event with
  | result success =>
    obtain ⟨_, hschema, -⟩ := ok_bind_iff.mp hvalid
    have hschema := not_not.mp (not_or.mp (deny_ok_iff.mp hschema)).1
    rw [TerminalEventV2.value, ABRTerminalResultV2.value, hschema] at hdata ⊢
    exact ⟨_, rfl, tells_object (.inr (.inl hname)) hdata (by simp)⟩
  | error failure =>
    obtain ⟨_, hschema, -⟩ := ok_bind_iff.mp hvalid
    have hschema := not_not.mp (not_or.mp (deny_ok_iff.mp hschema)).1
    rw [TerminalEventV2.value, ABRTerminalErrorV2.value, hschema] at hdata ⊢
    exact ⟨_, rfl, tells_object (.inr (.inr hname)) hdata (by simp)⟩

end

section
variable {runner : Runner} {past : List (List (Nat × AbrEvent))} {c : AbrScene} {log : List (Nat × AbrEvent)}
  {n : Nat} {stored : StoredSSEEventV2}

theorem recorded_end (h : Lives runner past c) {workloadID : String}
    (hread : c.shared.disk.read workloadID = some record) (hstored : record.terminalEvent = some stored) :
    ∃ event : TerminalEventV2, event.Valid runner.toStorePlatform ∧ stored.event = event.name ∧
      stored.data = marshal event.value ∧ event.Reports runner.toStorePlatform record := by
  obtain ⟨appended, hsound⟩ := h.runs.diskSound
  have hrecord := (hsound.read hread).2.2
  have hstate : record.state ≠ .inProgress := by
    intro hstate
    rw [hrecord.running hstate] at hstored
    cases hstored
  obtain ⟨event, hvalid, -, hevent, hreports⟩ := hrecord.ended hstate
  rw [hevent] at hstored
  cases hstored
  exact ⟨event, hvalid, rfl, rfl, hreports⟩

theorem response_ends (h : Lives runner past c) (hlog : log ∈ past ++ [c.log]) {req : ABRWorkloadRequestV2}
    {requestSHA256 : String} (hserving : Serving runner (history n log) req requestSHA256)
    (hread : c.shared.disk.read req.workloadID = some record)
    (hstored : record.terminalEvent = some stored) : Ends stored (history n log) := by
  intro other hother
  obtain ⟨req', sha', hserving', hprogress | ⟨record', hread', hother'⟩⟩ := h.streamed hlog (mem_history.mp hother)
  · obtain ⟨members, htells⟩ := tells_progress hprogress
    exact .inr ⟨_, members, htells, by decide⟩
  · rw [← List.append_nil (history n log)] at hserving
    obtain ⟨rfl, rfl⟩ := hserving.unique hserving'
    rw [hread] at hread'
    cases hread'
    rw [hstored] at hother'
    exact .inl (Option.some.inj hother').symm

/-- Whatever a response has written before and after, the gateway reads the JSON value of the
terminal event the journal has. -/
theorem terminal_event_read (h : Lives runner past c) (hlog : log ∈ past ++ [c.log])
    (hwritten : (n, ⟨.reply (.event stored), true⟩) ∈ log) (hterminal : stored.isTerminal) (P : Gateway.Platform) :
    ∃ req requestSHA256 record value, Serving runner (history n log) req requestSHA256 ∧
      c.shared.disk.read req.workloadID = some record ∧ record.terminalEvent = some stored ∧
      jsonParse stored.data = some value ∧
      terminalJsonFromSse (nodePlatform P) (utf8Bytes (streamText (history n log))) = .ok value := by
  obtain ⟨req, requestSHA256, hserving, hprogress | ⟨record, hread, hstored⟩⟩ := h.streamed hlog hwritten
  · exact absurd hterminal hprogress.not_terminal
  obtain ⟨event, hvalid, hname, hdata, -⟩ := recorded_end h hread hstored
  obtain ⟨members, -, htells⟩ := tells_terminal hvalid hname hdata
  refine ⟨req, requestSHA256, record, _, hserving, hread, hstored, ?_,
    terminalJsonFromSse_stream htells (response_ends h hlog hserving hread hstored) (mem_history.mpr hwritten)⟩
  rw [htells.data]
  exact jsonParse_marshal _

/-- From whatever life of the runner a response for a workload comes, the gateway reads the same end. -/
theorem responses_read_alike (h : Lives runner past c) (P : Gateway.Platform) (workloadID : String) :
    ∃ value, ∀ log ∈ past ++ [c.log], ∀ n req requestSHA256 stored,
      Serving runner (history n log) req requestSHA256 → req.workloadID = workloadID →
      (n, ⟨.reply (.event stored), true⟩) ∈ log → stored.isTerminal →
        terminalJsonFromSse (nodePlatform P) (utf8Bytes (streamText (history n log))) = .ok value := by
  refine ⟨(((c.shared.disk.read workloadID).bind (·.terminalEvent)).bind (jsonParse ·.data)).getD .null, ?_⟩
  intro log hlog n req requestSHA256 stored hserving hid hwritten hterminal
  subst hid
  obtain ⟨record, hread, hstored⟩ :=
    h.told_event ⟨log, hlog, n, req, requestSHA256, true, hserving, rfl, hwritten⟩ hterminal
  obtain ⟨event, hvalid, hname, hdata, -⟩ := recorded_end h hread hstored
  obtain ⟨members, -, htells⟩ := tells_terminal hvalid hname hdata
  rw [terminalJsonFromSse_stream htells (response_ends h hlog hserving hread hstored) (mem_history.mpr hwritten),
    hread, Option.bind_some, hstored, Option.bind_some, htells.data, jsonParse_marshal]
  rfl

end

/-- The failure of a workload, as the response of a later request tells it. -/
theorem terminal_event_read_failure : ∃ c, Lives sampleAbrRunner [] c ∧
    (2, ⟨.reply (.event sampleEnd), true⟩) ∈ c.log ∧ sampleEnd.isTerminal ∧ ∀ P : Gateway.Platform,
      ∃ value, jsonParse sampleEnd.data = some value ∧
        terminalJsonFromSse (nodePlatform P) (utf8Bytes (streamText (history 2 c.log))) = .ok value := by
  obtain ⟨c, hlives, -, hlog⟩ := endedLog_lives
  have hwritten : (2, ⟨.reply (.event sampleEnd), true⟩) ∈ c.log := by
    rw [hlog]
    exact replayLog_written failCalls
  refine ⟨c, hlives, hwritten, .inr rfl, ?_⟩
  intro P
  obtain ⟨-, -, -, value, -, -, -, hparse, hread⟩ :=
    terminal_event_read hlives (List.mem_singleton_self _) hwritten (.inr rfl) P
  exact ⟨value, hparse, hread⟩

theorem responses_read_alike_failure : ∃ c, Lives sampleAbrRunner [] c ∧ ∀ P : Gateway.Platform,
    ∃ value, terminalJsonFromSse (nodePlatform P) (utf8Bytes (streamText (history 2 c.log))) = .ok value := by
  obtain ⟨c, hlives, -, hlog⟩ := endedLog_lives
  refine ⟨c, hlives, fun P => ?_⟩
  obtain ⟨value, hvalue⟩ := responses_read_alike hlives P "workload"
  refine ⟨value, hvalue c.log (List.mem_singleton_self _) 2 sampleWorkload sampleSHA256 sampleEnd ?_ rfl ?_ (.inr rfl)⟩
  · rw [hlog]
    exact ⟨sampleArrival, rfl, sampleArrival_admitted⟩
  · rw [hlog]
    exact replayLog_written failCalls

end LivepeerTranscode.Exchange
