import LivepeerTranscode.AbrRunner.Contract
import LivepeerTranscode.Gateway.AbrExchange

/-!
# One request, two hashes

The gateway hashes the bytes it sends; the runner decodes them and hashes its own canonical
encoding of what it decoded. Both texts are read by the same JSON reader, so equal bytes mean
equal documents; from there the two encoders differ in three ways only: the order of the
renditions, the line separators, and surrogates that stand alone.
-/

namespace LivepeerTranscode.Gateway
open JsonText AbrRunner
set_option autoImplicit false

variable {parsed : ParsedAbrRequest} {s : JsString} {req : ABRWorkloadRequestV2}
  {value : AbrExchangeRequest}

/-! ## Reading both texts -/

theorem jsQuote_read (s : JsString) :
    ∃ body, jsQuote s = '"' :: body ∧ ∀ rest, jsRead (body ++ rest) = some (s, rest) := by
  refine ⟨(codePoints s).flatMap jsEscape ++ ['"'], rfl, ?_⟩
  intro rest
  rw [List.append_assoc]
  exact jsRead_codePoints s rest

theorem goQuote_read (text : String) :
    ∃ body, goQuote false text = '"' :: body ∧ ∀ rest, jsRead (body ++ rest) = some (js text, rest) := by
  refine ⟨text.toList.flatMap (goEscapeChar false) ++ ['"'], rfl, ?_⟩
  intro rest
  rw [List.append_assoc]
  exact jsRead_goEscape false text.toList rest

theorem plainQuote_read (text : String) : ∃ body, jsQuote (js text) = '"' :: body ∧
    ∀ rest, goReadString (body ++ rest) = some (text, rest) := by
  refine ⟨text.toList.flatMap escapeChar ++ ['"'], jsQuote_utf16 text.toList, ?_⟩
  intro rest
  rw [List.append_assoc, goReadString]
  change Option.map _ (goRead (text.toList.flatMap escapeChar ++ '"' :: rest)) = _
  rw [goRead_escape]
  simp

theorem document_of_text_eq {sent : JsDocument} {doc : GoDocument}
    (h : write (goQuote false) Empty.elim doc = write jsQuote Empty.elim sent) :
    sent = doc.map js fun n => n := by
  have hsent := parseDocument_strings jsQuote_read sent
  have hdoc := parseDocument_strings goQuote_read doc
  rw [h, hsent, map_eq_self sent fun _ _ => rfl] at hdoc
  exact Option.some.inj hdoc

theorem goDocument_sent (doc : GoDocument) :
    goDocument (utf8Bytes (write jsQuote Empty.elim (doc.map js fun n => n))) = some doc := by
  have hread := parseDocument_strings plainQuote_read doc
  rw [map_eq_self doc fun _ _ => rfl] at hread
  rw [goDocument, runes_utf8Bytes, write_map]
  exact hread

theorem map_js_goText {sent : JsDocument} (h : ∀ s ∈ sent.strings, WellFormed s) :
    (sent.map goText fun n => n).map js (fun n => n) = sent := by
  rw [map_map, map_eq_self]
  intro s hs
  exact js_goText (h s hs)

/-! ## Where the bytes agree -/

/-- The condition under which the runner hashes the bytes the gateway sent: no surrogate
stands alone, no string holds a line separator, and the renditions are enumerated in
ascending order of their names. -/
structure Canonical (parsed : ParsedAbrRequest) : Prop where
  wellFormed : ∀ s ∈ parsed.json.strings, WellFormed s
  plain : ∀ s ∈ parsed.json.strings, ∀ c ∈ scalars s, isSeparator c = false
  ascending : (parsed.renditions.map fun p => goText p.1).Pairwise (· < ·)

theorem goQuote_plain {text : String} (h : ∀ c ∈ text.toList, isSeparator c = false) :
    goQuote false text = jsQuote (js text) := by
  have hflat : text.toList.flatMap (goEscapeChar false) = text.toList.flatMap escapeChar := by
    apply List.flatMap_congr
    intro c hc
    exact goEscapeChar_eq (h c hc)
  rw [goQuote, js, jsQuote_utf16, hflat]

theorem separator_mem_jsQuote (hs : WellFormed s) {c : Char} (hc : c ∈ scalars s)
    (hseparator : isSeparator c = true) : c ∈ jsQuote s := by
  have hescape : escapeChar c = [c] := by
    rcases escapeChar_cases c with ⟨e, hshort, -, -⟩ | ⟨hsmall, -⟩ | ⟨-, -, -, he⟩
    · rw [isSeparator_ascii (shortEscape_ascii hshort).2] at hseparator
      cases hseparator
    · rw [isSeparator_ascii (by omega)] at hseparator
      cases hseparator
    · exact he
  have hmem : c ∈ (scalars s).flatMap escapeChar := by
    refine List.mem_flatMap.mpr ⟨c, hc, ?_⟩
    rw [hescape]
    exact List.mem_singleton_self c
  have hquote := jsQuote_utf16 (scalars s)
  rw [hs] at hquote
  rw [hquote]
  simp [hmem]

theorem isSeparator_canonicalText (req : ABRWorkloadRequestV2) :
    ∀ c ∈ canonicalText req, isSeparator c = false := by
  apply forall_mem_write (P := fun c => isSeparator c = false)
  · exact isSeparator_goQuote
  · intro n
    exact n.elim
  · intro c hc
    exact isSeparator_ascii hc.2

theorem names_of_document_eq (h : parsed.json = req.document.map js fun n => n) :
    ∃ m : StringMap RenditionDestinationsV2, parsed.renditions.map Prod.fst = m.keys.map js := by
  simp only [ParsedAbrRequest.json, ABRWorkloadRequestV2.document, ABROutputDestinationsV2.document,
    Json.map, mapMembers, Json.obj.injEq, List.cons.injEq, Prod.mk.injEq, true_and, and_true] at h
  have hrenditions := h.2.2.2.2.2
  cases hm : req.output.renditions with
  | none =>
    rw [hm] at hrenditions
    cases hrenditions
  | some m =>
    rw [hm] at hrenditions
    simp only [Json.map, mapMembers_eq_map, List.map_map, Json.obj.injEq] at hrenditions
    refine ⟨m, ?_⟩
    have hfst := congrArg (List.map Prod.fst) hrenditions
    simpa [StringMap.keys, Function.comp_def] using hfst

theorem canonical_of_text_eq
    (h : canonicalText req = write jsQuote Empty.elim parsed.json) : Canonical parsed := by
  have hdocument := document_of_text_eq h
  have hwellFormed : ∀ s ∈ parsed.json.strings, WellFormed s := by
    intro s hs
    rw [hdocument, strings_map] at hs
    obtain ⟨text, -, rfl⟩ := List.mem_map.mp hs
    exact wellFormed_utf16 text.toList
  refine ⟨hwellFormed, ?_, ?_⟩
  · intro s hs c hc
    by_contra hseparator
    have hmem : c ∈ write jsQuote Empty.elim parsed.json := quote_subset_write parsed.json hs
      (separator_mem_jsQuote (hwellFormed s hs) hc (Bool.not_eq_false _ ▸ hseparator))
    rw [← h] at hmem
    exact hseparator (isSeparator_canonicalText req c hmem)
  · obtain ⟨m, hm⟩ := names_of_document_eq hdocument
    have hnames : (parsed.renditions.map fun p => goText p.1) = m.keys := by
      have hgo := congrArg (List.map goText) hm
      simpa [Function.comp_def] using hgo
    rw [hnames]
    exact m.ascending

/-! ## What the runner decodes -/

def AbrArtifact.toGo (value : AbrArtifact) : ArtifactDestinationV2 :=
  { artifactURI := goText value.artifactUri, uploadURL := goText value.uploadUrl }

def AbrDestinations.toGo (value : AbrDestinations) : RenditionDestinationsV2 :=
  { playlist := value.playlist.toGo, stream := value.stream.toGo }

def ParsedAbrRequest.goRenditions (parsed : ParsedAbrRequest) : List (String × RenditionDestinationsV2) :=
  parsed.renditions.map fun p => (goText p.1, p.2.toGo)

def ParsedAbrRequest.toGo (parsed : ParsedAbrRequest) : ABRWorkloadRequestV2 :=
  { schema := goText parsed.schema
    workloadID := goText parsed.workloadId
    input := ⟨goText parsed.downloadUrl, (parsed.contentSha256.map goText).getD ""⟩
    ladder := ⟨goText parsed.preset⟩
    output := ⟨parsed.manifest.toGo, some (StringMap.empty.insertAll parsed.goRenditions)⟩ }

theorem artifact_map (value : AbrArtifact) :
    value.json.map goText (fun n => n) = value.toGo.document := by
  simp [AbrArtifact.json, AbrArtifact.toGo, ArtifactDestinationV2.document, Json.map, mapMembers]

theorem destinations_map (value : AbrDestinations) :
    value.json.map goText (fun n => n) = value.toGo.document := by
  simp [AbrDestinations.json, AbrDestinations.toGo, RenditionDestinationsV2.document, Json.map,
    mapMembers, artifact_map]

theorem goText_ne (h : s ≠ []) : goText s ≠ "" := by
  intro hempty
  have hscalars := congrArg String.toList hempty
  rw [goText, String.toList_ofList, scalars] at hscalars
  exact codePoints_ne_nil h (List.map_eq_nil_iff.mp hscalars)

/-- A `content_sha256` the schema let through is not empty. -/
theorem contentSha256_ne {url : JsString → Option JsString} (h : requestWire url value = some parsed)
    (hs : parsed.contentSha256 = some s) : goText s ≠ "" := by
  simp only [requestWire, Option.bind_eq_bind, Option.bind_eq_some_iff, Option.pure_def,
    Option.some.injEq] at h
  obtain ⟨_, -, _, -, _, -, content, hcontent, _, -, _, -, _, -, rfl⟩ := h
  cases hs
  apply goText_ne
  rintro rfl
  cases hvalue : value.contentSha256 with
  | none =>
    rw [hvalue] at hcontent
    cases hcontent
  | some t =>
    rw [hvalue, optionalSha256] at hcontent
    split at hcontent
    · rename_i hhex
      cases hcontent
      exact absurd hhex (by decide)
    · cases hcontent

section
variable {parsed : ParsedAbrRequest}
  (hsha : ∀ s, parsed.contentSha256 = some s → goText s ≠ "")
include hsha

theorem parsed_map : parsed.json.map goText (fun n => n) =
    .obj [("schema", .str parsed.toGo.schema), ("workload_id", .str parsed.toGo.workloadID),
      ("input", parsed.toGo.input.document), ("ladder", parsed.toGo.ladder.document),
      ("output", .obj [("manifest", parsed.toGo.output.manifest.document),
        ("renditions", .obj (parsed.goRenditions.map fun entry => (entry.1, entry.2.document)))])] := by
  cases hcontent : parsed.contentSha256 with
  | none =>
    simp [ParsedAbrRequest.json, inputMembers, ParsedAbrRequest.toGo, ParsedAbrRequest.goRenditions,
      ABRInputV2.document, ABRLadderV2.document, Json.map, mapMembers, mapMembers_eq_map,
      artifact_map, destinations_map, hcontent]
  | some s =>
    simp [ParsedAbrRequest.json, inputMembers, ParsedAbrRequest.toGo, ParsedAbrRequest.goRenditions,
      ABRInputV2.document, ABRLadderV2.document, Json.map, mapMembers, mapMembers_eq_map,
      artifact_map, destinations_map, hcontent, hsha s hcontent]

theorem decode_sent (h : ∀ s ∈ parsed.json.strings, WellFormed s) :
    (goDocument (utf8Bytes (write jsQuote Empty.elim parsed.json))).bind
      (decodeStruct requestFields default) = some parsed.toGo := by
  have hread := goDocument_sent (parsed.json.map goText fun n => n)
  rw [map_js_goText h] at hread
  rw [hread, Option.bind_some, parsed_map hsha]
  exact decode_request (decode_output _ _)

theorem canonicalText_toGo (h : Canonical parsed) :
    canonicalText parsed.toGo = write jsQuote Empty.elim parsed.json := by
  have hentries : (StringMap.empty.insertAll parsed.goRenditions).entries = parsed.goRenditions := by
    apply StringMap.insertAll_ascending
    have hascending := h.ascending
    simpa [Ascending, ParsedAbrRequest.goRenditions, StringMap.empty, Function.comp_def] using hascending
  have hdocument : parsed.toGo.document = parsed.json.map goText fun n => n := by
    rw [parsed_map hsha]
    simp only [ABRWorkloadRequestV2.document, ABROutputDestinationsV2.document]
    rw [show parsed.toGo.output.renditions = some (StringMap.empty.insertAll parsed.goRenditions) from rfl]
    simp only [hentries]
  rw [canonicalText, hdocument]
  conv_rhs => rw [← map_js_goText h.wellFormed, write_map]
  apply write_congr
  intro text htext
  rw [strings_map] at htext
  obtain ⟨s, hs, rfl⟩ := List.mem_map.mp htext
  apply goQuote_plain
  intro c hc
  rw [goText, String.toList_ofList] at hc
  exact h.plain s hs c hc

end

/-! ## The condition on the request -/

section
variable (url : JsString → Option JsString)

def AbrArtifact.texts (value : AbrArtifact) : List JsString :=
  value.artifactUri :: (url value.uploadUrl).toList

def AbrDestinations.texts (value : AbrDestinations) : List JsString :=
  value.playlist.texts url ++ value.stream.texts url

def AbrExchangeRequest.sentRenditions (value : AbrExchangeRequest) : List (JsString × AbrDestinations) :=
  value.renditions.ownProperties.filter fun p => p.1 ≠ js "__proto__"

def AbrExchangeRequest.texts (value : AbrExchangeRequest) : List JsString :=
  value.workloadId :: (url value.downloadUrl).toList ++ value.contentSha256.toList ++
    value.preset :: value.manifest.texts url ++
    value.sentRenditions.flatMap fun p => p.1 :: p.2.texts url

/-- No surrogate stands alone and there is no line separator. -/
def Plain (s : JsString) : Prop := WellFormed s ∧ ∀ c ∈ scalars s, isSeparator c = false

instance : DecidablePred Plain := fun _ => @instDecidableAnd _ _ inferInstance (List.decidableBAll _ _)

/-- Every string of the request is plain, and JavaScript enumerates the renditions in
ascending order of their names. -/
structure Uniform (value : AbrExchangeRequest) : Prop where
  plain : ∀ s ∈ value.texts url, Plain s
  ascending : (value.sentRenditions.map fun p => goText p.1).Pairwise (· < ·)

end

theorem plain_js {text : String} (h : text.toList.all fun c => !isSeparator c) : Plain (js text) := by
  refine ⟨wellFormed_utf16 text.toList, ?_⟩
  intro c hc
  rw [js, scalars_utf16] at hc
  simpa using List.all_eq_true.mp h c hc

section
variable {url : JsString → Option JsString}

theorem artifact_texts {value parsed : AbrArtifact} (h : artifact url value = some parsed) :
    value.texts url = [parsed.artifactUri, parsed.uploadUrl] := by
  simp only [artifact, nonEmpty, Option.bind_eq_bind, Option.bind_eq_some_iff, Option.pure_def,
    Option.some.injEq, Option.ite_none_left_eq_some] at h
  obtain ⟨uri, ⟨-, rfl⟩, text, htext, rfl⟩ := h
  rw [AbrArtifact.texts, htext]
  rfl

theorem destinations_texts {value parsed : AbrDestinations} (h : destinations url value = some parsed) :
    value.texts url = [parsed.playlist.artifactUri, parsed.playlist.uploadUrl,
      parsed.stream.artifactUri, parsed.stream.uploadUrl] := by
  simp only [destinations, Option.bind_eq_bind, Option.bind_eq_some_iff, Option.pure_def,
    Option.some.injEq] at h
  obtain ⟨playlist, hplaylist, stream, hstream, rfl⟩ := h
  rw [AbrDestinations.texts, artifact_texts hplaylist, artifact_texts hstream]
  rfl

theorem artifact_strings (value : AbrArtifact) :
    (∀ s ∈ value.json.strings, Plain s) ↔ Plain value.artifactUri ∧ Plain value.uploadUrl := by
  have huri : Plain (js "artifact_uri") := plain_js (by decide)
  have hurl : Plain (js "upload_url") := plain_js (by decide)
  simp [AbrArtifact.json, Json.strings, memberStrings, huri, hurl]

theorem destinations_strings {value parsed : AbrDestinations} (h : destinations url value = some parsed) :
    (∀ s ∈ parsed.json.strings, Plain s) ↔ ∀ s ∈ value.texts url, Plain s := by
  have hplaylist : Plain (js "playlist") := plain_js (by decide)
  have hstream : Plain (js "stream") := plain_js (by decide)
  rw [destinations_texts h]
  simp only [AbrDestinations.json, Json.strings, memberStrings, List.append_nil, List.cons_append,
    List.forall_mem_append, List.forall_mem_cons, artifact_strings, hplaylist, hstream, true_and,
    List.not_mem_nil, false_implies, implies_true, and_true, and_assoc]

theorem renditionRecord_sent {properties parsed : List (JsString × AbrDestinations)}
    (h : renditionRecord url properties = some parsed) :
    parsed.map Prod.fst = (properties.filter fun p => p.1 ≠ js "__proto__").map Prod.fst ∧
      ((∀ p ∈ parsed, Plain p.1 ∧ ∀ s ∈ p.2.json.strings, Plain s) ↔
        ∀ p ∈ properties.filter (fun p => p.1 ≠ js "__proto__"),
          Plain p.1 ∧ ∀ s ∈ p.2.texts url, Plain s) := by
  induction properties generalizing parsed with
  | nil =>
    cases h
    simp
  | cons property properties ih =>
    obtain ⟨name, value⟩ := property
    rw [renditionRecord] at h
    split at h
    · rename_i hproto
      rw [List.filter_cons_of_neg (by simpa using hproto)]
      exact ih h
    · rename_i hproto
      simp only [Option.bind_eq_bind, Option.bind_eq_some_iff, Option.pure_def, Option.some.injEq] at h
      obtain ⟨target, htarget, rest, hrest, rfl⟩ := h
      obtain ⟨hnames, hplain⟩ := ih hrest
      rw [List.filter_cons_of_pos (by simpa using hproto)]
      refine ⟨?_, ?_⟩
      · rw [List.map_cons, List.map_cons, hnames]
      · rw [List.forall_mem_cons, List.forall_mem_cons, hplain, destinations_strings htarget]

theorem optionalSha256_some {content parsed : Option JsString}
    (h : optionalSha256 content = some parsed) : parsed = content := by
  cases content with
  | none =>
    cases h
    rfl
  | some s =>
    rw [optionalSha256] at h
    split at h
    · cases h
      rfl
    · cases h

theorem input_strings (download : JsString) (content : Option JsString) :
    (∀ s ∈ memberStrings (inputMembers download content), Plain s) ↔
      Plain download ∧ ∀ s ∈ content.toList, Plain s := by
  have hdownload : Plain (js "download_url") := plain_js (by decide)
  have hcontent : Plain (js "content_sha256") := plain_js (by decide)
  cases content <;> simp [inputMembers, memberStrings, Json.strings, hdownload, hcontent]

theorem rendition_strings (renditions : List (JsString × AbrDestinations)) :
    (∀ s ∈ memberStrings (renditions.map fun p => (p.1, p.2.json)), Plain s) ↔
      ∀ p ∈ renditions, Plain p.1 ∧ ∀ s ∈ p.2.json.strings, Plain s := by
  rw [memberStrings_eq_flatMap, List.flatMap_map]
  simp only [List.forall_mem_flatMap, List.forall_mem_cons]

theorem parsed_strings (parsed : ParsedAbrRequest) (h : parsed.schema = abrRequestSchema) :
    (∀ s ∈ parsed.json.strings, Plain s) ↔
      Plain parsed.workloadId ∧ (Plain parsed.downloadUrl ∧ ∀ s ∈ parsed.contentSha256.toList, Plain s) ∧
        Plain parsed.preset ∧ (Plain parsed.manifest.artifactUri ∧ Plain parsed.manifest.uploadUrl) ∧
        ∀ p ∈ parsed.renditions, Plain p.1 ∧ ∀ s ∈ p.2.json.strings, Plain s := by
  have hvalue : Plain parsed.schema := h ▸ plain_js (by decide)
  have hschema : Plain (js "schema") := plain_js (by decide)
  have hworkload : Plain (js "workload_id") := plain_js (by decide)
  have hinput : Plain (js "input") := plain_js (by decide)
  have hladder : Plain (js "ladder") := plain_js (by decide)
  have hpreset : Plain (js "preset") := plain_js (by decide)
  have houtput : Plain (js "output") := plain_js (by decide)
  have hmanifest : Plain (js "manifest") := plain_js (by decide)
  have hrenditions : Plain (js "renditions") := plain_js (by decide)
  rw [← input_strings, ← artifact_strings, ← rendition_strings]
  simp only [ParsedAbrRequest.json, Json.strings, memberStrings, List.append_nil, List.cons_append,
    List.nil_append, List.forall_mem_append, List.forall_mem_cons, hvalue, hschema, hworkload, hinput,
    hladder, hpreset, houtput, hmanifest, hrenditions, true_and]

theorem canonical_iff_uniform
    (h : requestWire url value = some parsed) : Canonical parsed ↔ Uniform url value := by
  simp only [requestWire, literal, nonEmpty, Option.bind_eq_bind, Option.bind_eq_some_iff,
    Option.pure_def, Option.some.injEq, Option.ite_none_right_eq_some,
    Option.ite_none_left_eq_some] at h
  obtain ⟨_, ⟨hschema, rfl⟩, _, ⟨-, rfl⟩, download, hdownload, content, hcontent, _, ⟨-, rfl⟩,
    manifest, hmanifest, renditions, hrenditions, rfl⟩ := h
  obtain rfl := optionalSha256_some hcontent
  obtain ⟨hnames, hplain⟩ := renditionRecord_sent hrenditions
  have hsent : (renditions.map fun p => goText p.1) = value.sentRenditions.map fun p => goText p.1 := by
    have hmap := congrArg (List.map goText) hnames
    rw [List.map_map, List.map_map] at hmap
    exact hmap
  have htexts : (∀ s ∈ value.texts url, Plain s) ↔
      ∀ s ∈ (ParsedAbrRequest.mk value.schema value.workloadId download value.contentSha256 value.preset
        manifest renditions).json.strings, Plain s := by
    rw [parsed_strings _ hschema, hplain]
    simp only [AbrExchangeRequest.texts, hdownload, artifact_texts hmanifest,
      AbrExchangeRequest.sentRenditions, List.forall_mem_append, List.forall_mem_cons,
      List.forall_mem_flatMap, List.cons_append, Option.toList_some, List.not_mem_nil, false_implies,
      implies_true, true_and, and_assoc]
  constructor
  · intro hcanonical
    exact ⟨htexts.mpr fun s hs => ⟨hcanonical.wellFormed s hs, hcanonical.plain s hs⟩,
      hsent ▸ hcanonical.ascending⟩
  · intro huniform
    exact ⟨fun s hs => (htexts.mp huniform.plain s hs).1, fun s hs => (htexts.mp huniform.plain s hs).2,
      hsent.symm ▸ huniform.ascending⟩

end

/-- The runner's canonical bytes of a request are the bytes the gateway sent and hashed
exactly when the request is uniform; for those every terminal event carries the hash the
gateway compares it with. -/
theorem request_hash_agrees_iff {url : JsString → Option JsString} {sha256Hex : List UInt8 → String}
    {value : AbrExchangeRequest} {out : EncodedAbrRequest} {req : ABRWorkloadRequestV2}
    (hencode : encodeAbrExchangeRequest url sha256Hex value = .ok out)
    (hdecode : decodeABRRequestV2 out.body = some req) :
    (canonicalBytes req = out.body ↔ Uniform url value) ∧
      (Uniform url value → requestContentSHA256V2 sha256Hex req = out.sha256 ∧
        ∀ P event, Emits P sha256Hex req event → event.requestSHA256 = out.sha256) := by
  obtain ⟨parsed, hwire, -, hbody, hsha256⟩ := encodeAbrExchangeRequest_ok hencode
  rw [← canonical_iff_uniform hwire]
  have hsha : ∀ s, parsed.contentSha256 = some s → goText s ≠ "" := fun s hs => contentSha256_ne hwire hs
  have hsame : Canonical parsed → canonicalBytes req = out.body := by
    intro hcanonical
    have hsent := decode_sent hsha hcanonical.wellFormed
    unfold decodeABRRequestV2 at hdecode
    split at hdecode
    · cases hdecode
    · rw [hbody, hsent] at hdecode
      cases hdecode
      rw [hbody, canonicalBytes, canonicalText_toGo hsha hcanonical]
  refine ⟨⟨?_, hsame⟩, ?_⟩
  · intro hbytes
    rw [hbody] at hbytes
    exact canonical_of_text_eq (utf8Bytes_injective hbytes)
  · intro hcanonical
    have hhash : requestContentSHA256V2 sha256Hex req = out.sha256 := by
      rw [requestContentSHA256V2, hsame hcanonical, hsha256]
    refine ⟨hhash, ?_⟩
    intro P event hevent
    rw [hevent.requestSHA256, hhash]

/-! ## The baseline ladder

The orchestrator inserts the renditions from the highest resolution down. -/

def sampleArtifact (path : String) : AbrArtifact :=
  { artifactUri := js path, uploadUrl := js "https://storage.example/put" }

def sampleDestinations (name : String) : AbrDestinations :=
  { playlist := sampleArtifact ("a1/" ++ name ++ "/playlist.m3u8")
    stream := sampleArtifact ("a1/" ++ name ++ "/stream.mp4") }

def sampleRenditions (names : List String) : List (JsString × AbrDestinations) :=
  names.map fun name => (js name, sampleDestinations name)

def sampleAbrRequest (names : List String)
    (h : ((sampleRenditions names).map Prod.fst).Nodup) : AbrExchangeRequest :=
  { schema := abrRequestSchema, workloadId := js "a1"
    downloadUrl := js "https://storage.example/get", contentSha256 := none
    preset := js "abr-mobile", manifest := sampleArtifact "a1/master.m3u8"
    renditions := ⟨sampleRenditions names, h⟩ }

def sampleParsed (names : List String) : ParsedAbrRequest :=
  { schema := abrRequestSchema, workloadId := js "a1"
    downloadUrl := js "https://storage.example/get", contentSha256 := none
    preset := js "abr-mobile", manifest := sampleArtifact "a1/master.m3u8"
    renditions := sampleRenditions names }

def baselineNames : List String := ["720p", "480p", "360p"]

def sampleRunner : AbrRunner.Platform :=
  { parseURL := fun _ => some ⟨"https", "storage.example", false, "", "", ""⟩, quote := id }

def sampleDigest (bytes : List UInt8) : String :=
  String.ofList (bytes.map fun b => Char.ofNat b.toNat)

theorem sampleDigest_injective : Function.Injective sampleDigest := by
  intro a b h
  have hlist := congrArg String.toList h
  rw [sampleDigest, sampleDigest, String.toList_ofList, String.toList_ofList] at hlist
  refine List.map_injective_iff.mpr ?_ hlist
  intro x y hxy
  have hx := x.toNat_lt
  have hy := y.toNat_lt
  have htoNat := congrArg Char.toNat hxy
  rw [charOfNat_toNat (by omega), charOfNat_toNat (by omega)] at htoNat
  exact UInt8.toNat_inj.mp htoNat

theorem decode_sample {names : List String}
    (hwellFormed : ∀ s ∈ (sampleParsed names).json.strings, WellFormed s)
    (hsize : ¬ maxABRRequestBodyV2 <
      (utf8Bytes (write jsQuote Empty.elim (sampleParsed names).json)).length) :
    decodeABRRequestV2 (utf8Bytes (write jsQuote Empty.elim (sampleParsed names).json)) =
      some (sampleParsed names).toGo := by
  have hsha : ∀ s, (sampleParsed names).contentSha256 = some s → goText s ≠ "" := by
    intro s hs
    cases hs
  rw [decodeABRRequestV2, if_neg hsize]
  exact decode_sent hsha hwellFormed

theorem request_hash_agrees_ascending : ∃ out req,
    encodeAbrExchangeRequest some sampleDigest (sampleAbrRequest ["360p", "720p"] (by decide)) = .ok out ∧
      decodeABRRequestV2 out.body = some req ∧ canonicalBytes req = out.body := by
  have hdecode := @decode_sample ["360p", "720p"] (by decide +kernel) (by decide +kernel)
  refine ⟨_, _, rfl, hdecode, ?_⟩
  have hiff := @request_hash_agrees_iff some sampleDigest (sampleAbrRequest ["360p", "720p"] (by decide))
    _ _ rfl hdecode
  apply hiff.1.mpr
  exact ⟨by decide +kernel, by decide +kernel⟩

/-- The baseline request is accepted on both sides and hashed differently. -/
theorem baseline_hash_differs : ∃ out req,
    encodeAbrExchangeRequest some sampleDigest (sampleAbrRequest baselineNames (by decide)) = .ok out ∧
      decodeABRRequestV2 out.body = some req ∧
      validateABRRequestV2 sampleRunner req baselineNames = .ok () ∧
      canonicalBytes req ≠ out.body ∧ requestContentSHA256V2 sampleDigest req ≠ out.sha256 := by
  have hdecode := @decode_sample baselineNames (by decide +kernel) (by decide +kernel)
  have hdiffer : canonicalBytes (sampleParsed baselineNames).toGo ≠
      utf8Bytes (write jsQuote Empty.elim (sampleParsed baselineNames).json) := by
    intro hbytes
    have hcanonical := canonical_of_text_eq (utf8Bytes_injective hbytes)
    exact absurd hcanonical.ascending (by decide +kernel)
  refine ⟨_, _, rfl, hdecode, by decide +kernel, hdiffer, ?_⟩
  intro hhash
  exact hdiffer (sampleDigest_injective hhash)

end LivepeerTranscode.Gateway
