import LivepeerTranscode.LiveRunner.HlsProxy
import LivepeerTranscode.LiveRunner.Media

/-!
# Media paths are read back

A path names at most one session or one rendition of a session, and a private ingest key gives
back the path and the secret it was built from.
-/

namespace LivepeerTranscode.LiveRunner
open GoText GoUrl
set_option autoImplicit false

theorem pieces_eq_splitOn (sep : Char) (text : List Char) : pieces sep text = text.splitOn sep := by
  induction text with
  | nil => rfl
  | cons c rest ih =>
    rw [pieces, List.splitOn_eq_splitOnP, List.splitOnP_cons_eq_if_modifyHead, ← List.splitOn_eq_splitOnP, ← ih]
    by_cases hc : c = sep
    · simp [hc]
    · rw [if_neg hc, if_neg (by simpa using hc)]
      cases hpieces : pieces sep rest with
      | nil => exact absurd (ih.symm.trans hpieces) (List.splitOn_ne_nil _ _)
      | cons piece more => rfl

theorem intercalate_splitPath (raw : String) : String.intercalate "/" (splitPath raw) = raw := by
  apply String.toList_injective
  rw [String.toList_intercalate, splitPath, List.map_map, pieces_eq_splitOn]
  have hid : String.toList ∘ String.ofList = id := funext fun l => String.toList_ofList
  rw [hid, List.map_id]
  exact List.intercalate_splitOn '/'

theorem splitPath_intercalate {parts : List String} (hne : parts ≠ []) (hplain : ∀ part ∈ parts, '/' ∉ part.toList) :
    splitPath (String.intercalate "/" parts) = parts := by
  rw [splitPath, pieces_eq_splitOn, String.toList_intercalate]
  have hsplit := @List.splitOn_intercalate _ (parts.map String.toList) _ _ '/' (by simpa using hplain) (by simpa using hne)
  rw [show "/".toList = ['/'] from rfl, hsplit, List.map_map]
  have hid : String.ofList ∘ String.toList = id := funext fun s => String.ofList_toList
  rw [hid, List.map_id]

/-! ## Paths -/

def Ordinary (segment : String) : Prop := segment ≠ "" ∧ segment ≠ "." ∧ segment ≠ ".."

theorem cleanSegments_ordinary (rooted : Bool) {kept segments : List String}
    (h : ∀ segment ∈ segments, Ordinary segment) :
    cleanSegments rooted kept segments = kept.reverse ++ segments := by
  induction segments generalizing kept with
  | nil => simp [cleanSegments]
  | cons segment rest ih =>
    obtain ⟨hempty, hdot, hdots⟩ := h segment List.mem_cons_self
    have hrest := @ih (segment :: kept) fun other hother => h other (List.mem_cons_of_mem _ hother)
    simp [cleanSegments.eq_def rooted kept, hempty, hdot, hdots, hrest]

theorem opaque_ordinary {id : String} (h : opaqueIDPattern id = true) : Ordinary id ∧ '/' ∉ id.toList := by
  refine ⟨⟨?_, ?_, ?_⟩, fun hslash => absurd (opaque_chars h '/' hslash) (by decide)⟩
  all_goals
    rintro rfl
    exact absurd h (by decide)

def MediaPath.parts : MediaPath → List String
  | .ingest id => ["ingest", id]
  | .rendition id name => ["renditions", id, name]

def MediaPath.Valid : MediaPath → Prop
  | .ingest id => opaqueIDPattern id = true
  | .rendition id name => opaqueIDPattern id = true ∧ opaqueIDPattern name = true

theorem MediaPath.Valid.ordinary {path : MediaPath} (h : path.Valid) :
    ∀ part ∈ path.parts, Ordinary part ∧ '/' ∉ part.toList := by
  have hfixed : ∀ kind ∈ ["ingest", "renditions"], Ordinary kind ∧ '/' ∉ kind.toList := by
    unfold Ordinary
    decide
  cases path with
  | ingest id => simp [parts, opaque_ordinary h, hfixed]
  | rendition id rendition => simp [parts, opaque_ordinary h.1, opaque_ordinary h.2, hfixed]

theorem parseMediaPathV1_iff {raw : String} {path : MediaPath} :
    parseMediaPathV1 raw = some path ↔ path.Valid ∧ String.intercalate "/" path.parts = raw := by
  constructor
  · intro h
    have hraw := intercalate_splitPath raw
    unfold parseMediaPathV1 at h
    split at h
    · cases h
    split at h
    · rename_i hparts
      obtain ⟨⟨rfl, hid⟩, heq⟩ := Option.ite_none_right_eq_some.mp h
      cases heq
      rw [hparts] at hraw
      exact ⟨hid, hraw⟩
    · rename_i hparts
      obtain ⟨⟨rfl, hid, hrendition⟩, heq⟩ := Option.ite_none_right_eq_some.mp h
      cases heq
      rw [hparts] at hraw
      exact ⟨⟨hid, hrendition⟩, hraw⟩
    · cases h
  · rintro ⟨hvalid, rfl⟩
    have hparts : splitPath (String.intercalate "/" path.parts) = path.parts :=
      splitPath_intercalate (by cases path <;> exact nofun) fun part hpart => (hvalid.ordinary part hpart).2
    have hhead : (String.intercalate "/" path.parts).toList.head? ≠ some '/' := by
      rw [String.toList_intercalate]
      cases path <;> exact nofun
    have hempty : String.intercalate "/" path.parts ≠ "" := by
      intro heq
      have hnil := congrArg String.toList heq
      rw [String.toList_intercalate] at hnil
      cases path <;> cases hnil
    have hclean : cleanPath (String.intercalate "/" path.parts) = String.intercalate "/" path.parts := by
      have hrooted : ((String.intercalate "/" path.parts).toList.head? == some '/') = false := by simpa using hhead
      simp only [cleanPath, hparts, hrooted, cleanSegments_ordinary false fun part hpart =>
        (hvalid.ordinary part hpart).1, List.reverse_nil, List.nil_append, if_neg hempty]
      rfl
    rw [parseMediaPathV1, if_neg (not_or.mpr ⟨hempty, not_or.mpr ⟨not_not.mpr hclean, hhead⟩⟩), hparts]
    cases path with
    | ingest id => exact if_pos ⟨rfl, hvalid⟩
    | rendition id rendition => exact if_pos ⟨rfl, hvalid⟩

def MediaPath.build : MediaPath → Option Bytes
  | .ingest id => (ingestMediaPathV1 id).map goBytes
  | .rendition id name => renditionMediaPathV1 id name

theorem MediaPath.build_text {path : MediaPath} {raw : Bytes} (h : path.build = some raw) :
    ∃ text, goBytes text = raw := by
  cases path with
  | ingest id =>
    obtain ⟨text, -, heq⟩ := Option.map_eq_some_iff.mp h
    exact ⟨text, heq⟩
  | rendition id name => exact ⟨_, Option.some.inj (Option.ite_none_right_eq_some.mp h).2⟩

theorem goBytes_injective : Function.Injective goBytes :=
  fun _ _ h => String.toList_injective (JsonText.utf8Bytes_injective h)

theorem MediaPath.build_iff {path : MediaPath} {raw : String} :
    path.build = some (goBytes raw) ↔ path.Valid ∧ String.intercalate "/" path.parts = raw := by
  cases path with
  | ingest id =>
    have htext : String.intercalate "/" ["ingest", id] = "ingest/" ++ id := by
      apply String.toList_injective
      simp
    simp [build, ingestMediaPathV1, Valid, parts, htext, goBytes_injective.eq_iff]
  | rendition id rendition =>
    have htext : String.intercalate "/" ["renditions", id, rendition] = "renditions/" ++ id ++ "/" ++ rendition := by
      apply String.toList_injective
      simp
    simp [build, renditionMediaPathV1, Valid, parts, htext, goBytes_injective.eq_iff]

/-! ## Keys -/

theorem parsePrivateIngestStreamKeyV1_built {runnerSessionID secret key : String}
    (h : buildPrivateIngestStreamKeyV1 runnerSessionID secret = some key)
    (hquery : parseQuery ("token=".toList ++ queryEscape (goBytes secret)) = some [(tokenName, goBytes secret)]) :
    ∃ path, ingestMediaPathV1 runnerSessionID = some path ∧
      parsePrivateIngestStreamKeyV1 key = some (path, goBytes secret) := by
  obtain ⟨hvalid, heq⟩ := Option.ite_none_left_eq_some.mp h
  cases heq
  simp only [not_or] at hvalid
  obtain ⟨hpath, hsecret, -, -⟩ := hvalid
  obtain ⟨path, hpath⟩ : ∃ path, ingestMediaPathV1 runnerSessionID = some path := by
    simpa [Option.ne_none_iff_exists'] using hpath
  have hid : opaqueIDPattern runnerSessionID = true := (Option.ite_none_right_eq_some.mp hpath).1
  have hmark : ∀ c ∈ runnerSessionID.toList, (c != '?') = true := by
    intro c hc
    rw [bne_iff_ne]
    rintro rfl
    exact absurd (opaque_chars hid '?' hc) (by decide)
  have htext : (runnerSessionID ++ "?token=" ++ String.ofList (queryEscape (goBytes secret))).toList =
      runnerSessionID.toList ++ '?' :: ("token=".toList ++ queryEscape (goBytes secret)) := by
    simp
  have hbytes : goBytes secret ≠ [] := fun hnil => hsecret (goBytes_injective hnil)
  refine ⟨path, hpath, ?_⟩
  unfold parsePrivateIngestStreamKeyV1
  rw [htext, List.takeWhile_append_of_pos hmark, List.dropWhile_append_of_pos hmark]
  simp only [List.takeWhile_cons, List.dropWhile_cons, bne_self_eq_false, Bool.false_eq_true, if_false,
    List.append_nil, String.ofList_toList, hquery, hpath]
  exact if_pos ⟨trivial, hbytes⟩

/-- A built key is read back as the path of its session and its secret; the accepted paths are
exactly the built ones, read as what they were built from, and no path is built twice. -/
theorem media_paths_read_back (runnerSessionID secret key : String)
    (hbuilt : buildPrivateIngestStreamKeyV1 runnerSessionID secret = some key)
    (hquery : parseQuery ("token=".toList ++ queryEscape (goBytes secret)) = some [(tokenName, goBytes secret)]) :
    (∃ path, ingestMediaPathV1 runnerSessionID = some path ∧
      parsePrivateIngestStreamKeyV1 key = some (path, goBytes secret)) ∧
    (∀ raw id, parseMediaPathV1 raw = some (.ingest id) ↔ ingestMediaPathV1 id = some raw) ∧
    (∀ raw id rendition, parseMediaPathV1 raw = some (.rendition id rendition) ↔
      renditionMediaPathV1 id rendition = some (goBytes raw)) ∧
    ∀ path path' : MediaPath, ∀ raw, path.build = some raw → path'.build = some raw → path = path' := by
  have hparse : ∀ raw (path : MediaPath), parseMediaPathV1 raw = some path ↔ path.build = some (goBytes raw) :=
    fun raw path => parseMediaPathV1_iff.trans path.build_iff.symm
  refine ⟨parsePrivateIngestStreamKeyV1_built hbuilt hquery, fun raw id => ?_, fun raw id rendition => hparse raw _, ?_⟩
  · rw [hparse]
    simp [MediaPath.build, goBytes_injective.eq_iff]
  · intro path path' raw hbuild hbuild'
    obtain ⟨text, rfl⟩ := path.build_text hbuild
    have hread := (hparse text path).mpr hbuild
    exact Option.some.inj (hread.symm.trans ((hparse text path').mpr hbuild'))

theorem media_paths_read_back_sample :
    buildPrivateIngestStreamKeyV1 "session" "a b" = some "session?token=a+b" ∧
      parsePrivateIngestStreamKeyV1 "session?token=a+b" = some ("ingest/session", goBytes "a b") := by
  have hbuilt : buildPrivateIngestStreamKeyV1 "session" "a b" = some "session?token=a+b" := by decide +kernel
  obtain ⟨⟨path, hpath, hread⟩, -⟩ := media_paths_read_back "session" "a b" _ hbuilt (by decide +kernel)
  cases hpath.symm.trans (show ingestMediaPathV1 "session" = some "ingest/session" by decide +kernel)
  exact ⟨hbuilt, hread⟩

end LivepeerTranscode.LiveRunner
