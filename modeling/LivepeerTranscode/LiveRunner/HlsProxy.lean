import LivepeerTranscode.LiveRunner.Runs

/-!
# The HLS proxy

`HLSHandlerV1.ServeHTTP` of `live-runner/hls.go` up to the request it sends to the media server.
Paths and queries are bytes, as the wire carries them. The path of the upstream request is what
`url.Parse` reads off the text that `proxyAsset` puts together.
-/

namespace LivepeerTranscode.LiveRunner
open GoText
set_option autoImplicit false

abbrev Bytes : Type := List UInt8

def byte (c : Char) : UInt8 := c.toNat.toUInt8

/-! ## URLs -/

def unhex (b : UInt8) : Option UInt8 :=
  if byte '0' ≤ b ∧ b ≤ byte '9' then some (b - byte '0')
  else if byte 'a' ≤ b ∧ b ≤ byte 'f' then some (b - byte 'a' + 10)
  else if byte 'A' ≤ b ∧ b ≤ byte 'F' then some (b - byte 'A' + 10)
  else none

/-- `url.unescape`; in a query a plus stands for a space. -/
def unescape (query : Bool) : Bytes → Option Bytes
  | [] => some []
  | b :: rest =>
    if b = byte '%' then
      match rest with
      | high :: low :: more =>
        match unhex high, unhex low with
        | some h, some l => (unescape query more).map ((16 * h + l) :: ·)
        | _, _ => none
      | _ => none
    else (unescape query rest).map ((if query ∧ b = byte '+' then byte ' ' else b) :: ·)

/-- Before the first occurrence of a byte, and after it. -/
def cutAt (sep : UInt8) (text : Bytes) : Bytes × Bytes :=
  (text.takeWhile (· ≠ sep), (text.dropWhile (· ≠ sep)).drop 1)

/-- The path that `url.Parse` finds in what follows `http://`, where the authority is in order. -/
def parsedPath (text : Bytes) : Option Bytes :=
  let (url, fragment) := cutAt (byte '#') text
  if url.any fun b => b < 0x20 || b = 0x7F then none
  else do
    let path ← unescape false ((cutAt (byte '?') url).1.dropWhile (· ≠ byte '/'))
    let _ ← unescape false fragment
    return path

/-- One piece of a query; nothing where `url.ParseQuery` reports an error for it. -/
def queryPair (piece : Bytes) : Option (Bytes × Bytes) :=
  if byte ';' ∈ piece then none
  else do
    let key ← unescape true (cutAt (byte '=') piece).1
    let value ← unescape true (cutAt (byte '=') piece).2
    return (key, value)

def queryPieces (raw : Bytes) : List Bytes := (raw.splitOn (byte '&')).filter (· ≠ [])

/-- `URL.Query`, which passes over the pieces that are in error. -/
def queryValues (raw : Bytes) : List (Bytes × Bytes) := (queryPieces raw).filterMap queryPair

/-! ## Assets -/

def cleanParts (rooted : Bool) : List Bytes → List Bytes → List Bytes
  | kept, [] => kept.reverse
  | kept, part :: rest =>
    if part = [] ∨ part = goBytes "." then cleanParts rooted kept rest
    else if part = goBytes ".." then
      match kept with
      | last :: before =>
        if last = goBytes ".." then cleanParts rooted (part :: kept) rest
        else cleanParts rooted before rest
      | [] => cleanParts rooted (if rooted then [] else [part]) rest
    else cleanParts rooted (part :: kept) rest

/-- `path.Clean` -/
def cleanBytes (raw : Bytes) : Bytes :=
  let rooted := raw.head? == some (byte '/')
  let body := [byte '/'].intercalate (cleanParts rooted [] (raw.splitOn (byte '/')))
  if rooted then byte '/' :: body else if body = [] then goBytes "." else body

/-- `path.Base` -/
def baseName (name : Bytes) : Bytes :=
  if name = [] then goBytes "."
  else ((name.splitOn (byte '/')).filter (· ≠ [])).getLast?.getD (goBytes "/")

def validHLSAssetNameV1 (name : Bytes) : Bool :=
  name ≠ [] && baseName name == name && name.head? != some (byte '.') &&
    [".m3u8", ".mp4", ".m4s", ".ts"].any fun suffix => (goBytes suffix).isSuffixOf name

def renditionMediaPathV1 (runnerSessionID rendition : String) : Option Bytes :=
  if opaqueIDPattern runnerSessionID ∧ opaqueIDPattern rendition then
    some (goBytes ("renditions/" ++ runnerSessionID ++ "/" ++ rendition))
  else none

/-- The rendition and the name of an asset, and its path at the media server. A rendition that
the preset declares is given by its name. -/
def renditionAssetPathV1 (runnerID : String) (renditions : List String) (asset : Bytes) : Option Bytes :=
  if asset = [] ∨ cleanBytes asset ≠ asset ∨ asset.head? = some (byte '/') then none
  else match asset.splitOn (byte '/') with
    | [part, name] =>
      match renditions.find? fun rendition => goBytes rendition = part with
      | none => none
      | some rendition =>
        if validHLSAssetNameV1 name then
          (renditionMediaPathV1 runnerID rendition).map (· ++ byte '/' :: name)
        else none
    | _ => none

/-! ## Queries -/

def decimal (text : Bytes) : Nat := text.foldl (fun n b => 10 * n + (b - byte '0').toNat) 0

/-- `strconv.ParseUint(text, 10, 64)` succeeds. -/
def isUint64 (text : Bytes) : Bool :=
  text ≠ [] && text.all (fun b => byte '0' ≤ b && b ≤ byte '9') && decide (decimal text < 2 ^ 64)

def validHLSValueV1 (key value : Bytes) : Bool :=
  (key = goBytes "_HLS_msn" || key = goBytes "_HLS_part" || key = goBytes "_HLS_skip") &&
    value ≠ [] && !value.any (fun b => b = byte '\r' || b = byte '\n') &&
    if key = goBytes "_HLS_skip" then value = goBytes "YES" || value = goBytes "v2" else isUint64 value

def validHLSQueryV1 (values : List (Bytes × Bytes)) : Bool :=
  values.all fun (key, value) =>
    decide ((values.filter (·.1 = key)).length = 1) && validHLSValueV1 key value

/-! ## Requests -/

/-- `address` follows `http://` in the base URL; `presets` gives the renditions by lowercase name. -/
structure HLSHandlerV1 where
  address : Bytes
  presets : List (String × List String)
  toLower : String → String
  plain : ∀ b ∈ address, ¬ (b < 0x20 ∨ b = 0x7F) ∧ b ∉ [byte '/', byte '?', byte '#']

/-- `rendition` and `asset` are the path values, unescaped; `master` says that the path ends in
`/master.m3u8`. -/
structure HLSRequestV1 where
  method : String
  rendition : Bytes
  asset : Bytes
  master : Bool
  rawQuery : Bytes

def HLSRequestV1.checked (request : HLSRequestV1) : Bytes :=
  if request.rendition ≠ [] then request.rendition ++ byte '/' :: request.asset
  else if request.asset = [] ∧ request.master then goBytes "master.m3u8"
  else request.asset

structure HLSUpstreamV1 where
  path : Bytes
  rawQuery : Bytes
  deriving DecidableEq

inductive HLSAnswerV1 where
  | refused (status : Nat) (error : String)
  | master
  | forwarded (upstream : HLSUpstreamV1)
  deriving DecidableEq

section
variable (handler : HLSHandlerV1)

def proxyAsset (request : HLSRequestV1) (mediaPath : Bytes) : HLSAnswerV1 :=
  match parsedPath (handler.address ++ byte '/' :: mediaPath) with
  | none => .refused 502 "media_unavailable"
  | some path => .forwarded ⟨path, request.rawQuery⟩

/-- `ServeHTTP`, with what the store has for the runner session of the path. -/
def serveHLS (loaded : Option (SessionRecordV1 × Option SessionSecretsV1)) (request : HLSRequestV1) :
    HLSAnswerV1 :=
  if request.method ≠ "GET" ∧ request.method ≠ "HEAD" then .refused 405 "method_not_allowed"
  else match loaded with
    | some (record, some secrets) =>
      if record.state ≠ .active ∨ record.stopping then .refused 404 "stream_not_found"
      else match handler.presets.lookup (handler.toLower secrets.createRequest.sessionParams.outputProfile) with
        | none => .refused 503 "profile_unavailable"
        | some renditions =>
          if request.checked = goBytes "master.m3u8" then .master
          else match renditionAssetPathV1 record.runnerSessionID renditions request.checked with
            | none => .refused 404 "asset_not_found"
            | some mediaPath =>
              if validHLSQueryV1 (queryValues request.rawQuery) then proxyAsset handler request mediaPath
              else .refused 404 "asset_not_found"
    | _ => .refused 404 "stream_not_found"

end

section
variable {handler : HLSHandlerV1} {loaded : Option (SessionRecordV1 × Option SessionSecretsV1)}
  {request : HLSRequestV1} {upstream : HLSUpstreamV1}

theorem serveHLS_forwarded (h : serveHLS handler loaded request = .forwarded upstream) :
    ∃ record secrets renditions mediaPath, loaded = some (record, some secrets) ∧
      renditionAssetPathV1 record.runnerSessionID renditions request.checked = some mediaPath ∧
      validHLSQueryV1 (queryValues request.rawQuery) = true ∧
      parsedPath (handler.address ++ byte '/' :: mediaPath) = some upstream.path ∧
      upstream.rawQuery = request.rawQuery := by
  unfold serveHLS at h
  split at h
  · cases h
  split at h
  · rename_i record secrets
    split at h
    · cases h
    split at h
    · cases h
    rename_i renditions _
    split at h
    · cases h
    split at h
    · cases h
    rename_i mediaPath hpath
    split at h
    · rename_i hquery
      unfold proxyAsset at h
      split at h
      · cases h
      · rename_i path hparsed
        cases h
        exact ⟨record, secrets, renditions, mediaPath, rfl, hpath, hquery, hparsed, rfl⟩
    · cases h
  · cases h

/-! ## The query that is sent -/

/-- Bytes that neither end a path nor are read as something else. -/
@[reducible] def Plain (b : UInt8) : Prop := b ≠ byte '%' ∧ b ≠ byte '?' ∧ b ≠ byte '#'

theorem unescape_cons {b : UInt8} (h : b ≠ byte '%') (rest : Bytes) :
    unescape false (b :: rest) = (unescape false rest).map (b :: ·) := by
  conv_lhs => unfold unescape
  rw [if_neg h]
  simp

theorem unescape_append {front : Bytes} (h : byte '%' ∉ front) (rest : Bytes) :
    unescape false (front ++ rest) = (unescape false rest).map (front ++ ·) := by
  induction front with
  | nil => simp
  | cons b front ih =>
    rw [List.mem_cons, not_or] at h
    rw [List.cons_append, unescape_cons (Ne.symm h.1), ih h.2, Option.map_map]
    rfl

theorem unescape_length {query : Bool} {text read : Bytes} (h : unescape query text = some read) :
    read.length ≤ text.length ∧ (byte '%' ∈ text → read.length < text.length) := by
  fun_induction unescape query text generalizing read with
  | case1 =>
    cases h
    exact ⟨Nat.le_refl _, nofun⟩
  | case2 high low more a b ha hb ih =>
    obtain ⟨rest, hrest, rfl⟩ := Option.map_eq_some_iff.mp h
    have hle := (ih hrest).1
    refine ⟨?_, fun _ => ?_⟩ <;> simp only [List.length_cons] <;> omega
  | case3 => cases h
  | case4 => cases h
  | case5 b rest hb ih =>
    obtain ⟨tail, htail, rfl⟩ := Option.map_eq_some_iff.mp h
    obtain ⟨hle, hlt⟩ := ih htail
    refine ⟨Nat.succ_le_succ hle, ?_⟩
    intro hmem
    rcases List.mem_cons.mp hmem with heq | hmem
    · exact absurd heq.symm hb
    · exact Nat.succ_lt_succ (hlt hmem)

def pathPart (name : Bytes) : Bytes := (name.takeWhile (· ≠ byte '#')).takeWhile (· ≠ byte '?')

theorem pathPart_length (name : Bytes) : (pathPart name).length ≤ name.length :=
  ((List.takeWhile_prefix _).trans (List.takeWhile_prefix _)).length_le

theorem parsedPath_media {address front name path : Bytes}
    (haddress : ∀ b ∈ address, b ∉ [byte '/', byte '?', byte '#']) (hfront : ∀ b ∈ front, Plain b)
    (h : parsedPath (address ++ byte '/' :: (front ++ byte '/' :: name)) = some path) :
    ∃ read, unescape false (pathPart name) = some read ∧ path = byte '/' :: (front ++ byte '/' :: read) := by
  have hsplit : ∀ sep ∈ [byte '?', byte '#'], ∀ rest : Bytes,
      (address ++ byte '/' :: (front ++ byte '/' :: rest)).takeWhile (· ≠ sep) =
        address ++ byte '/' :: (front ++ byte '/' :: rest.takeWhile (· ≠ sep)) := by
    intro sep hsep rest
    have hslash : byte '/' ≠ sep := by
      rintro rfl
      exact absurd hsep (by decide)
    have hpass : ∀ b ∈ front, b ≠ sep := by
      rintro b hb rfl
      rcases List.mem_cons.mp hsep with rfl | hsep
      · exact (hfront _ hb).2.1 rfl
      · exact (hfront _ hb).2.2 (List.mem_singleton.mp hsep)
    have hstart : ∀ b ∈ address, b ≠ sep := by
      rintro b hb rfl
      exact haddress b hb (List.mem_cons_of_mem _ hsep)
    rw [List.takeWhile_append_of_pos fun b hb => decide_eq_true (hstart b hb),
      List.takeWhile_cons_of_pos (by simpa using hslash),
      List.takeWhile_append_of_pos fun b hb => decide_eq_true (hpass b hb),
      List.takeWhile_cons_of_pos (by simpa using hslash)]
  have hdrop : ∀ rest : Bytes, (address ++ byte '/' :: rest).dropWhile (· ≠ byte '/') = byte '/' :: rest := by
    intro rest
    rw [List.dropWhile_append_of_pos, List.dropWhile_cons_of_neg]
    · simp
    · intro b hb
      refine decide_eq_true ?_
      rintro rfl
      exact haddress _ hb List.mem_cons_self
  have hprefix : byte '%' ∉ byte '/' :: (front ++ [byte '/']) := by
    simp only [List.mem_cons, List.mem_append, List.not_mem_nil, or_false, not_or]
    exact ⟨by decide, fun hmem => (hfront _ hmem).1 rfl, by decide⟩
  have hsame : ∀ rest : Bytes, byte '/' :: (front ++ byte '/' :: rest) = byte '/' :: (front ++ [byte '/']) ++ rest := by
    intro rest
    simp
  simp only [parsedPath, cutAt, hsplit _ (List.mem_cons_of_mem _ List.mem_cons_self) name] at h
  split at h
  · cases h
  · rw [hsplit _ List.mem_cons_self, hdrop, hsame, unescape_append hprefix] at h
    obtain ⟨whole, hwhole, h⟩ := Option.bind_eq_some_iff.mp h
    obtain ⟨read, hread, rfl⟩ := Option.map_eq_some_iff.mp hwhole
    obtain ⟨-, -, h⟩ := Option.bind_eq_some_iff.mp h
    cases h
    exact ⟨read, hread, (hsame read).symm⟩

theorem read_back_iff {name read : Bytes} (h : unescape false (pathPart name) = some read) :
    read = name ↔ ∀ b ∈ name, Plain b := by
  obtain ⟨hle, hlt⟩ := unescape_length h
  have hpart := pathPart_length name
  constructor
  · rintro rfl
    have hwhole : pathPart read = read :=
      (((List.takeWhile_prefix _).trans (List.takeWhile_prefix _)).eq_of_length (Nat.le_antisymm hpart hle))
    have hnumber : read.takeWhile (· ≠ byte '#') = read := by
      refine (List.takeWhile_prefix _).eq_of_length (Nat.le_antisymm (List.takeWhile_prefix _).length_le ?_)
      exact Nat.le_trans hle (List.takeWhile_prefix _).length_le
    have hquestion : read.takeWhile (· ≠ byte '?') = read := by
      rw [pathPart, hnumber] at hwhole
      exact hwhole
    intro b hb
    refine ⟨?_, ?_, ?_⟩
    · rintro rfl
      rw [hwhole] at hlt
      exact absurd (hlt hb) (Nat.lt_irrefl _)
    · exact of_decide_eq_true (List.takeWhile_eq_self_iff.mp hquestion b hb)
    · exact of_decide_eq_true (List.takeWhile_eq_self_iff.mp hnumber b hb)
  · intro hplain
    have hnumber : name.takeWhile (· ≠ byte '#') = name :=
      List.takeWhile_eq_self_iff.mpr fun b hb => decide_eq_true (hplain b hb).2.2
    have hquestion : name.takeWhile (· ≠ byte '?') = name :=
      List.takeWhile_eq_self_iff.mpr fun b hb => decide_eq_true (hplain b hb).2.1
    rw [pathPart, hnumber, hquestion, ← List.append_nil name,
      unescape_append (fun hmem => (hplain _ hmem).1 rfl)] at h
    simpa [unescape] using h.symm

theorem opaque_chars {id : String} (h : opaqueIDPattern id = true) :
    ∀ c ∈ id.toList, (isAlphaNum c || c == '.' || c == '_' || c == ':' || c == '-') = true := by
  intro c hc
  unfold opaqueIDPattern at h
  split at h
  · cases h
  · rename_i first rest hid
    rw [hid] at hc
    simp only [Bool.and_eq_true, List.all_eq_true] at h
    rcases List.mem_cons.mp hc with rfl | hrest
    · simp [h.1.1]
    · exact h.1.2 c hrest

theorem plain_of_all {bytes : Bytes} (h : bytes.all (Plain ·) = true) : ∀ b ∈ bytes, Plain b :=
  fun b hb => of_decide_eq_true (List.all_eq_true.mp h b hb)

theorem opaque_plain {id : String} (h : opaqueIDPattern id = true) : ∀ b ∈ goBytes id, Plain b := by
  have hall : ∀ n : Fin 128, (isAlphaNum (Char.ofNat n) || Char.ofNat n == '.' || Char.ofNat n == '_' ||
      Char.ofNat n == ':' || Char.ofNat n == '-') = true →
        (String.utf8EncodeChar (Char.ofNat n)).all (Plain ·) = true := by
    decide +kernel
  intro b hb
  obtain ⟨c, hc, hb⟩ := List.mem_flatMap.mp hb
  have hsmall : c.toNat < 128 := by
    have hc := opaque_chars h c hc
    simp only [isAlphaNum, Bool.or_eq_true, Bool.and_eq_true, decide_eq_true_eq, beq_iff_eq] at hc
    have hle : ∀ d : Char, c ≤ d → d.toNat < 128 → c.toNat < 128 := fun d hd hlt => Nat.lt_of_le_of_lt hd hlt
    rcases hc with ((((((⟨-, hc⟩ | ⟨-, hc⟩) | ⟨-, hc⟩) | rfl) | rfl) | rfl) | rfl)
    · exact hle 'Z' hc (by decide)
    · exact hle 'z' hc (by decide)
    · exact hle '9' hc (by decide)
    all_goals decide
  have hplain := hall ⟨c.toNat, hsmall⟩
  rw [Char.ofNat_toNat] at hplain
  exact plain_of_all (hplain (opaque_chars h c hc)) b hb

theorem own_plain {runnerID rendition : String} {own : Bytes}
    (h : renditionMediaPathV1 runnerID rendition = some own) : ∀ b ∈ own, Plain b := by
  unfold renditionMediaPathV1 at h
  split at h
  · rename_i hids
    cases h
    have hparts : goBytes ("renditions/" ++ runnerID ++ "/" ++ rendition) =
        goBytes "renditions/" ++ goBytes runnerID ++ goBytes "/" ++ goBytes rendition := by
      simp [goBytes, JsonText.utf8Bytes]
    rw [hparts]
    intro b hb
    simp only [List.mem_append] at hb
    rcases hb with ((hb | hb) | hb) | hb
    · exact plain_of_all rfl b hb
    · exact opaque_plain hids.1 b hb
    · exact plain_of_all rfl b hb
    · exact opaque_plain hids.2 b hb
  · cases h

theorem renditionAssetPathV1_some {runnerID : String} {renditions : List String} {asset mediaPath : Bytes}
    (h : renditionAssetPathV1 runnerID renditions asset = some mediaPath) :
    ∃ rendition name own, asset = goBytes rendition ++ byte '/' :: name ∧ validHLSAssetNameV1 name = true ∧
      renditionMediaPathV1 runnerID rendition = some own ∧ mediaPath = own ++ byte '/' :: name := by
  unfold renditionAssetPathV1 at h
  split at h
  · cases h
  split at h
  · rename_i part name hsplit
    split at h
    · cases h
    · rename_i rendition hfind
      split at h
      · rename_i hname
        obtain ⟨own, hown, rfl⟩ := Option.map_eq_some_iff.mp h
        refine ⟨rendition, name, own, ?_, hname, hown, rfl⟩
        have hpart : goBytes rendition = part := by simpa using List.find?_some hfind
        have hjoin : [byte '/'].intercalate (asset.splitOn (byte '/')) = asset :=
          List.intercalate_splitOn _
        rw [← hjoin, hsplit, hpart]
        simp [List.intercalate]
      · cases h
  · cases h

/-- A request that is passed on asks for the session's own rendition and the asset that was
checked, exactly when the asset's name has no byte with a meaning in a URL. -/
theorem forwarded_path (h : serveHLS handler loaded request = .forwarded upstream) :
    ∃ record secrets rendition name own, loaded = some (record, some secrets) ∧
      request.checked = goBytes rendition ++ byte '/' :: name ∧ validHLSAssetNameV1 name = true ∧
      renditionMediaPathV1 record.runnerSessionID rendition = some own ∧
      (upstream.path = byte '/' :: (own ++ byte '/' :: name) ↔
        byte '%' ∉ name ∧ byte '?' ∉ name ∧ byte '#' ∉ name) := by
  obtain ⟨record, secrets, renditions, mediaPath, hloaded, hasset, -, hparsed, -⟩ := serveHLS_forwarded h
  obtain ⟨rendition, name, own, hchecked, hname, hown, rfl⟩ := renditionAssetPathV1_some hasset
  refine ⟨record, secrets, rendition, name, own, hloaded, hchecked, hname, hown, ?_⟩
  obtain ⟨read, hread, hpath⟩ := parsedPath_media (fun b hb => (handler.plain b hb).2) (own_plain hown) hparsed
  rw [hpath, List.cons.injEq, List.append_cancel_left_eq, List.cons.injEq]
  simp only [true_and]
  rw [read_back_iff hread]
  constructor
  · intro hplain
    exact ⟨fun hmem => (hplain _ hmem).1 rfl, fun hmem => (hplain _ hmem).2.1 rfl, fun hmem => (hplain _ hmem).2.2 rfl⟩
  · rintro ⟨hpercent, hquestion, hnumber⟩ b hb
    refine ⟨?_, ?_, ?_⟩ <;> rintro rfl <;> contradiction

end

/-! ## Requests of one session -/

def sampleHandler : HLSHandlerV1 where
  address := goBytes "127.0.0.1:8888"
  presets := [("p", ["720p"])]
  toLower := id
  plain := by decide +kernel

def sampleHLSRequest (asset query : String) : HLSRequestV1 :=
  ⟨"GET", goBytes "720p", goBytes asset, false, goBytes query⟩

theorem sampleHandler_forwards :
    (∀ query ∈ ["_HLS_msn=7", "token=%zz", ""],
      serveHLS sampleHandler (some (sampleRecord, some sampleSecrets)) (sampleHLSRequest "s.m4s" query) =
        .forwarded ⟨goBytes "/renditions/r1/720p/s.m4s", goBytes query⟩) ∧
    (∀ piece ∈ queryPieces (goBytes "_HLS_msn=7"), queryPair piece ≠ none) ∧
    goBytes "token=%zz" ∈ queryPieces (goBytes "token=%zz") ∧ queryPair (goBytes "token=%zz") = none := by
  decide +kernel

theorem forwarded_path_segment :
    serveHLS sampleHandler (some (sampleRecord, some sampleSecrets)) (sampleHLSRequest "s.m4s" "") =
        .forwarded ⟨goBytes "/renditions/r1/720p/s.m4s", []⟩ ∧
      ∃ rendition name own, (sampleHLSRequest "s.m4s" "").checked = goBytes rendition ++ byte '/' :: name ∧
        (goBytes "/renditions/r1/720p/s.m4s" = byte '/' :: (own ++ byte '/' :: name) ↔
          byte '%' ∉ name ∧ byte '?' ∉ name ∧ byte '#' ∉ name) := by
  have hsent := sampleHandler_forwards.1 "" (by simp)
  obtain ⟨record, secrets, rendition, name, own, -, hchecked, -, -, hpath⟩ := forwarded_path hsent
  exact ⟨hsent, rendition, name, own, hchecked, hpath⟩

/-- A question mark in the name of an asset ends the path. -/
theorem question_mark_sent :
    serveHLS sampleHandler (some (sampleRecord, some sampleSecrets)) (sampleHLSRequest "s?x.m4s" "") =
        .forwarded ⟨goBytes "/renditions/r1/720p/s", []⟩ ∧
      (sampleHLSRequest "s?x.m4s" "").checked = goBytes "720p/s?x.m4s" ∧
      validHLSAssetNameV1 (goBytes "s?x.m4s") = true := by
  decide +kernel

end LivepeerTranscode.LiveRunner
