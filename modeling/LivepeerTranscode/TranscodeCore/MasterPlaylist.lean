import LivepeerTranscode.Shared.Binary64
import LivepeerTranscode.Shared.GoText

/-!
# Master playlists

`GenerateMasterPlaylist` of `transcode-core/hls.go`, with the bandwidth and the codec
attribute of a variant, and the URIs a player reads from the text.
-/

namespace LivepeerTranscode.TranscodeCore
open GoText
set_option autoImplicit false

structure ABRVideoSettings where
  codec : String
  width : Int
  height : Int
  bitrate : String
  profile : String
  level : String

structure ABRAudioSettings where
  codec : String
  bitrate : String

/-- A rung of a ladder, with the settings the playlist names. -/
structure ABRRendition where
  name : String
  video : Option ABRVideoSettings
  audio : ABRAudioSettings

/-! ## Bandwidth -/

/-- `%d` -/
def decimalText : Int → List Char
  | .ofNat n => Nat.toDigits 10 n
  | .negSucc n => '-' :: Nat.toDigits 10 (n + 1)

def trimSpace (text : List Char) : List Char :=
  ((text.dropWhile isSpace).reverse.dropWhile isSpace).reverse

def decimalDigits (digits : List Char) : Option Int :=
  if digits = [] ∨ ¬ digits.all Char.isDigit then none
  else some (digits.foldl (fun n c => 10 * n + (c.toNat - 48)) 0)

/-- `strconv.Atoi` -/
def atoi (text : List Char) : Option Int :=
  let value :=
    match text with
    | '-' :: digits => (decimalDigits digits).map fun n => -n
    | '+' :: digits => decimalDigits digits
    | digits => decimalDigits digits
  value.filter fun n => -2 ^ 63 ≤ n ∧ n < 2 ^ 63

/-- `int(x)`, for a number out of range as it is on amd64. -/
def truncated : Option ℚ → Int
  | some x => if |x| < 2 ^ 63 then x.num.tdiv x.den else -2 ^ 63
  | none => -2 ^ 63

section
-- `strconv.ParseFloat`: none where it fails, and no value where the number is not finite.
variable (parseFloat : List Char → Option (Option ℚ))

def scaledBandwidth (multiplier : ℚ) (text : List Char) : Int :=
  match parseFloat text with
  | some value => truncated (value.bind fun x => Binary64.mul x multiplier)
  | none => 0

def parseBandwidth (bitrate : String) : Int :=
  if bitrate = "" then 0
  else
    let text := trimSpace bitrate.toList
    match text.getLast? with
    | some 'M' | some 'm' => scaledBandwidth parseFloat 1000000 text.dropLast
    | some 'K' | some 'k' => scaledBandwidth parseFloat 1000 text.dropLast
    | _ => (atoi text).getD 0

/-! ## Codecs -/

/-- `strings.ToLower`, as far as an ASCII word can be the result. -/
def lowerText (text : String) : String :=
  String.ofList (text.toList.map fun c =>
    if c.toNat = 0x130 then 'i' else if c.toNat = 0x212A then 'k' else c.toLower)

def h264LevelToHex (level : String) : String :=
  if level = "3.0" then "1E"
  else if level = "3.1" then "1F"
  else if level = "4.0" then "28"
  else if level = "4.1" then "29"
  else if level = "4.2" then "2A"
  else if level = "5.0" then "32"
  else if level = "5.1" then "33"
  else if level = "5.2" then "34"
  else "1F"

def h264ProfileHex (profile : String) : String :=
  if lowerText profile = "baseline" then "4200"
  else if lowerText profile = "main" then "4D00"
  else "6400"

def videoCodecParts (codec profile level : String) : List String :=
  if lowerText codec = "h264" ∨ lowerText codec = "avc" then
    ["avc1." ++ h264ProfileHex profile ++ h264LevelToHex level]
  else if lowerText codec = "h265" ∨ lowerText codec = "hevc" then ["hvc1.1.6.L120.B0"]
  else if lowerText codec = "av1" then ["av01.0.08M.08"]
  else []

def audioCodecParts (codec : String) : List String :=
  if lowerText codec = "aac" then ["mp4a.40.2"]
  else if lowerText codec = "opus" then ["Opus"]
  else []

def hlsCodecString (videoCodec profile level audioCodec : String) : List Char :=
  [','].intercalate ((videoCodecParts videoCodec profile level ++ audioCodecParts audioCodec).map String.toList)

/-! ## The playlist -/

def codecsAttribute (codecs : List Char) : List Char :=
  if codecs = [] then [] else ",CODECS=\"".toList ++ codecs ++ ['"']

def streamInf (r : ABRRendition) : List Char :=
  match r.video with
  | some video =>
    "#EXT-X-STREAM-INF:BANDWIDTH=".toList ++
      decimalText (Int.bmod (parseBandwidth parseFloat video.bitrate + parseBandwidth parseFloat r.audio.bitrate)
        (2 ^ 64)) ++
      ",RESOLUTION=".toList ++ decimalText video.width ++ ['x'] ++ decimalText video.height ++
      codecsAttribute (hlsCodecString video.codec video.profile video.level r.audio.codec)
  | none => "#EXT-X-STREAM-INF:BANDWIDTH=".toList ++ decimalText (parseBandwidth parseFloat r.audio.bitrate)

def variantText (playlistPaths : List (String × String)) (r : ABRRendition) : List Char :=
  match playlistPaths.lookup r.name with
  | none => []
  | some path => streamInf parseFloat r ++ ['\n'] ++ (path.toList ++ ['\n'])

def generateMasterPlaylist (renditions : List ABRRendition) (playlistPaths : List (String × String)) : List Char :=
  "#EXTM3U\n".toList ++ "#EXT-X-VERSION:7\n".toList ++ "\n".toList ++
    renditions.flatMap (variantText parseFloat playlistPaths)

/-! ## What a player reads -/

/-- The URIs of a playlist: its lines that are neither blank nor begin with `#`. -/
def playlistURIs (text : List Char) : List (List Char) :=
  (text.splitOn '\n').filter fun line => line ≠ [] ∧ line.head? ≠ some '#'

theorem splitOn_lines {lines : List (List Char)} (h : ∀ line ∈ lines, '\n' ∉ line) :
    (lines.flatMap (· ++ ['\n'])).splitOn '\n' = lines ++ [[]] := by
  induction lines with
  | nil => rfl
  | cons line lines ih =>
    rw [List.forall_mem_cons] at h
    rw [List.flatMap_cons, List.append_assoc, List.singleton_append, List.splitOn_append_cons_self,
      List.splitOn_eq_singleton h.1, ih h.2]
    rfl

theorem newline_notMem_decimalText (n : Int) : '\n' ∉ decimalText n := by
  have hdigits : ∀ m, '\n' ∉ Nat.toDigits 10 m := by
    intro m hmem
    exact absurd (Nat.isDigit_of_mem_toDigits (by decide) (by decide) hmem) (by decide)
  cases n with
  | ofNat m => exact hdigits m
  | negSucc m =>
    rw [decimalText, List.mem_cons, not_or]
    exact ⟨by decide, hdigits _⟩

theorem newline_notMem_level (level : String) : '\n' ∉ (h264LevelToHex level).toList := by
  unfold h264LevelToHex
  repeat' split
  all_goals decide

theorem newline_notMem_profile (profile : String) : '\n' ∉ (h264ProfileHex profile).toList := by
  unfold h264ProfileHex
  repeat' split
  all_goals decide

theorem newline_notMem_videoCodecParts {codec profile level part : String}
    (h : part ∈ videoCodecParts codec profile level) : '\n' ∉ part.toList := by
  unfold videoCodecParts at h
  split at h
  · rw [List.mem_singleton.mp h, String.toList_append, String.toList_append, List.mem_append, List.mem_append,
      not_or, not_or]
    exact ⟨⟨by decide, newline_notMem_profile profile⟩, newline_notMem_level level⟩
  · split at h
    · rw [List.mem_singleton.mp h]
      decide
    · split at h
      · rw [List.mem_singleton.mp h]
        decide
      · cases h

theorem newline_notMem_audioCodecParts {codec part : String} (h : part ∈ audioCodecParts codec) :
    '\n' ∉ part.toList := by
  unfold audioCodecParts at h
  split at h
  · rw [List.mem_singleton.mp h]
    decide
  · split at h
    · rw [List.mem_singleton.mp h]
      decide
    · cases h

theorem notMem_intercalate {c separator : Char} {parts : List (List Char)} (hseparator : c ≠ separator)
    (h : ∀ part ∈ parts, c ∉ part) : c ∉ [separator].intercalate parts := by
  induction parts with
  | nil => exact List.not_mem_nil
  | cons part parts ih =>
    rw [List.forall_mem_cons] at h
    cases parts with
    | nil =>
      rw [List.intercalate_singleton]
      exact h.1
    | cons next parts =>
      rw [List.intercalate_cons_cons, List.mem_append, List.mem_append, List.mem_singleton]
      rintro ((hpart | hseparated) | hrest)
      · exact h.1 hpart
      · exact hseparator hseparated
      · exact ih h.2 hrest

theorem newline_notMem_hlsCodecString (videoCodec profile level audioCodec : String) :
    '\n' ∉ hlsCodecString videoCodec profile level audioCodec := by
  refine notMem_intercalate (by decide) ?_
  intro part hpart
  obtain ⟨text, htext, rfl⟩ := List.mem_map.mp hpart
  rcases List.mem_append.mp htext with hvideo | haudio
  · exact newline_notMem_videoCodecParts hvideo
  · exact newline_notMem_audioCodecParts haudio

theorem newline_notMem_codecsAttribute {codecs : List Char} (h : '\n' ∉ codecs) :
    '\n' ∉ codecsAttribute codecs := by
  unfold codecsAttribute
  split
  · exact List.not_mem_nil
  · rw [List.mem_append, List.mem_append, not_or, not_or]
    exact ⟨⟨by decide, h⟩, by decide⟩

theorem newline_notMem_streamInf (r : ABRRendition) : '\n' ∉ streamInf parseFloat r := by
  unfold streamInf
  split
  · rename_i video hvideo
    have hcodecs := newline_notMem_codecsAttribute
      (newline_notMem_hlsCodecString video.codec video.profile video.level r.audio.codec)
    have hfront : '\n' ∉ "#EXT-X-STREAM-INF:BANDWIDTH=".toList := by decide
    have hresolution : '\n' ∉ ",RESOLUTION=".toList := by decide
    have hby : '\n' ∉ ['x'] := by decide
    simp only [List.mem_append, not_or]
    exact ⟨⟨⟨⟨⟨⟨hfront, newline_notMem_decimalText _⟩, hresolution⟩, newline_notMem_decimalText _⟩, hby⟩,
      newline_notMem_decimalText _⟩, hcodecs⟩
  · rw [List.mem_append, not_or]
    exact ⟨by decide, newline_notMem_decimalText _⟩

theorem streamInf_head (r : ABRRendition) : (streamInf parseFloat r).head? = some '#' := by
  unfold streamInf
  split <;> rfl

def headerLines : List (List Char) := ["#EXTM3U".toList, "#EXT-X-VERSION:7".toList, []]

/-- The lines of a playlist with a path for every rendition. -/
def playlistLines (path : ABRRendition → String) (renditions : List ABRRendition) : List (List Char) :=
  headerLines ++ renditions.flatMap fun r => [streamInf parseFloat r, (path r).toList]

section
variable {renditions : List ABRRendition} {playlistPaths : List (String × String)} {path : ABRRendition → String}

theorem generateMasterPlaylist_eq (hpaths : ∀ r ∈ renditions, playlistPaths.lookup r.name = some (path r)) :
    generateMasterPlaylist parseFloat renditions playlistPaths =
      (playlistLines parseFloat path renditions).flatMap (· ++ ['\n']) := by
  have hheader : "#EXTM3U\n".toList ++ "#EXT-X-VERSION:7\n".toList ++ "\n".toList =
      headerLines.flatMap (· ++ ['\n']) := by simp [headerLines]
  have hvariants : renditions.flatMap (variantText parseFloat playlistPaths) =
      (renditions.flatMap fun r => [streamInf parseFloat r, (path r).toList]).flatMap (· ++ ['\n']) := by
    rw [List.flatMap_assoc]
    refine List.flatMap_congr fun r hr => ?_
    rw [variantText, hpaths r hr]
    simp
  unfold generateMasterPlaylist playlistLines
  rw [List.flatMap_append]
  exact congrArg₂ (· ++ ·) hheader hvariants

theorem newline_notMem_playlistLines (hlines : ∀ r ∈ renditions, '\n' ∉ (path r).toList) :
    ∀ line ∈ playlistLines parseFloat path renditions, '\n' ∉ line := by
  have hheader : ∀ line ∈ headerLines, '\n' ∉ line := by decide
  intro line hline
  rcases List.mem_append.mp hline with hmem | hvariant
  · exact hheader line hmem
  · obtain ⟨r, hr, hmem⟩ := List.mem_flatMap.mp hvariant
    rcases List.mem_pair.mp hmem with rfl | rfl
    · exact newline_notMem_streamInf parseFloat r
    · exact hlines r hr

theorem filter_playlistLines
    (huris : ∀ r ∈ renditions, (path r).toList ≠ [] ∧ (path r).toList.head? ≠ some '#') :
    (playlistLines parseFloat path renditions).filter (fun line => line ≠ [] ∧ line.head? ≠ some '#') =
      renditions.map fun r => (path r).toList := by
  have hheader : headerLines.filter (fun line => line ≠ [] ∧ line.head? ≠ some '#') = [] := by decide
  rw [playlistLines, List.filter_append, hheader, List.nil_append]
  induction renditions with
  | nil => rfl
  | cons r renditions ih =>
    rw [List.forall_mem_cons] at huris
    rw [List.flatMap_cons, List.filter_append, ih huris.2, List.map_cons]
    simp [streamInf_head parseFloat r, huris.1.1, huris.1.2]

theorem playlistURIs_generate (hpaths : ∀ r ∈ renditions, playlistPaths.lookup r.name = some (path r))
    (hlines : ∀ r ∈ renditions, '\n' ∉ (path r).toList)
    (huris : ∀ r ∈ renditions, (path r).toList ≠ [] ∧ (path r).toList.head? ≠ some '#') :
    playlistURIs (generateMasterPlaylist parseFloat renditions playlistPaths) =
      renditions.map fun r => (path r).toList := by
  rw [playlistURIs, generateMasterPlaylist_eq parseFloat hpaths,
    splitOn_lines (newline_notMem_playlistLines parseFloat hlines), List.filter_append,
    filter_playlistLines parseFloat huris]
  exact List.append_nil _

end

end

end LivepeerTranscode.TranscodeCore
