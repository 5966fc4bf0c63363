import LivepeerTranscode.Gateway.Storage
import LivepeerTranscode.Gateway.RecoveryRequest
import LivepeerTranscode.Shared.RelativeReference
import LivepeerTranscode.TranscodeCore.MasterPlaylist

/-!
# The keys of a ladder

The gateway signs an upload for the master playlist and for the playlist of every rendition;
the runner writes the master playlist with a path for every rendition. A player resolves such a
path against the key of the master playlist.
-/

namespace LivepeerTranscode.Exchange
open Gateway Interaction JsonText TranscodeCore
set_option autoImplicit false

/-! ## The gateway -/

/-- The storage provider signs every upload for the key of its request. -/
def SignedForKeys (h : List GatewayEvent) : Prop :=
  ∀ request signed, (⟨.putSignedUploadUrl request, .ok signed⟩ : GatewayEvent) ∈ h →
    signed.storageKey = storageKey request

def playlistRequest (assetId name codec : String) : UploadRequest :=
  ⟨assetId, "rendition", some name, some codec, "playlist.m3u8", manifestType, 86400⟩

def manifestRequest (assetId : String) : UploadRequest :=
  ⟨assetId, "manifest", none, none, "master.m3u8", manifestType, 86400⟩

/-- The names of the renditions the gateway can ask for. -/
def renditionNames : List String := ["240p", "360p", "480p", "720p", "1080p", "2160p", "audio-only"]

theorem text_mem_renditionNames (resolution : Resolution) : resolution.text ∈ renditionNames := by
  cases resolution <;> decide

def OutputsSigned (assetId : String) (h : List GatewayEvent) (outputs : JsObject AbrDestinations) : Prop :=
  ∀ entry ∈ outputs.properties, ∃ name ∈ renditionNames, ∃ codec signed, entry.1 = js name ∧ codec ≠ "" ∧
    entry.2.playlist = artifactOf signed ∧
    (⟨.putSignedUploadUrl (playlistRequest assetId name codec), .ok signed⟩ : GatewayEvent) ∈ h

theorem mem_set_properties {α : Type} {o : JsObject α} {key : JsString} {value : α} {entry : JsString × α}
    (h : entry ∈ (o.set key value).properties) : entry ∈ o.properties ∨ entry = (key, value) := by
  unfold JsObject.set at h
  split at h
  · obtain ⟨found, hfound, rfl⟩ := List.mem_map.mp h
    split
    · exact .inr rfl
    · exact .inl hfound
  · rcases List.mem_append.mp h with hold | hnew
    · exact .inl hold
    · exact .inr (List.mem_singleton.mp hnew)

section
variable {assetId : String} {h h' : List GatewayEvent} {outputs : JsObject AbrDestinations}

theorem OutputsSigned.later (hsigned : OutputsSigned assetId h outputs) (hextends : h <+: h') :
    OutputsSigned assetId h' outputs := by
  intro entry hentry
  obtain ⟨name, hname, codec, signed, hkey, hcodec, hplaylist, hevent⟩ := hsigned entry hentry
  exact ⟨name, hname, codec, signed, hkey, hcodec, hplaylist, hextends.subset hevent⟩

theorem OutputsSigned.set (hsigned : OutputsSigned assetId h outputs) {name codec : String}
    {destinations : AbrDestinations} {signed : SignedUpload} (hname : name ∈ renditionNames) (hcodec : codec ≠ "")
    (hplaylist : destinations.playlist = artifactOf signed)
    (hevent : (⟨.putSignedUploadUrl (playlistRequest assetId name codec), .ok signed⟩ : GatewayEvent) ∈ h) :
    OutputsSigned assetId h (outputs.set (js name) destinations) := by
  intro entry hentry
  rcases mem_set_properties hentry with hold | rfl
  · exact hsigned entry hold
  · exact ⟨name, hname, codec, signed, rfl, hcodec, hplaylist, hevent⟩

/-- What a program of the gateway leaves when nothing is asked of its calls. -/
abbrev Leaves {α : Type} (returns : List GatewayEvent → α → Prop) (p : GatewayProg α) (h : List GatewayEvent) : Prop :=
  Keeps (fun _ _ => True) returns p h

theorem hexId_leaves (size : Nat) (front : String) : Leaves (fun _ _ => True) (hexId size front) h := by
  refine (Keeps.invoke trivial).bind ?_
  intro h₁ bytes _
  exact .pure trivial

theorem sourceUrlOf_leaves (source : String) : Leaves (fun _ _ => True) (sourceUrlOf source) h := by
  unfold sourceUrlOf
  split
  · exact .pure trivial
  · exact (Keeps.attempt trivial).weaken fun _ _ _ => trivial

theorem uploadDestinations_leaves (name codec : String) :
    Leaves (fun h' destinations => h <+: h' ∧ ∃ signed, destinations.playlist = artifactOf signed ∧
      (⟨.putSignedUploadUrl (playlistRequest assetId name codec), .ok signed⟩ : GatewayEvent) ∈ h')
      (uploadDestinations assetId name codec) h := by
  refine Keeps.extends ?_
  refine (Keeps.attempt trivial).bind ?_
  rintro h₁ playlist ⟨answer, rfl, rfl⟩
  refine (Keeps.attempt trivial).bind ?_
  rintro h₂ stream ⟨answer', rfl, rfl⟩
  refine .pure ⟨playlist, rfl, ?_⟩
  exact List.mem_append_left _ (List.mem_append_right _ (List.mem_singleton_self _))

theorem insertRenditions_leaves (specs : List RenditionSpec) (rows : List (String × String))
    (houtputs : OutputsSigned assetId h outputs) :
    Leaves (fun h' result => OutputsSigned assetId h' result.2) (insertRenditions assetId specs rows outputs) h := by
  induction specs generalizing rows outputs h with
  | nil => exact .pure houtputs
  | cons spec rest ih =>
    refine (Keeps.extends (hexId_leaves 12 "rend_")).bind ?_
    rintro h₁ id ⟨hextends, -⟩
    refine (Keeps.extends (Keeps.attempt trivial)).bind ?_
    rintro h₂ row ⟨hextends', -⟩
    refine (uploadDestinations_leaves spec.resolution.text "h264").bind ?_
    rintro h₃ destinations ⟨hextends'', signed, hplaylist, hevent⟩
    refine ih _ ?_
    exact (houtputs.later (hextends.trans (hextends'.trans hextends''))).set (text_mem_renditionNames _) (by decide)
      hplaylist hevent

theorem withAudio_leaves (audioOnly : Bool) (houtputs : OutputsSigned assetId h outputs) :
    Leaves (fun h' result => OutputsSigned assetId h' result) (withAudio assetId audioOnly outputs) h := by
  unfold withAudio
  split
  · refine (uploadDestinations_leaves "audio-only" "audio").bind ?_
    rintro h₁ destinations ⟨hextends, signed, hplaylist, hevent⟩
    exact .pure ((houtputs.later hextends).set (by decide) (by decide) hplaylist hevent)
  · exact .pure houtputs

def IntentSigned (h : List GatewayEvent) (intent : AbrIntent) : Prop :=
  OutputsSigned intent.asset.id h intent.outputs ∧
    (⟨.putSignedUploadUrl (manifestRequest intent.asset.id), .ok intent.manifest⟩ : GatewayEvent) ∈ h

theorem prepareAbr_leaves (P : Platform) (asset : Asset) (route : SelectedWorkerRoute) :
    Leaves IntentSigned (prepareAbr P asset route) h := by
  unfold prepareAbr
  split
  · exact .throw
  · refine Keeps.lift.bind ?_
    intro h₁ _ _
    refine (sourceUrlOf_leaves _).bind ?_
    intro h₂ sourceUrl _
    refine (Keeps.attempt trivial).bind ?_
    intro h₃ probe _
    refine (Keeps.attempt trivial).bind ?_
    intro h₄ _ _
    refine Keeps.lift.bind ?_
    intro h₅ funding _
    refine (insertRenditions_leaves _ _ (fun entry hentry => absurd hentry List.not_mem_nil)).bind ?_
    rintro h₆ ⟨rows, outputs⟩ houtputs
    refine (withAudio_leaves _ houtputs).bind ?_
    intro h₇ outputs houtputs
    refine (Keeps.extends (Keeps.attempt trivial)).bind ?_
    rintro h₈ manifest ⟨hextends, answer, rfl, rfl⟩
    refine (Keeps.extends (hexId_leaves 8 "req_")).bind ?_
    rintro h₉ requestId ⟨hextends', -⟩
    refine Keeps.lift.bind ?_
    rintro h₁₀ encoded ⟨rfl, -⟩
    refine .pure ⟨houtputs.later (hextends.trans hextends'), ?_⟩
    exact hextends'.subset (List.mem_append_right _ (List.mem_singleton_self _))

end

/-! ## The runner -/

def variantPath (name : String) : String := name ++ "/playlist.m3u8"

/-- `manifestPaths` of `Execute`. -/
def manifestPaths (renditions : List ABRRendition) : List (String × String) :=
  renditions.map fun r => (r.name, variantPath r.name)

theorem lookup_manifestPaths {renditions : List ABRRendition} {r : ABRRendition} (h : r ∈ renditions) :
    (manifestPaths renditions).lookup r.name = some (variantPath r.name) := by
  induction renditions with
  | nil => cases h
  | cons first renditions ih =>
    rw [manifestPaths, List.map_cons, List.lookup_cons]
    cases hname : r.name == first.name with
    | true => rw [eq_of_beq hname]
    | false =>
      rcases List.mem_cons.mp h with rfl | hrest
      · rw [BEq.rfl] at hname
        cases hname
      · exact ih hrest

theorem toList_variantPath (name : String) :
    (variantPath name).toList = name.toList ++ '/' :: "playlist.m3u8".toList := by
  rw [variantPath, String.toList_append]
  rfl

structure PlainName (name : String) : Prop where
  proper : name.toList ≠ ['.'] ∧ name.toList ≠ ['.', '.']
  noSlash : '/' ∉ name.toList
  noNewline : '\n' ∉ name.toList
  starts : name.toList ≠ [] ∧ name.toList.head? ≠ some '#'
  nonempty : name ≠ ""

theorem plainName_of_mem {name : String} (h : name ∈ renditionNames) : PlainName name := by
  have hall : ∀ name ∈ renditionNames, (name.toList ≠ ['.'] ∧ name.toList ≠ ['.', '.']) ∧ '/' ∉ name.toList ∧
      '\n' ∉ name.toList ∧ (name.toList ≠ [] ∧ name.toList.head? ≠ some '#') ∧ name ≠ "" := by decide
  obtain ⟨hproper, hslash, hnewline, hstarts, hnonempty⟩ := hall name h
  exact ⟨hproper, hslash, hnewline, hstarts, hnonempty⟩

/-! ## Keys and references -/

theorem playlistKey_toList (assetId : String) {name codec : String} (hname : name ≠ "") (hcodec : codec ≠ "") :
    ∃ front, (storageKey (playlistRequest assetId name codec)).toList =
      (front ++ ['-']) ++ (variantPath name).toList := by
  have hsegment : renditionSegment (some codec) (some name) = [codec ++ "-" ++ name] := by
    simp [renditionSegment, truthy, Option.filter, hname, hcodec]
  have hsegments : pathSegments ⟨"rendition", some assetId, none, some codec, some name, "playlist.m3u8"⟩ =
      ("renditions" :: (truthy (some assetId)).toList) ++ [codec ++ "-" ++ name] ++ ["playlist.m3u8"] := by
    rw [pathSegments, hsegment]
    simp [pathKindPrefixes, List.lookup, truthy]
  refine ⟨(("renditions" :: (truthy (some assetId)).toList).map String.toList).flatMap (· ++ ['/']) ++ codec.toList, ?_⟩
  have hslash : "/".toList = ['/'] := rfl
  rw [storageKey, pathFor]
  simp only [playlistRequest, hsegments]
  rw [String.toList_intercalate, hslash, List.map_append, List.map_singleton,
    RelativeReference.intercalate_concat, List.map_append, List.flatMap_append, toList_variantPath]
  simp [String.toList_append]

theorem resolve_ne_playlistKey (base : List Char) (assetId : String) {name codec : String} (hname : PlainName name)
    (hcodec : codec ≠ "") :
    RelativeReference.resolve base (variantPath name).toList ≠
      (storageKey (playlistRequest assetId name codec)).toList := by
  obtain ⟨front, hresolved, hlast⟩ := @RelativeReference.resolve_pair base name.toList "playlist.m3u8".toList
    hname.proper (by unfold RelativeReference.Proper; decide) hname.noSlash (by decide)
  obtain ⟨keyFront, hkey⟩ := playlistKey_toList assetId hname.nonempty hcodec
  intro heq
  rw [toList_variantPath] at heq hkey
  rw [hresolved, hkey] at heq
  have hfront : front = keyFront ++ ['-'] := List.append_cancel_right heq
  rw [hfront, List.getLast?_concat] at hlast
  exact absurd (hlast '-' rfl) (by decide)

/-- A player reads one variant for every rendition, and none of them resolves to the key that the
playlist of its rendition is uploaded to. -/
theorem variants_never_resolve (P : Platform) {asset : Asset} {route : SelectedWorkerRoute}
    {h : List GatewayEvent} {intent : AbrIntent}
    (hrun : Reaches (prepareAbr P asset route).run h (.pure (.ok intent))) (hsigned : SignedForKeys h)
    (parseFloat : List Char → Option (Option ℚ)) (renditions : List ABRRendition)
    (hrequested : ∀ r ∈ renditions, ∃ destinations, (js r.name, destinations) ∈ intent.outputs.properties) :
    playlistURIs (generateMasterPlaylist parseFloat renditions (manifestPaths renditions)) =
      (renditions.map fun r => (variantPath r.name).toList) ∧
    ∀ r ∈ renditions, ∀ destinations, (js r.name, destinations) ∈ intent.outputs.properties →
      RelativeReference.resolve intent.manifest.storageKey.toList (variantPath r.name).toList ≠
        (goText destinations.playlist.artifactUri).toList := by
  obtain ⟨houtputs, -⟩ : IntentSigned h intent :=
    Obeys.reaches (prepareAbr_leaves (h := []) P asset route) hrun intent rfl
  have hplain : ∀ r ∈ renditions, PlainName r.name := by
    intro r hr
    obtain ⟨destinations, hentry⟩ := hrequested r hr
    obtain ⟨name, hname, codec, signed, hkey, -⟩ := houtputs _ hentry
    have hsame : r.name = name := js_injective hkey
    rw [hsame]
    exact plainName_of_mem hname
  refine ⟨?_, ?_⟩
  · refine playlistURIs_generate parseFloat (fun r hr => lookup_manifestPaths hr) ?_ ?_
    · intro r hr
      rw [toList_variantPath, List.mem_append, not_or]
      exact ⟨(hplain r hr).noNewline, by decide⟩
    · intro r hr
      obtain ⟨hne, hhead⟩ := (hplain r hr).starts
      rw [toList_variantPath, List.head?_append_of_ne_nil _ hne]
      exact ⟨by simp, hhead⟩
  · intro r hr destinations hentry
    obtain ⟨name, hname, codec, signed, hkey, hcodec, hplaylist, hevent⟩ := houtputs _ hentry
    have hsame : r.name = name := js_injective hkey
    rw [hplaylist, artifactOf, goText_js, hsigned _ _ hevent, ← hsame]
    exact resolve_ne_playlistKey _ _ (hplain r hr) hcodec

/-! ## A ladder -/

def ladderUpload (request : UploadRequest) : SignedUpload := ⟨"https://s/" ++ storageKey request, storageKey request⟩

/-- A storage that signs for the key of the request. -/
def ladderReply : (e : Call) → e.Answer
  | .putSignedUploadUrl request => .ok (ladderUpload request)
  | e => vodReply e

theorem ladderReply_signed {α : Type} (p : Prog Call Call.Answer α) : SignedForKeys (p.trace ladderReply) := by
  intro request signed hmem
  have hanswer := mem_trace ladderReply hmem
  cases hanswer
  rfl

def ladderOutputs : JsObject AbrDestinations :=
  outputsBy ladderUpload "a1" (presets .baseline).renditions JsObject.empty

set_option maxRecDepth 100000 in
theorem ladder_prepared : ∃ intent, (prepareAbr vodPlatform vodAsset vodRoute).run.outcome ladderReply = .ok intent ∧
    (intent.manifest, intent.outputs) = (ladderUpload (manifestRequest "a1"), ladderOutputs) :=
  ⟨_, by with_unfolding_all rfl, by with_unfolding_all rfl⟩

theorem ladder_runs : ∃ h intent, Reaches (prepareAbr vodPlatform vodAsset vodRoute).run h (.pure (.ok intent)) ∧
    SignedForKeys h ∧ intent.manifest = ladderUpload (manifestRequest "a1") ∧ intent.outputs = ladderOutputs := by
  obtain ⟨intent, houtcome, hintent⟩ := ladder_prepared
  exact ⟨_, intent, houtcome ▸ reaches_outcome ladderReply (prepareAbr vodPlatform vodAsset vodRoute).run,
    ladderReply_signed _, Prod.mk.inj hintent⟩

def ladderRendition : ABRRendition :=
  ⟨"720p", some ⟨"h264", 1280, 720, "2500", "high", "3.1"⟩, ⟨"aac", "128"⟩⟩

/-- The variant at 720 lines is read from the playlist and points to no uploaded playlist. -/
theorem variants_never_resolve_ladder : ∃ h intent,
    Reaches (prepareAbr vodPlatform vodAsset vodRoute).run h (.pure (.ok intent)) ∧ SignedForKeys h ∧
    intent.manifest.storageKey = "manifests/a1/master.m3u8" ∧
    playlistURIs (generateMasterPlaylist (fun _ => none) [ladderRendition] (manifestPaths [ladderRendition])) =
      ["720p/playlist.m3u8".toList] ∧
    ∃ destinations, (js "720p", destinations) ∈ intent.outputs.properties ∧
      goText destinations.playlist.artifactUri = "renditions/a1/h264-720p/playlist.m3u8" ∧
      RelativeReference.resolve intent.manifest.storageKey.toList "720p/playlist.m3u8".toList ≠
        (goText destinations.playlist.artifactUri).toList := by
  obtain ⟨h, intent, hrun, hsigned, hmanifest, houtputs⟩ := ladder_runs
  have hentry : (js "720p", destinationsBy ladderUpload "a1" "720p" "h264") ∈ intent.outputs.properties := by
    rw [houtputs]
    exact List.mem_cons_self
  obtain ⟨huris, hnever⟩ := variants_never_resolve vodPlatform hrun hsigned (fun _ => none) [ladderRendition]
    (by
      intro r hr
      rw [List.mem_singleton.mp hr]
      exact ⟨_, hentry⟩)
  refine ⟨h, intent, hrun, hsigned, by rw [hmanifest]; decide, huris.trans (by decide), _, hentry, ?_, ?_⟩
  · exact (goText_js _).trans (by decide)
  · exact hnever ladderRendition (List.mem_singleton_self _) _ hentry

/-- The playlist of a run at the gateway, and where its variant resolves to. -/
theorem ladder_variant_misses : ∃ h intent destinations,
    Reaches (prepareAbr vodPlatform vodAsset vodRoute).run h (.pure (.ok intent)) ∧ SignedForKeys h ∧
    (js "720p", destinations) ∈ intent.outputs.properties ∧
    "720p/playlist.m3u8".toList ∈
      playlistURIs (generateMasterPlaylist (fun _ => none) [ladderRendition] (manifestPaths [ladderRendition])) ∧
    RelativeReference.resolve intent.manifest.storageKey.toList "720p/playlist.m3u8".toList =
      "manifests/a1/720p/playlist.m3u8".toList ∧
    goText destinations.playlist.artifactUri = "renditions/a1/h264-720p/playlist.m3u8" := by
  obtain ⟨h, intent, hrun, hsigned, hmanifest, houtputs⟩ := ladder_runs
  refine ⟨h, intent, destinationsBy ladderUpload "a1" "720p" "h264", hrun, hsigned, ?_, by decide, ?_, ?_⟩
  · rw [houtputs]
    exact List.mem_cons_self
  · rw [hmanifest]
    decide
  · exact (goText_js _).trans (by decide)

end LivepeerTranscode.Exchange
