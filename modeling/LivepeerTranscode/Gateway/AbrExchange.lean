import LivepeerTranscode.Shared.JsonString

/-!
# The gateway's ABR request

`encodeAbrExchangeRequest` of `engine/service/abrExchange.ts`: the request is parsed by the
schema, which hands its keys on in schema order, and `JSON.stringify` writes what was parsed.
The renditions are a record whose keys the caller chose, so they are written in the order in
which JavaScript enumerates the properties of an object.
-/

namespace LivepeerTranscode.Gateway
open JsonText
set_option autoImplicit false

def js (text : String) : JsString := utf16 text.toList

def goText (s : JsString) : String := String.ofList (scalars s)

@[simp] theorem goText_js (text : String) : goText (js text) = text := by
  simp [goText, js]

theorem js_injective : Function.Injective js := fun text other h => by
  rw [← goText_js text, h, goText_js]

theorem js_goText {s : JsString} (h : WellFormed s) : js (goText s) = s := by
  rw [js, goText, String.toList_ofList]
  exact h

/-! ## Objects with chosen keys -/

section Object
variable {α β : Type}

def isDigitUnit (u : UInt16) : Bool := 48 ≤ u.toNat && u.toNat ≤ 57

/-- The array index a property key is: a canonical decimal below 2^32 - 1. -/
def arrayIndex (key : JsString) : Option Nat :=
  if key = [] ∨ ¬ key.all isDigitUnit ∨ (key.head? = some 48 ∧ key.length ≠ 1) then none
  else
    let value := key.foldl (fun n u => n * 10 + (u.toNat - 48)) 0
    if value < 2 ^ 32 - 1 then some value else none

/-- An object with its own properties in the order of their creation. -/
structure JsObject (α : Type) where
  properties : List (JsString × α)
  distinct : (properties.map Prod.fst).Nodup

def JsObject.empty : JsObject α := ⟨[], List.nodup_nil⟩

theorem map_fst_replaced {β γ : Type} [DecidableEq β] (key : β) (value : γ) (entries : List (β × γ)) :
    (entries.map fun p => if p.1 = key then (key, value) else p).map Prod.fst = entries.map Prod.fst := by
  induction entries with
  | nil => rfl
  | cons head rest ih =>
    simp only [List.map_cons, ih, List.cons.injEq, and_true]
    split
    · rename_i hkey
      exact hkey.symm
    · rfl

/-- `o[key] = value` -/
def JsObject.set (o : JsObject α) (key : JsString) (value : α) : JsObject α :=
  if h : key ∈ o.properties.map Prod.fst then
    ⟨o.properties.map fun p => if p.1 = key then (key, value) else p, by
      rw [map_fst_replaced]
      exact o.distinct⟩
  else
    ⟨o.properties ++ [(key, value)], by
      rw [List.map_append, List.nodup_append]
      refine ⟨o.distinct, List.nodup_singleton _, ?_⟩
      intro a ha b hb hab
      have hkey : a = key := hab.trans (List.mem_singleton.mp hb)
      exact h (hkey ▸ ha)⟩

/-- `Reflect.ownKeys`: array indices ascending, then the other keys as they were created. -/
def JsObject.ownProperties (o : JsObject α) : List (JsString × α) :=
  (o.properties.filter fun p => (arrayIndex p.1).isSome).insertionSort
      (fun p q => (arrayIndex p.1).getD 0 ≤ (arrayIndex q.1).getD 0) ++
    o.properties.filter fun p => (arrayIndex p.1).isNone

end Object

/-! ## The request and its schema -/

structure AbrArtifact where
  artifactUri : JsString
  uploadUrl : JsString

structure AbrDestinations where
  playlist : AbrArtifact
  stream : AbrArtifact

structure AbrExchangeRequest where
  schema : JsString
  workloadId : JsString
  downloadUrl : JsString
  contentSha256 : Option JsString
  preset : JsString
  manifest : AbrArtifact
  renditions : JsObject AbrDestinations

/-- What the schema hands on; the renditions stand in enumeration order. -/
structure ParsedAbrRequest where
  schema : JsString
  workloadId : JsString
  downloadUrl : JsString
  contentSha256 : Option JsString
  preset : JsString
  manifest : AbrArtifact
  renditions : List (JsString × AbrDestinations)

def abrRequestSchema : JsString := js "video-transcode-abr/v2"

/-- `/^[0-9a-f]{64}$/` -/
def isSha256Hex (s : JsString) : Bool :=
  s.all (fun u => isDigitUnit u || (97 ≤ u.toNat && u.toNat ≤ 102)) && s.length == 64

section
-- The text `z.string().url()` hands on for a string, which it trims, or none where
-- `new URL` throws.
variable (url : JsString → Option JsString)

/-- `z.literal(expected)` -/
def literal (expected s : JsString) : Option JsString := if s = expected then some s else none

/-- `z.string().min(1)` -/
def nonEmpty (s : JsString) : Option JsString := if s = [] then none else some s

def artifact (value : AbrArtifact) : Option AbrArtifact := do
  let artifactUri ← nonEmpty value.artifactUri
  let uploadUrl ← url value.uploadUrl
  return { artifactUri, uploadUrl }

def destinations (value : AbrDestinations) : Option AbrDestinations := do
  let playlist ← artifact url value.playlist
  let stream ← artifact url value.stream
  return { playlist, stream }

/-- `z.record` goes through the own keys and passes over `__proto__`. -/
def renditionRecord : List (JsString × AbrDestinations) → Option (List (JsString × AbrDestinations))
  | [] => some []
  | (name, value) :: rest =>
    if name = js "__proto__" then renditionRecord rest
    else do
      let value ← destinations url value
      let rest ← renditionRecord rest
      return (name, value) :: rest

def optionalSha256 : Option JsString → Option (Option JsString)
  | none => some none
  | some s => if isSha256Hex s then some (some s) else none

/-- `requestWire.safeParse` -/
def requestWire (value : AbrExchangeRequest) : Option ParsedAbrRequest := do
  let schema ← literal abrRequestSchema value.schema
  let workloadId ← nonEmpty value.workloadId
  let downloadUrl ← url value.downloadUrl
  let contentSha256 ← optionalSha256 value.contentSha256
  let preset ← nonEmpty value.preset
  let manifest ← artifact url value.manifest
  let renditions ← renditionRecord url value.renditions.ownProperties
  return { schema, workloadId, downloadUrl, contentSha256, preset, manifest, renditions }

end

/-! ## Encoding -/

abbrev JsDocument : Type := Json JsString Empty

def AbrArtifact.json (value : AbrArtifact) : JsDocument :=
  .obj [(js "artifact_uri", .str value.artifactUri), (js "upload_url", .str value.uploadUrl)]

def AbrDestinations.json (value : AbrDestinations) : JsDocument :=
  .obj [(js "playlist", value.playlist.json), (js "stream", value.stream.json)]

/-- `JSON.stringify` leaves a property without a value out. -/
def inputMembers (downloadUrl : JsString) : Option JsString → List (JsString × JsDocument)
  | none => [(js "download_url", .str downloadUrl)]
  | some s => [(js "download_url", .str downloadUrl), (js "content_sha256", .str s)]

def ParsedAbrRequest.json (value : ParsedAbrRequest) : JsDocument :=
  .obj [(js "schema", .str value.schema), (js "workload_id", .str value.workloadId),
    (js "input", .obj (inputMembers value.downloadUrl value.contentSha256)),
    (js "ladder", .obj [(js "preset", .str value.preset)]),
    (js "output", .obj [(js "manifest", value.manifest.json),
      (js "renditions", .obj (value.renditions.map fun p => (p.1, p.2.json)))])]

structure AbrExchangeError where
  code : String
  retryable : Bool

structure EncodedAbrRequest where
  body : List UInt8
  sha256 : String
  json : JsDocument

def encodeAbrExchangeRequest (url : JsString → Option JsString) (sha256Hex : List UInt8 → String)
    (value : AbrExchangeRequest) : Except AbrExchangeError EncodedAbrRequest :=
  match requestWire url value with
  | none => .error ⟨"abr_request_invalid", false⟩
  | some parsed =>
    let body := utf8Bytes (write jsQuote Empty.elim parsed.json)
    .ok { body, sha256 := sha256Hex body, json := parsed.json }

theorem encodeAbrExchangeRequest_ok {url : JsString → Option JsString}
    {sha256Hex : List UInt8 → String} {value : AbrExchangeRequest} {out : EncodedAbrRequest}
    (h : encodeAbrExchangeRequest url sha256Hex value = .ok out) :
    ∃ parsed, requestWire url value = some parsed ∧ out.json = parsed.json ∧
      out.body = utf8Bytes (write jsQuote Empty.elim parsed.json) ∧ out.sha256 = sha256Hex out.body := by
  unfold encodeAbrExchangeRequest at h
  split at h
  · cases h
  · rename_i parsed hparsed
    cases h
    exact ⟨parsed, hparsed, rfl, rfl, rfl⟩

end LivepeerTranscode.Gateway
