import LivepeerTranscode.Gateway.PaidJobClient

/-!
# The terminal of an ABR exchange

`validateAbrTerminal` of `engine/service/abrExchange.ts`: the last terminal object of an event
stream, the schemas it is read with, and the checks that tie it to the request, to the
settlement and to the funding.
-/

namespace LivepeerTranscode.Gateway
open Checked JsonText
set_option autoImplicit false

def abrResultSchema : String := "video-transcode-abr-result/v2"

/-! ## The event stream -/

def afterBlock : List Char → Option (List Char)
  | '\r' :: '\n' :: '\r' :: '\n' :: rest => some rest
  | '\r' :: '\n' :: '\n' :: rest => some rest
  | '\n' :: '\r' :: '\n' :: rest => some rest
  | '\n' :: '\n' :: rest => some rest
  | _ => none

def afterLine : List Char → Option (List Char)
  | '\r' :: '\n' :: rest => some rest
  | '\n' :: rest => some rest
  | _ => none

/-- `text.split(separator)`, with the piece so far and fuel for the characters left. -/
def splitText (after : List Char → Option (List Char)) : Nat → List Char → List Char → List (List Char)
  | 0, piece, _ => [piece]
  | fuel + 1, piece, text =>
    match after text, text with
    | some rest, _ => piece :: splitText after fuel [] rest
    | none, c :: rest => splitText after fuel (piece ++ [c]) rest
    | none, [] => [piece]

def split (after : List Char → Option (List Char)) (text : List Char) : List (List Char) :=
  splitText after (text.length + 1) [] text

section
variable {after : List Char → Option (List Char)} {line : List Char}

theorem splitText_skip {c : Char} {text : List Char} (h : after (c :: text) = none) (fuel : Nat)
    (piece : List Char) :
    splitText after (fuel + 1) piece (c :: text) = splitText after fuel (piece ++ [c]) text := by
  simp only [splitText, h]

theorem splitText_cut {text rest : List Char} (h : after text = some rest) (fuel : Nat) (piece : List Char) :
    splitText after (fuel + 1) piece text = piece :: splitText after fuel [] rest := by
  simp only [splitText, h]

theorem splitText_plain (hafter : ∀ c text, c ≠ '\n' → c ≠ '\r' → after (c :: text) = none)
    (hline : ∀ c ∈ line, c ≠ '\n' ∧ c ≠ '\r') (fuel : Nat) (piece rest : List Char) :
    splitText after (line.length + fuel) piece (line ++ rest) = splitText after fuel (piece ++ line) rest := by
  induction line generalizing piece with
  | nil => rw [List.append_nil, List.length_nil, Nat.zero_add, List.nil_append]
  | cons c line ih =>
    obtain ⟨hnewline, hreturn⟩ := hline c List.mem_cons_self
    rw [List.length_cons, Nat.add_right_comm, List.cons_append,
      splitText_skip (hafter c _ hnewline hreturn), ih (fun d hd => hline d (List.mem_cons_of_mem _ hd)),
      List.append_assoc, List.singleton_append]

theorem afterLine_plain (c : Char) (text : List Char) (hnewline : c ≠ '\n') (hreturn : c ≠ '\r') :
    afterLine (c :: text) = none := by
  unfold afterLine
  split <;> simp_all

theorem afterBlock_plain (c : Char) (text : List Char) (hnewline : c ≠ '\n') (hreturn : c ≠ '\r') :
    afterBlock (c :: text) = none := by
  unfold afterBlock
  split <;> simp_all

end

/-- The text after `data:`. -/
def dataLine : List Char → Option (List Char)
  | 'd' :: 'a' :: 't' :: 'a' :: ':' :: rest => some (rest.dropWhile jsSpace)
  | _ => none

def blockData (block : List Char) : List Char :=
  ['\n'].intercalate ((split afterLine block).filterMap dataLine)

section
variable (P : Platform)

def lastTerminal : List (List Char) → Option JsonValue → Except Failure (Option JsonValue)
  | [], terminal => .ok terminal
  | block :: rest, terminal =>
    let data := blockData block
    if data = [] then lastTerminal rest terminal
    else
      match P.parse data with
      | none => .error (.abr "abr_sse_invalid" false)
      | some parsed =>
        match property "schema" parsed with
        | some (.str schema) =>
          lastTerminal rest (if schema = abrResultSchema then some parsed else terminal)
        | _ => lastTerminal rest terminal

def terminalJsonFromSse (body : List UInt8) : Except Failure JsonValue := do
  match ← lastTerminal P (split afterBlock (P.utf8Text body)) none with
  | some terminal => return terminal
  | none => throw (.abr "abr_terminal_missing" false)

/-! ## Schemas -/

/-- `.strict()`: no other keys. -/
def strict (allowed : List String) (members : List (String × JsonValue)) : Bool :=
  members.all fun entry => allowed.contains entry.1

def positiveInt (value : Option JsonValue) : Option ℚ :=
  match value with
  | some (.num x) => (naturalNumber x).bind fun n => if n = 0 then none else some x
  | _ => none

def nonnegativeInt (value : Option JsonValue) : Option Nat :=
  match value with
  | some (.num x) => naturalNumber x
  | _ => none

def wireLiteral (expected : String) (value : Option JsonValue) : Option Unit :=
  match value with
  | some (.str text) => if text = expected then some () else none
  | _ => none

def sha256Wire (value : Option JsonValue) : Option String :=
  match value with
  | some (.str text) => if sha256Text text then some text else none
  | _ => none

def videoWire : Option JsonValue → Option (Option AbrDeliveredVideo)
  | none => some none
  | some (.obj members) =>
    if strict ["actual_frames", "width", "height"] members then do
      let actualFrames ← positiveInt (members.lookup "actual_frames")
      let width ← positiveInt (members.lookup "width")
      let height ← positiveInt (members.lookup "height")
      return some ⟨actualFrames, width, height⟩
    else none
  | some _ => none

structure TerminalRenditionWire where
  name : String
  playlistUri : String
  streamUri : String
  video : Option AbrDeliveredVideo

def renditionWire : JsonValue → Option TerminalRenditionWire
  | .obj members =>
    if strict ["name", "playlist_uri", "stream_uri", "video", "file_size_bytes"] members then do
      let name ← requiredWireText (members.lookup "name")
      let playlistUri ← requiredWireText (members.lookup "playlist_uri")
      let streamUri ← requiredWireText (members.lookup "stream_uri")
      let video ← videoWire (members.lookup "video")
      let _ ← nonnegativeInt (members.lookup "file_size_bytes")
      return ⟨name, playlistUri, streamUri, video⟩
    else none
  | _ => none

structure AbrTerminalResult where
  workloadId : String
  requestSha256 : String
  manifestUri : String
  renditions : List TerminalRenditionWire
  units : Nat

def renditionsWire : Option JsonValue → Option (List TerminalRenditionWire)
  | some (.arr items) => if items = [] then none else items.mapM renditionWire
  | _ => none

def usageWire : Option JsonValue → Option Nat
  | some (.obj members) =>
    if strict ["unit", "units"] members then do
      wireLiteral abrWorkUnit (members.lookup "unit")
      nonnegativeInt (members.lookup "units")
    else none
  | _ => none

def terminalWire : JsonValue → Option AbrTerminalResult
  | .obj members =>
    if strict ["schema", "workload_id", "request_sha256", "outcome", "manifest_uri", "renditions",
        "usage"] members then do
      wireLiteral abrResultSchema (members.lookup "schema")
      let workloadId ← requiredWireText (members.lookup "workload_id")
      let requestSha256 ← sha256Wire (members.lookup "request_sha256")
      wireLiteral "succeeded" (members.lookup "outcome")
      let manifestUri ← requiredWireText (members.lookup "manifest_uri")
      let renditions ← renditionsWire (members.lookup "renditions")
      let units ← usageWire (members.lookup "usage")
      return ⟨workloadId, requestSha256, manifestUri, renditions, units⟩
    else none
  | _ => none

structure AbrTerminalError where
  workloadId : String
  requestSha256 : String
  code : String
  retryable : Bool

def errorWire : Option JsonValue → Option (String × Bool)
  | some (.obj members) =>
    if strict ["code", "message", "retryable"] members then do
      let code ← requiredWireText (members.lookup "code")
      let message ← requiredWireText (members.lookup "message")
      if 512 < utf16Length message then none
      else
        match members.lookup "retryable" with
        | some (.bool retryable) => some (code, retryable)
        | _ => none
    else none
  | _ => none

def terminalErrorWire : JsonValue → Option AbrTerminalError
  | .obj members =>
    if strict ["schema", "workload_id", "request_sha256", "outcome", "error", "usage"] members then do
      wireLiteral abrResultSchema (members.lookup "schema")
      let workloadId ← requiredWireText (members.lookup "workload_id")
      let requestSha256 ← sha256Wire (members.lookup "request_sha256")
      wireLiteral "failed" (members.lookup "outcome")
      let error ← errorWire (members.lookup "error")
      let units ← usageWire (members.lookup "usage")
      if units = 0 then some ⟨workloadId, requestSha256, error.1, error.2⟩ else none
    else none
  | _ => none

/-! ## Validation -/

def identityMismatch : Failure := .abr "abr_terminal_identity_mismatch" false

structure TerminalExpectation where
  workloadId : String
  requestSha256 : String
  maximumUnits : ℚ

def validateAbrTerminal (brokerBody : List UInt8) (settlement : PaidJobSettlement)
    (expected : TerminalExpectation) : Except Failure AbrTerminalResult := do
  let candidate ← terminalJsonFromSse P brokerBody
  match terminalErrorWire candidate with
  | some failed =>
    failWhen (failed.workloadId ≠ expected.workloadId ∨ failed.requestSha256 ≠ expected.requestSha256)
      identityMismatch
    throw (.abr failed.code failed.retryable)
  | none =>
    match terminalWire candidate with
    | none => throw (.abr "abr_terminal_invalid" false)
    | some result =>
      failWhen (result.workloadId ≠ expected.workloadId ∨ result.requestSha256 ≠ expected.requestSha256 ∨
        result.units ≠ settlement.actualUnits ∨ abrWorkUnit ≠ settlement.workUnit) identityMismatch
      let _ ← (reconcileAbrUsage (result.renditions.map fun rendition => ⟨rendition.name, rendition.video⟩)
        settlement.workUnit settlement.actualUnits expected.maximumUnits).mapError Failure.usage
      return result

end

end LivepeerTranscode.Gateway
