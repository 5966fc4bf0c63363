import LivepeerTranscode.Gateway.Wire

/-!
# Storage keys

`pathFor` of `storage/s3.ts`, which names the object an upload is signed for.
-/

namespace LivepeerTranscode.Gateway
set_option autoImplicit false

/-- `PATH_KIND_PREFIX` -/
def pathKindPrefixes : List (String × String) :=
  [("source", "sources"), ("rendition", "renditions"), ("manifest", "manifests"), ("thumbnail", "thumbnails"),
   ("metadata", "metadata"), ("liveSegment", "live/segments"), ("liveManifest", "live/manifests")]

structure PathForOpts where
  kind : String
  assetId : Option String
  streamId : Option String
  codec : Option String
  resolution : Option String
  filename : String

/-- The segment of a rendition, when both its codec and its resolution are given. -/
def renditionSegment (codec resolution : Option String) : List String :=
  match truthy codec, truthy resolution with
  | some codec, some resolution => [codec ++ "-" ++ resolution]
  | _, _ => []

def pathSegments (opts : PathForOpts) : List String :=
  [(pathKindPrefixes.lookup opts.kind).getD ""] ++ (truthy opts.assetId).toList ++ (truthy opts.streamId).toList ++
    renditionSegment opts.codec opts.resolution ++ [opts.filename]

def pathFor (opts : PathForOpts) : String := "/".intercalate (pathSegments opts)

/-- The key `putSignedUploadUrl` signs an upload for. -/
def storageKey (request : UploadRequest) : String :=
  pathFor ⟨request.kind, some request.assetId, none, request.codec, request.resolution, request.filename⟩

end LivepeerTranscode.Gateway
