import LivepeerTranscode.Gateway.LiveCalls
import LivepeerTranscode.Shared.HttpUrl

/-!
# Proxied HLS requests

`registerHlsProxy` of `routes/live/hlsProxy.ts` and the directory of live sessions that it asks.
The gateway puts the wildcard part of a request, as the router decodes it, behind the broker's
URL and fetches the text, which the URL reader cleans and resolves once more.
-/

namespace LivepeerTranscode.Gateway
open HttpUrl
set_option autoImplicit false

structure LiveSessionDirectory where
  routesBySessionId : AList (fun _ : String => LiveSessionRoute)
  routesByStreamId : AList (fun _ : String => LiveSessionRoute)

def createLiveSessionDirectory : LiveSessionDirectory := ⟨∅, ∅⟩

def LiveSessionDirectory.record (sessions : LiveSessionDirectory) (route : LiveSessionRoute) :
    LiveSessionDirectory :=
  ⟨sessions.routesBySessionId.insert route.sessionId route,
    sessions.routesByStreamId.insert route.streamId route⟩

def LiveSessionDirectory.get (sessions : LiveSessionDirectory) (sessionId : String) :
    Option LiveSessionRoute :=
  sessions.routesBySessionId.lookup sessionId

def sessionIdOf (suffix : List Char) : List Char := suffix.takeWhile (· != '/')

/-- The broker's URL without the slash at its end. -/
def LiveSessionRoute.broker (session : LiveSessionRoute) : List Char :=
  if session.brokerUrl.toList.getLast? = some '/' then session.brokerUrl.toList.dropLast
  else session.brokerUrl.toList

/-- The text that a playback request fetches, or none for a session that is not found. -/
def hlsProxy (sessions : LiveSessionDirectory) (suffix : List Char) : Option (List Char) :=
  (sessions.get (.ofList (sessionIdOf suffix))).map fun session =>
    session.broker ++ "/_hls/".toList ++ suffix

section
variable {Origin : Type} (R : Reader Origin)

def LiveSessionRoute.origin (session : LiveSessionRoute) : Option Origin :=
  (R.read (session.broker ++ ['/'])).map (·.origin)

def playbackDirectory (suffix : List Char) : List (List Char) :=
  ["_hls".toList.flatMap R.encode, (sessionIdOf suffix).flatMap R.encode]

/-- What follows the authority of the broker's URL in a text that is fetched. -/
def LiveSessionRoute.segments (session : LiveSessionRoute) (suffix : List Char) : List (List Char) :=
  (HttpUrl.segments ((parts (cleanStart session.broker)).rest ++
    '/' :: cleanEnd ("_hls/".toList ++ suffix))).map fun segment => segment.flatMap R.encode

/-- The URL that a playback request fetches is one of the session's broker and below the directory of
the session exactly when the walk through the segments behind the broker's authority ends there. -/
theorem playback_contained_iff (sessions : LiveSessionDirectory) (suffix : List Char)
    {session : LiveSessionRoute} (hsession : sessions.get (.ofList (sessionIdOf suffix)) = some session)
    {origin : Origin} (horigin : session.origin R = some origin) :
    (∀ upstream, hlsProxy sessions suffix = some upstream → ∀ url, R.read upstream = some url →
      url.origin = origin ∧ ∃ rest, rest ≠ [] ∧ url.path = playbackDirectory R suffix ++ rest) ↔
    EndsIn (playbackDirectory R suffix) (session.segments R suffix) := by
  obtain ⟨base, hbase, rfl⟩ := Option.map_eq_some_iff.mp horigin
  have hread := read_append hbase ("_hls/".toList ++ suffix)
  have hproxy : hlsProxy sessions suffix = some (session.broker ++ '/' :: ("_hls/".toList ++ suffix)) := by
    rw [hlsProxy, hsession, Option.map_some, List.append_assoc]
    rfl
  rw [← resolve_below_iff, hproxy]
  constructor
  · intro h
    exact (h _ rfl _ hread).2
  · rintro hbelow _ ⟨rfl⟩ url hurl
    obtain rfl := Option.some.inj (hread.symm.trans hurl)
    exact ⟨rfl, hbelow⟩

end

/-- Hosts by name; every character of a path stands for itself. -/
def plainReader : Reader (List Char) where
  origin _ authority := if authority = [] then none else some authority
  encode c := [c]
  named _ := rfl

def playbackRoute (streamId sessionId : String) : LiveSessionRoute :=
  ⟨streamId, sessionId, "https://broker", "", "", ""⟩

def twoSessions : LiveSessionDirectory :=
  (createLiveSessionDirectory.record (playbackRoute "s1" "one")).record (playbackRoute "s2" "two")

theorem playback_contained_playlist :
    twoSessions.get (.ofList (sessionIdOf "one/index.m3u8".toList)) = some (playbackRoute "s1" "one") ∧
    ∀ upstream, hlsProxy twoSessions "one/index.m3u8".toList = some upstream →
      ∀ url, plainReader.read upstream = some url → url.origin = "broker".toList ∧
        ∃ rest, rest ≠ [] ∧ url.path = playbackDirectory plainReader "one/index.m3u8".toList ++ rest := by
  have hsession : twoSessions.get (.ofList (sessionIdOf "one/index.m3u8".toList)) =
      some (playbackRoute "s1" "one") := rfl
  exact ⟨hsession, (playback_contained_iff plainReader _ _ hsession (by decide +kernel)).mpr (by decide +kernel)⟩

/-- A dot segment takes the session's name back: a request for session `one` fetches the playlist of `two`. -/
theorem playback_crosses_sessions : ¬ ∀ upstream,
    hlsProxy twoSessions "one/../two/index.m3u8".toList = some upstream →
    ∀ url, plainReader.read upstream = some url → url.origin = "broker".toList ∧
      ∃ rest, rest ≠ [] ∧ url.path = playbackDirectory plainReader "one/../two/index.m3u8".toList ++ rest := by
  have hfetched : ((hlsProxy twoSessions "one/../two/index.m3u8".toList).bind plainReader.read).map (·.path) =
      some ["_hls".toList, "two".toList, "index.m3u8".toList] := by decide +kernel
  intro h
  obtain ⟨url, hurl, hpath⟩ := Option.map_eq_some_iff.mp hfetched
  obtain ⟨upstream, hupstream, hread⟩ := Option.bind_eq_some_iff.mp hurl
  obtain ⟨_, rest, _, heq⟩ := h upstream hupstream url hread
  rw [hpath] at heq
  exact absurd (List.cons.inj (List.cons.inj heq).2).1 (by decide +kernel)

end LivepeerTranscode.Gateway
