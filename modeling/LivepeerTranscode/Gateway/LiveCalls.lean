import LivepeerTranscode.Gateway.Calls

/-!
# What the live services call

The session client, the session store, the reconciler and the RTMP dispatcher run against the
repositories, LOC, the broker, the control socket and the tables of their own process. Each
call is an effect; nothing is assumed about its answer.
-/

namespace LivepeerTranscode.Gateway
open Interaction JsonText
set_option autoImplicit false

/-! ## Sessions at LOC -/

structure LocPrepareSessionInput where
  requestId : String
  capability : String
  offering : String
  descriptorSchema : String
  routeBinding : LocRouteBinding

structure LocPrepareSessionResult where
  gatewaySessionId : String
  brokerUrl : String
  preparationToken : String

structure LocOpenSessionInput where
  requestId : String
  capability : String
  offering : String
  descriptorSchema : String
  sessionParams : JsonValue
  estimatedRunwayUnits : ℚ
  maxTotalUnits : ℚ
  routeBinding : LocRouteBinding
  gatewaySessionId : String
  preparationToken : String
  workloadRequestDigest : String
  callerPublicKey : String

/-- What of LOC's route snapshot the session client reads. -/
structure LocSessionSnapshot extends LocRouteSnapshot where
  workUnit : String

/-- An opened session; of its axes the descriptor is read. -/
structure LocOpenSessionResult where
  operationId : String
  gatewaySessionId : String
  requestId : String
  workId : String
  brokerUrl : String
  descriptorSchema : String
  routeSnapshot : LocSessionSnapshot
  spendAuthorization : String
  paymentEnvelope : Option String

structure LocRefillSessionInput where
  operationId : String
  requestId : String
  observedConsumedUnits : Option ℚ
  maxTotalUnits : ℚ
  workloadRequestDigest : String

structure LocRefillSessionResult where
  workId : String
  requestId : String
  spendAuthorization : String
  paymentEnvelope : Option String

structure LocCloseSessionInput where
  operationId : String
  actualUnits : Nat
  outcome : Option String
  settlement : LocSettlementEnvelope

structure LocCloseSessionResult where
  workId : String
  actualUnits : Nat
  outcome : String

/-- `LocTransportError`, with the properties the live services read. -/
structure LocTransportError where
  code : String
  remoteCode : Option String
  retryable : Bool
  retryAfterSeconds : Option Nat
  deriving DecidableEq, Repr

/-- What the live services throw; `client` is a `PaidSessionClientError`. -/
inductive LiveFailure where
  | client (code : String) (retryable : Bool)
  | transport (e : LocTransportError)
  | repo (e : RepoError)
  | error (message : String)
  deriving DecidableEq, Repr

/-! ## Tables of the process and of the database -/

/-- A live stream, with the properties the dispatcher reads. -/
structure LiveStream where
  id : String
  status : String
  deriving DecidableEq, Repr

/-- The fields `updateStatus` is given beside the status. -/
structure LiveStreamFields where
  sessionId : Option String := none
  workerUrl : Option String := none
  lastSeenAt : Option Time := none

structure NewPlaybackId where
  id : String
  apiKeyId : String
  liveStreamId : String
  policy : String
  tokenRequired : Bool

structure LiveSessionRoute where
  streamId : String
  sessionId : String
  brokerUrl : String
  brokerRtmpUrl : String
  streamKey : String
  hlsPlaybackUrl : String

/-- A session that this process holds: what its claim was made of, and the recovery state that a
session in the store always has. -/
structure OwnedPaidSession where
  operation : PaidOperation
  claim : PaidOperationClaim
  liveStreamId : String
  runtime : PaidSessionRuntimeState
  streamed : operation.liveStreamId = some liveStreamId
  recoverable : operation.sessionRuntime = some runtime

/-- What the dispatcher does between two of its `await`s, on the tables of its process and
on the processes and sockets it owns. A relay is named by its number in the order of spawns. -/
inductive RelayCall where
  | enter (sessionId streamPath : String)
  | leave (streamPath : String)
  | destroy (sessionId : String)
  | publishing (streamId : String)
  | spawn (sessionId streamId : String) (args : List String)
  | stopSession (sessionId : String)
  | exited (relay : Nat)
  | failed (relay : Nat)
  | stopAll
  deriving DecidableEq

/-- Whether the path was free; whether the stream has a relay; whether the process could be
spawned; the stream of a relay that was told to stop; the stream of a relay, and whether it
had not been told to stop. -/
@[reducible] def RelayCall.Answer : RelayCall → Type
  | .enter .. | .publishing _ => Bool
  | .spawn .. => Except LiveFailure Unit
  | .stopSession _ | .exited _ | .failed _ => Option String
  | .leave _ | .destroy _ | .stopAll => Unit

/-- `handOver` and `takeOver` are the tasks of one process that `Promise.all` starts together. -/
inductive LiveCall where
  | repo (call : RepoCall)
  | prepareSession (input : LocPrepareSessionInput)
  | openSession (input : LocOpenSessionInput)
  | refillSession (input : LocRefillSessionInput)
  | closeSession (input : LocCloseSessionInput)
  | fetch (request : HttpRequest)
  | readControl (eventsWs credential : String) (cursor : Option String)
  | streamByKeyHash (hash : String)
  | updateStreamStatus (id status : String) (fields : LiveStreamFields)
  | playbackIdsOf (liveStreamId : String)
  | insertPlaybackId (value : NewPlaybackId)
  | recordRoute (route : LiveSessionRoute)
  | removeRoute (sessionId : String)
  | relay (gateway : String) (call : RelayCall)
  | handOver (gateway : String) (sessions : List OwnedPaidSession)
  | takeOver (gateway : String)
  | randomBytes (size : Nat)
  | now

@[reducible] def LiveCall.Answer : LiveCall → Type
  | .repo call => Repo call.Answer
  | .prepareSession _ => Except LiveFailure LocPrepareSessionResult
  | .openSession _ => Except LiveFailure LocOpenSessionResult
  | .refillSession _ => Except LiveFailure LocRefillSessionResult
  | .closeSession _ => Except LiveFailure LocCloseSessionResult
  | .fetch _ => Option HttpResponse
  | .readControl .. => Except LiveFailure (List JsonValue)
  | .streamByKeyHash _ => Except LiveFailure (Option LiveStream)
  | .updateStreamStatus .. => Except LiveFailure Unit
  | .playbackIdsOf _ => Except LiveFailure (List String)
  | .insertPlaybackId _ => Except LiveFailure Unit
  | .recordRoute _ => Unit
  | .removeRoute _ => Unit
  | .relay _ call => call.Answer
  | .handOver .. => Unit
  | .takeOver _ => Option OwnedPaidSession
  | .randomBytes _ => List UInt8
  | .now => Time

abbrev LiveEvent : Type := Event LiveCall LiveCall.Answer

abbrev LiveProg (α : Type) : Type := Throwing LiveCall LiveCall.Answer LiveFailure α

def askRepo (call : RepoCall) : LiveProg call.Answer :=
  attempt (LiveCall.repo call) fun answer => answer.mapError LiveFailure.repo

/-- What the live services use of the platform beside what the job client uses: `Date.parse`,
`toISOString`, the checks of a runner's URL and of a UUID, `JSON.stringify` of a JSON value, and
`Number` of a text that is no canonical decimal. -/
structure LivePlatform extends Platform where
  parseDate : String → Date
  toISOString : Time → String
  runnerUrl : String → Bool
  uuid : String → Bool
  stringify : JsonValue → String
  otherNumber : String → Option ℚ

end LivepeerTranscode.Gateway
