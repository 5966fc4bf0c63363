import LivepeerTranscode.Shared.Json

/-!
# Paid operations of the gateway

The records of `engine/types/paidOperation.ts` and `engine/repo/paidOperationRepo.ts`.
An optional property that may be absent is an `Option`; unit amounts and versions stay
decimal texts, as they are in the source; a number of JavaScript is the rational it denotes.
-/

namespace LivepeerTranscode.Gateway
open JsonText
set_option autoImplicit false

/-- An instant. -/
abbrev Time : Type := Int

/-- A JavaScript `Date`; `none` is an invalid one, whose time value is `NaN`. -/
abbrev Date : Type := Option Time

abbrev JsonValue : Type := Json String Rat

inductive PaidOperationKind where
  | job | session
  deriving DecidableEq, Repr

inductive PaidProtocol where
  | paidJobV1 | paidSessionV1
  deriving DecidableEq, Repr

inductive PaidTransport where
  | unary | stream | multipart
  deriving DecidableEq, Repr

structure PaidRouteSnapshot where
  protocol : PaidProtocol
  transport : Option PaidTransport
  capability : String
  offering : String
  requestDescriptor : String
  responseDescriptor : Option String
  workUnit : String
  estimator : Option JsonValue
  pricePerUnitWei : String
  unitsPerPrice : String
  quoteId : String
  quoteVersion : String
  constraintFingerprint : String
  routeFingerprint : String
  settlementDomainId : Option String
  settlementKey : String
  raw : JsonValue

inductive PublisherMode where
  | gatewayRelay | directPublisher
  deriving DecidableEq, Repr

inductive RelayStatus where
  | pending | starting | active | reconnecting | stopping | stopped | failed
  deriving DecidableEq, Repr

inductive OutputState where
  | unknown | waiting | producing | stalled
  deriving DecidableEq, Repr

structure PaidSessionRuntimeState where
  publisherMode : PublisherMode
  relayStatus : RelayStatus
  relayGeneration : Nat
  runnerSessionId : Option String
  runnerHlsUrl : Option String
  lastRunnerEventId : Option String
  lastRunnerSequence : String
  lastRunnerUsage : String
  controlCursor : Option String
  refillCount : Option Nat
  lastHttpReconcileAt : Option String
  relayDisconnectedAt : Option String
  winddownReason : Option String
  outputState : Option OutputState
  outputStateSince : Option String
  lastFailureCode : Option String
  deriving DecidableEq

structure PaidTerminalEvidence where
  httpStatus : Nat
  responseSha256 : String
  workUnit : String
  workUnits : String
  protocolError : Option String
  claimSignature : Option String
  closeReason : Option String
  deriving DecidableEq

structure PaidOperationSecrets where
  openIntent : Option JsonValue
  routeIntent : Option JsonValue
  sessionParams : Option JsonValue
  grants : Option JsonValue
  control : Option JsonValue
  loc : Option JsonValue
  runnerIngestUrl : Option String
  runnerIngestKey : Option String
  credentials : Option JsonValue
  refillIntent : Option JsonValue

structure PaidOperation where
  id : String
  kind : PaidOperationKind
  apiKeyId : String
  assetId : Option String
  liveStreamId : Option String
  requestId : String
  requestContentSha256 : String
  workId : String
  rotationGeneration : Int
  route : PaidRouteSnapshot
  status : String
  locOperationId : Option String
  brokerJobId : Option String
  brokerSessionId : Option String
  fundedUnits : String
  claimedUnits : Option String
  balanceUnits : Option String
  willRefuseNextRefill : Option Bool
  leaseExpiresAt : Option Time
  settlementSequence : String
  lifecycleVersion : String
  recoveryOwner : Option String
  recoveryLeaseExpiresAt : Option Time
  sessionRuntime : Option PaidSessionRuntimeState
  retryCount : Int
  nextRetryAt : Option Time
  lastErrorCode : Option String
  terminalEvidence : Option PaidTerminalEvidence
  createdAt : Time
  updatedAt : Time
  terminalAt : Option Time

structure NewPaidOperation where
  id : String
  kind : PaidOperationKind
  apiKeyId : String
  assetId : Option String
  liveStreamId : Option String
  requestId : String
  requestContentSha256 : String
  workId : String
  rotationGeneration : Option Int
  route : PaidRouteSnapshot
  status : String
  fundedUnits : String
  sessionRuntime : Option PaidSessionRuntimeState

/-- What a gateway shows to write to an operation it has claimed. -/
structure PaidOperationClaim where
  owner : String
  version : String
  leaseExpiresAt : Date
  deriving DecidableEq

structure PaidOperationProgress where
  status : String
  lastErrorCode : Option String := none
  nextRetryAt : Option Time := none
  retryCount : Option Int := none
  workId : Option String := none
  rotationGeneration : Option Int := none
  requestId : Option String := none
  locOperationId : Option String := none
  brokerJobId : Option String := none
  brokerSessionId : Option String := none
  fundedUnits : Option String := none
  claimedUnits : Option String := none
  balanceUnits : Option String := none
  willRefuseNextRefill : Option Bool := none
  leaseExpiresAt : Option Time := none
  settlementSequence : Option String := none
  sessionRuntime : Option PaidSessionRuntimeState := none

structure PaidOperationRetry where
  status : String
  nextRetryAt : Time
  errorCode : String

structure PaidTerminal where
  status : String
  claimedUnits : String
  settlementSequence : String
  evidence : PaidTerminalEvidence
  terminalAt : Time

structure PaidLiveTerminal where
  liveStreamId : String
  claimedUnits : String
  settlementSequence : String
  evidence : PaidTerminalEvidence
  terminalAt : Time

structure TerminalRendition where
  renditionId : String
  storageKey : String
  durationSeconds : Rat

structure PaidVodTerminal where
  assetId : String
  encodingJobId : String
  playbackId : String
  apiKeyId : String
  locOperationId : String
  brokerJobId : String
  brokerRequestId : String
  claimedUnits : String
  settlementSequence : String
  evidence : PaidTerminalEvidence
  terminalAt : Time
  renditions : List TerminalRendition

end LivepeerTranscode.Gateway
