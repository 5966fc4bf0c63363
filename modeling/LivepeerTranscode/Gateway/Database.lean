import LivepeerTranscode.Gateway.Operation
import LivepeerTranscode.Shared.Checked

/-!
# The gateway's tables

The tables of `migrations/0002` to `0005` that the paid-operation statements read or
write, with the columns those statements use. A statement or transaction either
succeeds with the tables it leaves or fails and leaves them as they were, so it is a
function into `Except`. A row is stored only if it passes the constraints of its table.
-/

namespace LivepeerTranscode.Gateway
open Checked
set_option autoImplicit false

/-- A table by its primary key. -/
abbrev Table (Row : Type) : Type := AList fun _ : String => Row

/-- A row of `media.paid_operations` beside its id. The columns of the route snapshot stand together. -/
structure OperationRow where
  kind : PaidOperationKind
  apiKeyId : String
  assetId : Option String
  liveStreamId : Option String
  requestId : String
  requestContentSha256 : String
  workId : String
  rotationGeneration : Int
  route : PaidRouteSnapshot
  status : String
  locOperationId : Option String
  brokerJobId : Option String
  brokerSessionId : Option String
  fundedUnits : Nat
  claimedUnits : Option Nat
  balanceUnits : Option Nat
  willRefuseNextRefill : Option Bool
  leaseExpiresAt : Option Time
  settlementSequence : Nat
  lifecycleVersion : Nat
  recoveryOwner : Option String
  recoveryLeaseExpiresAt : Option Time
  sessionRuntime : Option PaidSessionRuntimeState
  retryCount : Int
  nextRetryAt : Option Time
  lastErrorCode : Option String
  terminalEvidence : Option PaidTerminalEvidence
  createdAt : Time
  updatedAt : Time
  terminalAt : Option Time

structure EncryptedOperationSecrets where
  keyId : String
  wrappedKey : List UInt8
  wrappedKeyIv : List UInt8
  wrappedKeyTag : List UInt8
  ciphertext : List UInt8
  payloadIv : List UInt8
  payloadTag : List UInt8
  deriving DecidableEq

/-- A row of `media.paid_operation_secrets`. -/
structure SecretRow where
  encrypted : EncryptedOperationSecrets
  createdAt : Time
  updatedAt : Time

structure LiveStreamRow where
  status : String
  lastSeenAt : Option Time
  endedAt : Option Time

structure PlaybackRow where
  apiKeyId : String
  assetId : Option String
  liveStreamId : Option String
  policy : String
  tokenRequired : Bool

/-- A row of `media.renditions`; the duration is in thousandths, as the column keeps it. -/
structure RenditionRow where
  assetId : String
  status : String
  storageKey : Option String
  durationSec : Option Int
  completedAt : Option Time

structure EncodingJobRow where
  assetId : String
  status : String
  completedAt : Option Time

structure AssetRow where
  status : String
  readyAt : Option Time

structure Database where
  operations : Table OperationRow
  secrets : Table SecretRow
  liveStreams : Table LiveStreamRow
  playbackIds : Table PlaybackRow
  renditions : Table RenditionRow
  encodingJobs : Table EncodingJobRow
  assets : Table AssetRow
  apiKeys : Table Unit

/-- How the server reads the parameters it is sent: the value of a `NUMERIC(78,0)` text
and of a `NUMERIC(12,3)` number when they are in range, and the normal form of a `JSONB`. -/
structure Postgres where
  numeric : String → Option Nat
  thousandths : Rat → Option Int
  jsonb : JsonValue → JsonValue

inductive RepoError where
  | error (message : String)
  | parameter
  | constraint
  | connection
  deriving DecidableEq, Repr

abbrev Repo (α : Type) : Type := Except RepoError α

/-- `throw new Error(message)` -/
def throwWhen (bad : Prop) [Decidable bad] (message : String) : Repo Unit :=
  failWhen bad (.error message)

@[simp] theorem throwWhen_ok_iff {bad : Prop} [Decidable bad] {message : String} {u : Unit} :
    throwWhen bad message = .ok u ↔ ¬ bad := failWhen_ok_iff

/-! ## Constraints -/

def lowerHex (c : Char) : Bool := c.isDigit || (97 ≤ c.toNat && c.toNat ≤ 102)

/-- `~ '^[0-9a-f]{64}$'` -/
def sha256Text (text : String) : Bool :=
  text.toList.length == 64 && text.toList.all lowerHex

/-- `~ '^0x[0-9a-f]{64}$'` and not all zero. -/
def settlementDomainText (text : String) : Bool :=
  match text.toList with
  | '0' :: 'x' :: digits => digits.length == 64 && digits.all lowerHex && digits.any (· != '0')
  | _ => false

/-- The column types and `CHECK` constraints of `media.paid_operations`. -/
def OperationRow.wellFormed (row : OperationRow) : Bool :=
  sha256Text row.requestContentSha256 &&
  decide (0 ≤ row.rotationGeneration ∧ row.rotationGeneration < 2 ^ 31) &&
  decide (0 ≤ row.retryCount ∧ row.retryCount < 2 ^ 31) &&
  decide (row.lifecycleVersion < 2 ^ 63) &&
  (match row.kind with
    | .job => row.assetId.isSome && row.liveStreamId.isNone
    | .session => row.assetId.isNone && row.liveStreamId.isSome) &&
  (match row.kind with
    | .job => row.route.protocol == .paidJobV1 && row.route.transport.isSome
    | .session => row.route.protocol == .paidSessionV1) &&
  (row.recoveryOwner.isNone == row.recoveryLeaseExpiresAt.isNone) &&
  (row.sessionRuntime.isNone || row.kind == .session) &&
  row.route.settlementDomainId.all settlementDomainText

/-- Equal and not null, as a unique index compares. -/
def sameKey (a b : Option String) : Bool := a.isSome && a == b

def OperationRow.clashes (row other : OperationRow) : Bool :=
  row.requestId == other.requestId || sameKey row.locOperationId other.locOperationId ||
    sameKey row.brokerJobId other.brokerJobId || sameKey row.brokerSessionId other.brokerSessionId

def Database.accepts (db : Database) (id : String) (row : OperationRow) : Bool :=
  row.wellFormed && db.operations.entries.all fun entry => entry.1 == id || !row.clashes entry.2

/-- Write a row over the one with its id, or as a new one. -/
def Database.store (db : Database) (id : String) (row : OperationRow) : Repo Database :=
  (failWhen (db.accepts id row = false) .constraint).map fun _ =>
    { db with operations := db.operations.insert id row }

/-- `UPDATE media.paid_operations SET … WHERE id = … AND …` -/
def Database.updateOperation (db : Database) (id : String) (applies : OperationRow → Bool)
    (set : OperationRow → OperationRow) : Repo (Option OperationRow × Database) :=
  match db.operations.lookup id with
  | none => .ok (none, db)
  | some row =>
    if applies row then (db.store id (set row)).map fun db' => (some (set row), db')
    else .ok (none, db)

/-- One `UPDATE` of several rows: each is set from its value before the statement. -/
def Database.updateEach (set : OperationRow → OperationRow) :
    List (String × OperationRow) → Database → Repo Database
  | [], db => .ok db
  | (id, row) :: rest, db => do
    let db ← db.store id (set row)
    Database.updateEach set rest db

def Database.putSecretRow (db : Database) (id : String) (encrypted : EncryptedOperationSecrets)
    (now : Time) : Database :=
  let createdAt := ((db.secrets.lookup id).map SecretRow.createdAt).getD now
  { db with secrets := db.secrets.insert id ⟨encrypted, createdAt, now⟩ }

def Database.eraseSecretRow (db : Database) (id : String) : Database :=
  { db with secrets := db.secrets.erase id }

end LivepeerTranscode.Gateway
