import LivepeerTranscode.Gateway.Database

/-!
# The paid-operation repository

The methods of `repo/paidOperations.ts`. A method is one SQL statement or one
transaction on the tables; `Execution` is what the server and the connection decide
for it. Each `UPDATE` is its `WHERE` clause and its `SET` list, both on one row.
-/

namespace LivepeerTranscode.Gateway
open Checked
set_option autoImplicit false

/-- Whether a statement is executed, and whether its answer comes back. -/
inductive Delivery where
  | answered | unsent | unanswered
  deriving DecidableEq, Repr

/-- The server's clock, the rows a locking scan meets in its order (it skips the others
as locked), the bytes the client draws, and the fate of the connection. -/
structure Execution where
  now : Time
  scan : List String
  entropy : List UInt8
  delivery : Delivery

structure OperationSecretCipher where
  encrypt : List UInt8 → String → PaidOperationSecrets → EncryptedOperationSecrets
  decrypt : String → EncryptedOperationSecrets → Except String PaidOperationSecrets

/-- The `length` of a JavaScript string counts UTF-16 units. -/
def utf16Length (text : String) : Nat :=
  (text.toList.map fun c => if c.toNat < 0x10000 then 1 else 2).sum

/-- The value of a text that matches `^(?:0|[1-9][0-9]*)$`. -/
def decimal (text : String) : Option Nat :=
  match text.toList with
  | [] => none
  | c :: rest =>
    if (c :: rest).all Char.isDigit ∧ (c = '0' → rest = []) then some (Nat.ofDigitChars 10 (c :: rest) 0)
    else none

@[simp] theorem decimal_toString (n : Nat) : decimal (toString n) = some n := by
  obtain ⟨c, rest, hdigits, hhead⟩ := JsonText.toDigits_head n
  have hlist : (toString n).toList = c :: rest := by
    rw [← hdigits]
    exact Nat.toList_repr
  have hall : (c :: rest).all Char.isDigit = true := by
    rw [← hdigits, List.all_eq_true]
    intro d hd
    exact Nat.isDigit_of_mem_toDigits (by omega) (by omega) hd
  unfold decimal
  rw [hlist]
  simp only
  rw [if_pos ⟨hall, fun hzero => (hhead hzero).1⟩, ← hdigits, Nat.ofDigitChars_ten_toDigits]

def validateClaim (claim : PaidOperationClaim) : Repo Unit :=
  throwWhen (utf16Length claim.owner = 0 ∨ utf16Length claim.owner > 255 ∨
    decimal claim.version = none ∨ claim.leaseExpiresAt = none) "paid operation claim is invalid"

section Parameters
variable (pg : Postgres)

/-- A `BIGINT` parameter. -/
def bigintParam (text : String) : Repo Nat :=
  match decimal text with
  | some n => if n < 2 ^ 63 then .ok n else .error .parameter
  | none => .error .parameter

def numericParam (text : String) : Repo Nat :=
  match pg.numeric text with
  | some n => .ok n
  | none => .error .parameter

def optionalNumeric : Option String → Repo (Option Nat)
  | none => .ok none
  | some text => (numericParam pg text).map some

end Parameters

def rowToOperation (id : String) (row : OperationRow) : PaidOperation :=
  { id := id
    kind := row.kind
    apiKeyId := row.apiKeyId
    assetId := row.assetId
    liveStreamId := row.liveStreamId
    requestId := row.requestId
    requestContentSha256 := row.requestContentSha256
    workId := row.workId
    rotationGeneration := row.rotationGeneration
    route := row.route
    status := row.status
    locOperationId := row.locOperationId
    brokerJobId := row.brokerJobId
    brokerSessionId := row.brokerSessionId
    fundedUnits := toString row.fundedUnits
    claimedUnits := row.claimedUnits.map toString
    balanceUnits := row.balanceUnits.map toString
    willRefuseNextRefill := row.willRefuseNextRefill
    leaseExpiresAt := row.leaseExpiresAt
    settlementSequence := toString row.settlementSequence
    lifecycleVersion := toString row.lifecycleVersion
    recoveryOwner := row.recoveryOwner
    recoveryLeaseExpiresAt := row.recoveryLeaseExpiresAt
    sessionRuntime := row.sessionRuntime
    retryCount := row.retryCount
    nextRetryAt := row.nextRetryAt
    lastErrorCode := row.lastErrorCode
    terminalEvidence := row.terminalEvidence
    createdAt := row.createdAt
    updatedAt := row.updatedAt
    terminalAt := row.terminalAt }

/-! ## `WHERE` clauses -/

/-- `recovery_owner = $ AND lifecycle_version = $ AND recovery_lease_expires_at = $` -/
def OperationRow.heldBy (row : OperationRow) (claim : PaidOperationClaim) : Bool :=
  row.recoveryOwner == some claim.owner && some row.lifecycleVersion == decimal claim.version &&
    claim.leaseExpiresAt.any fun lease => row.recoveryLeaseExpiresAt == some lease

/-- `recovery_lease_expires_at > NOW()` -/
def OperationRow.leased (row : OperationRow) (now : Time) : Bool :=
  row.recoveryLeaseExpiresAt.any fun lease => now < lease

/-- `recovery_lease_expires_at IS NULL OR recovery_lease_expires_at <= $` -/
def OperationRow.leaseOver (row : OperationRow) (now : Time) : Bool :=
  row.recoveryLeaseExpiresAt.all fun lease => lease ≤ now

def OperationRow.recoverable (kind : PaidOperationKind) (now : Time) (row : OperationRow) : Bool :=
  row.kind == kind && row.terminalAt.isNone && (row.nextRetryAt.all fun t => t ≤ now) &&
    row.leaseOver now

def OperationRow.sessionOf (liveStreamId : String) (row : OperationRow) : Bool :=
  row.liveStreamId == some liveStreamId && row.kind == .session

def OperationRow.claimable (liveStreamId owner : String) (now : Time) (row : OperationRow) : Bool :=
  row.sessionOf liveStreamId && row.terminalAt.isNone &&
    (row.recoveryOwner == some owner || row.leaseOver now)

def OperationRow.windable (liveStreamId : String) (row : OperationRow) : Bool :=
  row.sessionOf liveStreamId && row.terminalAt.isNone

/-! ## `SET` lists -/

def OperationRow.claim (owner : String) (lease : Option Time) (now : Time) (row : OperationRow) :
    OperationRow :=
  { row with
    recoveryOwner := some owner
    recoveryLeaseExpiresAt := lease
    lifecycleVersion := row.lifecycleVersion + 1
    updatedAt := now }

/-- `session_runtime || jsonb_build_object('winddownReason', …)`, which is null on null. -/
def OperationRow.winddown (reason : String) (now : Time) (row : OperationRow) : OperationRow :=
  { row with
    status := "winddown_requested"
    sessionRuntime := row.sessionRuntime.map fun runtime => { runtime with winddownReason := some reason }
    lifecycleVersion := row.lifecycleVersion + 1
    recoveryOwner := none
    recoveryLeaseExpiresAt := none
    updatedAt := now }

def OperationRow.renew (lease : Option Time) (now : Time) (row : OperationRow) : OperationRow :=
  { row with
    recoveryLeaseExpiresAt := lease
    lifecycleVersion := row.lifecycleVersion + 1
    updatedAt := now }

def OperationRow.release (now : Time) (row : OperationRow) : OperationRow :=
  { row with
    recoveryOwner := none
    recoveryLeaseExpiresAt := none
    lifecycleVersion := row.lifecycleVersion + 1
    updatedAt := now }

/-- The unit columns of a progress report, as the server read them. -/
structure ProgressUnits where
  fundedUnits : Option Nat
  claimedUnits : Option Nat
  balanceUnits : Option Nat
  settlementSequence : Option Nat

/-- A column is set when the report carries it; the error and the retry time are
cleared when it does not. -/
def OperationRow.progress (value : PaidOperationProgress) (units : ProgressUnits) (now : Time)
    (row : OperationRow) : OperationRow :=
  { row with
    status := value.status
    lastErrorCode := value.lastErrorCode
    nextRetryAt := value.nextRetryAt
    retryCount := value.retryCount.getD row.retryCount
    workId := value.workId.getD row.workId
    rotationGeneration := value.rotationGeneration.getD row.rotationGeneration
    requestId := value.requestId.getD row.requestId
    locOperationId := value.locOperationId.or row.locOperationId
    brokerJobId := value.brokerJobId.or row.brokerJobId
    brokerSessionId := value.brokerSessionId.or row.brokerSessionId
    fundedUnits := units.fundedUnits.getD row.fundedUnits
    claimedUnits := units.claimedUnits.or row.claimedUnits
    balanceUnits := units.balanceUnits.or row.balanceUnits
    willRefuseNextRefill := value.willRefuseNextRefill.or row.willRefuseNextRefill
    leaseExpiresAt := value.leaseExpiresAt.or row.leaseExpiresAt
    settlementSequence := units.settlementSequence.getD row.settlementSequence
    sessionRuntime := value.sessionRuntime.or row.sessionRuntime
    lifecycleVersion := row.lifecycleVersion + 1
    updatedAt := now }

def OperationRow.retry (value : PaidOperationRetry) (now : Time) (row : OperationRow) : OperationRow :=
  { row with
    status := value.status
    retryCount := row.retryCount + 1
    nextRetryAt := some value.nextRetryAt
    lastErrorCode := some value.errorCode
    lifecycleVersion := row.lifecycleVersion + 1
    updatedAt := now }

def OperationRow.terminate (status : String) (claimedUnits settlementSequence : Nat)
    (evidence : PaidTerminalEvidence) (terminalAt now : Time) (row : OperationRow) : OperationRow :=
  { row with
    status := status
    claimedUnits := some claimedUnits
    settlementSequence := settlementSequence
    terminalEvidence := some evidence
    terminalAt := some terminalAt
    nextRetryAt := none
    lastErrorCode := none
    lifecycleVersion := row.lifecycleVersion + 1
    recoveryOwner := none
    recoveryLeaseExpiresAt := none
    updatedAt := now }

def OperationRow.settledVod (value : PaidVodTerminal) (row : OperationRow) : OperationRow :=
  { row with
    locOperationId := some value.locOperationId
    brokerJobId := some value.brokerJobId
    requestId := value.brokerRequestId }

/-! ## Statements -/

def Database.rows (db : Database) (scan : List String) : List (String × OperationRow) :=
  scan.dedup.filterMap fun id => (db.operations.lookup id).map fun row => (id, row)

/-- A scan that waits for locks meets every row. -/
def Database.everyRow (db : Database) (scan : List String) : List (String × OperationRow) :=
  db.rows (scan ++ db.operations.keys)

def newestGeneration (a b : String × OperationRow) : Prop :=
  b.2.rotationGeneration ≤ a.2.rotationGeneration

instance : DecidableRel newestGeneration := fun _ _ => inferInstanceAs (Decidable (_ ≤ _))

def oldestUpdate (a b : String × OperationRow) : Prop := a.2.updatedAt ≤ b.2.updatedAt

instance : DecidableRel oldestUpdate := fun _ _ => inferInstanceAs (Decidable (_ ≤ _))

def newestUpdate (a b : String × OperationRow) : Prop := b.2.updatedAt ≤ a.2.updatedAt

instance : DecidableRel newestUpdate := fun _ _ => inferInstanceAs (Decidable (_ ≤ _))

def newestCreation (a b : String × OperationRow) : Prop := b.2.createdAt ≤ a.2.createdAt

instance : DecidableRel newestCreation := fun _ _ => inferInstanceAs (Decidable (_ ≤ _))

/-- `SELECT … WHERE … ORDER BY … LIMIT 1` -/
def first (order : String × OperationRow → String × OperationRow → Prop) [DecidableRel order]
    (applies : OperationRow → Bool) (rows : List (String × OperationRow)) :
    Option (String × OperationRow) :=
  ((rows.filter fun row => applies row.2).insertionSort order).head?

def found (row : Option (String × OperationRow)) : Option PaidOperation :=
  row.map fun entry => rowToOperation entry.1 entry.2

def updated (id : String) (result : Option OperationRow × Database) : Option PaidOperation × Database :=
  (result.1.map (rowToOperation id), result.2)

def claimRecoverable (exec : Execution) (kind : PaidOperationKind) (owner : String) (now : Time)
    (leaseExpiresAt : Date) (limit : Int) (db : Database) : Repo (List PaidOperation × Database) := do
  validateClaim ⟨owner, "0", leaseExpiresAt⟩
  throwWhen (limit < 1 ∨ limit > 1000 ∨ leaseExpiresAt.any (· ≤ now)) "recovery claim inputs are invalid"
  let candidates := (((db.rows exec.scan).filter fun row => row.2.recoverable kind now).insertionSort
    oldestUpdate).take limit.toNat
  let set := OperationRow.claim owner leaseExpiresAt exec.now
  let db' ← db.updateEach set candidates
  return (candidates.map fun row => rowToOperation row.1 (set row.2), db')

def claimSessionByLiveStreamId (exec : Execution) (liveStreamId owner : String) (now : Time)
    (leaseExpiresAt : Date) (db : Database) : Repo (Option PaidOperation × Database) := do
  validateClaim ⟨owner, "0", leaseExpiresAt⟩
  throwWhen (liveStreamId = "" ∨ leaseExpiresAt.any (· ≤ now)) "paid session claim inputs are invalid"
  match first newestGeneration (OperationRow.claimable liveStreamId owner now) (db.rows exec.scan) with
  | none => return (none, db)
  | some (id, _) =>
    let result ← db.updateOperation id (OperationRow.claimable liveStreamId owner now)
      (OperationRow.claim owner leaseExpiresAt exec.now)
    return updated id result

def lowerLetter (c : Char) : Bool := 97 ≤ c.toNat && c.toNat ≤ 122

/-- `^[a-z][a-z0-9_]{2,63}$` -/
def winddownReasonText (reason : String) : Bool :=
  match reason.toList with
  | [] => false
  | c :: rest => lowerLetter c && (2 ≤ rest.length && rest.length ≤ 63) &&
      rest.all fun d => lowerLetter d || d.isDigit || d == '_'

def requestSessionWinddown (exec : Execution) (liveStreamId reason : String) (db : Database) :
    Repo (Option PaidOperation × Database) := do
  throwWhen (liveStreamId = "" ∨ winddownReasonText reason = false)
    "paid session winddown request is invalid"
  match first newestGeneration (OperationRow.windable liveStreamId) (db.everyRow exec.scan) with
  | none => return (none, db)
  | some (id, _) =>
    let result ← db.updateOperation id (OperationRow.windable liveStreamId)
      (OperationRow.winddown reason exec.now)
    return updated id result

def renewClaim (exec : Execution) (id : String) (claim : PaidOperationClaim) (leaseExpiresAt : Date)
    (db : Database) : Repo (Option PaidOperation × Database) := do
  validateClaim claim
  throwWhen (leaseExpiresAt = none ∨
      leaseExpiresAt.any fun lease => claim.leaseExpiresAt.any fun current => lease ≤ current)
    "recovery lease extension is invalid"
  let _ ← bigintParam claim.version
  let result ← db.updateOperation id
    (fun row => row.heldBy claim && row.leased exec.now && row.terminalAt.isNone)
    (OperationRow.renew leaseExpiresAt exec.now)
  return updated id result

def releaseClaim (exec : Execution) (id : String) (claim : PaidOperationClaim) (db : Database) :
    Repo (Bool × Database) := do
  validateClaim claim
  let _ ← bigintParam claim.version
  let result ← db.updateOperation id (fun row => row.heldBy claim) (OperationRow.release exec.now)
  return (result.1.isSome, result.2)

section
variable (pg : Postgres)

def progressUnits (value : PaidOperationProgress) : Repo ProgressUnits := do
  let fundedUnits ← optionalNumeric pg value.fundedUnits
  let claimedUnits ← optionalNumeric pg value.claimedUnits
  let balanceUnits ← optionalNumeric pg value.balanceUnits
  let settlementSequence ← optionalNumeric pg value.settlementSequence
  return ⟨fundedUnits, claimedUnits, balanceUnits, settlementSequence⟩

def recordProgress (exec : Execution) (id : String) (claim : PaidOperationClaim)
    (value : PaidOperationProgress) (db : Database) : Repo (Option PaidOperation × Database) := do
  validateClaim claim
  let units ← progressUnits pg value
  let _ ← bigintParam claim.version
  let result ← db.updateOperation id (fun row => row.heldBy claim && row.leased exec.now)
    (OperationRow.progress value units exec.now)
  return updated id result

def recordRetry (exec : Execution) (id : String) (claim : PaidOperationClaim)
    (value : PaidOperationRetry) (db : Database) : Repo (Option PaidOperation × Database) := do
  validateClaim claim
  let _ ← bigintParam claim.version
  let result ← db.updateOperation id (fun row => row.heldBy claim && row.leased exec.now)
    (OperationRow.retry value exec.now)
  return updated id result

def recordTerminal (exec : Execution) (id : String) (claim : PaidOperationClaim)
    (value : PaidTerminal) (db : Database) : Repo (Bool × Database) := do
  validateClaim claim
  let claimedUnits ← numericParam pg value.claimedUnits
  let settlementSequence ← numericParam pg value.settlementSequence
  let _ ← bigintParam claim.version
  let (terminal, db) ← db.updateOperation id (fun row => row.heldBy claim && row.leased exec.now)
    (OperationRow.terminate value.status claimedUnits settlementSequence value.evidence
      value.terminalAt exec.now)
  match terminal with
  | none => return (false, db)
  | some _ => return (true, db.eraseSecretRow id)

/-- `DELETE FROM … WHERE …` -/
def Table.deleteWhere {Row : Type} (table : Table Row) (applies : Row → Bool) : Table Row :=
  table.keys.foldl (fun rest key => if (table.lookup key).any applies then rest.erase key else rest)
    table

/-- `UPDATE … SET … WHERE id = … AND …` on a table without further constraints; `none`
when no row was updated. -/
def Table.updateWhere {Row : Type} (table : Table Row) (key : String) (applies : Row → Bool)
    (set : Row → Row) : Option (Table Row) :=
  match table.lookup key with
  | none => none
  | some row => if applies row then some (table.insert key (set row)) else none

def rowUpdated {Row : Type} (result : Option (Table Row)) (message : String) : Repo (Table Row) :=
  match result with
  | some table => .ok table
  | none => .error (.error message)

def recordLiveTerminal (exec : Execution) (id : String) (claim : PaidOperationClaim)
    (value : PaidLiveTerminal) (db : Database) : Repo (Bool × Database) := do
  validateClaim claim
  let claimedUnits ← numericParam pg value.claimedUnits
  let settlementSequence ← numericParam pg value.settlementSequence
  let _ ← bigintParam claim.version
  let (terminal, db) ← db.updateOperation id
    (fun row => row.sessionOf value.liveStreamId && row.heldBy claim && row.leased exec.now &&
      row.terminalAt.isNone)
    (OperationRow.terminate "settled" claimedUnits settlementSequence value.evidence
      value.terminalAt exec.now)
  match terminal with
  | none => return (false, db)
  | some _ =>
    let liveStreams ← rowUpdated
      (db.liveStreams.updateWhere value.liveStreamId (fun stream => stream.endedAt.isNone)
        fun _ => ⟨"ended", some value.terminalAt, some value.terminalAt⟩)
      "live terminal stream identity mismatch"
    let playbackIds := db.playbackIds.deleteWhere fun row => row.liveStreamId == some value.liveStreamId
    return (true, { db with liveStreams, playbackIds }.eraseSecretRow id)

def completeRenditions (value : PaidVodTerminal) :
    List TerminalRendition → Table RenditionRow → Repo (Table RenditionRow)
  | [], table => .ok table
  | rendition :: rest, table => do
    let durationSec ← match pg.thousandths rendition.durationSeconds with
      | some duration => Except.ok duration
      | none => .error .parameter
    let table ← rowUpdated
      (table.updateWhere rendition.renditionId
        (fun row => row.assetId == value.assetId && (row.status == "queued" || row.status == "running"))
        fun row => { row with
          status := "completed"
          storageKey := some rendition.storageKey
          durationSec := some durationSec
          completedAt := some value.terminalAt })
      "terminal rendition identity mismatch"
    completeRenditions value rest table

/-- The playback row of a settled asset, unless it has one. -/
def insertPlayback (value : PaidVodTerminal) (db : Database) : Repo (Table PlaybackRow) :=
  if db.playbackIds.entries.any fun entry => entry.2.assetId == some value.assetId then
    .ok db.playbackIds
  else
    (failWhen ((db.playbackIds.lookup value.playbackId).isSome ∨
        (db.apiKeys.lookup value.apiKeyId).isNone ∨ (db.assets.lookup value.assetId).isNone)
      RepoError.constraint).map fun _ =>
      db.playbackIds.insert value.playbackId
        ⟨value.apiKeyId, some value.assetId, none, "public", false⟩

def recordVodTerminal (exec : Execution) (id : String) (claim : PaidOperationClaim)
    (value : PaidVodTerminal) (db : Database) : Repo (Bool × Database) := do
  validateClaim claim
  let claimedUnits ← numericParam pg value.claimedUnits
  let settlementSequence ← numericParam pg value.settlementSequence
  let _ ← bigintParam claim.version
  let (terminal, db) ← db.updateOperation id
    (fun row => row.assetId == some value.assetId && row.heldBy claim && row.leased exec.now &&
      row.terminalAt.isNone)
    (fun row => (row.terminate "settled" claimedUnits settlementSequence value.evidence
      value.terminalAt exec.now).settledVod value)
  match terminal with
  | none => return (false, db)
  | some _ =>
    let renditions ← completeRenditions pg value value.renditions db.renditions
    let encodingJobs ← rowUpdated
      (db.encodingJobs.updateWhere value.encodingJobId (fun job => job.assetId == value.assetId)
        fun job => { job with status := "completed", completedAt := some value.terminalAt })
      "terminal encoding job identity mismatch"
    let assets ← rowUpdated
      (db.assets.updateWhere value.assetId (fun _ => true)
        fun _ => ⟨"ready", some value.terminalAt⟩)
      "terminal asset identity mismatch"
    let playbackIds ← insertPlayback value db
    return (true, { db with renditions, encodingJobs, assets, playbackIds }.eraseSecretRow id)

end

section
variable (cipher : OperationSecretCipher)

def Database.holds (db : Database) (id : String) (claim : PaidOperationClaim) (now : Time) : Bool :=
  (db.operations.lookup id).any fun row => row.heldBy claim && row.leased now

def putSecrets (exec : Execution) (id : String) (claim : PaidOperationClaim)
    (value : PaidOperationSecrets) (db : Database) : Repo (Bool × Database) := do
  validateClaim claim
  let _ ← bigintParam claim.version
  if db.holds id claim exec.now then
    return (true, db.putSecretRow id (cipher.encrypt exec.entropy id value) exec.now)
  else
    return (false, db)

def readSecrets (exec : Execution) (id : String) (claim : PaidOperationClaim) (db : Database) :
    Repo (Option PaidOperationSecrets × Database) := do
  validateClaim claim
  let _ ← bigintParam claim.version
  match if db.holds id claim exec.now then db.secrets.lookup id else none with
  | none => return (none, db)
  | some row =>
    match cipher.decrypt id row.encrypted with
    | .ok secrets => return (some secrets, db)
    | .error message => throw (.error message)

def deleteSecrets (exec : Execution) (id : String) (claim : PaidOperationClaim) (db : Database) :
    Repo (Bool × Database) := do
  validateClaim claim
  let _ ← bigintParam claim.version
  if db.holds id claim exec.now && (db.secrets.lookup id).isSome then
    return (true, db.eraseSecretRow id)
  else
    return (false, db)

end

/-! ## Insertion -/

section
variable (pg : Postgres)

def routeColumns (route : PaidRouteSnapshot) : Repo PaidRouteSnapshot := do
  let price ← numericParam pg route.pricePerUnitWei
  let units ← numericParam pg route.unitsPerPrice
  failWhen (units = 0) RepoError.constraint
  return { route with
    pricePerUnitWei := toString price
    unitsPerPrice := toString units
    estimator := route.estimator.map pg.jsonb
    raw := pg.jsonb route.raw }

def newRow (value : NewPaidOperation) (claim : Option (String × Date)) (route : PaidRouteSnapshot)
    (fundedUnits : Nat) (now : Time) : OperationRow :=
  { kind := value.kind
    apiKeyId := value.apiKeyId
    assetId := value.assetId
    liveStreamId := value.liveStreamId
    requestId := value.requestId
    requestContentSha256 := value.requestContentSha256
    workId := value.workId
    rotationGeneration := value.rotationGeneration.getD 0
    route := route
    status := value.status
    locOperationId := none
    brokerJobId := none
    brokerSessionId := none
    fundedUnits := fundedUnits
    claimedUnits := none
    balanceUnits := none
    willRefuseNextRefill := none
    leaseExpiresAt := none
    settlementSequence := 0
    lifecycleVersion := if claim.isNone then 0 else 1
    recoveryOwner := claim.map Prod.fst
    recoveryLeaseExpiresAt := claim.bind Prod.snd
    sessionRuntime := value.sessionRuntime
    retryCount := 0
    nextRetryAt := none
    lastErrorCode := none
    terminalEvidence := none
    createdAt := now
    updatedAt := now
    terminalAt := none }

def insertStatement (exec : Execution) (value : NewPaidOperation) (claim : Option (String × Date))
    (db : Database) : Repo (PaidOperation × Database) := do
  let route ← routeColumns pg value.route
  let fundedUnits ← numericParam pg value.fundedUnits
  failWhen ((db.operations.lookup value.id).isSome ∨ (db.apiKeys.lookup value.apiKeyId).isNone ∨
      (value.assetId.any fun asset => (db.assets.lookup asset).isNone) ∨
      (value.liveStreamId.any fun stream => (db.liveStreams.lookup stream).isNone))
    RepoError.constraint
  let row := newRow value claim route fundedUnits exec.now
  let db ← db.store value.id row
  return (rowToOperation value.id row, db)

def insertWithSecrets (cipher : OperationSecretCipher) (exec : Execution) (value : NewPaidOperation)
    (secrets : PaidOperationSecrets) (owner : String) (leaseExpiresAt : Date) (db : Database) :
    Repo (PaidOperation × Database) := do
  validateClaim ⟨owner, "1", leaseExpiresAt⟩
  let (operation, db) ← insertStatement pg exec value (some (owner, leaseExpiresAt)) db
  return (operation, db.putSecretRow value.id (cipher.encrypt exec.entropy value.id secrets) exec.now)

end

/-! ## Queries -/

def byId (id : String) (db : Database) : Option PaidOperation :=
  (db.operations.lookup id).map (rowToOperation id)

def byIdForApiKey (id apiKeyId : String) (db : Database) : Option PaidOperation :=
  ((db.operations.lookup id).filter fun row => row.apiKeyId == apiKeyId).map (rowToOperation id)

def byRequestId (exec : Execution) (requestId : String) (db : Database) : Option PaidOperation :=
  found ((db.everyRow exec.scan).find? fun row => row.2.requestId == requestId)

def byAssetId (exec : Execution) (assetId : String) (db : Database) : Option PaidOperation :=
  found (first newestCreation (fun row => row.assetId == some assetId && row.kind == .job)
    (db.everyRow exec.scan))

def byLiveStreamId (exec : Execution) (liveStreamId : String) (db : Database) : Option PaidOperation :=
  found (first newestGeneration (OperationRow.sessionOf liveStreamId) (db.everyRow exec.scan))

def byBrokerSessionId (exec : Execution) (brokerSessionId : String) (db : Database) :
    Option PaidOperation :=
  found (first newestGeneration
    (fun row => row.brokerSessionId == some brokerSessionId && row.kind == .session)
    (db.everyRow exec.scan))

def listForAdmin (exec : Execution) (kind : Option PaidOperationKind) (status : Option String)
    (limit : Int) (db : Database) : Repo (List PaidOperation) := do
  throwWhen (limit < 1 ∨ limit > 200) "paid operation admin list limit is invalid"
  let rows := (db.everyRow exec.scan).filter fun row =>
    (kind.all (row.2.kind == ·)) && ((status.filter (· != "")).all (row.2.status == ·))
  return ((rows.insertionSort newestUpdate).take limit.toNat).map fun row => rowToOperation row.1 row.2

/-! ## The repository's interface -/

inductive RepoCall where
  | insert (value : NewPaidOperation)
  | insertWithSecrets (value : NewPaidOperation) (secrets : PaidOperationSecrets) (owner : String)
      (leaseExpiresAt : Date)
  | byId (id : String)
  | byIdForApiKey (id apiKeyId : String)
  | byRequestId (requestId : String)
  | byAssetId (assetId : String)
  | byLiveStreamId (liveStreamId : String)
  | byBrokerSessionId (brokerSessionId : String)
  | listForAdmin (kind : Option PaidOperationKind) (status : Option String) (limit : Int)
  | claimRecoverable (kind : PaidOperationKind) (owner : String) (now : Time) (leaseExpiresAt : Date)
      (limit : Int)
  | claimSessionByLiveStreamId (liveStreamId owner : String) (now : Time) (leaseExpiresAt : Date)
  | requestSessionWinddown (liveStreamId reason : String)
  | renewClaim (id : String) (claim : PaidOperationClaim) (leaseExpiresAt : Date)
  | releaseClaim (id : String) (claim : PaidOperationClaim)
  | recordProgress (id : String) (claim : PaidOperationClaim) (value : PaidOperationProgress)
  | recordRetry (id : String) (claim : PaidOperationClaim) (value : PaidOperationRetry)
  | recordTerminal (id : String) (claim : PaidOperationClaim) (value : PaidTerminal)
  | recordLiveTerminal (id : String) (claim : PaidOperationClaim) (value : PaidLiveTerminal)
  | recordVodTerminal (id : String) (claim : PaidOperationClaim) (value : PaidVodTerminal)
  | putSecrets (id : String) (claim : PaidOperationClaim) (value : PaidOperationSecrets)
  | readSecrets (id : String) (claim : PaidOperationClaim)
  | deleteSecrets (id : String) (claim : PaidOperationClaim)

@[reducible] def RepoCall.Answer : RepoCall → Type
  | .insert .. | .insertWithSecrets .. => PaidOperation
  | .byId .. | .byIdForApiKey .. | .byRequestId .. | .byAssetId .. | .byLiveStreamId ..
  | .byBrokerSessionId .. | .claimSessionByLiveStreamId .. | .requestSessionWinddown ..
  | .renewClaim .. | .recordProgress .. | .recordRetry .. => Option PaidOperation
  | .listForAdmin .. | .claimRecoverable .. => List PaidOperation
  | .releaseClaim .. | .recordTerminal .. | .recordLiveTerminal .. | .recordVodTerminal ..
  | .putSecrets .. | .deleteSecrets .. => Bool
  | .readSecrets .. => Option PaidOperationSecrets

section
variable (pg : Postgres) (cipher : OperationSecretCipher)

def RepoCall.statement (exec : Execution) (db : Database) :
    (call : RepoCall) → Repo (call.Answer × Database)
  | .insert value => insertStatement pg exec value none db
  | .insertWithSecrets value secrets owner leaseExpiresAt =>
    Gateway.insertWithSecrets pg cipher exec value secrets owner leaseExpiresAt db
  | .byId id => .ok (Gateway.byId id db, db)
  | .byIdForApiKey id apiKeyId => .ok (Gateway.byIdForApiKey id apiKeyId db, db)
  | .byRequestId requestId => .ok (Gateway.byRequestId exec requestId db, db)
  | .byAssetId assetId => .ok (Gateway.byAssetId exec assetId db, db)
  | .byLiveStreamId liveStreamId => .ok (Gateway.byLiveStreamId exec liveStreamId db, db)
  | .byBrokerSessionId brokerSessionId => .ok (Gateway.byBrokerSessionId exec brokerSessionId db, db)
  | .listForAdmin kind status limit =>
    (Gateway.listForAdmin exec kind status limit db).map fun rows => (rows, db)
  | .claimRecoverable kind owner now leaseExpiresAt limit =>
    Gateway.claimRecoverable exec kind owner now leaseExpiresAt limit db
  | .claimSessionByLiveStreamId liveStreamId owner now leaseExpiresAt =>
    Gateway.claimSessionByLiveStreamId exec liveStreamId owner now leaseExpiresAt db
  | .requestSessionWinddown liveStreamId reason =>
    Gateway.requestSessionWinddown exec liveStreamId reason db
  | .renewClaim id claim leaseExpiresAt => Gateway.renewClaim exec id claim leaseExpiresAt db
  | .releaseClaim id claim => Gateway.releaseClaim exec id claim db
  | .recordProgress id claim value => Gateway.recordProgress pg exec id claim value db
  | .recordRetry id claim value => Gateway.recordRetry exec id claim value db
  | .recordTerminal id claim value => Gateway.recordTerminal pg exec id claim value db
  | .recordLiveTerminal id claim value => Gateway.recordLiveTerminal pg exec id claim value db
  | .recordVodTerminal id claim value => Gateway.recordVodTerminal pg exec id claim value db
  | .putSecrets id claim value => Gateway.putSecrets cipher exec id claim value db
  | .readSecrets id claim => Gateway.readSecrets cipher exec id claim db
  | .deleteSecrets id claim => Gateway.deleteSecrets exec id claim db

/-- A call over the connection: what the caller gets and the tables it leaves. -/
def RepoCall.run (exec : Execution) (db : Database) (call : RepoCall) : Repo call.Answer × Database :=
  match exec.delivery, call.statement pg cipher exec db with
  | .unsent, _ => (.error .connection, db)
  | _, .error e => (.error e, db)
  | .answered, .ok (answer, db') => (.ok answer, db')
  | .unanswered, .ok (_, db') => (.error .connection, db')

end

end LivepeerTranscode.Gateway
