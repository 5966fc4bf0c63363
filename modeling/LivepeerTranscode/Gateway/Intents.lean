import LivepeerTranscode.Gateway.Fencing
import LivepeerTranscode.Gateway.SecretMoves

/-!
# What stays of a persisted intent

The funding, the route and the request digest of an operation are written when it is
inserted. Unless a progress report carries a funding or the secrets are put again, they and
the secrets stay what they were for as long as the operation is there.
-/

namespace LivepeerTranscode.Gateway
open Checked History
set_option autoImplicit false

variable {owner : String} {lease : Date} {operation : PaidOperation} {kind : PaidOperationKind}
  {operations : List PaidOperation}

/-- A statement that leaves the intent of the operation alone. -/
def RepoCall.keepsIntent (id : String) : RepoCall → Prop
  | .recordProgress target _ value => target = id → value.fundedUnits = none
  | .putSecrets target _ _ => target ≠ id
  | _ => True

/-- The intent of an operation as the tables hold it; the secrets may be gone. -/
structure Intent (id : String) (route : PaidRouteSnapshot) (fundedUnits : Nat) (sha256 : String)
    (encrypted : EncryptedOperationSecrets) (db : Database) : Prop where
  row : ∃ row, db.operations.lookup id = some row ∧ row.route = route ∧ row.fundedUnits = fundedUnits ∧
    row.requestContentSha256 = sha256
  secrets : ∀ secret ∈ db.secrets.lookup id, secret.encrypted = encrypted

section
variable {pg : Postgres} {cipher : OperationSecretCipher} {exec : Execution} {db db' : Database}
  {id : String} {call : RepoCall}

/-! ## The secrets -/

theorem SecretChange.from_before (h : SecretChange cipher exec call db db' id) (hkeeps : call.keepsIntent id)
    (hrow : db.operations.lookup id ≠ none) {secret : SecretRow} (hsecret : db'.secrets.lookup id = some secret) :
    db.secrets.lookup id = some secret := by
  cases h with
  | same hsame _ => exact hsame.symm.trans hsecret
  | ended _ hnone => cases hnone.symm.trans hsecret
  | deleted _ hnone => cases hnone.symm.trans hsecret
  | put hcall _ _ _ =>
    subst hcall
    exact absurd rfl hkeeps
  | created _ _ hnone _ _ => exact absurd hnone hrow

/-! ## The row -/

theorem RowMove.keeps_intent {row row' : OperationRow} (h : RowMove pg exec id row call row')
    (hkeeps : call.keepsIntent id) : row'.route = row.route ∧ row'.fundedUnits = row.fundedUnits ∧
      row'.requestContentSha256 = row.requestContentSha256 := by
  cases h with
  | progress hunits _ _ =>
    have hnone := hkeeps rfl
    simp only [progressUnits, hnone, optionalNumeric, ok_bind_iff, Except.ok.injEq] at hunits
    obtain ⟨_, rfl, _, _, _, _, _, _, hunits⟩ := hunits
    cases hunits
    exact ⟨rfl, rfl, rfl⟩
  | _ => exact ⟨rfl, rfl, rfl⟩

variable {route : PaidRouteSnapshot} {fundedUnits : Nat} {sha256 : String}
  {encrypted : EncryptedOperationSecrets}

theorem Intent.step (h : Intent id route fundedUnits sha256 encrypted db)
    (input : Execution × RepoCall) (hkeeps : input.2.keepsIntent id) :
    Intent id route fundedUnits sha256 encrypted (db.step pg cipher input) := by
  obtain ⟨⟨row, hrow, hroute, hunits, hsha⟩, hsecrets⟩ := h
  constructor
  · cases run_row pg cipher input.1 db input.2 id with
    | same hsame => exact ⟨row, hsame.trans hrow, hroute, hunits, hsha⟩
    | move hbefore hafter hmove =>
      cases hrow.symm.trans hbefore
      obtain ⟨hroute', hunits', hsha'⟩ := hmove.keeps_intent hkeeps
      exact ⟨_, hafter, hroute'.trans hroute, hunits'.trans hunits, hsha'.trans hsha⟩
    | create hnone _ _ =>
      rw [hrow] at hnone
      cases hnone
  · intro secret hsecret
    have hthere : db.operations.lookup id ≠ none := by simp [hrow]
    exact hsecrets secret
      ((run_secret pg cipher input.1 db input.2 id).from_before hkeeps hthere hsecret)

theorem Intent.trace {inputs : List (Execution × RepoCall)}
    (h : Intent id route fundedUnits sha256 encrypted db)
    (hkeeps : ∀ input ∈ inputs, input.2.keepsIntent id) :
    ∀ m ∈ trace (Database.step pg cipher) db inputs,
      Intent id route fundedUnits sha256 encrypted m.before := by
  have hstep : ∀ (db : Database) (input : Execution × RepoCall), input.2.keepsIntent id →
      Intent id route fundedUnits sha256 encrypted db →
      Intent id route fundedUnits sha256 encrypted (db.step pg cipher input) :=
    fun _ input hinput hintent => hintent.step input hinput
  intro m hm
  exact (trace_invariant (Database.step pg cipher) hstep inputs db h hkeeps m hm).1

/-! ## Writing and reading it -/

/-- The columns of a route that its binding is made of are kept as they were given. -/
structure SameBinding (stored given : PaidRouteSnapshot) : Prop where
  capability : stored.capability = given.capability
  offering : stored.offering = given.offering
  quoteId : stored.quoteId = given.quoteId
  quoteVersion : stored.quoteVersion = given.quoteVersion
  constraintFingerprint : stored.constraintFingerprint = given.constraintFingerprint
  routeFingerprint : stored.routeFingerprint = given.routeFingerprint
  settlementDomainId : stored.settlementDomainId = given.settlementDomainId

theorem routeColumns_binding {given stored : PaidRouteSnapshot} (h : routeColumns pg given = .ok stored) :
    SameBinding stored given := by
  simp only [routeColumns, ok_bind_iff, pure, Except.pure, Except.ok.injEq] at h
  obtain ⟨_, _, _, _, _, _, rfl⟩ := h
  exact ⟨rfl, rfl, rfl, rfl, rfl, rfl, rfl⟩

theorem Intent.inserted {value : NewPaidOperation} {secrets : PaidOperationSecrets} 
    (h : insertWithSecrets pg cipher exec value secrets owner lease db = .ok (operation, db')) :
    ∃ route fundedUnits, SameBinding route value.route ∧
      numericParam pg value.fundedUnits = .ok fundedUnits ∧
      Intent value.id route fundedUnits value.requestContentSha256
        (cipher.encrypt exec.entropy value.id secrets) db' := by
  simp only [insertWithSecrets, ok_bind_iff] at h
  obtain ⟨_, _, ⟨inserted, stored⟩, hinsert, hresult⟩ := h
  cases hresult
  obtain ⟨route, units, hroute, hunits, -, hstore, -⟩ := insertStatement_ok hinsert
  refine ⟨route, units, routeColumns_binding hroute, hunits, ⟨?_, ?_⟩⟩
  · rw [Database.store_ok hstore]
    exact ⟨_, AList.lookup_insert _, rfl, rfl, rfl⟩
  · intro secret hsecret
    have hlast := (AList.lookup_insert stored.secrets).symm.trans hsecret
    cases hlast
    rfl

theorem claimRecoverable_answer {now : Time} {limit : Int}
    (h : claimRecoverable exec kind owner now lease limit db = .ok (operations, db'))
    (hmem : operation ∈ operations) : ∃ row, db.operations.lookup operation.id = some row ∧
      operation = rowToOperation operation.id (row.claim owner lease exec.now) := by
  simp only [claimRecoverable, ok_bind_iff, pure, Except.pure, Except.ok.injEq, Prod.mk.injEq] at h
  obtain ⟨_, _, _, _, _, _, rfl, _⟩ := h
  obtain ⟨⟨target, row⟩, hrow, rfl⟩ := List.mem_map.mp hmem
  have hsorted := List.mem_of_mem_take hrow
  rw [(List.perm_insertionSort oldestUpdate _).mem_iff] at hsorted
  exact ⟨row, Database.mem_rows (List.mem_filter.mp hsorted).1, rfl⟩

theorem Intent.claimed {now : Time} {limit : Int}
    (h : Intent operation.id route fundedUnits sha256 encrypted db)
    (hrun : (RepoCall.run pg cipher exec db (.claimRecoverable kind owner now lease limit)).1 =
      .ok operations) (hmem : operation ∈ operations) :
    operation.route = route ∧ operation.fundedUnits = toString fundedUnits ∧
      operation.requestContentSha256 = sha256 := by
  have hstatement := run_ok hrun
  obtain ⟨row, hrow, hoperation⟩ := claimRecoverable_answer hstatement hmem
  obtain ⟨row', hrow', hroute, hunits, hsha⟩ := h.row
  cases hrow.symm.trans hrow'
  rw [hoperation]
  refine ⟨hroute, ?_, hsha⟩
  rw [← hunits]
  rfl

theorem Intent.read {claim : PaidOperationClaim} {found secrets : PaidOperationSecrets}
    (h : Intent id route fundedUnits sha256 encrypted db)
    (hrun : (RepoCall.run pg cipher exec db (.readSecrets id claim)).1 = .ok (some found))
    (hdecrypt : cipher.decrypt id encrypted = .ok secrets) : found = secrets := by
  have hstatement := run_ok hrun
  generalize (RepoCall.run pg cipher exec db (.readSecrets id claim)).2 = db' at hstatement
  simp only [RepoCall.statement, readSecrets, ok_bind_iff] at hstatement
  obtain ⟨_, _, _, _, hread⟩ := hstatement
  split at hread
  · cases hread
  · rename_i row hrow
    have hlookup : db.secrets.lookup id = some row := by
      split at hrow
      · exact hrow
      · cases hrow
    rw [h.secrets row hlookup, hdecrypt] at hread
    cases hread
    rfl

end

end LivepeerTranscode.Gateway
