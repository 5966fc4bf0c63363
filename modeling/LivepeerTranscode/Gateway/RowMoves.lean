import LivepeerTranscode.Gateway.PaidOperations

/-!
# What a statement does to one row

`RowMove` lists the changes of an existing row, each with the part of the `WHERE`
clause it passed. `statement_writes` is the only place where the statements are taken
apart; every invariant of a row is a case analysis of its moves.
-/

namespace LivepeerTranscode.Gateway
open Checked
set_option autoImplicit false

variable {result : Option OperationRow} {value : NewPaidOperation} {operation : PaidOperation}

def RepoCall.ends (id : String) : RepoCall → Prop
  | .recordTerminal target _ _ | .recordLiveTerminal target _ _ | .recordVodTerminal target _ _ =>
    target = id
  | _ => False

def RepoCall.token : RepoCall → Option (String × PaidOperationClaim)
  | .renewClaim id claim _ | .releaseClaim id claim | .recordProgress id claim _
  | .recordRetry id claim _ | .recordTerminal id claim _ | .recordLiveTerminal id claim _
  | .recordVodTerminal id claim _ | .putSecrets id claim _ | .readSecrets id claim
  | .deleteSecrets id claim => some (id, claim)
  | _ => none

variable {id : String} {row : OperationRow} {applies : OperationRow → Bool}
  {set : OperationRow → OperationRow}

section
variable (pg : Postgres) (exec : Execution)

inductive RowMove (id : String) (row : OperationRow) : RepoCall → OperationRow → Prop where
  | claimRecoverable {kind : PaidOperationKind} {owner : String} {now : Time} {lease : Date}
      {limit : Int} : row.recoverable kind now = true → lease.any (now < ·) = true →
      RowMove id row (.claimRecoverable kind owner now lease limit) (row.claim owner lease exec.now)
  | claimSession {stream owner : String} {now : Time} {lease : Date} :
      row.claimable stream owner now = true → lease.any (now < ·) = true →
      RowMove id row (.claimSessionByLiveStreamId stream owner now lease)
        (row.claim owner lease exec.now)
  | winddown {stream reason : String} : row.windable stream = true →
      RowMove id row (.requestSessionWinddown stream reason) (row.winddown reason exec.now)
  | renew {claim : PaidOperationClaim} {lease : Date} : row.heldBy claim = true →
      row.leased exec.now = true → row.terminalAt = none →
      RowMove id row (.renewClaim id claim lease) (row.renew lease exec.now)
  | release {claim : PaidOperationClaim} : row.heldBy claim = true →
      RowMove id row (.releaseClaim id claim) (row.release exec.now)
  | progress {claim : PaidOperationClaim} {value : PaidOperationProgress} {units : ProgressUnits} :
      progressUnits pg value = .ok units → row.heldBy claim = true → row.leased exec.now = true →
      RowMove id row (.recordProgress id claim value) (row.progress value units exec.now)
  | retry {claim : PaidOperationClaim} {value : PaidOperationRetry} : row.heldBy claim = true →
      row.leased exec.now = true →
      RowMove id row (.recordRetry id claim value) (row.retry value exec.now)
  | terminal {claim : PaidOperationClaim} {value : PaidTerminal} {claimed sequence : Nat} :
      numericParam pg value.claimedUnits = .ok claimed →
      numericParam pg value.settlementSequence = .ok sequence →
      row.heldBy claim = true → row.leased exec.now = true →
      RowMove id row (.recordTerminal id claim value)
        (row.terminate value.status claimed sequence value.evidence value.terminalAt exec.now)
  | liveTerminal {claim : PaidOperationClaim} {value : PaidLiveTerminal} {claimed sequence : Nat} :
      numericParam pg value.claimedUnits = .ok claimed →
      numericParam pg value.settlementSequence = .ok sequence →
      row.sessionOf value.liveStreamId = true → row.heldBy claim = true →
      row.leased exec.now = true → row.terminalAt = none →
      RowMove id row (.recordLiveTerminal id claim value)
        (row.terminate "settled" claimed sequence value.evidence value.terminalAt exec.now)
  | vodTerminal {claim : PaidOperationClaim} {value : PaidVodTerminal} {claimed sequence : Nat} :
      numericParam pg value.claimedUnits = .ok claimed →
      numericParam pg value.settlementSequence = .ok sequence →
      row.assetId = some value.assetId → row.heldBy claim = true →
      row.leased exec.now = true → row.terminalAt = none →
      RowMove id row (.recordVodTerminal id claim value)
        ((row.terminate "settled" claimed sequence value.evidence value.terminalAt exec.now).settledVod
          value)

inductive RowCreated (id : String) : RepoCall → OperationRow → Prop where
  | insert {value : NewPaidOperation} {route : PaidRouteSnapshot} {fundedUnits : Nat} :
      value.id = id → routeColumns pg value.route = .ok route →
      numericParam pg value.fundedUnits = .ok fundedUnits →
      RowCreated id (.insert value) (newRow value none route fundedUnits exec.now)
  | insertWithSecrets {value : NewPaidOperation} {secrets : PaidOperationSecrets} {owner : String}
      {lease : Date} {route : PaidRouteSnapshot} {fundedUnits : Nat} :
      value.id = id → routeColumns pg value.route = .ok route →
      numericParam pg value.fundedUnits = .ok fundedUnits →
      RowCreated id (.insertWithSecrets value secrets owner lease)
        (newRow value (some (owner, lease)) route fundedUnits exec.now)

inductive RowChange (call : RepoCall) (db db' : Database) (id : String) : Prop where
  | same : db'.operations.lookup id = db.operations.lookup id → RowChange call db db' id
  | move {row row' : OperationRow} : db.operations.lookup id = some row →
      db'.operations.lookup id = some row' → RowMove pg exec id row call row' →
      RowChange call db db' id
  | create {row' : OperationRow} : db.operations.lookup id = none →
      db'.operations.lookup id = some row' → RowCreated pg exec id call row' →
      RowChange call db db' id

/-- What a statement writes: nothing, a row, the rows of a scan, a new row, or secrets. -/
inductive Writes (cipher : OperationSecretCipher) (call : RepoCall) (db db' : Database) : Prop where
  | nothing : db' = db → Writes cipher call db db'
  | row {target : String} {row row' : OperationRow} : db.operations.lookup target = some row →
      RowMove pg exec target row call row' → db'.operations = db.operations.insert target row' →
      (call.ends target ∧ db'.secrets = db.secrets.erase target ∨
        (∀ id, ¬ call.ends id) ∧ db'.secrets = db.secrets) → Writes cipher call db db'
  | rows : call.token = none → (∀ id, ¬ call.ends id) → (∀ id, RowChange pg exec call db db' id) →
      db'.secrets = db.secrets → Writes cipher call db db'
  | create {target : String} {row' : OperationRow} : db.operations.lookup target = none →
      RowCreated pg exec target call row' → db'.operations = db.operations.insert target row' →
      (db'.secrets = db.secrets ∨ ∃ value secrets owner lease secret,
        call = .insertWithSecrets value secrets owner lease ∧ value.id = target ∧
        secret.encrypted = cipher.encrypt exec.entropy target secrets ∧
        db'.secrets = db.secrets.insert target secret) → Writes cipher call db db'
  | put {target : String} {claim : PaidOperationClaim} {value : PaidOperationSecrets} {secret : SecretRow} :
      call = .putSecrets target claim value → db.holds target claim exec.now = true →
      secret.encrypted = cipher.encrypt exec.entropy target value →
      db' = { db with secrets := db.secrets.insert target secret } → Writes cipher call db db'
  | delete {target : String} {claim : PaidOperationClaim} : call = .deleteSecrets target claim →
      db.holds target claim exec.now = true →
      db' = { db with secrets := db.secrets.erase target } → Writes cipher call db db'

end

/-! ## The two update shapes -/

theorem Database.store_ok {db db' : Database}
    (h : db.store id row = .ok db') : db' = { db with operations := db.operations.insert id row } := by
  unfold Database.store at h
  cases hfail : (failWhen (db.accepts id row = false) .constraint : Repo Unit) with
  | error e => simp [hfail, Except.map] at h
  | ok u =>
    simp only [hfail, Except.map, Except.ok.injEq] at h
    exact h.symm

theorem Database.updateOperation_ok {db db' : Database}
    (h : db.updateOperation id applies set = .ok (result, db')) :
    (result = none ∧ db' = db) ∨
      ∃ row, db.operations.lookup id = some row ∧ applies row = true ∧ result = some (set row) ∧
        db' = { db with operations := db.operations.insert id (set row) } := by
  unfold Database.updateOperation at h
  split at h
  · simp only [Except.ok.injEq, Prod.mk.injEq] at h
    exact .inl ⟨h.1.symm, h.2.symm⟩
  · rename_i row hrow
    split at h
    · rename_i happlies
      cases hstore : db.store id (set row) with
      | error e => simp [hstore, Except.map] at h
      | ok stored =>
        simp only [hstore, Except.map, Except.ok.injEq, Prod.mk.injEq] at h
        obtain ⟨rfl, rfl⟩ := h
        exact .inr ⟨row, hrow, happlies, rfl, Database.store_ok hstore⟩
    · simp only [Except.ok.injEq, Prod.mk.injEq] at h
      exact .inl ⟨h.1.symm, h.2.symm⟩

theorem Database.updateEach_lookup : ∀ {rows : List (String × OperationRow)} {db db' : Database},
      Database.updateEach set rows db = .ok db' → ∀ id,
        db'.operations.lookup id = db.operations.lookup id ∨
          ∃ row, (id, row) ∈ rows ∧ db'.operations.lookup id = some (set row) := by
  intro rows
  induction rows with
  | nil =>
    intro db db' h id
    cases h
    exact .inl rfl
  | cons head rest ih =>
    intro db db' h id
    obtain ⟨key, row⟩ := head
    obtain ⟨stored, hstored, hrest⟩ := ok_bind_iff.mp h
    rcases ih hrest id with hsame | ⟨row', hmem, hrow'⟩
    · have hdb := Database.store_ok hstored
      rw [hsame, hdb]
      by_cases hid : id = key
      · subst hid
        exact .inr ⟨row, List.mem_cons_self, by simp⟩
      · exact .inl (AList.lookup_insert_ne hid)
    · exact .inr ⟨row', List.mem_cons_of_mem _ hmem, hrow'⟩

theorem Database.updateEach_secrets :
    ∀ {rows : List (String × OperationRow)} {db db' : Database},
      Database.updateEach set rows db = .ok db' → db'.secrets = db.secrets := by
  intro rows
  induction rows with
  | nil =>
    intro db db' h
    cases h
    rfl
  | cons head rest ih =>
    intro db db' h
    obtain ⟨stored, hstored, hrest⟩ := ok_bind_iff.mp h
    rw [ih hrest, Database.store_ok hstored]

theorem Database.updateEach_stored : ∀ {rows : List (String × OperationRow)} {db db' : Database},
      Database.updateEach set rows db = .ok db' → (id, row) ∈ rows →
        ∃ row', db'.operations.lookup id = some (set row') := by
  intro rows
  induction rows with
  | nil =>
    intro db db' _ hmem
    cases hmem
  | cons head rest ih =>
    intro db db' h hmem
    obtain ⟨key, first⟩ := head
    obtain ⟨stored, hstored, hrest⟩ := ok_bind_iff.mp h
    rcases List.mem_cons.mp hmem with heq | hlater
    · cases heq
      rcases Database.updateEach_lookup hrest id with hsame | ⟨row', -, hrow'⟩
      · refine ⟨row, ?_⟩
        rw [hsame, Database.store_ok hstored]
        exact AList.lookup_insert _
      · exact ⟨row', hrow'⟩
    · exact ih hrest hlater

theorem Database.mem_rows {db : Database} {scan : List String}
    (h : (id, row) ∈ db.rows scan) : db.operations.lookup id = some row := by
  simp only [Database.rows, List.mem_filterMap, Option.map_eq_some_iff, Prod.mk.injEq] at h
  obtain ⟨_, _, _, hrow, rfl, rfl⟩ := h
  exact hrow

section
variable {pg : Postgres} {exec : Execution} {call : RepoCall} {db db' : Database}

variable {target owner : String} {lease : Date} {claim : PaidOperationClaim} {cipher : OperationSecretCipher}

/-- An update writes the row that its `WHERE` clause passes, and what its statement then does to the secrets. -/
theorem Writes.of_update {stored : Database} (h : db.updateOperation target applies set = .ok (result, stored))
    (hmove : ∀ row, applies row = true → RowMove pg exec target row call (set row))
    (hnone : result = none → db' = stored)
    (hsome : result ≠ none → db'.operations = stored.operations ∧
      (call.ends target ∧ db'.secrets = stored.secrets.erase target ∨
        (∀ id, ¬ call.ends id) ∧ db'.secrets = stored.secrets)) : Writes pg exec cipher call db db' := by
  rcases Database.updateOperation_ok h with ⟨hresult, rfl⟩ | ⟨row, hrow, happlies, hresult, rfl⟩
  · exact .nothing (hnone hresult)
  · obtain ⟨hoperations, hsecrets⟩ := hsome (hresult ▸ nofun)
    exact .row hrow (hmove row happlies) hoperations hsecrets

theorem Writes.of_updated (h : db.updateOperation target applies set = .ok (result, db'))
    (hmove : ∀ row, applies row = true → RowMove pg exec target row call (set row))
    (hends : ∀ id, ¬ call.ends id) : Writes pg exec cipher call db db' :=
  .of_update h hmove (fun _ => rfl) fun _ => ⟨rfl, .inr ⟨hends, rfl⟩⟩

theorem Writes.of_terminal {stored : Database}
    (h : db.updateOperation target applies set = .ok (result, stored)) (hends : call.ends target)
    (hmove : ∀ row, applies row = true → RowMove pg exec target row call (set row))
    (hnone : result = none → db' = stored)
    (hsome : result ≠ none → db'.operations = stored.operations ∧ db'.secrets = stored.secrets.erase target) :
    Writes pg exec cipher call db db' :=
  .of_update h hmove hnone fun hresult => ⟨(hsome hresult).1, .inl ⟨hends, (hsome hresult).2⟩⟩

theorem insertStatement_ok {claim : Option (String × Date)}
    (h : insertStatement pg exec value claim db = .ok (operation, db')) :
    ∃ route fundedUnits, routeColumns pg value.route = .ok route ∧
      numericParam pg value.fundedUnits = .ok fundedUnits ∧ db.operations.lookup value.id = none ∧
      db.store value.id (newRow value claim route fundedUnits exec.now) = .ok db' ∧
      operation = rowToOperation value.id (newRow value claim route fundedUnits exec.now) := by
  simp only [insertStatement, ok_bind_iff, failWhen_ok_iff, not_or, pure, Except.pure,
    Except.ok.injEq, Prod.mk.injEq] at h
  obtain ⟨route, hroute, fundedUnits, hunits, _, ⟨hid, -⟩, stored, hstored, hoperation, rfl⟩ := h
  exact ⟨route, fundedUnits, hroute, hunits, by simpa using hid, hstored, hoperation.symm⟩

theorem lease_after {version : String} {now : Time} {u : Unit}
    (hclaim : validateClaim ⟨owner, version, lease⟩ = .ok u) (hlease : ¬ lease.any (· ≤ now) = true) :
    lease.any (now < ·) = true := by
  simp only [validateClaim, throwWhen_ok_iff, not_or] at hclaim
  cases lease with
  | none => exact absurd rfl hclaim.2.2.2
  | some t =>
    simp only [Option.any_some, decide_eq_true_eq, not_le] at hlease ⊢
    exact hlease

theorem claimRecoverable_row {kind : PaidOperationKind} {now : Time}
    {limit : Int} {rows : List PaidOperation}
    (h : claimRecoverable exec kind owner now lease limit db = .ok (rows, db')) :
    (∀ id, RowChange pg exec (.claimRecoverable kind owner now lease limit) db db' id) ∧
      db'.secrets = db.secrets := by
  simp only [claimRecoverable, ok_bind_iff, pure, Except.pure, Except.ok.injEq, Prod.mk.injEq] at h
  obtain ⟨_, hclaim, _, hinputs, updatedDb, hupdate, _, rfl⟩ := h
  rw [throwWhen_ok_iff, not_or, not_or] at hinputs
  refine ⟨fun id => ?_, Database.updateEach_secrets hupdate⟩
  rcases Database.updateEach_lookup hupdate id with hsame | ⟨row, hmem, hrow'⟩
  · exact .same hsame
  · have hsorted := List.mem_of_mem_take hmem
    rw [(List.perm_insertionSort oldestUpdate _).mem_iff] at hsorted
    obtain ⟨hscanned, hrecoverable⟩ := List.mem_filter.mp hsorted
    exact .move (Database.mem_rows hscanned) hrow'
      (.claimRecoverable hrecoverable (lease_after hclaim hinputs.2.2))

theorem recordProgress_answer {token : PaidOperationClaim} {report : PaidOperationProgress}
    {progressed : PaidOperation}
    (h : recordProgress pg exec id token report db = .ok (some progressed, db')) :
    ∃ row units, db.operations.lookup id = some row ∧
      db'.operations.lookup id = some (row.progress report units exec.now) ∧
      progressed = rowToOperation id (row.progress report units exec.now) := by
  simp only [recordProgress, ok_bind_iff] at h
  obtain ⟨_, _, units, _, _, _, ⟨result, stored⟩, hupdate, hresult⟩ := h
  rcases Database.updateOperation_ok hupdate with ⟨rfl, -⟩ | ⟨row, hrow, -, rfl, rfl⟩
  · simp [updated, pure, Except.pure] at hresult
  · simp only [updated, Option.map_some, pure, Except.pure, Except.ok.injEq, Prod.mk.injEq,
      Option.some.injEq] at hresult
    obtain ⟨rfl, rfl⟩ := hresult
    exact ⟨row, units, hrow, AList.lookup_insert _, rfl⟩

theorem readSecrets_db {secrets : Option PaidOperationSecrets}
    (h : readSecrets cipher exec target claim db = .ok (secrets, db')) : db' = db := by
  simp only [readSecrets, ok_bind_iff] at h
  obtain ⟨_, _, _, _, h⟩ := h
  split at h
  · cases h
    rfl
  · split at h <;> cases h
    rfl

theorem insertWithSecrets_ok {secrets : PaidOperationSecrets} 
    (h : insertWithSecrets pg cipher exec value secrets owner lease db = .ok (operation, db')) :
    ∃ stored, insertStatement pg exec value (some (owner, lease)) db = .ok (operation, stored) ∧
      db'.operations = stored.operations := by
  simp only [insertWithSecrets, ok_bind_iff] at h
  obtain ⟨_, _, ⟨inserted, stored⟩, hinsert, hresult⟩ := h
  cases hresult
  exact ⟨stored, hinsert, rfl⟩

theorem statement_writes {answer : call.Answer}
    (h : call.statement pg cipher exec db = .ok (answer, db')) : Writes pg exec cipher call db db' := by
  cases call with
  | insert value =>
    obtain ⟨route, fundedUnits, hroute, hunits, hnone, hstore, -⟩ := insertStatement_ok h
    cases Database.store_ok hstore
    exact .create hnone (.insert rfl hroute hunits) rfl (.inl rfl)
  | insertWithSecrets value secrets owner lease =>
    simp only [RepoCall.statement, insertWithSecrets, ok_bind_iff] at h
    obtain ⟨_, _, ⟨inserted, stored⟩, hinsert, hresult⟩ := h
    cases hresult
    obtain ⟨route, fundedUnits, hroute, hunits, hnone, hstore, -⟩ := insertStatement_ok hinsert
    cases Database.store_ok hstore
    exact .create hnone (.insertWithSecrets rfl hroute hunits) rfl (.inr ⟨_, _, _, _, _, rfl, rfl, rfl, rfl⟩)
  | byId | byIdForApiKey | byRequestId | byAssetId | byLiveStreamId | byBrokerSessionId =>
    cases h
    exact .nothing rfl
  | listForAdmin kind status limit =>
    simp only [RepoCall.statement] at h
    cases hrows : listForAdmin exec kind status limit db with
    | error e => simp [hrows, Except.map] at h
    | ok rows =>
      simp only [hrows, Except.map, Except.ok.injEq, Prod.mk.injEq] at h
      exact .nothing h.2.symm
  | claimRecoverable =>
    obtain ⟨hrows, hsecrets⟩ := claimRecoverable_row h
    exact .rows rfl (fun _ => not_false) hrows hsecrets
  | claimSessionByLiveStreamId =>
    simp only [RepoCall.statement, claimSessionByLiveStreamId, ok_bind_iff] at h
    obtain ⟨_, hclaim, _, hinputs, h⟩ := h
    rw [throwWhen_ok_iff, not_or] at hinputs
    split at h
    · cases h
      exact .nothing rfl
    · obtain ⟨⟨result, stored⟩, hupdate, hresult⟩ := ok_bind_iff.mp h
      cases hresult
      exact .of_updated hupdate (fun row happlies => .claimSession happlies (lease_after hclaim hinputs.2))
        fun _ => not_false
  | requestSessionWinddown =>
    simp only [RepoCall.statement, requestSessionWinddown, ok_bind_iff] at h
    obtain ⟨_, _, h⟩ := h
    split at h
    · cases h
      exact .nothing rfl
    · obtain ⟨⟨result, stored⟩, hupdate, hresult⟩ := ok_bind_iff.mp h
      cases hresult
      exact .of_updated hupdate (fun row happlies => .winddown happlies) fun _ => not_false
  | renewClaim =>
    simp only [RepoCall.statement, renewClaim, ok_bind_iff] at h
    obtain ⟨_, _, _, _, _, _, ⟨result, stored⟩, hupdate, hresult⟩ := h
    cases hresult
    refine .of_updated hupdate (fun row happlies => ?_) fun _ => not_false
    simp only [Bool.and_eq_true, Option.isNone_iff_eq_none] at happlies
    exact .renew happlies.1.1 happlies.1.2 happlies.2
  | releaseClaim =>
    simp only [RepoCall.statement, releaseClaim, ok_bind_iff] at h
    obtain ⟨_, _, _, _, ⟨result, stored⟩, hupdate, hresult⟩ := h
    cases hresult
    exact .of_updated hupdate (fun row happlies => .release happlies) fun _ => not_false
  | recordProgress =>
    simp only [RepoCall.statement, recordProgress, ok_bind_iff] at h
    obtain ⟨_, _, units, hunits, _, _, ⟨result, stored⟩, hupdate, hresult⟩ := h
    cases hresult
    refine .of_updated hupdate (fun row happlies => ?_) fun _ => not_false
    obtain ⟨hheld, hleased⟩ := Bool.and_eq_true_iff.mp happlies
    exact .progress hunits hheld hleased
  | recordRetry =>
    simp only [RepoCall.statement, recordRetry, ok_bind_iff] at h
    obtain ⟨_, _, _, _, ⟨result, stored⟩, hupdate, hresult⟩ := h
    cases hresult
    refine .of_updated hupdate (fun row happlies => ?_) fun _ => not_false
    obtain ⟨hheld, hleased⟩ := Bool.and_eq_true_iff.mp happlies
    exact .retry hheld hleased
  | recordTerminal =>
    simp only [RepoCall.statement, recordTerminal, ok_bind_iff] at h
    obtain ⟨_, _, claimed, hclaimed, sequence, hsequence, _, _, ⟨terminal, stored⟩, hupdate, h⟩ := h
    refine .of_terminal hupdate rfl (fun row happlies => ?_) ?_ ?_
    · obtain ⟨hheld, hleased⟩ := Bool.and_eq_true_iff.mp happlies
      exact .terminal hclaimed hsequence hheld hleased
    · rintro rfl
      cases h
      rfl
    · intro hsome
      obtain ⟨row, rfl⟩ := Option.ne_none_iff_exists'.mp hsome
      cases h
      exact ⟨rfl, rfl⟩
  | recordLiveTerminal =>
    simp only [RepoCall.statement, recordLiveTerminal, ok_bind_iff] at h
    obtain ⟨_, _, claimed, hclaimed, sequence, hsequence, _, _, ⟨terminal, stored⟩, hupdate, h⟩ := h
    refine .of_terminal hupdate rfl (fun row happlies => ?_) ?_ ?_
    · simp only [Bool.and_eq_true, Option.isNone_iff_eq_none] at happlies
      obtain ⟨⟨⟨hsession, hheld⟩, hleased⟩, hterminal⟩ := happlies
      exact .liveTerminal hclaimed hsequence hsession hheld hleased hterminal
    · rintro rfl
      cases h
      rfl
    · intro hsome
      obtain ⟨row, rfl⟩ := Option.ne_none_iff_exists'.mp hsome
      obtain ⟨_, _, hresult⟩ := ok_bind_iff.mp h
      cases hresult
      exact ⟨rfl, rfl⟩
  | recordVodTerminal =>
    simp only [RepoCall.statement, recordVodTerminal, ok_bind_iff] at h
    obtain ⟨_, _, claimed, hclaimed, sequence, hsequence, _, _, ⟨terminal, stored⟩, hupdate, h⟩ := h
    refine .of_terminal hupdate rfl (fun row happlies => ?_) ?_ ?_
    · simp only [Bool.and_eq_true, Option.isNone_iff_eq_none, beq_iff_eq] at happlies
      obtain ⟨⟨⟨hasset, hheld⟩, hleased⟩, hterminal⟩ := happlies
      exact .vodTerminal hclaimed hsequence hasset hheld hleased hterminal
    · rintro rfl
      cases h
      rfl
    · intro hsome
      obtain ⟨row, rfl⟩ := Option.ne_none_iff_exists'.mp hsome
      simp only [ok_bind_iff] at h
      obtain ⟨_, _, _, _, _, _, _, _, hresult⟩ := h
      cases hresult
      exact ⟨rfl, rfl⟩
  | putSecrets =>
    simp only [RepoCall.statement, putSecrets, ok_bind_iff] at h
    obtain ⟨_, _, _, _, h⟩ := h
    split at h
    · rename_i hholds
      cases h
      exact .put rfl hholds rfl rfl
    · cases h
      exact .nothing rfl
  | readSecrets => exact .nothing (readSecrets_db h)
  | deleteSecrets =>
    simp only [RepoCall.statement, deleteSecrets, ok_bind_iff] at h
    obtain ⟨_, _, _, _, h⟩ := h
    split at h
    · rename_i hholds
      cases h
      exact .delete rfl (Bool.and_eq_true_iff.mp hholds).1 rfl
    · cases h
      exact .nothing rfl

theorem Writes.rowChange (h : Writes pg exec cipher call db db') (id : String) : RowChange pg exec call db db' id := by
  cases h with
  | nothing hsame => exact .same (by rw [hsame])
  | @row target row row' hrow hmove hoperations _ =>
    by_cases hid : id = target
    · subst hid
      exact .move hrow (by rw [hoperations, AList.lookup_insert]) hmove
    · exact .same (by rw [hoperations, AList.lookup_insert_ne hid])
  | rows _ _ hrows _ => exact hrows id
  | @create target row' hnone hcreated hoperations _ =>
    by_cases hid : id = target
    · subst hid
      exact .create hnone (by rw [hoperations, AList.lookup_insert]) hcreated
    · exact .same (by rw [hoperations, AList.lookup_insert_ne hid])
  | put _ _ _ hdb => exact .same (by rw [hdb])
  | delete _ _ hdb => exact .same (by rw [hdb])

theorem run_cases (pg : Postgres) (cipher : OperationSecretCipher) (exec : Execution) (db : Database)
    (call : RepoCall) :
    (call.run pg cipher exec db).2 = db ∨
      ∃ answer, call.statement pg cipher exec db = .ok (answer, (call.run pg cipher exec db).2) := by
  unfold RepoCall.run
  cases hstatement : call.statement pg cipher exec db with
  | error e => cases exec.delivery <;> exact .inl rfl
  | ok result =>
    obtain ⟨answer, stored⟩ := result
    cases exec.delivery with
    | answered => exact .inr ⟨answer, rfl⟩
    | unsent => exact .inl rfl
    | unanswered => exact .inr ⟨answer, rfl⟩

theorem run_ok {answer : call.Answer} (h : (call.run pg cipher exec db).1 = .ok answer) :
    call.statement pg cipher exec db = .ok (answer, (call.run pg cipher exec db).2) := by
  unfold RepoCall.run at h ⊢
  cases hstatement : call.statement pg cipher exec db with
  | error e => cases hdelivery : exec.delivery <;> simp [hstatement, hdelivery] at h
  | ok result =>
    obtain ⟨given, stored⟩ := result
    cases hdelivery : exec.delivery with
    | answered =>
      simp only [hstatement, hdelivery, Except.ok.injEq] at h
      rw [h]
    | unsent => simp [hdelivery] at h
    | unanswered => simp [hstatement, hdelivery] at h

theorem run_row (pg : Postgres) (cipher : OperationSecretCipher) (exec : Execution) (db : Database)
    (call : RepoCall) (id : String) : RowChange pg exec call db (call.run pg cipher exec db).2 id := by
  rcases run_cases pg cipher exec db call with hsame | ⟨answer, hanswer⟩
  · exact .same (by rw [hsame])
  · exact (statement_writes hanswer).rowChange id

end

end LivepeerTranscode.Gateway
