import LivepeerTranscode.Gateway.Fencing
import LivepeerTranscode.Gateway.SecretMoves

/-!
# Terminal operations

A terminal row has no owner, so no token is its own and no claim takes it up: it stays as it
is, without secrets. The two terminal transactions do everything they are for or nothing.
-/

namespace LivepeerTranscode.Gateway
open Checked History
set_option autoImplicit false

variable {key : String} {Row : Type} {table : Table RenditionRow} {operation : PaidOperation}
  {renditions : List TerminalRendition}

/-- Every terminal row is without owner and without secrets. -/
def Database.Sealed (db : Database) : Prop :=
  ∀ id row, db.operations.lookup id = some row → row.terminalAt.isSome = true →
    row.recoveryOwner = none ∧ db.secrets.lookup id = none

section
variable {pg : Postgres} {cipher : OperationSecretCipher} {exec : Execution} {call : RepoCall}
  {db db' : Database} {id : String} {row row' : OperationRow}

variable {claim : PaidOperationClaim} {value : PaidVodTerminal} {table' : Table RenditionRow}

theorem OperationRow.heldBy_owner (h : row.heldBy claim = true) :
    row.recoveryOwner = some claim.owner := by
  simp only [OperationRow.heldBy, Bool.and_eq_true, beq_iff_eq] at h
  exact h.1.1

theorem OperationRow.not_heldBy (howner : row.recoveryOwner = none) : row.heldBy claim = false := by
  by_contra h
  rw [Bool.not_eq_false] at h
  cases howner.symm.trans (OperationRow.heldBy_owner h)

theorem RowMove.nonterminal (h : RowMove pg exec id row call row')
    (hsealed : row.terminalAt.isSome = true → row.recoveryOwner = none) : row.terminalAt = none := by
  by_contra hterminal
  have hsome : row.terminalAt.isSome = true := by
    rwa [Option.isSome_iff_ne_none]
  have hheld : ∀ claim, row.heldBy claim = true → False := by
    intro claim hclaim
    rw [OperationRow.not_heldBy (hsealed hsome)] at hclaim
    cases hclaim
  cases h with
  | claimRecoverable happlies _ => simp_all [OperationRow.recoverable]
  | claimSession happlies _ => simp_all [OperationRow.claimable]
  | winddown happlies => simp_all [OperationRow.windable]
  | renew _ _ hnone => exact hterminal hnone
  | release hclaim => exact hheld _ hclaim
  | progress _ hclaim _ => exact hheld _ hclaim
  | retry hclaim _ => exact hheld _ hclaim
  | terminal _ _ hclaim _ => exact hheld _ hclaim
  | liveTerminal _ _ _ _ _ hnone => exact hterminal hnone
  | vodTerminal _ _ _ _ _ hnone => exact hterminal hnone

theorem RowMove.ended (h : RowMove pg exec id row call row') (hbefore : row.terminalAt = none)
    (hafter : row'.terminalAt.isSome = true) : call.ends id ∧ row'.recoveryOwner = none := by
  cases h with
  | terminal | liveTerminal | vodTerminal => exact ⟨rfl, rfl⟩
  | _ =>
    change row.terminalAt.isSome = true at hafter
    rw [hbefore] at hafter
    cases hafter

theorem RowCreated.nonterminal (h : RowCreated pg exec id call row') : row'.terminalAt = none := by
  cases h <;> rfl

theorem Database.Sealed.step (h : db.Sealed) (input : Execution × RepoCall) :
    (db.step pg cipher input).Sealed := by
  intro id row' hrow' hterminal
  have hsecret := run_secret pg cipher input.1 db input.2 id
  cases run_row pg cipher input.1 db input.2 id with
  | same hsame =>
    have hrow : db.operations.lookup id = some row' := hsame.symm.trans hrow'
    obtain ⟨howner, hnone⟩ := h id row' hrow hterminal
    refine ⟨howner, ?_⟩
    cases hsecret with
    | same hkept _ => exact hkept.trans hnone
    | ended _ hgone => exact hgone
    | deleted _ hgone => exact hgone
    | put _ hholds _ _ =>
      simp [Database.holds, hrow, OperationRow.not_heldBy howner] at hholds
    | created _ _ hnew _ _ => cases hnew.symm.trans hrow
  | move hrow hafter hmove =>
    cases hafter.symm.trans hrow'
    have hopen := hmove.nonterminal fun hsome => (h id _ hrow hsome).1
    obtain ⟨hends, howner⟩ := hmove.ended hopen hterminal
    refine ⟨howner, ?_⟩
    cases hsecret with
    | same _ hkept =>
      have hsame := (hkept hends).symm.trans (hafter)
      cases hsame.symm.trans hrow
      rw [hopen] at hterminal
      cases hterminal
    | ended _ hgone => exact hgone
    | deleted _ hgone => exact hgone
    | put hcall _ _ _ =>
      rw [hcall] at hends
      exact hends.elim
    | created hcall _ _ _ _ =>
      rw [hcall] at hends
      exact hends.elim
  | create _ hafter hcreated =>
    cases hafter.symm.trans hrow'
    rw [hcreated.nonterminal] at hterminal
    cases hterminal

theorem Database.Sealed.absorbs (h : db.Sealed) (input : Execution × RepoCall)
    (hrow : db.operations.lookup id = some row) (hterminal : row.terminalAt.isSome = true) :
    (db.step pg cipher input).operations.lookup id = some row ∧
      (db.step pg cipher input).secrets.lookup id = none := by
  have hrow' : (db.step pg cipher input).operations.lookup id = some row := by
    cases run_row pg cipher input.1 db input.2 id with
    | same hsame => exact hsame.trans hrow
    | move hbefore _ hmove =>
      cases hbefore.symm.trans hrow
      rw [hmove.nonterminal fun hsome => (h id _ hrow hsome).1] at hterminal
      cases hterminal
    | create hnone _ _ => cases hnone.symm.trans hrow
  exact ⟨hrow', (h.step input id row hrow' hterminal).2⟩

/-! ## Claims -/

def RepoCall.claimed : (call : RepoCall) → call.Answer → List PaidOperation
  | .claimRecoverable .., operations => operations
  | .claimSessionByLiveStreamId .., operation | .renewClaim .., operation => operation.toList
  | _, _ => []

theorem updateOperation_updated {target : String} {applies : OperationRow → Bool}
    {set : OperationRow → OperationRow} {result : Option OperationRow} {stored : Database}
    (h : db.updateOperation target applies set = .ok (result, stored))
    (hmem : operation ∈ (updated target (result, stored)).1.toList) :
    operation.id = target ∧ ∃ row, db.operations.lookup target = some row ∧ applies row = true := by
  rcases Database.updateOperation_ok h with ⟨rfl, -⟩ | ⟨row, hrow, happlies, rfl, -⟩
  · simp [updated] at hmem
  · simp only [updated, Option.map_some, Option.toList_some, List.mem_singleton] at hmem
    subst hmem
    exact ⟨rfl, row, hrow, happlies⟩

theorem claimed_nonterminal {answer : call.Answer}
    (h : call.statement pg cipher exec db = .ok (answer, db')) (hmem : operation ∈ call.claimed answer) :
    ∃ row, db.operations.lookup operation.id = some row ∧ row.terminalAt = none := by
  cases call with
  | claimRecoverable kind owner now lease limit =>
    simp only [RepoCall.statement, claimRecoverable, ok_bind_iff, pure, Except.pure, Except.ok.injEq,
      Prod.mk.injEq] at h
    obtain ⟨_, _, _, _, _, _, rfl, _⟩ := h
    obtain ⟨⟨target, row⟩, hrow, rfl⟩ := List.mem_map.mp hmem
    have hsorted := List.mem_of_mem_take hrow
    rw [(List.perm_insertionSort oldestUpdate _).mem_iff] at hsorted
    obtain ⟨hscanned, happlies⟩ := List.mem_filter.mp hsorted
    refine ⟨row, Database.mem_rows hscanned, ?_⟩
    simp only [OperationRow.recoverable, Bool.and_eq_true, Option.isNone_iff_eq_none] at happlies
    exact happlies.1.1.2
  | claimSessionByLiveStreamId stream owner now lease =>
    simp only [RepoCall.statement, claimSessionByLiveStreamId, ok_bind_iff] at h
    obtain ⟨_, _, _, _, h⟩ := h
    split at h
    · cases h
      cases hmem
    · obtain ⟨⟨result, stored⟩, hupdate, hresult⟩ := ok_bind_iff.mp h
      cases hresult
      obtain ⟨rfl, row, hrow, happlies⟩ := updateOperation_updated hupdate hmem
      simp only [OperationRow.claimable, Bool.and_eq_true, Option.isNone_iff_eq_none] at happlies
      exact ⟨row, hrow, happlies.1.2⟩
  | renewClaim target claim lease =>
    simp only [RepoCall.statement, renewClaim, ok_bind_iff] at h
    obtain ⟨_, _, _, _, _, _, ⟨result, stored⟩, hupdate, hresult⟩ := h
    cases hresult
    obtain ⟨rfl, row, hrow, happlies⟩ := updateOperation_updated hupdate hmem
    simp only [Bool.and_eq_true, Option.isNone_iff_eq_none] at happlies
    exact ⟨row, hrow, happlies.2⟩
  | _ => cases hmem

/-! ## The terminal transactions -/

theorem Table.lookup_eraseEach {gone : String → Bool} {keys : List String} {table : Table Row} {row : Row}
    (h : (keys.foldl (fun rest key => if gone key then rest.erase key else rest) table).lookup key =
      some row) : table.lookup key = some row ∧ (key ∈ keys → gone key = false) := by
  induction keys generalizing table with
  | nil => exact ⟨h, fun hmem => by cases hmem⟩
  | cons first rest ih =>
    obtain ⟨hbefore, hrest⟩ := ih h
    dsimp only at hbefore
    by_cases hgone : gone first = true
    · rw [if_pos hgone] at hbefore
      have hne : key ≠ first := by
        rintro rfl
        rw [AList.lookup_erase] at hbefore
        cases hbefore
      rw [AList.lookup_erase_ne hne] at hbefore
      exact ⟨hbefore, fun hmem => hrest ((List.mem_cons.mp hmem).resolve_left hne)⟩
    · rw [if_neg hgone] at hbefore
      refine ⟨hbefore, fun hmem => ?_⟩
      rcases List.mem_cons.mp hmem with rfl | hlater
      · exact Bool.eq_false_iff.mpr hgone
      · exact hrest hlater

theorem Table.lookup_deleteWhere {table : Table Row} {applies : Row → Bool}
    {row : Row} (h : (table.deleteWhere applies).lookup key = some row) :
    table.lookup key = some row ∧ applies row = false := by
  obtain ⟨hrow, hkept⟩ := Table.lookup_eraseEach h
  have hkey : key ∈ table.keys := AList.mem_keys.mpr (AList.lookup_isSome.mp (by rw [hrow]; rfl))
  have happlies := hkept hkey
  rw [hrow] at happlies
  exact ⟨hrow, happlies⟩

structure LiveTerminated (id : String) (value : PaidLiveTerminal) (db' : Database) : Prop where
  operation : ∃ row, db'.operations.lookup id = some row ∧ row.status = "settled" ∧
    row.terminalAt = some value.terminalAt
  stream : db'.liveStreams.lookup value.liveStreamId =
    some ⟨"ended", some value.terminalAt, some value.terminalAt⟩
  playback : ∀ key row, db'.playbackIds.lookup key = some row →
    row.liveStreamId ≠ some value.liveStreamId
  secrets : db'.secrets.lookup id = none

structure VodTerminated (id : String) (value : PaidVodTerminal) (db' : Database) : Prop where
  operation : ∃ row, db'.operations.lookup id = some row ∧ row.status = "settled" ∧
    row.terminalAt = some value.terminalAt
  renditions : ∀ rendition ∈ value.renditions, ∃ row, db'.renditions.lookup rendition.renditionId = some row ∧
    row.status = "completed" ∧ row.storageKey = some rendition.storageKey ∧
    row.completedAt = some value.terminalAt
  encodingJob : ∃ row, db'.encodingJobs.lookup value.encodingJobId = some row ∧ row.status = "completed" ∧
    row.completedAt = some value.terminalAt
  asset : db'.assets.lookup value.assetId = some ⟨"ready", some value.terminalAt⟩
  playback : ∃ key row, db'.playbackIds.lookup key = some row ∧ row.assetId = some value.assetId
  secrets : db'.secrets.lookup id = none

theorem Table.updateWhere_ok {table table' : Table Row} {applies : Row → Bool}
    {set : Row → Row} {message : String}
    (h : rowUpdated (table.updateWhere key applies set) message = .ok table') :
    ∃ row, table.lookup key = some row ∧ applies row = true ∧ table' = table.insert key (set row) := by
  unfold Table.updateWhere at h
  split at h
  · cases h
  · rename_i row hrow
    split at h
    · rename_i happlies
      cases h
      exact ⟨row, hrow, happlies, rfl⟩
    · cases h

theorem recordLiveTerminal_ok {value : PaidLiveTerminal} {written : Bool}
    (h : recordLiveTerminal pg exec id claim value db = .ok (written, db')) :
    db' = db ∨ LiveTerminated id value db' := by
  simp only [recordLiveTerminal, ok_bind_iff] at h
  obtain ⟨_, _, claimed, -, sequence, -, _, _, ⟨terminal, stored⟩, hupdate, h⟩ := h
  rcases Database.updateOperation_ok hupdate with ⟨rfl, rfl⟩ | ⟨row, -, -, rfl, rfl⟩
  · cases h
    exact .inl rfl
  · obtain ⟨streams, hstreams, hresult⟩ := ok_bind_iff.mp h
    cases hresult
    obtain ⟨_, -, -, rfl⟩ := Table.updateWhere_ok hstreams
    refine .inr ⟨⟨_, AList.lookup_insert _, rfl, rfl⟩, AList.lookup_insert _, ?_, AList.lookup_erase _ _⟩
    intro key playback hplayback
    have hkept := (Table.lookup_deleteWhere hplayback).2
    simpa using hkept

theorem completeRenditions_cons {rendition : TerminalRendition} {rest : List TerminalRendition}
    (h : completeRenditions pg value (rendition :: rest) table = .ok table') :
    ∃ row done, table.lookup rendition.renditionId = some row ∧ row.status ≠ "completed" ∧
      done.status = "completed" ∧ done.storageKey = some rendition.storageKey ∧
      done.completedAt = some value.terminalAt ∧
      completeRenditions pg value rest (table.insert rendition.renditionId done) = .ok table' := by
  unfold completeRenditions at h
  simp only at h
  split at h
  · simp only [ok_bind_iff, Except.ok.injEq, exists_eq_left'] at h
    obtain ⟨next, hnext, hrest⟩ := h
    obtain ⟨row, hrow, happlies, rfl⟩ := Table.updateWhere_ok hnext
    refine ⟨row, _, hrow, ?_, rfl, rfl, rfl, hrest⟩
    intro hcompleted
    simp [hcompleted] at happlies
  · cases h

theorem completeRenditions_keeps {row : RenditionRow}
    (h : completeRenditions pg value renditions table = .ok table') (hrow : table.lookup key = some row)
    (hcompleted : row.status = "completed") : table'.lookup key = some row := by
  induction renditions generalizing table with
  | nil =>
    cases h
    exact hrow
  | cons rendition rest ih =>
    obtain ⟨found, done, hfound, hopen, -, -, -, hrest⟩ := completeRenditions_cons h
    refine ih hrest ?_
    have hkey : key ≠ rendition.renditionId := by
      rintro rfl
      cases hfound.symm.trans hrow
      exact hopen hcompleted
    rw [AList.lookup_insert_ne hkey]
    exact hrow

theorem completeRenditions_ok (h : completeRenditions pg value renditions table = .ok table') :
    ∀ rendition ∈ renditions, ∃ row, table'.lookup rendition.renditionId = some row ∧
      row.status = "completed" ∧ row.storageKey = some rendition.storageKey ∧
      row.completedAt = some value.terminalAt := by
  induction renditions generalizing table with
  | nil =>
    intro rendition hmem
    cases hmem
  | cons head rest ih =>
    intro rendition hmem
    obtain ⟨_, done, -, -, hstatus, hkey, hat, hrest⟩ := completeRenditions_cons h
    rcases List.mem_cons.mp hmem with rfl | hlater
    · exact ⟨done, completeRenditions_keeps hrest (AList.lookup_insert _) hstatus, hstatus, hkey, hat⟩
    · exact ih hrest rendition hlater

theorem insertPlayback_ok {table : Table PlaybackRow} (h : insertPlayback value db = .ok table) :
    ∃ key row, table.lookup key = some row ∧ row.assetId = some value.assetId := by
  unfold insertPlayback at h
  split at h
  · rename_i hsome
    cases h
    obtain ⟨entry, hentry, hasset⟩ := List.any_eq_true.mp hsome
    refine ⟨entry.1, entry.2, ?_, by simpa using hasset⟩
    exact AList.mem_lookup_iff.mpr hentry
  · obtain ⟨_, -, rfl⟩ := map_ok h
    exact ⟨value.playbackId, _, AList.lookup_insert _, rfl⟩

theorem recordVodTerminal_ok {written : Bool}
    (h : recordVodTerminal pg exec id claim value db = .ok (written, db')) :
    db' = db ∨ VodTerminated id value db' := by
  simp only [recordVodTerminal, ok_bind_iff] at h
  obtain ⟨_, _, claimed, -, sequence, -, _, _, ⟨terminal, stored⟩, hupdate, h⟩ := h
  rcases Database.updateOperation_ok hupdate with ⟨rfl, rfl⟩ | ⟨row, -, -, rfl, rfl⟩
  · cases h
    exact .inl rfl
  · simp only [ok_bind_iff] at h
    obtain ⟨renditions, hrenditions, jobs, hjobs, assets, hassets, playbackIds, hplayback, hresult⟩ := h
    cases hresult
    obtain ⟨_, -, -, rfl⟩ := Table.updateWhere_ok hjobs
    obtain ⟨_, -, -, rfl⟩ := Table.updateWhere_ok hassets
    exact .inr {
      operation := ⟨_, AList.lookup_insert _, rfl, rfl⟩
      renditions := completeRenditions_ok hrenditions
      encodingJob := ⟨_, AList.lookup_insert _, rfl, rfl⟩
      asset := AList.lookup_insert _
      playback := insertPlayback_ok hplayback
      secrets := AList.lookup_erase _ _ }

/-- What one moment of a run does to terminal rows, and what the terminal transactions do. -/
structure TerminalMoment (pg : Postgres) (cipher : OperationSecretCipher)
    (m : Moment Database (Execution × RepoCall)) : Prop where
  absorbs : ∀ id row, m.before.operations.lookup id = some row → row.terminalAt.isSome = true →
    m.after.operations.lookup id = some row ∧ m.before.secrets.lookup id = none ∧
      m.after.secrets.lookup id = none
  unclaimed : ∀ answer operation row, (m.input.2.run pg cipher m.input.1 m.before).1 = .ok answer →
    operation ∈ m.input.2.claimed answer → m.before.operations.lookup operation.id = some row →
    row.terminalAt = none
  live : ∀ id claim value, m.input.2 = .recordLiveTerminal id claim value →
    m.after = m.before ∨ LiveTerminated id value m.after
  vod : ∀ id claim value, m.input.2 = .recordVodTerminal id claim value →
    m.after = m.before ∨ VodTerminated id value m.after

theorem Database.Sealed.moment (h : db.Sealed) (input : Execution × RepoCall) :
    TerminalMoment pg cipher ⟨db, input, db.step pg cipher input⟩ where
  absorbs id row hrow hterminal :=
    have hkept := h.absorbs input hrow hterminal
    ⟨hkept.1, (h id row hrow hterminal).2, hkept.2⟩
  unclaimed answer operation row hanswer hmem hrow := by
    have hstatement := run_ok hanswer
    obtain ⟨found, hfound, hnone⟩ := claimed_nonterminal hstatement hmem
    cases hfound.symm.trans hrow
    exact hnone
  live id claim value hcall := by
    rcases run_cases pg cipher input.1 db input.2 with hsame | ⟨answer, hanswer⟩
    · exact .inl hsame
    · obtain ⟨exec, call⟩ := input
      cases hcall
      exact recordLiveTerminal_ok hanswer
  vod id claim value hcall := by
    rcases run_cases pg cipher input.1 db input.2 with hsame | ⟨answer, hanswer⟩
    · exact .inl hsame
    · obtain ⟨exec, call⟩ := input
      cases hcall
      exact recordVodTerminal_ok hanswer

end

def sampleOpening : NewPaidOperation where
  id := "op-1"
  kind := .session
  apiKeyId := "key"
  assetId := none
  liveStreamId := some "live-1"
  requestId := "request-1"
  requestContentSha256 := sampleOperation.requestContentSha256
  workId := "work-1"
  rotationGeneration := none
  route := sampleRoute
  status := "opening"
  fundedUnits := "60"
  sessionRuntime := some sampleRuntime

def sampleSecrets : PaidOperationSecrets :=
  ⟨none, none, none, none, none, none, none, none, none, none⟩

def sampleClosing : PaidLiveTerminal where
  liveStreamId := "live-1"
  claimedUnits := "12"
  settlementSequence := "1"
  evidence := ⟨200, "", "output_seconds", "12", none, none, some "publisher_ended"⟩
  terminalAt := 20

def openingToken : PaidOperationClaim := ⟨"gateway-a", "1", some 100⟩

/-- Gateway A opens and ends the session, then writes secrets under the token it had. -/
def closingInputs : List (Execution × RepoCall) :=
  [(sampleExecution, .insertWithSecrets sampleOpening sampleSecrets "gateway-a" (some 100)),
    (sampleExecution, .recordLiveTerminal "op-1" openingToken sampleClosing),
    (sampleExecution, .putSecrets "op-1" openingToken sampleSecrets)]

end LivepeerTranscode.Gateway
