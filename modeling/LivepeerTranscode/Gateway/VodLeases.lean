import LivepeerTranscode.Gateway.VodSystem

/-!
# Leases of VOD operations

A run inserts its operation under a lease, and recovery claims an operation whose lease has
run out. No VOD service renews a lease, however long its job takes.
-/

namespace LivepeerTranscode.Gateway
open Actors Checked Interaction
set_option autoImplicit false

inductive ClaimsAt (id : String) (now lease : Time) : GatewayEvent → Prop where
  | mk {kind : PaidOperationKind} {owner : String} {limit : Int} {operations : List PaidOperation}
      {operation : PaidOperation} : operation ∈ operations → operation.id = id →
      ClaimsAt id now lease
        ⟨.repo (.claimRecoverable kind owner now (some lease) limit), .ok operations⟩

/-- The operation was inserted under this lease, or handed out with it. -/
inductive Grants (id : String) (lease : Time) : GatewayEvent → Prop where
  | insert {value : NewPaidOperation} {secrets : PaidOperationSecrets} {owner : String}
      {operation : PaidOperation} : value.id = id →
      Grants id lease ⟨.repo (.insertWithSecrets value secrets owner (some lease)), .ok operation⟩
  | claim {now : Time} {event : GatewayEvent} : ClaimsAt id now lease event → Grants id lease event

/-- The row is terminal or its lease is at least this one. -/
def OperationRow.leasedUntil (row : OperationRow) (lease : Time) : Prop :=
  row.terminalAt.isSome = true ∨ row.recoveryLeaseExpiresAt.any (lease ≤ ·) = true

structure Leases (s : GatewayState) (log : GatewayLog) : Prop where
  terminals : s.db.Sealed
  held : ∀ entry ∈ log, ∀ id lease, Grants id lease entry.2 →
    ∃ row, s.db.operations.lookup id = some row ∧ row.leasedUntil lease
  ordered : log.Pairwise fun earlier later => ∀ id lease lease', Grants id lease earlier.2 →
    Grants id lease' later.2 → ∃ now, ClaimsAt id now lease' later.2 ∧ lease ≤ now
  times : ∀ n now, (n, ⟨.now, now⟩) ∈ log → now ≤ s.clock
  claims : ∀ entry ∈ log, ∀ id now lease, ClaimsAt id now lease entry.2 → now ≤ s.clock

section
variable {P : Platform} {pg : Postgres} {cipher : OperationSecretCipher}
  {advance : Time → Time → Prop} {s s' : GatewayState} {log : GatewayLog} {n : Nat} {e : Call}
  {answer : e.Answer} {exec : Execution} {id : String} {call : RepoCall} {row row' : OperationRow}
  {lease now : Time}

theorem recoverable_leasedUntil {kind : PaidOperationKind} (hrecoverable : row.recoverable kind now = true)
    (hleased : row.leasedUntil lease) : lease ≤ now := by
  simp only [OperationRow.recoverable, Bool.and_eq_true, Option.isNone_iff_eq_none] at hrecoverable
  obtain ⟨⟨⟨-, hopen⟩, -⟩, hover⟩ := hrecoverable
  rcases hleased with hterminal | hlease
  · rw [hopen] at hterminal
    cases hterminal
  · unfold OperationRow.leaseOver at hover
    cases hcurrent : row.recoveryLeaseExpiresAt with
    | none =>
      rw [hcurrent] at hlease
      cases hlease
    | some t =>
      simp only [hcurrent, Option.any_some, Option.all_some, decide_eq_true_eq] at hlease hover
      exact hlease.trans hover

theorem RowMove.leasedUntil (hvod : VodStatement timely (history n log) call)
    (hmove : RowMove pg exec id row call row') (hleased : row.leasedUntil lease) :
    row'.leasedUntil lease := by
  cases hmove with
  | claimRecoverable hrecoverable hafter =>
    right
    have hle := recoverable_leasedUntil hrecoverable hleased
    simp only [OperationRow.claim]
    rename_i ends _
    cases ends with
    | none => cases hafter
    | some t =>
      simp only [Option.any_some, decide_eq_true_eq] at hafter ⊢
      exact (hle.trans_lt hafter).le
  | progress _ _ _ => exact hleased
  | retry _ _ => exact hleased
  | vodTerminal _ _ _ _ _ _ => exact .inl rfl
  | _ => exact hvod.elim

/-- What a grant leaves: the lease of the row, and the leases before it run out. -/
theorem act_grants (hact : (vodWorld P pg cipher advance).act s e answer s')
    (hgrant : Grants id lease ⟨e, answer⟩) :
    (∃ row', s'.db.operations.lookup id = some row' ∧ row'.leasedUntil lease) ∧
    ∀ row earlier, s.db.operations.lookup id = some row → row.leasedUntil earlier →
      ∃ now, ClaimsAt id now lease ⟨e, answer⟩ ∧ earlier ≤ now := by
  cases hgrant with
  | insert hid =>
    subst hid
    obtain ⟨db, exec, hbeside, -, hstatement⟩ := act_answer hact
    obtain ⟨stored, hinsert, hops⟩ := insertWithSecrets_ok hstatement
    obtain ⟨route, units, -, -, hnone, hstore, -⟩ := insertStatement_ok hinsert
    constructor
    · have hrow' := hops.trans (congrArg Database.operations (Database.store_ok hstore))
      refine ⟨_, (congrArg (AList.lookup _) hrow').trans (AList.lookup_insert _), .inr ?_⟩
      simp [newRow]
    · intro row earlier hrow
      rw [hbeside.1] at hnone
      cases hnone.symm.trans hrow
  | claim hclaim =>
    have hclaim' := hclaim
    generalize hevent : (⟨e, answer⟩ : GatewayEvent) = event at hclaim
    cases hclaim with
    | mk hmem hid =>
      cases hevent
      subst hid
      obtain ⟨db, exec, hbeside, -, hstatement⟩ := act_answer hact
      obtain ⟨row, row', hrow, hrecoverable, -, hrow', hlease⟩ := claimRecoverable_granted hstatement hmem
      constructor
      · refine ⟨row', hrow', .inr ?_⟩
        simp [hlease]
      · intro found earlier hfound hleased
        rw [hbeside.1] at hrow
        cases hrow.symm.trans hfound
        exact ⟨_, hclaim', recoverable_leasedUntil hrecoverable hleased⟩

theorem Leases.act (h : Leases s log) (hvod : vodRule (vodOpens P) timely (history n log) e)
    (hact : (vodWorld P pg cipher (· ≤ ·)).act s e answer s') :
    Leases s' (log ++ [(n, ⟨e, answer⟩)]) := by
  have hclock : s.clock ≤ s'.clock := hact.1
  refine ⟨act_sealed h.terminals hact, ?_, ?_, ?_, ?_⟩
  · intro entry hmem id lease hgrant
    rcases List.mem_append.mp hmem with hold | hnew
    · obtain ⟨row, hrow, hleased⟩ := h.held entry hold id lease hgrant
      cases act_row hact id with
      | same hsame => exact ⟨row, hsame.trans hrow, hleased⟩
      | move hcall _ hbefore hafter hmove =>
        subst hcall
        cases hbefore.symm.trans hrow
        exact ⟨_, hafter, hmove.leasedUntil hvod hleased⟩
      | create _ _ hnone _ _ => cases hnone.symm.trans hrow
    · rw [List.mem_singleton.mp hnew] at hgrant
      exact (act_grants hact hgrant).1
  · refine List.pairwise_append.mpr ⟨h.ordered, List.pairwise_singleton _ _, ?_⟩
    intro earlier hearlier later hlater id lease lease' hgrant hgrant'
    rw [List.mem_singleton.mp hlater] at hgrant' ⊢
    obtain ⟨row, hrow, hleased⟩ := h.held earlier hearlier id lease hgrant
    exact (act_grants hact hgrant').2 row lease hrow hleased
  · intro m now hmem
    rcases List.mem_append.mp hmem with hold | hnew
    · exact (h.times m now hold).trans hclock
    · have hentry := List.mem_singleton.mp hnew
      simp only [Prod.mk.injEq, Event.mk.injEq] at hentry
      obtain ⟨rfl, rfl, hanswer⟩ := hentry
      cases eq_of_heq hanswer
      exact act_now hact
  · intro entry hmem id now lease hclaim
    rcases List.mem_append.mp hmem with hold | hnew
    · exact (h.claims entry hold id now lease hclaim).trans hclock
    · rw [List.mem_singleton.mp hnew] at hclaim
      generalize hevent : (⟨e, answer⟩ : GatewayEvent) = event at hclaim
      cases hclaim with
      | mk _ _ =>
        cases hevent
        exact (h.times n now (mem_history.mp hvod.2.2)).trans hclock

theorem Leases.empty (hempty : s.Empty) : Leases s [] := by
  refine ⟨(SettledRows.empty hempty).terminals, ?_, List.Pairwise.nil, ?_, ?_⟩
  · intro entry hmem
    cases hmem
  · intro n now hmem
    cases hmem
  · intro entry hmem
    cases hmem

end

/-- The actor was granted the operation, and the key it opens the job with is that of the
operation's stored intent. -/
def StartedUnder (h : List GatewayEvent) (input : LocOpenJobInput) (id : String) (lease : Time) : Prop :=
  (∃ event ∈ h, Grants id lease event) ∧ ∃ secrets : PaidOperationSecrets,
    objectString secrets.loc "idempotency_key" = some input.requestId ∧
    ((∃ value owner ends operation, value.id = id ∧
      (⟨.repo (.insertWithSecrets value secrets owner ends), .ok operation⟩ : GatewayEvent) ∈ h) ∨
    ∃ claim, (⟨.repo (.readSecrets id claim), .ok (some secrets)⟩ : GatewayEvent) ∈ h)

section
variable {P : Platform} {pg : Postgres} {cipher : OperationSecretCipher}
  {advance : Time → Time → Prop} {c : Scene GatewayState Call Call.Answer}

theorem vod_statement_logged (h : Reachable (vodWorld P pg cipher advance) GatewayState.Empty c)
    {n : Nat} {call : RepoCall} {answer : Repo call.Answer}
    (hmem : (n, ⟨.repo call, answer⟩) ∈ c.log) : ∃ past, VodStatement timely past call := by
  obtain ⟨before, after, hsplit⟩ := List.append_of_mem hmem
  exact ⟨_, h.logged (fun p hp => vod_obeys P hp) hsplit⟩

theorem objectString_key {requestId : String} (hnamed : requestId ≠ "") :
    objectString (some (.obj [("idempotency_key", .str requestId)])) "idempotency_key" = some requestId := by
  simp [objectString, property, List.lookup, requiredWireText, hnamed]

theorem vod_started (h : Reachable (vodWorld P pg cipher advance) GatewayState.Empty c)
    {n : Nat} {input : LocOpenJobInput} (hopens : vodOpens P (history n c.log) input) :
    ∃ id lease, StartedUnder (history n c.log) input id lease := by
  rcases hopens with ⟨⟨value, secrets, owner, ends, operation, hmem⟩, hpersisted⟩ |
    ⟨kind, owner, now, ends, limit, operations, operation, hmem, hop, claim, secrets, hread, hreplayed⟩
  · obtain ⟨past, -, -, hlease⟩ := vod_statement_logged h (mem_history.mp hmem)
    obtain ⟨lease, rfl⟩ := Option.isSome_iff_exists.mp hlease
    have hintent := hpersisted value secrets owner (some lease) (.ok operation) hmem
    refine ⟨value.id, lease, ⟨_, hmem, .insert rfl⟩, secrets, ?_, .inl ⟨value, owner, _, operation, rfl, hmem⟩⟩
    rw [hintent.requestId]
    exact objectString_key hintent.named
  · obtain ⟨past, -, hlease, -⟩ := vod_statement_logged h (mem_history.mp hmem)
    obtain ⟨lease, rfl⟩ := Option.isSome_iff_exists.mp hlease
    exact ⟨operation.id, lease, ⟨_, hmem, .claim (.mk hop rfl)⟩, secrets, hreplayed.requestId,
      .inr ⟨claim, hread⟩⟩

end

/-- Runs and recovery in any interleaving under a clock that never goes back: as long as a
lease that was granted on an operation has not run out, the operation is granted to nobody
else, and an actor that opens a job was granted its operation before. -/
theorem vod_lease_excludes {P : Platform} {pg : Postgres} {cipher : OperationSecretCipher}
    {c : Scene GatewayState Call Call.Answer}
    (h : Reachable (vodWorld P pg cipher (· ≤ ·)) GatewayState.Empty c) :
    (∀ before n event after id lease, c.log = before ++ (n, event) :: after →
      Grants id lease event → c.shared.clock < lease →
      ∀ entry ∈ after, ∀ lease', ¬ Grants id lease' entry.2) ∧
    ∀ a ∈ c.actors, ∀ input k, a.rest = .call (.openJob input) k →
      ∃ id lease, StartedUnder (history a.number c.log) input id lease := by
  have hleases : Leases c.shared c.log :=
    h.invariant (fun p hp => vod_obeys P hp) (fun s hs => Leases.empty hs)
      fun hleases hmay hact => hleases.act hmay hact
  constructor
  · intro before n event after id lease hsplit hgrant hclock entry hentry lease' hgrant'
    have hordered := hleases.ordered
    rw [hsplit] at hordered
    have hpair := (List.pairwise_cons.mp (List.pairwise_append.mp hordered).2.1).1 entry hentry
    obtain ⟨now, hclaim, hle⟩ := hpair id lease lease' hgrant hgrant'
    have hmem : entry ∈ c.log := by
      rw [hsplit]
      exact List.mem_append_right _ (List.mem_cons_of_mem _ hentry)
    have hnow := hleases.claims entry hmem id now lease' hclaim
    exact absurd (hle.trans hnow) (not_le.mpr hclock)
  · intro a ha input k hrest
    obtain ⟨hstarts, hpath⟩ := h.orderly.paths a ha
    rw [hrest] at hpath
    have hobeys := Obeys.reaches (vod_obeys P hstarts) hpath
    rw [List.nil_append] at hobeys
    exact vod_started h hobeys.1

/-! ## A lease that runs out -/

abbrev vodSampleWorld : World GatewayState Call Call.Answer :=
  vodWorld vodPlatform plainPostgres vodCipher (· ≤ ·)

def vodRun : Prog Call Call.Answer Unit := discard (runPaidAbrAsset vodPlatform vodDeps vodAsset vodRoute)

def vodTick : Prog Call Call.Answer Unit := discard (recoveryTick vodPlatform vodRecovery 10)

def vodReclaim : GatewayEvent :=
  ⟨.repo (.claimRecoverable .job "gateway-b" 2000 (some 3000) 10), .ok [vodOperation]⟩

/-- The run up to its job, under a lease until 1000, and a tick up to the same job. -/
def vodTurns : List (Turn Execution Call Call.Answer) :=
  .start 0 vodRun :: List.replicate 22 (.go 0 (vodExecution 0)) ++
    .start 1 vodTick :: List.replicate 6 (.go 1 (vodExecution 2000))

def vodScene : Scene GatewayState Call Call.Answer :=
  Scene.play (gatewayAnswer plainPostgres vodCipher vodReply) ⟨⟨vodDatabase, 0⟩, [], []⟩ vodTurns

theorem vodScene_reachable : Reachable vodSampleWorld GatewayState.Empty vodScene := by
  refine Reachable.play (gatewayAnswer_acts vodReply) ?_ (.initial rfl)
  intro n p hstart
  simp only [vodTurns, List.cons_append, List.mem_cons, List.mem_append, List.mem_replicate, reduceCtorEq,
    and_false, Turn.start.injEq, false_or, or_false] at hstart
  rcases hstart with ⟨-, rfl⟩ | ⟨-, rfl⟩
  · exact .run vodDeps vodAsset vodRoute
  · exact .tick vodRecovery 10

section
set_option maxRecDepth 100000

theorem vodScene_actors : vodScene.actors.map (fun a => (a.number, a.rest.next?)) =
    [(1, some (.openJob (vodRetaken.openInput vodPlatform))),
      (0, some (.openJob (vodAnswers.openInput vodPlatform)))] := by
  with_unfolding_all rfl

theorem vodScene_log : vodScene.log.drop 23 = (1, vodReclaim) :: vodScene.log.drop 24 := by
  with_unfolding_all rfl

end

theorem vodScene_opens {n : Nat} {input : LocOpenJobInput}
    (h : (n, some (.openJob input)) ∈ vodScene.actors.map fun a => (a.number, a.rest.next?)) :
    ∃ a ∈ vodScene.actors, a.number = n ∧ ∃ k, a.rest = .call (.openJob input) k := by
  obtain ⟨a, ha, hentry⟩ := List.mem_map.mp h
  obtain ⟨hnumber, hnext⟩ := Prod.mk.inj hentry
  exact ⟨a, ha, hnumber, Prog.next?_eq_some hnext⟩

/-- The run is still at its job when a tick of recovery opens the same job. -/
theorem vod_two_executes : ∃ c, Reachable vodSampleWorld GatewayState.Empty c ∧
    ∃ a ∈ c.actors, ∃ b ∈ c.actors, a.number ≠ b.number ∧
      (∃ k, a.rest = .call (.openJob (vodAnswers.openInput vodPlatform)) k) ∧
      (∃ k, b.rest = .call (.openJob (vodRetaken.openInput vodPlatform)) k) ∧
      (vodAnswers.openInput vodPlatform).requestId = (vodRetaken.openInput vodPlatform).requestId := by
  obtain ⟨a, ha, hnumber, hrun⟩ := vodScene_opens (vodScene_actors ▸ List.mem_cons_of_mem _ List.mem_cons_self)
  obtain ⟨b, hb, hnumber', htick⟩ := vodScene_opens (vodScene_actors ▸ List.mem_cons_self)
  refine ⟨_, vodScene_reachable, a, ha, b, hb, ?_, hrun, htick, rfl⟩
  rw [hnumber, hnumber']
  exact Nat.zero_ne_one

/-- After the tick the operation is granted to nobody else before 3000. -/
theorem vod_lease_excludes_sample : ∃ c, Reachable vodSampleWorld GatewayState.Empty c ∧
    ∃ before after, c.log = before ++ (1, vodReclaim) :: after ∧ c.shared.clock < 3000 ∧
      Grants "op-1" 3000 vodReclaim ∧ ∀ entry ∈ after, ∀ lease, ¬ Grants "op-1" lease entry.2 := by
  have hgrant : Grants "op-1" 3000 vodReclaim := .claim (.mk List.mem_cons_self rfl)
  have hsplit : vodScene.log = vodScene.log.take 23 ++ (1, vodReclaim) :: vodScene.log.drop 24 := by
    rw [← vodScene_log, List.take_append_drop]
  have hclock : vodScene.shared.clock < 3000 := by decide +kernel
  exact ⟨_, vodScene_reachable, _, _, hsplit, hclock, hgrant,
    (vod_lease_excludes vodScene_reachable).1 _ _ _ _ _ _ hsplit hgrant hclock⟩

end LivepeerTranscode.Gateway
