import LivepeerTranscode.Gateway.RefillBounds

/-!
# Advisory frames

The frames of the control socket are applied one after the other, each by a report on the
session's row. Of the runner's position only a usage tick in the session's unit with a sequence
above the last one counts, so the loop keeps the first tick with the greatest sequence, in
whatever order the frames come and however often.
-/

namespace LivepeerTranscode.Gateway
open Checked Interaction JsonText LiveReconciler
set_option autoImplicit false

/-! ## The first of the greatest -/

/-- The first item of a list among those with the greatest key. -/
def FirstGreatest {α : Type} (key : α → Nat) (items : List α) (item : α) : Prop :=
  ∃ before after, items = before ++ item :: after ∧ (∀ x ∈ before, key x < key item) ∧
    ∀ x ∈ after, key x ≤ key item

section
variable {α : Type} {key : α → Nat} {first item : α} {items : List α}

theorem FirstGreatest.mem (h : FirstGreatest key items item) : item ∈ items := by
  obtain ⟨before, after, rfl, -, -⟩ := h
  exact List.mem_append_right _ List.mem_cons_self

theorem FirstGreatest.le (h : FirstGreatest key items item) {x : α} (hx : x ∈ items) : key x ≤ key item := by
  obtain ⟨before, after, rfl, hbefore, hafter⟩ := h
  rcases List.mem_append.mp hx with hx | hx
  · exact (hbefore x hx).le
  · rcases List.mem_cons.mp hx with rfl | hx
    · exact le_refl _
    · exact hafter x hx

theorem FirstGreatest.head (h : ∀ x ∈ items, key x ≤ key first) : FirstGreatest key (first :: items) first :=
  ⟨[], items, rfl, fun _ hx => absurd hx List.not_mem_nil, h⟩

theorem FirstGreatest.tail (h : FirstGreatest key items item) (hfirst : key first < key item) :
    FirstGreatest key (first :: items) item := by
  obtain ⟨before, after, rfl, hbefore, hafter⟩ := h
  exact ⟨first :: before, after, rfl, List.forall_mem_cons.mpr ⟨hfirst, hbefore⟩, hafter⟩

end

/-! ## What a list of events leaves -/

/-- The runner's position in a session: the last sequence, the last usage and the control cursor. -/
structure RunnerPosition where
  lastRunnerSequence : String
  lastRunnerUsage : String
  controlCursor : Option String
  deriving DecidableEq

def position (runtime : PaidSessionRuntimeState) : RunnerPosition :=
  ⟨runtime.lastRunnerSequence, runtime.lastRunnerUsage, runtime.controlCursor⟩

abbrev Tick : Type := Nat × Nat

def Tick.position (tick : Tick) : RunnerPosition :=
  ⟨toString tick.1, toString tick.2, some (toString tick.1)⟩

/-- The ticks of some events that are in the session's unit. -/
def ticksOf (workUnit : String) (events : List PaidSessionControlEvent) : List Tick :=
  events.filterMap fun event => match event with
    | .usageTick sequence unit claimedTotal _ => if unit = workUnit then some (sequence, claimedTotal) else none
    | _ => none

/-- The position that ticks lead to: the first tick with the greatest sequence, if that is above
where they start, or the start. -/
inductive Leads (P : LivePlatform) (start : RunnerPosition) (ticks : List Tick) : RunnerPosition → Prop where
  | stay : (∀ tick ∈ ticks, notNewer P tick.1 start.lastRunnerSequence = true) → Leads P start ticks start
  | move {tick : Tick} : FirstGreatest Prod.fst ticks tick →
      notNewer P tick.1 start.lastRunnerSequence = false → Leads P start ticks tick.position

variable {result : RunnerPosition} {P : LivePlatform} {frames : List JsonValue}
  {events : List PaidSessionControlEvent}

section
variable {P : LivePlatform} {start : RunnerPosition} {ticks : List Tick}

theorem notNewer_written {sequence last : Nat} (h : last < 2 ^ 53) :
    notNewer P sequence (toString last) = true ↔ sequence ≤ last := by
  unfold notNewer number
  rw [decimal_toString]
  simp only
  rw [Binary64.round_natCast h, Option.any_some, decide_eq_true_eq, Nat.cast_le]

theorem lt_of_notNewer {text : String} {sequence other : Nat} (h : notNewer P sequence text = true)
    (hother : notNewer P other text = false) : sequence < other := by
  unfold notNewer at h hother
  cases hnumber : number P text with
  | none => simp [hnumber] at h
  | some last =>
    simp only [hnumber, Option.any_some, decide_eq_true_eq, decide_eq_false_iff_not, not_le] at h hother
    exact_mod_cast lt_of_le_of_lt h hother

theorem Leads.skip {tick : Tick}
    (hold : notNewer P tick.1 start.lastRunnerSequence = true) (h : Leads P start ticks result) :
    Leads P start (tick :: ticks) result := by
  cases h with
  | stay hall => exact .stay (List.forall_mem_cons.mpr ⟨hold, hall⟩)
  | move hfirst hnew => exact .move (hfirst.tail (lt_of_notNewer hold hnew)) hnew

theorem Leads.take {tick : Tick} (hsafe : tick.1 < 2 ^ 53)
    (hnew : notNewer P tick.1 start.lastRunnerSequence = false) (h : Leads P tick.position ticks result) :
    Leads P start (tick :: ticks) result := by
  cases h with
  | stay hall =>
    exact .move (.head fun x hx => (notNewer_written hsafe).mp (hall x hx)) hnew
  | @move next hfirst hnext =>
    have hlater : tick.1 < next.1 := by
      by_contra hle
      cases hnext.symm.trans ((notNewer_written hsafe).mpr (not_lt.mp hle))
    refine .move (hfirst.tail hlater) ?_
    by_contra hold
    rw [Bool.not_eq_false] at hold
    exact absurd (lt_of_notNewer hold hnew) (not_lt.mpr hlater.le)

theorem Leads.again {again : RunnerPosition} (hsafe : ∀ tick ∈ ticks, tick.1 < 2 ^ 53)
    (h : Leads P start ticks result) (h' : Leads P result ticks again) : again = result := by
  cases h' with
  | stay _ => rfl
  | move hfirst hnew =>
    cases h with
    | stay hall => exact absurd (hall _ hfirst.mem) (by simp [hnew])
    | @move tick hgreatest _ =>
      cases hnew.symm.trans ((notNewer_written (hsafe tick hgreatest.mem)).mpr (hgreatest.le hfirst.mem))

end

/-! ## Events that were parsed -/

theorem naturalNumber_lt {x : ℚ} {n : Nat} (h : naturalNumber x = some n) : n < 2 ^ 53 := by
  obtain ⟨i, hi, hn⟩ := Option.bind_eq_some_iff.mp h
  unfold Binary64.safeInteger at hi
  split at hi
  · rename_i hsafe
    cases hi
    split at hn
    · cases hn
      have hbound := (abs_le.mp hsafe.2).2
      omega
    · cases hn
  · cases hi

theorem wirePositive_lt {value : Option JsonValue} {n : Nat} (h : SessionClient.wirePositive value = some n) :
    n < 2 ^ 53 := by
  have hnatural := (Option.filter_eq_some_iff.mp h).1
  unfold SessionClient.wireNatural at hnatural
  split at hnatural
  · exact naturalNumber_lt hnatural
  · cases hnatural

theorem parsed_tick_lt {frame : JsonValue} {sequence claimedTotal debitedUnits : Nat}
    {unit : String} (h : SessionClient.parsePaidSessionControlEvent P frame =
      .ok (.usageTick sequence unit claimedTotal debitedUnits)) : sequence < 2 ^ 53 := by
  have hwire : SessionClient.controlEventWire P frame = some (.usageTick sequence unit claimedTotal debitedUnits) := by
    unfold SessionClient.parsePaidSessionControlEvent SessionClient.orFail at h
    split at h
    · rename_i event hevent
      cases h
      exact hevent
    · cases h
  obtain ⟨members, -, hmembers⟩ := Option.bind_eq_some_iff.mp hwire
  obtain ⟨type, -, hbody⟩ := Option.bind_eq_some_iff.mp hmembers
  unfold SessionClient.controlEventBody at hbody
  split at hbody
  · obtain ⟨body, -, hbody⟩ := Option.bind_eq_some_iff.mp hbody
    obtain ⟨n, hn, hbody⟩ := Option.bind_eq_some_iff.mp hbody
    obtain ⟨text, -, hbody⟩ := Option.bind_eq_some_iff.mp hbody
    obtain ⟨total, -, hbody⟩ := Option.bind_eq_some_iff.mp hbody
    obtain ⟨debited, -, hbody⟩ := Option.bind_eq_some_iff.mp hbody
    cases hbody
    exact wirePositive_lt hn
  · obtain ⟨balance, -, hbalance⟩ := Option.map_eq_some_iff.mp hbody
    cases hbalance
  all_goals simp [Option.bind_eq_some_iff] at hbody

/-- The frames are well formed: they parse as the events. -/
def Parse (P : LivePlatform) (frames : List JsonValue) (events : List PaidSessionControlEvent) : Prop :=
  List.Forall₂ (fun frame event => SessionClient.parsePaidSessionControlEvent P frame = .ok event) frames events

theorem Parse.mem
    (h : Parse P frames events) {event : PaidSessionControlEvent} (hevent : event ∈ events) :
    ∃ frame, SessionClient.parsePaidSessionControlEvent P frame = .ok event := by
  induction h with
  | nil => cases hevent
  | cons hframe _ ih =>
    rcases List.mem_cons.mp hevent with rfl | hevent
    · exact ⟨_, hframe⟩
    · exact ih hevent

theorem Parse.ticks_lt
    (h : Parse P frames events) (workUnit : String) : ∀ tick ∈ ticksOf workUnit events, tick.1 < 2 ^ 53 := by
  intro tick htick
  obtain ⟨event, hevent, hmatch⟩ := List.mem_filterMap.mp htick
  obtain ⟨frame, hframe⟩ := h.mem hevent
  cases event with
  | usageTick sequence unit claimedTotal debitedUnits =>
    simp only [Option.ite_none_right_eq_some, Option.some.injEq] at hmatch
    obtain ⟨-, rfl⟩ := hmatch
    exact parsed_tick_lt hframe
  | _ => cases hmatch

/-! ## The session while its claim holds -/

/-- Reports on the row of a session. Each found the row as the one before had left it, held by the
claim it came with; the rest of the tables may be anything. -/
inductive HeldRun (pg : Postgres) (id : String) : OperationRow → List LiveEvent → OperationRow → Prop where
  | nil (row : OperationRow) : HeldRun pg id row [] row
  | report {row row' final : OperationRow} {exec : Execution} {db db' : Database} {claim : PaidOperationClaim}
      {value : PaidOperationProgress} {progressed : PaidOperation} {rest : List LiveEvent} :
      db.operations.lookup id = some row →
      recordProgress pg exec id claim value db = .ok (some progressed, db') →
      db'.operations.lookup id = some row' → HeldRun pg id row' rest final →
      HeldRun pg id row (⟨.repo (.recordProgress id claim value), .ok (some progressed)⟩ :: rest) final

/-- The session that a row is, when the process holds it. -/
def Holds (deps : Deps) (id : String) (row : OperationRow) (owned : OwnedPaidSession) : Prop :=
  SessionStore.owned (rowToOperation id row) deps.store.owner = .ok owned

section
variable {deps : Deps} {id : String} {row : OperationRow} {owned : OwnedPaidSession}

theorem Holds.operation (h : Holds deps id row owned) : owned.operation = rowToOperation id row :=
  (SessionStore.owned_ok h).1

theorem Holds.runtime (h : Holds deps id row owned) : row.sessionRuntime = some owned.runtime := by
  have hrecoverable := owned.recoverable
  rw [h.operation] at hrecoverable
  exact hrecoverable

theorem Holds.progress (h : Holds deps id row owned) (report : PaidOperationProgress) (units : ProgressUnits)
    (now : Time) : ∃ next, Holds deps id (row.progress report units now) next ∧
      next.runtime = report.sessionRuntime.getD owned.runtime := by
  have hruntime : (row.progress report units now).sessionRuntime =
      some (report.sessionRuntime.getD owned.runtime) := by
    show report.sessionRuntime.or row.sessionRuntime = _
    rw [h.runtime]
    cases report.sessionRuntime <;> rfl
  have hstream : (rowToOperation id row).liveStreamId = some owned.liveStreamId := by
    rw [← h.operation]
    exact owned.streamed
  obtain ⟨-, hkind, hne, howner, lease, hlease, -⟩ := SessionStore.owned_ok h
  exact ⟨_, @SessionStore.owned_of (rowToOperation id (row.progress report units now)) _ _ _ _
    hkind hne howner hlease hstream hruntime, rfl⟩

end

/-! ## The loop -/

section
variable {P : LivePlatform} {deps : Deps} {frame : JsonValue} {rest : List JsonValue} {owned : OwnedPaidSession}
    {event : PaidSessionControlEvent}

theorem applyFrames_cons (hframe : SessionClient.parsePaidSessionControlEvent P frame = .ok event) :
    applyFrames P deps (frame :: rest) owned =
      holding owned (applyAdvisoryEvent P deps owned event) >>= fun next =>
        applyFrames P deps rest (next.getD owned) := by
  rw [applyFrames, hframe]
  rfl

theorem applyFrames_silent (hframe : SessionClient.parsePaidSessionControlEvent P frame = .ok event)
    (hsilent : advisoryReport P owned event = none) :
    applyFrames P deps (frame :: rest) owned = applyFrames P deps rest owned := by
  rw [applyFrames_cons hframe, applyAdvisoryEvent, hsilent]
  rfl

theorem applyFrames_report {report : PaidOperationProgress}
    (hframe : SessionClient.parsePaidSessionControlEvent P frame = .ok event)
    (hreport : advisoryReport P owned event = some report) :
    ∃ k, (applyFrames P deps (frame :: rest) owned).run =
        .call (.repo (.recordProgress owned.operation.id owned.claim report)) k ∧
      ∀ progressed next, SessionStore.owned progressed deps.store.owner = .ok next →
        k (.ok (some progressed)) = (applyFrames P deps rest next).run := by
  rw [applyFrames_cons hframe, applyAdvisoryEvent, hreport]
  refine ⟨_, rfl, fun progressed next hnext => ?_⟩
  have hfound : SessionStore.ownedWhenFound (some progressed) deps.store.owner = .ok (some next) := by
    rw [SessionStore.ownedWhenFound, hnext]
    rfl
  show ExceptT.run (holding owned (liftM (SessionStore.ownedWhenFound (some progressed) deps.store.owner)) >>=
    fun next => applyFrames P deps rest (next.getD owned)) = _
  rw [hfound]
  rfl

end

theorem Leads.event {owned : OwnedPaidSession} {event : PaidSessionControlEvent}
    (hsafe : ∀ tick ∈ ticksOf owned.operation.route.workUnit [event], tick.1 < 2 ^ 53)
    (h : Leads P (position (((advisoryReport P owned event).bind (·.sessionRuntime)).getD owned.runtime))
      (ticksOf owned.operation.route.workUnit events) result) :
    Leads P (position owned.runtime) (ticksOf owned.operation.route.workUnit (event :: events)) result := by
  cases event with
  | usageTick sequence unit claimedTotal debitedUnits =>
    by_cases hunit : unit = owned.operation.route.workUnit
    · have hticks : ticksOf owned.operation.route.workUnit
          (.usageTick sequence unit claimedTotal debitedUnits :: events) =
          (sequence, claimedTotal) :: ticksOf owned.operation.route.workUnit events := by
        simp [ticksOf, hunit]
      rw [hticks]
      cases hnew : notNewer P sequence owned.runtime.lastRunnerSequence with
      | true =>
        simp only [advisoryReport, hnew, or_true, if_true, Option.bind_none, Option.getD_none] at h
        exact h.skip hnew
      | false =>
        simp only [advisoryReport, hunit, hnew, ne_eq, not_true_eq_false, Bool.false_eq_true, or_self, if_false,
          Option.bind_some, Option.getD_some] at h
        refine Leads.take (hsafe _ ?_) hnew h
        simp [ticksOf, hunit]
    · have hticks : ticksOf owned.operation.route.workUnit
          (.usageTick sequence unit claimedTotal debitedUnits :: events) =
          ticksOf owned.operation.route.workUnit events := by
        simp [ticksOf, hunit]
      simp only [advisoryReport, ne_eq, hunit, not_false_eq_true, true_or, if_true, Option.bind_none,
        Option.getD_none] at h
      rwa [hticks]
  | _ => exact h

/-- The whole loop: what it is about to do after some reports, or what it ended with. -/
theorem applyFrames_leads {deps : Deps} {pg : Postgres} {id : String}
    {row final : OperationRow} {owned : OwnedPaidSession}
    {history : List LiveEvent} {q : Prog LiveCall LiveCall.Answer (Except (OwnedPaidSession × LiveFailure)
      OwnedPaidSession)}
    (hparse : Parse P frames events) (howned : Holds deps id row owned)
    (hreach : Reaches (applyFrames P deps frames owned).run history q) (hheld : HeldRun pg id row history final) :
    (∃ claim report k, q = .call (.repo (.recordProgress id claim report)) k) ∨
      ∃ session, q = .pure (.ok session) ∧ Holds deps id final session ∧
        session.operation.route = owned.operation.route ∧
        Leads P (position owned.runtime) (ticksOf owned.operation.route.workUnit events)
          (position session.runtime) := by
  induction hparse generalizing owned row history with
  | nil =>
    cases hreach with
    | refl =>
      cases hheld
      exact .inr ⟨owned, rfl, howned, rfl, .stay fun _ h => by cases h⟩
  | @cons frame event frames events hframe hrest ih =>
    have hsafe : ∀ tick ∈ ticksOf owned.operation.route.workUnit [event], tick.1 < 2 ^ 53 :=
      Parse.ticks_lt (.cons hframe .nil) _
    cases hreport : advisoryReport P owned event with
    | none =>
      rw [applyFrames_silent hframe hreport] at hreach
      rcases ih howned hreach hheld with hcall | ⟨session, hq, hsession, hroute, hleads⟩
      · exact .inl hcall
      · refine .inr ⟨session, hq, hsession, hroute, Leads.event hsafe ?_⟩
        rwa [hreport]
    | some report =>
      obtain ⟨k, hrun, hnext⟩ := @applyFrames_report P deps frame frames owned event report hframe hreport
      rw [hrun, howned.operation] at hreach
      cases hreach with
      | refl => exact .inl ⟨_, _, _, rfl⟩
      | step answer hreach =>
        cases hheld with
        | report hrow hwrite hrow' hheld =>
          obtain ⟨_, units, hfound, hfound', rfl⟩ := recordProgress_answer hwrite
          cases hrow.symm.trans hfound
          cases hrow'.symm.trans hfound'
          obtain ⟨next, hholds, hruntime⟩ := howned.progress report units _
          rw [hnext _ _ hholds] at hreach
          have hroute : next.operation.route = owned.operation.route := by
            rw [hholds.operation, howned.operation]
            rfl
          rcases ih hholds hreach hheld with hcall | ⟨session, hq, hsession, hroute', hleads⟩
          · exact .inl hcall
          · refine .inr ⟨session, hq, hsession, hroute'.trans hroute, Leads.event hsafe ?_⟩
            rw [hreport]
            rwa [hroute, hruntime] at hleads

def tickFrame (sequence claimedTotal : Nat) : JsonValue :=
  .obj [("type", .str "session.usage.tick"), ("body", .obj [("sequence", .num sequence),
    ("unit", .str "output_seconds"), ("claimed_total", .num claimedTotal), ("debited_units", .num 0)])]

def tickEvent (sequence claimedTotal : Nat) : PaidSessionControlEvent :=
  .usageTick sequence "output_seconds" claimedTotal 0

def liveRow : OperationRow :=
  { sampleOperation with
    recoveryOwner := some "gateway-a"
    recoveryLeaseExpiresAt := some 30000
    sessionRuntime := some liveRuntime }

def tickReport : PaidOperationProgress where
  status := "active"
  claimedUnits := some "9"
  sessionRuntime := some (tickedRuntime liveRuntime 2 9)

def tickedRow : OperationRow :=
  liveRow.progress tickReport ⟨none, some 9, none, none⟩ 10

def tickHistory : List LiveEvent :=
  [⟨.repo (.recordProgress "op-1" liveSession.claim tickReport), .ok (some (rowToOperation "op-1" tickedRow))⟩]

theorem tickHistory_held : HeldRun plainPostgres "op-1" liveRow tickHistory tickedRow :=
  @HeldRun.report plainPostgres "op-1" liveRow tickedRow tickedRow sampleExecution
    { sampleDatabase with operations := AList.singleton "op-1" liveRow } _ _ _ _ _ rfl rfl rfl (.nil _)

theorem tickFrames_parse : Parse (statusPlatform 60) [tickFrame 2 9, tickFrame 2 11, tickFrame 1 7]
    [tickEvent 2 9, tickEvent 2 11, tickEvent 1 7] := by
  refine .cons ?_ (.cons ?_ (.cons ?_ .nil)) <;> decide +kernel

theorem tickedRow_holds : ∃ session, Holds liveDeps "op-1" tickedRow session ∧
    session.runtime = tickedRuntime liveRuntime 2 9 ∧
    Reaches (applyFrames (statusPlatform 60) liveDeps [tickFrame 2 9, tickFrame 2 11, tickFrame 1 7] liveSession).run
      tickHistory (.pure (.ok session)) := by
  obtain ⟨session, hsession, hruntime⟩ : ∃ session, Holds liveDeps "op-1" tickedRow session ∧
      session.runtime = tickedRuntime liveRuntime 2 9 := ⟨_, rfl, rfl⟩
  cases tickFrames_parse with
  | cons hfirst hrest =>
    cases hrest with
    | cons hsecond hrest =>
      cases hrest with
      | cons hthird _ =>
        obtain ⟨k, hrun, hnext⟩ := @applyFrames_report _ liveDeps _ [tickFrame 2 11, tickFrame 1 7] liveSession _
          tickReport hfirst (if_neg (by decide +kernel))
        refine ⟨session, hsession, hruntime, ?_⟩
        rw [hrun]
        refine .step _ ?_
        rw [hnext _ _ hsession, applyFrames_silent hsecond, applyFrames_silent hthird]
        · exact .refl _
        all_goals
          refine if_pos (.inr ?_)
          rw [hruntime]
          decide +kernel

end LivepeerTranscode.Gateway
