import LivepeerTranscode.LiveRunner.Reservations

/-!
# Runs of the store and the callback worker

One callback worker sweeps the sessions while every other store method may be called
at any time, with any arguments, by anyone. Only the worker takes events off an
outbox, so what it saw at the head is still there when it posts it.
-/

namespace LivepeerTranscode.LiveRunner
open Interaction
set_option autoImplicit false

/-- The programs of these runs: the worker's sweep, and single calls that take nothing off. -/
inductive OutboxSpawn (P : Platform) : Role → RunnerProg Unit → Prop where
  | method (call : StoreCall) : call.removes = none → OutboxSpawn P .method (discard (ask call))
  | sweep : OutboxSpawn P .worker (discard (sweepOnce P))

def outboxSystem (P : Platform) : System World Role Effect Effect.Answer where
  exec := execute P
  spawn := OutboxSpawn P
  together := sideBySide

structure OutboxInv (w : World) (id : String) : Prop where
  absent : w.dir.lookup id = none → appendedEvents w.log id = [] ∧ removedEvents w.log id = []
  present : ∀ record, w.dir.lookup id = some record →
    Delivered record.ledger (appendedEvents w.log id) (removedEvents w.log id)

/-- Each call that erased a session's secrets found it terminal with nothing pending. -/
def ErasedWhenDone (log : List Entry) (id : String) : Prop :=
  ∀ entry ∈ log, ∀ before after, entry.before.lookup id = some before →
    entry.after.lookup id = some after → before.sealedSecrets.isSome → after.sealedSecrets = none →
    after.state ≠ .active ∧ after.pendingEvents = []

/-- Each POST carried the head of the outbox, an event that had been appended. -/
def PostsHeads (w : World) : Prop :=
  ∀ post ∈ w.posts, post.head = some post.event ∧ post.event ∈ appendedEvents w.log post.id

/-- What the log and the file of a session say of an event's attempts. -/
def AttemptsOf (P : Platform) (w : World) (id eventID : String) : Prop :=
  Attempted P eventID (pendingAt w.dir id) (removedEvents w.log id)
    ((w.dir.lookup id).bind SessionRecordV1.reserved) (reservations w.log id eventID)

def posted (posts : List Post) (id eventID : String) : Nat :=
  posts.countP fun post => decide (post.id = id ∧ post.event.eventID = eventID)

/-- The attempts of an event whose reservation was durable. -/
def durableAttempts (log : List Entry) (id eventID : String) : Nat :=
  (reservations log id eventID).countP Reservation.durable

section
variable {P : Platform} {w : World} {call : StoreCall} {faults : Faults} {id : String}

theorem entry_removed_eq {before after : SessionRecordV1} {entry : Entry}
    (hsession : entry.call.session = some id) (hbefore : entry.before.lookup id = some before)
    (hafter : entry.after.lookup id = some after) :
    entry.removed id = movedOff entry.call before.ledger after.ledger := by
  unfold Entry.removed movedOff
  split
  · rfl
  · rw [if_pos hsession]
    simp [pendingAt, hbefore, hafter, SessionRecordV1.ledger]

theorem entry_appended_eq {before after : SessionRecordV1} {entry : Entry}
    (hbefore : entry.before.lookup id = some before) (hafter : entry.after.lookup id = some after) :
    entry.appended id = after.ledger.pendingEvents.drop before.ledger.pendingEvents.length := by
  simp [Entry.appended, pendingAt, hbefore, hafter, SessionRecordV1.ledger]

theorem entry_same {entry : Entry} (h : entry.after.lookup id = entry.before.lookup id) :
    entry.appended id = [] ∧ entry.removed id = [] := by
  have hpending : pendingAt entry.after id = pendingAt entry.before id := by
    simp [pendingAt, h]
  constructor
  · rw [Entry.appended, hpending, List.drop_length]
  · unfold Entry.removed
    split
    · rfl
    · split
      · rw [hpending, takenOff_of_grown (List.prefix_refl _)]
      · rfl

theorem OutboxInv.same (h : OutboxInv w id)
    (hsame : (call.run P faults w.dir).2.lookup id = w.dir.lookup id) :
    OutboxInv (w.call P call faults) id := by
  have hentry := @entry_same id (w.entry P call faults) hsame
  constructor
  · intro hnone
    have := h.absent (hsame ▸ hnone)
    simpa [World.call, hentry.1, hentry.2] using this
  · intro record hrecord
    have := h.present record (hsame ▸ hrecord)
    simpa [World.call, hentry.1, hentry.2] using this

theorem delivered_fresh (P : Platform) (request : RunnerCreateRequestV1)
    (response : RunnerCreateResponseV1) (grant : GrantV1) (now : Time) :
    Delivered (newSessionRecord P request response grant now).ledger [] [] := by
  refine ⟨rfl, List.Pairwise.nil, ?_, ?_, ?_, List.Pairwise.nil, ?_, ?_⟩
  · intro event hevent
    cases hevent
  · intro event hevent
    cases hevent
  · intro event hevent
    cases hevent
  · intro event hevent
    cases hevent
  · intro hgone
    cases hgone

theorem OutboxInv.of_found {record : SessionRecordV1} (hrecord : w.dir.lookup id = some record)
    (h : Delivered record.ledger (appendedEvents w.log id) (removedEvents w.log id)) : OutboxInv w id := by
  constructor
  · intro hnone
    cases hnone.symm.trans hrecord
  · intro found hfound
    cases hfound.symm.trans hrecord
    exact h

theorem OutboxInv.step (h : OutboxInv w id) (call : StoreCall) (faults : Faults) :
    OutboxInv (w.call P call faults) id := by
  cases run_moves (P := P) call faults w.dir id with
  | same hsame => exact h.same hsame
  | @move file new hfile hnew hsession hmove =>
    have happended := @entry_appended_eq id file new (w.entry P call faults) hfile hnew
    have hremoved : (w.entry P call faults).removed id = movedOff call file.ledger new.ledger :=
      entry_removed_eq hsession hfile hnew
    refine .of_found hnew ?_
    have hdelivered := (h.present file hfile).move hmove.onFile
    simpa [World.call, happended, hremoved] using hdelivered
  | @create request response grant now hnone hnew hcall _ =>
    have hhistories := h.absent hnone
    have happended : (w.entry P call faults).appended id = [] := by
      simp [Entry.appended, World.entry, pendingAt, hnew, hnone, newSessionRecord]
    have hremoved : (w.entry P call faults).removed id = [] := by
      simp [Entry.removed, World.entry, hcall, StoreCall.removes]
    refine .of_found hnew ?_
    have hfresh := delivered_fresh P request response grant now
    simpa [World.call, happended, hremoved, hhistories.1, hhistories.2] using hfresh

theorem ErasedWhenDone.step (h : ErasedWhenDone w.log id) (call : StoreCall) (faults : Faults) :
    ErasedWhenDone (w.call P call faults).log id := by
  intro entry hentry before after hbefore hafter hsealed herased
  rcases List.mem_append.mp hentry with hold | hlast
  · exact h entry hold before after hbefore hafter hsealed herased
  · rw [List.mem_singleton.mp hlast] at hbefore hafter
    cases run_moves (P := P) call faults w.dir id with
    | same hsame =>
      cases hafter.symm.trans (hsame.trans hbefore)
      simp [herased] at hsealed
    | move hfile hnew _ hmove =>
      cases hfile.symm.trans hbefore
      cases hnew.symm.trans hafter
      exact hmove.onFile.erases hsealed (by simp [SessionRecordV1.ledger, herased])
    | create hnone _ _ _ => cases hnone.symm.trans hbefore

theorem AttemptsOf.step {eventID : String} (hreads : P.ReadsBack)
    (h : AttemptsOf P w id eventID) (houtbox : OutboxInv w id) (call : StoreCall) (faults : Faults) :
    AttemptsOf P (w.call P call faults) id eventID := by
  unfold AttemptsOf at h ⊢
  simp only [World.call, removedEvents_append, reservations_append]
  cases run_moves (P := P) call faults w.dir id with
  | same hsame =>
    have hentry := @entry_same id (w.entry P call faults) hsame
    have hnone : (w.entry P call faults).reservations id eventID = [] :=
      Entry.reservations_same (by simp [attemptsAt, World.entry, hsame])
    rw [hentry.2, hnone, List.append_nil, List.append_nil, pendingAt, hsame]
    exact h
  | @create request response grant now hnone hnew hcall _ =>
    have hmade : (w.entry P call faults).reservations id eventID = [] := by
      simp [Entry.reservations, World.entry, hcall]
    have hremoved : (w.entry P call faults).removed id = [] := by
      simp [Entry.removed, World.entry, hcall, StoreCall.removes]
    rw [hmade, hremoved, List.append_nil, List.append_nil, pendingAt, hnew]
    rw [pendingAt, hnone] at h
    exact h
  | @move file new hfile hnew hsession hmove =>
    have hdelivered := houtbox.present file hfile
    have hremoved : (w.entry P call faults).removed id = movedOff call file.ledger new.ledger :=
      entry_removed_eq hsession hfile hnew
    have hbefore : attemptsAt w.dir id eventID = file.reserved.elim 0 fun attempt =>
        if attempt.1 = eventID then attempt.2.1 else 0 := by
      rw [attemptsAt, hfile, Option.bind_some]
    have hafter : attemptsAt (call.run P faults w.dir).2 id eventID = new.reserved.elim 0 fun attempt =>
        if attempt.1 = eventID then attempt.2.1 else 0 := by
      rw [attemptsAt, hnew, Option.bind_some]
    rw [hremoved, pendingAt, hnew, Option.bind_some]
    rw [pendingAt, hfile, Option.bind_some] at h
    cases hmove.attempt with
    | keep hcall hreserved =>
      rw [reserved_upgrade] at hreserved
      have hmade : (w.entry P call faults).reservations id eventID = [] :=
        Entry.reservations_same (hafter.trans (hreserved ▸ hbefore.symm))
      rw [hmade, movedOff_of_grown (hmove.onFile.grows hcall), List.append_nil, List.append_nil, hreserved]
      exact h.grow (hmove.onFile.grows hcall)
    | @reserve session eventID' attemptAt initial maximum attempts hhead hnumber hreserved =>
      obtain rfl : session = id := Option.some.inj hsession
      obtain ⟨head, rest, hpending, rfl⟩ := pendingEvents_of_headID (not_not.mpr hhead)
      replace hpending := (congrArg Ledger.pendingEvents (@ledger_upgrade P file)).symm.trans hpending
      have hfresh : ∀ event ∈ removedEvents w.log session, event.eventID ≠ head.eventID :=
        fun event hevent => hdelivered.removed_ne hevent (hpending ▸ List.mem_cons_self)
      obtain ⟨more, hmore⟩ := hmove.onFile.grows rfl
      have hhead' : new.pendingEvents.head?.map RunnerEventV1.eventID = some head.eventID := by
        change new.ledger.pendingEvents.head?.map _ = _
        rw [← hmore, hpending]
        rfl
      rw [← @reserved_upgrade P] at h
      have hgrown := h.grow ⟨more, hmore⟩
      rw [movedOff_of_grown ⟨more, hmore⟩, List.append_nil, hreserved]
      by_cases hevent : head.eventID = eventID
      · subst hevent
        rw [hreserved, Option.elim_some, if_pos rfl] at hafter
        have hmade : (w.entry P (.reserveCallbackAttempt session head.eventID attemptAt initial maximum)
            faults).reservations session head.eventID = [⟨attempts, attemptAt, initial, maximum, (w.entry P
              (.reserveCallbackAttempt session head.eventID attemptAt initial maximum) faults).answered⟩] := by
          simp [Entry.reservations, World.entry, hafter, attemptsAt_lt hfile hnumber]
        rw [hmade]
        exact hgrown.reserve hreads hhead' hfresh hnumber _
      · have hmade : (w.entry P (.reserveCallbackAttempt session head.eventID attemptAt initial maximum)
            faults).reservations session eventID = [] := by
          simp [Entry.reservations, World.entry, hevent]
        rw [hmade, List.append_nil]
        exact hgrown.pass hevent hhead' hnumber _
    | @remove _ event rest hcall hpending hrest hreserved =>
      replace hpending := (congrArg Ledger.pendingEvents (@ledger_upgrade P file)).symm.trans hpending
      have hmade : (w.entry P call faults).reservations id eventID = [] := by
        unfold Entry.reservations World.entry
        dsimp only
        split
        · cases hcall
        · rfl
      have htaken : movedOff call file.ledger new.ledger = [event] := by
        rw [movedOff, hcall]
        change takenOff event.eventID file.ledger.pendingEvents new.pendingEvents = [event]
        rw [hrest]
        exact hdelivered.takenOff_eq hpending
      rw [hmade, htaken, List.append_nil, hreserved, Option.map_some, hrest]
      change file.pendingEvents = _ at hpending
      rw [Option.map_some, hpending] at h
      exact h.remove

theorem pendingAt_grows (hcall : call.removes = none) (id : String) :
    pendingAt w.dir id <+: pendingAt (w.call P call faults).dir id := by
  change pendingAt w.dir id <+: pendingAt (call.run P faults w.dir).2 id
  unfold pendingAt
  cases run_moves (P := P) call faults w.dir id with
  | same hsame => exact hsame.symm ▸ List.prefix_refl _
  | move hfile hnew _ hmove =>
    rw [hfile, hnew]
    exact hmove.onFile.grows hcall
  | create hnone _ _ _ =>
    rw [hnone]
    exact List.nil_prefix

end

/-! ## The worker among the other goroutines -/

/-- What one call does to the world: only the worker removes events, and it posts heads for which it has
reserved an attempt. -/
inductive OutboxStep (P : Platform) : Role → World → World → Prop where
  | idle (role : Role) (w : World) : OutboxStep P role w w
  | call {role : Role} {w : World} {call : StoreCall} (faults : Faults) :
      (role = .method → call.removes = none) → OutboxStep P role w (w.call P call faults)
  | post {w : World} {id : String} {event : RunnerEventV1} :
      (pendingAt w.dir id).head? = some event →
      posted w.posts id event.eventID < durableAttempts w.log id event.eventID →
      OutboxStep P .worker w
        { w with posts := w.posts ++ [⟨id, event, (pendingAt w.dir id).head?⟩] }

structure WorldInv (P : Platform) (w : World) : Prop where
  outbox : ∀ id, OutboxInv w id
  erased : ∀ id, ErasedWhenDone w.log id
  posts : PostsHeads w
  attempts : P.ReadsBack → ∀ id eventID, AttemptsOf P w id eventID
  reserved : ∀ id eventID, posted w.posts id eventID ≤ durableAttempts w.log id eventID

variable {w : World} {id : String} {event : RunnerEventV1}

theorem OutboxInv.mem_appended (h : OutboxInv w id)
    (hpending : event ∈ pendingAt w.dir id) : event ∈ appendedEvents w.log id := by
  cases hrecord : w.dir.lookup id with
  | none => simp [pendingAt, hrecord] at hpending
  | some record =>
    rw [(h.present record hrecord).split]
    apply List.mem_append_right
    simpa [pendingAt, hrecord, SessionRecordV1.ledger] using hpending

theorem posted_append (posts : List Post) (post : Post) (id eventID : String) :
    posted (posts ++ [post]) id eventID =
      posted posts id eventID + if post.id = id ∧ post.event.eventID = eventID then 1 else 0 := by
  simp [posted, List.countP_append, List.countP_singleton]

theorem durableAttempts_mono {P : Platform} (w : World) (call : StoreCall) (faults : Faults)
    (id eventID : String) :
    durableAttempts w.log id eventID ≤ durableAttempts (w.call P call faults).log id eventID := by
  simp only [durableAttempts, World.call, reservations_append, List.countP_append]
  omega

theorem WorldInv.step {P : Platform} {role : Role} {w' : World} (h : WorldInv P w)
    (hstep : OutboxStep P role w w') : WorldInv P w' := by
  cases hstep with
  | idle => exact h
  | @call _ _ call faults _ =>
    refine ⟨fun id => (h.outbox id).step call faults, fun id => (h.erased id).step call faults, ?_,
      fun hreads id eventID => (h.attempts hreads id eventID).step hreads (h.outbox id) call faults,
      fun id eventID => (h.reserved id eventID).trans (durableAttempts_mono w call faults id eventID)⟩
    intro post hpost
    obtain ⟨hhead, hmem⟩ := h.posts post hpost
    refine ⟨hhead, ?_⟩
    change post.event ∈ appendedEvents (w.log ++ [w.entry P call faults]) post.id
    rw [appendedEvents_append]
    exact List.mem_append_left _ hmem
  | @post _ id event hhead hreserved =>
    refine ⟨fun id => ⟨(h.outbox id).absent, (h.outbox id).present⟩, h.erased, ?_, h.attempts, ?_⟩
    · intro post hpost
      rcases List.mem_append.mp hpost with hold | hlast
      · exact h.posts post hold
      · rw [List.mem_singleton.mp hlast]
        exact ⟨hhead, (h.outbox id).mem_appended (List.mem_of_mem_head? hhead)⟩
    · intro id' eventID
      change posted (w.posts ++ [_]) id' eventID ≤ durableAttempts w.log id' eventID
      rw [posted_append]
      split
      · rename_i hsame
        obtain ⟨rfl, rfl⟩ := hsame
        exact hreserved
      · exact h.reserved id' eventID

def outboxDiscipline (P : Platform) : Discipline (outboxSystem P) where
  inv := WorldInv P
  rely role w w' := role = .worker → OutboxStep P .method w w'
  guar := OutboxStep P
  inv_guar := WorldInv.step
  guar_rely := by
    intro l m w w' htogether hguar hm
    cases l with
    | method => exact hguar
    | worker => exact absurd ⟨rfl, hm⟩ htogether

section
variable {P : Platform}

def HeadIs (id : String) (event : RunnerEventV1) (w : World) : Prop :=
  (pendingAt w.dir id).head? = some event

theorem HeadIs.step {w' : World} (h : HeadIs id event w)
    (hstep : OutboxStep P .method w w') : HeadIs id event w' := by
  cases hstep with
  | idle => exact h
  | call faults hcall =>
    obtain ⟨rest, hrest⟩ := List.head?_eq_some_iff.mp h
    obtain ⟨more, hmore⟩ := @pendingAt_grows P w _ faults (hcall rfl) id
    rw [HeadIs, ← hmore, hrest]
    rfl

theorem HeadIs.steps {w' : World} (h : HeadIs id event w)
    (hsteps : Relation.ReflTransGen ((outboxDiscipline P).rely .worker) w w') : HeadIs id event w' := by
  induction hsteps with
  | refl => exact h
  | tail _ hstep ih => exact ih.step (hstep rfl)

def WorkerSafe (P : Platform) {α : Type} (p : RunnerProg α) : Prop :=
  ∀ w, Safe (outboxDiscipline P) .worker (fun _ _ => True) p w

theorem WorkerSafe.pure {α : Type} (a : α) : WorkerSafe P (Pure.pure a : RunnerProg α) :=
  fun _ => trivial

theorem WorkerSafe.bind {α β : Type} {p : RunnerProg α} {f : α → RunnerProg β} (hp : WorkerSafe P p)
    (hf : ∀ a, WorkerSafe P (f a)) : WorkerSafe P (p >>= f) :=
  fun w => (hp w).bind fun a w₁ _ => hf a w₁

theorem WorkerSafe.ask (call : StoreCall) : WorkerSafe P (ask call) := by
  rintro w w₁ _ _ answer w' ⟨faults, rfl, rfl⟩
  exact ⟨.call faults (fun hrole => by cases hrole), trivial⟩

theorem WorkerSafe.ask_bind {α : Type} {call : StoreCall} {f : Result call.Answer → RunnerProg α}
    (hf : ∀ result, WorkerSafe P (f result)) : WorkerSafe P (LiveRunner.ask call >>= f) :=
  (WorkerSafe.ask call).bind hf

/-- The worker has reserved an attempt of the oldest event that it has not used. -/
structure Due (id : String) (event : RunnerEventV1) (w : World) : Prop where
  head : HeadIs id event w
  unused : posted w.posts id event.eventID < durableAttempts w.log id event.eventID

theorem Due.steps {w' : World} (h : Due id event w)
    (hsteps : Relation.ReflTransGen ((outboxDiscipline P).rely .worker) w w') : Due id event w' := by
  induction hsteps with
  | refl => exact h
  | tail _ hstep ih =>
    refine ⟨ih.head.step (hstep rfl), ?_⟩
    cases hstep rfl with
    | idle => exact ih.unused
    | call faults _ => exact ih.unused.trans_le (durableAttempts_mono _ _ faults id event.eventID)

theorem deliverReserved_safe {secrets : SessionSecretsV1} {now : Time} (h : Due id event w) :
    Safe (outboxDiscipline P) .worker (fun _ _ => True) (deliverReserved id secrets event now) w := by
  have hpost : Safe (outboxDiscipline P) .worker (fun _ _ => True)
      (postEvent id secrets.createRequest.callbackURL secrets.createRequest.callbackToken event) w := by
    intro w₁ hsteps _ answer w' hexec
    cases hexec
    exact ⟨.post (h.steps hsteps).head (h.steps hsteps).unused, trivial⟩
  refine hpost.bind fun answer w' _ => ?_
  cases answer with
  | transportError => exact WorkerSafe.ask_bind (fun result => by cases result <;> exact .pure _) w'
  | response statusCode codes =>
    dsimp only
    split
    · exact WorkerSafe.ask_bind (fun result => by cases result <;> exact .pure _) w'
    · split
      · exact WorkerSafe.ask_bind (fun result => by cases result <;> exact .pure _) w'
      · exact WorkerSafe.ask_bind (fun result => by cases result <;> exact .pure _) w'

theorem reserve_due {now : Time} {initial maximum : Int} (h : HeadIs id event w) :
    Safe (outboxDiscipline P) .worker (fun result w' => ∀ attempt, result = .ok attempt → Due id event w')
      (ask (.reserveCallbackAttempt id event.eventID now initial maximum)) w := by
  rintro w₁ hsteps hinv answer w' ⟨faults, rfl, rfl⟩
  refine ⟨.call faults (fun _ => rfl), fun attempt hattempt => ?_⟩
  refine ⟨(h.steps hsteps).step (.call faults fun _ => rfl), ?_⟩
  have hmade : ((w₁.entry P (.reserveCallbackAttempt id event.eventID now initial maximum)
      faults).reservations id event.eventID).countP Reservation.durable = 1 := by
    rw [Entry.reservations, World.entry]
    simp [reserveCallbackAttempt_saved hattempt, hattempt, answeredOk]
  have hreserved := hinv.reserved id event.eventID
  simp only [durableAttempts, World.call, reservations_append, List.countP_append, hmade] at hreserved ⊢
  omega

theorem head_clock (h : HeadIs id event w) :
    Safe (outboxDiscipline P) .worker (fun _ w' => HeadIs id event w') clock w := by
  intro w₁ hsteps _ answer w' hexec
  cases hexec
  exact ⟨.idle .worker w₁, h.steps hsteps⟩

theorem load_pending (id : String) (w : World) :
    Safe (outboxDiscipline P) .worker
      (fun result w' => ∀ record secrets, result = .ok (record, secrets) →
        pendingAt w'.dir id = record.pendingEvents) (ask (.load id)) w := by
  rintro w₁ _ _ answer w' ⟨faults, rfl, rfl⟩
  refine ⟨.call faults (fun _ => rfl), ?_⟩
  intro record secrets hload
  obtain ⟨file, hfile, rfl, _, _⟩ := loadLocked_spec (P := P) hload
  have hpending : (file.upgrade P).pendingEvents = file.pendingEvents :=
    congrArg Ledger.pendingEvents (@ledger_upgrade P file)
  change pendingAt w₁.dir id = (file.upgrade P).pendingEvents
  simp [pendingAt, hfile, hpending]

/-- `DeliverNext`: what a load showed at the head is there until the worker removes it. -/
theorem deliverNext_safe (id : String) : WorkerSafe P (deliverNext P id) := by
  intro w
  refine (load_pending id w).bind fun loaded w₁ hloaded => ?_
  rcases loaded with e | ⟨record, secrets⟩
  · trivial
  · have hrecord := hloaded record secrets rfl
    dsimp only
    split
    · trivial
    · trivial
    · rename_i event rest known hpending
      have hhead : HeadIs id event w₁ := by
        rw [HeadIs, hrecord, hpending]
        rfl
      refine (head_clock hhead).bind fun now w₂ hhead => ?_
      split
      · trivial
      · trivial
      · refine (reserve_due hhead).bind fun reserved w₃ hdue => ?_
        split
        · trivial
        · trivial
        · exact deliverReserved_safe (hdue _ rfl)

theorem drain_safe (id : String) (count : Nat) : WorkerSafe P (drain P id count) := by
  induction count with
  | zero => exact .pure _
  | succ count ih =>
    refine (deliverNext_safe id).bind fun delivered => ?_
    split
    · exact ih
    · exact .pure _
    · exact .pure _
    · exact ih
    · exact .pure _

theorem sweepSession_safe (record : SessionRecordV1) : WorkerSafe P (sweepSession P record) := by
  refine (drain_safe _ _).bind fun drained => ?_
  split
  · exact .pure _
  · refine WorkerSafe.ask_bind fun result => ?_
    rcases result with e | ⟨current, secrets⟩
    · exact .pure _
    · dsimp only
      split
      · exact WorkerSafe.ask_bind fun result => by cases result <;> exact .pure _
      · exact .pure _

theorem sweepEach_safe (records : List SessionRecordV1) : WorkerSafe P (sweepEach P records) := by
  induction records with
  | nil => exact .pure _
  | cons record rest ih =>
    refine (sweepSession_safe record).bind fun swept => ?_
    split
    · exact .pure _
    · exact ih

theorem sweepOnce_safe : WorkerSafe P (sweepOnce P) := by
  refine WorkerSafe.ask_bind fun result => ?_
  rcases result with e | records
  · exact .pure _
  · exact sweepEach_safe records

theorem outbox_spawn_safe (role : Role) (p : RunnerProg Unit) (h : OutboxSpawn P role p) (w : World) :
    Safe (outboxDiscipline P) role (fun _ _ => True) p w := by
  cases h with
  | method call hcall =>
    rintro w₁ _ _ answer w' ⟨faults, rfl, rfl⟩
    exact ⟨.call faults (fun _ => hcall), trivial⟩
  | sweep => exact (sweepOnce_safe.bind fun _ => .pure ()) w

theorem worldInv_initial : WorldInv P ⟨∅, [], []⟩ := by
  refine ⟨fun id => ⟨fun _ => ⟨rfl, rfl⟩, ?_⟩, ?_, ?_,
    fun _ _ _ => ⟨rfl, .nil, nofun, nofun, fun hmade => absurd rfl hmade⟩, fun _ _ => le_rfl⟩
  · intro record hrecord
    cases hrecord
  · intro id entry hentry
    cases hentry
  · intro post hpost
    cases hpost

theorem worldInv_reachable {c : Config World Role Effect Effect.Answer}
    (h : Reachable (outboxSystem P) ⟨∅, [], []⟩ c) : WorldInv P c.shared :=
  (Sound.of_reachable (d := outboxDiscipline P) worldInv_initial
    (fun role p hspawn w _ => outbox_spawn_safe role p hspawn w) h).inv

end

theorem reachable_call {P : Platform} {s : World} {running : List (Role × RunnerProg Unit)}
    (call : StoreCall) (hcall : call.removes = none) (faults : Faults)
    (h : Reachable (outboxSystem P) s ⟨w, running⟩) :
    Reachable (outboxSystem P) s ⟨w.call P call faults, (.method, .pure ()) :: running⟩ := by
  have hstart := h.tail (.start (.method call hcall) fun q _ => method_together q.1)
  exact hstart.tail (.first (call.run P faults w.dir).1 ⟨faults, rfl, rfl⟩)

/-- In every run of the store and the callback worker, crashes included, for every event: each
POST has a durable reservation before it that no other POST of the event uses; reservations are
numbered from one on, each later than the one before by at least its retry delay; and while the
event is pending, the file records as many attempts as were reserved. -/
theorem posts_reserved (P : Platform) (hreads : P.ReadsBack) (c : Config World Role Effect Effect.Answer)
    (h : Reachable (outboxSystem P) ⟨∅, [], []⟩ c) (id eventID : String) :
    posted c.shared.posts id eventID ≤ durableAttempts c.shared.log id eventID ∧
      (reservations c.shared.log id eventID).map Reservation.attempts =
        List.range' 1 (reservations c.shared.log id eventID).length ∧
      (reservations c.shared.log id eventID).IsChain (fun r next =>
        r.attemptAt + callbackRetryDelayV1 P eventID r.attempts r.initialBackoff r.maximumBackoff ≤
          next.attemptAt) ∧
      ∀ event ∈ pendingAt c.shared.dir id, event.eventID = eventID →
        attemptsAt c.shared.dir id eventID = (reservations c.shared.log id eventID).length ∧
          posted c.shared.posts id eventID ≤ attemptsAt c.shared.dir id eventID := by
  have hinv := worldInv_reachable h
  have hattempts := hinv.attempts hreads id eventID
  refine ⟨hinv.reserved id eventID, hattempts.numbered, hattempts.spaced, ?_⟩
  rintro event hevent rfl
  have hrecorded : attemptsAt c.shared.dir id event.eventID =
      (reservations c.shared.log id event.eventID).length := by
    refine hattempts.recorded fun other hother => ?_
    cases hrecord : c.shared.dir.lookup id with
    | none => simp [pendingAt, hrecord] at hevent
    | some record =>
      rw [pendingAt, hrecord] at hevent
      exact ((hinv.outbox id).present record hrecord).removed_ne hother hevent
  refine ⟨hrecorded, ?_⟩
  rw [hrecorded]
  exact (hinv.reserved id event.eventID).trans List.countP_le_length

def sampleReserved : World :=
  sampleStarted.call samplePlatform (.reserveCallbackAttempt "s1" "r1:1" sampleTime 1 1) noFaults

theorem posts_reserved_sample :
    (reservations sampleReserved.log "s1" "r1:1").map Reservation.attempts = [1] ∧
      posted sampleReserved.posts "s1" "r1:1" ≤ durableAttempts sampleReserved.log "s1" "r1:1" := by
  have hcreated := reachable_call (P := samplePlatform) (s := ⟨∅, [], []⟩)
    (.createOrReplay sampleRequest sampleResponse sampleTime) rfl noFaults .refl
  have hstarted := reachable_call
    (.advance "s1" (startedEvent samplePlatform sampleRecord sampleTime)) rfl noFaults hcreated
  have hreserved := reachable_call (.reserveCallbackAttempt "s1" "r1:1" sampleTime 1 1) rfl noFaults hstarted
  have hreads : samplePlatform.ReadsBack := by
    intro t t' h
    by_cases ht : t = sampleTime <;> simp_all [samplePlatform, sampleStamp]
  have h := posts_reserved samplePlatform hreads _ hreserved "s1" "r1:1"
  exact ⟨by decide +kernel, h.1⟩

end LivepeerTranscode.LiveRunner
