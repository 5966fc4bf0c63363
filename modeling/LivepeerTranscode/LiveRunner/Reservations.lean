import LivepeerTranscode.LiveRunner.Outbox

/-!
# The attempts recorded for an event

A reservation is a call that raised the attempts a session's file records for an event. The
reservations of an event are numbered from one on, each waits out the delay of the one before,
and what the file says of the event is what the last of them wrote.
-/

namespace LivepeerTranscode.LiveRunner
open Checked
set_option autoImplicit false

/-- A time that is read back is the time that was written. -/
def Platform.ReadsBack (P : Platform) : Prop := ∀ t t', P.parseNano (P.formatNano t) = some t' → t' = t

/-- A reservation is durable when its call returned without an error. -/
structure Reservation where
  attempts : Nat
  attemptAt : Time
  initialBackoff : Int
  maximumBackoff : Int
  durable : Bool

def Reservation.due (P : Platform) (eventID : String) (r : Reservation) : Time :=
  r.attemptAt + callbackRetryDelayV1 P eventID r.attempts r.initialBackoff r.maximumBackoff

/-- The attempts the file of a session records for an event. -/
def attemptsAt (dir : Directory) (id eventID : String) : Nat :=
  ((dir.lookup id).bind SessionRecordV1.reserved).elim 0 fun attempt =>
    if attempt.1 = eventID then attempt.2.1 else 0

def Entry.reservations (entry : Entry) (id eventID : String) : List Reservation :=
  match entry.call with
  | .reserveCallbackAttempt session event attemptAt initial maximum =>
    if session = id ∧ event = eventID ∧
        attemptsAt entry.before id eventID < attemptsAt entry.after id eventID then
      [⟨attemptsAt entry.after id eventID, attemptAt, initial, maximum, entry.answered⟩]
    else []
  | _ => []

def reservations (log : List Entry) (id eventID : String) : List Reservation :=
  log.flatMap fun entry => entry.reservations id eventID

@[simp] theorem reservations_append (log : List Entry) (entry : Entry) (id eventID : String) :
    reservations (log ++ [entry]) id eventID =
      reservations log id eventID ++ entry.reservations id eventID := by
  simp [reservations]

theorem Entry.reservations_same {entry : Entry} {id eventID : String}
    (h : attemptsAt entry.after id eventID = attemptsAt entry.before id eventID) :
    entry.reservations id eventID = [] := by
  unfold Entry.reservations
  split
  · rw [if_neg]
    rintro ⟨-, -, hless⟩
    omega
  · rfl

/-- What is recorded of an event, by the outbox, the events taken off it and the reserved attempt. -/
structure Attempted (P : Platform) (eventID : String) (pending removed : List RunnerEventV1)
    (reserved : Option (String × Nat × String)) (made : List Reservation) : Prop where
  numbered : made.map Reservation.attempts = List.range' 1 made.length
  spaced : made.IsChain fun r next => r.due P eventID ≤ next.attemptAt
  head : ∀ attempt ∈ reserved, pending.head?.map RunnerEventV1.eventID = some attempt.1
  current : ∀ attempt ∈ reserved, attempt.1 = eventID → ∃ last, made.getLast? = some last ∧
    attempt.2 = (made.length, P.formatNano (last.due P eventID))
  placed : made ≠ [] → (∃ event ∈ removed, event.eventID = eventID) ∨
    ∃ attempt ∈ reserved, attempt.1 = eventID

section
variable {P : Platform} {eventID : String} {pending removed : List RunnerEventV1}
  {reserved : Option (String × Nat × String)} {made : List Reservation}

theorem Attempted.grow {pending' : List RunnerEventV1}
    (h : Attempted P eventID pending removed reserved made) (hgrown : pending <+: pending') :
    Attempted P eventID pending' removed reserved made := by
  refine { h with head := fun attempt hattempt => ?_ }
  obtain ⟨event, hevent, hid⟩ := Option.map_eq_some_iff.mp (h.head attempt hattempt)
  obtain ⟨rest, rfl⟩ := List.head?_eq_some_iff.mp hevent
  obtain ⟨more, rfl⟩ := hgrown
  exact congrArg some hid

theorem Attempted.remove {event : RunnerEventV1} {rest : List RunnerEventV1}
    (h : Attempted P eventID (event :: rest) removed reserved made) :
    Attempted P eventID rest (removed ++ [event]) none made := by
  refine ⟨h.numbered, h.spaced, nofun, nofun, fun hmade => .inl ?_⟩
  rcases h.placed hmade with ⟨other, hother, hid⟩ | ⟨attempt, hattempt, hid⟩
  · exact ⟨other, List.mem_append_left _ hother, hid⟩
  · exact ⟨event, List.mem_concat_self, (Option.some.inj (h.head attempt hattempt)).trans hid⟩

theorem Attempted.recorded (h : Attempted P eventID pending removed reserved made)
    (hpending : ∀ event ∈ removed, event.eventID ≠ eventID) :
    (reserved.elim 0 fun attempt => if attempt.1 = eventID then attempt.2.1 else 0) = made.length := by
  by_cases hmade : made = []
  · subst hmade
    cases hreserved : reserved with
    | none => rfl
    | some attempt =>
      rw [Option.elim_some, if_neg]
      · rfl
      · intro hid
        obtain ⟨last, hlast, -⟩ := h.current attempt hreserved hid
        cases hlast
  · rcases h.placed hmade with ⟨event, hevent, hid⟩ | ⟨attempt, hattempt, hid⟩
    · exact absurd hid (hpending event hevent)
    · obtain ⟨last, -, heq⟩ := h.current attempt hattempt hid
      rw [Option.mem_def.mp hattempt, Option.elim_some, if_pos hid, heq]

/-- The number a reservation gets: the first, or one more than the reserved attempt that is due. -/
theorem nextAttemptNumber_spec {attemptAt : Time} {record : SessionRecordV1} {attempts : Nat}
    (h : nextAttemptNumber P eventID attemptAt record = .ok attempts) :
    record.reserved = none ∧ attempts = 1 ∨ ∃ before stamp due, record.reserved = some (eventID, before, stamp) ∧
      attempts = before + 1 ∧ P.parseNano stamp = some due ∧ due ≤ attemptAt := by
  unfold nextAttemptNumber at h
  split at h
  · rename_i hnone
    cases h
    exact .inl ⟨by simp [SessionRecordV1.reserved, hnone], rfl⟩
  · rename_i delivery hsome
    simp only [ok_bind_iff, reject_ok_iff, not_not] at h
    obtain ⟨_, hevent, _, _, h⟩ := h
    split at h
    · cases h
    · rename_i due hdue
      simp only [ok_bind_iff, failWhen_ok_iff, not_lt] at h
      obtain ⟨_, hless, h⟩ := h
      cases h
      exact .inr ⟨_, _, due, by simp [SessionRecordV1.reserved, hsome, hevent], rfl, hdue, hless⟩

variable {record : SessionRecordV1} {attemptAt : Time} {initial maximum : Int} {attempts : Nat}

theorem Attempted.reserve (hreads : P.ReadsBack)
    (h : Attempted P eventID pending removed record.reserved made)
    (hhead : pending.head?.map RunnerEventV1.eventID = some eventID)
    (hfresh : ∀ event ∈ removed, event.eventID ≠ eventID)
    (hnumber : nextAttemptNumber P eventID attemptAt record = .ok attempts) (durable : Bool) :
    Attempted P eventID pending removed
      (some (eventID, attempts, P.formatNano (Reservation.due P eventID
        ⟨attempts, attemptAt, initial, maximum, durable⟩)))
      (made ++ [⟨attempts, attemptAt, initial, maximum, durable⟩]) := by
  have hnext : attempts = made.length + 1 ∧
      ∀ last ∈ made.getLast?, last.due P eventID ≤ attemptAt := by
    rcases nextAttemptNumber_spec hnumber with ⟨hnone, rfl⟩ | ⟨before, stamp, due, hsome, rfl, hdue, hle⟩
    · have hmade : made = [] := by
        by_contra hne
        rcases h.placed hne with ⟨event, hevent, hid⟩ | ⟨attempt, hattempt, -⟩
        · exact hfresh event hevent hid
        · rw [hnone] at hattempt
          cases hattempt
      subst hmade
      exact ⟨rfl, nofun⟩
    · obtain ⟨last, hlast, heq⟩ := h.current _ hsome rfl
      obtain ⟨rfl, rfl⟩ := Prod.mk.inj heq
      refine ⟨rfl, fun other hother => ?_⟩
      cases Option.some.inj (hother.symm.trans hlast)
      exact hreads _ _ hdue ▸ hle
  obtain ⟨rfl, hspaced⟩ := hnext
  refine ⟨?_, ?_, ?_, ?_, fun _ => .inr ⟨_, rfl, rfl⟩⟩
  · rw [List.map_append, h.numbered, List.length_append, List.length_singleton, List.range'_concat]
    simp [Nat.add_comm]
  · refine List.isChain_append.mpr ⟨h.spaced, List.isChain_singleton _, ?_⟩
    intro last hlast next hnext
    cases hnext
    exact hspaced last hlast
  · rintro _ ⟨⟩
    exact hhead
  · rintro _ ⟨⟩ -
    exact ⟨_, List.getLast?_concat, by simp⟩

theorem Attempted.pass {other : String} (h : Attempted P eventID pending removed record.reserved made)
    (hne : other ≠ eventID) (hhead : pending.head?.map RunnerEventV1.eventID = some other)
    (hnumber : nextAttemptNumber P other attemptAt record = .ok attempts) (stamp : String) :
    Attempted P eventID pending removed (some (other, attempts, stamp)) made := by
  refine ⟨h.numbered, h.spaced, ?_, ?_, fun hmade => .inl ?_⟩
  · rintro _ ⟨⟩
    exact hhead
  · rintro _ ⟨⟩ heq
    exact absurd heq hne
  · rcases h.placed hmade with hremoved | ⟨attempt, hattempt, hid⟩
    · exact hremoved
    · rcases nextAttemptNumber_spec hnumber with ⟨hnone, -⟩ | ⟨before, stamp, due, hsome, -⟩
      · rw [hnone] at hattempt
        cases hattempt
      · rw [hsome] at hattempt
        cases hattempt
        exact absurd hid hne

theorem reserved_upgrade : (record.upgrade P).reserved = record.reserved := by
  have hterminal : ∀ r : SessionRecordV1, r.defaultTerminalState.reserved = r.reserved := by
    intro r
    unfold SessionRecordV1.defaultTerminalState
    split <;> rfl
  have houtput : (record.defaultOutputState P).reserved = record.reserved := by
    unfold SessionRecordV1.defaultOutputState
    split <;> rfl
  exact (hterminal _).trans houtput

variable {dir : Directory} {id : String} {faults : Faults}

theorem attemptsAt_lt {file : SessionRecordV1} (hfile : dir.lookup id = some file)
    (hnumber : nextAttemptNumber P eventID attemptAt (file.upgrade P) = .ok attempts) :
    attemptsAt dir id eventID < attempts := by
  rw [attemptsAt, hfile, Option.bind_some, ← @reserved_upgrade P]
  rcases nextAttemptNumber_spec hnumber with ⟨hnone, rfl⟩ | ⟨before, stamp, due, hsome, rfl, -⟩
  · rw [hnone]
    exact Nat.one_pos
  · rw [hsome]
    simp

theorem reserveCallbackAttempt_saved {answer : CallbackDeliveryAttemptV1}
    (h : ((StoreCall.reserveCallbackAttempt id eventID attemptAt initial maximum).run P faults dir).1 =
      .ok answer) :
    attemptsAt dir id eventID < attemptsAt
      ((StoreCall.reserveCallbackAttempt id eventID attemptAt initial maximum).run P faults dir).2 id
      eventID := by
  unfold StoreCall.run at h ⊢
  split at h
  · cases h
  · change (transact P faults dir id
      (reserveCallbackAttempt P eventID attemptAt initial maximum)).1 = .ok answer at h
    obtain ⟨file, outcome, hfile, hid, houtcome, hcommit⟩ := transact_ok h
    unfold reserveCallbackAttempt at houtcome
    simp only [ok_bind_iff] at houtcome
    obtain ⟨_, _, attempts, hnumber, houtcome⟩ := houtcome
    cases houtcome
    have hnew := commit_ok hcommit
    have hafter : attemptsAt (transact P faults dir id
        (reserveCallbackAttempt P eventID attemptAt initial maximum)).2 id eventID = attempts := by
      rw [hnew, hid]
      simp [attemptsAt, SessionRecordV1.reserved]
    exact hafter ▸ attemptsAt_lt hfile hnumber

end

end LivepeerTranscode.LiveRunner
