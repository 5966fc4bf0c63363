import LivepeerTranscode.LiveRunner.Runs

/-!
# Exactly-once metering

Over any run of the runner, a session's meter holds the sum of the durations first
recorded for the distinct segment URIs it accepted, its usage is that sum in whole
seconds, and the usage ticks it emitted lead up to that usage.
-/

namespace LivepeerTranscode.LiveRunner
open Checked Interaction
set_option autoImplicit false

/-! ## First occurrences -/

section
variable {α κ : Type} [DecidableEq κ]

/-- The items whose key is new, in order; `seen` are the keys already taken. -/
def keepFirst (key : α → κ) : List κ → List α → List α
  | _, [] => []
  | seen, a :: rest =>
    if key a ∈ seen then keepFirst key seen rest
    else a :: keepFirst key (seen ++ [key a]) rest

theorem keepFirst_append (key : α → κ) (seen : List κ) (xs ys : List α) :
    keepFirst key seen (xs ++ ys) =
      keepFirst key seen xs ++ keepFirst key (seen ++ (keepFirst key seen xs).map key) ys := by
  induction xs generalizing seen with
  | nil => simp [keepFirst]
  | cons a xs ih =>
    by_cases h : key a ∈ seen
    · simp only [List.cons_append, keepFirst, h, if_true]
      exact ih seen
    · simp only [List.cons_append, keepFirst, h, if_false, List.map_cons]
      rw [ih (seen ++ [key a])]
      simp

/-- A key that separates the items of the list picks the same first occurrences as the
finer key it is computed from. -/
theorem keepFirst_comp {κ' : Type} [DecidableEq κ'] (key : α → κ) (f : κ → κ') (seen : List κ)
    (xs : List α) (hf : Set.InjOn f {k | k ∈ seen ∨ k ∈ xs.map key}) :
    keepFirst (fun a => f (key a)) (seen.map f) xs = keepFirst key seen xs := by
  induction xs generalizing seen with
  | nil => rfl
  | cons a xs ih =>
    have hmem : f (key a) ∈ seen.map f ↔ key a ∈ seen := by
      constructor
      · intro h
        obtain ⟨k, hk, heq⟩ := List.mem_map.mp h
        have : k = key a := hf (Or.inl hk) (Or.inr (by simp)) heq
        exact this ▸ hk
      · exact List.mem_map_of_mem
    by_cases h : key a ∈ seen
    · simp only [keepFirst, hmem.mpr h, h, if_true]
      apply ih
      apply hf.mono
      intro k hk
      rcases hk with hk | hk
      · exact Or.inl hk
      · exact Or.inr (List.mem_cons_of_mem _ hk)
    · have h' : f (key a) ∉ seen.map f := fun hin => h (hmem.mp hin)
      simp only [keepFirst, h', h, if_false]
      have hstep := ih (seen ++ [key a]) (by
        apply hf.mono
        intro k hk
        rcases hk with hk | hk
        · rcases List.mem_append.mp hk with hk | hk
          · exact Or.inl hk
          · exact Or.inr (by simp [List.mem_singleton.mp hk])
        · exact Or.inr (List.mem_cons_of_mem _ hk))
      rw [List.map_append, List.map_singleton] at hstep
      rw [hstep]

end

/-! ## One playlist -/

section
variable {P : Platform}

def identity (P : Platform) (segment : FinalizedHLSSegmentV1) : String := P.sha256Hex segment.uri

def totalDuration (segments : List FinalizedHLSSegmentV1) : Nat :=
  (segments.map FinalizedHLSSegmentV1.durationMicroseconds).sum

theorem totalDuration_cons (segment : FinalizedHLSSegmentV1) (rest : List FinalizedHLSSegmentV1) :
    totalDuration (segment :: rest) = segment.durationMicroseconds + totalDuration rest := by
  simp [totalDuration]

theorem totalDuration_append (xs ys : List FinalizedHLSSegmentV1) :
    totalDuration (xs ++ ys) = totalDuration xs + totalDuration ys := by
  simp [totalDuration]

variable {cursor : MeterCursor} {segments : List FinalizedHLSSegmentV1} {entry : Entry} {id : String}

/-- What walking a playlist adds to the cursor: the segments not metered before. -/
theorem meterSegments_spec {next : MeterCursor}
    (h : meterSegments P cursor segments = .ok next) (hle : cursor.microseconds ≤ maxUint64) :
    next.identities = cursor.identities ++
        (keepFirst (identity P) cursor.identities segments).map (identity P) ∧
      next.microseconds = cursor.microseconds +
        totalDuration (keepFirst (identity P) cursor.identities segments) ∧
      next.microseconds ≤ maxUint64 := by
  induction segments generalizing cursor with
  | nil =>
    cases h
    simp [keepFirst, totalDuration, hle]
  | cons segment rest ih =>
    simp only [meterSegments, ok_bind_iff, reject_ok_iff] at h
    obtain ⟨_, _, h⟩ := h
    split at h
    · rename_i hseen
      have hrest := ih h hle
      simpa only [keepFirst, identity, hseen, if_true] using hrest
    · rename_i hnew
      simp only [ok_bind_iff, reject_ok_iff] at h
      obtain ⟨_, hfits, h⟩ := h
      obtain ⟨hids, hsum, hmax⟩ := ih h (Nat.le_of_not_lt hfits)
      have hkeep : keepFirst (identity P) cursor.identities (segment :: rest) =
          segment :: keepFirst (identity P) (cursor.identities ++ [identity P segment]) rest := by
        simp only [keepFirst, identity, hnew, if_false]
      rw [hkeep]
      refine ⟨?_, ?_, hmax⟩
      · rw [hids, List.map_cons, List.append_assoc]
        rfl
      · rw [hsum, totalDuration_cons]
        exact Nat.add_assoc ..

/-- The cursor is marked changed exactly when its total grew, which is when some segment
was new: an accepted segment has a positive duration. -/
theorem meterSegments_changed {next : MeterCursor} (h : meterSegments P cursor segments = .ok next) :
    (next.changed = true ↔ cursor.changed = true ∨ cursor.microseconds < next.microseconds) ∧
      cursor.microseconds ≤ next.microseconds ∧
      (next.microseconds = cursor.microseconds →
        keepFirst (identity P) cursor.identities segments = []) := by
  induction segments generalizing cursor with
  | nil =>
    cases h
    simp [keepFirst]
  | cons segment rest ih =>
    simp only [meterSegments, ok_bind_iff, reject_ok_iff, not_or] at h
    obtain ⟨_, hvalid, h⟩ := h
    split at h
    · rename_i hseen
      have hrest := ih h
      simpa only [keepFirst, identity, hseen, if_true] using hrest
    · simp only [ok_bind_iff] at h
      obtain ⟨_, _, h⟩ := h
      obtain ⟨hchanged, hmono, _⟩ := ih h
      have hpos : 0 < segment.durationMicroseconds := Nat.pos_of_ne_zero hvalid.2
      have hgrew : cursor.microseconds < next.microseconds := by
        dsimp only at hmono
        omega
      refine ⟨⟨fun _ => Or.inr hgrew, fun _ => hchanged.mpr (Or.inl rfl)⟩, Nat.le_of_lt hgrew, ?_⟩
      intro heq
      omega

/-! ## One metering call -/

theorem metering_run (id : String) (segments : List FinalizedHLSSegmentV1) (eventTime : Time)
    (faults : Faults) (dir : Directory) :
    let result := (StoreCall.recordFinalizedSegments id segments eventTime).run P faults dir
    (answeredOk result.1 = false ∧ result.2 = dir) ∨
      ∃ file cursor, dir.lookup id = some file ∧
        meterSegments P file.ledger.cursor segments = .ok cursor ∧
        ((cursor.changed = false ∧ result.2 = dir) ∨
          ∃ new, cursor.changed = true ∧ result.2 = dir.insert id new ∧
            file.ledger.Counted cursor new.ledger) := by
  dsimp only [StoreCall.run]
  split
  · exact Or.inl ⟨rfl, rfl⟩
  · simp only [StoreCall.locked, transact]
    split
    · exact Or.inl ⟨rfl, rfl⟩
    · rename_i record secrets hload
      obtain ⟨file, hfile, rfl, hid, _⟩ := loadLocked_spec hload
      split
      · exact Or.inl ⟨rfl, rfl⟩
      · rename_i outcome houtcome
        obtain ⟨_, _, cursor, hcursor, hcases⟩ := recordFinalizedSegments_spec houtcome
        rw [ledger_upgrade] at hcursor hcases
        rcases hcases with ⟨hsame, rfl⟩ | ⟨new, answer, hchanged, rfl, hframe, hcounted⟩
        · exact Or.inr ⟨file, cursor, hfile, hcursor, Or.inl ⟨hsame, rfl⟩⟩
        · have hnewid : new.brokerSessionID = id := (congrArg Prod.fst hframe).trans hid
          have hsaved : dir.insert new.brokerSessionID new = dir.insert id new := by
            rw [hnewid]
          cases hsave : faults.save with
          | failed => exact Or.inl ⟨rfl, rfl⟩
          | done => exact Or.inr ⟨file, cursor, hfile, hcursor, Or.inr ⟨new, hchanged, hsaved, hcounted⟩⟩
          | unsynced =>
            exact Or.inr ⟨file, cursor, hfile, hcursor, Or.inr ⟨new, hchanged, hsaved, hcounted⟩⟩

/-! ## The meter of a run -/

def meteredAt (dir : Directory) (id : String) : Option Nat :=
  (dir.lookup id).map SessionRecordV1.meteredMicroseconds

/-- A metering call was accepted if it returned without an error, or if its effect is in
the file all the same. -/
def Entry.took (entry : Entry) (id : String) : Prop :=
  entry.answered = true ∨ meteredAt entry.after id ≠ meteredAt entry.before id

instance (entry : Entry) (id : String) : Decidable (entry.took id) :=
  inferInstanceAs (Decidable (_ ∨ _))

/-- The segments a logged call got accepted for a session. -/
def Entry.observed (entry : Entry) (id : String) : List FinalizedHLSSegmentV1 :=
  match entry.call with
  | .recordFinalizedSegments session segments _ =>
    if session = id ∧ entry.took id then segments else []
  | _ => []

def observedSegments (log : List Entry) (id : String) : List FinalizedHLSSegmentV1 :=
  log.flatMap fun entry => entry.observed id

def tickTotal (event : RunnerEventV1) : Option Nat :=
  if event.eventType = .usageTick then event.usage.map UsageV1.total else none

/-- The totals of the usage ticks emitted for a session, oldest first. -/
def tickTotals (log : List Entry) (id : String) : List Nat :=
  (appendedEvents log id).filterMap tickTotal

theorem observedSegments_append (log : List Entry) (entry : Entry) (id : String) :
    observedSegments (log ++ [entry]) id = observedSegments log id ++ entry.observed id := by
  simp [observedSegments]

theorem tickTotals_append (log : List Entry) (entry : Entry) (id : String) :
    tickTotals (log ++ [entry]) id = tickTotals log id ++ (entry.appended id).filterMap tickTotal := by
  simp [tickTotals]

/-- A ledger that agrees with the segments accepted and the ticks emitted so far. -/
structure Metered (P : Platform) (seen : List FinalizedHLSSegmentV1) (ticks : List Nat)
    (l : Ledger) : Prop where
  identities : l.meteredSegmentSHA256 = (keepFirst (identity P) [] seen).map (identity P)
  microseconds : l.meteredMicroseconds = totalDuration (keepFirst (identity P) [] seen)
  bounded : l.meteredMicroseconds ≤ maxUint64
  usage : l.usageTotal = l.meteredMicroseconds / 1000000
  increasing : ticks.Pairwise (· < ·)
  below : ∀ total ∈ ticks, total ≤ l.usageTotal
  last : ticks.getLast?.getD 0 = l.usageTotal

variable {seen : List FinalizedHLSSegmentV1} {ticks : List Nat} {l l' : Ledger}

theorem Metered.of_eq (h : Metered P seen ticks l)
    (hids : l'.meteredSegmentSHA256 = l.meteredSegmentSHA256)
    (hmicros : l'.meteredMicroseconds = l.meteredMicroseconds)
    (husage : l'.usageTotal = l.usageTotal) : Metered P seen ticks l' := by
  refine ⟨hids.trans h.identities, hmicros.trans h.microseconds, hmicros ▸ h.bounded, ?_,
    h.increasing, ?_, ?_⟩
  · rw [husage, hmicros, h.usage]
  · rw [husage]
    exact h.below
  · rw [husage]
    exact h.last

theorem Metered.same
    (h : Metered P seen ticks l) (hcursor : meterSegments P l.cursor segments = .ok cursor)
    (hsame : cursor.changed = false) : Metered P (seen ++ segments) ticks l := by
  obtain ⟨hchanged, hmono, hnone⟩ := meterSegments_changed hcursor
  have hnochange : ¬ cursor.changed = true := by simp [hsame]
  rw [hchanged, not_or] at hnochange
  have hempty := hnone (by omega)
  have hkeep : keepFirst (identity P) [] (seen ++ segments) = keepFirst (identity P) [] seen := by
    rw [keepFirst_append, List.nil_append, ← h.identities]
    exact (congrArg _ hempty).trans (List.append_nil _)
  exact { h with identities := by rw [hkeep]; exact h.identities
                 microseconds := by rw [hkeep]; exact h.microseconds }

theorem Metered.counted
    (h : Metered P seen ticks l) (hcursor : meterSegments P l.cursor segments = .ok cursor)
    (hcounted : l.Counted cursor l') :
    ∃ events, l'.pendingEvents = l.pendingEvents ++ events ∧
      Metered P (seen ++ segments) (ticks ++ events.filterMap tickTotal) l' := by
  obtain ⟨hids, hsum, hmax⟩ := meterSegments_spec hcursor h.bounded
  obtain ⟨_, hmono, _⟩ := meterSegments_changed hcursor
  have hkeep : keepFirst (identity P) [] (seen ++ segments) =
      keepFirst (identity P) [] seen ++ keepFirst (identity P) l.meteredSegmentSHA256 segments := by
    rw [keepFirst_append, List.nil_append, ← h.identities]
  have hids' : cursor.identities =
      (keepFirst (identity P) [] (seen ++ segments)).map (identity P) := by
    rw [hkeep, List.map_append, ← h.identities]
    exact hids
  have hsum' : cursor.microseconds = totalDuration (keepFirst (identity P) [] (seen ++ segments)) := by
    rw [hkeep, totalDuration_append, ← h.microseconds]
    exact hsum
  have hgrow : l.meteredMicroseconds / 1000000 ≤ cursor.microseconds / 1000000 :=
    Nat.div_le_div_right hmono
  cases hcounted with
  | quiet hless =>
    have husage : l.usageTotal = cursor.microseconds / 1000000 := by
      have := h.usage
      omega
    refine ⟨[], (List.append_nil _).symm, hids', hsum', hmax, husage, ?_, ?_, ?_⟩
    · simpa using h.increasing
    · simpa [Ledger.meter] using h.below
    · simpa [Ledger.meter] using h.last
  | @tick event hmore hnext htype hactive huse =>
    have htick : [event].filterMap tickTotal = [cursor.microseconds / 1000000] := by
      simp [tickTotal, htype, huse]
    refine ⟨[event], rfl, hids', hsum', hmax, rfl, ?_, ?_, ?_⟩
    · rw [htick]
      refine List.pairwise_append.mpr ⟨h.increasing, List.pairwise_singleton _ _, ?_⟩
      intro total htotal next hnext
      rw [List.mem_singleton.mp hnext]
      exact Nat.lt_of_le_of_lt (h.below total htotal) hmore
    · rw [htick]
      intro total htotal
      rcases List.mem_append.mp htotal with htotal | htotal
      · exact Nat.le_of_lt (Nat.lt_of_le_of_lt (h.below total htotal) hmore)
      · exact Nat.le_of_eq (List.mem_singleton.mp htotal)
    · rw [htick]
      simp [Ledger.setUsage]

/-- The meter of one session in a state of a run; before the session exists nothing has
been accepted for it. -/
def MeterInv (P : Platform) (id : String) (w : World) : Prop :=
  match w.dir.lookup id with
  | none => observedSegments w.log id = [] ∧ tickTotals w.log id = []
  | some record => Metered P (observedSegments w.log id) (tickTotals w.log id) record.ledger

/-- The events the runner hands to `Advance`: never a tick, and with the session's own usage
if they carry one. -/
def Allowed (w : World) (call : StoreCall) : Prop :=
  ∀ id event, call = .advance id event → event.eventType ≠ .usageTick ∧
    ∀ record, w.dir.lookup id = some record → record.state = .active →
      ∀ usage ∈ event.usage, usage.total = record.usageTotal

theorem observed_rejected (hanswer : entry.answered = false)
    (h : entry.after.lookup id = entry.before.lookup id) : entry.observed id = [] := by
  unfold Entry.observed
  split
  · simp [Entry.took, hanswer, meteredAt, h]
  · rfl

theorem observed_metering {time : Time} (h : entry.call = .recordFinalizedSegments id segments time) :
    entry.observed id = if entry.took id then segments else [] := by
  simp [Entry.observed, h]

theorem Ledger.Counted.meteredMicroseconds_eq (h : l.Counted cursor l') :
    l'.meteredMicroseconds = cursor.microseconds := by
  cases h <;> rfl

theorem observed_of_not_metering
    (h : ∀ segments time, entry.call ≠ .recordFinalizedSegments id segments time) :
    entry.observed id = [] := by
  unfold Entry.observed
  split
  · rename_i session segments time hcall
    rw [if_neg]
    rintro ⟨rfl, _⟩
    exact h segments time hcall
  · rfl

theorem MeterInv.same {w w' : World} (h : MeterInv P id w)
    (hlog : w'.log = w.log ++ [entry]) (hbefore : entry.before = w.dir) (hafter : entry.after = w'.dir)
    (hlookup : w'.dir.lookup id = w.dir.lookup id) (hobserved : entry.observed id = []) :
    MeterInv P id w' := by
  have hsegments : observedSegments w'.log id = observedSegments w.log id := by
    rw [hlog, observedSegments_append, hobserved, List.append_nil]
  have happended : entry.appended id = [] := appended_same (by rw [hafter, hbefore, hlookup])
  have hticks : tickTotals w'.log id = tickTotals w.log id := by
    rw [hlog, tickTotals_append, happended, List.filterMap_nil, List.append_nil]
  unfold MeterInv at h ⊢
  rw [hlookup, hsegments, hticks]
  exact h

theorem MeterInv.of_metered {w w' : World} {new : SessionRecordV1}
    (hlog : w'.log = w.log ++ [entry]) (hlookup : w'.dir.lookup id = some new)
    (h : Metered P (observedSegments w.log id ++ entry.observed id)
      (tickTotals w.log id ++ (entry.appended id).filterMap tickTotal) new.ledger) :
    MeterInv P id w' := by
  unfold MeterInv
  rw [hlookup, hlog, observedSegments_append, tickTotals_append]
  exact h

theorem MeterInv.metered {w : World} {file : SessionRecordV1} (h : MeterInv P id w)
    (hfile : w.dir.lookup id = some file) :
    Metered P (observedSegments w.log id) (tickTotals w.log id) file.ledger := by
  unfold MeterInv at h
  rwa [hfile] at h

theorem appended_of_append {file new : SessionRecordV1}
    {events : List RunnerEventV1} (hbefore : entry.before.lookup id = some file)
    (hafter : entry.after.lookup id = some new)
    (h : new.pendingEvents = file.pendingEvents ++ events) : entry.appended id = events := by
  simp [Entry.appended, pendingAt, hbefore, hafter, h]

theorem MeterInv.metering {w : World} {time : Time} {faults : Faults} (h : MeterInv P id w) :
    MeterInv P id (w.call P (.recordFinalizedSegments id segments time) faults) := by
  rcases metering_run (P := P) id segments time faults w.dir with ⟨hanswer, hdir⟩ |
    ⟨file, cursor, hfile, hcursor, ⟨hsame, hdir⟩ | ⟨new, hchanged, hdir, hcounted⟩⟩
  · exact h.same rfl rfl rfl (congrArg _ hdir) (observed_rejected hanswer (congrArg _ hdir))
  · have hmetered := h.metered hfile
    refine MeterInv.of_metered rfl ((congrArg _ hdir).trans hfile) ?_
    rw [appended_same (congrArg _ hdir), List.filterMap_nil, List.append_nil]
    rw [observed_metering rfl]
    split
    · exact hmetered.same hcursor hsame
    · rw [List.append_nil]
      exact hmetered
  · have hmetered := h.metered hfile
    obtain ⟨events, hevents, hnew⟩ := hmetered.counted hcursor hcounted
    have hlookup : (w.call P (.recordFinalizedSegments id segments time) faults).dir.lookup id =
        some new := (congrArg _ hdir).trans (AList.lookup_insert ..)
    refine MeterInv.of_metered rfl hlookup ?_
    rw [appended_of_append hfile hlookup hevents]
    have hgrew : file.meteredMicroseconds < cursor.microseconds :=
      ((meterSegments_changed hcursor).1.mp hchanged).resolve_left (by simp [Ledger.cursor])
    have htook : (w.entry P (.recordFinalizedSegments id segments time) faults).took id := by
      right
      have hafter : meteredAt (w.call P (.recordFinalizedSegments id segments time) faults).dir id =
          some cursor.microseconds := by
        rw [meteredAt, hlookup]
        exact congrArg some hcounted.meteredMicroseconds_eq
      have hbefore : meteredAt w.dir id = some file.meteredMicroseconds := by
        rw [meteredAt, hfile]
        rfl
      intro heq
      have := Option.some.inj (hafter.symm.trans (heq.trans hbefore))
      omega
    rw [observed_metering rfl, if_pos htook]
    exact hnew

theorem tickTotal_of_ne {event : RunnerEventV1} (h : event.eventType ≠ .usageTick) :
    tickTotal event = none := if_neg h

theorem Ledger.advanced_usageTotal {event : RunnerEventV1}
    (h : ∀ usage ∈ event.usage, usage.total = l.usageTotal) :
    (l.advanced event).usageTotal = l.usageTotal := by
  have htotal : (event.usage.map UsageV1.total).getD l.usageTotal = l.usageTotal := by
    cases husage : event.usage with
    | none => rfl
    | some usage => exact h usage husage
  unfold Ledger.advanced
  dsimp only
  split <;> exact htotal

theorem Ledger.advanced_frame (event : RunnerEventV1) :
    (l.advanced event).meteredSegmentSHA256 = l.meteredSegmentSHA256 ∧
      (l.advanced event).meteredMicroseconds = l.meteredMicroseconds ∧
      (l.advanced event).pendingEvents = l.pendingEvents ++ [event] := by
  unfold Ledger.advanced
  dsimp only
  split <;> exact ⟨rfl, rfl, rfl⟩

theorem Metered.move {call : StoreCall} (h : Metered P seen ticks l)
    (hmove : Ledger.Move P call l l')
    (hcall : ∀ id segments time, call ≠ .recordFinalizedSegments id segments time)
    (hadvance : ∀ id event, call = .advance id event → event.eventType ≠ .usageTick ∧
      (l.state = .active → ∀ usage ∈ event.usage, usage.total = l.usageTotal)) :
    Metered P seen
      (ticks ++ (l'.pendingEvents.drop l.pendingEvents.length).filterMap tickTotal) l' := by
  cases hmove with
  | keep => simpa using h
  | emit _ _ htype _ _ =>
    simp only [Ledger.push, List.drop_left, List.filterMap_cons, tickTotal_of_ne htype,
      List.filterMap_nil, List.append_nil]
    exact h.of_eq rfl rfl rfl
  | @meter id segments time _ _ _ _ _ _ _ => exact absurd rfl (hcall id segments time)
  | @advance id event _ hactive _ _ _ _ =>
    obtain ⟨htype, husage⟩ := hadvance id event rfl
    obtain ⟨hids, hmicros, hpending⟩ := Ledger.advanced_frame (l := l) event
    simp only [hpending, List.drop_left, List.filterMap_cons, tickTotal_of_ne htype,
      List.filterMap_nil, List.append_nil]
    exact h.of_eq hids hmicros (Ledger.advanced_usageTotal (husage hactive))
  | stop _ =>
    simp only [List.drop_length, List.filterMap_nil, List.append_nil]
    exact h.of_eq rfl rfl rfl
  | remove hhead hpending =>
    rename_i event rest
    have hdrop : rest.drop l.pendingEvents.length = [] := by
      simp [hpending]
    simp only [hdrop, List.filterMap_nil, List.append_nil]
    exact h.of_eq rfl rfl rfl
  | forget _ _ =>
    simp only [List.drop_length, List.filterMap_nil, List.append_nil]
    exact h.of_eq rfl rfl rfl

theorem Metered.fresh {request : RunnerCreateRequestV1} {response : RunnerCreateResponseV1}
    {grant : GrantV1} {now : Time} :
    Metered P [] [] (newSessionRecord P request response grant now).ledger :=
  ⟨rfl, rfl, Nat.zero_le _, (Nat.zero_div 1000000).symm, List.Pairwise.nil, by simp, rfl⟩

theorem MeterInv.step {w : World} {call : StoreCall} (faults : Faults)
    (h : MeterInv P id w) (hallowed : Allowed w call) : MeterInv P id (w.call P call faults) := by
  by_cases hmetering : ∃ segments time, call = .recordFinalizedSegments id segments time
  · obtain ⟨segments, time, rfl⟩ := hmetering
    exact h.metering
  · have hobserved : (w.entry P call faults).observed id = [] :=
      observed_of_not_metering fun segments time hcall => hmetering ⟨segments, time, hcall⟩
    cases run_moves (P := P) call faults w.dir id with
    | same hsame => exact h.same rfl rfl rfl hsame hobserved
    | @move file new hfile hnew hsession hmove =>
      refine MeterInv.of_metered rfl hnew ?_
      have happended : (w.entry P call faults).appended id =
          new.pendingEvents.drop file.pendingEvents.length := by
        simp [Entry.appended, World.entry, pendingAt, hfile, hnew]
      rw [hobserved, List.append_nil, happended]
      refine (h.metered hfile).move hmove.onFile ?_ ?_
      · rintro other segments time rfl
        cases hsession
        exact hmetering ⟨segments, time, rfl⟩
      · rintro other event rfl
        cases hsession
        obtain ⟨htype, husage⟩ := hallowed id event rfl
        exact ⟨htype, husage file hfile⟩
    | @create request response grant now hnone hnew _ _ =>
      refine MeterInv.of_metered rfl hnew ?_
      unfold MeterInv at h
      rw [hnone] at h
      have happended : (w.entry P call faults).appended id = [] := by
        simp [Entry.appended, World.entry, pendingAt, hnew, newSessionRecord]
      rw [hobserved, happended, h.1, h.2]
      exact Metered.fresh

end

end LivepeerTranscode.LiveRunner
