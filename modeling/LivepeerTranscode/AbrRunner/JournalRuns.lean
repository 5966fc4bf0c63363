import LivepeerTranscode.AbrRunner.JournalMoves

/-!
# Journals over whole runs of the store

A run is any sequence of operations on a store that starts empty, each with whatever
faults its file accesses meet; the store keeps nothing between two operations, so a restart
is no step of its own. Every journal of a run is sound for the number of events it was given.
-/

namespace LivepeerTranscode.AbrRunner
open Checked GoText JsonText
set_option autoImplicit false

variable {α : Type} {event : Bool} {disk : Disk} {result : RenditionResultV2}

/-- The sequence numbers a journal still holds, the terminal event's last. -/
def WorkloadJournalV2.sequences (record : WorkloadJournalV2) : List Nat :=
  record.progressEvents.map (·.sequence) ++ record.terminalEvent.toList.map (·.sequence)

structure WorkloadJournalV2.Checkpoints (record : WorkloadJournalV2) : Prop where
  prepared : ∀ entry ∈ record.prepared.entries, preparedEntryValid entry = true
  delivered : ∀ entry ∈ record.delivered.entries, deliveredEntryValid record.prepared entry = true
  manifest : record.manifestPrepared.all manifestValid = true
  uri : record.manifestDeliveredURI ≠ "" → record.manifestPrepared ≠ none ∧
    validateArtifactURI record.manifestDeliveredURI "manifest_delivered_uri" = .ok ()

/-- What a terminal event says of the journal's delivered renditions. -/
def TerminalEventV2.Reports (P : StorePlatform) (record : WorkloadJournalV2) : TerminalEventV2 → Prop
  | .result success => success.renditions.Perm record.deliveredResults ∧
      calculateFrameMegapixelUnitsV2 P.toPlatform record.deliveredResults = .ok success.usage.units
  | .error failure =>
      calculateFrameMegapixelUnitsV2 P.toPlatform record.deliveredResults = .ok failure.usage.units

structure WorkloadJournalV2.Sound (P : StorePlatform) (appended : Nat) (record : WorkloadJournalV2) : Prop where
  kept : record.Kept
  checkpoints : record.Checkpoints
  identity : opaqueIDPattern record.workloadID = true ∧ workIDPattern record.requestSHA256 = true
  appended_lt : appended < 2 ^ 64
  next : record.nextSequence = (appended + 1) % 2 ^ 64
  running : record.state = .inProgress → record.terminalEvent = none
  ended : record.state ≠ .inProgress → ∃ event : TerminalEventV2, event.Valid P ∧ record.state = event.state ∧
    record.terminalEvent = some ⟨appended, event.name, marshal event.value⟩ ∧ event.Reports P record
  ordered : record.sequences.Pairwise (· < ·)
  bounded : ∀ sequence ∈ record.sequences, sequence ≤ appended

theorem TerminalEventV2.state_terminal (event : TerminalEventV2) :
    event.state ≠ .inProgress ∧ (event.state = .succeeded ∨ event.state = .failed) := by
  cases event
  · exact ⟨nofun, .inl rfl⟩
  · exact ⟨nofun, .inr rfl⟩

variable {workloadID : String} {record next : WorkloadJournalV2}

section
variable {P : StorePlatform} {appended : Nat} {record next : WorkloadJournalV2}

theorem WorkloadJournalV2.Sound.terminal_iff (h : record.Sound P appended) :
    record.terminal = true ↔ record.state ≠ .inProgress := by
  constructor
  · intro hterminal hstate
    simp [WorkloadJournalV2.terminal, hstate] at hterminal
  · intro hstate
    rcases h.kept.state with hrunning | hterminal
    · exact absurd hrunning hstate
    · exact hterminal

theorem WorkloadJournalV2.Sound.valid (h : record.Sound P appended) (hlt : appended + 1 < 2 ^ 64) :
    validateJournalLocked record = .ok () := by
  have hnext : record.nextSequence = appended + 1 := by
    rw [h.next, Nat.mod_eq_of_lt hlt]
  have hknown : ¬ (record.state ≠ .inProgress ∧ record.terminal = false) := by
    rintro ⟨hstate, hterminal⟩
    rw [h.terminal_iff.mpr hstate] at hterminal
    cases hterminal
  have hagree : record.terminal = record.terminalEvent.isSome := by
    by_cases hstate : record.state = .inProgress
    · rw [h.running hstate]
      simp [WorkloadJournalV2.terminal, hstate]
    · obtain ⟨event, -, -, hevent, -⟩ := h.ended hstate
      rw [hevent, h.terminal_iff.mpr hstate]
      rfl
  have hevent : record.terminalEvent.all (terminalEventValid record.nextSequence) = true := by
    by_cases hstate : record.state = .inProgress
    · rw [h.running hstate]
      rfl
    · obtain ⟨event, -, -, hevent, -⟩ := h.ended hstate
      rw [hevent, hnext]
      cases event <;> simp [terminalEventValid, TerminalEventV2.name]
  have hpositive : ¬ record.nextSequence = 0 := by omega
  have hprepared := List.all_eq_true.mpr h.checkpoints.prepared
  have hdelivered := List.all_eq_true.mpr h.checkpoints.delivered
  unfold validateJournalLocked
  refine ok_bind_iff.mpr ⟨(), deny_ok_iff.mpr hpositive, ?_⟩
  refine ok_bind_iff.mpr ⟨(), deny_ok_iff.mpr hknown, ?_⟩
  refine ok_bind_iff.mpr ⟨(), deny_ok_iff.mpr (not_not.mpr hagree), ?_⟩
  refine ok_bind_iff.mpr ⟨(), deny_ok_iff.mpr (not_not.mpr hevent), ?_⟩
  refine ok_bind_iff.mpr ⟨(), deny_ok_iff.mpr (not_not.mpr hprepared), ?_⟩
  refine ok_bind_iff.mpr ⟨(), deny_ok_iff.mpr (not_not.mpr hdelivered), ?_⟩
  refine ok_bind_iff.mpr ⟨(), deny_ok_iff.mpr (not_not.mpr h.checkpoints.manifest), ?_⟩
  by_cases huri : record.manifestDeliveredURI = ""
  · rw [if_neg (not_not.mpr huri)]
    rfl
  · obtain ⟨hprepared, hvalid⟩ := h.checkpoints.uri huri
    rw [if_pos huri]
    exact ok_bind_iff.mpr ⟨(), deny_ok_iff.mpr hprepared, hvalid⟩

theorem freshJournal_sound {requestSHA256 : String} (hid : opaqueIDPattern workloadID = true)
    (hsha : workIDPattern requestSHA256 = true) : (freshJournal workloadID requestSHA256).Sound P 0 where
  kept := ⟨rfl, .inl rfl, by simp [freshJournal], nofun, nofun, nofun, nofun⟩
  checkpoints := ⟨nofun, nofun, rfl, fun h => absurd rfl h⟩
  identity := ⟨hid, hsha⟩
  appended_lt := by decide
  next := rfl
  running := fun _ => rfl
  ended := fun h => absurd rfl h
  ordered := .nil
  bounded := nofun

/-! ## Preservation -/

theorem WorkloadJournalV2.Checkpoints.insert_prepared (h : record.Checkpoints) {checkpoint : PreparedRenditionV2}
    (hvalid : preparedEntryValid (checkpoint.name, checkpoint) = true)
    (hfresh : record.delivered.get? checkpoint.name = none) :
    WorkloadJournalV2.Checkpoints
      { record with prepared := record.prepared.insert checkpoint.name checkpoint } where
  prepared := StringMap.forall_insert h.prepared hvalid
  delivered := by
    intro entry hentry
    have hne : entry.1 ≠ checkpoint.name := by
      intro heq
      have hget := (StringMap.mem_entries_iff record.delivered).mp hentry
      rw [heq, hfresh] at hget
      cases hget
    have hold := h.delivered entry hentry
    unfold deliveredEntryValid at hold ⊢
    rwa [StringMap.get?_insert_ne _ hne]
  manifest := h.manifest
  uri := h.uri

theorem WorkloadJournalV2.Checkpoints.insert_delivered (h : record.Checkpoints)
    {checkpoint : PreparedRenditionV2} (hprepared : record.prepared.get? result.name = some checkpoint)
    (hmatch : preparedMatchesResultV2 checkpoint result) :
    WorkloadJournalV2.Checkpoints { record with delivered := record.delivered.insert result.name result } where
  prepared := h.prepared
  delivered := by
    refine StringMap.forall_insert h.delivered ?_
    simp [deliveredEntryValid, hprepared, hmatch]
  manifest := h.manifest
  uri := h.uri

theorem validateRenditions_names {seen : List String} {renditions : List RenditionResultV2}
    (h : validateRenditions P seen renditions = .ok ()) :
    (renditions.map (·.name)).Nodup ∧ ∀ rendition ∈ renditions, rendition.name ∉ seen := by
  induction renditions generalizing seen with
  | nil => exact ⟨List.nodup_nil, nofun⟩
  | cons rendition rest ih =>
    unfold validateRenditions at h
    obtain ⟨_, -, h⟩ := ok_bind_iff.mp h
    obtain ⟨_, -, h⟩ := ok_bind_iff.mp h
    obtain ⟨_, -, h⟩ := ok_bind_iff.mp h
    obtain ⟨_, hseen, h⟩ := ok_bind_iff.mp h
    obtain ⟨_, -, h⟩ := ok_bind_iff.mp h
    obtain ⟨hnodup, hrest⟩ := ih h
    refine ⟨?_, ?_⟩
    · rw [List.map_cons, List.nodup_cons]
      refine ⟨?_, hnodup⟩
      intro hmem
      obtain ⟨other, hother, hname⟩ := List.mem_map.mp hmem
      exact hrest other hother (hname ▸ List.mem_cons_self)
    · intro other hother
      rcases List.mem_cons.mp hother with rfl | hother
      · exact deny_ok_iff.mp hseen
      · exact fun hmem => hrest other hother (List.mem_cons_of_mem _ hmem)

theorem renditionResultsEqualV2_eq {left right : RenditionResultV2} (h : renditionResultsEqualV2 left right) :
    left = right := by
  obtain ⟨name, playlistURI, streamURI, video, fileSizeBytes⟩ := left
  obtain ⟨name', playlistURI', streamURI', video', fileSizeBytes'⟩ := right
  obtain ⟨hplaylist, hstream, hname, hsize, hvideo⟩ := h
  cases hplaylist
  cases hstream
  cases hname
  cases hsize
  cases hvideo
  rfl

theorem reports_result {success : ABRTerminalResultV2}
    (hvalid : validateABRTerminalResultV2 P success = .ok ()) (hcheck : checkResult success record = .ok ()) :
    (TerminalEventV2.result success).Reports P record := by
  unfold validateABRTerminalResultV2 at hvalid
  obtain ⟨_, -, hvalid⟩ := ok_bind_iff.mp hvalid
  obtain ⟨_, -, hvalid⟩ := ok_bind_iff.mp hvalid
  obtain ⟨_, -, hvalid⟩ := ok_bind_iff.mp hvalid
  obtain ⟨_, -, hvalid⟩ := ok_bind_iff.mp hvalid
  obtain ⟨_, hrenditions, hvalid⟩ := ok_bind_iff.mp hvalid
  obtain ⟨units, hunits, hvalid⟩ := ok_bind_iff.mp hvalid
  have husage := deny_ok_iff.mp hvalid
  unfold checkResult at hcheck
  obtain ⟨_, -, hcheck⟩ := ok_bind_iff.mp hcheck
  obtain ⟨_, -, hcheck⟩ := ok_bind_iff.mp hcheck
  obtain ⟨_, hlength, hcheck⟩ := ok_bind_iff.mp hcheck
  have hlength := not_not.mp (failWhen_ok_iff.mp hlength)
  have hall := List.all_eq_true.mp (not_not.mp (failWhen_ok_iff.mp hcheck))
  have hsubset : success.renditions ⊆ record.deliveredResults := by
    intro rendition hrendition
    obtain ⟨checkpoint, hget, hequal⟩ := (Option.any_eq_true _ _).mp (hall rendition hrendition)
    rw [renditionResultsEqualV2_eq (of_decide_eq_true hequal)] at hget
    exact List.mem_map.mpr ⟨_, (StringMap.mem_entries_iff record.delivered).mpr hget, rfl⟩
  have hperm : success.renditions.Perm record.deliveredResults := by
    refine (List.subperm_of_subset (List.Nodup.of_map _ (validateRenditions_names hrenditions).1)
      hsubset).perm_of_length_le ?_
    rw [WorkloadJournalV2.deliveredResults, List.length_map, hlength]
  refine ⟨hperm, ?_⟩
  have hclaimed : success.usage.units = units := not_not.mp fun hne => husage (.inr hne)
  rw [hclaimed]
  exact calculateFrameMegapixelUnitsV2_perm P.toPlatform hperm hunits

theorem reports_error {failure : ABRTerminalErrorV2} (hcheck : checkError P failure record = .ok ()) :
    (TerminalEventV2.error failure).Reports P record := by
  unfold checkError at hcheck
  obtain ⟨_, -, hcheck⟩ := ok_bind_iff.mp hcheck
  obtain ⟨units, hunits, hcheck⟩ := ok_bind_iff.mp hcheck
  have hclaimed := not_not.mp (failWhen_ok_iff.mp hcheck)
  rw [TerminalEventV2.Reports, hclaimed]
  exact mapError_ok hunits

theorem TerminalEventV2.reports {event : TerminalEventV2} (hvalid : event.Valid P)
    (hcheck : event.check P record = .ok ()) : event.Reports P record := by
  cases event with
  | result success => exact reports_result hvalid hcheck
  | error failure => exact reports_error hcheck

theorem mem_newestEvents {events : List StoredSSEEventV2} {event : StoredSSEEventV2}
    (h : event ∈ newestEvents events) : event ∈ events :=
  List.mem_of_mem_drop h

theorem pairwise_concat {sequences : List Nat} {bound last : Nat} (h : sequences.Pairwise (· < ·))
    (hbound : ∀ sequence ∈ sequences, sequence ≤ bound) (hlast : bound < last) :
    (sequences ++ [last]).Pairwise (· < ·) := by
  refine List.pairwise_append.mpr ⟨h, List.pairwise_singleton _ _, ?_⟩
  intro sequence hsequence other hother
  have hle := hbound sequence hsequence
  rw [List.mem_singleton.mp hother]
  omega

theorem WorkloadJournalV2.Sound.following (h : record.Sound P appended)
    (hlt : appended + 1 < 2 ^ 64) : record.following = (appended + 1 + 1) % 2 ^ 64 := by
  rw [WorkloadJournalV2.following, h.next, Nat.mod_eq_of_lt hlt]

theorem WorkloadJournalV2.Sound.progress (h : record.Sound P appended) (hstate : record.state = .inProgress)
    (hlt : appended + 1 < 2 ^ 64) (phase : String) (value : GoValue) :
    WorkloadJournalV2.Sound P (appended + 1)
      { record with nextSequence := record.following, phase,
                    progressEvents := newestEvents (record.progressEvents ++
                      [⟨record.nextSequence, "progress", marshal value⟩]) } := by
  have hnext : record.nextSequence = appended + 1 := by
    rw [h.next, Nat.mod_eq_of_lt hlt]
  have hterminal := h.running hstate
  have hsequences : record.sequences = record.progressEvents.map (·.sequence) := by
    rw [WorkloadJournalV2.sequences, hterminal, Option.toList_none, List.map_nil, List.append_nil]
  have hsublist : ((newestEvents (record.progressEvents ++
      [⟨record.nextSequence, "progress", marshal value⟩])).map (·.sequence)).Sublist
        (record.sequences ++ [appended + 1]) := by
    rw [hsequences, ← hnext]
    let event : StoredSSEEventV2 := ⟨record.nextSequence, "progress", marshal value⟩
    have hmap : ((newestEvents (record.progressEvents ++ [event])).map StoredSSEEventV2.sequence).Sublist
        ((record.progressEvents ++ [event]).map StoredSSEEventV2.sequence) := (List.drop_sublist _ _).map _
    rwa [List.map_append] at hmap
  have hpairwise := pairwise_concat h.ordered h.bounded (Nat.lt_succ_self appended)
  have hnew : ∀ sequences, WorkloadJournalV2.sequences
      { record with nextSequence := record.following, phase, progressEvents := sequences } =
        sequences.map (·.sequence) := by
    intro sequences
    rw [WorkloadJournalV2.sequences, hterminal, Option.toList_none, List.map_nil, List.append_nil]
  exact {
    kept := {
      version := h.kept.version
      state := h.kept.state
      nextSequence := Nat.mod_lt _ (Nat.two_pow_pos 64)
      prepared := h.kept.prepared
      delivered := h.kept.delivered
      progressEvents := by
        intro event hevent
        dsimp only at hevent
        rcases List.mem_append.mp (mem_newestEvents hevent) with hevent | hevent
        · exact h.kept.progressEvents event hevent
        · rw [List.mem_singleton.mp hevent]
          exact ⟨h.kept.nextSequence, value, rfl⟩
      terminalEvent := h.kept.terminalEvent }
    checkpoints := ⟨h.checkpoints.prepared, h.checkpoints.delivered, h.checkpoints.manifest, h.checkpoints.uri⟩
    identity := h.identity
    appended_lt := hlt
    next := h.following hlt
    running := h.running
    ended := fun hne => absurd hstate hne
    ordered := by
      rw [hnew]
      exact hpairwise.sublist hsublist
    bounded := by
      intro sequence hsequence
      rw [hnew] at hsequence
      rcases List.mem_append.mp (hsublist.subset hsequence) with hsequence | hsequence
      · exact Nat.le_succ_of_le (h.bounded sequence hsequence)
      · exact Nat.le_of_eq (List.mem_singleton.mp hsequence) }

theorem WorkloadJournalV2.Sound.finish (h : record.Sound P appended) (hstate : record.state = .inProgress)
    (hlt : appended + 1 < 2 ^ 64) {event : TerminalEventV2} (hvalid : event.Valid P)
    (hcheck : event.check P record = .ok ()) :
    WorkloadJournalV2.Sound P (appended + 1)
      { record with nextSequence := record.following, state := event.state, phase := event.state.text,
                    terminalEvent := some ⟨record.nextSequence, event.name, marshal event.value⟩ } := by
  have hnext : record.nextSequence = appended + 1 := by
    rw [h.next, Nat.mod_eq_of_lt hlt]
  obtain ⟨hended, hknown⟩ := event.state_terminal
  have hsequences : WorkloadJournalV2.sequences
      { record with nextSequence := record.following, state := event.state, phase := event.state.text,
                    terminalEvent := some ⟨record.nextSequence, event.name, marshal event.value⟩ } =
        record.sequences ++ [appended + 1] := by
    rw [WorkloadJournalV2.sequences, WorkloadJournalV2.sequences, h.running hstate, hnext]
    simp
  exact {
    kept := {
      version := h.kept.version
      state := .inr (by simpa [WorkloadJournalV2.terminal] using hknown)
      nextSequence := Nat.mod_lt _ (Nat.two_pow_pos 64)
      prepared := h.kept.prepared
      delivered := h.kept.delivered
      progressEvents := h.kept.progressEvents
      terminalEvent := by
        intro stored hstored
        cases hstored
        exact ⟨h.kept.nextSequence, event.value, rfl⟩ }
    checkpoints := ⟨h.checkpoints.prepared, h.checkpoints.delivered, h.checkpoints.manifest, h.checkpoints.uri⟩
    identity := h.identity
    appended_lt := hlt
    next := h.following hlt
    running := fun heq => absurd heq hended
    ended := fun _ => ⟨event, hvalid, rfl, by rw [hnext], by
      have hreports := TerminalEventV2.reports hvalid hcheck
      cases event <;> exact hreports⟩
    ordered := by
      rw [hsequences]
      exact pairwise_concat h.ordered h.bounded (Nat.lt_succ_self appended)
    bounded := by
      intro sequence hsequence
      rw [hsequences] at hsequence
      rcases List.mem_append.mp hsequence with hsequence | hsequence
      · exact Nat.le_succ_of_le (h.bounded sequence hsequence)
      · exact Nat.le_of_eq (List.mem_singleton.mp hsequence) }

theorem WorkloadJournalV2.Sound.checkpoint (h : record.Sound P appended) (hstate : record.state = .inProgress)
    (hkept : next.Kept) (hcheckpoints : next.Checkpoints)
    (hsame : next = { record with prepared := next.prepared, delivered := next.delivered,
                                  manifestPrepared := next.manifestPrepared,
                                  manifestDeliveredURI := next.manifestDeliveredURI }) :
    next.Sound P appended := by
  have hnextState : next.state = .inProgress := by
    rw [hsame]
    exact hstate
  have hsequences : next.sequences = record.sequences := by
    rw [hsame]
    rfl
  exact {
    kept := hkept
    checkpoints := hcheckpoints
    identity := by
      rw [hsame]
      exact h.identity
    appended_lt := h.appended_lt
    next := by
      rw [hsame]
      exact h.next
    running := by
      intro _
      rw [hsame]
      exact h.running hstate
    ended := fun hne => absurd hnextState hne
    ordered := by
      rw [hsequences]
      exact h.ordered
    bounded := by
      rw [hsequences]
      exact h.bounded }

theorem WorkloadJournalV2.Sound.move (h : record.Sound P appended)
    (hstate : record.state = .inProgress) (hlt : appended + 1 < 2 ^ 64) (hmove : JournalMove P record event next) :
    next.Sound P (appended + event.toNat) := by
  obtain ⟨hversion, hknown, hnextSequence, hprepared, hdelivered, hprogress, hterminal⟩ := h.kept
  cases hmove with
  | progress phase value => exact h.progress hstate hlt phase value
  | terminal hvalid hcheck => exact h.finish hstate hlt hvalid hcheck
  | prepared hfits hvalid hfresh =>
    refine h.checkpoint hstate ?_ (h.checkpoints.insert_prepared hvalid hfresh) rfl
    exact ⟨hversion, hknown, hnextSequence, StringMap.forall_insert hprepared hfits, hdelivered, hprogress,
      hterminal⟩
  | delivered hfits hcheckpoint hmatch =>
    refine h.checkpoint hstate ?_ (h.checkpoints.insert_delivered hcheckpoint hmatch) rfl
    exact ⟨hversion, hknown, hnextSequence, hprepared, StringMap.forall_insert hdelivered hfits, hprogress,
      hterminal⟩
  | manifestPrepared hvalid hnone =>
    refine h.checkpoint hstate ?_ ?_ rfl
    · exact ⟨hversion, hknown, hnextSequence, hprepared, hdelivered, hprogress, hterminal⟩
    · exact ⟨h.checkpoints.prepared, h.checkpoints.delivered, hvalid, fun hne => absurd hnone hne⟩
  | manifestDelivered hsome huri =>
    refine h.checkpoint hstate ?_ ?_ rfl
    · exact ⟨hversion, hknown, hnextSequence, hprepared, hdelivered, hprogress, hterminal⟩
    · exact ⟨h.checkpoints.prepared, h.checkpoints.delivered, h.checkpoints.manifest, fun _ => ⟨hsome, huri⟩⟩

end

/-! ## Runs -/

/-- The files, and how many events each journal was given. -/
structure StoreRun where
  disk : Disk
  appended : String → Nat

def StoreRun.step (P : StorePlatform) (run : StoreRun) (call : Operation × Faults) : StoreRun :=
  let saved := (call.1.perform P call.2 run.disk).saved
  { disk := run.disk.after saved
    appended := fun workloadID => run.appended workloadID +
      if call.1.isEvent ∧ saved.isSome ∧ workloadID = call.1.workloadID then 1 else 0 }

def runStore (P : StorePlatform) (calls : List (Operation × Faults)) : StoreRun :=
  calls.foldl (StoreRun.step P) ⟨.empty, fun _ => 0⟩

theorem runStore_concat (P : StorePlatform) (calls : List (Operation × Faults)) (call : Operation × Faults) :
    runStore P (calls ++ [call]) = (runStore P calls).step P call := by
  rw [runStore, List.foldl_append]
  rfl

/-- Every file holds the text of a sound journal of its own workload. -/
def StoreRun.Sound (P : StorePlatform) (run : StoreRun) : Prop :=
  ∀ workloadID, (run.disk workloadID = none ∧ run.appended workloadID = 0) ∨
    ∃ record, run.disk workloadID = encodeJournal record ∧ record.workloadID = workloadID ∧
      record.Sound P (run.appended workloadID)

section
variable {P : StorePlatform} {run : StoreRun}

theorem WorkloadJournalV2.Kept.read (h : record.Kept)
    (hfile : disk workloadID = encodeJournal record) : disk.read workloadID = some record := by
  obtain ⟨text, hencode, hdecode⟩ := h.reads
  rw [Disk.read, hfile, hencode, Option.bind_some, hdecode]

theorem StoreRun.Sound.read (h : run.Sound P)
    (hread : run.disk.read workloadID = some record) : run.disk workloadID = encodeJournal record ∧
      record.workloadID = workloadID ∧ record.Sound P (run.appended workloadID) := by
  rcases h workloadID with ⟨hnone, -⟩ | ⟨other, hfile, hid, hsound⟩
  · rw [Disk.read, hnone] at hread
    cases hread
  · rw [hsound.kept.read hfile] at hread
    cases hread
    exact ⟨hfile, hid, hsound⟩

theorem nextSequence_of_valid (h : validateJournalLocked record = .ok ()) :
    record.nextSequence ≠ 0 := by
  unfold validateJournalLocked at h
  obtain ⟨_, hnext, -⟩ := ok_bind_iff.mp h
  exact deny_ok_iff.mp hnext

theorem WorkloadJournalV2.Sound.room {appended : Nat}
    (h : record.Sound P appended) (hvalid : validateJournalLocked record = .ok ()) : appended + 1 < 2 ^ 64 := by
  have hnext := nextSequence_of_valid hvalid
  have hlt := h.appended_lt
  rw [h.next] at hnext
  omega

theorem StoreRun.Sound.placed (h : run.Sound P) (hplaced : Placed P run.disk workloadID event next) :
    next.workloadID = workloadID ∧ next.Sound P (run.appended workloadID + event.toNat) := by
  cases hplaced with
  | created hid hsha hnone =>
    rcases h workloadID with ⟨-, hzero⟩ | ⟨record, hfile, -, hsound⟩
    · rw [hzero]
      exact ⟨rfl, freshJournal_sound hid hsha⟩
    · obtain ⟨text, hencode, -⟩ := hsound.kept.reads
      rw [hfile, hencode] at hnone
      cases hnone
  | moved hload hstate hmove =>
    obtain ⟨hread, hid, -, -, hvalid⟩ := loadLocked_ok hload
    obtain ⟨-, -, hsound⟩ := h.read hread
    have hnext := hsound.move hstate (hsound.room hvalid) hmove
    refine ⟨?_, hnext⟩
    cases hmove <;> exact hid

theorem Disk.after_self (disk : Disk) (h : record.Kept) :
    disk.after (some record) record.workloadID = encodeJournal record := by
  obtain ⟨text, hencode, -⟩ := h.reads
  simp only [Disk.after, hencode, Disk.write, if_true]

theorem Disk.after_other (disk : Disk)
    (h : workloadID ≠ record.workloadID) : disk.after (some record) workloadID = disk workloadID := by
  cases hencode : encodeJournal record with
  | none => simp only [Disk.after, hencode]
  | some text => simp only [Disk.after, hencode, Disk.write, if_neg h]

variable {call : Operation × Faults} {faults : Faults}

theorem StoreRun.Sound.step (h : run.Sound P) (hfits : call.1.Fits) : (run.step P call).Sound P := by
  intro workloadID
  unfold StoreRun.step
  cases hsaved : (call.1.perform P call.2 run.disk).saved with
  | none =>
    simp only [Option.isSome_none, Bool.false_eq_true, false_and, and_false, if_false, Nat.add_zero]
    exact h workloadID
  | some next =>
    obtain ⟨hid, hsound⟩ := h.placed (call.1.perform_saved hfits hsaved)
    by_cases hsame : workloadID = call.1.workloadID
    · subst hsame
      refine .inr ⟨next, ?_, hid, ?_⟩
      · rw [← hid]
        exact run.disk.after_self hsound.kept
      · simpa [Bool.toNat, Bool.cond_eq_ite] using hsound
    · have hother : run.disk.after (some next) workloadID = run.disk workloadID :=
        run.disk.after_other (hid ▸ hsame)
      simp only [hsame, and_false, if_false, Nat.add_zero, hother]
      exact h workloadID

theorem runStore_sound {calls : List (Operation × Faults)} (hfits : ∀ call ∈ calls, call.1.Fits) :
    (runStore P calls).Sound P := by
  induction calls using List.reverseRecOn with
  | nil => exact fun _ => .inl ⟨rfl, rfl⟩
  | append_singleton calls call ih =>
    rw [runStore_concat]
    have hbefore := ih fun other hother => hfits other (List.mem_append_left _ hother)
    exact hbefore.step (hfits call (List.mem_append_right _ (List.mem_singleton_self call)))

theorem StoreRun.Sound.replaced (h : run.Sound P) (hplaced : Placed P run.disk workloadID event next)
    (hread : run.disk.read workloadID = some record) : record.state = .inProgress := by
  obtain ⟨hfile, -, hsound⟩ := h.read hread
  cases hplaced with
  | created hpattern hsha hnone =>
    obtain ⟨text, hencode, -⟩ := hsound.kept.reads
    rw [hfile, hencode] at hnone
    cases hnone
  | moved hload hstate hmove =>
    obtain ⟨hloaded, -⟩ := loadLocked_ok hload
    rw [hread] at hloaded
    cases hloaded
    exact hstate

theorem StoreRun.step_disk (run : StoreRun) (call : Operation × Faults) :
    (run.step P call).disk = run.disk.after (call.1.perform P call.2 run.disk).saved := rfl

theorem StoreRun.Sound.terminal_stays (h : run.Sound P) (hfits : call.1.Fits)
    (hread : run.disk.read workloadID = some record)
    (hterminal : record.terminal = true) : (run.step P call).disk.read workloadID = some record := by
  rw [StoreRun.step_disk]
  cases hsaved : (call.1.perform P call.2 run.disk).saved with
  | none => exact hread
  | some next =>
    have hplaced := call.1.perform_saved hfits hsaved
    have hid := (h.placed hplaced).1
    have hne : workloadID ≠ call.1.workloadID := by
      intro hsame
      subst hsame
      exact (h.read hread).2.2.terminal_iff.mp hterminal (h.replaced hplaced hread)
    rw [Disk.read, run.disk.after_other (hid ▸ hne)]
    exact hread

theorem saveLocked_ok {answer answer' : α} (h : (saveLocked faults record answer).answer = .ok answer') :
    (saveLocked faults record answer).saved = some record := by
  unfold saveLocked at h ⊢
  split at h
  · cases h
  · rfl
  · cases h
  · cases h

theorem saveLocked_answer {answer answer' : α}
    (h : (saveLocked faults record answer).answer = .ok answer') : answer' = answer := by
  unfold saveLocked at h
  split at h
  · cases h
  · cases h
    rfl
  · cases h
  · cases h

theorem mutate_ok {change : WorkloadJournalV2 → Except StoreError (WorkloadJournalV2 × α)} {answer : α}
    (h : (mutate P faults disk workloadID change).answer = .ok answer) :
    (mutate P faults disk workloadID change).saved ≠ none := by
  unfold mutate at h ⊢
  split at h
  · cases h
  · split at h
    · cases h
    · rw [saveLocked_ok h]
      exact nofun

theorem Operation.perform_ok {op : Operation} {answer : op.Answer}
    (h : (op.perform P faults disk).answer = .ok answer) : (op.perform P faults disk).saved ≠ none ∨
      ∃ record, loadLocked P faults disk op.workloadID = .ok record := by
  cases op with
  | loadOrCreate workloadID requestSHA256 =>
    simp only [perform, AbrRunner.loadOrCreate] at h ⊢
    split at h
    · cases h
    · rename_i hidentity
      rw [if_neg hidentity]
      split at h
      · rw [saveLocked_ok h]
        exact .inl (Option.some_ne_none _)
      · cases h
      · rename_i record hload
        exact .inr ⟨record, hload⟩
  | load workloadID =>
    obtain ⟨record, hload, -⟩ := map_ok h
    exact .inr ⟨record, hload⟩
  | appendProgress workloadID phase progress rendition frames => exact .inl (mutate_ok h)
  | savePrepared workloadID prepared => exact .inl (mutate_ok h)
  | saveDelivered workloadID result => exact .inl (mutate_ok h)
  | savePreparedManifest workloadID prepared => exact .inl (mutate_ok h)
  | saveDeliveredManifest workloadID artifactURI => exact .inl (mutate_ok h)
  | recordTerminalResult workloadID result =>
    simp only [perform, AbrRunner.recordTerminalResult] at h ⊢
    split at h
    · cases h
    · exact .inl (mutate_ok h)
  | recordTerminalError workloadID result =>
    simp only [perform, AbrRunner.recordTerminalError] at h ⊢
    split at h
    · cases h
    · exact .inl (mutate_ok h)

theorem StoreRun.Sound.puts (h : run.Sound P) (hfits : call.1.Fits)
    (hsaved : (call.1.perform P call.2 run.disk).saved = some next) :
    (run.step P call).disk.read call.1.workloadID = some next ∧
      (run.step P call).appended call.1.workloadID = run.appended call.1.workloadID + call.1.isEvent.toNat := by
  obtain ⟨hid, hsound⟩ := h.placed (call.1.perform_saved hfits hsaved)
  refine ⟨?_, ?_⟩
  · rw [StoreRun.step_disk, hsaved]
    refine hsound.kept.read ?_
    rw [← hid]
    exact run.disk.after_self hsound.kept
  · simp [StoreRun.step, hsaved, Bool.toNat, Bool.cond_eq_ite]

theorem StoreRun.Sound.read_after (h : run.Sound P) (hfits : call.1.Fits)
    {answer : call.1.Answer} (hok : (call.1.perform P call.2 run.disk).answer = .ok answer) :
    ∃ record, (run.step P call).disk.read call.1.workloadID = some record := by
  cases hsaved : (call.1.perform P call.2 run.disk).saved with
  | none =>
    rcases Operation.perform_ok hok with hsome | ⟨record, hload⟩
    · exact absurd hsaved hsome
    · refine ⟨record, ?_⟩
      rw [StoreRun.step_disk, hsaved]
      exact (loadLocked_ok hload).1
  | some next => exact ⟨next, (h.puts hfits hsaved).1⟩

theorem WorkloadJournalV2.Checkpoints.prepared_of_delivered
    (h : record.Checkpoints) (hresult : result ∈ record.deliveredResults) :
    ∃ prepared, record.prepared.get? result.name = some prepared ∧ prepared.name = result.name ∧
      prepared.fileSizeBytes = result.fileSizeBytes ∧ prepared.video = result.video := by
  obtain ⟨entry, hentry, rfl⟩ := List.mem_map.mp hresult
  have hvalid := h.delivered entry hentry
  unfold deliveredEntryValid at hvalid
  split at hvalid
  · cases hvalid
  · rename_i prepared hprepared
    obtain ⟨hname, hmatch⟩ := of_decide_eq_true hvalid
    exact ⟨prepared, hname ▸ hprepared, hmatch⟩

end

/-! ## Runs without faults -/

def noFaults : Faults := ⟨none, .done⟩

section
variable {P : StorePlatform} {run : StoreRun}

theorem StoreRun.Sound.loads (h : run.Sound P)
    (hread : run.disk.read workloadID = some record) (hroom : run.appended workloadID + 1 < 2 ^ 64) :
    loadLocked P noFaults run.disk workloadID = .ok record := by
  obtain ⟨hfile, hid, hsound⟩ := h.read hread
  obtain ⟨text, hencode, hdecode⟩ := hsound.kept.reads
  have hvalid := hsound.valid hroom
  have hpattern : ¬ ¬ opaqueIDPattern workloadID = true := by
    rw [← hid]
    exact not_not.mpr hsound.identity.1
  have hidentity : ¬ (record.version ≠ workloadJournalVersionV2 ∨ record.workloadID ≠ workloadID ∨
      ¬ workIDPattern record.requestSHA256 = true) := by
    rintro (hne | hne | hne)
    · exact hne hsound.kept.version
    · exact hne hid
    · exact hne hsound.identity.2
  refine ok_bind_iff.mpr ⟨(), failWhen_ok_iff.mpr hpattern, ?_⟩
  simp only [noFaults, hfile, hencode, hdecode]
  refine ok_bind_iff.mpr ⟨(), failWhen_ok_iff.mpr hidentity, ?_⟩
  rw [hvalid]

theorem saveLocked_noFaults (h : record.Kept) (answer : α) :
    saveLocked noFaults record answer = ⟨.ok answer, some record⟩ := by
  obtain ⟨text, hencode, -⟩ := h.reads
  simp only [saveLocked, hencode, noFaults]

theorem StoreRun.Sound.mutates (h : run.Sound P) {answer : α}
    {change : WorkloadJournalV2 → Except StoreError (WorkloadJournalV2 × α)}
    (hread : run.disk.read workloadID = some record) (hroom : run.appended workloadID + 1 < 2 ^ 64)
    (hchange : change record = .ok (next, answer)) (hstate : record.state = .inProgress)
    (hmove : JournalMove P record event next) :
    mutate P noFaults run.disk workloadID change = ⟨.ok answer, some next⟩ := by
  obtain ⟨-, -, hsound⟩ := h.read hread
  have hkept := (hsound.move hstate hroom hmove).kept
  simp only [mutate, h.loads hread hroom, hchange, saveLocked_noFaults hkept]

end

def samplePlatform : StorePlatform where
  parseURL _ := none
  quote := id
  formatFloat _ := decimalLiteral 0

def sampleSHA256 : String := "0000000000000000000000000000000000000000000000000000000000000000"

def sampleCreate : Operation × Faults := (.loadOrCreate "workload" sampleSHA256, noFaults)

theorem one_representable : ∀ x ∈ some (1 : ℚ), Binary64.Representable x := by
  intro x hx
  cases hx
  have hone := Binary64.round_two_pow (n := 0) (by decide)
  simpa [Binary64.Representable] using hone

def samplePercent : Binary64.Number := ⟨some 1, one_representable⟩

def sampleProgress : Operation := .appendProgress "workload" "encoding" samplePercent "" 0

def sampleFailure : ABRTerminalErrorV2 :=
  { schema := abrResultSchemaV2, workloadID := "workload", requestSHA256 := sampleSHA256,
    outcome := "failed", error := ⟨"execution_failed", "ABR execution failed", true⟩,
    usage := ⟨abrWorkUnitV2, 0⟩ }

theorem sampleCreate_creates : (runStore samplePlatform [sampleCreate]).disk.read "workload" =
    some (freshJournal "workload" sampleSHA256) ∧
      (runStore samplePlatform [sampleCreate]).appended "workload" = 0 :=
  ⟨by decide +kernel, rfl⟩

theorem samplePercent_valid {progress : ABRProgressV2} (hschema : progress.schema = abrProgressSchemaV2)
    (hid : opaqueIDPattern progress.workloadID = true) (hsha : workIDPattern progress.requestSHA256 = true)
    (hsequence : progress.sequence ≠ 0) (hphase : progress.phase = "encoding")
    (hpercent : progress.overallProgress = samplePercent) :
    validateABRProgressV2 samplePlatform progress = .ok () := by
  refine ok_bind_iff.mpr ⟨(), deny_ok_iff.mpr (not_not.mpr hschema), ?_⟩
  refine ok_bind_iff.mpr ⟨(), deny_ok_iff.mpr ?_, ?_⟩
  · simp [hid, hsha]
  refine ok_bind_iff.mpr ⟨(), deny_ok_iff.mpr hsequence, ?_⟩
  refine ok_bind_iff.mpr ⟨(), deny_ok_iff.mpr ?_, ?_⟩
  · rw [hphase]
    decide
  refine deny_ok_iff.mpr ?_
  rw [hpercent]
  simp [samplePercent]

theorem sampleProgress_performs {run : StoreRun} (h : run.Sound samplePlatform)
    (hread : run.disk.read "workload" = some record) (hstate : record.state = .inProgress)
    (hroom : run.appended "workload" + 1 < 2 ^ 64) :
    ∃ event next, sampleProgress.perform samplePlatform noFaults run.disk = ⟨.ok event, some next⟩ ∧
      next.state = .inProgress := by
  obtain ⟨-, hid, hsound⟩ := h.read hread
  have hsequence : record.nextSequence ≠ 0 := by
    rw [hsound.next]
    omega
  let progress : ABRProgressV2 :=
    { schema := abrProgressSchemaV2, workloadID := record.workloadID, requestSHA256 := record.requestSHA256,
      sequence := record.nextSequence, phase := "encoding", overallProgress := samplePercent, rendition := "",
      frames := 0 }
  have hvalid : validateABRProgressV2 samplePlatform progress = .ok () :=
    samplePercent_valid rfl hsound.identity.1 hsound.identity.2 hsequence rfl rfl
  obtain ⟨value, hvalue⟩ : ∃ value, progress.value samplePlatform.formatFloat = some value := ⟨_, rfl⟩
  let event : StoredSSEEventV2 := ⟨record.nextSequence, "progress", marshal value⟩
  let next : WorkloadJournalV2 :=
    { record with nextSequence := record.following, phase := "encoding",
                  progressEvents := newestEvents (record.progressEvents ++ [event]) }
  have hchange : progressChange samplePlatform "encoding" samplePercent "" 0 record = .ok (next, event) := by
    refine ok_bind_iff.mpr ⟨(), failWhen_ok_iff.mpr (not_not.mpr hstate), ?_⟩
    refine ok_bind_iff.mpr ⟨(), ?_, ?_⟩
    · rw [hvalid]
      rfl
    · rw [hvalue]
  exact ⟨event, next, h.mutates hread hroom hchange hstate (.progress "encoding" value rfl hvalue), hstate⟩

/-- Whatever was called before, an operation that succeeds leaves a journal whose delivered
renditions agree with their checkpoints, whose terminal event reports exactly those and
their units, and whose events are in order; it passes its own check until it has been given
`2 ^ 64 - 1` events. A terminal journal stays as it is. -/
theorem journal_store_sound (P : StorePlatform) (calls : List (Operation × Faults))
    (hfits : ∀ call ∈ calls, call.1.Fits) (op : Operation) (hop : op.Fits) (faults : Faults) :
    (∀ workloadID record, (runStore P calls).disk.read workloadID = some record → record.terminal = true →
      (runStore P (calls ++ [(op, faults)])).disk.read workloadID = some record) ∧
    ∀ answer, (op.perform P faults (runStore P calls).disk).answer = .ok answer →
      ∃ record, (runStore P (calls ++ [(op, faults)])).disk.read op.workloadID = some record ∧
        ((runStore P (calls ++ [(op, faults)])).appended op.workloadID < 2 ^ 64 - 1 →
          validateJournalLocked record = .ok ()) ∧
        (∀ result ∈ record.deliveredResults, ∃ prepared, record.prepared.get? result.name = some prepared ∧
          prepared.name = result.name ∧ prepared.fileSizeBytes = result.fileSizeBytes ∧
          prepared.video = result.video) ∧
        (record.state = .succeeded → ∃ success sequence,
          record.terminalEvent = some ⟨sequence, "result", marshal (ABRTerminalResultV2.value success)⟩ ∧
          success.renditions.Perm record.deliveredResults ∧
          calculateFrameMegapixelUnitsV2 P.toPlatform record.deliveredResults = .ok success.usage.units) ∧
        (record.state = .failed → ∃ failure sequence,
          record.terminalEvent = some ⟨sequence, "error", marshal (ABRTerminalErrorV2.value failure)⟩ ∧
          calculateFrameMegapixelUnitsV2 P.toPlatform record.deliveredResults = .ok failure.usage.units) ∧
        record.sequences.Pairwise (· < ·) := by
  have hbefore := runStore_sound (P := P) hfits
  rw [runStore_concat]
  refine ⟨fun workloadID record => hbefore.terminal_stays hop, ?_⟩
  intro answer hok
  have hafter : ((runStore P calls).step P (op, faults)).Sound P := hbefore.step hop
  obtain ⟨record, hread⟩ : ∃ record,
      ((runStore P calls).step P (op, faults)).disk.read op.workloadID = some record := hbefore.read_after hop hok
  obtain ⟨-, -, hsound⟩ := hafter.read hread
  refine ⟨record, hread, fun hlt => hsound.valid (by omega), fun result => hsound.checkpoints.prepared_of_delivered,
    ?_, ?_, hsound.ordered⟩
  · intro hstate
    obtain ⟨event, -, hsame, hevent, hreports⟩ := hsound.ended (by rw [hstate]; exact nofun)
    cases event with
    | result success => exact ⟨success, _, hevent, hreports⟩
    | error failure =>
      rw [hstate] at hsame
      cases hsame
  · intro hstate
    obtain ⟨event, -, hsame, hevent, hreports⟩ := hsound.ended (by rw [hstate]; exact nofun)
    cases event with
    | result success =>
      rw [hstate] at hsame
      cases hsame
    | error failure => exact ⟨failure, _, hevent, hreports⟩

theorem sampleFailure_valid : validateABRTerminalErrorV2 sampleFailure = .ok () := by decide +kernel

def sampleEnd : StoredSSEEventV2 := ⟨1, "error", marshal sampleFailure.value⟩

theorem journal_store_sound_sample : (∀ call ∈ [sampleCreate], call.1.Fits) ∧
    (Operation.recordTerminalError "workload" sampleFailure).Fits ∧
    ∃ answer, ((Operation.recordTerminalError "workload" sampleFailure).perform samplePlatform noFaults
        (runStore samplePlatform [sampleCreate]).disk).answer = .ok answer ∧
      ∃ record, (runStore samplePlatform ([sampleCreate] ++
          [(Operation.recordTerminalError "workload" sampleFailure, noFaults)])).disk.read "workload" =
            some record ∧ record.sequences.Pairwise (· < ·) := by
  have hfits : ∀ call ∈ [sampleCreate], call.1.Fits := by
    intro call hcall
    rw [List.mem_singleton.mp hcall]
    trivial
  have hanswer : ((Operation.recordTerminalError "workload" sampleFailure).perform samplePlatform noFaults
      (runStore samplePlatform [sampleCreate]).disk).answer = .ok sampleEnd := by decide +kernel
  obtain ⟨-, hafter⟩ := journal_store_sound samplePlatform [sampleCreate] hfits
    (.recordTerminalError "workload" sampleFailure) trivial noFaults
  obtain ⟨record, hrecord, -, -, -, -, hordered⟩ := hafter sampleEnd hanswer
  exact ⟨hfits, trivial, sampleEnd, hanswer, record, hrecord, hordered⟩

def progressCalls (n : Nat) : List (Operation × Faults) :=
  sampleCreate :: List.replicate n (sampleProgress, noFaults)

theorem sampleProgress_fits : (sampleProgress, noFaults).1.Fits := trivial

theorem progressCalls_fit (n : Nat) : ∀ call ∈ progressCalls n, call.1.Fits := by
  intro call hcall
  rcases List.mem_cons.mp hcall with rfl | hcall
  · trivial
  · rw [List.eq_of_mem_replicate hcall]
    trivial

theorem progressCalls_succ (n : Nat) :
    progressCalls (n + 1) = progressCalls n ++ [(sampleProgress, noFaults)] := by
  rw [progressCalls, List.replicate_succ']
  rfl

theorem progressCalls_run (n : Nat) (h : n + 1 < 2 ^ 64) :
    (runStore samplePlatform (progressCalls n)).appended "workload" = n ∧
    ∃ record, (runStore samplePlatform (progressCalls n)).disk.read "workload" = some record ∧
      record.state = .inProgress := by
  induction n with
  | zero =>
    obtain ⟨hread, hcount⟩ := sampleCreate_creates
    exact ⟨hcount, _, hread, rfl⟩
  | succ n ih =>
    obtain ⟨hcount, record, hread, hstate⟩ := ih (by omega)
    have hsound := runStore_sound (P := samplePlatform) (progressCalls_fit n)
    obtain ⟨event, next, hperform, hnext⟩ := sampleProgress_performs hsound hread hstate (by omega)
    obtain ⟨hread, hcount'⟩ := hsound.puts sampleProgress_fits (congrArg Outcome.saved hperform)
    rw [progressCalls_succ, runStore_concat]
    exact ⟨hcount'.trans (congrArg (· + 1) hcount), next, hread, hnext⟩

/-- The event after `2 ^ 64 - 2` others is recorded, and leaves a journal that its own check
refuses: the next sequence number has wrapped around. -/
theorem progressCalls_wrap {n : Nat} (hn : n + 2 = 2 ^ 64) :
    (∃ event, (sampleProgress.perform samplePlatform noFaults
      (runStore samplePlatform (progressCalls n)).disk).answer = .ok event) ∧
    ∃ record, (runStore samplePlatform (progressCalls n ++ [(sampleProgress, noFaults)])).disk.read
      "workload" = some record ∧
      validateJournalLocked record = .error "next event sequence must be positive" := by
  obtain ⟨hcount, record, hread, hstate⟩ := progressCalls_run n (by omega)
  have hsound := runStore_sound (P := samplePlatform) (progressCalls_fit n)
  obtain ⟨event, next, hperform, -⟩ := sampleProgress_performs hsound hread hstate (by omega)
  obtain ⟨hread, hcount'⟩ := hsound.puts sampleProgress_fits (congrArg Outcome.saved hperform)
  obtain ⟨-, -, hnext⟩ := (hsound.step sampleProgress_fits).read hread
  refine ⟨⟨event, congrArg Outcome.answer hperform⟩, next, ?_, ?_⟩
  · rw [runStore_concat]
    exact hread
  · have hzero : next.nextSequence = 0 := by
      rw [hnext.next, hcount']
      change ((runStore samplePlatform (progressCalls n)).appended "workload" + 1 + 1) % 2 ^ 64 = 0
      rw [hcount, show n + 1 + 1 = 2 ^ 64 by omega, Nat.mod_self]
    rw [validateJournalLocked, hzero]
    rfl

theorem journal_wraps :
    (∀ call ∈ progressCalls (2 ^ 64 - 2), call.1.Fits) ∧ sampleProgress.Fits ∧
    (runStore samplePlatform (progressCalls (2 ^ 64 - 2))).appended "workload" < 2 ^ 64 - 1 ∧
    (∃ event, (sampleProgress.perform samplePlatform noFaults
      (runStore samplePlatform (progressCalls (2 ^ 64 - 2))).disk).answer = .ok event) ∧
    ∃ record, (runStore samplePlatform (progressCalls (2 ^ 64 - 2) ++ [(sampleProgress, noFaults)])).disk.read
      "workload" = some record ∧
      validateJournalLocked record = .error "next event sequence must be positive" := by
  obtain ⟨hok, hwrap⟩ := progressCalls_wrap (n := 2 ^ 64 - 2) (by omega)
  refine ⟨progressCalls_fit _, sampleProgress_fits, ?_, hok, hwrap⟩
  rw [(progressCalls_run (2 ^ 64 - 2) (by omega)).1]
  omega

end LivepeerTranscode.AbrRunner
