import LivepeerTranscode.LiveRunner.Runs

/-!
# The history of a session's outbox

Two histories are read off the log of store calls: every event ever appended, and
every event acknowledged or parked. `Delivered` relates both to the ledger they led
to; it is kept by every move a store method can make.
-/

namespace LivepeerTranscode.LiveRunner
open Interaction
set_option autoImplicit false

variable {event : RunnerEventV1} {rest : List RunnerEventV1} {a b : RunnerEventV1}

/-- What a removal took off: the events under the id it names, once none is left. -/
def takenOff (eventID : String) (before after : List RunnerEventV1) : List RunnerEventV1 :=
  if after.any (fun event => event.eventID == eventID) then []
  else before.filter fun event => event.eventID == eventID

def Entry.removed (entry : Entry) (id : String) : List RunnerEventV1 :=
  match entry.call.removes with
  | none => []
  | some eventID =>
    if entry.call.session = some id then
      takenOff eventID (pendingAt entry.before id) (pendingAt entry.after id)
    else []

def removedEvents (log : List Entry) (id : String) : List RunnerEventV1 :=
  log.flatMap fun entry => entry.removed id

@[simp] theorem removedEvents_append (log : List Entry) (entry : Entry) (id : String) :
    removedEvents (log ++ [entry]) id = removedEvents log id ++ entry.removed id := by
  simp [removedEvents]

theorem eventIDFor_injective {runnerSessionID : String} {m n : Nat}
    (h : eventIDFor runnerSessionID m = eventIDFor runnerSessionID n) : m = n := by
  have hrepr : Nat.repr m = Nat.repr n := String.append_right_inj _ |>.mp h
  have hdigits : Nat.toDigits 10 m = Nat.toDigits 10 n := by
    have := congrArg String.toList hrepr
    simpa only [Nat.toList_repr] using this
  rw [← Nat.ofDigitChars_ten_toDigits (n := m), hdigits, Nat.ofDigitChars_ten_toDigits]

theorem takenOff_of_grown {eventID : String} {before after : List RunnerEventV1}
    (h : before <+: after) : takenOff eventID before after = [] := by
  unfold takenOff
  split
  · rfl
  · rename_i hnone
    apply List.filter_eq_nil_iff.mpr
    intro event hmem hid
    exact hnone (List.any_eq_true.mpr ⟨event, h.subset hmem, hid⟩)

theorem takenOff_head (h : ∀ other ∈ rest, other.eventID ≠ event.eventID) :
    takenOff event.eventID (event :: rest) rest = [event] := by
  have hnone : rest.any (fun other => other.eventID == event.eventID) = false := by
    simpa using h
  have hfilter : rest.filter (fun other => other.eventID == event.eventID) = [] := by
    simpa [List.filter_eq_nil_iff] using h
  simp [takenOff, hnone, hfilter]

def UsageLe (a b : RunnerEventV1) : Prop :=
  ∀ u ∈ a.usage, ∀ v ∈ b.usage, u.total ≤ v.total

/-- A ledger and the two histories that led to it. -/
structure Delivered (l : Ledger) (appended removed : List RunnerEventV1) : Prop where
  split : appended = removed ++ l.pendingEvents
  increasing : appended.Pairwise fun a b => a.sequence < b.sequence
  positive : ∀ event ∈ appended, 0 < event.sequence
  bounded : ∀ event ∈ appended, event.sequence ≤ l.lastSequence
  named : ∀ event ∈ appended, event.eventID = eventIDFor l.runnerSessionID event.sequence
  usage : appended.Pairwise UsageLe
  used : ∀ event ∈ appended, ∀ u ∈ event.usage, u.total ≤ l.usageTotal
  secrets : l.hasSecrets = false → l.state ≠ .active ∧ l.pendingEvents = []

namespace Delivered
variable {l l' : Ledger} {appended removed : List RunnerEventV1}

theorem eq_of_eventID (h : Delivered l appended removed) (ha : a ∈ appended)
    (hb : b ∈ appended) (hid : a.eventID = b.eventID) : a = b := by
  rw [h.named a ha, h.named b hb] at hid
  have hnodup : (appended.map RunnerEventV1.sequence).Nodup :=
    List.pairwise_map.mpr (h.increasing.imp Nat.ne_of_lt)
  exact List.inj_on_of_nodup_map hnodup ha hb (eventIDFor_injective hid)

theorem of_eq (h : Delivered l appended removed) (hpending : l'.pendingEvents = l.pendingEvents)
    (hsequence : l'.lastSequence = l.lastSequence) (hrunner : l'.runnerSessionID = l.runnerSessionID)
    (husage : l'.usageTotal = l.usageTotal)
    (hsecrets : l'.hasSecrets = false → l'.state ≠ .active ∧ l'.pendingEvents = []) :
    Delivered l' appended removed := by
  refine ⟨?_, h.increasing, h.positive, ?_, ?_, h.usage, ?_, hsecrets⟩
  · rw [hpending]
    exact h.split
  · rw [hsequence]
    exact h.bounded
  · rw [hrunner]
    exact h.named
  · rw [husage]
    exact h.used

theorem append (h : Delivered l appended removed) (hpending : l'.pendingEvents = l.pendingEvents ++ [event])
    (hsequence : l'.lastSequence = event.sequence) (hlater : l.lastSequence < event.sequence)
    (hrunner : l'.runnerSessionID = l.runnerSessionID)
    (hnamed : event.eventID = eventIDFor l.runnerSessionID event.sequence)
    (husage : ∀ u ∈ event.usage, u.total ≤ l'.usageTotal ∧ (0 < l.lastSequence → l.usageTotal ≤ u.total))
    (htotal : 0 < l.lastSequence → l.usageTotal ≤ l'.usageTotal)
    (hactive : l.state = .active) (hsecrets : l'.hasSecrets = l.hasSecrets) :
    Delivered l' (appended ++ [event]) removed := by
  have hstarted : ∀ other ∈ appended, 0 < l.lastSequence := by
    intro other hother
    have := h.positive other hother
    have := h.bounded other hother
    omega
  refine ⟨?_, ?_, ?_, ?_, ?_, ?_, ?_, ?_⟩
  · rw [hpending, h.split, List.append_assoc]
  · refine List.pairwise_append.mpr ⟨h.increasing, List.pairwise_singleton _ _, ?_⟩
    intro other hother last hlast
    have := h.bounded other hother
    rw [List.mem_singleton.mp hlast]
    omega
  · intro other hother
    rcases List.mem_append.mp hother with hother | hother
    · exact h.positive other hother
    · rw [List.mem_singleton.mp hother]
      omega
  · intro other hother
    rw [hsequence]
    rcases List.mem_append.mp hother with hother | hother
    · have := h.bounded other hother
      omega
    · rw [List.mem_singleton.mp hother]
  · intro other hother
    rw [hrunner]
    rcases List.mem_append.mp hother with hother | hother
    · exact h.named other hother
    · rw [List.mem_singleton.mp hother]
      exact hnamed
  · refine List.pairwise_append.mpr ⟨h.usage, List.pairwise_singleton _ _, ?_⟩
    intro other hother last hlast u hu v hv
    rw [List.mem_singleton.mp hlast] at hv
    have hold := h.used other hother u hu
    have hnew := (husage v hv).2 (hstarted other hother)
    omega
  · intro other hother u hu
    rcases List.mem_append.mp hother with hother | hother
    · have hold := h.used other hother u hu
      have hgrown := htotal (hstarted other hother)
      omega
    · rw [List.mem_singleton.mp hother] at hu
      exact (husage u hu).1
  · intro hgone
    rw [hsecrets] at hgone
    exact absurd hactive (h.secrets hgone).1

theorem apart (h : Delivered l appended removed) (ha : a ∈ appended)
    (hb : b ∈ appended) (hless : a.sequence < b.sequence) : a.eventID ≠ b.eventID := by
  intro hid
  have heq := h.eq_of_eventID ha hb hid
  rw [heq] at hless
  exact lt_irrefl _ hless

theorem removed_ne (h : Delivered l appended removed) (ha : a ∈ removed)
    (hb : b ∈ l.pendingEvents) : a.eventID ≠ b.eventID := by
  have hsplit := h.split
  refine h.apart (hsplit ▸ List.mem_append_left _ ha) (hsplit ▸ List.mem_append_right _ hb) ?_
  exact (List.pairwise_append.mp (hsplit ▸ h.increasing)).2.2 a ha b hb

theorem takenOff_eq (h : Delivered l appended removed) (hpending : l.pendingEvents = event :: rest) :
    takenOff event.eventID l.pendingEvents rest = [event] := by
  have hsplit := h.split
  rw [hpending] at hsplit ⊢
  have hmem : ∀ other ∈ event :: rest, other ∈ appended :=
    fun other hother => hsplit ▸ List.mem_append_right removed hother
  have hlater := (List.pairwise_cons.mp (List.pairwise_append.mp (hsplit ▸ h.increasing)).2.1).1
  refine takenOff_head fun other hother => ?_
  exact (h.apart (hmem event List.mem_cons_self) (hmem other (List.mem_cons_of_mem _ hother))
    (hlater other hother)).symm

theorem remove (h : Delivered l appended removed) (hpending : l.pendingEvents = event :: rest) :
    Delivered { l with pendingEvents := rest }
      appended (removed ++ takenOff event.eventID l.pendingEvents rest) := by
  rw [h.takenOff_eq hpending]
  refine ⟨?_, h.increasing, h.positive, h.bounded, h.named, h.usage, h.used, ?_⟩
  · rw [h.split, hpending, List.append_assoc]
    rfl
  · intro hgone
    have := (h.secrets hgone).2
    rw [hpending] at this
    cases this

end Delivered

def movedOff (call : StoreCall) (l l' : Ledger) : List RunnerEventV1 :=
  match call.removes with
  | none => []
  | some eventID => takenOff eventID l.pendingEvents l'.pendingEvents

theorem movedOff_of_grown {call : StoreCall} {l l' : Ledger} (h : l.pendingEvents <+: l'.pendingEvents) :
    movedOff call l l' = [] := by
  unfold movedOff
  split
  · rfl
  · exact takenOff_of_grown h

section
variable {P : Platform} {call : StoreCall} {l l' : Ledger} {appended removed : List RunnerEventV1}

theorem Ledger.Counted.delivered {cursor : MeterCursor} (hcounted : l.Counted cursor l')
    (hrun : l.running) (h : Delivered l appended removed) :
    Delivered l' (appended ++ l'.pendingEvents.drop l.pendingEvents.length) removed ∧
      l.pendingEvents <+: l'.pendingEvents := by
  cases hcounted with
  | quiet _ =>
    have hdrop : (l.meter cursor).pendingEvents.drop l.pendingEvents.length = [] := List.drop_length
    rw [hdrop, List.append_nil]
    exact ⟨h.of_eq rfl rfl rfl rfl h.secrets, List.prefix_refl _⟩
  | @tick event hmore hnext _ _ husage =>
    refine ⟨?_, List.prefix_append _ _⟩
    have hdrop : (((l.meter cursor).push event).setUsage
        (cursor.microseconds / 1000000)).pendingEvents.drop l.pendingEvents.length = [event] :=
      List.drop_left
    rw [hdrop]
    have hlater : l.lastSequence < event.sequence := by
      have := hnext.1
      omega
    refine h.append rfl rfl hlater rfl hnext.2 ?_ (fun _ => hmore.le) hrun.1 rfl
    intro u hu
    rw [husage] at hu
    cases hu
    exact ⟨le_refl _, fun _ => hmore.le⟩

theorem Delivered.advanced (h : Delivered l appended removed)
    (hactive : l.state = .active) (hlater : l.lastSequence < event.sequence)
    (hnamed : event.eventID = eventIDFor l.runnerSessionID event.sequence)
    (husage : 0 < l.lastSequence → ∀ usage ∈ event.usage, l.usageTotal ≤ usage.total) :
    Delivered (l.advanced event) (appended ++ [event]) removed := by
  have htotal : 0 < l.lastSequence →
      l.usageTotal ≤ (event.usage.map UsageV1.total).getD l.usageTotal := by
    intro hstarted
    cases hcarried : event.usage with
    | none => exact le_refl _
    | some usage => exact husage hstarted usage hcarried
  have hcarried : ∀ u ∈ event.usage, u.total ≤ (event.usage.map UsageV1.total).getD l.usageTotal ∧
      (0 < l.lastSequence → l.usageTotal ≤ u.total) := by
    intro u hu
    refine ⟨?_, fun hstarted => husage hstarted u hu⟩
    rw [Option.mem_def.mp hu]
    exact le_refl _
  unfold Ledger.advanced
  dsimp only
  split
  · exact h.append rfl rfl hlater rfl hnamed hcarried htotal hactive rfl
  · exact h.append rfl rfl hlater rfl hnamed hcarried htotal hactive rfl

theorem Delivered.move (h : Delivered l appended removed) (hmove : Ledger.Move P call l l') :
    Delivered l' (appended ++ l'.pendingEvents.drop l.pendingEvents.length)
      (removed ++ movedOff call l l') := by
  cases hmove with
  | keep =>
    rw [List.drop_length, List.append_nil, movedOff_of_grown (List.prefix_refl _), List.append_nil]
    exact h
  | @emit _ _ event hrun hnext _ _ husage =>
    have hdrop : (l.push event).pendingEvents.drop l.pendingEvents.length = [event] := List.drop_left
    rw [hdrop, movedOff_of_grown (List.prefix_append _ _), List.append_nil]
    have hlater : l.lastSequence < event.sequence := by
      have := hnext.1
      omega
    refine h.append rfl rfl hlater rfl hnext.2 ?_ (fun _ => le_refl _) hrun.1 rfl
    intro u hu
    have hsame := husage u hu
    exact ⟨hsame.le, fun _ => hsame.ge⟩
  | meter hrun _ _ hcounted =>
    obtain ⟨hdelivered, hgrown⟩ := hcounted.delivered hrun h
    rw [movedOff_of_grown hgrown, List.append_nil]
    exact hdelivered
  | @advance _ event _ hactive _ hnamed hlater husage =>
    rw [Ledger.advanced_pending, List.drop_left, movedOff_of_grown, List.append_nil]
    · exact h.advanced hactive hlater hnamed husage
    · rw [Ledger.advanced_pending]
      exact List.prefix_append _ _
  | stop hrun =>
    rw [List.drop_length, List.append_nil, movedOff_of_grown, List.append_nil]
    · exact h.of_eq rfl rfl rfl rfl h.secrets
    · exact List.prefix_refl _
  | @remove _ _ event rest hremoves hpending =>
    have hdrop : rest.drop l.pendingEvents.length = [] := by
      simp [hpending]
    have hoff : movedOff call l { l with pendingEvents := rest } =
        takenOff event.eventID l.pendingEvents rest := by
      simp [movedOff, hremoves]
    rw [hdrop, List.append_nil, hoff]
    exact h.remove hpending
  | forget hterminal hempty =>
    rw [List.drop_length, List.append_nil, movedOff_of_grown, List.append_nil]
    · exact h.of_eq rfl rfl rfl rfl fun _ => ⟨hterminal, hempty⟩
    · exact List.prefix_refl _

theorem Ledger.Move.erases (hmove : Ledger.Move P call l l') (hbefore : l.hasSecrets = true)
    (hafter : l'.hasSecrets = false) : l'.state ≠ .active ∧ l'.pendingEvents = [] := by
  cases hmove with
  | keep => simp [hbefore] at hafter
  | emit => simp [Ledger.push, hbefore] at hafter
  | meter _ _ _ hcounted =>
    cases hcounted <;> simp [Ledger.push, Ledger.meter, Ledger.setUsage, hbefore] at hafter
  | advance =>
    unfold Ledger.advanced at hafter
    dsimp only at hafter
    split at hafter <;> simp [Ledger.push, Ledger.setUsage, Ledger.close, hbefore] at hafter
  | stop => simp [hbefore] at hafter
  | remove => simp [hbefore] at hafter
  | forget hterminal hempty => exact ⟨hterminal, hempty⟩

theorem Ledger.Move.grows (hmove : Ledger.Move P call l l') (hcall : call.removes = none) :
    l.pendingEvents <+: l'.pendingEvents := by
  cases hmove with
  | keep => exact List.prefix_refl _
  | emit => exact List.prefix_append _ _
  | meter _ _ _ hcounted =>
    cases hcounted with
    | quiet => exact List.prefix_refl _
    | tick => exact List.prefix_append _ _
  | advance =>
    rw [Ledger.advanced_pending]
    exact List.prefix_append _ _
  | stop => exact List.prefix_refl _
  | remove hremoves => simp [hcall] at hremoves
  | forget => exact List.prefix_refl _

end

end LivepeerTranscode.LiveRunner
