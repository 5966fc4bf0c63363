import LivepeerTranscode.LiveRunner.Programs

/-!
# The calls of the runner's programs

`Within kind p` bounds the calls of a program by their kind, whatever the answers are. What a
worker's sweep and the start of a session may call is proved once and used wherever a rule for
calls allows them.
-/

namespace LivepeerTranscode.LiveRunner
open Interaction
set_option autoImplicit false

/-- Every path of a program makes calls of this kind only. -/
def Within {α : Type} (kind : Effect → Prop) (p : RunnerProg α) : Prop :=
  ∀ h, Obeys (fun _ e => kind e) (fun _ _ => True) p h

section
variable {P : Platform} {α β : Type} {kind : Effect → Prop}

theorem Within.pure (a : α) : Within kind (.pure a) := fun _ => trivial

theorem Within.call {e : Effect} {k : e.Answer → RunnerProg α} (he : kind e)
    (hk : ∀ answer, Within kind (k answer)) : Within kind (.call e k) :=
  fun _ => ⟨he, fun answer => hk answer _⟩

theorem Within.bind {p : RunnerProg α} {f : α → RunnerProg β} (hp : Within kind p)
    (hf : ∀ a, Within kind (f a)) : Within kind (p >>= f) :=
  fun h => (hp h).bind fun h' a _ => hf a h'

theorem Within.ask {call : StoreCall} (hcall : kind (.store call)) : Within kind (ask call) :=
  .call hcall fun _ => .pure _

theorem Within.mono {kind' : Effect → Prop} {p : RunnerProg α} (hp : Within kind p)
    (h : ∀ e, kind e → kind' e) : Within kind' p :=
  fun past => (hp past).mono fun _ e => h e

/-! ## Starting a session -/

/-- The calls of `EnsureSession`. -/
def Effect.ensures : Effect → Prop
  | .store (.advance _ event) =>
    event.eventType = .started ∧ event.state = .active ∧ event.usage = none
  | .admission .. | .now => True
  | _ => False

theorem ensureSession_within (record : SessionRecordV1) (secrets : SessionSecretsV1) :
    Within Effect.ensures (ensureSession P record secrets) := by
  unfold ensureSession
  split
  · exact .pure _
  · refine .bind (.call trivial fun _ => .pure _) fun admission => ?_
    cases admission with
    | refused e => exact .pure _
    | alreadyRunning => exact .pure _
    | admitted =>
      dsimp only
      split
      · refine .bind (.call trivial fun _ => .pure _) fun now => ?_
        exact .ask ⟨rfl, rfl, rfl⟩
      · exact .pure _

/-! ## Delivering callbacks -/

def Effect.delivers : Effect → Prop
  | .store (.load _) | .store .recoverable | .store (.reserveCallbackAttempt ..)
  | .store (.recordCallbackRetryFailure ..) | .store (.acknowledgeEvent ..)
  | .store (.parkCallbackRejection ..) | .store (.clearTerminalSecrets _) | .post .. | .now => True
  | _ => False

theorem deliverReserved_within (id : String) (secrets : SessionSecretsV1) (event : RunnerEventV1)
    (now : Time) : Within Effect.delivers (deliverReserved id secrets event now) := by
  unfold deliverReserved
  refine .bind (.call trivial fun _ => .pure _) fun answer => ?_
  cases answer with
  | transportError =>
    refine .bind (.ask trivial) fun result => ?_
    cases result <;> exact .pure _
  | response statusCode codes =>
    dsimp only
    split
    · refine .bind (.ask trivial) fun result => ?_
      cases result <;> exact .pure _
    · split
      · refine .bind (.ask trivial) fun result => ?_
        cases result <;> exact .pure _
      · refine .bind (.ask trivial) fun result => ?_
        cases result <;> exact .pure _

theorem deliverNext_within (id : String) : Within Effect.delivers (deliverNext P id) := by
  unfold deliverNext
  refine .bind (.ask trivial) fun result => ?_
  rcases result with e | ⟨record, secrets⟩
  · exact .pure _
  · dsimp only
    split
    · exact .pure _
    · exact .pure _
    · refine .bind (.call trivial fun _ => .pure _) fun now => ?_
      split
      · exact .pure _
      · exact .pure _
      · refine .bind (.ask trivial) fun reserved => ?_
        split
        · exact .pure _
        · exact .pure _
        · exact deliverReserved_within _ _ _ _

theorem drain_within (id : String) (count : Nat) : Within Effect.delivers (drain P id count) := by
  induction count with
  | zero => exact .pure _
  | succ count ih =>
    refine (deliverNext_within id).bind fun delivered => ?_
    split
    · exact ih
    · exact .pure _
    · exact .pure _
    · exact ih
    · exact .pure _

theorem sweepSession_within (record : SessionRecordV1) : Within Effect.delivers (sweepSession P record) := by
  refine (drain_within _ _).bind fun drained => ?_
  split
  · exact .pure _
  · refine .bind (.ask trivial) fun result => ?_
    rcases result with e | ⟨current, secrets⟩
    · exact .pure _
    · dsimp only
      split
      · refine .bind (.ask trivial) fun cleared => ?_
        cases cleared <;> exact .pure _
      · exact .pure _

theorem sweepEach_within (records : List SessionRecordV1) : Within Effect.delivers (sweepEach P records) := by
  induction records with
  | nil => exact .pure _
  | cons record rest ih =>
    refine (sweepSession_within record).bind fun swept => ?_
    split
    · exact .pure _
    · exact ih

theorem sweepOnce_within : Within Effect.delivers (sweepOnce P) := by
  refine .bind (.ask trivial) fun result => ?_
  rcases result with e | records
  · exact .pure _
  · exact sweepEach_within records

end

end LivepeerTranscode.LiveRunner
