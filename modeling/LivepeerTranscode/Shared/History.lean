import Mathlib

/-!
# Traces of a deterministic machine

A trace keeps, for each input, the state before it and the state after it. A stamp
that never goes back is left at most once at each of its values.
-/

namespace History
set_option autoImplicit false

structure Moment (σ ι : Type) where
  before : σ
  input : ι
  after : σ

section
variable {σ ι : Type} (step : σ → ι → σ)

def trace : σ → List ι → List (Moment σ ι)
  | _, [] => []
  | s, i :: rest => ⟨s, i, step s i⟩ :: trace (step s i) rest

theorem forall_mem_trace {P : Moment σ ι → Prop} (hstep : ∀ s i, P ⟨s, i, step s i⟩) :
    ∀ (inputs : List ι) (s : σ), ∀ m ∈ trace step s inputs, P m := by
  intro inputs
  induction inputs with
  | nil =>
    intro s m hm
    cases hm
  | cons i rest ih =>
    intro s m hm
    rcases List.mem_cons.mp hm with rfl | hm
    · exact hstep s i
    · exact ih (step s i) m hm

theorem trace_invariant {I : σ → Prop} {admitted : ι → Prop}
    (hstep : ∀ s i, admitted i → I s → I (step s i)) :
    ∀ (inputs : List ι) (s : σ), I s → (∀ i ∈ inputs, admitted i) →
      ∀ m ∈ trace step s inputs, I m.before ∧ admitted m.input ∧ m.after = step m.before m.input := by
  intro inputs
  induction inputs with
  | nil =>
    intro s _ _ m hm
    cases hm
  | cons i rest ih =>
    intro s hs hinputs m hm
    have hi := hinputs i List.mem_cons_self
    rcases List.mem_cons.mp hm with rfl | hm
    · exact ⟨hs, hi, rfl⟩
    · exact ih (step s i) (hstep s i hi hs) (fun j hj => hinputs j (List.mem_cons_of_mem i hj)) m hm

section Stamp
variable {τ : Type} [LinearOrder τ] (stamp : σ → τ)

/-- The stamp moves away from a value in this moment. -/
def Leaves (value : τ) (m : Moment σ ι) : Prop := stamp m.before = value ∧ value < stamp m.after

instance (value : τ) : DecidablePred (Leaves (ι := ι) stamp value) := fun _ =>
  inferInstanceAs (Decidable (_ ∧ _))

variable (hmono : ∀ s i, stamp s ≤ stamp (step s i))
include hmono

theorem not_leaves_of_lt {value : τ} :
    ∀ (inputs : List ι) (s : σ), value < stamp s →
      ∀ m ∈ trace step s inputs, ¬ Leaves stamp value m := by
  intro inputs
  induction inputs with
  | nil =>
    intro s _ m hm
    cases hm
  | cons i rest ih =>
    intro s hs m hm
    rcases List.mem_cons.mp hm with rfl | hm
    · rintro ⟨heq, -⟩
      exact absurd heq hs.ne'
    · exact ih (step s i) (hs.trans_le (hmono s i)) m hm

theorem leaves_at_most_once (value : τ) :
    ∀ (inputs : List ι) (s : σ),
      (trace step s inputs).countP (fun m => decide (Leaves stamp value m)) ≤ 1 := by
  intro inputs
  induction inputs with
  | nil =>
    intro s
    exact Nat.zero_le 1
  | cons i rest ih =>
    intro s
    by_cases hleaves : Leaves stamp value ⟨s, i, step s i⟩
    · have hlater : (trace step (step s i) rest).countP
          (fun m => decide (Leaves stamp value m)) = 0 := by
        apply List.countP_eq_zero.mpr
        intro m hm
        simpa using not_leaves_of_lt step stamp hmono rest (step s i) hleaves.2 m hm
      simp [trace, hleaves, hlater]
    · simpa [trace, hleaves] using ih (step s i)

end Stamp

end

end History
