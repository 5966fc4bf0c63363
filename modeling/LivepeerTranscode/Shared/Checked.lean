import Mathlib

/-!
# Fallible code with early returns

A guard fails with a given error or goes on. The lemmas take a chain of binds that
ended in a value, or in an error, apart into its steps.
-/

namespace Checked
set_option autoImplicit false

variable {ε α β : Type}

def failWhen (bad : Prop) [Decidable bad] (e : ε) : Except ε Unit :=
  if bad then .error e else .ok ()

@[simp] theorem failWhen_ok_iff {bad : Prop} [Decidable bad] {e : ε} {u : Unit} :
    failWhen bad e = .ok u ↔ ¬ bad := by
  by_cases h : bad <;> simp [failWhen, h]

@[simp] theorem failWhen_error_iff {bad : Prop} [Decidable bad] {e e' : ε} :
    failWhen bad e = .error e' ↔ bad ∧ e' = e := by
  by_cases h : bad <;> simp [failWhen, h, eq_comm]

@[simp] theorem ok_bind_iff {x : Except ε α} {f : α → Except ε β} {b : β} :
    (x >>= f) = .ok b ↔ ∃ a, x = .ok a ∧ f a = .ok b := by
  rcases x with e | a <;> simp only [bind, Except.bind, reduceCtorEq, false_and, exists_false,
    Except.ok.injEq, exists_eq_left']

theorem ok_seq_iff {x : Except ε Unit} {f : Unit → Except ε β} {b : β} :
    (x >>= f) = .ok b ↔ x = .ok () ∧ f () = .ok b := by
  rw [ok_bind_iff]
  exact ⟨fun ⟨_, hx, hf⟩ => ⟨hx, hf⟩, fun ⟨hx, hf⟩ => ⟨(), hx, hf⟩⟩

@[simp] theorem error_bind_iff {x : Except ε α} {f : α → Except ε β} {e : ε} :
    (x >>= f) = .error e ↔ x = .error e ∨ ∃ a, x = .ok a ∧ f a = .error e := by
  cases x <;> simp [bind, Except.bind]

theorem exists_error_iff {x : Except ε α} {p : Prop} {v : α} (h : ∀ a, x = .ok a ↔ p ∧ a = v) :
    (∃ e, x = .error e) ↔ ¬ p := by
  cases x with
  | error e =>
    refine ⟨fun _ hp => ?_, fun _ => ⟨e, rfl⟩⟩
    cases (h v).mpr ⟨hp, rfl⟩
  | ok a =>
    have hp : p := ((h a).mp rfl).1
    constructor
    · rintro ⟨_, herror⟩
      cases herror
    · intro hnot
      exact absurd hp hnot

theorem map_ok {x : Except ε α} {f : α → β} {b : β} (h : x.map f = .ok b) : ∃ a, x = .ok a ∧ f a = b := by
  cases x with
  | error e => cases h
  | ok a =>
    cases h
    exact ⟨a, rfl, rfl⟩

theorem mapError_ok {δ : Type} {x : Except ε α} {f : ε → δ} {a : α} (h : x.mapError f = .ok a) :
    x = .ok a := by
  cases x with
  | error e => cases h
  | ok b =>
    cases h
    rfl

/-- `a || b || …`, up to the first that holds or throws. -/
def anyOf : List (Except ε Bool) → Except ε Bool
  | [] => .ok false
  | first :: rest => do
    if ← first then return true else anyOf rest

theorem anyOf_false_iff {checks : List (Except ε Bool)} :
    anyOf checks = .ok false ↔ ∀ check ∈ checks, check = .ok false := by
  induction checks with
  | nil => simp [anyOf]
  | cons first rest ih =>
    rw [List.forall_mem_cons, ← ih]
    constructor
    · intro h
      obtain ⟨b, hfirst, hrest⟩ := ok_bind_iff.mp h
      cases b with
      | true => cases hrest
      | false => exact ⟨hfirst, hrest⟩
    · rintro ⟨rfl, hrest⟩
      exact hrest

end Checked
