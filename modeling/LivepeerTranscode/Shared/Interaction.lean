import Mathlib

/-!
# Programs that call an environment

`Prog E R α` is a sequential program: it either returns, or calls the
environment with an effect `e : E` and continues on whatever answer of type
`R e` comes back. Nothing is assumed about the answers, so a property of every
path of a program is a property against every behaviour of its environment.
-/

namespace Interaction
set_option autoImplicit false

inductive Prog (E : Type) (R : E → Type) (α : Type) : Type where
  | pure (value : α) : Prog E R α
  | call (effect : E) (next : R effect → Prog E R α) : Prog E R α

namespace Prog
variable {E : Type} {R : E → Type} {α β γ : Type} {p : Prog E R α}

def bind : Prog E R α → (α → Prog E R β) → Prog E R β
  | .pure a, f => f a
  | .call e k, f => .call e fun r => (k r).bind f

instance : Monad (Prog E R) where
  pure := Prog.pure
  bind := Prog.bind

def result? : Prog E R α → Option α
  | .pure a => some a
  | .call _ _ => none

theorem result?_eq_some {a : α} (h : p.result? = some a) : p = .pure a := by
  cases p with
  | pure b =>
    cases h
    rfl
  | call e k => cases h

def next? : Prog E R α → Option E
  | .pure _ => none
  | .call e _ => some e

theorem next?_eq_some {e : E} (h : p.next? = some e) : ∃ k, p = .call e k := by
  cases p with
  | pure a => cases h
  | call e k =>
    cases h
    exact ⟨k, rfl⟩

def perform (e : E) : Prog E R (R e) := .call e .pure

/-- Carry out every call by a program of another environment. -/
def handle {E' : Type} {R' : E' → Type} (f : (e : E) → Prog E' R' (R e)) : Prog E R α → Prog E' R' α
  | .pure a => .pure a
  | .call e k => (f e).bind fun r => (k r).handle f

@[simp] theorem pure_eq (a : α) : (Pure.pure a : Prog E R α) = .pure a := rfl

@[simp] theorem pure_bind (a : α) (f : α → Prog E R β) : (Prog.pure a >>= f) = f a := rfl

@[simp] theorem call_bind (e : E) (k : R e → Prog E R α) (f : α → Prog E R β) :
    (Prog.call e k >>= f) = .call e fun r => k r >>= f := rfl

@[simp] theorem perform_bind (e : E) (f : R e → Prog E R β) :
    (perform e >>= f) = .call e f := rfl

end Prog

/-- One call together with the answer it got. -/
structure Event (E : Type) (R : E → Type) where
  effect : E
  answer : R effect

/-- `Reaches p h q`: after the calls and answers `h`, oldest first, `p` has become `q`. -/
inductive Reaches {E : Type} {R : E → Type} {α : Type} :
    Prog E R α → List (Event E R) → Prog E R α → Prop where
  | refl (p : Prog E R α) : Reaches p [] p
  | step {e : E} {k : R e → Prog E R α} {h : List (Event E R)} {q : Prog E R α}
      (r : R e) : Reaches (k r) h q → Reaches (.call e k) (⟨e, r⟩ :: h) q

section Paths
variable {E : Type} {R : E → Type} {α β : Type} {p : Prog E R α} {h : List (Event E R)}

theorem Reaches.trans {q s : Prog E R α} {t : List (Event E R)} (hp : Reaches p h q)
    (hq : Reaches q t s) : Reaches p (h ++ t) s := by
  induction hp with
  | refl p => exact hq
  | step r _ ih => exact .step r (ih hq)

theorem Reaches.bind {q : Prog E R α} (f : α → Prog E R β)
    (hp : Reaches p h q) : Reaches (p >>= f) h (q >>= f) := by
  induction hp with
  | refl p => exact .refl _
  | step r _ ih => exact .step r ih

theorem Reaches.at_call {q : Prog E R α} {before after : List (Event E R)} {event : Event E R}
    (h : Reaches p (before ++ event :: after) q) : ∃ k, Reaches p before (.call event.effect k) := by
  induction before generalizing p with
  | nil =>
    cases h with
    | step r _ => exact ⟨_, .refl _⟩
  | cons first rest ih =>
    cases h with
    | step r hrest =>
      obtain ⟨k, hk⟩ := ih hrest
      exact ⟨k, .step r hk⟩

end Paths

section Responses
variable {E : Type} {R : E → Type} {α : Type} (respond : (e : E) → R e)

/-- The calls of a program in an environment that answers every call in one way. -/
def Prog.trace : Prog E R α → List (Event E R)
  | .pure _ => []
  | .call e k => ⟨e, respond e⟩ :: (k (respond e)).trace

def Prog.outcome : Prog E R α → α
  | .pure a => a
  | .call e k => (k (respond e)).outcome

theorem reaches_outcome (p : Prog E R α) : Reaches p (p.trace respond) (.pure (p.outcome respond)) := by
  induction p with
  | pure a => exact .refl _
  | call e k ih => exact .step (respond e) (ih _)

theorem mem_trace {p : Prog E R α} {event : Event E R} (h : event ∈ p.trace respond) :
    event = ⟨event.effect, respond event.effect⟩ := by
  induction p with
  | pure a => cases h
  | call e k ih =>
    rcases List.mem_cons.mp h with rfl | hrest
    · rfl
    · exact ih _ hrest

theorem reaches_before (p : Prog E R α) (n : Nat) (passed : List (Event E R)) (event : Event E R)
    (h : ∃ after, (p.trace respond).drop n = passed ++ event :: after) :
    ∃ k, Reaches p ((p.trace respond).take n ++ passed) (.call event.effect k) := by
  obtain ⟨after, hafter⟩ := h
  have hpath := reaches_outcome respond p
  rw [← List.take_append_drop n (p.trace respond), hafter, ← List.append_assoc] at hpath
  exact hpath.at_call

end Responses

section Triples
variable {E : Type} {R : E → Type} {α β : Type}
variable (may : List (Event E R) → E → Prop)

/-- From the calls made so far, every further call is one that `may` allows, and
every return satisfies the postcondition. -/
def Obeys (post : List (Event E R) → α → Prop) : Prog E R α → List (Event E R) → Prop
  | .pure a, h => post h a
  | .call e k, h => may h e ∧ ∀ r, Obeys post (k r) (h ++ [⟨e, r⟩])

variable {may}

variable {post : List (Event E R) → α → Prop} {p : Prog E R α} {h : List (Event E R)}

@[simp] theorem obeys_pure (a : α)
    (h : List (Event E R)) : Obeys may post (.pure a) h ↔ post h a := Iff.rfl

@[simp] theorem obeys_call (e : E) (k : R e → Prog E R α) (h : List (Event E R)) :
    Obeys may post (.call e k) h ↔ may h e ∧ ∀ r, Obeys may post (k r) (h ++ [⟨e, r⟩]) := Iff.rfl

theorem Obeys.weaken {post' : List (Event E R) → α → Prop} (hpost : ∀ h a, post h a → post' h a)
    (hp : Obeys may post p h) : Obeys may post' p h := by
  induction p generalizing h with
  | pure a => exact hpost h a hp
  | call e k ih => exact ⟨hp.1, fun r => ih r (hp.2 r)⟩

theorem Obeys.mono {may' : List (Event E R) → E → Prop} (hmay : ∀ h e, may h e → may' h e)
    (hp : Obeys may post p h) : Obeys may' post p h := by
  induction p generalizing h with
  | pure a => exact hp
  | call e k ih => exact ⟨hmay h e hp.1, fun r => ih r (hp.2 r)⟩

theorem Obeys.and {may' : List (Event E R) → E → Prop} {post' : List (Event E R) → α → Prop}
    (hp : Obeys may post p h) (hp' : Obeys may' post' p h) :
    Obeys (fun h e => may h e ∧ may' h e) (fun h a => post h a ∧ post' h a) p h := by
  induction p generalizing h with
  | pure a => exact ⟨hp, hp'⟩
  | call e k ih => exact ⟨⟨hp.1, hp'.1⟩, fun r => ih r (hp.2 r) (hp'.2 r)⟩

theorem Obeys.tracked {kind : E → Prop} (hp : Obeys (fun _ e => kind e) post p h)
    (hh : ∀ event ∈ h, kind event.effect) :
    Obeys (fun _ e => kind e) (fun h a => (∀ event ∈ h, kind event.effect) ∧ post h a) p h := by
  induction p generalizing h with
  | pure a => exact ⟨hh, hp⟩
  | call e k ih =>
    refine ⟨hp.1, fun r => ih r (hp.2 r) ?_⟩
    intro event hevent
    rcases List.mem_append.mp hevent with hpast | hlast
    · exact hh event hpast
    · rw [List.mem_singleton.mp hlast]
      exact hp.1

theorem Obeys.added {kind : E → Prop} (hp : Obeys (fun _ e => kind e) post p h) :
    Obeys (fun _ e => kind e)
      (fun h' a => (∃ more, h' = h ++ more ∧ ∀ event ∈ more, kind event.effect) ∧ post h' a) p h := by
  induction p generalizing h with
  | pure a => exact ⟨⟨[], (List.append_nil h).symm, by simp⟩, hp⟩
  | call e k ih =>
    refine ⟨hp.1, fun r => (ih r (hp.2 r)).weaken ?_⟩
    rintro h' a ⟨⟨more, rfl, hmore⟩, hpost⟩
    refine ⟨⟨⟨e, r⟩ :: more, List.append_assoc .., ?_⟩, hpost⟩
    intro event hevent
    rcases List.mem_cons.mp hevent with rfl | hevent
    · exact hp.1
    · exact hmore event hevent

theorem Obeys.extends (hp : Obeys may post p h) : Obeys may (fun h' a => h <+: h' ∧ post h' a) p h := by
  induction p generalizing h with
  | pure a => exact ⟨List.prefix_refl h, hp⟩
  | call e k ih =>
    refine ⟨hp.1, fun r => ?_⟩
    refine (ih r (hp.2 r)).weaken ?_
    intro h' a hpost
    exact ⟨(List.prefix_append h _).trans hpost.1, hpost.2⟩

theorem Obeys.later {h₀ : List (Event E R)} (hp : Obeys may post p h) (hh : h₀ <+: h) :
    Obeys (fun h' e => h₀ <+: h' ∧ may h' e) post p h := by
  induction p generalizing h with
  | pure a => exact hp
  | call e k ih =>
    refine ⟨⟨hh, hp.1⟩, fun r => ih r (hp.2 r) ?_⟩
    exact hh.trans (List.prefix_append h _)

theorem Obeys.bind {mid : List (Event E R) → α → Prop} {post : List (Event E R) → β → Prop}
    {f : α → Prog E R β} (hp : Obeys may mid p h) (hf : ∀ h a, mid h a → Obeys may post (f a) h) :
    Obeys may post (p >>= f) h := by
  induction p generalizing h with
  | pure a => exact hf h a hp
  | call e k ih => exact ⟨hp.1, fun r => ih r (hp.2 r)⟩

theorem Obeys.handle {E' : Type} {R' : E' → Type} {f : (e : E') → Prog E R (R' e)}
    {kept : List (Event E R) → Prop} (hf : ∀ e h, kept h → Obeys may (fun h' _ => kept h') (f e) h)
    (p : Prog E' R' α) (hh : kept h) : Obeys may (fun h' _ => kept h') (p.handle f) h := by
  induction p generalizing h with
  | pure a => exact hh
  | call e k ih => exact (hf e h hh).bind fun h' r hkept => ih r hkept

theorem Obeys.reaches {q : Prog E R α} {t : List (Event E R)}
    (hp : Obeys may post p h) (hr : Reaches p t q) : Obeys may post q (h ++ t) := by
  induction hr generalizing h with
  | refl p => simpa using hp
  | step r _ ih =>
    have := ih (hp.2 r)
    rwa [List.append_assoc, List.singleton_append] at this

end Triples

end Interaction
