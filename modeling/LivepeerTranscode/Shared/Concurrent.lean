import LivepeerTranscode.Shared.Interaction

/-!
# Interleavings of programs over a shared state

A `System` says how one call acts on the shared state, which programs may be
started, and which labels may run side by side. A step of a configuration is one
call of one running program, the start of a program, or the loss of one; losing
programs at arbitrary points is how a crash looks from the shared state.

`Safe` is rely-guarantee reasoning: whatever the other programs do to the state
between two calls, within the rely relation, each call of this program moves the
state within its guarantee.
-/

namespace Interaction
set_option autoImplicit false

structure System (S L E : Type) (R : E → Type) where
  exec : L → S → (e : E) → R e → S → Prop
  spawn : L → Prog E R Unit → Prop
  together : L → L → Prop

structure Config (S L E : Type) (R : E → Type) where
  shared : S
  running : List (L × Prog E R Unit)

section
variable {S L E : Type} {R : E → Type} (sys : System S L E R)

inductive Step : Config S L E R → Config S L E R → Prop where
  | act {s s' : S} {before after : List (L × Prog E R Unit)} {l : L} {e : E}
      {k : R e → Prog E R Unit} (r : R e) : sys.exec l s e r s' →
      Step ⟨s, before ++ (l, .call e k) :: after⟩ ⟨s', before ++ (l, k r) :: after⟩
  | start {s : S} {running : List (L × Prog E R Unit)} {l : L} {p : Prog E R Unit} :
      sys.spawn l p → (∀ q ∈ running, sys.together l q.1 ∧ sys.together q.1 l) →
      Step ⟨s, running⟩ ⟨s, (l, p) :: running⟩
  | lose {s : S} {before after : List (L × Prog E R Unit)} {q : L × Prog E R Unit} :
      Step ⟨s, before ++ q :: after⟩ ⟨s, before ++ after⟩

variable {sys} in
theorem Step.first {s s' : S} {after : List (L × Prog E R Unit)} {l : L} {e : E}
    {k : R e → Prog E R Unit} (r : R e) (h : sys.exec l s e r s') :
    Step sys ⟨s, (l, .call e k) :: after⟩ ⟨s', (l, k r) :: after⟩ := by
  have hstep := @Step.act S L E R sys s s' [] after l e k r h
  exact hstep

/-- The configurations some run from `s`, with nothing running yet, passes through. -/
def Reachable (s : S) : Config S L E R → Prop :=
  Relation.ReflTransGen (Step sys) ⟨s, []⟩

/-- What each program may assume of the others' calls, what its own calls promise,
and the invariant of the shared state that the promises keep. -/
structure Discipline where
  inv : S → Prop
  rely : L → S → S → Prop
  guar : L → S → S → Prop
  inv_guar : ∀ {l s s'}, inv s → guar l s s' → inv s'
  guar_rely : ∀ {l m s s'}, sys.together l m → guar l s s' → rely m s s'

variable {sys} (d : Discipline sys)

def Safe {α : Type} (l : L) (post : α → S → Prop) : Prog E R α → S → Prop
  | .pure a, s => post a s
  | .call e k, s => ∀ s₁, Relation.ReflTransGen (d.rely l) s s₁ → d.inv s₁ →
      ∀ r s', sys.exec l s₁ e r s' → d.guar l s₁ s' ∧ Safe l post (k r) s'

variable {d}

theorem Safe.bind {α β : Type} {l : L} {mid : α → S → Prop} {post : β → S → Prop}
    {p : Prog E R α} {f : α → Prog E R β} {s : S} (hp : Safe d l mid p s)
    (hf : ∀ a s, mid a s → Safe d l post (f a) s) : Safe d l post (p >>= f) s := by
  induction p generalizing s with
  | pure a => exact hf a s hp
  | call e k ih =>
    intro s₁ hs hinv r s' hexec
    obtain ⟨hguar, hk⟩ := hp s₁ hs hinv r s' hexec
    exact ⟨hguar, ih r hk⟩

theorem Safe.of_obeys {α : Type} {l : L} {harmless : E → Prop}
    (hexec : ∀ {s e r s'}, harmless e → d.inv s → sys.exec l s e r s' → d.guar l s s')
    {p : Prog E R α} {h : List (Event E R)}
    (hp : Obeys (fun _ e => harmless e) (fun _ _ => True) p h) (s : S) :
    Safe d l (fun _ _ => True) p s := by
  induction p generalizing h s with
  | pure a => trivial
  | call e k ih =>
    intro s₁ _ hinv r s' hstep
    exact ⟨hexec hp.1 hinv hstep, ih r (hp.2 r) s'⟩

theorem Safe.rely {l : L} {p : Prog E R Unit} {s s₁ : S}
    (hp : Safe d l (fun _ _ => True) p s) (hs : Relation.ReflTransGen (d.rely l) s s₁) :
    Safe d l (fun _ _ => True) p s₁ := by
  cases p with
  | pure a => trivial
  | call e k => exact fun s₂ hs₂ => hp s₂ (hs.trans hs₂)

/-- What holds of every configuration of a run: the invariant, the safety of what is
running, and that only labels allowed side by side run side by side. -/
structure Sound (d : Discipline sys) (c : Config S L E R) : Prop where
  inv : d.inv c.shared
  safe : ∀ q ∈ c.running, Safe d q.1 (fun _ _ => True) q.2 c.shared
  together : c.running.Pairwise fun p q => sys.together p.1 q.1 ∧ sys.together q.1 p.1

theorem Sound.lose {s : S} {before after : List (L × Prog E R Unit)} {q : L × Prog E R Unit}
    (h : Sound d ⟨s, before ++ q :: after⟩) : Sound d ⟨s, before ++ after⟩ := by
  have hsub : (before ++ after).Sublist (before ++ q :: after) :=
    (List.Sublist.refl before).append (List.sublist_cons_self q after)
  exact ⟨h.inv, fun p hp => h.safe p (hsub.subset hp), h.together.sublist hsub⟩

theorem Sound.act {s s' : S} {before after : List (L × Prog E R Unit)} {l : L} {e : E}
    {k : R e → Prog E R Unit} {r : R e} (h : Sound d ⟨s, before ++ (l, .call e k) :: after⟩)
    (hexec : sys.exec l s e r s') :
    d.guar l s s' ∧ Sound d ⟨s', before ++ (l, k r) :: after⟩ := by
  have hown := h.safe (l, .call e k) (by simp)
  obtain ⟨hguar, hnext⟩ := hown s .refl h.inv r s' hexec
  have hpair := List.pairwise_append.mp h.together
  have hcons := List.pairwise_cons.mp hpair.2.1
  -- a neighbour relies on the labels it may run beside, so it survives this call
  have hother : ∀ q ∈ before ++ after, Safe d q.1 (fun _ _ => True) q.2 s' := by
    intro q hq
    have htog : sys.together l q.1 := by
      rcases List.mem_append.mp hq with hq | hq
      · exact (hpair.2.2 q hq (l, .call e k) (by simp)).2
      · exact (hcons.1 q hq).1
    have hsafe := h.safe q (by
      rcases List.mem_append.mp hq with hq | hq <;> simp [hq])
    exact hsafe.rely (.single (d.guar_rely htog hguar))
  refine ⟨hguar, d.inv_guar h.inv hguar, ?_, ?_⟩
  · intro q hq
    simp only [List.mem_append, List.mem_cons] at hq
    rcases hq with hq | rfl | hq
    · exact hother q (List.mem_append.mpr (Or.inl hq))
    · exact hnext
    · exact hother q (List.mem_append.mpr (Or.inr hq))
  · refine List.pairwise_append.mpr ⟨hpair.1, List.pairwise_cons.mpr ⟨hcons.1, hcons.2⟩, ?_⟩
    intro p hp q hq
    rcases List.mem_cons.mp hq with rfl | hq
    · exact hpair.2.2 p hp (l, .call e k) (by simp)
    · exact hpair.2.2 p hp q (by simp [hq])

/-- The run rule: if every program that may start is safe wherever it starts, every
configuration a run passes through is sound. -/
theorem Sound.of_reachable {s : S} (hinit : d.inv s)
    (hspawn : ∀ l p, sys.spawn l p → ∀ s, d.inv s → Safe d l (fun _ _ => True) p s)
    {c : Config S L E R} (h : Reachable sys s c) : Sound d c := by
  induction h with
  | refl => exact ⟨hinit, by simp, List.Pairwise.nil⟩
  | tail _ hstep ih =>
    cases hstep with
    | act r hexec => exact (ih.act hexec).2
    | start hp htog =>
      refine ⟨ih.inv, ?_, List.pairwise_cons.mpr ⟨htog, ih.together⟩⟩
      intro q hq
      rcases List.mem_cons.mp hq with rfl | hq
      · exact hspawn _ _ hp _ ih.inv
      · exact ih.safe q hq
    | lose => exact ih.lose

end

end Interaction
