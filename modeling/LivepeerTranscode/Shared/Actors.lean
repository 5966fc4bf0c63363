import LivepeerTranscode.Shared.History
import LivepeerTranscode.Shared.Interaction

/-!
# Interleavings with a log

Actors run programs over a shared state, one call at a time in any order. An actor may start
at any time and may be lost at any time. The log keeps every call with its answer under the
number of the actor that made it, so the calls of an actor are its part of the log.
-/

namespace Actors
open Interaction
set_option autoImplicit false

section
variable (S E : Type) (R : E → Type)

/-- How a call acts on the shared state, and which programs may be started. -/
structure World where
  act : S → (e : E) → R e → S → Prop
  starts : Prog E R Unit → Prop

structure Actor where
  number : Nat
  program : Prog E R Unit
  rest : Prog E R Unit

structure Scene where
  shared : S
  log : List (Nat × Event E R)
  actors : List (Actor E R)

end

section
variable {S E : Type} {R : E → Type}

def history (n : Nat) (log : List (Nat × Event E R)) : List (Event E R) :=
  log.filterMap fun entry => if entry.1 = n then some entry.2 else none

theorem history_own (n : Nat) (log : List (Nat × Event E R)) (event : Event E R) :
    history n (log ++ [(n, event)]) = history n log ++ [event] := by
  simp [history]

variable {n : Nat} {log before after : List (Nat × Event E R)} {event : Event E R} {s s' : S}
  {p : Prog E R Unit} {actors : List (Actor E R)} {c c' : Scene S E R}
  {may : List (Event E R) → E → Prop} {I : S → List (Nat × Event E R) → Prop}

theorem history_other {m : Nat} (hne : m ≠ n) (log : List (Nat × Event E R)) (event : Event E R) :
    history n (log ++ [(m, event)]) = history n log := by
  simp [history, hne]

theorem history_append (n : Nat) (log more : List (Nat × Event E R)) :
    history n (log ++ more) = history n log ++ history n more :=
  List.filterMap_append

theorem history_map (n : Nat) (events : List (Event E R)) :
    history n (events.map fun event => (n, event)) = events := by
  simp [history, List.filterMap_map]

theorem mem_history : event ∈ history n log ↔ (n, event) ∈ log := by
  unfold history
  rw [List.mem_filterMap]
  constructor
  · rintro ⟨⟨m, found⟩, hmem, hfound⟩
    split at hfound
    · rename_i hm
      cases hfound
      subst hm
      exact hmem
    · cases hfound
  · intro hmem
    exact ⟨(n, event), hmem, by simp⟩

theorem history_fresh (h : ∀ entry ∈ log, entry.1 ≠ n) : history n log = [] := by
  rw [List.eq_nil_iff_forall_not_mem]
  intro event hevent
  exact h _ (mem_history.mp hevent) rfl

theorem history_split {front back : List (Event E R)} (h : history n log = front ++ event :: back) :
    ∃ before after, log = before ++ (n, event) :: after ∧ history n before = front ∧
      history n after = back := by
  induction log generalizing front with
  | nil => simp [history] at h
  | cons entry rest ih =>
    obtain ⟨m, first⟩ := entry
    by_cases hm : m = n
    · subst hm
      have hcons : history m ((m, first) :: rest) = first :: history m rest := by simp [history]
      rw [hcons] at h
      cases front with
      | nil =>
        obtain ⟨rfl, hback⟩ := List.cons.inj h
        exact ⟨[], rest, rfl, rfl, hback⟩
      | cons f fs =>
        obtain ⟨rfl, htail⟩ := List.cons.inj h
        obtain ⟨before, after, rfl, hbefore, hafter⟩ := ih htail
        exact ⟨(m, first) :: before, after, rfl, by simp [history, ← hbefore], hafter⟩
    · have hcons : history n ((m, first) :: rest) = history n rest := by simp [history, hm]
      rw [hcons] at h
      obtain ⟨before, after, rfl, hbefore, hafter⟩ := ih h
      exact ⟨(m, first) :: before, after, rfl, by simpa [history, hm] using hbefore, hafter⟩

variable (w : World S E R)

inductive Step : Scene S E R → Scene S E R → Prop where
  | act {s s' : S} {log : List (Nat × Event E R)} {before after : List (Actor E R)} {n : Nat}
      {p : Prog E R Unit} {e : E} {k : R e → Prog E R Unit} (r : R e) : w.act s e r s' →
      Step ⟨s, log, before ++ ⟨n, p, .call e k⟩ :: after⟩
        ⟨s', log ++ [(n, ⟨e, r⟩)], before ++ ⟨n, p, k r⟩ :: after⟩
  | start {s : S} {log : List (Nat × Event E R)} {actors : List (Actor E R)} {n : Nat}
      {p : Prog E R Unit} : w.starts p → (∀ entry ∈ log, entry.1 ≠ n) → (∀ a ∈ actors, a.number ≠ n) →
      Step ⟨s, log, actors⟩ ⟨s, log, ⟨n, p, p⟩ :: actors⟩
  | lose {s : S} {log : List (Nat × Event E R)} {before after : List (Actor E R)} {a : Actor E R} :
      Step ⟨s, log, before ++ a :: after⟩ ⟨s, log, before ++ after⟩

/-- The scenes some run passes through that starts in one of the states `init` with nobody
there. -/
inductive Reachable (init : S → Prop) : Scene S E R → Prop where
  | initial {s : S} : init s → Reachable init ⟨s, [], []⟩
  | step {c c' : Scene S E R} : Reachable init c → Step w c c' → Reachable init c'

variable {w} {init : S → Prop}

/-- What holds of the actors of every scene. -/
structure Orderly (w : World S E R) (c : Scene S E R) : Prop where
  paths : ∀ a ∈ c.actors, w.starts a.program ∧ Reaches a.program (history a.number c.log) a.rest
  distinct : c.actors.Pairwise fun a b => a.number ≠ b.number

theorem Orderly.act {before after : List (Actor E R)} {e : E} {k : R e → Prog E R Unit} (r : R e)
    (h : Orderly w ⟨s, log, before ++ ⟨n, p, .call e k⟩ :: after⟩) :
    Orderly w ⟨s', log ++ [(n, ⟨e, r⟩)], before ++ ⟨n, p, k r⟩ :: after⟩ := by
  obtain ⟨hpaths, hdistinct⟩ := h
  have hpair := List.pairwise_append.mp hdistinct
  have hcons := List.pairwise_cons.mp hpair.2.1
  have hother : ∀ a ∈ before ++ after, a.number ≠ n := by
    intro a ha
    rcases List.mem_append.mp ha with ha | ha
    · exact hpair.2.2 a ha _ List.mem_cons_self
    · exact (hcons.1 a ha).symm
  have hkept : ∀ a ∈ before ++ after, w.starts a.program ∧
      Reaches a.program (history a.number (log ++ [(n, ⟨e, r⟩)])) a.rest := by
    intro a ha
    rw [history_other (hother a ha).symm]
    apply hpaths
    rcases List.mem_append.mp ha with ha | ha
    · exact List.mem_append_left _ ha
    · exact List.mem_append_right _ (List.mem_cons_of_mem _ ha)
  constructor
  · intro a ha
    simp only [List.mem_append, List.mem_cons] at ha
    rcases ha with ha | rfl | ha
    · exact hkept a (List.mem_append_left _ ha)
    · obtain ⟨hstarts, hreaches⟩ := hpaths ⟨n, p, .call e k⟩ (by simp)
      refine ⟨hstarts, ?_⟩
      rw [history_own]
      exact hreaches.trans (.step r (.refl _))
    · exact hkept a (List.mem_append_right _ ha)
  · refine List.pairwise_append.mpr ⟨hpair.1, List.pairwise_cons.mpr ⟨?_, hcons.2⟩, ?_⟩
    · exact hcons.1
    · intro a ha b hb
      rcases List.mem_cons.mp hb with rfl | hb
      · exact hpair.2.2 a ha ⟨n, p, .call e k⟩ List.mem_cons_self
      · exact hpair.2.2 a ha b (List.mem_cons_of_mem _ hb)

theorem Orderly.start (h : Orderly w ⟨s, log, actors⟩) (hp : w.starts p)
    (hlog : ∀ entry ∈ log, entry.1 ≠ n) (hfresh : ∀ a ∈ actors, a.number ≠ n) :
    Orderly w ⟨s, log, ⟨n, p, p⟩ :: actors⟩ := by
  constructor
  · intro a ha
    rcases List.mem_cons.mp ha with rfl | ha
    · refine ⟨hp, ?_⟩
      rw [history_fresh hlog]
      exact .refl p
    · exact h.paths a ha
  · exact List.pairwise_cons.mpr ⟨fun a ha => (hfresh a ha).symm, h.distinct⟩

theorem Orderly.lose {before after : List (Actor E R)}
    {a : Actor E R} (h : Orderly w ⟨s, log, before ++ a :: after⟩) :
    Orderly w ⟨s, log, before ++ after⟩ := by
  have hsub : (before ++ after).Sublist (before ++ a :: after) :=
    (List.Sublist.refl before).append (List.sublist_cons_self a after)
  exact ⟨fun b hb => h.paths b (hsub.subset hb), h.distinct.sublist hsub⟩

theorem Reachable.orderly (h : Reachable w init c) : Orderly w c := by
  induction h with
  | initial _ => exact ⟨by simp, List.Pairwise.nil⟩
  | step _ hstep ih =>
    cases hstep with
    | act r _ => exact ih.act r
    | start hp hlog hfresh => exact ih.start hp hlog hfresh
    | lose => exact ih.lose

theorem Reachable.mono {init' : S → Prop} (h : Reachable w init c)
    (himp : ∀ s, init s → init' s) : Reachable w init' c := by
  induction h with
  | initial hs => exact .initial (himp _ hs)
  | step _ hstep ih => exact ih.step hstep

/-- The invariant rule: every program that may be started keeps the rule `may` for its own
calls, and a call that keeps it moves the state and the log within the invariant, given what is
known of all reachable scenes. -/
theorem Reachable.invariant_of {K : S → List (Nat × Event E R) → Prop}
    (hknown : ∀ {c : Scene S E R}, Reachable w init c → K c.shared c.log)
    (hprograms : ∀ p, w.starts p → Obeys may (fun _ _ => True) p []) (hinit : ∀ s, init s → I s [])
    (hact : ∀ {s log n e r s'}, K s log → I s log → may (history n log) e → w.act s e r s' →
      K s' (log ++ [(n, ⟨e, r⟩)]) → I s' (log ++ [(n, ⟨e, r⟩)]))
    (h : Reachable w init c) : I c.shared c.log := by
  induction h with
  | initial hs => exact hinit _ hs
  | @step c c' hreach hstep ih =>
    have hnext := hknown (hreach.step hstep)
    have hbefore := hknown hreach
    cases hstep with
    | @act s s' log before after n p e k r hexec =>
      obtain ⟨hstarts, hpath⟩ := hreach.orderly.paths ⟨n, p, .call e k⟩ (by simp)
      have hmay := Obeys.reaches (hprograms p hstarts) hpath
      rw [List.nil_append] at hmay
      exact hact hbefore ih hmay.1 hexec hnext
    | start => exact ih
    | lose => exact ih

theorem Reachable.invariant (hprograms : ∀ p, w.starts p → Obeys may (fun _ _ => True) p [])
    (hinit : ∀ s, init s → I s [])
    (hact : ∀ {s log n e r s'}, I s log → may (history n log) e → w.act s e r s' → I s' (log ++ [(n, ⟨e, r⟩)]))
    (h : Reachable w init c) : I c.shared c.log :=
  Reachable.invariant_of (K := fun _ _ => True) (fun _ => trivial) hprograms hinit
    (fun _ hi hmay hexec _ => hact hi hmay hexec) h

theorem Reachable.each_history {F : List (Event E R) → Prop}
    (hprograms : ∀ p, w.starts p → Obeys may (fun _ _ => True) p []) (hnil : F [])
    (hstep : ∀ {h : List (Event E R)} {e : E} (r : R e), F h → may h e → F (h ++ [⟨e, r⟩]))
    (h : Reachable w init c) (n : Nat) : F (history n c.log) := by
  refine Reachable.invariant (I := fun _ log => ∀ n, F (history n log)) hprograms ?_ ?_ h n
  · intro s _ n
    exact hnil
  · intro s log m e r s' hall hmay _ n
    by_cases hm : m = n
    · subst hm
      rw [history_own]
      exact hstep r (hall m) hmay
    · rw [history_other hm]
      exact hall n

/-! ## Paths -/

/-- Calls with these answers lead the shared state from one to the other. -/
inductive Acts (w : World S E R) : S → List (Event E R) → S → Prop where
  | nil (s : S) : Acts w s [] s
  | cons {s s' s'' : S} {e : E} {r : R e} {t : List (Event E R)} : w.act s e r s' → Acts w s' t s'' →
      Acts w s (⟨e, r⟩ :: t) s''

theorem Acts.append {s'' : S} {t u : List (Event E R)} (h : Acts w s t s') (h' : Acts w s' u s'') :
    Acts w s (t ++ u) s'' := by
  induction h with
  | nil s => exact h'
  | cons hact _ ih => exact .cons hact (ih h')

theorem Step.first {e : E}
    {k : R e → Prog E R Unit} {r : R e} (actors : List (Actor E R)) (h : w.act s e r s') :
    Step w ⟨s, log, ⟨n, p, .call e k⟩ :: actors⟩ ⟨s', log ++ [(n, ⟨e, r⟩)], ⟨n, p, k r⟩ :: actors⟩ :=
  @Step.act S E R w s s' log [] actors n p e k r h

theorem Reachable.runs {q q' : Prog E R Unit}
    {t : List (Event E R)} (h : Reachable w init ⟨s, log, ⟨n, p, q⟩ :: actors⟩)
    (hpath : Reaches q t q') (hacts : Acts w s t s') :
    Reachable w init ⟨s', log ++ t.map (fun event => (n, event)), ⟨n, p, q'⟩ :: actors⟩ := by
  induction hpath generalizing s log with
  | refl q =>
    cases hacts
    rw [List.map_nil, List.append_nil]
    exact h
  | step r _ ih =>
    cases hacts with
    | cons hact hrest =>
      have hnext := h.step (.first actors hact)
      rw [List.map_cons, List.append_cons]
      exact ih hnext hrest

theorem Reachable.enters {q : Prog E R Unit}
    {t : List (Event E R)} (h : Reachable w init c)
    (hp : w.starts p) (hlog : ∀ entry ∈ c.log, entry.1 ≠ n) (hfresh : ∀ a ∈ c.actors, a.number ≠ n)
    (hpath : Reaches p t q) (hacts : Acts w c.shared t s') :
    Reachable w init ⟨s', c.log ++ t.map (fun event => (n, event)), ⟨n, p, q⟩ :: c.actors⟩ :=
  (h.step (.start hp hlog hfresh)).runs hpath hacts

theorem exists_above (numbers : List Nat) : ∃ n, ∀ m ∈ numbers, m < n := by
  induction numbers with
  | nil => exact ⟨0, fun _ hm => absurd hm List.not_mem_nil⟩
  | cons m rest ih =>
    obtain ⟨n, hn⟩ := ih
    refine ⟨max (m + 1) n, ?_⟩
    intro k hk
    rcases List.mem_cons.mp hk with rfl | hk
    · exact Nat.lt_of_lt_of_le (Nat.lt_succ_self k) (Nat.le_max_left _ _)
    · exact Nat.lt_of_lt_of_le (hn k hk) (Nat.le_max_right _ _)

theorem Scene.exists_fresh (c : Scene S E R) :
    ∃ n, (∀ entry ∈ c.log, entry.1 ≠ n) ∧ ∀ a ∈ c.actors, a.number ≠ n := by
  obtain ⟨n, hn⟩ := exists_above (c.log.map Prod.fst ++ c.actors.map Actor.number)
  refine ⟨n, ?_, ?_⟩
  · intro entry hentry
    exact Nat.ne_of_lt (hn _ (List.mem_append_left _ (List.mem_map_of_mem hentry)))
  · intro a ha
    exact Nat.ne_of_lt (hn _ (List.mem_append_right _ (List.mem_map_of_mem ha)))

/-- A program run for so many calls against answers that are computed from the state: the
state, the calls and the rest of the program. -/
def simulate {α : Type} (answer : S → (e : E) → R e × S) :
    Nat → S → Prog E R α → S × List (Event E R) × Prog E R α
  | 0, s, p => (s, [], p)
  | _ + 1, s, .pure a => (s, [], .pure a)
  | count + 1, s, .call e k =>
    let rest := simulate answer count (answer s e).2 (k (answer s e).1)
    (rest.1, ⟨e, (answer s e).1⟩ :: rest.2.1, rest.2.2)

theorem simulate_reaches {α : Type} (answer : S → (e : E) → R e × S) (count : Nat) (s : S)
    (p : Prog E R α) :
    Reaches p (simulate answer count s p).2.1 (simulate answer count s p).2.2 := by
  induction count generalizing s p with
  | zero => exact .refl p
  | succ count ih =>
    cases p with
    | pure a => exact .refl _
    | call e k => exact .step _ (ih _ _)

theorem simulate_acts {α : Type} {answer : S → (e : E) → R e × S}
    (hanswer : ∀ s e, w.act s e (answer s e).1 (answer s e).2) (count : Nat) (s : S) (p : Prog E R α) :
    Acts w s (simulate answer count s p).2.1 (simulate answer count s p).1 := by
  induction count generalizing s p with
  | zero => exact .nil s
  | succ count ih =>
    cases p with
    | pure a => exact .nil s
    | call e k => exact .cons (hanswer s e) (ih _ _)

/-! ## Scripts -/

/-- An actor starts, or makes its next call under some circumstance. -/
inductive Turn (A E : Type) (R : E → Type) where
  | start (n : Nat) (p : Prog E R Unit)
  | go (n : Nat) (circumstance : A)

section Scripts
variable {A : Type} (answer : A → S → (e : E) → R e × S)

/-- The next call of one of the actors, if there is one: the state, the call and the actors. -/
def goOn (a : A) (n : Nat) (s : S) : List (Actor E R) → Option (S × Event E R × List (Actor E R))
  | [] => none
  | actor :: rest =>
    if actor.number = n then
      match actor.rest with
      | .pure _ => none
      | .call e k =>
        let given := answer a s e
        some (given.2, ⟨e, given.1⟩, ⟨actor.number, actor.program, k given.1⟩ :: rest)
    else (goOn a n s rest).map fun moved => (moved.1, moved.2.1, actor :: moved.2.2)

def Scene.turn (c : Scene S E R) : Turn A E R → Scene S E R
  | .start n p =>
    if (c.log.all fun entry => entry.1 ≠ n) && (c.actors.all fun actor => actor.number ≠ n) then
      ⟨c.shared, c.log, ⟨n, p, p⟩ :: c.actors⟩
    else c
  | .go n a =>
    match goOn answer a n c.shared c.actors with
    | none => c
    | some (s, event, actors) => ⟨s, c.log ++ [(n, event)], actors⟩

def Scene.play (c : Scene S E R) (turns : List (Turn A E R)) : Scene S E R := turns.foldl (Scene.turn answer) c

variable {answer}

theorem goOn_step {a : A} {actors' : List (Actor E R)}
    (hanswer : ∀ a s e, w.act s e (answer a s e).1 (answer a s e).2)
    (h : goOn answer a n s actors = some (s', event, actors')) (log : List (Nat × Event E R))
    (before : List (Actor E R)) :
    Step w ⟨s, log, before ++ actors⟩ ⟨s', log ++ [(n, event)], before ++ actors'⟩ := by
  induction actors generalizing before actors' with
  | nil => cases h
  | cons actor rest ih =>
    obtain ⟨number, program, remaining⟩ := actor
    unfold goOn at h
    split at h
    · rename_i hnumber
      cases remaining with
      | pure _ => cases h
      | call e k =>
        cases h
        subst hnumber
        exact .act _ (hanswer a s e)
    · obtain ⟨⟨_, _, moved⟩, hmoved, heq⟩ := Option.map_eq_some_iff.mp h
      cases heq
      have hstep := ih hmoved (before ++ [⟨number, program, remaining⟩])
      rwa [List.append_assoc, List.append_assoc] at hstep

theorem Reachable.play {turns : List (Turn A E R)}
    (hanswer : ∀ a s e, w.act s e (answer a s e).1 (answer a s e).2)
    (hstarts : ∀ n p, .start n p ∈ turns → w.starts p) (h : Reachable w init c) :
    Reachable w init (c.play answer turns) := by
  induction turns generalizing c with
  | nil => exact h
  | cons turn rest ih =>
    refine ih (fun n p hmem => hstarts n p (List.mem_cons_of_mem _ hmem)) ?_
    cases turn with
    | start n p =>
      show Reachable w init (Scene.turn answer c (.start n p))
      simp only [Scene.turn]
      split
      · rename_i hfresh
        rw [Bool.and_eq_true, List.all_eq_true, List.all_eq_true] at hfresh
        exact h.step (.start (hstarts n p List.mem_cons_self)
          (fun entry hentry => of_decide_eq_true (hfresh.1 entry hentry))
          fun actor hactor => of_decide_eq_true (hfresh.2 actor hactor))
      · exact h
    | go n a =>
      show Reachable w init (Scene.turn answer c (.go n a))
      simp only [Scene.turn]
      split
      · exact h
      · rename_i s event actors hgo
        exact h.step (goOn_step hanswer hgo c.log [])

end Scripts

/-! ## The log -/

theorem split_concat {α : Type} {log before after : List α} {x y : α}
    (h : log ++ [x] = before ++ y :: after) :
    (before = log ∧ y = x) ∨ ∃ rest, log = before ++ y :: rest := by
  rcases List.eq_nil_or_concat after with rfl | ⟨rest, z, rfl⟩
  · have hlast := List.append_inj' h rfl
    exact .inl ⟨hlast.1.symm, (List.cons.inj hlast.2).1.symm⟩
  · have hassoc : before ++ y :: rest.concat z = (before ++ y :: rest) ++ [z] := by simp
    rw [hassoc] at h
    exact .inr ⟨rest, (List.append_inj' h rfl).1⟩

theorem Reachable.logged (hprograms : ∀ p, w.starts p → Obeys may (fun _ _ => True) p [])
    (h : Reachable w init c)
    (hsplit : c.log = before ++ (n, event) :: after) : may (history n before) event.effect := by
  have hall : ∀ before after n event, c.log = before ++ (n, event) :: after →
      may (history n before) event.effect := by
    refine Reachable.invariant (I := fun _ log => ∀ before after n event,
      log = before ++ (n, event) :: after → may (history n before) event.effect) hprograms ?_ ?_ h
    · intro s _ before after n event hnil
      simp at hnil
    · intro s log n e r s' hlog hmay _ before after m event hmore
      rcases split_concat hmore with ⟨rfl, heq⟩ | ⟨rest, hrest⟩
      · cases heq
        exact hmay
      · exact hlog before rest m event hrest
  exact hall before after n event hsplit

/-! ## Later scenes -/

/-- Scenes a run goes on to. -/
inductive Later (w : World S E R) (c : Scene S E R) : Scene S E R → Prop where
  | refl : Later w c c
  | step {c' c'' : Scene S E R} : Later w c c' → Step w c' c'' → Later w c c''

theorem Reachable.later (h : Reachable w init c) (hlater : Later w c c') : Reachable w init c' := by
  induction hlater with
  | refl => exact h
  | step _ hstep ih => exact ih.step hstep

/-- The invariant rule from a scene on, on top of what is known of every scene: `I` speaks of
the state and of the calls since. -/
theorem Later.invariant_of {K : S → List (Nat × Event E R) → Prop} (h : Reachable w init c)
    (hlater : Later w c c') (hknown : ∀ {c : Scene S E R}, Reachable w init c → K c.shared c.log)
    (hprograms : ∀ p, w.starts p → Obeys may (fun _ _ => True) p [])
    (hinit : I c.shared [])
    (hact : ∀ {s since n e r s'}, K s (c.log ++ since) → I s since → may (history n (c.log ++ since)) e →
      w.act s e r s' → I s' (since ++ [(n, ⟨e, r⟩)])) :
    ∃ since, c'.log = c.log ++ since ∧ I c'.shared since := by
  induction hlater with
  | refl => exact ⟨[], (List.append_nil _).symm, hinit⟩
  | @step c' c'' hlater hstep ih =>
    obtain ⟨since, hlog, hI⟩ := ih
    have hreach := h.later hlater
    have horderly := hreach.orderly
    have hbefore := hknown hreach
    cases hstep with
    | @act s s' log before after n p e k r hexec =>
      simp only at hlog hI hbefore
      subst hlog
      obtain ⟨hstarts, hpath⟩ := horderly.paths ⟨n, p, .call e k⟩ (by simp)
      have hmay := Obeys.reaches (hprograms p hstarts) hpath
      rw [List.nil_append] at hmay
      exact ⟨since ++ [(n, ⟨e, r⟩)], List.append_assoc _ _ _, hact hbefore hI hmay.1 hexec⟩
    | start => exact ⟨since, hlog, hI⟩
    | lose => exact ⟨since, hlog, hI⟩

theorem Later.invariant (h : Reachable w init c)
    (hlater : Later w c c') (hprograms : ∀ p, w.starts p → Obeys may (fun _ _ => True) p [])
    (hinit : I c.shared [])
    (hact : ∀ {s since n e r s'}, I s since → may (history n (c.log ++ since)) e → w.act s e r s' →
      I s' (since ++ [(n, ⟨e, r⟩)])) :
    ∃ since, c'.log = c.log ++ since ∧ I c'.shared since :=
  Later.invariant_of (K := fun _ _ => True) h hlater (fun _ => trivial) hprograms hinit fun _ => hact

theorem Later.after_step {c₁ : Scene S E R} (hstep : Step w c c₁) (h : Later w c₁ c') :
    Later w c c' := by
  induction h with
  | refl => exact .step .refl hstep
  | step _ hnext ih => exact ih.step hnext

theorem Reachable.moment_step (h : Reachable w init c)
    (hsplit : c.log = before ++ (n, event) :: after) :
    ∃ c₀ c₁ : Scene S E R, Reachable w init c₀ ∧ c₀.log = before ∧
      c₁.log = before ++ [(n, event)] ∧ w.act c₀.shared event.effect event.answer c₁.shared ∧
      Step w c₀ c₁ ∧ Later w c₁ c := by
  induction h generalizing after with
  | initial _ => simp at hsplit
  | @step c c' hreach hstep ih =>
    cases hstep with
    | @act s s' log front back m p e k r hexec =>
      rcases split_concat hsplit with ⟨hbefore, hevent⟩ | ⟨rest, hrest⟩
      · cases hevent
        subst hbefore
        exact ⟨_, _, hreach, rfl, rfl, hexec, .act r hexec, .refl⟩
      · obtain ⟨c₀, c₁, h₀, hlog₀, hlog₁, hact, h₁, hlater⟩ := ih hrest
        exact ⟨c₀, c₁, h₀, hlog₀, hlog₁, hact, h₁, hlater.step (.act r hexec)⟩
    | start hp hlog hfresh =>
      obtain ⟨c₀, c₁, h₀, hlog₀, hlog₁, hact, h₁, hlater⟩ := ih hsplit
      exact ⟨c₀, c₁, h₀, hlog₀, hlog₁, hact, h₁, hlater.step (.start hp hlog hfresh)⟩
    | lose =>
      obtain ⟨c₀, c₁, h₀, hlog₀, hlog₁, hact, h₁, hlater⟩ := ih hsplit
      exact ⟨c₀, c₁, h₀, hlog₀, hlog₁, hact, h₁, hlater.step .lose⟩

/-- The moment a call of the log was made: the scene before it, and the one it led to. -/
theorem Reachable.moment (h : Reachable w init c) (hsplit : c.log = before ++ (n, event) :: after) :
    ∃ c₀ c₁ : Scene S E R, Reachable w init c₀ ∧ c₀.log = before ∧
      c₁.log = before ++ [(n, event)] ∧ w.act c₀.shared event.effect event.answer c₁.shared ∧
      Reachable w init c₁ ∧ Later w c₁ c := by
  obtain ⟨c₀, c₁, h₀, hlog₀, hlog₁, hact, hstep, hlater⟩ := h.moment_step hsplit
  exact ⟨c₀, c₁, h₀, hlog₀, hlog₁, hact, h₀.step hstep, hlater⟩

/-! ## The moments of a run -/

open History in
/-- A run with the state before and the state after each of its calls. -/
inductive Passes (w : World S E R) (c : Scene S E R) : List (Moment S (Event E R)) → Scene S E R → Prop where
  | refl : Passes w c [] c
  | act {moments : List (Moment S (Event E R))} {s s' : S} {log : List (Nat × Event E R)}
      {before after : List (Actor E R)} {n : Nat} {p : Prog E R Unit} {e : E} {k : R e → Prog E R Unit} (r : R e) :
      Passes w c moments ⟨s, log, before ++ ⟨n, p, .call e k⟩ :: after⟩ → w.act s e r s' →
      Passes w c (moments ++ [⟨s, ⟨e, r⟩, s'⟩])
        ⟨s', log ++ [(n, ⟨e, r⟩)], before ++ ⟨n, p, k r⟩ :: after⟩
  | start {moments : List (Moment S (Event E R))} {s : S} {log : List (Nat × Event E R)}
      {actors : List (Actor E R)} {n : Nat} {p : Prog E R Unit} : Passes w c moments ⟨s, log, actors⟩ →
      w.starts p → (∀ entry ∈ log, entry.1 ≠ n) → (∀ a ∈ actors, a.number ≠ n) →
      Passes w c moments ⟨s, log, ⟨n, p, p⟩ :: actors⟩
  | lose {moments : List (Moment S (Event E R))} {s : S} {log : List (Nat × Event E R)}
      {before after : List (Actor E R)} {a : Actor E R} :
      Passes w c moments ⟨s, log, before ++ a :: after⟩ → Passes w c moments ⟨s, log, before ++ after⟩

section Moments
open History
variable {c c' : Scene S E R} {moments : List (Moment S (Event E R))}

theorem Passes.acted (h : Passes w c moments c') :
    ∀ m ∈ moments, w.act m.before m.input.effect m.input.answer m.after := by
  induction h with
  | refl => exact fun m hm => absurd hm List.not_mem_nil
  | act r _ hact ih =>
    intro m hm
    rcases List.mem_append.mp hm with hm | hm
    · exact ih m hm
    · rw [List.mem_singleton.mp hm]
      exact hact
  | start _ _ _ _ ih => exact ih
  | lose _ ih => exact ih

def states (c : Scene S E R) (moments : List (Moment S (Event E R))) : List S :=
  c.shared :: moments.map Moment.after

theorem Passes.last_state (h : Passes w c moments c') : (states c moments).getLast? = some c'.shared := by
  induction h with
  | refl => rfl
  | act r _ _ _ => simp [states, List.getLast?_cons]
  | start _ _ _ _ ih => exact ih
  | lose _ ih => exact ih

theorem Passes.chain_iff {link : S → S → Prop} (h : Passes w c moments c') :
    (states c moments).IsChain link ↔ ∀ m ∈ moments, link m.before m.after := by
  induction h with
  | refl => simp [states]
  | @act moments s s' log before after n p e k r hpasses hact ih =>
    have hlast := hpasses.last_state
    have hstates : states c (moments ++ [⟨s, ⟨e, r⟩, s'⟩]) = states c moments ++ [s'] := by
      simp [states]
    rw [hstates, List.isChain_append, ih, hlast]
    simp only [List.isChain_singleton, true_and, Option.mem_def, Option.some.injEq, List.head?_cons,
      forall_eq', List.mem_append, List.mem_singleton]
    constructor
    · rintro ⟨hall, hnew⟩ m (hm | rfl)
      · exact hall m hm
      · exact hnew
    · intro hall
      exact ⟨fun m hm => hall m (.inl hm), hall _ (.inr rfl)⟩
  | start _ _ _ _ ih => exact ih
  | lose _ ih => exact ih

inductive Traced (w : World S E R) : S → List (Moment S (Event E R)) → S → Prop where
  | nil (s : S) : Traced w s [] s
  | cons {s s' s'' : S} {e : E} {r : R e} {more : List (Moment S (Event E R))} : w.act s e r s' →
      Traced w s' more s'' → Traced w s (⟨s, ⟨e, r⟩, s'⟩ :: more) s''

theorem Passes.runs {q q' : Prog E R Unit} {more : List (Moment S (Event E R))}
    (h : Passes w c moments ⟨s, log, ⟨n, p, q⟩ :: actors⟩) (hpath : Reaches q (more.map Moment.input) q')
    (htraced : Traced w s more s') :
    Passes w c (moments ++ more)
      ⟨s', log ++ (more.map Moment.input).map (fun event => (n, event)), ⟨n, p, q'⟩ :: actors⟩ := by
  induction htraced generalizing moments log q with
  | nil s =>
    cases hpath
    simpa using h
  | @cons s s₁ s' e r more hact _ ih =>
    rw [List.map_cons] at hpath
    cases hpath with
    | @step _ k _ _ _ hrest =>
      have hstep := @Passes.act S E R w c moments s s₁ log [] actors n p e k r h hact
      simpa using ih hstep hrest

end Moments

end

end Actors
