import LivepeerTranscode.Shared.Interaction

/-!
# Programs that may throw

A program that returns or throws is a program with an `Except` result. The rules follow
the program text: what a step leaves when it returns is what the next step starts from.
Of a step that throws only the calls it made are known.
-/

namespace Interaction
set_option autoImplicit false

abbrev Throwing (E : Type) (R : E → Type) (ε α : Type) : Type := ExceptT ε (Prog E R) α

section
variable {E : Type} {R : E → Type} {ε α β : Type}

def invoke (e : E) : Throwing E R ε (R e) := ExceptT.mk (.call e fun r => .pure (.ok r))

def attempt (e : E) (f : R e → Except ε α) : Throwing E R ε α :=
  ExceptT.mk (.call e fun r => .pure (f r))

def mapThrown {δ : Type} (f : ε → δ) (p : Throwing E R ε α) : Throwing E R δ α :=
  ExceptT.mk (p.run >>= fun result => .pure (result.mapError f))

def settled {δ : Type} (p : Throwing E R ε α) : Throwing E R δ (Except ε α) :=
  ExceptT.mk (p.run >>= fun result => .pure (.ok result))

def detached (p : Throwing E R ε α) : Prog E R Unit := p.run >>= fun _ => .pure ()

variable (may : List (Event E R) → E → Prop)

/-- From the calls made so far, every further call is allowed, and `returns` holds where the
program returns. -/
def Keeps (returns : List (Event E R) → α → Prop) (p : Throwing E R ε α) (h : List (Event E R)) : Prop :=
  Obeys may (fun h result => ∀ a, result = .ok a → returns h a) p.run h

variable {may} {returns : List (Event E R) → β → Prop}

variable {p : Throwing E R ε α} {f : α → Throwing E R ε β} {h : List (Event E R)} {e : E}
  {handler : ε → Throwing E R ε α}

theorem Keeps.bind {mid : List (Event E R) → α → Prop} (hp : Keeps may mid p h)
    (hf : ∀ h a, mid h a → Keeps may returns (f a) h) : Keeps may returns (p >>= f) h := by
  refine Obeys.bind hp ?_
  intro h result hresult
  cases result with
  | ok a => exact hf h a (hresult a rfl)
  | error e =>
    intro b hb
    cases hb

theorem Keeps.weaken {stronger : List (Event E R) → β → Prop} {p : Throwing E R ε β}
    (hp : Keeps may stronger p h) (hreturns : ∀ h b, stronger h b → returns h b) :
    Keeps may returns p h := by
  refine Obeys.weaken ?_ hp
  intro h result hresult b hb
  exact hreturns h b (hresult b hb)

theorem Keeps.mono {may' : List (Event E R) → E → Prop} {p : Throwing E R ε β}
    (hp : Keeps may returns p h) (hmay : ∀ h e, may h e → may' h e) : Keeps may' returns p h :=
  Obeys.mono hmay hp

theorem Keeps.pure {b : β} (hb : returns h b) :
    Keeps may returns (Pure.pure b : Throwing E R ε β) h := by
  intro a ha
  cases ha
  exact hb

theorem Keeps.throw {e : ε} : Keeps may returns (throw e : Throwing E R ε β) h := by
  intro a ha
  cases ha

theorem Keeps.lift {x : Except ε β} :
    Keeps may (fun h' b => h' = h ∧ x = .ok b) (liftM x : Throwing E R ε β) h := by
  intro b hb
  exact ⟨rfl, hb⟩

theorem Keeps.attempt {f : R e → Except ε β} (he : may h e) :
    Keeps may (fun h' b => ∃ r, h' = h ++ [⟨e, r⟩] ∧ f r = .ok b) (attempt e f) h := by
  refine ⟨he, fun r b hb => ?_⟩
  exact ⟨r, rfl, hb⟩

theorem Keeps.invoke (he : may h e) :
    Keeps may (fun h' r => h' = h ++ [⟨e, r⟩]) (invoke e : Throwing E R ε (R e)) h := by
  refine ⟨he, fun r b hb => ?_⟩
  cases hb
  rfl

theorem Keeps.tryCatch {p : Throwing E R ε β} {handler : ε → Throwing E R ε β}
    (hp : Keeps may returns p h) (hhandler : ∀ h' e, h <+: h' → Keeps may returns (handler e) h') :
    Keeps may returns (tryCatch p handler) h := by
  refine Obeys.bind (Obeys.extends hp) ?_
  intro h' result hresult
  cases result with
  | ok b => exact hresult.2
  | error e => exact hhandler h' e hresult.1

theorem Keeps.extends {p : Throwing E R ε β} (hp : Keeps may returns p h) :
    Keeps may (fun h' b => h <+: h' ∧ returns h' b) p h := by
  refine Obeys.weaken ?_ (Obeys.extends hp)
  intro h' result hresult b hb
  exact ⟨hresult.1, hresult.2 b hb⟩

theorem Keeps.later {p : Throwing E R ε β} (hp : Keeps may returns p h) :
    Keeps (fun h' e => h <+: h' ∧ may h' e) returns p h :=
  Obeys.later hp (List.prefix_refl h)

theorem Keeps.tracked {kind : E → Prop} {p : Throwing E R ε β}
    (hp : Keeps (fun _ e => kind e) returns p h) (hh : ∀ event ∈ h, kind event.effect) :
    Keeps (fun _ e => kind e) (fun h b => (∀ event ∈ h, kind event.effect) ∧ returns h b) p h := by
  refine Obeys.weaken ?_ (Obeys.tracked hp hh)
  intro h result hresult b hb
  exact ⟨hresult.1, hresult.2 b hb⟩

theorem Keeps.allowed {p : Throwing E R ε β} (hp : Keeps may returns p [])
    {k : R e → Prog E R (Except ε β)} (hr : Reaches p.run h (.call e k)) : may h e := by
  have hcall := Obeys.reaches hp hr
  rw [List.nil_append] at hcall
  exact hcall.1

theorem Keeps.forget {p : Throwing E R ε β} (hp : Keeps may returns p h) :
    Keeps may (fun _ _ => True) p h := hp.weaken fun _ _ _ => trivial

theorem Keeps.mapThrown {δ : Type} {f : ε → δ} {p : Throwing E R ε β}
    (hp : Keeps may returns p h) : Keeps may returns (mapThrown f p) h := by
  refine Obeys.bind hp ?_
  intro h result hresult b hb
  cases result with
  | ok a =>
    cases hb
    exact hresult _ rfl
  | error e => cases hb

theorem Keeps.settled {δ : Type} {p : Throwing E R ε β} (hp : Keeps may returns p h) :
    Keeps may (fun h result => ∀ b, result = .ok b → returns h b) (settled p : Throwing E R δ _) h := by
  refine Obeys.bind hp ?_
  intro h result hresult r hr
  cases hr
  exact hresult

theorem Keeps.detached {p : Throwing E R ε β} (hp : Keeps may returns p h) :
    Obeys may (fun _ _ => True) (detached p) h :=
  Obeys.bind hp fun _ _ _ => trivial

/-! ## Calls of a kind -/

/-- Every call of the program is of this kind, whatever it is answered. -/
def Only (kind : E → Prop) (p : Throwing E R ε α) : Prop :=
  ∀ h, Keeps (fun _ e => kind e) (fun _ _ => True) p h

section Kinds
variable {kind : E → Prop}

theorem Only.mono {kind' : E → Prop} (hp : Only kind p) (hkind : ∀ e, kind e → kind' e) :
    Only kind' p := fun h => (hp h).mono fun _ => hkind

theorem Only.bind (hp : Only kind p)
    (hf : ∀ a, Only kind (f a)) : Only kind (p >>= f) := fun h => (hp h).bind fun h' a _ => hf a h'

theorem Only.pure {a : α} : Only kind (Pure.pure a : Throwing E R ε α) := fun _ => Keeps.pure trivial

theorem Only.throw {e : ε} : Only kind (throw e : Throwing E R ε α) := fun _ => Keeps.throw

theorem Only.lift {x : Except ε α} : Only kind (liftM x : Throwing E R ε α) := fun _ =>
  Keeps.lift.weaken fun _ _ _ => trivial

theorem Only.attempt {f : R e → Except ε α} (he : kind e) : Only kind (attempt e f) := fun _ =>
  (Keeps.attempt he).weaken fun _ _ _ => trivial

theorem Only.invoke (he : kind e) : Only kind (invoke e : Throwing E R ε (R e)) := fun _ =>
  (Keeps.invoke he).weaken fun _ _ _ => trivial

theorem Only.tryCatch (hp : Only kind p)
    (hhandler : ∀ e, Only kind (handler e)) : Only kind (tryCatch p handler) := fun h =>
  (hp h).tryCatch fun h' e _ => hhandler e h'

theorem Only.mapThrown {δ : Type} {f : ε → δ} (hp : Only kind p) :
    Only kind (mapThrown f p) := fun h => (hp h).mapThrown

theorem Only.adds {returns : List (Event E R) → α → Prop}
    (honly : Only kind p) (hp : Keeps may returns p h) :
    Keeps may (fun h' a => (∃ more, h' = h ++ more ∧ ∀ event ∈ more, kind event.effect) ∧ returns h' a) p h := by
  have hboth := Obeys.and hp (Obeys.added (honly h))
  refine Obeys.weaken ?_ (Obeys.mono (fun _ _ hmay => hmay.1) hboth)
  intro h' result hresult a ha
  exact ⟨hresult.2.1, hresult.1 a ha⟩

theorem Only.keeps (hp : Only kind p) (hkind : ∀ h e, kind e → may h e) :
    Keeps may (fun h' _ => ∃ more, h' = h ++ more ∧ ∀ event ∈ more, kind event.effect) p h := by
  refine Keeps.mono ?_ hkind
  refine Obeys.weaken ?_ (Obeys.added (hp h))
  intro h' result hresult a _
  exact hresult.1

end Kinds

/-! ## Paths -/

/-- After the calls made so far, the program can return so that `returns` holds. -/
def CanReturn (returns : List (Event E R) → α → Prop) (p : Throwing E R ε α) (h : List (Event E R)) : Prop :=
  ∃ t a, Reaches p.run t (.pure (.ok a)) ∧ returns (h ++ t) a

/-- After the calls made so far, the program can make a call that `calls` allows. -/
def CanCall (calls : List (Event E R) → E → Prop) (p : Throwing E R ε α) (h : List (Event E R)) : Prop :=
  ∃ t e k, Reaches p.run t (.call e k) ∧ calls (h ++ t) e

section Paths
variable {returns : List (Event E R) → α → Prop} {calls : List (Event E R) → E → Prop}

theorem CanReturn.bind {post : List (Event E R) → β → Prop} (hp : CanReturn returns p h)
    (hf : ∀ h a, returns h a → CanReturn post (f a) h) : CanReturn post (p >>= f) h := by
  obtain ⟨t, a, ht, ha⟩ := hp
  obtain ⟨s, b, hs, hb⟩ := hf _ _ ha
  refine ⟨t ++ s, b, (Reaches.bind _ ht).trans hs, ?_⟩
  rwa [← List.append_assoc]

theorem CanReturn.then_calls
    (hp : CanReturn returns p h) (hf : ∀ h a, returns h a → CanCall calls (f a) h) :
    CanCall calls (p >>= f) h := by
  obtain ⟨t, a, ht, ha⟩ := hp
  obtain ⟨s, e, k, hs, he⟩ := hf _ _ ha
  refine ⟨t ++ s, e, k, (Reaches.bind _ ht).trans hs, ?_⟩
  rwa [← List.append_assoc]

theorem CanReturn.pure {a : α} (ha : returns h a) :
    CanReturn returns (Pure.pure a : Throwing E R ε α) h :=
  ⟨[], a, .refl _, by rwa [List.append_nil]⟩

theorem CanReturn.lift {x : Except ε α} {a : α} (hx : x = .ok a) :
    CanReturn (fun h' b => h' = h ∧ b = a) (liftM x : Throwing E R ε α) h := by
  subst hx
  exact ⟨[], a, .refl _, List.append_nil h, rfl⟩

theorem CanReturn.attempt {f : R e → Except ε α} {a : α} (r : R e) (hr : f r = .ok a) :
    CanReturn (fun h' b => h' = h ++ [⟨e, r⟩] ∧ b = a) (Interaction.attempt e f) h := by
  refine ⟨[⟨e, r⟩], a, .step r ?_, rfl, rfl⟩
  rw [hr]
  exact .refl _

theorem CanReturn.invoke (r : R e) :
    CanReturn (fun h' b => h' = h ++ [⟨e, r⟩] ∧ b = r) (Interaction.invoke e : Throwing E R ε (R e)) h :=
  ⟨[⟨e, r⟩], r, .step r (.refl _), rfl, rfl⟩

theorem CanReturn.computed {respond : (e : E) → R e} {a : α} (hp : p.run.outcome respond = .ok a) :
    CanReturn (fun h' b => h' = h ++ p.run.trace respond ∧ b = a) p h :=
  ⟨_, a, hp ▸ reaches_outcome respond p.run, rfl, rfl⟩

theorem CanReturn.tryCatch (hp : CanReturn returns p h) : CanReturn returns (tryCatch p handler) h := by
  obtain ⟨t, a, ht, ha⟩ := hp
  exact ⟨t, a, Reaches.bind _ ht, ha⟩

theorem CanCall.attempt {f : R e → Except ε α} (he : calls h e) :
    CanCall calls (Interaction.attempt e f) h :=
  ⟨[], e, _, .refl _, by rwa [List.append_nil]⟩

theorem CanCall.bind (hp : CanCall calls p h) : CanCall calls (p >>= f) h := by
  obtain ⟨t, e, k, ht, he⟩ := hp
  exact ⟨t, e, _, Reaches.bind _ ht, he⟩

theorem CanCall.tryCatch (hp : CanCall calls p h) : CanCall calls (tryCatch p handler) h := by
  obtain ⟨t, e, k, ht, he⟩ := hp
  exact ⟨t, e, _, Reaches.bind _ ht, he⟩

end Paths

end

end Interaction
