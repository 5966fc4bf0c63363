import LivepeerTranscode.Gateway.JobSettlement
import LivepeerTranscode.Gateway.PaidSessionClient

/-!
# Settlement evidence without its zeros

An encoder of proto3 JSON leaves a field out when its value is zero. The three checks of
settlement evidence read the unit fields of a payload: the end of a session reads an absent one
as zero, the settlement of a refused open and the settlement of a job do not. What each check
accepts is a list of texts the payload has to name and a list of amounts it has to hold, so an
omitted amount matters exactly where all the rest is in order.
-/

namespace LivepeerTranscode.Gateway
open Checked JsonText
set_option autoImplicit false

variable {value : Option JsonValue} {key : String} {payload : List (String × JsonValue)}

/-- The amounts of a settlement payload, `uint64`s that are written as decimal texts. -/
def unitFields : List String := ["actual_units", "claimed_units", "billed_units", "debited_units"]

/-- Some of the unit fields of a payload whose value is zero. -/
def ZeroUnits (fields : List String) (payload : List (String × JsonValue)) : Prop :=
  ∀ field ∈ fields, field ∈ unitFields ∧ payload.lookup field = some (.str "0")

def without (fields : List String) (payload : List (String × JsonValue)) : List (String × JsonValue) :=
  payload.filter fun entry => !fields.contains entry.1

def Accepts {ε α : Type} (check : Except ε α) : Prop := ∃ value, check = .ok value

section
variable {fields : List String} {payload : List (String × JsonValue)}

theorem lookup_without_of_mem (h : key ∈ fields) : (without fields payload).lookup key = none := by
  rw [List.lookup_eq_none_iff]
  intro entry hentry
  have hkept := (List.mem_filter.mp hentry).2
  simp only [Bool.not_eq_true', List.contains_eq_mem, decide_eq_false_iff_not] at hkept
  rw [bne_iff_ne]
  rintro rfl
  exact hkept h

theorem lookup_without_of_notMem (h : key ∉ fields) :
    (without fields payload).lookup key = payload.lookup key := by
  induction payload with
  | nil => rfl
  | cons entry rest ih =>
    obtain ⟨name, value⟩ := entry
    by_cases hname : key = name
    · subst hname
      simp [without, h]
    · have hskip : ∀ others : List (String × JsonValue),
          ((name, value) :: others).lookup key = others.lookup key := by
        intro others
        rw [List.lookup_cons, beq_eq_false_iff_ne.mpr hname]
      rw [hskip, ← ih]
      unfold without
      rw [List.filter_cons]
      split
      · exact hskip _
      · rfl

theorem ZeroUnits.lookup_other (hzero : ZeroUnits fields payload) (h : key ∉ unitFields) :
    (without fields payload).lookup key = payload.lookup key :=
  lookup_without_of_notMem fun hmem => h (hzero key hmem).1

theorem ZeroUnits.orZero_lookup (hzero : ZeroUnits fields payload) (key : String) :
    SessionClient.orZero ((without fields payload).lookup key) = SessionClient.orZero (payload.lookup key) := by
  by_cases h : key ∈ fields
  · rw [lookup_without_of_mem h, (hzero key h).2]
    rfl
  · rw [lookup_without_of_notMem h]

/-! ## The end of a session -/

theorem validateEndSettlement_without (hzero : ZeroUnits fields payload) (input : PaidSessionEndRequest)
    (wire : SessionClient.SettlementLookupWire) :
    SessionClient.validateEndSettlement input wire (without fields payload) =
      SessionClient.validateEndSettlement input wire payload := by
  have hother : ∀ key ∉ unitFields, (without fields payload).lookup key = payload.lookup key :=
    fun key => hzero.lookup_other
  simp only [SessionClient.validateEndSettlement, SessionClient.endChecks, hzero.orZero_lookup,
    hother "outcome" (by decide), hother "state" (by decide), hother "gateway_session_id" (by decide),
    hother "session_id" (by decide), hother "work_id" (by decide), hother "authorization_id" (by decide),
    hother "settlement_domain_id" (by decide), hother "work_unit_name" (by decide),
    hother "settlement_seq" (by decide)]

/-! ## Amounts that have to be there -/

def Names (payload : List (String × JsonValue)) (expected : List (String × String)) : Prop :=
  ∀ entry ∈ expected, requiredWireText (payload.lookup entry.1) = some entry.2

theorem ZeroUnits.names_iff (hzero : ZeroUnits fields payload) {expected : List (String × String)}
    (hkeys : ∀ entry ∈ expected, entry.1 ∉ unitFields) :
    Names (without fields payload) expected ↔ Names payload expected := by
  unfold Names
  refine forall₂_congr fun entry hentry => ?_
  rw [hzero.lookup_other (hkeys entry hentry)]

/-- Evidence that is in order when the rest of it is and each of some amounts is read as
expected: leaving zeros out makes no difference exactly when none of these is left out, or
when the evidence was not in order. -/
theorem same_without_iff {inOrder : List (String × JsonValue) → Prop} {amounts : List String}
    (rest : List (String × JsonValue) → Prop) (holds : Option JsonValue → Prop)
    (horder : ∀ p, inOrder p ↔ rest p ∧ ∀ field ∈ amounts, holds (p.lookup field))
    (hrest : rest (without fields payload) ↔ rest payload) (habsent : ¬ holds none) :
    (inOrder (without fields payload) ↔ inOrder payload) ↔
      ((∀ field ∈ fields, field ∉ amounts) ∨ ¬ inOrder payload) := by
  by_cases hdisjoint : ∀ field ∈ fields, field ∉ amounts
  · have hsame : ∀ field ∈ amounts, (without fields payload).lookup field = payload.lookup field :=
      fun field hamount => lookup_without_of_notMem fun hmem => hdisjoint field hmem hamount
    refine iff_of_true ?_ (.inl hdisjoint)
    rw [horder, horder, hrest]
    refine and_congr_right fun _ => forall₂_congr fun field hamount => ?_
    rw [hsame field hamount]
  · push Not at hdisjoint
    obtain ⟨field, hmem, hamount⟩ := hdisjoint
    have hnot : ¬ inOrder (without fields payload) := by
      intro h
      have hread := ((horder _).mp h).2 field hamount
      rw [lookup_without_of_mem hmem] at hread
      exact habsent hread
    have hsome : ¬ ∀ field ∈ fields, field ∉ amounts := fun hall => hall field hmem hamount
    simp only [hnot, hsome, false_iff, false_or]

end

/-! ## A refused open -/

section
variable (opened : LocOpenSessionResult) (gatewaySessionId : String) (body : SessionClient.CapacityOpenWire)

def capacityUnits : List String := ["actual_units", "claimed_units", "debited_units"]

def capacityTexts : List (String × String) :=
  [("gateway_session_id", gatewaySessionId), ("session_id", body.sessionId), ("work_id", opened.workId),
    ("authorization_id", opened.workId), ("settlement_domain_id", opened.routeSnapshot.settlementDomainId),
    ("work_unit_name", opened.routeSnapshot.workUnit)]

/-- Evidence that a refused open was settled with nothing. -/
structure CapacityEvidence (payload : List (String × JsonValue)) : Prop where
  gateway : body.gatewaySessionId = gatewaySessionId
  work : body.workId = opened.workId
  outcome : (requiredWireText (payload.lookup "outcome")).isSome
  names : Names payload (capacityTexts opened gatewaySessionId body)
  units : ∀ field ∈ capacityUnits, SessionClient.safeUnits (payload.lookup field) = .ok 0

variable {opened gatewaySessionId body}

theorem session_otherText_false_iff {expected : String} :
    SessionClient.otherText value expected = .ok false ↔ requiredWireText value = some expected := by
  unfold SessionClient.otherText SessionClient.requiredString SessionClient.orFail
  cases requiredWireText value <;> simp [Except.map]

theorem otherUnits_false_iff {expected : Nat} :
    SessionClient.otherUnits value expected = .ok false ↔ SessionClient.safeUnits value = .ok expected := by
  unfold SessionClient.otherUnits
  cases SessionClient.safeUnits value <;> simp [Except.map]

theorem session_requiredString_iff {text : String} :
    SessionClient.requiredString value = .ok text ↔ requiredWireText value = some text := by
  unfold SessionClient.requiredString SessionClient.orFail
  cases requiredWireText value <;> simp

theorem capacity_accepts_iff :
    Accepts (SessionClient.validateCapacitySettlement opened gatewaySessionId body payload) ↔
      CapacityEvidence opened gatewaySessionId body payload := by
  have hchecks : anyOf (SessionClient.capacityChecks opened gatewaySessionId body payload) = .ok false ↔
      (body.gatewaySessionId = gatewaySessionId ∧ body.workId = opened.workId) ∧
      Names payload (capacityTexts opened gatewaySessionId body) ∧
      ∀ field ∈ capacityUnits, SessionClient.safeUnits (payload.lookup field) = .ok 0 := by
    rw [anyOf_false_iff]
    simp [SessionClient.capacityChecks, session_otherText_false_iff, otherUnits_false_iff, Names,
      capacityTexts, capacityUnits, and_assoc]
  constructor
  · rintro ⟨outcome, h⟩
    simp only [SessionClient.validateCapacitySettlement, ok_bind_iff] at h
    obtain ⟨text, htext, failed, hfailed, hresult⟩ := h
    cases failed with
    | true => simp [throw, throwThe, MonadExceptOf.throw, bind, Except.bind] at hresult
    | false =>
      obtain ⟨⟨hgateway, hwork⟩, hnames, hunits⟩ := hchecks.mp hfailed
      exact ⟨hgateway, hwork, by simp [session_requiredString_iff.mp htext], hnames, hunits⟩
  · rintro ⟨hgateway, hwork, houtcome, hnames, hunits⟩
    obtain ⟨text, htext⟩ := Option.isSome_iff_exists.mp houtcome
    refine ⟨text, ?_⟩
    rw [SessionClient.validateCapacitySettlement, session_requiredString_iff.mpr htext]
    simp only [bind, Except.bind]
    rw [hchecks.mpr ⟨⟨hgateway, hwork⟩, hnames, hunits⟩]
    rfl

theorem capacityEvidence_without {fields : List String} (hzero : ZeroUnits fields payload) :
    (CapacityEvidence opened gatewaySessionId body (without fields payload) ↔
        CapacityEvidence opened gatewaySessionId body payload) ↔
      ((∀ field ∈ fields, field ∉ capacityUnits) ∨
        ¬ CapacityEvidence opened gatewaySessionId body payload) := by
  refine same_without_iff
    (fun p => body.gatewaySessionId = gatewaySessionId ∧ body.workId = opened.workId ∧
      (requiredWireText (p.lookup "outcome")).isSome ∧ Names p (capacityTexts opened gatewaySessionId body))
    (fun value => SessionClient.safeUnits value = .ok 0) ?_ ?_ ?_
  · intro p
    exact ⟨fun h => ⟨⟨h.gateway, h.work, h.outcome, h.names⟩, h.units⟩,
      fun ⟨⟨hgateway, hwork, houtcome, hnames⟩, hunits⟩ => ⟨hgateway, hwork, houtcome, hnames, hunits⟩⟩
  · rw [hzero.lookup_other (by decide), hzero.names_iff (by simp [capacityTexts, unitFields])]
  · intro h
    cases h

end

/-! ## The settlement of a job -/

section
variable (opened : LocOpenJobResult) (brokerJobId workUnit : String) (units : Nat)

def jobUnits : List String := ["actual_units", "billed_units", "debited_units"]

def jobTexts : List (String × String) :=
  [("request_id", opened.requestId), ("job_id", brokerJobId), ("work_id", opened.workId),
    ("authorization_id", opened.workId), ("settlement_domain_id", opened.routeSnapshot.settlementDomainId),
    ("work_unit_name", opened.workUnit)]

def quoteTexts : List (String × String) :=
  [("quote_id", opened.routeSnapshot.binding.quoteId),
    ("quote_version", opened.routeSnapshot.binding.quoteVersion),
    ("constraint_fingerprint", hexAsBase64 opened.routeSnapshot.binding.constraintFingerprint),
    ("route_fingerprint", hexAsBase64 opened.routeSnapshot.binding.routeFingerprint)]

/-- Evidence that a job was settled with the units that were claimed. -/
structure JobEvidence (payload : List (String × JsonValue)) : Prop where
  quote : ∃ quote, payload.lookup "accepted_quote_ref" = some (.obj quote) ∧ Names quote (quoteTexts opened)
  outcome : ∃ outcome, requiredWireText (payload.lookup "outcome") = some outcome ∧ outcome ≠ "DEBIT_FAILED"
  names : Names payload (jobTexts opened brokerJobId)
  workUnit : workUnit = opened.workUnit
  units : ∀ field ∈ jobUnits, safeUnits (payload.lookup field) = .ok units

variable {opened brokerJobId workUnit units} {claim : JobClaim}

theorem otherText_false_iff {expected : String} :
    otherText value expected = .ok false ↔ requiredWireText value = some expected := by
  unfold otherText requiredString orInvalid
  cases requiredWireText value <;> simp [Except.map]

theorem requiredString_iff {text : String} :
    requiredString value = .ok text ↔ requiredWireText value = some text := by
  unfold requiredString orInvalid
  cases requiredWireText value <;> simp

theorem safeUnits_otherwise_iff {expected : Nat} :
    (safeUnits value).map (fun units => !decide (units = expected)) = .ok false ↔
      safeUnits value = .ok expected := by
  cases safeUnits value <;> simp [Except.map]

theorem settlementChecks_false_iff {quote : List (String × JsonValue)} {actualUnits : Nat} {outcome : String} :
    anyOf (settlementChecks opened claim quote actualUnits outcome) = .ok false ↔
      outcome ≠ "DEBIT_FAILED" ∧ Names claim.envelope.payload (jobTexts opened claim.brokerJobId) ∧
      claim.workUnit = opened.workUnit ∧ actualUnits = claim.actualUnits ∧
      (∀ field ∈ ["billed_units", "debited_units"],
        safeUnits (claim.envelope.payload.lookup field) = .ok actualUnits) ∧
      Names quote (quoteTexts opened) := by
  rw [anyOf_false_iff]
  simp [settlementChecks, otherText_false_iff, safeUnits_otherwise_iff, Names, jobTexts, quoteTexts, and_assoc]

theorem job_accepts_iff :
    Accepts (validateSettlement opened claim) ↔
      JobEvidence opened claim.brokerJobId claim.workUnit claim.actualUnits claim.envelope.payload := by
  constructor
  · rintro ⟨settlement, h⟩
    simp only [validateSettlement, ok_bind_iff] at h
    obtain ⟨quote, hquote, actualUnits, hactual, outcome, houtcome, failed, hfailed, hresult⟩ := h
    cases failed with
    | true => simp [throw, throwThe, MonadExceptOf.throw, bind, Except.bind] at hresult
    | false =>
      obtain ⟨hdebit, hnames, hunit, rfl, hunits, hquotes⟩ := settlementChecks_false_iff.mp hfailed
      refine ⟨⟨quote, asRecord_ok hquote, hquotes⟩, ⟨outcome, requiredString_iff.mp houtcome, hdebit⟩,
        hnames, hunit, ?_⟩
      rw [jobUnits, List.forall_mem_cons]
      exact ⟨hactual, hunits⟩
  · rintro ⟨⟨quote, hquote, hquotes⟩, ⟨outcome, houtcome, hdebit⟩, hnames, hunit, hunits⟩
    rw [jobUnits, List.forall_mem_cons] at hunits
    have hchecks := settlementChecks_false_iff.mpr ⟨hdebit, hnames, hunit, rfl, hunits.2, hquotes⟩
    refine ⟨⟨claim.brokerJobId, claim.actualUnits, claim.workUnit, outcome, claim.envelope⟩, ?_⟩
    rw [validateSettlement, hquote, requiredString_iff.mpr houtcome, hunits.1]
    simp only [asRecord, bind, Except.bind]
    rw [hchecks]
    rfl

theorem jobEvidence_without {fields : List String} (hzero : ZeroUnits fields payload) :
    (JobEvidence opened brokerJobId workUnit units (without fields payload) ↔
        JobEvidence opened brokerJobId workUnit units payload) ↔
      ((∀ field ∈ fields, field ∉ jobUnits) ∨ ¬ JobEvidence opened brokerJobId workUnit units payload) := by
  refine same_without_iff
    (fun p =>
      (∃ quote, p.lookup "accepted_quote_ref" = some (.obj quote) ∧ Names quote (quoteTexts opened)) ∧
      (∃ outcome, requiredWireText (p.lookup "outcome") = some outcome ∧ outcome ≠ "DEBIT_FAILED") ∧
      Names p (jobTexts opened brokerJobId) ∧ workUnit = opened.workUnit)
    (fun value => safeUnits value = .ok units) ?_ ?_ ?_
  · intro p
    exact ⟨fun h => ⟨⟨h.quote, h.outcome, h.names, h.workUnit⟩, h.units⟩,
      fun ⟨⟨hquote, houtcome, hnames, hunit⟩, hunits⟩ => ⟨hquote, houtcome, hnames, hunit, hunits⟩⟩
  · rw [hzero.lookup_other (by decide), hzero.lookup_other (by decide),
      hzero.names_iff (by simp [jobTexts, unitFields])]
  · intro h
    cases h

end

def JobClaim.withPayload (claim : JobClaim) (payload : List (String × JsonValue)) : JobClaim :=
  { claim with envelope := { claim.envelope with payload } }

/-- Leaving out zero amounts never changes what the end of a session accepts. It changes what the
other two accept exactly when one of the amounts they read is left out of evidence in order. -/
theorem omitted_units_acceptance {fields : List String} {payload : List (String × JsonValue)}
    (hzero : ZeroUnits fields payload) :
    (∀ input wire, Accepts (SessionClient.validateEndSettlement input wire (without fields payload)) ↔
      Accepts (SessionClient.validateEndSettlement input wire payload)) ∧
    (∀ opened gatewaySessionId body,
      (Accepts (SessionClient.validateCapacitySettlement opened gatewaySessionId body (without fields payload)) ↔
        Accepts (SessionClient.validateCapacitySettlement opened gatewaySessionId body payload)) ↔
      ((∀ field ∈ fields, field ∉ capacityUnits) ∨
        ¬ CapacityEvidence opened gatewaySessionId body payload)) ∧
    ∀ (opened : LocOpenJobResult) (claim : JobClaim),
      (Accepts (validateSettlement opened (claim.withPayload (without fields payload))) ↔
        Accepts (validateSettlement opened (claim.withPayload payload))) ↔
      ((∀ field ∈ fields, field ∉ jobUnits) ∨
        ¬ JobEvidence opened claim.brokerJobId claim.workUnit claim.actualUnits payload) := by
  refine ⟨?_, ?_, ?_⟩
  · intro input wire
    rw [validateEndSettlement_without hzero]
  · intro opened gatewaySessionId body
    rw [capacity_accepts_iff, capacity_accepts_iff]
    exact capacityEvidence_without hzero
  · intro opened claim
    rw [job_accepts_iff, job_accepts_iff]
    exact jobEvidence_without hzero

/-! ## A settlement of nothing -/

section
def refusedOpen : LocOpenSessionResult where
  operationId := "loc-1"
  gatewaySessionId := "gateway-1"
  requestId := "req_1"
  workId := "work-1"
  brokerUrl := "https://broker.example"
  descriptorSchema := "rtmp-hls/v1"
  routeSnapshot := { sampleOpened.routeSnapshot with workUnit := "output_seconds" }
  spendAuthorization := "YQ=="
  paymentEnvelope := none

def refusedBody : SessionClient.CapacityOpenWire := ⟨"session-1", "gateway-1", "work-1"⟩

def zeroAmounts : List (String × JsonValue) :=
  [("actual_units", .str "0"), ("claimed_units", .str "0"), ("billed_units", .str "0"),
    ("debited_units", .str "0")]

def refusedPayload : List (String × JsonValue) :=
  [("gateway_session_id", .str "gateway-1"), ("session_id", .str "session-1"), ("work_id", .str "work-1"),
    ("authorization_id", .str "work-1"),
    ("settlement_domain_id", .str refusedOpen.routeSnapshot.settlementDomainId),
    ("work_unit_name", .str "output_seconds"), ("outcome", .str "CAPACITY_EXHAUSTED")] ++ zeroAmounts

def emptyClaim : JobClaim := { sampleClaim with actualUnits := 0 }

def emptyPayload : List (String × JsonValue) :=
  (sampleClaim.envelope.payload.filter fun entry => !unitFields.contains entry.1) ++ zeroAmounts

theorem refusedPayload_zero : ZeroUnits ["actual_units", "claimed_units", "debited_units"] refusedPayload := by
  intro field hfield
  simp only [List.mem_cons, List.not_mem_nil, or_false] at hfield
  rcases hfield with rfl | rfl | rfl <;> exact ⟨by decide, by rfl⟩

theorem omitted_units_acceptance_refused :
    ZeroUnits ["actual_units", "claimed_units", "debited_units"] refusedPayload ∧
    ∀ input wire, Accepts (SessionClient.validateEndSettlement input wire
        (without ["actual_units", "claimed_units", "debited_units"] refusedPayload)) ↔
      Accepts (SessionClient.validateEndSettlement input wire refusedPayload) :=
  ⟨refusedPayload_zero, (omitted_units_acceptance refusedPayload_zero).1⟩

/-- The settlement of a refused open and of a job that did nothing, each accepted in full and
not accepted when an encoder left the zeros out. -/
theorem zero_settlements_rejected :
    (ZeroUnits ["actual_units", "claimed_units", "debited_units"] refusedPayload ∧
      Accepts (SessionClient.validateCapacitySettlement refusedOpen "gateway-1" refusedBody refusedPayload) ∧
      ¬ Accepts (SessionClient.validateCapacitySettlement refusedOpen "gateway-1" refusedBody
        (without ["actual_units", "claimed_units", "debited_units"] refusedPayload))) ∧
    ZeroUnits ["billed_units"] emptyPayload ∧
      Accepts (validateSettlement sampleOpened (emptyClaim.withPayload emptyPayload)) ∧
      ¬ Accepts (validateSettlement sampleOpened (emptyClaim.withPayload (without ["billed_units"] emptyPayload))) := by
  refine ⟨⟨refusedPayload_zero, ⟨"CAPACITY_EXHAUSTED", by rfl⟩, ?_⟩, ?_, ⟨_, by rfl⟩, ?_⟩
  · rintro ⟨outcome, h⟩
    cases h
  · intro field hfield
    rw [List.mem_singleton.mp hfield]
    exact ⟨by decide, by rfl⟩
  · rintro ⟨settlement, h⟩
    cases h

end

end LivepeerTranscode.Gateway
