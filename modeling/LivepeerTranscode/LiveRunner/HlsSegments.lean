import LivepeerTranscode.LiveRunner.HlsProxy

/-!
# Finalized segments of a playlist

`ParseFinalizedHLSSegmentsV1` and `parseHLSMicrosecondsV1` of `live-runner/metering.go`. A playlist is
the bytes its reader gives.
-/

namespace LivepeerTranscode.LiveRunner
open GoText
set_option autoImplicit false

/-! ## Durations -/

def isDigit (b : UInt8) : Bool := 48 ≤ b.toNat && b.toNat ≤ 57

def digitValue (digits : Bytes) : Nat := digits.foldl (fun n b => 10 * n + (b.toNat - 48)) 0

/-- `strconv.ParseUint` in base ten. -/
def parseUint (bits : Nat) (digits : Bytes) : Option Nat :=
  if digits ≠ [] ∧ digits.all isDigit ∧ digitValue digits < 2 ^ bits then some (digitValue digits) else none

/-- What `strings.TrimSpace` takes off. -/
def spaces : List Bytes :=
  (List.range' 9 5 ++ [0x20, 0x85, 0xA0, 0x1680] ++ List.range' 0x2000 11 ++
    [0x2028, 0x2029, 0x202F, 0x205F, 0x3000]).map fun n => String.utf8EncodeChar (Char.ofNat n)

def trimmed (raw : Bytes) : Bool := !spaces.any fun space => space.isPrefixOf raw || space.isSuffixOf raw

def microseconds (seconds fraction : Option Nat) : Option Nat := do
  let duration := ((← seconds) * 1000000 + (← fraction)) % 2 ^ 64
  if duration = 0 then none else some duration

/-- `none` stands for the one error. -/
def parseHLSMicrosecondsV1 (raw : Bytes) : Option Nat :=
  if raw = [] ∨ ¬ trimmed raw ∨ raw.head? = some (byte '-') ∨ raw.head? = some (byte '+') then none
  else match raw.splitOn (byte '.') with
    | [whole] => if whole = [] then none else microseconds (parseUint 58 whole) (some 0)
    | [whole, fraction] =>
      if whole = [] ∨ fraction = [] ∨ 6 < fraction.length then none
      else microseconds (parseUint 58 whole)
        (parseUint 64 (fraction ++ List.replicate (6 - fraction.length) (byte '0')))
    | _ => none

/-- The digits of a decimal number before and after its point. -/
def decimalDigits (raw : Bytes) : Option (Bytes × Bytes) :=
  match raw.splitOn (byte '.') with
  | [whole] => if whole ≠ [] ∧ whole.all isDigit then some (whole, []) else none
  | [whole, fraction] =>
    if whole ≠ [] ∧ whole.all isDigit ∧ fraction ≠ [] ∧ fraction.all isDigit then some (whole, fraction) else none
  | _ => none

def exactMicroseconds (digits : Bytes × Bytes) : ℚ :=
  (digitValue digits.1 + digitValue digits.2 / 10 ^ digits.2.length) * 10 ^ 6

theorem digitValue_concat (digits : Bytes) (b : UInt8) :
    digitValue (digits ++ [b]) = 10 * digitValue digits + (b.toNat - 48) := by
  simp [digitValue]

theorem digitValue_zeros (digits : Bytes) (count : Nat) :
    digitValue (digits ++ List.replicate count (byte '0')) = digitValue digits * 10 ^ count := by
  induction count with
  | zero => simp
  | succ count ih =>
    rw [List.replicate_succ', ← List.append_assoc, digitValue_concat, ih, pow_succ]
    change 10 * (digitValue digits * 10 ^ count) + 0 = _
    ring

theorem digitValue_lt {digits : Bytes} (h : digits.all isDigit = true) :
    digitValue digits < 10 ^ digits.length := by
  induction digits using List.reverseRecOn with
  | nil => exact Nat.one_pos
  | append_singleton before b ih =>
    rw [List.all_append, Bool.and_eq_true] at h
    have hb := h.2
    have hbefore := ih h.1
    simp only [List.all_cons, List.all_nil, Bool.and_true, isDigit, Bool.and_eq_true, decide_eq_true_eq] at hb
    rw [digitValue_concat, List.length_append, List.length_singleton, pow_succ]
    omega

/-- A decimal number has only digits and a point. -/
theorem decimal_accepted {raw : Bytes} {digits : Bytes × Bytes} (h : decimalDigits raw = some digits) :
    ¬ (raw = [] ∨ ¬ trimmed raw ∨ raw.head? = some (byte '-') ∨ raw.head? = some (byte '+')) := by
  have hraw : raw ≠ [] ∧ ∀ b ∈ raw, (isDigit b || b == byte '.') = true := by
    have hparts := @List.intercalate_splitOn _ raw _ _ (byte '.')
    unfold decimalDigits at h
    split at h
    · rename_i hsplit
      obtain ⟨⟨hne, hall⟩, -⟩ := Option.ite_none_right_eq_some.mp h
      rw [hsplit, List.intercalate_singleton] at hparts
      subst hparts
      exact ⟨hne, fun b hb => by simp [List.all_eq_true.mp hall b hb]⟩
    · rename_i hsplit
      obtain ⟨⟨hne, hall, -, hfraction⟩, -⟩ := Option.ite_none_right_eq_some.mp h
      rw [hsplit, List.intercalate_cons_cons, List.intercalate_singleton] at hparts
      rw [List.all_eq_true] at hall hfraction
      refine ⟨by simp [← hparts], fun b hb => ?_⟩
      simp only [← hparts, List.mem_append, List.mem_singleton] at hb
      rcases hb with (hb | rfl) | hb
      · simp [hall b hb]
      · simp
      · simp [hfraction b hb]
    · cases h
  have hspaces : (spaces.all fun space => space.any fun b => !(isDigit b || b == byte '.')) = true := rfl
  have hother : ∀ b, ¬ (isDigit b || b == byte '.') = true → raw.head? ≠ some b :=
    fun b hb hhead => hb (hraw.2 b (List.mem_of_head? hhead))
  have htrimmed : trimmed raw = true := by
    simp only [trimmed, Bool.not_eq_true', List.any_eq_false, Bool.or_eq_true, List.isPrefixOf_iff_prefix,
      List.isSuffixOf_iff_suffix, not_or]
    intro space hspace
    obtain ⟨b, hb, hbad⟩ := List.any_eq_true.mp (List.all_eq_true.mp hspaces space hspace)
    rw [Bool.not_eq_true', ← Bool.not_eq_true] at hbad
    exact ⟨fun hpre => hbad (hraw.2 b (hpre.subset hb)), fun hsuf => hbad (hraw.2 b (hsuf.subset hb))⟩
  rintro (hnil | huntrimmed | hminus | hplus)
  · exact hraw.1 hnil
  · exact huntrimmed htrimmed
  · exact hother _ (by decide) hminus
  · exact hother _ (by decide) hplus

theorem parseUint_none {bits : Nat} {digits : Bytes} (h : ¬ (digits ≠ [] ∧ digits.all isDigit = true)) :
    parseUint bits digits = none :=
  if_neg fun hdigits => h ⟨hdigits.1, hdigits.2.1⟩

theorem parseUint_some {bits : Nat} {digits : Bytes} (hne : digits ≠ []) (hall : digits.all isDigit = true)
    (hlt : digitValue digits < 2 ^ bits) : parseUint bits digits = some (digitValue digits) :=
  if_pos ⟨hne, hall, hlt⟩

theorem microseconds_some (seconds fraction : Nat) : microseconds (some seconds) (some fraction) =
    if (seconds * 1000000 + fraction) % 2 ^ 64 = 0 then none
    else some ((seconds * 1000000 + fraction) % 2 ^ 64) := by
  rw [microseconds, Option.bind_eq_bind, Option.bind_some, Option.bind_some]

theorem microseconds_none (fraction : Option Nat) : microseconds none fraction = none := by
  rw [microseconds, Option.bind_eq_bind, Option.bind_none]

def scaledMicroseconds (digits : Bytes × Bytes) : Nat :=
  digitValue digits.1 * 1000000 + digitValue digits.2 * 10 ^ (6 - digits.2.length)

theorem parse_decimal {raw : Bytes} {digits : Bytes × Bytes} (h : decimalDigits raw = some digits) :
    parseHLSMicrosecondsV1 raw =
      if 6 < digits.2.length ∨ 2 ^ 58 ≤ digitValue digits.1 ∨ scaledMicroseconds digits % 2 ^ 64 = 0 then none
      else some (scaledMicroseconds digits % 2 ^ 64) := by
  have hseconds : ∀ {whole : Bytes}, whole ≠ [] → whole.all isDigit = true → ∀ fraction : Nat,
      microseconds (parseUint 58 whole) (some fraction) =
        if 2 ^ 58 ≤ digitValue whole ∨ (digitValue whole * 1000000 + fraction) % 2 ^ 64 = 0 then none
        else some ((digitValue whole * 1000000 + fraction) % 2 ^ 64) := by
    intro whole hne hall fraction
    by_cases hlt : digitValue whole < 2 ^ 58
    · rw [parseUint_some hne hall hlt, microseconds_some]
      by_cases hzero : (digitValue whole * 1000000 + fraction) % 2 ^ 64 = 0
      · rw [if_pos hzero, if_pos (.inr hzero)]
      · rw [if_neg hzero, if_neg (not_or.mpr ⟨Nat.not_le.mpr hlt, hzero⟩)]
    · rw [parseUint, if_neg fun hfits => hlt hfits.2.2, if_pos (.inl (Nat.not_lt.mp hlt))]
      rfl
  rw [parseHLSMicrosecondsV1, if_neg (decimal_accepted h)]
  unfold decimalDigits at h
  split at h
  · obtain ⟨⟨hne, hall⟩, heq⟩ := Option.ite_none_right_eq_some.mp h
    cases heq
    simp only [if_neg hne, hseconds hne hall]
    simp [scaledMicroseconds, digitValue]
  · rename_i whole fraction hsplit
    obtain ⟨⟨hne, hwhole, hfraction, hall⟩, heq⟩ := Option.ite_none_right_eq_some.mp h
    cases heq
    simp only [hne, hfraction, false_or]
    by_cases hlength : 6 < fraction.length
    · simp [hlength]
    · have hvalue := digitValue_zeros fraction (6 - fraction.length)
      have hlt : digitValue (fraction ++ List.replicate (6 - fraction.length) (byte '0')) < 10 ^ 6 := by
        rw [hvalue]
        calc digitValue fraction * 10 ^ (6 - fraction.length)
            < 10 ^ fraction.length * 10 ^ (6 - fraction.length) :=
              Nat.mul_lt_mul_of_pos_right (digitValue_lt hall) (by positivity)
          _ = 10 ^ 6 := by rw [← pow_add, Nat.add_sub_cancel' (by omega)]
      have hdigits : (fraction ++ List.replicate (6 - fraction.length) (byte '0')).all isDigit = true := by
        rw [List.all_append, hall, Bool.true_and, List.all_replicate]
        simp [show isDigit (byte '0') = true from rfl]
      rw [parseUint_some (List.append_ne_nil_of_left_ne_nil hfraction _) hdigits (by omega), hvalue,
        hseconds hne hwhole]
      simp [hlength, scaledMicroseconds]
  · cases h

theorem parse_undecimal {raw : Bytes} (h : decimalDigits raw = none) : parseHLSMicrosecondsV1 raw = none := by
  unfold parseHLSMicrosecondsV1
  split
  · rfl
  unfold decimalDigits at h
  split
  · rename_i whole hsplit
    rw [hsplit] at h
    have hbad : ¬ (whole ≠ [] ∧ whole.all isDigit = true) := fun hgood => by simp [hgood] at h
    rw [parseUint_none hbad, microseconds_none, ite_self]
  · rename_i whole fraction hsplit
    rw [hsplit] at h
    simp only [ite_eq_right_iff, reduceCtorEq, imp_false] at h
    split
    · rfl
    rename_i hshape
    by_cases hwhole : whole ≠ [] ∧ whole.all isDigit = true
    · have hbad : ¬ (fraction ++ List.replicate (6 - fraction.length) (byte '0')).all isDigit = true := by
        rw [List.all_append, Bool.and_eq_true]
        exact fun hall => h ⟨hwhole.1, hwhole.2, fun hnil => hshape (.inr (.inl hnil)), hall.1⟩
      rw [parseUint_none fun hgood => hbad hgood.2]
      cases parseUint 58 whole with
      | none => exact microseconds_none _
      | some seconds => rw [microseconds, Option.bind_eq_bind, Option.bind_some, Option.bind_none]
    · rw [parseUint_none hwhole, microseconds_none]
  · rfl

/-- Accepted durations are exact, and too large ones are refused, when the exact value fits in 64 bits
or the seconds do not fit in 58, the fraction has more than six digits or nothing is left of the value
modulo `2 ^ 64`. -/
theorem hls_microseconds_exact_iff (raw : Bytes) :
    ((∀ duration, parseHLSMicrosecondsV1 raw = some duration →
        ∃ digits, decimalDigits raw = some digits ∧ exactMicroseconds digits = duration) ∧
      ∀ digits, decimalDigits raw = some digits → 2 ^ 64 ≤ exactMicroseconds digits →
        parseHLSMicrosecondsV1 raw = none) ↔
    ∀ digits, decimalDigits raw = some digits → digits.2.length ≤ 6 → digitValue digits.1 < 2 ^ 58 →
      2 ^ 64 ≤ exactMicroseconds digits → ∃ k : ℕ, exactMicroseconds digits = k * 2 ^ 64 := by
  cases hdigits : decimalDigits raw with
  | none => simp [parse_undecimal hdigits]
  | some digits =>
    simp only [Option.some.injEq, forall_eq', exists_eq_left']
    rw [parse_decimal hdigits]
    by_cases hshape : 6 < digits.2.length ∨ 2 ^ 58 ≤ digitValue digits.1
    · rw [if_pos (hshape.imp_right .inl)]
      refine ⟨fun _ hlength hseconds => ?_, fun _ => ⟨nofun, fun _ => rfl⟩⟩
      exact absurd hshape (not_or.mpr ⟨Nat.not_lt.mpr hlength, Nat.not_le.mpr hseconds⟩)
    obtain ⟨hlength, hseconds⟩ := not_or.mp hshape
    have hexact : exactMicroseconds digits = scaledMicroseconds digits := by
      have hsplit : (10 : ℚ) ^ 6 = 10 ^ (6 - digits.2.length) * 10 ^ digits.2.length := by
        rw [← pow_add, Nat.sub_add_cancel (by omega)]
      rw [exactMicroseconds, add_mul, scaledMicroseconds]
      push_cast
      rw [show (1000000 : ℚ) = 10 ^ 6 by norm_num, add_right_inj, hsplit]
      field_simp
    generalize scaledMicroseconds digits = total at *
    simp only [hlength, hseconds, false_or, hexact, Nat.not_lt.mp hlength, Nat.not_le.mp hseconds, true_imp_iff]
    constructor
    · rintro ⟨-, hrefused⟩ hlarge
      have hzero : total % 2 ^ 64 = 0 := by
        by_contra hne
        have hnone := hrefused hlarge
        rw [if_neg hne] at hnone
        cases hnone
      exact ⟨total / 2 ^ 64, by exact_mod_cast (Nat.div_mul_cancel (Nat.dvd_of_mod_eq_zero hzero)).symm⟩
    · intro hwhole
      by_cases hzero : total % 2 ^ 64 = 0
      · rw [if_pos hzero]
        exact ⟨nofun, fun _ => rfl⟩
      have hsmall : total < 2 ^ 64 := by
        by_contra hlarge
        obtain ⟨k, hk⟩ := hwhole (by exact_mod_cast Nat.not_lt.mp hlarge)
        have hmultiple : total = k * 2 ^ 64 := by exact_mod_cast hk
        exact hzero (hmultiple ▸ Nat.mul_mod_left _ _)
      rw [if_neg hzero, Nat.mod_eq_of_lt hsmall]
      refine ⟨fun duration heq => congrArg Nat.cast (Option.some.inj heq), fun hlarge => absurd hlarge ?_⟩
      exact_mod_cast Nat.not_le.mpr hsmall

/-- A duration beyond 64 bits is accepted as a microsecond, and metered as one. -/
theorem hls_microseconds_wrap :
    decimalDigits (goBytes "18446744073709.551617") = some (goBytes "18446744073709", goBytes "551617") ∧
    exactMicroseconds (goBytes "18446744073709", goBytes "551617") = 2 ^ 64 + 1 ∧
    parseHLSMicrosecondsV1 (goBytes "18446744073709.551617") = some 1 ∧
    (meterSegments samplePlatform ⟨5, [], false⟩ [⟨goBytes "segment.mp4", 1⟩]).toOption.map (·.microseconds) = some 6 := by
  decide +kernel

end LivepeerTranscode.LiveRunner
