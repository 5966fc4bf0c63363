import LivepeerTranscode.LiveRunner.Runs

/-!
# The delay before a callback is tried again

`callbackRetryDelayV1` once more with every intermediate result held in 64 bits, and the bounds
of the delay it returns.
-/

namespace LivepeerTranscode.LiveRunner
open GoText
set_option autoImplicit false

/-- A result of signed 64-bit arithmetic, where it did not overflow. -/
def int64 (n : Int) : Option Int := if -2 ^ 63 ≤ n ∧ n < 2 ^ 63 then some n else none

def doubleBackoff64 (maximum : Int) : Nat → Int → Option Int
  | 0, base => some base
  | steps + 1, base =>
    if base < maximum then do
      let half ← int64 (maximum / 2)
      if half < base then some maximum
      else
        let doubled ← int64 (base * 2)
        doubleBackoff64 maximum steps doubled
    else some base

/-- `(base/1000)*delta + (base%1000)*delta/1000`, its two terms -/
def jitterTerms (base delta : Int) : Option (Int × Int) := do
  let whole ← int64 (base / 1000 * delta)
  let product ← int64 (base % 1000 * delta)
  return (whole, product / 1000)

def callbackRetryDelay64 (P : Platform) (eventID : String) (attempt : Nat) (initial maximum : Int) :
    Option Int := do
  let base ← doubleBackoff64 maximum (attempt - 1) initial
  let value := digestPrefix (P.sha256Hex (goBytes (eventID ++ ":" ++ toString attempt)))
  let factor : Int := 750 + (value % 501 : Nat)
  if factor = 1000 then return base
  else if factor < 1000 then
    let delta ← int64 (1000 - factor)
    let (whole, part) ← jitterTerms base delta
    let less ← int64 (base - whole)
    int64 (less - part)
  else
    let delta ← int64 (factor - 1000)
    let (whole, part) ← jitterTerms base delta
    let extra ← int64 (whole + part)
    let room ← int64 (maximum - base)
    if room < extra then return maximum else int64 (base + extra)

theorem int64_of_lt {n : Int} (h : 0 ≤ n) (h' : n < 2 ^ 63) : int64 n = some n :=
  if_pos ⟨by omega, h'⟩

section
variable {maximum base delta : Int} (hmax : maximum < 2 ^ 63)
include hmax

theorem doubleBackoff_eq_min (steps : Nat) (hbase : 0 < base) (hle : base ≤ maximum) :
    doubleBackoff64 maximum steps base = some (doubleBackoff maximum steps base) ∧
      doubleBackoff maximum steps base = min (base * 2 ^ steps) maximum := by
  induction steps generalizing base with
  | zero => exact ⟨rfl, by rw [pow_zero, mul_one, min_eq_left hle]; rfl⟩
  | succ steps ih =>
    have hpow : (1 : Int) ≤ 2 ^ steps := one_le_pow₀ (by norm_num)
    have hgrows : base * 2 ≤ base * 2 ^ (steps + 1) := by
      rw [pow_succ]
      nlinarith
    rw [doubleBackoff64, doubleBackoff, int64_of_lt (by omega) (by omega)]
    by_cases hlt : base < maximum
    · by_cases hhalf : maximum / 2 < base
      · simp only [if_pos hlt, if_pos hhalf]
        exact ⟨by simp [hhalf], (min_eq_right (by omega)).symm⟩
      · have hnext := @ih (base * 2) (by omega) (by omega)
        rw [pow_succ, mul_comm (2 ^ steps) 2, ← mul_assoc]
        simp only [if_pos hlt, if_neg hhalf, Option.bind_eq_bind, Option.bind_some,
          int64_of_lt (show 0 ≤ base * 2 by omega) (by omega)]
        exact hnext
    · have hsame : base = maximum := by omega
      simp only [if_neg hlt]
      exact ⟨trivial, by rw [hsame] at hgrows ⊢; rw [min_eq_right (by omega)]⟩

omit hmax in
theorem jitter_le (hbase : 0 ≤ base) (hdelta : 0 ≤ delta) (hquarter : delta ≤ 250) :
    0 ≤ base / 1000 * delta ∧ 0 ≤ base % 1000 * delta ∧
      4 * (base / 1000 * delta + base % 1000 * delta / 1000) ≤ base ∧ base % 1000 * delta ≤ 249750 := by
  have hwhole : 0 ≤ base / 1000 := Int.ediv_nonneg hbase (by norm_num)
  have hrest : 0 ≤ base % 1000 ∧ base % 1000 < 1000 := ⟨Int.emod_nonneg _ (by norm_num), by omega⟩
  have hproduct : base / 1000 * delta ≤ base / 1000 * 250 := by nlinarith
  have hpart : base % 1000 * delta ≤ base % 1000 * 250 := by nlinarith
  refine ⟨by positivity, mul_nonneg hrest.1 hdelta, ?_, by omega⟩
  omega

theorem jitterTerms_eq (hbase : 0 ≤ base) (hle : base ≤ maximum) (hdelta : 0 ≤ delta) (hquarter : delta ≤ 250) :
    jitterTerms base delta = some (base / 1000 * delta, base % 1000 * delta / 1000) := by
  obtain ⟨hwhole, hproduct, hquarters, hsmall⟩ := jitter_le hbase hdelta hquarter
  have hpart : 0 ≤ base % 1000 * delta / 1000 := Int.ediv_nonneg hproduct (by norm_num)
  rw [jitterTerms, int64_of_lt hwhole (by omega), int64_of_lt hproduct (by omega)]
  rfl

end

/-- The delay is within a quarter of the capped backoff and at most the maximum, and no step of
its computation overflows. -/
theorem callback_retry_delay_bounds (P : Platform) (eventID : String) (n : Nat) (_ : 1 ≤ n)
    (initial maximum : Int) (hinitial : 0 < initial) (hle : initial ≤ maximum) (hmax : maximum < 2 ^ 63) :
    callbackRetryDelay64 P eventID n initial maximum =
        some (callbackRetryDelayV1 P eventID n initial maximum) ∧
      0 < callbackRetryDelayV1 P eventID n initial maximum ∧
      3 * min (initial * 2 ^ (n - 1)) maximum ≤ 4 * callbackRetryDelayV1 P eventID n initial maximum ∧
      callbackRetryDelayV1 P eventID n initial maximum ≤ maximum ∧
      4 * callbackRetryDelayV1 P eventID n initial maximum ≤ 5 * min (initial * 2 ^ (n - 1)) maximum := by
  obtain ⟨hchecked, hmin⟩ := doubleBackoff_eq_min hmax (n - 1) hinitial hle
  have hpow : (1 : Int) ≤ 2 ^ (n - 1) := one_le_pow₀ (by norm_num)
  have hpositive : 0 < min (initial * 2 ^ (n - 1)) maximum := lt_min (by positivity) (by omega)
  have hcapped : min (initial * 2 ^ (n - 1)) maximum ≤ maximum := min_le_right _ _
  unfold callbackRetryDelay64 callbackRetryDelayV1
  rw [hchecked, hmin]
  generalize min (initial * 2 ^ (n - 1)) maximum = base at *
  generalize digestPrefix (P.sha256Hex (goBytes (eventID ++ ":" ++ toString n))) = value
  have hvalue : value % 501 < 501 := Nat.mod_lt _ (by norm_num)
  simp only [Option.bind_eq_bind, Option.bind_some]
  generalize hfactor : (750 : Int) + (value % 501 : Nat) = factor
  split
  · exact ⟨rfl, by omega, by omega, by omega, by omega⟩
  · split
    · obtain ⟨hwhole, hproduct, hquarters, -⟩ := @jitter_le base (1000 - factor) (by omega)
        (by omega) (by omega)
      have hpart : 0 ≤ base % 1000 * (1000 - factor) / 1000 := Int.ediv_nonneg hproduct (by norm_num)
      rw [int64_of_lt (by omega) (by omega), Option.bind_some, jitterTerms_eq hmax (by omega) hcapped (by omega)
        (by omega), Option.bind_some]
      dsimp only
      rw [int64_of_lt (by omega) (by omega), Option.bind_some, int64_of_lt (by omega) (by omega)]
      exact ⟨rfl, by omega, by omega, by omega, by omega⟩
    · obtain ⟨hwhole, hproduct, hquarters, -⟩ := @jitter_le base (factor - 1000) (by omega)
        (by omega) (by omega)
      have hpart : 0 ≤ base % 1000 * (factor - 1000) / 1000 := Int.ediv_nonneg hproduct (by norm_num)
      rw [int64_of_lt (by omega) (by omega), Option.bind_some, jitterTerms_eq hmax (by omega) hcapped (by omega)
        (by omega), Option.bind_some]
      dsimp only
      rw [int64_of_lt (by omega) (by omega), Option.bind_some, int64_of_lt (by omega) (by omega), Option.bind_some]
      split
      · exact ⟨rfl, by omega, by omega, by omega, by omega⟩
      · rw [int64_of_lt (by omega) (by omega)]
        exact ⟨rfl, by omega, by omega, by omega, by omega⟩

/-- The third attempt of a policy from half a second to thirty seconds. -/
theorem callback_retry_delay_third :
    callbackRetryDelay64 samplePlatform "r1:1" 3 500000000 30000000000 =
        some (callbackRetryDelayV1 samplePlatform "r1:1" 3 500000000 30000000000) ∧
      3 * 2000000000 ≤ 4 * callbackRetryDelayV1 samplePlatform "r1:1" 3 500000000 30000000000 := by
  have hbounds := callback_retry_delay_bounds samplePlatform "r1:1" 3 (by decide) 500000000 30000000000
    (by decide) (by decide) (by decide)
  exact ⟨hbounds.1, hbounds.2.2.1⟩

end LivepeerTranscode.LiveRunner
