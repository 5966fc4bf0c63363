import Mathlib

/-!
# Numbers in double precision

A finite number is the rational it denotes. An operation is the exact one followed by
rounding to nearest, ties to even; a result beyond the largest finite number is `none`,
which also stands for a value that is not a number.
-/

namespace Binary64
set_option autoImplicit false

/-- The nearest integer, the even one of two. -/
def roundEven (q : ℚ) : ℤ :=
  let floor := ⌊q⌋
  if q - floor < 1 / 2 then floor
  else if 1 / 2 < q - floor then floor + 1
  else if floor % 2 = 0 then floor
  else floor + 1

/-- The exponent of the last bit a number of this size has. -/
def lastBit (x : ℚ) : ℤ := max (Int.log 2 |x|) (-1022) - 52

def round (x : ℚ) : Option ℚ :=
  let y := (roundEven (x / 2 ^ lastBit x) : ℚ) * 2 ^ lastBit x
  if |y| < 2 ^ (1024 : ℕ) then some y else none

def Representable (x : ℚ) : Prop := round x = some x

/-- `Number`, without the difference between the values that are not finite. -/
structure Number where
  value : Option ℚ
  representable : ∀ x ∈ value, Representable x

def mul (x y : ℚ) : Option ℚ := round (x * y)

/-- `Number.isSafeInteger` -/
def safeInteger (x : ℚ) : Option ℤ :=
  if x.den = 1 ∧ |x.num| ≤ 2 ^ 53 - 1 then some x.num else none

theorem floor_le_roundEven (q : ℚ) : ⌊q⌋ ≤ roundEven q := by
  unfold roundEven
  simp only
  split
  · exact le_refl _
  · split
    · omega
    · split
      · exact le_refl _
      · omega

theorem one_le_roundEven {q : ℚ} (h : 1 ≤ q) : 1 ≤ roundEven q := by
  have hfloor : 1 ≤ ⌊q⌋ := Int.le_floor.mpr (by exact_mod_cast h)
  exact le_trans hfloor (floor_le_roundEven q)

theorem two_zpow_pos (e : ℤ) : (0 : ℚ) < 2 ^ e := zpow_pos (by norm_num) e

theorem round_some {x y : ℚ} (h : round x = some y) :
    y = (roundEven (x / 2 ^ lastBit x) : ℚ) * 2 ^ lastBit x := by
  unfold round at h
  simp only at h
  split at h
  · exact (Option.some.inj h).symm
  · cases h

theorem lastBit_ge (x : ℚ) : -1074 ≤ lastBit x := by
  unfold lastBit
  have h := le_max_right (Int.log 2 |x|) (-1022)
  omega

theorem Representable.smallest_le {x : ℚ} (h : Representable x) (hpos : 0 < x) : 2 ^ (-1074 : ℤ) ≤ x := by
  have hx := round_some h
  have hbit := two_zpow_pos (lastBit x)
  have hmultiple : (0 : ℚ) < (roundEven (x / 2 ^ lastBit x) : ℚ) := by
    by_contra hneg
    have hle := mul_nonpos_of_nonpos_of_nonneg (not_lt.mp hneg) hbit.le
    rw [← hx] at hle
    exact absurd hpos (not_lt.mpr hle)
  have hone : (1 : ℚ) ≤ (roundEven (x / 2 ^ lastBit x) : ℚ) := by
    have hint : 0 < roundEven (x / 2 ^ lastBit x) := by exact_mod_cast hmultiple
    exact_mod_cast hint
  calc (2 : ℚ) ^ (-1074 : ℤ) ≤ 2 ^ lastBit x := zpow_le_zpow_right₀ (by norm_num) (lastBit_ge x)
    _ = 1 * 2 ^ lastBit x := (one_mul _).symm
    _ ≤ (roundEven (x / 2 ^ lastBit x) : ℚ) * 2 ^ lastBit x := mul_le_mul_of_nonneg_right hone hbit.le
    _ = x := hx.symm

theorem two_zpow_lastBit_le {x : ℚ} (h : 2 ^ (-1074 : ℤ) ≤ x) : 2 ^ lastBit x ≤ x := by
  have hpos : 0 < x := lt_of_lt_of_le (two_zpow_pos _) h
  unfold lastBit
  rcases le_total (Int.log 2 |x|) (-1022) with hsmall | hbig
  · rw [max_eq_right hsmall]
    exact h
  · rw [max_eq_left hbig, abs_of_pos hpos]
    calc (2 : ℚ) ^ (Int.log 2 x - 52) ≤ 2 ^ Int.log 2 x := zpow_le_zpow_right₀ (by norm_num) (by omega)
      _ ≤ x := by exact_mod_cast Int.zpow_log_le_self (by norm_num) hpos

theorem round_pos {x y : ℚ} (h : 2 ^ (-1074 : ℤ) ≤ x) (hy : round x = some y) : 0 < y := by
  have hbit := two_zpow_pos (lastBit x)
  have hone : 1 ≤ roundEven (x / 2 ^ lastBit x) := by
    apply one_le_roundEven
    rw [le_div_iff₀ hbit, one_mul]
    exact two_zpow_lastBit_le h
  rw [round_some hy]
  exact mul_pos (by exact_mod_cast hone) hbit

theorem mul_two_pos {x y : ℚ} (hx : Representable x) (hpos : 0 < x) (h : mul x 2 = some y) : 0 < y := by
  apply round_pos _ h
  have hsmallest := hx.smallest_le hpos
  linarith

theorem roundEven_intCast (n : ℤ) : roundEven n = n := by
  simp [roundEven]

theorem round_natCast {n : ℕ} (h : n < 2 ^ 53) : round n = some (n : ℚ) := by
  have hsmall : |(n : ℚ)| < 2 ^ (1024 : ℕ) := by
    rw [Nat.abs_cast]
    calc (n : ℚ) < 2 ^ 53 := by exact_mod_cast h
      _ ≤ 2 ^ (1024 : ℕ) := pow_le_pow_right₀ (by norm_num) (by norm_num)
  have hbit : lastBit n ≤ 0 := by
    have hlog : Int.log 2 |(n : ℚ)| ≤ 52 := by
      rw [Nat.abs_cast, Int.log_natCast]
      have : Nat.log 2 n < 53 := Nat.log_lt_of_lt_pow' (by norm_num) h
      omega
    unfold lastBit
    omega
  obtain ⟨k, hk⟩ := Int.eq_ofNat_of_zero_le (neg_nonneg.mpr hbit)
  have hshift : (n : ℚ) / 2 ^ lastBit n = ((n * 2 ^ k : ℤ) : ℚ) := by
    rw [div_eq_mul_inv, ← zpow_neg, hk]
    push_cast
    rw [zpow_natCast]
  have hvalue : ((n * 2 ^ k : ℤ) : ℚ) * 2 ^ lastBit n = n := by
    rw [← hshift]
    exact div_mul_cancel₀ _ (two_zpow_pos _).ne'
  unfold round
  simp only
  rw [hshift, roundEven_intCast, hvalue, if_pos hsmall]
theorem round_two_pow {n : ℕ} (h : n < 1024) : round (2 ^ n) = some (2 ^ n) := by
  have hlog : Int.log 2 (|2 ^ n| : ℚ) = n := by
    rw [abs_of_pos (by positivity)]
    exact_mod_cast Int.log_zpow (R := ℚ) Nat.one_lt_two n
  have hbit : lastBit (2 ^ n) = n - 52 := by
    rw [lastBit, hlog, max_eq_left (by omega)]
  have hdigits : (2 : ℚ) ^ n / 2 ^ ((n : ℤ) - 52) = ((2 ^ 52 : ℤ) : ℚ) := by
    rw [zpow_sub₀ (by norm_num), zpow_natCast]
    field_simp
    norm_num
  have hvalue : ((2 ^ 52 : ℤ) : ℚ) * 2 ^ ((n : ℤ) - 52) = 2 ^ n := by
    rw [← hdigits]
    exact div_mul_cancel₀ _ (two_zpow_pos _).ne'
  have hsmall : |(2 : ℚ) ^ n| < 2 ^ (1024 : ℕ) := by
    rw [abs_of_pos (by positivity)]
    exact pow_lt_pow_right₀ (by norm_num) h
  rw [round, hbit, hdigits, roundEven_intCast, hvalue, if_pos hsmall]

end Binary64
