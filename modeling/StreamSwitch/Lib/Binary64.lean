import Mathlib.Algebra.Order.Round
import Mathlib.Data.Int.Log
import Mathlib.Data.Rat.Floor
import Mathlib.Tactic.Linarith

/-!
# Rounding to double precision

`round64` takes an exact rational to the nearest number with 53 significant bits,
ties to the even one. Exponents are not bounded: this is the rounding of IEEE 754
binary64 for results that neither overflow nor are subnormal.
-/

namespace Binary64

/-- The nearest integer, the even one of two. -/
def roundHalfEven (q : ℚ) : ℤ :=
  if Int.fract q < 1 / 2 then ⌊q⌋
  else if 1 / 2 < Int.fract q then ⌊q⌋ + 1
  else if ⌊q⌋ % 2 = 0 then ⌊q⌋ else ⌊q⌋ + 1

theorem floor_le_roundHalfEven (q : ℚ) : ⌊q⌋ ≤ roundHalfEven q := by
  unfold roundHalfEven
  split_ifs <;> omega

theorem roundHalfEven_le (q : ℚ) : roundHalfEven q ≤ ⌊q⌋ + 1 := by
  unfold roundHalfEven
  split_ifs <;> omega

theorem roundHalfEven_mono {a b : ℚ} (h : a ≤ b) : roundHalfEven a ≤ roundHalfEven b := by
  rcases (Int.floor_mono h).lt_or_eq with hlt | heq
  · calc roundHalfEven a ≤ ⌊a⌋ + 1 := roundHalfEven_le a
      _ ≤ ⌊b⌋ := hlt
      _ ≤ roundHalfEven b := floor_le_roundHalfEven b
  · -- between the same two integers the one further up is rounded up first
    have hfract : Int.fract a ≤ Int.fract b := by
      unfold Int.fract
      rw [heq]
      linarith
    unfold roundHalfEven
    rw [heq]
    split_ifs <;> first | omega | linarith

@[simp] theorem roundHalfEven_intCast (n : ℤ) : roundHalfEven n = n := by
  unfold roundHalfEven
  rw [Int.fract_intCast, if_pos (by norm_num), Int.floor_intCast]

/-- The distance of neighbours of the size of `q`. -/
def ulp (q : ℚ) : ℚ := 2 ^ (Int.log 2 q - 52)

theorem ulp_pos (q : ℚ) : 0 < ulp q := zpow_pos (by norm_num) _

def roundPos (q : ℚ) : ℚ := roundHalfEven (q / ulp q) * ulp q

/-- Rounding to 53 significant bits. -/
def round64 (q : ℚ) : ℚ := if 0 ≤ q then roundPos q else -roundPos (-q)

theorem roundPos_nonneg {q : ℚ} (h : 0 ≤ q) : 0 ≤ roundPos q := by
  have hround : (0 : ℤ) ≤ roundHalfEven (q / ulp q) := by
    calc (0 : ℤ) = roundHalfEven ((0 : ℤ) : ℚ) := (roundHalfEven_intCast 0).symm
      _ ≤ roundHalfEven (q / ulp q) :=
        roundHalfEven_mono (by rw [Int.cast_zero]; exact div_nonneg h (ulp_pos q).le)
  exact mul_nonneg (by exact_mod_cast hround) (ulp_pos q).le

theorem two_zpow_mul_ulp (q : ℚ) (k : ℕ) :
    ((2 ^ k : ℤ) : ℚ) * ulp q = 2 ^ (Int.log 2 q - 52 + k) := by
  rw [ulp, zpow_add₀ two_ne_zero, zpow_natCast, mul_comm]
  push_cast
  rfl

/-- Rounding goes at most to the next power of 2. -/
theorem roundPos_le_zpow (q : ℚ) : roundPos q ≤ 2 ^ (Int.log 2 q + 1) := by
  have hexp : Int.log 2 q - 52 + (53 : ℕ) = Int.log 2 q + 1 := by
    push_cast
    omega
  have hle : q / ulp q ≤ ((2 ^ 53 : ℤ) : ℚ) := by
    rw [div_le_iff₀ (ulp_pos q), two_zpow_mul_ulp, hexp]
    exact (Int.lt_zpow_succ_log_self (by norm_num) q).le
  have hround : roundHalfEven (q / ulp q) ≤ 2 ^ 53 := by
    rw [← roundHalfEven_intCast (2 ^ 53)]
    exact roundHalfEven_mono hle
  calc roundPos q ≤ ((2 ^ 53 : ℤ) : ℚ) * ulp q :=
        mul_le_mul_of_nonneg_right (Int.cast_le.2 hround) (ulp_pos q).le
    _ = 2 ^ (Int.log 2 q + 1) := by rw [two_zpow_mul_ulp, hexp]

/-- and at least to the last one. -/
theorem zpow_le_roundPos {q : ℚ} (hq : 0 < q) : 2 ^ Int.log 2 q ≤ roundPos q := by
  have hexp : Int.log 2 q - 52 + (52 : ℕ) = Int.log 2 q := by
    push_cast
    omega
  have hle : ((2 ^ 52 : ℤ) : ℚ) ≤ q / ulp q := by
    rw [le_div_iff₀ (ulp_pos q), two_zpow_mul_ulp, hexp]
    exact Int.zpow_log_le_self (by norm_num) hq
  have hround : 2 ^ 52 ≤ roundHalfEven (q / ulp q) := by
    rw [← roundHalfEven_intCast (2 ^ 52)]
    exact roundHalfEven_mono hle
  calc (2 : ℚ) ^ Int.log 2 q = ((2 ^ 52 : ℤ) : ℚ) * ulp q := by rw [two_zpow_mul_ulp, hexp]
    _ ≤ roundPos q := mul_le_mul_of_nonneg_right (Int.cast_le.2 hround) (ulp_pos q).le

theorem roundPos_mono {a b : ℚ} (ha : 0 < a) (h : a ≤ b) : roundPos a ≤ roundPos b := by
  rcases (Int.log_mono_right (b := 2) ha h).lt_or_eq with hlt | heq
  · calc roundPos a ≤ 2 ^ (Int.log 2 a + 1) := roundPos_le_zpow a
      _ ≤ 2 ^ Int.log 2 b := zpow_le_zpow_right₀ (by norm_num) hlt
      _ ≤ roundPos b := zpow_le_roundPos (ha.trans_le h)
  · have hulp : ulp a = ulp b := by rw [ulp, ulp, heq]
    unfold roundPos
    rw [hulp]
    refine mul_le_mul_of_nonneg_right (Int.cast_le.2 (roundHalfEven_mono ?_)) (ulp_pos b).le
    exact div_le_div_of_nonneg_right h (ulp_pos b).le

@[simp] theorem round64_zero : round64 0 = 0 := by
  have hpos : roundPos 0 = 0 := by
    unfold roundPos
    rw [zero_div, ← Int.cast_zero, roundHalfEven_intCast, Int.cast_zero, zero_mul]
  rw [round64, if_pos le_rfl, hpos]

theorem round64_nonneg {q : ℚ} (h : 0 ≤ q) : 0 ≤ round64 q := by
  rw [round64, if_pos h]
  exact roundPos_nonneg h

theorem round64_nonpos {q : ℚ} (h : q ≤ 0) : round64 q ≤ 0 := by
  rcases h.lt_or_eq with hlt | rfl
  · rw [round64, if_neg hlt.not_ge]
    exact neg_nonpos.2 (roundPos_nonneg (neg_nonneg.2 h))
  · rw [round64_zero]

theorem round64_mono {a b : ℚ} (h : a ≤ b) : round64 a ≤ round64 b := by
  rcases lt_trichotomy a 0 with ha | rfl | ha
  · rcases lt_or_ge b 0 with hb | hb
    · rw [round64, round64, if_neg ha.not_ge, if_neg hb.not_ge]
      exact neg_le_neg (roundPos_mono (neg_pos.2 hb) (neg_le_neg h))
    · exact (round64_nonpos ha.le).trans (round64_nonneg hb)
  · rw [round64_zero]
    exact round64_nonneg h
  · rw [round64, round64, if_pos ha.le, if_pos (ha.le.trans h)]
    exact roundPos_mono ha h

end Binary64
