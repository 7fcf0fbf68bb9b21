import Mathlib.Data.Int.Log
import Mathlib.Data.Rat.Floor

/-!
# The nearest double

Numbers of 53 significant bits, as a runtime rounds a number that is not negative to one of them:
to the nearest, and to the even one of two that are as near.

* `roundHalfEven` — the nearest whole number;
* `ulp` — the distance of the doubles about a number;
* `nearest` — the nearest double, if there is one that is not infinite;
* `lt_of_nearest` — numbers with one nearest double other than zero are less than tenfold apart;
* `nearestWhole` — the nearest double of a whole number, which is that number up to `2 ^ 53`.
-/

namespace Floats

/-- The nearest whole number, the even one of two. -/
def roundHalfEven (q : ℚ) : ℤ :=
  if Int.fract q < 1 / 2 then ⌊q⌋
  else if 1 / 2 < Int.fract q then ⌊q⌋ + 1
  else if Even ⌊q⌋ then ⌊q⌋ else ⌊q⌋ + 1

/-- The last place of the doubles about a number; below the normal ones, of the least. -/
def ulp (q : ℚ) : ℚ := 2 ^ (max (Int.log 2 q) (-1022) - 52)

/-- The double nearest to a number that is not negative, none when that is infinite. -/
def nearest (q : ℚ) : Option ℚ :=
  let v := roundHalfEven (q / ulp q) * ulp q
  if v < 2 ^ 1024 then some v else none

/-- A tenth is not a double. -/
example : nearest (1 / 10) = some (3602879701896397 / 36028797018963968) := by decide +kernel

/-- A number is at most a half from the nearest whole number. -/
theorem abs_roundHalfEven_sub_le (q : ℚ) : |(roundHalfEven q : ℚ) - q| ≤ 1 / 2 := by
  have hfloor := Int.floor_add_fract q
  have hnonneg := Int.fract_nonneg q
  have hlt := Int.fract_lt_one q
  rw [roundHalfEven, abs_le]
  split
  · constructor <;> linarith
  · split
    · push_cast
      constructor <;> linarith
    · split
      · constructor <;> linarith
      · push_cast
        constructor <;> linarith

/-- The last place is of some size. -/
theorem ulp_pos (q : ℚ) : 0 < ulp q := by
  rw [ulp]
  exact zpow_pos two_pos _

/-- A number is at least half its nearest double and, when that is not zero, less than twice. -/
theorem bounds_of_nearest {q v : ℚ} (hq : 0 ≤ q) (h : nearest q = some v) (hv : v ≠ 0) :
    v ≤ 2 * q ∧ q < 2 * v := by
  have hulp := ulp_pos q
  obtain ⟨-, hval⟩ := Option.ite_none_right_eq_some.mp h
  rw [Option.some.injEq] at hval
  set n := roundHalfEven (q / ulp q) with hn
  have hquot : 0 ≤ q / ulp q := div_nonneg hq hulp.le
  have hnear := abs_le.mp (abs_roundHalfEven_sub_le (q / ulp q))
  rw [← hn] at hnear
  -- a whole number that is near one that is not negative, and is not zero, is at least one
  have hone : (1 : ℚ) ≤ n := by
    have hzero : n ≠ 0 := by
      rintro h0
      exact hv (by rw [← hval, h0, Int.cast_zero, zero_mul])
    have hnonneg : -1 < n := by
      have : (-1 : ℚ) < n := by linarith [hnear.1]
      exact_mod_cast this
    exact_mod_cast (by omega : 1 ≤ n)
  have hplaces : q / ulp q * ulp q = q := div_mul_cancel₀ q hulp.ne'
  rw [← hval]
  constructor
  · calc n * ulp q ≤ 2 * (q / ulp q) * ulp q :=
        mul_le_mul_of_nonneg_right (by linarith [hnear.2]) hulp.le
      _ = 2 * q := by rw [mul_assoc, hplaces]
  · calc q = q / ulp q * ulp q := hplaces.symm
      _ < 2 * n * ulp q := mul_lt_mul_of_pos_right (by linarith [hnear.1]) hulp
      _ = 2 * (n * ulp q) := mul_assoc _ _ _

/-- Numbers with one nearest double other than zero are less than tenfold apart. -/
theorem lt_of_nearest {p q v : ℚ} (hp : 0 ≤ p) (hq : 0 ≤ q) (hpv : nearest p = some v)
    (hqv : nearest q = some v) (hv : v ≠ 0) : q < 10 * p := by
  have hlow := (bounds_of_nearest hp hpv hv).1
  have hhigh := (bounds_of_nearest hq hqv hv).2
  have hpos : 0 < p := by
    rcases hp.lt_or_eq with hpos | rfl
    · exact hpos
    · linarith
  linarith

/-! ## Whole numbers -/

/-- The double nearest to a whole number, none when that is infinite. -/
def nearestWhole (n : ℤ) : Option ℤ := (nearest n).map Int.floor

/-- A whole number is its own nearest one. -/
theorem roundHalfEven_natCast (n : ℕ) : roundHalfEven n = n := by
  rw [roundHalfEven, Int.fract_natCast, if_pos (by norm_num), Int.floor_natCast]

/-- Whole numbers of up to 53 bits are doubles. -/
theorem nearest_natCast {n : ℕ} (hn : n ≤ 2 ^ 53) : nearest n = some (n : ℚ) := by
  rcases hn.lt_or_eq with hlt | rfl
  · -- the last place is a power of two that divides every whole number
    have hlog : Int.log 2 (n : ℚ) ≤ 52 := by
      rw [Int.log_natCast]
      exact_mod_cast Nat.lt_succ_iff.mp (Nat.log_lt_of_lt_pow' (by norm_num) hlt)
    obtain ⟨k, hk⟩ : ∃ k : ℕ, max (Int.log 2 (n : ℚ)) (-1022) - 52 = -(k : ℤ) :=
      Int.exists_eq_neg_ofNat (by omega)
    have hulp : ulp n = (2 ^ k)⁻¹ := by
      rw [ulp, hk, zpow_neg, zpow_natCast]
    have hquot : (n : ℚ) / ulp n = ((n * 2 ^ k : ℕ) : ℚ) := by
      rw [hulp, div_inv_eq_mul]
      push_cast
      rfl
    have hval : (roundHalfEven (n / ulp n) : ℚ) * ulp n = n := by
      rw [hquot, roundHalfEven_natCast, Int.cast_natCast, ← hquot,
        div_mul_cancel₀ _ (ulp_pos _).ne']
    have hfinite : (n : ℚ) < 2 ^ 1024 := by
      exact_mod_cast hlt.trans_le (Nat.pow_le_pow_right (by norm_num) (by norm_num))
    rw [nearest, hval, if_pos hfinite]
  · decide +kernel

/-- So they are their own nearest double. -/
theorem nearestWhole_of_le {n : ℤ} (hnonneg : 0 ≤ n) (hn : n ≤ 2 ^ 53) :
    nearestWhole n = some n := by
  obtain ⟨k, rfl⟩ := Int.eq_ofNat_of_zero_le hnonneg
  have hk : k ≤ 2 ^ 53 := by exact_mod_cast hn
  rw [nearestWhole, Int.cast_natCast, nearest_natCast hk, Option.map_some, Int.floor_natCast]

end Floats
