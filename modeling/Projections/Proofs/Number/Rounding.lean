import Mathlib.Algebra.Order.Field.Rat
import Mathlib.Data.Int.Log
import Mathlib.Data.Rat.Floor
import Mathlib.Tactic.FieldSimp
import Mathlib.Tactic.Linarith
import Mathlib.Tactic.Ring
import Projections.Number.Shortest

/-! Rounding to 53 bits, with quotients of naturals as rationals. The last place of a
quotient follows its binary logarithm, and a quotient in the interval of a finite value
is rounded to that value: the interval says exactly what reads back. -/

namespace Projections

/-! ### Powers -/

theorem zpow_of_nonneg (b : ℚ) {k : ℤ} (h : 0 ≤ k) : b ^ k = b ^ k.toNat := by
  rw [← zpow_natCast, Int.toNat_of_nonneg h]

theorem zpow_of_nonpos (b : ℚ) {k : ℤ} (h : k ≤ 0) : b ^ k = (b ^ (-k).toNat)⁻¹ := by
  rw [← zpow_natCast, Int.toNat_of_nonneg (by omega), zpow_neg, inv_inv]

theorem two_zpow_pos (place : ℤ) : (0 : ℚ) < 2 ^ place := zpow_pos (by norm_num) place

/-- Shifting numerator or denominator multiplies the quotient. -/
theorem shifted_div (num den : ℕ) (place : ℤ) :
    ((num <<< place.toNat : ℕ) : ℚ) / (den <<< (-place).toNat : ℕ) = num / den * 2 ^ place := by
  rw [Nat.shiftLeft_eq, Nat.shiftLeft_eq]
  push_cast
  rcases Int.le_total 0 place with h | h
  · have hz : (-place).toNat = 0 := Int.toNat_of_nonpos (by omega)
    rw [zpow_of_nonneg 2 h, hz, pow_zero, mul_one, mul_div_right_comm]
  · have hz : place.toNat = 0 := Int.toNat_of_nonpos h
    rw [zpow_of_nonpos 2 h, hz, pow_zero, mul_one, ← div_eq_mul_inv, div_div]

theorem shiftLeft_pos {n : ℕ} (hn : 0 < n) (size : ℕ) : (0 : ℚ) < (n <<< size : ℕ) := by
  rw [Nat.shiftLeft_eq]
  positivity

section Shifted

variable (n : ℕ) {num den : ℕ} (hd : 0 < den) (place : ℤ)

include hd

/-- A multiple of a power of two against a quotient, by their cross products. -/
theorem shifted_le_iff : n <<< place.toNat * den ≤ num * (1 <<< (-place).toNat) ↔
    (n : ℚ) * 2 ^ place ≤ num / den := by
  have hd' : (0 : ℚ) < den := by exact_mod_cast hd
  have hunit := shiftLeft_pos Nat.one_pos (-place).toNat
  have h := shifted_div n 1 place
  rw [Nat.cast_one, div_one] at h
  rw [← h, div_le_div_iff₀ hunit hd', ← Nat.cast_mul, ← Nat.cast_mul, Nat.cast_le]

theorem le_shifted_iff : num * (1 <<< (-place).toNat) ≤ n <<< place.toNat * den ↔
    (num : ℚ) / den ≤ n * 2 ^ place := by
  have hd' : (0 : ℚ) < den := by exact_mod_cast hd
  have hunit := shiftLeft_pos Nat.one_pos (-place).toNat
  have h := shifted_div n 1 place
  rw [Nat.cast_one, div_one] at h
  rw [← h, div_le_div_iff₀ hd' hunit, ← Nat.cast_mul, ← Nat.cast_mul, Nat.cast_le]

end Shifted

theorem log_two_eq {v : ℚ} {place : ℤ} (hlow : 2 ^ place ≤ v) (hhigh : v < 2 ^ (place + 1)) :
    Int.log 2 v = place := by
  have hv : 0 < v := (two_zpow_pos place).trans_le hlow
  have hle := (Int.zpow_le_iff_le_log (R := ℚ) (b := 2) Nat.one_lt_two hv).1 (by simpa using hlow)
  have hlt := (Int.lt_zpow_iff_log_lt (R := ℚ) (b := 2) Nat.one_lt_two hv).1 (by simpa using hhigh)
  omega

/-! ### Division -/

/-- Cross products against the halves around an integer decide how a quotient is rounded. -/
theorem roundDiv_eq_of_halves {num den nearest : ℕ} (hden : 0 < den)
    (hlow : 2 * nearest * den ≤ 2 * num + den) (hhigh : 2 * num ≤ 2 * nearest * den + den)
    (hodd : nearest % 2 = 1 →
      2 * nearest * den < 2 * num + den ∧ 2 * num < 2 * nearest * den + den) :
    roundDiv num den = nearest := by
  have hsplit := Nat.div_add_mod num den
  have hrest := Nat.mod_lt num hden
  unfold roundDiv
  generalize num / den = quotient at *
  generalize num % den = rest at *
  subst hsplit
  -- the quotient cut down is the nearest integer or the one before it
  have hle : quotient ≤ nearest := by
    by_contra hgt
    have := Nat.mul_le_mul_left den (show nearest + 1 ≤ quotient by omega)
    nlinarith
  have hge : nearest ≤ quotient + 1 := by
    by_contra hlt
    have := Nat.mul_le_mul_left den (show quotient + 2 ≤ nearest by omega)
    nlinarith
  obtain rfl | rfl : nearest = quotient ∨ nearest = quotient + 1 := by omega
  · have hhalf : 2 * rest ≤ den := by nlinarith
    have htie : nearest % 2 = 1 → 2 * rest < den := by
      intro h
      have := (hodd h).2
      nlinarith
    dsimp only
    split_ifs <;> omega
  · have hhalf : den ≤ 2 * rest := by nlinarith
    have htie : (quotient + 1) % 2 = 1 → den < 2 * rest := by
      intro h
      have := (hodd h).1
      nlinarith
    dsimp only
    split_ifs <;> omega

/-- The nearest integer to a quotient, the even one of two. -/
theorem roundDiv_eq {num den nearest : ℕ} (hden : 0 < den)
    (hlow : (nearest : ℚ) - 1 / 2 ≤ num / den) (hhigh : (num : ℚ) / den ≤ nearest + 1 / 2)
    (hodd : nearest % 2 = 1 →
      (nearest : ℚ) - 1 / 2 < num / den ∧ (num : ℚ) / den < nearest + 1 / 2) :
    roundDiv num den = nearest := by
  have hd : (0 : ℚ) < den := by exact_mod_cast hden
  refine roundDiv_eq_of_halves hden ?_ ?_ (fun h => ?_)
  · rw [le_div_iff₀ hd] at hlow
    have : (2 * nearest * den : ℚ) ≤ 2 * num + den := by linarith
    exact_mod_cast this
  · rw [div_le_iff₀ hd] at hhigh
    have : (2 * num : ℚ) ≤ 2 * nearest * den + den := by linarith
    exact_mod_cast this
  · obtain ⟨hl, hh⟩ := hodd h
    rw [lt_div_iff₀ hd] at hl
    rw [div_lt_iff₀ hd] at hh
    have hl' : (2 * nearest * den : ℚ) < 2 * num + den := by linarith
    have hh' : (2 * num : ℚ) < 2 * nearest * den + den := by linarith
    exact ⟨by exact_mod_cast hl', by exact_mod_cast hh'⟩

namespace Binary64

/-! ### Last places -/

section LastPlace

variable {num den : ℕ} (hn : 0 < num) (hd : 0 < den)

include hn hd

/-- A quotient lies within one binade of the difference of the binary logarithms. -/
theorem log2_bounds :
    (2 : ℚ) ^ ((num.log2 : ℤ) - den.log2 - 1) ≤ num / den ∧
      (num : ℚ) / den < 2 ^ ((num.log2 : ℤ) - den.log2 + 1) := by
  have hd' : (0 : ℚ) < den := by exact_mod_cast hd
  have hnum : (2 : ℚ) ^ num.log2 ≤ num ∧ (num : ℚ) < 2 ^ (num.log2 + 1) :=
    ⟨by exact_mod_cast Nat.log2_self_le hn.ne', by exact_mod_cast Nat.lt_log2_self⟩
  have hden : (2 : ℚ) ^ den.log2 ≤ den ∧ (den : ℚ) < 2 ^ (den.log2 + 1) :=
    ⟨by exact_mod_cast Nat.log2_self_le hd.ne', by exact_mod_cast Nat.lt_log2_self⟩
  constructor
  · rw [show (num.log2 : ℤ) - den.log2 - 1 = num.log2 - (den.log2 + 1 : ℕ) by omega,
      zpow_sub₀ two_ne_zero, zpow_natCast, zpow_natCast]
    exact div_le_div₀ (Nat.cast_nonneg _) hnum.1 hd' hden.2.le
  · rw [show (num.log2 : ℤ) - den.log2 + 1 = (num.log2 + 1 : ℕ) - den.log2 by omega,
      zpow_sub₀ two_ne_zero, zpow_natCast, zpow_natCast]
    exact div_lt_div₀ hnum.2 hden.1 (by positivity) (by positivity)

omit hn in
theorem shifted_le_shifted_iff (place : ℤ) :
    den <<< place.toNat ≤ num <<< (-place).toNat ↔ (2 : ℚ) ^ place ≤ num / den := by
  have hshift := shifted_div num den (-place)
  have hpos := shiftLeft_pos hd place.toNat
  rw [neg_neg, zpow_neg, ← div_eq_mul_inv, div_eq_iff hpos.ne'] at hshift
  rw [← Nat.cast_le (α := ℚ), hshift, le_mul_iff_one_le_left hpos, one_le_div (two_zpow_pos _)]

theorem lastPlace_eq :
    lastPlace num den = max (Int.log 2 ((num : ℚ) / den) - 52) (-1074) := by
  obtain ⟨hlow, hhigh⟩ := log2_bounds hn hd
  unfold lastPlace
  dsimp only
  generalize (num.log2 : ℤ) - den.log2 = top at *
  rw [show top - 53 + 53 = top by omega]
  split_ifs with h
  · rw [log_two_eq ((shifted_le_shifted_iff hd top).1 h) hhigh,
      show top - 53 + 1 = top - 52 by omega]
  · have hlt : (num : ℚ) / den < 2 ^ (top - 1 + 1) := by
      rw [sub_add_cancel]
      exact lt_of_not_ge fun hge => h ((shifted_le_shifted_iff hd top).2 hge)
    rw [log_two_eq hlow hlt, show top - 1 - 52 = top - 53 by omega]

end LastPlace

/-! ### Values and their intervals -/

variable {x : Binary64}

theorem exponent_ge (x : Binary64) : -1074 ≤ x.exponent := by
  unfold exponent
  omega

theorem significand_lt (x : Binary64) : x.significand < 2 * leadingBit := by
  unfold significand exponentField leadingBit
  split_ifs <;> omega

/-- Beyond the least place all bits are in use. -/
theorem leadingBit_le (h : -1074 < x.exponent) : leadingBit ≤ x.significand := by
  unfold exponent at h
  unfold significand
  rw [if_neg (by omega)]
  omega

/-- The magnitude counts the values below, binade by binade. -/
theorem magnitude_eq (x : Binary64) :
    x.magnitude.val = (x.exponent + 1074).toNat * leadingBit + x.significand := by
  unfold exponent significand exponentField leadingBit
  split_ifs with h
  · simp [h]
  · have hplace : ((max (x.magnitude.val / 0x10000000000000) 1 : ℕ) - 1075 + 1074 : ℤ).toNat =
        x.magnitude.val / 0x10000000000000 - 1 := by omega
    rw [hplace]
    omega

/-- Where the value below is half as far away as the value above. -/
def Narrow (x : Binary64) : Prop := x.significand = leadingBit ∧ -1074 < x.exponent

instance (x : Binary64) : Decidable x.Narrow := inferInstanceAs (Decidable (_ ∧ _))

/-- The size of a finite value. -/
def size (x : Binary64) : ℚ := x.significand * 2 ^ x.exponent

/-- A number in units of the last place of a value. -/
def inUnits (x : Binary64) (v : ℚ) : ℚ := v * 2 ^ (-x.exponent)

theorem inUnits_mul (x : Binary64) (w : ℚ) : x.inUnits (w * 2 ^ x.exponent) = w := by
  rw [inUnits, mul_assoc, ← zpow_add₀ two_ne_zero, add_neg_cancel, zpow_zero, mul_one]

theorem mul_inUnits (x : Binary64) (v : ℚ) : x.inUnits v * 2 ^ x.exponent = v := by
  rw [inUnits, mul_assoc, ← zpow_add₀ two_ne_zero, neg_add_cancel, zpow_zero, mul_one]

/-- How far the numbers nearest to a value reach down. -/
def reach (x : Binary64) : ℚ := if x.Narrow then 1 / 4 else 1 / 2

/-- The numbers nearest to the size of a value, in units of its last place; the ends only
for even significands. -/
structure Near (x : Binary64) (v : ℚ) : Prop where
  low : x.significand - x.reach ≤ x.inUnits v
  high : x.inUnits v ≤ x.significand + 1 / 2
  odd : x.significand % 2 = 1 →
    x.significand - x.reach < x.inUnits v ∧ x.inUnits v < x.significand + 1 / 2

theorem reach_bounds (x : Binary64) : 0 < x.reach ∧ x.reach ≤ 1 / 2 := by
  unfold reach
  split_ifs <;> norm_num

theorem near_size (x : Binary64) : x.Near x.size := by
  have hreach := x.reach_bounds
  have hunits : x.inUnits x.size = x.significand := x.inUnits_mul _
  constructor
  · linarith
  · linarith
  · intro _
    constructor <;> linarith

theorem narrow_eq (x : Binary64) :
    (x.significand == leadingBit && decide (x.exponentField > 1)) = decide x.Narrow := by
  have h : x.exponentField > 1 ↔ -1074 < x.exponent := by
    unfold exponent
    omega
  simp only [Narrow, ← h, Bool.decide_and]
  rfl

theorem mul_zpow_exponent_sub_two (x : Binary64) (quarters : ℚ) :
    quarters * 2 ^ (x.exponent - 2) = quarters / 4 * 2 ^ x.exponent := by
  rw [zpow_sub₀ two_ne_zero]
  ring

/-- Quarters of the last place against a number. -/
theorem quarters_le_iff (x : Binary64) (quarters : ℕ) (v : ℚ) :
    (quarters : ℚ) * 2 ^ (x.exponent - 2) ≤ v ↔ (quarters : ℚ) / 4 ≤ x.inUnits v := by
  rw [mul_zpow_exponent_sub_two, ← mul_inUnits x v, mul_le_mul_iff_left₀ (two_zpow_pos _),
    mul_inUnits]

theorem le_quarters_iff (x : Binary64) (quarters : ℕ) (v : ℚ) :
    v ≤ (quarters : ℚ) * 2 ^ (x.exponent - 2) ↔ x.inUnits v ≤ (quarters : ℚ) / 4 := by
  rw [mul_zpow_exponent_sub_two, ← mul_inUnits x v, mul_le_mul_iff_left₀ (two_zpow_pos _),
    mul_inUnits]

/-- What lies in the interval of a value is near it. -/
theorem near_of_contains {num den : ℕ} (hs : 0 < x.significand) (hd : 0 < den)
    (h : (Interval.ofBinary64 x).contains num den = true) : x.Near (num / den) := by
  have hlow : ((4 * x.significand - (if x.Narrow then 1 else 2) : ℕ) : ℚ) / 4 =
      x.significand - x.reach := by
    unfold reach
    rw [Nat.cast_sub (by split_ifs <;> omega)]
    push_cast
    split_ifs <;> ring
  have hhigh : ((4 * x.significand + 2 : ℕ) : ℚ) / 4 = x.significand + 1 / 2 := by
    push_cast
    ring
  unfold Interval.contains Interval.ofBinary64 at h
  simp only [narrow_eq, decide_eq_true_eq] at h
  split at h
  · next hclosed =>
    simp only [Bool.and_eq_true, decide_eq_true_eq, shifted_le_iff _ hd, le_shifted_iff _ hd,
      quarters_le_iff, le_quarters_iff, hlow, hhigh] at h
    refine ⟨h.1, h.2, fun hodd => ?_⟩
    simp [hodd] at hclosed
  · simp only [Bool.and_eq_true, decide_eq_true_eq, ← not_le, shifted_le_iff _ hd,
      le_shifted_iff _ hd, quarters_le_iff, le_quarters_iff, hlow, hhigh] at h
    simp only [not_le] at h
    exact ⟨h.1.le, h.2.le, fun _ => h⟩

/-! ### Rounding to a value -/

/-- A quotient is rounded to the value whose magnitude its last place and its bits there make. -/
theorem ofRatio_eq {num den : ℕ} {place : ℤ} (negative : Bool) (bits : ℕ) (hn : 0 < num)
    (hd : 0 < den) (hplace : lastPlace num den = place)
    (hlow : (bits : ℚ) - 1 / 2 ≤ num / den * 2 ^ (-place))
    (hhigh : (num : ℚ) / den * 2 ^ (-place) ≤ bits + 1 / 2)
    (hodd : bits % 2 = 1 → (bits : ℚ) - 1 / 2 < num / den * 2 ^ (-place) ∧
      (num : ℚ) / den * 2 ^ (-place) < bits + 1 / 2) (hx : x.isFinite = true)
    (hm : x.magnitude.val = (place + 1074).toNat * leadingBit + bits) :
    ofRatio negative num den = ⟨negative, x.magnitude⟩ := by
  have hbits : roundDiv (num <<< (-place).toNat) (den <<< place.toNat) = bits := by
    have hshift := shifted_div num den (-place)
    rw [neg_neg] at hshift
    rw [← hshift] at hlow hhigh hodd
    exact roundDiv_eq (by exact_mod_cast shiftLeft_pos hd place.toNat) hlow hhigh hodd
  unfold ofRatio
  rw [if_neg hn.ne']
  have hfinite : x.magnitude.val < infinityMagnitude := of_decide_eq_true hx
  simp only [hplace, hbits, ← hm, Nat.min_eq_left hfinite.le]

theorem leadingBit_cast : (leadingBit : ℚ) = 2 ^ 52 := by
  norm_num [leadingBit]

theorem significand_le_cast (x : Binary64) : (x.significand : ℚ) + 1 ≤ 2 ^ 53 := by
  have h : (x.significand : ℚ) + 1 ≤ 2 * leadingBit := by exact_mod_cast x.significand_lt
  rw [leadingBit_cast] at h
  linarith

/-- The binade of a number from its size in units of a place. -/
theorem log_units {v : ℚ} {place : ℤ} {bits : ℕ} (hlow : (2 : ℚ) ^ bits ≤ v * 2 ^ (-place))
    (hhigh : v * 2 ^ (-place) < 2 ^ (bits + 1)) : Int.log 2 v = place + bits := by
  have hv : v = v * 2 ^ (-place) * 2 ^ place := by
    rw [mul_assoc, ← zpow_add₀ two_ne_zero, neg_add_cancel, zpow_zero, mul_one]
  have hp := two_zpow_pos place
  refine log_two_eq ?_ ?_
  · rw [hv, add_comm, zpow_add₀ two_ne_zero, zpow_natCast]
    exact mul_le_mul_of_nonneg_right hlow hp.le
  · rw [hv, show place + bits + 1 = ((bits + 1 : ℕ) : ℤ) + place by push_cast; ring,
      zpow_add₀ two_ne_zero, zpow_natCast]
    exact mul_lt_mul_of_pos_right hhigh hp

section Near

variable {num den : ℕ} (hd : 0 < den) (h : x.Near (num / den))

include hd h

theorem Near.num_pos (hs : 0 < x.significand) : 0 < num := by
  have hs' : (1 : ℚ) ≤ x.significand := by exact_mod_cast hs
  have hreach := x.reach_bounds
  have hlow := h.low
  have hpos : (0 : ℚ) < num / den := by
    rw [← x.mul_inUnits (num / den)]
    exact mul_pos (by linarith) (two_zpow_pos _)
  exact_mod_cast (div_pos_iff_of_pos_right (by exact_mod_cast hd)).1 hpos

/-- Within the binade of the value, or at the least place of all, the last place of the
number is that of the value. -/
theorem Near.lastPlace_eq (hn : 0 < num)
    (hbinade : (2 : ℚ) ^ 52 ≤ x.inUnits (num / den) ∨ x.exponent = -1074) :
    lastPlace num den = x.exponent := by
  have hge := x.exponent_ge
  have htop := x.significand_le_cast
  have hhigh := h.high
  rw [Binary64.lastPlace_eq hn hd]
  rcases le_or_gt ((2 : ℚ) ^ 52) (x.inUnits (num / den)) with hle | hlt
  · have hlog : Int.log 2 ((num : ℚ) / den) = x.exponent + (52 : ℕ) := by
      refine log_units hle (lt_of_le_of_lt hhigh ?_)
      norm_num at htop ⊢
      linarith
    omega
  · have hleast := hbinade.resolve_left hlt.not_ge
    have hlog : Int.log 2 ((num : ℚ) / den) < x.exponent + 52 := by
      refine (Int.lt_zpow_iff_log_lt Nat.one_lt_two (by positivity)).1 ?_
      rw [← x.mul_inUnits (num / den), Nat.cast_two, add_comm, zpow_add₀ two_ne_zero]
      exact mul_lt_mul_of_pos_right (by exact_mod_cast hlt) (two_zpow_pos _)
    omega

omit hd in
/-- Below its binade a value is a power of two, with the finer places of the binade before. -/
theorem Near.narrow (hlt : x.inUnits (num / den) < 2 ^ 52) (hleast : x.exponent ≠ -1074) :
    x.Narrow := by
  have hge := x.exponent_ge
  have hfull : leadingBit ≤ x.significand := leadingBit_le (by omega)
  refine ⟨?_, by omega⟩
  by_contra hne
  have hreach := x.reach_bounds
  have hnext : (leadingBit : ℚ) + 1 ≤ x.significand := by
    exact_mod_cast (show leadingBit + 1 ≤ x.significand by omega)
  rw [leadingBit_cast] at hnext
  have hlow := h.low
  linarith

/-- Below the binade of a value its last place is one finer, and the value is twice the
leading bit there. -/
theorem ofRatio_of_narrow (negative : Bool) (hx : x.isFinite = true) (hn : 0 < num)
    (hlt : x.inUnits (num / den) < 2 ^ 52) (hnarrow : x.Narrow) :
    ofRatio negative num den = ⟨negative, x.magnitude⟩ := by
  have hge := hnarrow.2
  have hlow := h.low
  rw [reach, if_pos hnarrow, hnarrow.1, leadingBit_cast] at hlow
  have hdouble : (num : ℚ) / den * 2 ^ (-(x.exponent - 1)) = 2 * x.inUnits (num / den) := by
    rw [show -(x.exponent - 1) = -x.exponent + 1 by ring, zpow_add₀ two_ne_zero, zpow_one,
      inUnits]
    ring
  have hplace : lastPlace num den = x.exponent - 1 := by
    have hlog : Int.log 2 ((num : ℚ) / den) = x.exponent - 1 + (52 : ℕ) :=
      log_units (by rw [hdouble]; linarith) (by rw [hdouble]; norm_num; linarith)
    rw [Binary64.lastPlace_eq hn hd, hlog]
    omega
  have hbits : ((2 * leadingBit : ℕ) : ℚ) = 2 ^ 53 := by
    rw [Nat.cast_mul, leadingBit_cast]
    norm_num
  refine ofRatio_eq negative (2 * leadingBit) hn hd hplace ?_ ?_ ?_ hx ?_
  · rw [hdouble, hbits]
    linarith
  · rw [hdouble, hbits]
    linarith
  · omega
  · have hplaces : (x.exponent + 1074).toNat = (x.exponent - 1 + 1074).toNat + 1 := by omega
    rw [x.magnitude_eq, hnarrow.1, hplaces]
    ring

/-- Numbers near a value are rounded to it. -/
theorem ofRatio_of_near (negative : Bool) (hx : x.isFinite = true) (hs : 0 < x.significand) :
    ofRatio negative num den = ⟨negative, x.magnitude⟩ := by
  have hreach := x.reach_bounds
  have hn := h.num_pos hd hs
  by_cases hbinade : (2 : ℚ) ^ 52 ≤ x.inUnits (num / den) ∨ x.exponent = -1074
  · have hplace := h.lastPlace_eq hd hn hbinade
    refine ofRatio_eq negative x.significand hn hd hplace ?_ h.high (fun hodd => ?_) hx
      x.magnitude_eq
    · exact (by linarith : _ ≤ _).trans h.low
    · exact ⟨(by linarith : _ ≤ _).trans_lt (h.odd hodd).1, (h.odd hodd).2⟩
  · obtain ⟨hlt, hleast⟩ := not_or.1 hbinade
    rw [not_le] at hlt
    exact ofRatio_of_narrow hd h negative hx hn hlt (h.narrow hlt hleast)

end Near

end Binary64

end Projections
