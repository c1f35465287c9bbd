import Mathlib.Tactic.Positivity
import Projections.Number.Reading
import Projections.Proofs.Number.Rounding

/-! Shortest numerals read back. Whatever numeral the search finds lies in the interval
of the value, moving zeros into the exponent keeps what a numeral stands for, and the
bounds by which reading settles numbers of extreme size do not touch finite values. -/

namespace Projections

theorem tenTo_zero : tenTo 0 = 1 := rfl

theorem tenTo_pos (power : ℕ) : 0 < tenTo power := Nat.pow_pos (by norm_num)

theorem tenTo_cast (power : ℕ) : (tenTo power : ℚ) = 10 ^ power := by
  rw [tenTo, Nat.pow_eq, Nat.cast_pow, Nat.cast_ofNat]

namespace Numeral

/-- What a numeral stands for. -/
def value (n : Numeral) : ℚ := n.digits * 10 ^ n.exponent

theorem value_eq_div (n : Numeral) :
    n.value = (n.digits * tenTo n.exponent.toNat : ℕ) / (tenTo (-n.exponent).toNat : ℕ) := by
  rw [value, Nat.cast_mul, tenTo_cast, tenTo_cast]
  rcases Int.le_total 0 n.exponent with h | h
  · have hz : (-n.exponent).toNat = 0 := Int.toNat_of_nonpos (by omega)
    rw [hz, pow_zero, div_one, zpow_of_nonneg 10 h]
  · have hz : n.exponent.toNat = 0 := Int.toNat_of_nonpos h
    rw [hz, pow_zero, mul_one, zpow_of_nonpos 10 h, div_eq_mul_inv]

theorem strip_value (fuel : ℕ) (n : Numeral) : (strip fuel n).value = n.value := by
  induction fuel generalizing n with
  | zero => rfl
  | succ fuel ih =>
    rw [strip]
    split_ifs with h
    · rw [ih, value, value, zpow_add₀ (by norm_num), zpow_one]
      have hten : (n.digits : ℚ) = (n.digits / 10 : ℕ) * 10 := by
        exact_mod_cast (Nat.div_mul_cancel (Nat.dvd_of_mod_eq_zero h.2)).symm
      rw [hten]
      ring
    · rfl

theorem exponent_le_strip (fuel : ℕ) (n : Numeral) : n.exponent ≤ (strip fuel n).exponent := by
  induction fuel generalizing n with
  | zero => exact le_refl _
  | succ fuel ih =>
    rw [strip]
    split_ifs with h
    · have := ih ⟨n.digits / 10, n.exponent + 1⟩
      dsimp only at this
      omega
    · exact le_refl _

end Numeral

namespace Interval

/-- A numeral found on a grid is on the grid and in the interval. -/
theorem onGrid?_eq_some {i : Interval} {tie : Tie} {place : ℤ} {n : Numeral}
    (h : i.onGrid? tie place = some n) :
    n.exponent = place ∧
      i.contains (n.digits * tenTo place.toNat) (tenTo (-place).toNat) = true := by
  unfold onGrid? at h
  dsimp only at h
  generalize hbelow : i.value * tenTo (-place).toNat / (i.unit * tenTo place.toNat) = below at h
  split at h
  · next h1 h2 =>
    have hplace : n.exponent = place := by
      cases h
      rfl
    -- the nearer neighbour is one of the two
    have hdigits : n.digits = below ∨ n.digits = below + 1 := by
      cases h
      dsimp only
      split
      · exact .inl rfl
      · exact .inr rfl
      · split
        · exact .inr rfl
        · omega
    rcases hdigits with hd | hd
    · exact ⟨hplace, by rwa [hd]⟩
    · exact ⟨hplace, by rwa [hd]⟩
  · next h1 h2 =>
    cases h
    exact ⟨rfl, h1⟩
  · next h1 h2 =>
    cases h
    exact ⟨rfl, h2⟩
  · cases h

theorem shortest?_eq_some {i : Interval} {tie : Tie} {n : Numeral}
    (h : i.shortest? tie = some n) :
    ∃ m : Numeral, n = m.strip 20 ∧ i.leading - 17 ≤ m.exponent ∧
      i.contains (m.digits * tenTo m.exponent.toNat) (tenTo (-m.exponent).toNat) = true := by
  unfold shortest? at h
  dsimp only at h
  obtain ⟨k, hk, h⟩ := List.exists_of_findSome?_eq_some h
  obtain ⟨m, hm, rfl⟩ := Option.map_eq_some_iff.1 h
  obtain ⟨hplace, hcontains⟩ := onGrid?_eq_some hm
  refine ⟨m, rfl, ?_, by rwa [hplace]⟩
  have := List.mem_range.1 hk
  omega

theorem le_leading (i : Interval) : -((i.unit.log2 : ℤ) + 2) ≤ i.leading := by
  unfold leading
  dsimp only
  cases [0, 1, 2].find? _ with
  | none =>
    rw [Option.elim_none]
    omega
  | some n =>
    rw [Option.elim_some]
    omega

end Interval

namespace Binary64

variable {x : Binary64}

theorem expansion_value (x : Binary64) : x.expansion.value = x.size := by
  unfold expansion size Numeral.value
  split_ifs with h
  · rw [Nat.shiftLeft_eq, Nat.cast_mul, Nat.cast_pow, zpow_zero, mul_one, zpow_of_nonneg 2 h,
      Nat.cast_two]
  · have hten : (10 : ℚ) ^ x.exponent = 5 ^ x.exponent * 2 ^ x.exponent := by
      rw [← mul_zpow]
      norm_num
    have hfive : ((Nat.pow 5 (-x.exponent).toNat : ℕ) : ℚ) = (5 ^ x.exponent)⁻¹ := by
      rw [zpow_of_nonpos 5 (by omega), inv_inv, Nat.pow_eq, Nat.cast_pow, Nat.cast_ofNat]
    rw [Nat.cast_mul, hfive, hten]
    field_simp

/-- The shortest numeral of a value is near it, and has no more places than its exact
expansion can have. -/
theorem shortest_near (hs : 0 < x.significand) (tie : Tie) :
    x.Near (x.shortest tie).value ∧ -1100 ≤ (x.shortest tie).exponent := by
  have hzero : x.isZero = false := by
    have hmag := x.magnitude_eq
    exact beq_false_of_ne (by omega)
  unfold shortest
  rw [hzero, if_neg Bool.false_ne_true]
  cases h : (Interval.ofBinary64 x).shortest? tie with
  | none =>
    rw [Option.getD_none, expansion_value]
    refine ⟨x.near_size, ?_⟩
    have hge := x.exponent_ge
    unfold expansion
    split_ifs
    · simp
    · dsimp only
      omega
  | some n =>
    obtain ⟨m, rfl, hplace, hcontains⟩ := Interval.shortest?_eq_some h
    rw [Option.getD_some]
    constructor
    · rw [Numeral.strip_value, Numeral.value_eq_div]
      exact near_of_contains hs (tenTo_pos _) hcontains
    · have hstrip := Numeral.exponent_le_strip 20 m
      have hleading := (Interval.ofBinary64 x).le_leading
      have hunit : (Interval.ofBinary64 x).unit.log2 ≤ 1076 := by
        have hge := x.exponent_ge
        unfold Interval.ofBinary64
        dsimp only
        rw [Nat.shiftLeft_eq, one_mul, Nat.log2_two_pow]
        omega
      omega

/-! ### Bounds of reading -/

theorem Near.bounds {v : ℚ} (h : x.Near v) (hx : x.isFinite = true) (hs : 0 < x.significand) :
    (2 : ℚ) ^ (-1075 : ℤ) ≤ v ∧ v < 2 ^ (1024 : ℤ) := by
  have hp := two_zpow_pos x.exponent
  have hs' : (1 : ℚ) ≤ x.significand := by exact_mod_cast hs
  have hreach := x.reach_bounds
  have htop := x.significand_le_cast
  have hlow := h.low
  have hhigh := h.high
  rw [← x.mul_inUnits v]
  constructor
  · have hunits : 1 / 2 ≤ x.inUnits v := by linarith
    calc (2 : ℚ) ^ (-1075 : ℤ) = 1 / 2 * 2 ^ (-1074 : ℤ) := by
          rw [show (-1075 : ℤ) = -1074 - 1 by norm_num, zpow_sub_one₀ two_ne_zero]
          ring
      _ ≤ 1 / 2 * 2 ^ x.exponent :=
        mul_le_mul_of_nonneg_left (zpow_le_zpow_right₀ one_le_two x.exponent_ge) (by norm_num)
      _ ≤ x.inUnits v * 2 ^ x.exponent := mul_le_mul_of_nonneg_right hunits hp.le
  · have hunits : x.inUnits v < 2 ^ 53 := by linarith
    have hexponent : x.exponent ≤ 971 := by
      have hfinite : x.magnitude.val < infinityMagnitude := of_decide_eq_true hx
      unfold exponent exponentField leadingBit
      unfold infinityMagnitude at hfinite
      omega
    calc x.inUnits v * 2 ^ x.exponent < 2 ^ 53 * 2 ^ x.exponent :=
          mul_lt_mul_of_pos_right hunits hp
      _ ≤ 2 ^ 53 * 2 ^ (971 : ℤ) :=
        mul_le_mul_of_nonneg_left (zpow_le_zpow_right₀ one_le_two hexponent) (by norm_num)
      _ = 2 ^ (1024 : ℤ) := by
        rw [← zpow_natCast, ← zpow_add₀ two_ne_zero]
        norm_num

/-- Powers of ten between powers of two. -/
theorem tenTo_bounds (places : ℕ) :
    2 ^ (33 * (places / 10)) ≤ tenTo places ∧ tenTo places ≤ 2 ^ (10 * (places / 3 + 1)) := by
  constructor
  · calc 2 ^ (33 * (places / 10)) = (2 ^ 33) ^ (places / 10) := by rw [pow_mul]
      _ ≤ (10 ^ 10) ^ (places / 10) := Nat.pow_le_pow_left (by norm_num) _
      _ = 10 ^ (10 * (places / 10)) := by rw [pow_mul]
      _ ≤ 10 ^ places := Nat.pow_le_pow_right (by norm_num) (by omega)
  · calc 10 ^ places ≤ 10 ^ (3 * (places / 3 + 1)) :=
          Nat.pow_le_pow_right (by norm_num) (by omega)
      _ = (10 ^ 3) ^ (places / 3 + 1) := by rw [pow_mul]
      _ ≤ (2 ^ 10) ^ (places / 3 + 1) := Nat.pow_le_pow_left (by norm_num) _
      _ = 2 ^ (10 * (places / 3 + 1)) := by rw [pow_mul]

theorem le_mul_two_pow_of_zpow_mul_le {power a b : ℕ} (h : (2 : ℚ) ^ (-(power : ℤ)) * a ≤ b) :
    a ≤ b * 2 ^ power := by
  rw [zpow_neg, zpow_natCast, inv_mul_le_iff₀ (by positivity), mul_comm] at h
  exact_mod_cast h

theorem lt_log2_add_of_two_pow_le {bits power n : ℕ} (h : 2 ^ bits ≤ n * 2 ^ power) :
    bits < n.log2 + 1 + power := by
  refine (Nat.pow_lt_pow_iff_right Nat.one_lt_two).1 ?_
  calc 2 ^ bits ≤ n * 2 ^ power := h
    _ < 2 ^ (n.log2 + 1) * 2 ^ power :=
      Nat.mul_lt_mul_of_pos_right Nat.lt_log2_self (Nat.two_pow_pos _)
    _ = 2 ^ (n.log2 + 1 + power) := (Nat.pow_add ..).symm

theorem ofDecimal_of_near {digits places : ℕ} (negative : Bool) (hx : x.isFinite = true)
    (hs : 0 < x.significand) (hplaces : places ≤ 1100)
    (h : x.Near ((digits : ℚ) / (tenTo places : ℕ))) :
    ofDecimal negative digits (-places) = ⟨negative, x.magnitude⟩ := by
  have hten := tenTo_pos places
  have hten' : (0 : ℚ) < tenTo places := by exact_mod_cast hten
  have hn := h.num_pos hten hs
  obtain ⟨hlow, hhigh⟩ := h.bounds hx hs
  rw [le_div_iff₀ hten'] at hlow
  rw [div_lt_iff₀ hten'] at hhigh
  obtain ⟨htenLow, htenHigh⟩ := tenTo_bounds places
  have hsize : digits.log2 < 1024 + 10 * (places / 3 + 1) := by
    refine (Nat.pow_lt_pow_iff_right Nat.one_lt_two).1 ?_
    calc 2 ^ digits.log2 ≤ digits := Nat.log2_self_le hn.ne'
      _ < 2 ^ 1024 * tenTo places := by exact_mod_cast hhigh
      _ ≤ 2 ^ 1024 * 2 ^ (10 * (places / 3 + 1)) := Nat.mul_le_mul_left _ htenHigh
      _ = 2 ^ (1024 + 10 * (places / 3 + 1)) := by rw [pow_add]
  have hsize' : 33 * (places / 10) < digits.log2 + 1 + 1075 :=
    lt_log2_add_of_two_pow_le (htenLow.trans (le_mul_two_pow_of_zpow_mul_le hlow))
  have hround := ofRatio_of_near hten h negative hx hs
  unfold ofDecimal
  dsimp only
  rw [if_neg (by simp; omega), if_neg (by omega), neg_neg, Int.toNat_natCast,
    Int.toNat_of_nonpos (by omega)]
  rwa [tenTo_zero, Nat.mul_one]

end Binary64

end Projections
