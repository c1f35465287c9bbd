import Projections.Number.Text
import Projections.Proofs.Number.Shortest

/-! Texts of finite values in expressions. They consist of digits on both sides of a
point, and as such they read back as the value. -/

namespace Projections

/-! ### Runs of digits -/

theorem readDigits_eq (cs : List Char) : readDigits cs = Nat.ofDigitChars 10 cs 0 := rfl

@[simp] theorem readDigits_toDigits (n : ℕ) : readDigits (Nat.toDigits 10 n) = n := by
  rw [readDigits_eq, Nat.ofDigitChars_ten_toDigits]

theorem readDigits_append (front back : List Char) :
    readDigits (front ++ back) = 10 ^ back.length * readDigits front + readDigits back := by
  rw [readDigits_eq, Nat.ofDigitChars_append, Nat.ofDigitChars_eq_ofDigitChars_zero]
  rfl

@[simp] theorem readDigits_zeros (size : ℕ) : readDigits (List.replicate size '0') = 0 := by
  rw [readDigits_eq, Nat.ofDigitChars_replicate_zero, Nat.mul_zero]

theorem isDigit_of_mem_toDigits {n : ℕ} {c : Char} (h : c ∈ Nat.toDigits 10 n) :
    c.isDigit = true :=
  Nat.isDigit_of_mem_toDigits (by decide) (by decide) h

/-- A nonempty run of decimal digits. -/
def IsDigits (cs : List Char) : Prop := cs ≠ [] ∧ ∀ c ∈ cs, c.isDigit = true

theorem isDigits_zero : IsDigits ['0'] := by
  refine ⟨by simp, fun c hc => ?_⟩
  rw [List.mem_singleton.1 hc]
  rfl

theorem isDigits_toDigits (n : ℕ) : IsDigits (Nat.toDigits 10 n) :=
  ⟨Nat.toDigits_ne_nil, fun _ h => isDigit_of_mem_toDigits h⟩

namespace Binary64

/-- Digits on both sides of a point that read as a value. -/
structure Pointed (front back : List Char) (x : Binary64) : Prop where
  frontDigits : IsDigits front
  backDigits : IsDigits back
  reads : ofPoint front back = x

variable {x : Binary64}

/-- Digits around a point that stand for a number near a value read as the value. -/
theorem ofPoint_of_near {front back : List Char} (hx : x.isFinite = true)
    (hs : 0 < x.significand) (hlength : back.length ≤ 1100)
    (h : x.Near ((readDigits (front ++ back) : ℚ) / (tenTo back.length : ℕ))) :
    ofPoint front back = ⟨false, x.magnitude⟩ :=
  ofDecimal_of_near false hx hs hlength h

/-! ### Integral values -/

theorem isIntegral_iff (hx : x.isFinite = true) :
    x.isIntegral = true ↔ 2 ^ (-x.exponent).toNat ∣ x.significand := by
  rw [isIntegral, hx, Bool.true_and, beq_iff_eq, Nat.shiftLeft_eq, one_mul,
    ← Nat.dvd_iff_mod_eq_zero]

theorem whole_eq_size (hx : x.isFinite = true) (h : x.isIntegral = true) :
    (x.whole : ℚ) = x.size := by
  obtain ⟨t, ht⟩ := (isIntegral_iff hx).1 h
  unfold whole halves size
  dsimp only
  rcases Int.lt_or_le x.exponent 0 with he | he
  · -- the significand is cut to halves, exactly
    have hleft : (x.exponent + 1).toNat = 0 := Int.toNat_of_nonpos (by omega)
    have hright : (-x.exponent).toNat = (-(x.exponent + 1)).toNat + 1 := by omega
    have hhalves : x.significand >>> (-(x.exponent + 1)).toNat = 2 * t := by
      rw [ht, hright, Nat.shiftRight_eq_div_pow, pow_succ, mul_assoc,
        Nat.mul_div_cancel_left _ (by positivity)]
    rw [hleft, Nat.shiftLeft_zero, hhalves, Nat.mul_div_cancel_left _ (by norm_num),
      zpow_of_nonpos 2 he.le, ht]
    push_cast
    field_simp
  · have hleft : (x.exponent + 1).toNat = x.exponent.toNat + 1 := by omega
    have hright : (-(x.exponent + 1)).toNat = 0 := Int.toNat_of_nonpos (by omega)
    rw [hleft, hright, Nat.shiftRight_zero, Nat.shiftLeft_eq, pow_succ, ← mul_assoc,
      Nat.mul_div_cancel _ (by norm_num), zpow_of_nonneg 2 he]
    push_cast
    rfl

/-- Only zero has no significand. -/
theorem magnitude_eq_zero (h : x.significand = 0) : x.magnitude = 0 := by
  have hleast : x.exponent = -1074 := by
    by_contra hne
    have hge := x.exponent_ge
    have hfull : leadingBit ≤ x.significand := leadingBit_le (by omega)
    unfold leadingBit at hfull
    omega
  have hmag := x.magnitude_eq
  rw [h, hleast] at hmag
  exact Fin.ext (by simpa using hmag)

theorem pointed_whole (hx : x.isFinite = true) (h : x.isIntegral = true) :
    Pointed (Nat.toDigits 10 x.whole) ['0'] ⟨false, x.magnitude⟩ where
  frontDigits := isDigits_toDigits _
  backDigits := isDigits_zero
  reads := by
    have hread : readDigits (Nat.toDigits 10 x.whole ++ ['0']) = 10 * x.whole := by
      rw [readDigits_append, readDigits_toDigits]
      rfl
    rcases Nat.eq_zero_or_pos x.significand with hs | hs
    · have hwhole : x.whole = 0 := by simp [whole, halves, hs]
      rw [ofPoint, hread, hwhole, magnitude_eq_zero hs]
      simp [ofDecimal, zero]
    · refine ofPoint_of_near hx hs (by simp) ?_
      rw [hread]
      have hten : ((10 * x.whole : ℕ) : ℚ) / (tenTo ['0'].length : ℕ) = x.size := by
        rw [← whole_eq_size hx h]
        simp [tenTo]
      rw [hten]
      exact x.near_size

/-! ### Other values -/

/-- No whole number is near a value that is not integral. -/
theorem not_near_natCast (hx : x.isFinite = true) (h : x.isIntegral = false) (n : ℕ) :
    ¬ x.Near n := by
  intro hn
  have hdvd : ¬ 2 ^ (-x.exponent).toNat ∣ x.significand := fun hd => by
    rw [(isIntegral_iff hx).2 hd] at h
    cases h
  have hunits : x.inUnits n = (n * 2 ^ (-x.exponent).toNat : ℕ) := by
    have he : x.exponent ≤ 0 := by
      by_contra he
      rw [Int.toNat_of_nonpos (by omega)] at hdvd
      exact hdvd (one_dvd _)
    rw [inUnits, zpow_of_nonneg 2 (by omega), Nat.cast_mul, Nat.cast_pow, Nat.cast_two]
  have hreach := x.reach_bounds
  have hlow := hn.low
  have hhigh := hn.high
  rw [hunits] at hlow hhigh
  have hle : x.significand < n * 2 ^ (-x.exponent).toNat + 1 := by
    have : (x.significand : ℚ) < (n * 2 ^ (-x.exponent).toNat : ℕ) + 1 := by linarith
    exact_mod_cast this
  have hge : n * 2 ^ (-x.exponent).toNat < x.significand + 1 := by
    have : ((n * 2 ^ (-x.exponent).toNat : ℕ) : ℚ) < x.significand + 1 := by linarith
    exact_mod_cast this
  exact hdvd ⟨n, by rw [mul_comm]; omega⟩

/-- Positional notation of a numeral with places. -/
theorem positional_pointed {n : Numeral} (hx : x.isFinite = true) (hs : 0 < x.significand)
    (hn : x.Near n.value) (hneg : n.exponent < 0) (hplaces : -1100 ≤ n.exponent) :
    ∃ front back, n.positional false = front ++ '.' :: back ∧
      Pointed front back ⟨false, x.magnitude⟩ := by
  have hvalue : n.value = (n.digits : ℚ) / (tenTo (-n.exponent).toNat : ℕ) := by
    rw [Numeral.value_eq_div, Int.toNat_of_nonpos hneg.le]
    simp [tenTo]
  rw [hvalue] at hn
  have hdigits : IsDigits n.digitChars := isDigits_toDigits _
  have hlength := List.length_pos_iff.2 hdigits.1
  have hpoint : n.point = n.digitChars.length + n.exponent := rfl
  unfold Numeral.positional
  rw [if_neg (by omega)]
  split_ifs with hp
  · refine ⟨n.digitChars.take n.point.toNat, n.digitChars.drop n.point.toNat, rfl, ?_, ?_, ?_⟩
    · exact ⟨List.ne_nil_of_length_pos (by rw [List.length_take]; omega),
        fun c hc => hdigits.2 c (List.mem_of_mem_take hc)⟩
    · exact ⟨List.ne_nil_of_length_pos (by rw [List.length_drop]; omega),
        fun c hc => hdigits.2 c (List.mem_of_mem_drop hc)⟩
    · have hback : (n.digitChars.drop n.point.toNat).length = (-n.exponent).toNat := by
        rw [List.length_drop]
        omega
      refine ofPoint_of_near hx hs (by omega) ?_
      rwa [List.take_append_drop, hback, Numeral.digitChars, readDigits_toDigits]
  · refine ⟨['0'], List.replicate (-n.point).toNat '0' ++ n.digitChars, rfl, ?_, ?_, ?_⟩
    · exact isDigits_zero
    · refine ⟨by simp [hdigits.1], fun c hc => ?_⟩
      rcases List.mem_append.1 hc with hc | hc
      · rw [List.eq_of_mem_replicate hc]
        decide
      · exact hdigits.2 c hc
    · have hback : (List.replicate (-n.point).toNat '0' ++ n.digitChars).length =
          (-n.exponent).toNat := by
        rw [List.length_append, List.length_replicate]
        omega
      have hread : readDigits (['0'] ++ (List.replicate (-n.point).toNat '0' ++ n.digitChars)) =
          n.digits := by
        rw [readDigits_append, readDigits_append, readDigits_zeros, Numeral.digitChars,
          readDigits_toDigits]
        simp [readDigits, digitValue]
      refine ofPoint_of_near hx hs (by omega) ?_
      rwa [hread, hback]

/-- The shortest numeral of a value that is not integral has places. -/
theorem shortest_exponent_neg (hx : x.isFinite = true) (hs : 0 < x.significand)
    (h : x.isIntegral = false) (tie : Tie) : (x.shortest tie).exponent < 0 := by
  by_contra hge
  have hnear := (shortest_near hs tie).1
  rw [Numeral.value_eq_div, Int.toNat_of_nonpos (by omega : -(x.shortest tie).exponent ≤ 0),
    tenTo_zero, Nat.cast_one, div_one] at hnear
  exact not_near_natCast hx h _ hnear

/-- The text of a finite value in expressions. -/
theorem sourceText_pointed (hx : x.isFinite = true) :
    ∃ front back, x.sourceText = x.signed (front ++ '.' :: back) ∧
      Pointed front back ⟨false, x.magnitude⟩ := by
  unfold sourceText
  split_ifs with h
  · exact ⟨_, _, rfl, pointed_whole hx h⟩
  · rw [Bool.not_eq_true] at h
    have hs : 0 < x.significand := by
      by_contra hs
      rw [(isIntegral_iff hx).2 (by simp [Nat.eq_zero_of_not_pos hs])] at h
      cases h
    obtain ⟨hnear, hplaces⟩ := shortest_near hs .up
    have hneg := shortest_exponent_neg hx hs h .up
    obtain ⟨front, back, htext, hpointed⟩ := positional_pointed hx hs hnear hneg hplaces
    have hfinite : x.magnitude.val < infinityMagnitude := of_decide_eq_true hx
    refine ⟨front, back, ?_, hpointed⟩
    have hnan : x.isNaN = false := decide_eq_false (by omega)
    have hinfinite : x.isInfinite = false := beq_false_of_ne (by omega)
    rw [text, hnan, hinfinite, ← htext]
    rfl

end Binary64

end Projections
