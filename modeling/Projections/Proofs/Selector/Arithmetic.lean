import Mathlib.Data.Int.Basic
import Projections.Proofs.Result
import Projections.Selector.Evaluation

/-! Integers under the signs of arithmetic. A result is that of exact arithmetic, or a failure
where that has none of 64 bits; an inexact quotient is a float. The one exception is the least
integer over minus one, whose quotient is a float and whose remainder fails. -/

namespace Projections

/-! ### Integers of 64 bits -/

theorem checkedInt64_eq_some_iff {n : ℤ} {r : Int64} : checkedInt64 n = some r ↔ r.toInt = n := by
  refine ⟨checkedInt64_toInt, ?_⟩
  rintro rfl
  have hfits : fitsInt64 r.toInt = true := by
    have hlow := r.le_toInt
    have hhigh := r.toInt_lt
    simp only [fitsInt64, Bool.and_eq_true, decide_eq_true_eq]
    omega
  rw [checkedInt64, if_pos hfits, Int64.ofInt_toInt]

theorem checkedInt64_eq_none_iff {n : ℤ} : checkedInt64 n = none ↔ ∀ r : Int64, r.toInt ≠ n := by
  simp only [Option.eq_none_iff_forall_ne_some, ne_eq, checkedInt64_eq_some_iff]

/-- No integer but zero is rounded to zero. -/
theorem Binary64.isZero_ofInt (n : ℤ) : (ofInt n).isZero = decide (n = 0) := by
  by_cases hn : n = 0
  · subst hn
    rfl
  · have hplace : -53 ≤ lastPlace n.natAbs 1 := by
      have hone : Nat.log2 1 = 0 := rfl
      unfold lastPlace
      dsimp only
      rw [hone]
      split_ifs <;> omega
    have hmagnitude : (ofInt n).magnitude.val ≠ 0 := by
      unfold ofInt ofRatio
      rw [if_neg (Int.natAbs_ne_zero.2 hn)]
      have hfirst := Nat.mul_le_mul_right leadingBit
        (show 1 ≤ (lastPlace n.natAbs 1 + 1074).toNat by omega)
      unfold infinityMagnitude
      dsimp only
      unfold leadingBit at *
      omega
    rw [isZero, decide_eq_false hn]
    exact beq_false_of_ne hmagnitude

namespace BinaryOp

/-! ### Exact arithmetic -/

/-- The results of exact arithmetic. Only a divisor that divides has a quotient, and a remainder
has the sign of the dividend. -/
inductive Exact (a b : ℤ) : BinaryOp → ℤ → Prop
  | add : Exact a b .add (a + b)
  | subtract : Exact a b .subtract (a - b)
  | multiply : Exact a b .multiply (a * b)
  | divide {q : ℤ} (hb : b ≠ 0) (h : a = q * b) : Exact a b .divide q
  | modulo {q r : ℤ} (hb : b ≠ 0) (h : a = q * b + r) (hlt : r.natAbs < b.natAbs)
      (hpos : 0 ≤ a → 0 ≤ r) (hneg : a ≤ 0 → r ≤ 0) : Exact a b .modulo r

variable {a b q : ℤ}

theorem exact_add_iff : Exact a b .add q ↔ q = a + b :=
  ⟨by rintro ⟨⟩; rfl, by rintro rfl; exact .add⟩

theorem exact_subtract_iff : Exact a b .subtract q ↔ q = a - b :=
  ⟨by rintro ⟨⟩; rfl, by rintro rfl; exact .subtract⟩

theorem exact_multiply_iff : Exact a b .multiply q ↔ q = a * b :=
  ⟨by rintro ⟨⟩; rfl, by rintro rfl; exact .multiply⟩

theorem exact_divide_iff : Exact a b .divide q ↔ b ≠ 0 ∧ a.tmod b = 0 ∧ q = a.tdiv b := by
  constructor
  · rintro ⟨⟩
    next hb h =>
    subst h
    exact ⟨hb, Int.mul_tmod_left q b, (Int.mul_tdiv_cancel q hb).symm⟩
  · rintro ⟨hb, hdvd, rfl⟩
    exact .divide hb (Int.tdiv_mul_cancel (Int.dvd_of_tmod_eq_zero hdvd)).symm

theorem natAbs_tmod_lt (a : ℤ) (hb : b ≠ 0) : (a.tmod b).natAbs < b.natAbs := by
  rw [Int.natAbs_tmod]
  exact Nat.mod_lt _ (Int.natAbs_pos.2 hb)

theorem tmod_nonpos (ha : a ≤ 0) : a.tmod b ≤ 0 := by
  have h := Int.tmod_nonneg b (Int.neg_nonneg_of_nonpos ha)
  rw [Int.neg_tmod] at h
  omega

theorem exact_modulo_iff {r : ℤ} : Exact a b .modulo r ↔ b ≠ 0 ∧ r = a.tmod b := by
  constructor
  · rintro ⟨⟩
    next q hb hlt hpos hneg h =>
    refine ⟨hb, ?_⟩
    -- two remainders of one sign differ by less than the divisor, and by a multiple of it
    have hlt' := natAbs_tmod_lt a hb
    have hpos' : 0 ≤ a → 0 ≤ a.tmod b := Int.tmod_nonneg b
    have hneg' : a ≤ 0 → a.tmod b ≤ 0 := tmod_nonpos
    have hdvd : b ∣ r - a.tmod b :=
      ⟨a.tdiv b - q, by
        have := Int.mul_tdiv_add_tmod a b
        rw [Int.mul_sub, Int.mul_comm b q]
        omega⟩
    have hzero := Int.eq_zero_of_dvd_of_natAbs_lt_natAbs hdvd (by omega)
    omega
  · rintro ⟨hb, rfl⟩
    have hsplit := Int.mul_tdiv_add_tmod a b
    rw [Int.mul_comm] at hsplit
    exact .modulo hb hsplit.symm (natAbs_tmod_lt a hb) (Int.tmod_nonneg b) tmod_nonpos

/-! ### Integers of 64 bits under a sign -/

/-- The least integer over minus one. Its quotient is one more than the greatest integer. -/
def Least (a b : Int64) : Prop := a = Int64.minValue ∧ b = -1

instance (a b : Int64) : Decidable (Least a b) :=
  inferInstanceAs (Decidable (a = Int64.minValue ∧ b = -1))

/-- The outcome of an operation is the exact result if that has 64 bits, and else a failure.
Dividing by zero is a failure of its own, and an inexact quotient a float. -/
structure ExactOrFails (op : BinaryOp) (a b : Int64) (outcome : Except BindError Value) : Prop where
  integer : ∀ n : Int64, outcome = .ok (.integer n) ↔ op.Exact a.toInt b.toInt n.toInt
  overflow : outcome = .error (.type (.overflow op a b)) ↔
    ∃ q, op.Exact a.toInt b.toInt q ∧ ∀ n : Int64, n.toInt ≠ q
  divisionByZero : outcome = .error .divisionByZero ↔ (op = .divide ∨ op = .modulo) ∧ b = 0
  float : (∃ x, outcome = .ok (.float x)) ↔
    op = .divide ∧ b ≠ 0 ∧ ∀ q, ¬ op.Exact a.toInt b.toInt q

/-- An exact result, which has to fit. -/
def fitted (op : BinaryOp) (a b : Int64) (q : ℤ) : Except BindError Value :=
  match checkedInt64 q with
  | some n => .ok (.integer n)
  | none => .error (.type (.overflow op a b))

section Outcomes

variable {op : BinaryOp} {a b : Int64}

theorem toInt_eq_zero_iff : b.toInt = 0 ↔ b = 0 := by
  rw [← Int64.toInt_inj, Int64.toInt_zero]

theorem fitted_eq_ok_iff {q : ℤ} {v : Value} :
    fitted op a b q = .ok v ↔ ∃ n : Int64, n.toInt = q ∧ v = .integer n := by
  unfold fitted
  split
  · next n hn =>
    rw [checkedInt64_eq_some_iff] at hn
    subst hn
    simp [eq_comm, Int64.toInt_inj]
  · next hn =>
    rw [checkedInt64_eq_none_iff] at hn
    simp [hn]

theorem fitted_eq_error_iff {q : ℤ} {e : BindError} :
    fitted op a b q = .error e ↔ (∀ n : Int64, n.toInt ≠ q) ∧ e = .type (.overflow op a b) := by
  rw [← checkedInt64_eq_none_iff]
  unfold fitted
  split
  · next hn => simp [hn]
  · next hn => simp [hn, eq_comm]

/-- Where there is just one exact result, it is given if it fits. -/
theorem exactOrFails_fitted {q : ℤ} (h : ∀ r, op.Exact a.toInt b.toInt r ↔ r = q)
    (hzero : op = .divide ∨ op = .modulo → b ≠ 0) : ExactOrFails op a b (fitted op a b q) where
  integer n := by simp [fitted_eq_ok_iff, h, eq_comm]
  overflow := by simp [fitted_eq_error_iff, h]
  divisionByZero := by
    simp only [fitted_eq_error_iff, reduceCtorEq, and_false, false_iff, not_and]
    exact hzero
  float := by
    refine iff_of_false ?_ ?_
    · rintro ⟨x, hx⟩
      obtain ⟨n, -, hn⟩ := fitted_eq_ok_iff.1 hx
      cases hn
    · rintro ⟨-, -, hnone⟩
      exact hnone q ((h q).2 rfl)

/-- Dividing by zero has no exact result. -/
theorem exactOrFails_divisionByZero (hop : op = .divide ∨ op = .modulo) :
    ExactOrFails op a 0 (.error .divisionByZero) := by
  have hnone : ∀ q, ¬ op.Exact a.toInt 0 q := by
    intro q hq
    rcases hop with rfl | rfl
    · exact (exact_divide_iff.1 hq).1 rfl
    · exact (exact_modulo_iff.1 hq).1 rfl
  exact ⟨by simp [hnone], by simp [hnone], by simp [hop], by simp⟩

/-- A divisor that does not divide has no quotient. -/
theorem exactOrFails_float (hb : b ≠ 0) (hrest : a.toInt.tmod b.toInt ≠ 0) (x : Binary64) :
    ExactOrFails .divide a b (.ok (.float x)) := by
  have hnone : ∀ q, ¬ BinaryOp.divide.Exact a.toInt b.toInt q := by
    intro q hq
    exact hrest (exact_divide_iff.1 hq).2.1
  exact ⟨by simp [hnone], by simp [hnone], by simp [hb], by simp [hnone, hb]⟩

/-- All quotients fit, but for that of the least integer and minus one. -/
theorem exists_toInt_eq_tdiv (hb : b ≠ 0) (h : ¬ Least a b) :
    ∃ n : Int64, n.toInt = a.toInt.tdiv b.toInt := by
  have hlow := a.le_toInt
  have hhigh := a.toInt_lt
  suffices hfits : -0x8000000000000000 ≤ a.toInt.tdiv b.toInt ∧
      a.toInt.tdiv b.toInt < 0x8000000000000000 from
    ⟨Int64.ofInt (a.toInt.tdiv b.toInt), Int64.toInt_ofInt_of_le hfits.1 hfits.2⟩
  have hle := Int.natAbs_tdiv_le_natAbs a.toInt b.toInt
  have hb' : b.toInt ≠ 0 := mt toInt_eq_zero_iff.1 hb
  by_cases hunit : b.toInt.natAbs = 1
  · rcases Int.natAbs_eq_iff.1 hunit with hone | hminus
    · rw [hone, Int.natCast_one, Int.tdiv_one]
      omega
    · have hleast : a.toInt ≠ -0x8000000000000000 := fun ha =>
        h ⟨Int64.toInt_inj.1 ha, Int64.toInt_inj.1 hminus⟩
      rw [hminus, Int.natCast_one, Int.tdiv_neg, Int.tdiv_one]
      omega
  · have hhalf : (a.toInt.tdiv b.toInt).natAbs ≤ a.toInt.natAbs / 2 := by
      rw [Int.natAbs_tdiv]
      exact Nat.div_le_div_left (by omega) (by decide)
    omega

/-! ### Signs -/

/-- The signs of arithmetic. -/
def arithmeticSigns : List BinaryOp := [.add, .subtract, .multiply, .divide, .modulo]

/-- Where a quotient or a remainder is not that of exact arithmetic. -/
def Misses (op : BinaryOp) (a b : Int64) : Prop := (op = .divide ∨ op = .modulo) ∧ Least a b

instance (op : BinaryOp) (a b : Int64) : Decidable (Misses op a b) :=
  inferInstanceAs (Decidable ((op = .divide ∨ op = .modulo) ∧ Least a b))

/-- A divisor is tested as a float, which tells zero from all other integers. -/
theorem division_integers (op : BinaryOp) (a b : Int64) :
    op.division (.integer a) (.integer b) =
      if b = 0 then .error .divisionByZero else op.onIntegers a b := by
  simp only [division, Value.asFloat?, Binary64.isZero_ofInt, toInt_eq_zero_iff, arithmetic,
    decide_eq_true_eq]

theorem exactOrFails_divide (h : ¬ Least a b) :
    ExactOrFails .divide a b (BinaryOp.divide.apply (.integer a) (.integer b)) := by
  rw [apply, division_integers]
  split_ifs with hb
  · subst hb
    exact exactOrFails_divisionByZero (.inl rfl)
  · obtain ⟨n, hn⟩ := exists_toInt_eq_tdiv hb h
    have hquotient : checkedInt64 (a.toInt.tdiv b.toInt) = some n := checkedInt64_eq_some_iff.2 hn
    by_cases hrest : a.toInt.tmod b.toInt = 0
    · have hfitted : BinaryOp.divide.onIntegers a b =
          fitted .divide a b (a.toInt.tdiv b.toInt) := by
        simp [onIntegers, fitted, hquotient, hrest]
      rw [hfitted]
      refine exactOrFails_fitted (fun r => ?_) fun _ => hb
      rw [exact_divide_iff, and_iff_right (mt toInt_eq_zero_iff.1 hb), and_iff_right hrest]
    · have hfloat : BinaryOp.divide.onIntegers a b =
          .ok (.float ((Binary64.ofInt a.toInt).div (.ofInt b.toInt))) := by
        simp [onIntegers, hrest]
      rw [hfloat]
      exact exactOrFails_float hb hrest _

theorem exactOrFails_modulo (h : ¬ Least a b) :
    ExactOrFails .modulo a b (BinaryOp.modulo.apply (.integer a) (.integer b)) := by
  rw [apply, division_integers]
  split_ifs with hb
  · subst hb
    exact exactOrFails_divisionByZero (.inr rfl)
  · obtain ⟨n, hn⟩ := exists_toInt_eq_tdiv hb h
    have hquotient : checkedInt64 (a.toInt.tdiv b.toInt) = some n := checkedInt64_eq_some_iff.2 hn
    have hfitted : BinaryOp.modulo.onIntegers a b = fitted .modulo a b (a.toInt.tmod b.toInt) := by
      cases hrest : checkedInt64 (a.toInt.tmod b.toInt) <;>
        simp [onIntegers, fitted, hquotient, hrest]
    rw [hfitted]
    refine exactOrFails_fitted (fun r => ?_) fun _ => hb
    rw [exact_modulo_iff, and_iff_right (mt toInt_eq_zero_iff.1 hb)]

/-- Off the exception integers give what exact arithmetic has. -/
theorem exactOrFails_apply (hop : op ∈ arithmeticSigns) (h : ¬ Misses op a b) :
    ExactOrFails op a b (op.apply (.integer a) (.integer b)) := by
  simp only [arithmeticSigns, List.mem_cons, List.not_mem_nil, or_false] at hop
  rcases hop with rfl | rfl | rfl | rfl | rfl
  · exact exactOrFails_fitted (fun r => exact_add_iff) (by simp)
  · exact exactOrFails_fitted (fun r => exact_subtract_iff) (by simp)
  · exact exactOrFails_fitted (fun r => exact_multiply_iff) (by simp)
  · exact exactOrFails_divide fun hleast => h ⟨.inl rfl, hleast⟩
  · exact exactOrFails_modulo fun hleast => h ⟨.inr rfl, hleast⟩

/-- The exact quotient of the exception is too great, and is given as a float. -/
theorem divide_least : BinaryOp.divide.apply (.integer Int64.minValue) (.integer (-1)) =
    .ok (.float (.ofInt 0x8000000000000000)) := by
  have hfloat : (Binary64.ofInt (-0x8000000000000000)).div (.ofInt (-1)) =
      .ofInt 0x8000000000000000 := by decide +kernel
  rw [← hfloat]
  rfl

theorem exact_divide_least :
    BinaryOp.divide.Exact Int64.minValue.toInt (-1 : Int64).toInt 0x8000000000000000 ∧
      ∀ n : Int64, n.toInt ≠ 0x8000000000000000 :=
  ⟨.divide (by decide) (by decide), fun n => Int.ne_of_lt n.toInt_lt⟩

/-- The exact remainder of the exception is zero, but taking it fails. -/
theorem modulo_least : BinaryOp.modulo.apply (.integer Int64.minValue) (.integer (-1)) =
    .error (.type (.overflow .modulo Int64.minValue (-1))) := rfl

theorem exact_modulo_least :
    BinaryOp.modulo.Exact Int64.minValue.toInt (-1 : Int64).toInt (0 : Int64).toInt :=
  exact_modulo_iff.2 ⟨by decide, by decide⟩

/-- In the exception no integer and no failure says what exact arithmetic has. -/
theorem not_exactOrFails_of_misses (h : Misses op a b) :
    ¬ ExactOrFails op a b (op.apply (.integer a) (.integer b)) := by
  obtain ⟨hop, rfl, rfl⟩ := h
  intro hlaw
  rcases hop with rfl | rfl
  · have hfails := hlaw.overflow.2 ⟨_, exact_divide_least⟩
    rw [divide_least] at hfails
    cases hfails
  · have hgives := (hlaw.integer 0).2 exact_modulo_least
    rw [modulo_least] at hgives
    cases hgives

theorem settled?_integer (hop : op ∈ arithmeticSigns) (a : Int64) :
    op.settled? (.integer a) = none := by
  revert op
  simp [arithmeticSigns, settled?]

end Outcomes

end BinaryOp

/-! ### Expressions -/

open BinaryOp

namespace Expr

/-- Integers under the signs of arithmetic give what exact arithmetic has, or fail where it has
no integer of 64 bits, in all cases but one: for the least integer over minus one the quotient
is a float, and the remainder fails. -/
theorem eval_integers {op : BinaryOp} (hop : op ∈ arithmeticSigns) {left right : Expr}
    {scope : Scope} {a b : Int64} (hleft : left.eval scope = .ok (.integer a))
    (hright : right.eval scope = .ok (.integer b)) :
    let outcome := (Expr.binary op left right).eval scope
    (ExactOrFails op a b outcome ↔ ¬ Misses op a b) ∧
      (Misses op a b →
        op = .divide ∧ outcome = .ok (.float (.ofInt 0x8000000000000000)) ∨
          op = .modulo ∧ outcome = .error (.type (.overflow op a b))) := by
  intro outcome
  have houtcome : outcome = op.apply (.integer a) (.integer b) := by
    simp only [outcome, eval, hleft, hright, Result.ok_bind, settled?_integer hop]
  rw [houtcome]
  refine ⟨⟨fun hlaw hmisses => not_exactOrFails_of_misses hmisses hlaw,
    exactOrFails_apply hop⟩, ?_⟩
  rintro ⟨rfl | rfl, rfl, rfl⟩
  · exact .inl ⟨rfl, divide_least⟩
  · exact .inr ⟨rfl, modulo_least⟩

/-- The greatest integer and one have a sum, which does not fit. -/
theorem eval_integers_of_greatest :
    let sum := Expr.binary .add (.integer Int64.maxValue) (.name "x")
    let scope : Scope := [("x", .integer 1)]
    BinaryOp.add ∈ arithmeticSigns ∧
      (Expr.integer Int64.maxValue).eval scope = .ok (.integer Int64.maxValue) ∧
      (Expr.name "x").eval scope = .ok (.integer 1) ∧
      ((ExactOrFails .add Int64.maxValue 1 (sum.eval scope) ↔ ¬ Misses .add Int64.maxValue 1) ∧
        (Misses .add Int64.maxValue 1 →
          BinaryOp.add = .divide ∧ sum.eval scope = .ok (.float (.ofInt 0x8000000000000000)) ∨
            BinaryOp.add = .modulo ∧
              sum.eval scope = .error (.type (.overflow .add Int64.maxValue 1)))) ∧
      sum.eval scope = .error (.type (.overflow .add Int64.maxValue 1)) := by
  intro sum scope
  have hsign : BinaryOp.add ∈ arithmeticSigns := by decide
  have hleft : (Expr.integer Int64.maxValue).eval scope = .ok (.integer Int64.maxValue) := rfl
  have hright : (Expr.name "x").eval scope = .ok (.integer 1) := rfl
  have hlaw := eval_integers hsign hleft hright
  have hfails := (hlaw.1.2 (by decide)).overflow.2
    ⟨0x8000000000000000, .add, fun n => Int.ne_of_lt n.toInt_lt⟩
  exact ⟨hsign, hleft, hright, hlaw, hfails⟩

/-- The least integer over minus one: the quotient in exact arithmetic does not fit, but there is
no failure, and the remainder fits, but there is one. -/
theorem quotient_of_least_is_float :
    let scope : Scope := [("x", .integer Int64.minValue)]
    let divided (op : BinaryOp) := (Expr.binary op (.name "x") (.integer (-1))).eval scope
    (BinaryOp.divide.Exact Int64.minValue.toInt (-1 : Int64).toInt 0x8000000000000000 ∧
        (∀ n : Int64, n.toInt ≠ 0x8000000000000000) ∧
        divided .divide = .ok (.float (.ofInt 0x8000000000000000))) ∧
      BinaryOp.modulo.Exact Int64.minValue.toInt (-1 : Int64).toInt (0 : Int64).toInt ∧
      divided .modulo = .error (.type (.overflow .modulo Int64.minValue (-1))) :=
  ⟨⟨exact_divide_least.1, exact_divide_least.2, divide_least⟩, exact_modulo_least, modulo_least⟩

end Expr

end Projections
