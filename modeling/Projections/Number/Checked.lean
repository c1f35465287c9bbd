/-! Integers of 64 bits. A result outside their range is no result. -/

namespace Projections

def fitsInt64 (n : Int) : Bool := -0x8000000000000000 ≤ n && n < 0x8000000000000000

def checkedInt64 (n : Int) : Option Int64 :=
  if fitsInt64 n then some (Int64.ofInt n) else none

theorem checkedInt64_toInt {n : Int} {r : Int64} (h : checkedInt64 n = some r) : r.toInt = n := by
  unfold checkedInt64 at h
  split at h
  · next hn =>
    simp only [fitsInt64, Bool.and_eq_true, decide_eq_true_eq] at hn
    cases h
    exact Int64.toInt_ofInt_of_le hn.1 hn.2
  · cases h

end Projections
