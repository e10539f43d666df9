/-! # Powers

`power base k` is the `k`-th power of a natural number.  An exponent with a sign is split in
two: `n * raise base e` over `raise base (-e)` is the quotient `n * base ^ e`, whichever sign
`e` has. -/

namespace TelemetryExport

def power (base k : Nat) : Nat := Nat.pow base k

/-- `base ^ e`, or one if `e` is negative. -/
def raise (base : Nat) (e : Int) : Nat := power base e.toNat

@[simp] theorem power_zero (base : Nat) : power base 0 = 1 := rfl

theorem power_succ (base k : Nat) : power base (k + 1) = power base k * base := rfl

theorem power_pos {base : Nat} (h : 0 < base) (k : Nat) : 0 < power base k := by
  induction k with
  | zero => simp
  | succ k ih => exact Nat.mul_pos ih h

end TelemetryExport
