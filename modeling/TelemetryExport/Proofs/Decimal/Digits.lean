import Mathlib.Algebra.Group.Nat.Defs
import TelemetryExport.Decimal.Digits

/-! # Digits that read back

The digits of a natural number read back as that number (`naturalOfDigits_toDigits`), also with
zeros in front of them (`naturalOfDigits_padded`), so a number that was written in a fixed width
is the one that is read there, whatever follows it (`fixedNumber?_padded_append`).  The text of an
integer is its digits, with a minus sign in front of them if it is negative. -/

namespace TelemetryExport

theorem naturalOfDigits_eq_ofDigitChars (ds : List Char) :
    naturalOfDigits ds = Nat.ofDigitChars 10 ds 0 := by
  rw [Nat.ofDigitChars_eq_foldl]
  rfl

theorem naturalOfDigits_toDigits (n : Nat) : naturalOfDigits (Nat.toDigits 10 n) = n := by
  rw [naturalOfDigits_eq_ofDigitChars, Nat.ofDigitChars_ten_toDigits]

theorem isDigit_of_mem_toDigits {n : Nat} {c : Char} (h : c ∈ Nat.toDigits 10 n) :
    c.isDigit = true :=
  Nat.isDigit_of_mem_toDigits (by decide) (by decide) h

/-- The digits of a number begin with a digit. -/
theorem exists_toDigits_eq_cons (n : Nat) :
    ∃ c cs, Nat.toDigits 10 n = c :: cs ∧ c.isDigit = true := by
  obtain ⟨c, cs, hcs⟩ := List.exists_cons_of_ne_nil (Nat.toDigits_ne_nil (n := n) (b := 10))
  have hmem : c ∈ Nat.toDigits 10 n := by simp [hcs]
  exact ⟨c, cs, hcs, isDigit_of_mem_toDigits hmem⟩

theorem takeSign_of_isDigit {c : Char} (h : c.isDigit = true) (cs : List Char) :
    takeSign (c :: cs) = (false, c :: cs) := by
  unfold takeSign
  split
  · rename_i heq
    injection heq with hc
    subst hc
    exact absurd h (by decide)
  · rename_i heq
    injection heq with hc
    subst hc
    exact absurd h (by decide)
  · rfl

theorem takeSign_toDigits (n : Nat) : takeSign (Nat.toDigits 10 n) = (false, Nat.toDigits 10 n) := by
  obtain ⟨c, cs, hcs, hc⟩ := exists_toDigits_eq_cons n
  rw [hcs, takeSign_of_isDigit hc]

/-! ### Integers -/

theorem toList_toString_of_nonneg {i : Int} (h : 0 ≤ i) :
    (toString i).toList = Nat.toDigits 10 i.toNat := by
  rw [Int.toString_eq_repr, Int.repr_eq_if, if_pos h, Nat.toList_repr]

theorem toList_toString_of_neg {i : Int} (h : i < 0) :
    (toString i).toList = '-' :: Nat.toDigits 10 (-i).toNat := by
  rw [Int.toString_eq_repr, Int.repr_eq_if, if_neg (Int.not_le.mpr h), String.toList_append,
    Nat.toList_repr]
  rfl

/-! ### A fixed width -/

/-- The digits of a number, with zeros in front of them up to a width. -/
def padded (width n : Nat) : List Char :=
  List.replicate (width - digitCount n) '0' ++ Nat.toDigits 10 n

theorem isDigit_of_mem_padded {width n : Nat} {c : Char} (h : c ∈ padded width n) :
    c.isDigit = true := by
  rcases List.mem_append.mp h with hzero | hdigit
  · rw [List.eq_of_mem_replicate hzero]
    rfl
  · exact isDigit_of_mem_toDigits hdigit

/-- Both sides of a point are digits. -/
theorem Decimal.isDigit_of_mem_pointed {n places : Nat} {c : Char}
    (h : c ∈ (pointed n places).1 ∨ c ∈ (pointed n places).2) : c.isDigit = true := by
  have hpadded : c ∈ padded (places + 1) n := by
    simp only [pointed, List.splitAt_eq] at h
    exact h.elim List.mem_of_mem_take List.mem_of_mem_drop
  exact isDigit_of_mem_padded hpadded

theorem length_padded {width n : Nat} (hwidth : 0 < width) (hn : n < 10 ^ width) :
    (padded width n).length = width := by
  have hcount : digitCount n ≤ width := (Nat.length_toDigits_le_iff (by decide) hwidth).mpr hn
  unfold padded
  rw [List.length_append, List.length_replicate]
  exact Nat.sub_add_cancel hcount

theorem padded_ne_nil (width n : Nat) : padded width n ≠ [] :=
  List.append_ne_nil_of_right_ne_nil _ Nat.toDigits_ne_nil

theorem naturalOfDigits_padded (width n : Nat) : naturalOfDigits (padded width n) = n := by
  unfold padded
  rw [naturalOfDigits_eq_ofDigitChars, Nat.ofDigitChars_append, Nat.ofDigitChars_replicate_zero,
    Nat.mul_zero, Nat.ofDigitChars_ten_toDigits]

theorem fixedNumber?_padded_append {width low high n : Nat} (hwidth : 0 < width)
    (hn : n < 10 ^ width) (hlow : low ≤ n) (hhigh : n ≤ high) (rest : List Char) :
    fixedNumber? width low high (padded width n ++ rest) = some (n, rest) := by
  have hlength := length_padded hwidth hn
  have htake : (padded width n ++ rest).take width = padded width n := List.take_left' hlength
  have hdrop : (padded width n ++ rest).drop width = rest := List.drop_left' hlength
  have hdigits : (padded width n).all Char.isDigit = true :=
    List.all_eq_true.mpr fun c hc => isDigit_of_mem_padded hc
  unfold fixedNumber?
  simp only [htake, hdrop, naturalOfDigits_padded]
  rw [if_pos ⟨hlength, hdigits, hlow, hhigh⟩]

end TelemetryExport
