import Mathlib.Algebra.Order.Field.Power
import Mathlib.Algebra.Order.Field.Rat
import Mathlib.Data.Rat.Cast.Order
import Mathlib.Tactic.FieldSimp
import Mathlib.Tactic.Linarith
import Mathlib.Tactic.NormNum
import Mathlib.Tactic.Positivity
import Mathlib.Tactic.Ring
import TelemetryExport.Binary.Number

/-! # Exact conversions

A finite datum stands for a rational number (`Datum.value?`).  A number is representable in a
format (`BinaryFormat.Representable`) if it is a significand of the format's precision times a
power of two in the format's exponent range.  Rounding does not change such a number:

* `value?_datum_pattern`: a datum with a representable magnitude is written as a pattern that
  reads back with the same value;
* `Single.value?_toDouble`, `Single.value?_toSingle`: a finite binary32 number keeps its value
  when it is widened, and when any binary64 number of that value is narrowed again;
* `Double.value?_ofNat`: a natural number up to `2 ^ 53` is a binary64 number.

Behind them stands the one normal form of a finite magnitude (`BinaryFormat.Canonical`), in
which either the leading bit of the significand is set or the exponent is the least one. -/

namespace TelemetryExport

/-! ### Powers and logarithms -/

theorem power_pos_two (k : Nat) : 0 < power 2 k := power_pos (by decide) k

theorem cast_power (k : Nat) : ((power 2 k : Nat) : ℚ) = 2 ^ k := by
  show ((2 ^ k : Nat) : ℚ) = 2 ^ k
  push_cast
  rfl

theorem raise_pos (e : Int) : 0 < raise 2 e := power_pos_two _

/-- The two parts into which a power with a sign is split. -/
theorem raise_div_raise (e : Int) : (raise 2 e : ℚ) / raise 2 (-e) = 2 ^ e := by
  unfold raise
  rw [cast_power, cast_power]
  rcases Int.le_total 0 e with h | h
  · obtain ⟨n, rfl⟩ := Int.eq_ofNat_of_zero_le h
    have hn : (-(n : Int)).toNat = 0 := by omega
    rw [hn, Int.toNat_natCast, zpow_natCast, pow_zero, div_one]
  · obtain ⟨n, hn⟩ := Int.eq_ofNat_of_zero_le (show 0 ≤ -e by omega)
    obtain rfl : e = -(n : Int) := by omega
    have h0 : (-(n : Int)).toNat = 0 := by omega
    rw [h0, neg_neg, Int.toNat_natCast, zpow_neg, zpow_natCast, pow_zero, one_div]

theorem two_zpow_pos (e : Int) : (0 : ℚ) < 2 ^ e := by positivity

theorem two_zpow_lt_iff {i j : Int} : (2 : ℚ) ^ i < 2 ^ j ↔ i < j :=
  zpow_lt_zpow_iff_right₀ (by norm_num)

theorem two_zpow_add (i j : Int) : (2 : ℚ) ^ (i + j) = 2 ^ i * 2 ^ j :=
  zpow_add₀ (by norm_num) i j

theorem two_zpow_log2_le {n : Nat} (h : n ≠ 0) : (2 : ℚ) ^ (n.log2 : Int) ≤ n := by
  rw [zpow_natCast]
  exact_mod_cast Nat.log2_self_le h

theorem lt_two_zpow_log2 (n : Nat) : (n : ℚ) < 2 ^ ((n.log2 : Int) + 1) := by
  have h : n < 2 ^ (n.log2 + 1) := Nat.lt_log2_self
  have e : (n.log2 : Int) + 1 = ((n.log2 + 1 : Nat) : Int) := by push_cast; rfl
  rw [e, zpow_natCast]
  exact_mod_cast h

/-- A power of two compared with a quotient, in natural numbers. -/
theorem mul_raise_le_iff {num den : Nat} (hd : den ≠ 0) (d : Int) :
    den * raise 2 d ≤ num * raise 2 (-d) ↔ (2 : ℚ) ^ d ≤ num / den := by
  have hden : (0 : ℚ) < den := by exact_mod_cast Nat.pos_of_ne_zero hd
  have hr : (0 : ℚ) < raise 2 (-d) := by exact_mod_cast raise_pos (-d)
  rw [← raise_div_raise d, div_le_div_iff₀ hr hden]
  constructor
  · intro h
    have h' : ((den * raise 2 d : Nat) : ℚ) ≤ (num * raise 2 (-d) : Nat) := by exact_mod_cast h
    push_cast at h'
    linarith
  · intro h
    have h' : ((den * raise 2 d : Nat) : ℚ) ≤ (num * raise 2 (-d) : Nat) := by
      push_cast
      linarith
    exact_mod_cast h'

theorem floorLog_eq {num den : Nat} (hn : num ≠ 0) (hd : den ≠ 0) {k : Int}
    (h : (2 : ℚ) ^ k ≤ num / den) (h' : (num : ℚ) / den < 2 ^ (k + 1)) :
    floorLog num den = k := by
  have hden : (0 : ℚ) < den := by exact_mod_cast Nat.pos_of_ne_zero hd
  -- the difference of the two logarithms is `k` or `k + 1`
  have hle : k ≤ (num.log2 : Int) - den.log2 := by
    have h1 : (2 : ℚ) ^ k * 2 ^ (den.log2 : Int) < 2 ^ ((num.log2 : Int) + 1) := calc
      (2 : ℚ) ^ k * 2 ^ (den.log2 : Int) ≤ num / den * den :=
        mul_le_mul h (two_zpow_log2_le hd) (two_zpow_pos _).le (by positivity)
      _ = num := div_mul_cancel₀ _ hden.ne'
      _ < 2 ^ ((num.log2 : Int) + 1) := lt_two_zpow_log2 num
    rw [← two_zpow_add, two_zpow_lt_iff] at h1
    omega
  have hge : (num.log2 : Int) - den.log2 ≤ k + 1 := by
    have h1 : (2 : ℚ) ^ (num.log2 : Int) < 2 ^ (k + 1) * 2 ^ ((den.log2 : Int) + 1) := calc
      (2 : ℚ) ^ (num.log2 : Int) ≤ num := two_zpow_log2_le hn
      _ = num / den * den := (div_mul_cancel₀ _ hden.ne').symm
      _ < 2 ^ (k + 1) * 2 ^ ((den.log2 : Int) + 1) :=
        mul_lt_mul h' (lt_two_zpow_log2 den).le hden (two_zpow_pos _).le
    rw [← two_zpow_add, two_zpow_lt_iff] at h1
    omega
  unfold floorLog
  simp only [mul_raise_le_iff hd]
  split_ifs with hc
  · have := two_zpow_lt_iff.mp (lt_of_le_of_lt hc h')
    omega
  · have hk : (num.log2 : Int) - den.log2 ≠ k := by
      intro hk
      rw [hk] at hc
      exact hc h
    omega

theorem roundDiv_mul_self (m : Nat) {d : Nat} (hd : 0 < d) : roundDiv (m * d) d = m := by
  simp [roundDiv, Nat.mul_div_cancel _ hd, hd]

/-! ### Values -/

namespace Datum

/-- The rational number that a datum stands for, if it stands for one. -/
def value? : Datum → Option ℚ
  | finite s m e => some ((withSign s m : Int) * 2 ^ e)
  | _ => none

theorem exists_finite_of_value? {d : Datum} {v : ℚ} (h : d.value? = some v) :
    ∃ s m e, d = finite s m e := by
  cases d with
  | nan => cases h
  | infinite s => cases h
  | finite s m e => exact ⟨s, m, e, rfl⟩

theorem abs_withSign (s : Bool) (m : Nat) : |((withSign s m : Int) : ℚ)| = m := by
  cases s <;> simp [withSign]

theorem abs_withSign_mul (s : Bool) (m : Nat) (e : Int) :
    |((withSign s m : Int) : ℚ) * 2 ^ e| = m * 2 ^ e := by
  rw [abs_mul, abs_withSign, abs_of_pos (two_zpow_pos e)]

/-- Data of one sign and one magnitude have one value. -/
theorem withSign_mul_congr (s : Bool) {m n : Nat} {e i : Int}
    (h : (m : ℚ) * 2 ^ e = n * 2 ^ i) :
    ((withSign s m : Int) : ℚ) * 2 ^ e = (withSign s n : Int) * 2 ^ i := by
  cases s with
  | false => simpa [withSign] using h
  | true => simpa [withSign] using h

end Datum

namespace BinaryFormat

variable (f : BinaryFormat)

/-! ### The normal form of a magnitude -/

/-- The significand `m` and the `k`-th exponent, counted from the least one, are those that a
finite pattern reads as. -/
structure Canonical (m k : Nat) : Prop where
  lt : m < 2 * power 2 f.fractionBits
  inRange : k + 3 ≤ power 2 f.exponentBits
  normal : power 2 f.fractionBits ≤ m ∨ k = 0

/-- The pattern, without sign, of the magnitude `m * 2 ^ (leastExponent + k)`. -/
def encoding (m k : Nat) : Nat := m + k * power 2 f.fractionBits

/-- The nonnegative number `v` is a significand of the format's precision times a power of two
in its range. -/
def Representable (v : ℚ) : Prop :=
  ∃ m k : Nat, m < 2 * power 2 f.fractionBits ∧ k + 3 ≤ power 2 f.exponentBits ∧
    v = m * 2 ^ (f.leastExponent + k)

variable {f}

theorem Canonical.encoding_lt {m k : Nat} (h : f.Canonical m k) :
    f.encoding m k < f.infinity := by
  have hlt := h.lt
  have hmul : (k + 2) * power 2 f.fractionBits ≤
      (power 2 f.exponentBits - 1) * power 2 f.fractionBits :=
    Nat.mul_le_mul_right _ (by have := h.inRange; omega)
  rw [Nat.add_mul] at hmul
  unfold encoding infinity
  omega

theorem signBit_eq : f.signBit = power 2 f.exponentBits * power 2 f.fractionBits := by
  show 2 ^ (f.fractionBits + f.exponentBits) = 2 ^ f.exponentBits * 2 ^ f.fractionBits
  rw [Nat.pow_add, Nat.mul_comm]

theorem infinity_le_signBit : f.infinity ≤ f.signBit := by
  rw [signBit_eq]
  exact Nat.mul_le_mul_right _ (Nat.sub_le _ _)

/-- The exponent field and the fraction field of a canonical magnitude. -/
theorem Canonical.fields {m k : Nat} (h : f.Canonical m k) :
    (m < power 2 f.fractionBits ∧ k = 0 ∧ f.encoding m k / power 2 f.fractionBits = 0 ∧
      f.encoding m k % power 2 f.fractionBits = m) ∨
    (f.encoding m k / power 2 f.fractionBits = k + 1 ∧
      power 2 f.fractionBits + f.encoding m k % power 2 f.fractionBits = m) := by
  have hp := power_pos_two f.fractionBits
  have hlt := h.lt
  rcases Nat.lt_or_ge m (power 2 f.fractionBits) with hm | hm
  · obtain rfl : k = 0 := by
      rcases h.normal with hn | hn
      · omega
      · exact hn
    refine .inl ⟨hm, rfl, ?_, ?_⟩
    · rw [encoding, Nat.zero_mul, Nat.add_zero, Nat.div_eq_of_lt hm]
    · rw [encoding, Nat.zero_mul, Nat.add_zero, Nat.mod_eq_of_lt hm]
  · have e : f.encoding m k = (m - power 2 f.fractionBits) + power 2 f.fractionBits * (k + 1) := by
      rw [encoding, Nat.mul_add, Nat.mul_comm k]
      omega
    have hr : m - power 2 f.fractionBits < power 2 f.fractionBits := by omega
    refine .inr ⟨?_, ?_⟩
    · rw [e, Nat.add_mul_div_left _ _ hp, Nat.div_eq_of_lt hr, Nat.zero_add]
    · rw [e, Nat.add_mul_mod_self_left, Nat.mod_eq_of_lt hr]
      omega

/-- A sign bit above a magnitude changes neither of the fields below it. -/
theorem signed_fields (s : Bool) {b : Nat} (h : b < f.signBit) :
    (f.signed s b / f.signBit % 2 == 1) = s ∧
    f.signed s b % power 2 f.fractionBits = b % power 2 f.fractionBits ∧
    f.signed s b / power 2 f.fractionBits % power 2 f.exponentBits =
      b / power 2 f.fractionBits % power 2 f.exponentBits := by
  have hp := power_pos_two f.fractionBits
  have hs : 0 < f.signBit := power_pos_two _
  cases s with
  | false => exact ⟨by simp [signed, Nat.div_eq_of_lt h], rfl, rfl⟩
  | true =>
      refine ⟨?_, ?_, ?_⟩
      · have e : f.signed true b / f.signBit = 1 := by
          show (f.signBit + b) / f.signBit = 1
          rw [Nat.add_div_left _ hs, Nat.div_eq_of_lt h]
        rw [e]
        rfl
      · show (f.signBit + b) % _ = _
        rw [signBit_eq, Nat.mul_add_mod_self_right]
      · show (f.signBit + b) / _ % _ = _
        rw [signBit_eq, Nat.mul_comm, Nat.mul_add_div hp, Nat.add_mod_left]

theorem datum_signed_encoding (s : Bool) {m k : Nat} (h : f.Canonical m k) :
    f.datum (f.signed s (f.encoding m k)) = .finite s m (f.leastExponent + k) := by
  obtain ⟨hsign, hfrac, hexp⟩ :=
    signed_fields s (lt_of_lt_of_le h.encoding_lt infinity_le_signBit)
  have hk := h.inRange
  unfold datum
  simp only [hsign, hfrac, hexp]
  rcases h.fields with ⟨_, rfl, hd, hm⟩ | ⟨hd, hm⟩
  · rw [hd, hm, Nat.zero_mod, if_neg (by omega), if_pos rfl, Nat.cast_zero, add_zero]
  · rw [hd, Nat.mod_eq_of_lt (by omega), if_neg (by omega), if_neg (by omega), hm]
    congr 1
    push_cast
    omega

/-! ### Rounding a representable number -/

theorem nearest_of_canonical {num den m k : Nat} (hd : den ≠ 0) (h : f.Canonical m k)
    (hv : (num : ℚ) / den = m * 2 ^ (f.leastExponent + k)) :
    f.nearest num den = f.encoding m k := by
  have hden : (0 : ℚ) < den := by exact_mod_cast Nat.pos_of_ne_zero hd
  rcases Nat.eq_zero_or_pos m with rfl | hm
  · obtain rfl : k = 0 := by
      rcases h.normal with hn | hn
      · have := power_pos_two f.fractionBits
        omega
      · exact hn
    have hnum : num = 0 := by
      rw [Nat.cast_zero, zero_mul, div_eq_zero_iff] at hv
      rcases hv with hv | hv
      · exact_mod_cast hv
      · exact absurd hv hden.ne'
    rw [hnum]
    simp [nearest, encoding]
  · have hnum : num ≠ 0 := by
      rintro rfl
      have hpos : (0 : ℚ) < m * 2 ^ (f.leastExponent + k) :=
        mul_pos (by exact_mod_cast hm) (two_zpow_pos _)
      rw [← hv] at hpos
      simp at hpos
    -- the leading bit of the quotient is that of the significand, shifted
    have hlog : floorLog num den = m.log2 + (f.leastExponent + k) := by
      refine floorLog_eq hnum hd ?_ ?_
      · rw [hv, two_zpow_add]
        exact mul_le_mul_of_nonneg_right (two_zpow_log2_le hm.ne') (two_zpow_pos _).le
      · rw [hv, add_right_comm, two_zpow_add ((m.log2 : Int) + 1)]
        exact mul_lt_mul_of_pos_right (lt_two_zpow_log2 m) (two_zpow_pos _)
    have hmax : max f.leastExponent (floorLog num den - f.fractionBits) = f.leastExponent + k := by
      have hup : m.log2 < f.fractionBits + 1 := by
        rw [Nat.log2_lt hm.ne', Nat.pow_succ, Nat.mul_comm]
        exact h.lt
      have hlow : f.fractionBits ≤ m.log2 ∨ k = 0 := by
        rcases h.normal with hn | hn
        · exact .inl ((Nat.le_log2 hm.ne').mpr hn)
        · exact .inr hn
      omega
    -- the quotient is a whole multiple of its last place
    have hexact : num * raise 2 (-(f.leastExponent + k)) =
        m * (den * raise 2 (f.leastExponent + k)) := by
      have hr : (0 : ℚ) < raise 2 (-(f.leastExponent + k)) := by exact_mod_cast raise_pos _
      rw [← raise_div_raise, mul_div_assoc', div_eq_div_iff hden.ne' hr.ne'] at hv
      have hq : ((num * raise 2 (-(f.leastExponent + k)) : Nat) : ℚ) =
          (m * (den * raise 2 (f.leastExponent + k)) : Nat) := by
        push_cast
        linarith
      exact_mod_cast hq
    unfold nearest
    simp only [if_neg hnum, hmax]
    rw [hexact, roundDiv_mul_self m (Nat.mul_pos (Nat.pos_of_ne_zero hd) (raise_pos _)),
      add_sub_cancel_left, Int.toNat_natCast]
    exact min_eq_left h.encoding_lt.le

/-- Every representable number has a normal form. -/
theorem exists_canonical {m k : Nat} (hm : m < 2 * power 2 f.fractionBits)
    (hk : k + 3 ≤ power 2 f.exponentBits) :
    ∃ m' k', f.Canonical m' k' ∧
      (m : ℚ) * 2 ^ (f.leastExponent + k) = m' * 2 ^ (f.leastExponent + k') := by
  induction k generalizing m with
  | zero => exact ⟨m, 0, ⟨hm, hk, .inr rfl⟩, rfl⟩
  | succ k ih =>
      rcases Nat.lt_or_ge m (power 2 f.fractionBits) with hlt | hge
      · obtain ⟨m', k', hc, he⟩ := ih (m := 2 * m) (by omega) (by omega)
        refine ⟨m', k', hc, ?_⟩
        rw [← he, Nat.cast_succ, ← add_assoc, two_zpow_add, zpow_one]
        push_cast
        ring
      · exact ⟨m, k + 1, ⟨hm, hk, .inl hge⟩, rfl⟩

theorem pattern_eq_signed_encoding {s : Bool} {m : Nat} {e : Int}
    (h : f.Representable (m * 2 ^ e)) :
    ∃ m' k', f.Canonical m' k' ∧ (m : ℚ) * 2 ^ e = m' * 2 ^ (f.leastExponent + k') ∧
      f.pattern (.finite s m e) = f.signed s (f.encoding m' k') := by
  obtain ⟨m₀, k₀, hm, hk, hv⟩ := h
  obtain ⟨m', k', hc, he⟩ := exists_canonical hm hk
  have hv' : (m : ℚ) * 2 ^ e = m' * 2 ^ (f.leastExponent + k') := hv.trans he
  refine ⟨m', k', hc, hv', ?_⟩
  have hn : f.nearest (m * raise 2 e) (raise 2 (-e)) = f.encoding m' k' :=
    nearest_of_canonical (raise_pos _).ne' hc
      (by rw [Nat.cast_mul, mul_div_assoc, raise_div_raise, hv'])
  show f.signed s (f.nearest (m * raise 2 e) (raise 2 (-e))) = _
  rw [hn]

theorem pattern_lt {s : Bool} {m : Nat} {e : Int} (h : f.Representable (m * 2 ^ e)) :
    f.pattern (.finite s m e) < 2 * f.signBit := by
  obtain ⟨m', k', hc, -, hp⟩ := pattern_eq_signed_encoding (s := s) h
  have hlt := lt_of_lt_of_le hc.encoding_lt infinity_le_signBit
  rw [hp]
  cases s with
  | false => show f.encoding m' k' < _; omega
  | true => show f.signBit + f.encoding m' k' < _; omega

/-- A representable number is written exactly. -/
theorem value?_datum_pattern {s : Bool} {m : Nat} {e : Int} (h : f.Representable (m * 2 ^ e)) :
    (f.datum (f.pattern (.finite s m e))).value? = (Datum.finite s m e).value? := by
  obtain ⟨m', k', hc, hv, hp⟩ := pattern_eq_signed_encoding (s := s) h
  rw [hp, datum_signed_encoding s hc]
  exact congrArg some (Datum.withSign_mul_congr s hv).symm

/-! ### Reading a pattern -/

/-- What a pattern reads as is representable. -/
theorem representable_of_datum {bits : Nat} {s : Bool} {m : Nat} {e : Int}
    (hf : 3 ≤ power 2 f.exponentBits) (h : f.datum bits = .finite s m e) :
    f.Representable (m * 2 ^ e) := by
  have hr := Nat.mod_lt bits (power_pos_two f.fractionBits)
  have hx := Nat.mod_lt (bits / power 2 f.fractionBits) (power_pos_two f.exponentBits)
  unfold datum at h
  dsimp only at h
  generalize bits % power 2 f.fractionBits = fraction at h hr
  generalize bits / power 2 f.fractionBits % power 2 f.exponentBits = exponent at h hx
  split_ifs at h with hmax hfrac hexp
  · injection h with _ hm he
    exact ⟨m, 0, by omega, by omega, by rw [← he, Nat.cast_zero, add_zero]⟩
  · injection h with _ hm he
    refine ⟨m, exponent - 1, by omega, by omega, ?_⟩
    rw [← he]
    congr 2
    omega

end BinaryFormat

/-! ### The two widths -/

/-- The magnitude of a datum is determined by its value. -/
theorem Datum.magnitude_eq_of_value? {s t : Bool} {m n : Nat} {e i : Int}
    (h : (Datum.finite s m e).value? = (Datum.finite t n i).value?) :
    (m : ℚ) * 2 ^ e = n * 2 ^ i := by
  have habs := congrArg abs (Option.some.inj h)
  rwa [Datum.abs_withSign_mul, Datum.abs_withSign_mul] at habs

theorem BinaryFormat.Representable.of_single {v : ℚ} (h : BinaryFormat.single.Representable v) :
    BinaryFormat.double.Representable v := by
  obtain ⟨m, k, hm, hk, rfl⟩ := h
  have h24 : 2 * power 2 BinaryFormat.single.fractionBits = 16777216 := by decide
  have h53 : 2 * power 2 BinaryFormat.double.fractionBits = 9007199254740992 := by decide
  have h8 : power 2 BinaryFormat.single.exponentBits = 256 := by decide
  have h11 : power 2 BinaryFormat.double.exponentBits = 2048 := by decide
  have hl : BinaryFormat.single.leastExponent = BinaryFormat.double.leastExponent + 925 := by
    decide
  refine ⟨m, 925 + k, by omega, by omega, ?_⟩
  rw [hl]
  congr 2
  push_cast
  ring

namespace Double

theorem datum_ofDatum {s : Bool} {m : Nat} {e : Int}
    (h : BinaryFormat.double.Representable (m * 2 ^ e)) :
    (ofDatum (.finite s m e)).datum.value? = (Datum.finite s m e).value? := by
  have hlt := BinaryFormat.pattern_lt (s := s) h
  have hbits : (ofDatum (.finite s m e)).bits.toNat =
      BinaryFormat.double.pattern (.finite s m e) := by
    show (UInt64.ofNat _).toNat = _
    rw [UInt64.toNat_ofNat']
    exact Nat.mod_eq_of_lt (lt_of_lt_of_eq hlt (by decide))
  unfold datum
  rw [hbits]
  exact BinaryFormat.value?_datum_pattern h

/-- A natural number up to `2 ^ 53` is a binary64 number. -/
theorem value?_ofNat {n : Nat} (h : n ≤ 9007199254740992) :
    (ofNat n).datum.value? = some (n : ℚ) := by
  have hn : (decide ((n : Int) < 0)) = false := by simp
  have hrep : BinaryFormat.double.Representable ((n : ℚ) * 2 ^ (0 : Int)) := by
    rcases h.lt_or_eq with hlt | rfl
    · exact ⟨n, 1074, lt_of_lt_of_eq hlt (by decide), by decide, rfl⟩
    -- one more bit than a significand has, and the last of them is zero
    · refine ⟨4503599627370496, 1075, by decide, by decide, ?_⟩
      have he : BinaryFormat.double.leastExponent + (1075 : Nat) = 1 := by decide
      rw [he]
      norm_num
  have hd := datum_ofDatum (s := false) hrep
  show (ofDatum (.finite (decide ((n : Int) < 0)) (n : Int).natAbs 0)).datum.value? = _
  rw [hn, Int.natAbs_natCast, hd]
  simp [Datum.value?, Datum.withSign]

theorem value?_of_isZero {x : Double} (h : x.isZero = true) : x.datum.value? = some 0 := by
  have hb : x.bits.toNat % 9223372036854775808 = 0 := by
    have h0 := congrArg UInt64.toNat (beq_iff_eq.mp h)
    rw [UInt64.toNat_shiftLeft, Nat.shiftLeft_eq] at h0
    have h1 : x.bits.toNat * 2 % 18446744073709551616 = 0 := h0
    omega
  have hx := x.bits.toNat_lt
  have hf : x.bits.toNat % power 2 BinaryFormat.double.fractionBits = 0 := by
    show x.bits.toNat % 4503599627370496 = 0
    omega
  have he : x.bits.toNat / power 2 BinaryFormat.double.fractionBits %
      power 2 BinaryFormat.double.exponentBits = 0 := by
    show x.bits.toNat / 4503599627370496 % 2048 = 0
    omega
  unfold datum BinaryFormat.datum
  simp only [hf, he]
  rw [if_neg (by decide), if_pos trivial]
  simp [Datum.value?, Datum.withSign]

theorem isNaN_eq_false {x : Double} {v : ℚ} (h : x.datum.value? = some v) : x.isNaN = false := by
  obtain ⟨s, m, e, hd⟩ := Datum.exists_finite_of_value? h
  unfold isNaN
  rw [hd]
  rfl

/-- A natural number has nothing behind the point. -/
theorem hasFraction_eq_false {x : Double} {n : Nat} (h : x.datum.value? = some (n : ℚ)) :
    x.hasFraction = false := by
  obtain ⟨s, m, e, hd⟩ := Datum.exists_finite_of_value? h
  rw [hd] at h
  have hmagnitude : (m : ℚ) * 2 ^ e = n := by
    have habs := congrArg abs (Option.some.inj h)
    rwa [Datum.abs_withSign_mul, Nat.abs_cast] at habs
  have hwhole : m * raise 2 e = n * raise 2 (-e) := by
    have hden : (raise 2 (-e) : ℚ) ≠ 0 := by exact_mod_cast (raise_pos (-e)).ne'
    rw [← raise_div_raise, ← mul_div_assoc, div_eq_iff hden] at hmagnitude
    exact_mod_cast hmagnitude
  unfold hasFraction
  rw [hd]
  simp [hwhole]

theorem isBelowZero_eq_false {x : Double} {n : Nat} (h : x.datum.value? = some (n : ℚ)) :
    x.isBelowZero = false := by
  obtain ⟨s, m, e, hd⟩ := Datum.exists_finite_of_value? h
  unfold isBelowZero
  rw [hd]
  cases s with
  | false => rfl
  | true =>
      rw [hd] at h
      have hvalue : -(m : ℚ) * 2 ^ e = n := by simpa [Datum.value?, Datum.withSign] using h
      have hm : m = 0 := by
        by_contra hne
        have hpos : (0 : ℚ) < m * 2 ^ e :=
          mul_pos (by exact_mod_cast Nat.pos_of_ne_zero hne) (two_zpow_pos e)
        have hn : (0 : ℚ) ≤ n := Nat.cast_nonneg n
        linarith
      simp [hm]

theorem value?_of_equals {x y : Double} {v : ℚ} (h : x.equals y = true)
    (hx : x.datum.value? = some v) : y.datum.value? = some v := by
  simp only [equals, Bool.and_eq_true, Bool.or_eq_true, beq_iff_eq] at h
  rcases h.2 with hbits | ⟨hx0, hy0⟩
  · have hxy : x = y := by
      cases x
      cases y
      exact congrArg _ hbits
    exact hxy ▸ hx
  · rw [value?_of_isZero hx0] at hx
    rw [value?_of_isZero hy0, hx]

end Double

namespace Single

theorem datum_ofDatum {s : Bool} {m : Nat} {e : Int}
    (h : BinaryFormat.single.Representable (m * 2 ^ e)) :
    (ofDatum (.finite s m e)).datum.value? = (Datum.finite s m e).value? := by
  have hlt := BinaryFormat.pattern_lt (s := s) h
  have hbits : (ofDatum (.finite s m e)).bits.toNat =
      BinaryFormat.single.pattern (.finite s m e) := by
    show (UInt32.ofNat _).toNat = _
    rw [UInt32.toNat_ofNat']
    exact Nat.mod_eq_of_lt (lt_of_lt_of_eq hlt (by decide))
  unfold datum
  rw [hbits]
  exact BinaryFormat.value?_datum_pattern h

/-- A mask of `b` ones above `a` zeros takes out a field. -/
theorem and_mask (n a b : Nat) : n &&& (2 ^ b - 1) * 2 ^ a = n / 2 ^ a % 2 ^ b * 2 ^ a := by
  apply Nat.eq_of_testBit_eq
  intro i
  rw [Nat.testBit_and, Nat.testBit_mul_two_pow, Nat.testBit_mul_two_pow,
    Nat.testBit_two_pow_sub_one, Nat.testBit_mod_two_pow, Nat.testBit_div_two_pow]
  by_cases hi : a ≤ i
  · rw [Nat.sub_add_cancel hi]
    cases n.testBit i <;> simp
  · simp [hi]

/-- A number is finite unless its exponent field is full. -/
theorem isFinite_iff (x : Single) :
    x.isFinite = true ↔ x.bits.toNat / power 2 BinaryFormat.single.fractionBits %
      power 2 BinaryFormat.single.exponentBits ≠ power 2 BinaryFormat.single.exponentBits - 1 := by
  have hmask : (x.bits &&& 0x7f800000).toNat = x.bits.toNat / 8388608 % 256 * 8388608 :=
    and_mask x.bits.toNat 23 8
  unfold isFinite
  rw [bne_iff_ne, Ne, ← UInt32.toNat_inj, hmask]
  show ¬ (_ = 2139095040) ↔ ¬ (x.bits.toNat / 8388608 % 256 = 255)
  omega

theorem exists_value?_of_isFinite {x : Single} (h : x.isFinite = true) :
    ∃ v, x.datum.value? = some v := by
  unfold datum BinaryFormat.datum
  dsimp only
  rw [if_neg ((isFinite_iff x).mp h)]
  split_ifs
  · exact ⟨_, rfl⟩
  · exact ⟨_, rfl⟩

theorem isFinite_of_value? {x : Single} {v : ℚ} (h : x.datum.value? = some v) :
    x.isFinite = true := by
  rw [isFinite_iff]
  intro hfull
  unfold datum BinaryFormat.datum at h
  dsimp only at h
  rw [if_pos hfull] at h
  split_ifs at h <;> cases h

theorem representable {x : Single} {s : Bool} {m : Nat} {e : Int}
    (h : x.datum = .finite s m e) : BinaryFormat.single.Representable (m * 2 ^ e) :=
  BinaryFormat.representable_of_datum (by decide) h

/-- Widening keeps the value. -/
theorem value?_toDouble {x : Single} {v : ℚ} (h : x.datum.value? = some v) :
    x.toDouble.datum.value? = some v := by
  obtain ⟨s, m, e, hd⟩ := Datum.exists_finite_of_value? h
  rw [← h, hd, toDouble, hd]
  exact Double.datum_ofDatum (representable hd).of_single

/-- Narrowing keeps the value of a binary32 number. -/
theorem value?_toSingle {x : Single} {y : Double} {v : ℚ} (hx : x.datum.value? = some v)
    (hy : y.datum.value? = some v) : y.toSingle.datum.value? = some v := by
  obtain ⟨s, m, e, hd⟩ := Datum.exists_finite_of_value? hx
  obtain ⟨t, n, i, hd'⟩ := Datum.exists_finite_of_value? hy
  rw [hd] at hx
  rw [hd'] at hy
  rw [← hy, Double.toSingle, hd']
  apply datum_ofDatum
  rw [Datum.magnitude_eq_of_value? (hy.trans hx.symm)]
  exact representable hd

end Single
end TelemetryExport
