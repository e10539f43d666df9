import TelemetryExport.Proofs.Binary.Exact

/-! # Values and patterns

A finite pattern is its sign above the encoding of a canonical magnitude
(`BinaryFormat.exists_canonical_of_datum`), and a magnitude has one encoding
(`BinaryFormat.Canonical.encoding_eq`).  So a number other than zero is determined by its value
(`BinaryFormat.bits_eq_of_value?`), zero has its two signs, and the comparison of patterns
(`Double.equals`) is the comparison of values (`Double.equals_iff`). -/

namespace TelemetryExport

variable {f : BinaryFormat}

namespace BinaryFormat

/-! ### One pattern for each magnitude -/

/-- The three fields of a pattern that has no bits above its sign. -/
theorem eq_fields (f : BinaryFormat) (bits : Nat) :
    bits = bits / f.signBit * f.signBit +
      (bits / power 2 f.fractionBits % power 2 f.exponentBits * power 2 f.fractionBits +
        bits % power 2 f.fractionBits) := by
  have hfraction := Nat.div_add_mod' bits (power 2 f.fractionBits)
  have hexponent := Nat.div_add_mod' (bits / power 2 f.fractionBits) (power 2 f.exponentBits)
  rw [Nat.div_div_eq_div_mul, Nat.mul_comm (power 2 f.fractionBits), ← signBit_eq] at hexponent
  rw [signBit_eq, ← Nat.mul_assoc, ← Nat.add_assoc, ← Nat.add_mul, ← signBit_eq, hexponent,
    hfraction]

theorem signed_eq {bits : Nat} (hb : bits < 2 * f.signBit) (magnitude : Nat) :
    f.signed (bits / f.signBit % 2 == 1) magnitude = bits / f.signBit * f.signBit + magnitude := by
  have hs : bits / f.signBit < 2 := (Nat.div_lt_iff_lt_mul (power_pos_two _)).mpr hb
  generalize bits / f.signBit = sign at hs ⊢
  unfold signed
  rcases (by omega : sign = 0 ∨ sign = 1) with rfl | rfl
  · rw [if_neg (by decide), Nat.zero_mul, Nat.zero_add]
  · rw [if_pos (by decide), Nat.one_mul]

/-- A finite pattern is the sign above the magnitude that it reads as. -/
theorem exists_canonical_of_datum {bits : Nat} {s : Bool} {m : Nat} {e : Int}
    (hf : 3 ≤ power 2 f.exponentBits) (hb : bits < 2 * f.signBit)
    (h : f.datum bits = .finite s m e) :
    ∃ k : Nat, f.Canonical m k ∧ e = f.leastExponent + k ∧
      bits = f.signed s (f.encoding m k) := by
  have hr := Nat.mod_lt bits (power_pos_two f.fractionBits)
  have hx := Nat.mod_lt (bits / power 2 f.fractionBits) (power_pos_two f.exponentBits)
  have hfields := eq_fields f bits
  have hsigned := signed_eq hb
  unfold datum at h
  dsimp only at h
  generalize bits % power 2 f.fractionBits = fraction at h hr hfields
  generalize bits / power 2 f.fractionBits % power 2 f.exponentBits = exponent at h hx hfields
  split_ifs at h with hmax hfrac hexp
  · injection h with hs hm he
    subst hs hm
    refine ⟨0, ⟨by omega, by omega, .inr rfl⟩, by omega, ?_⟩
    rw [hsigned, encoding]
    rw [hexp] at hfields
    omega
  · injection h with hs hm he
    subst hs hm
    refine ⟨exponent - 1, ⟨by omega, by omega, .inl (by omega)⟩, by omega, ?_⟩
    rw [hsigned, encoding]
    obtain ⟨j, rfl⟩ : ∃ j, exponent = j + 1 := ⟨exponent - 1, by omega⟩
    rw [Nat.add_sub_cancel]
    rw [Nat.succ_mul] at hfields
    omega

/-- A magnitude has one encoding. -/
theorem Canonical.encoding_eq {m k m' k' : Nat} (h : f.Canonical m k) (h' : f.Canonical m' k')
    (hv : (m : ℚ) * 2 ^ (f.leastExponent + k) = m' * 2 ^ (f.leastExponent + k')) :
    f.encoding m k = f.encoding m' k' := by
  have hquotient : ((m * raise 2 (f.leastExponent + k) : Nat) : ℚ) /
      (raise 2 (-(f.leastExponent + k)) : Nat) = m * 2 ^ (f.leastExponent + k) := by
    rw [Nat.cast_mul, mul_div_assoc, raise_div_raise]
  rw [← nearest_of_canonical (raise_pos _).ne' h hquotient,
    nearest_of_canonical (raise_pos _).ne' h' (hquotient.trans hv)]

end BinaryFormat

/-! ### One pattern for each value -/

theorem Datum.eq_zero_of_value?_eq_zero {s : Bool} {m : Nat} {e : Int}
    (h : (Datum.finite s m e).value? = some 0) : m = 0 := by
  have habs := congrArg abs (Option.some.inj h)
  rw [abs_withSign_mul, abs_zero, mul_eq_zero] at habs
  rcases habs with hm | he
  · exact_mod_cast hm
  · exact absurd he (two_zpow_pos e).ne'

/-- Data of one value other than zero have one sign. -/
theorem Datum.sign_eq_of_value? {s t : Bool} {m n : Nat} {e i : Int} {v : ℚ}
    (h : (Datum.finite s m e).value? = some v) (h' : (Datum.finite t n i).value? = some v)
    (hv : v ≠ 0) : s = t := by
  have hsign : ∀ {s : Bool} {m : Nat} {e : Int}, (Datum.finite s m e).value? = some v →
      (s = true ↔ v < 0) := by
    intro s m e h
    have hpow := two_zpow_pos e
    have hm : (0 : ℚ) ≤ m := Nat.cast_nonneg m
    obtain rfl := Option.some.inj h
    cases s with
    | false =>
        have hnonneg : (0 : ℚ) ≤ (withSign false m : Int) * 2 ^ e := by
          simpa [withSign] using mul_nonneg hm hpow.le
        exact iff_of_false Bool.false_ne_true (not_lt.mpr hnonneg)
    | true =>
        have hnonpos : ((withSign true m : Int) : ℚ) * 2 ^ e ≤ 0 := by
          simpa [withSign] using mul_nonneg hm hpow.le
        exact ⟨fun _ => lt_of_le_of_ne hnonpos hv, fun _ => rfl⟩
  exact Bool.eq_iff_iff.mpr ((hsign h).trans (hsign h').symm)

namespace BinaryFormat

/-- A number other than zero has one pattern. -/
theorem bits_eq_of_value? {bits bits' : Nat} {v : ℚ} (hf : 3 ≤ power 2 f.exponentBits)
    (hb : bits < 2 * f.signBit) (hb' : bits' < 2 * f.signBit)
    (h : (f.datum bits).value? = some v) (h' : (f.datum bits').value? = some v) (hv : v ≠ 0) :
    bits = bits' := by
  obtain ⟨s, m, e, hd⟩ := Datum.exists_finite_of_value? h
  obtain ⟨t, n, i, hd'⟩ := Datum.exists_finite_of_value? h'
  obtain ⟨k, hc, rfl, hbits⟩ := exists_canonical_of_datum hf hb hd
  obtain ⟨l, hc', rfl, hbits'⟩ := exists_canonical_of_datum hf hb' hd'
  rw [hd] at h
  rw [hd'] at h'
  rw [hbits, hbits', Datum.sign_eq_of_value? h h' hv,
    hc.encoding_eq hc' (Datum.magnitude_eq_of_value? (h.trans h'.symm))]

/-- The two patterns of zero. -/
theorem bits_of_value?_eq_zero {bits : Nat} (hf : 3 ≤ power 2 f.exponentBits)
    (hb : bits < 2 * f.signBit) (h : (f.datum bits).value? = some 0) :
    bits = 0 ∨ bits = f.signBit := by
  obtain ⟨s, m, e, hd⟩ := Datum.exists_finite_of_value? h
  obtain ⟨k, hc, rfl, hbits⟩ := exists_canonical_of_datum hf hb hd
  rw [hd] at h
  obtain rfl := Datum.eq_zero_of_value?_eq_zero h
  obtain rfl : k = 0 := by
    rcases hc.normal with hn | hn
    · exact absurd hn (Nat.not_le.mpr (power_pos_two _))
    · exact hn
  have hencoding : f.encoding 0 0 = 0 := by simp [encoding]
  rw [hencoding] at hbits
  cases s with
  | false => exact .inl hbits
  | true => exact .inr hbits

/-- A pattern of an infinity is its sign above all ones and no fraction. -/
theorem eq_signed_infinity {bits : Nat} {s : Bool} (hb : bits < 2 * f.signBit)
    (h : f.datum bits = .infinite s) : bits = f.signed s f.infinity := by
  have hfields := eq_fields f bits
  have hsigned := signed_eq hb
  unfold datum at h
  dsimp only at h
  split_ifs at h with hmax hfrac
  injection h with hs
  rw [hmax, hfrac] at hfields
  rw [← hs, hsigned]
  exact hfields

end BinaryFormat

namespace Double

theorem bits_lt (x : Double) : x.bits.toNat < 2 * BinaryFormat.double.signBit :=
  lt_of_lt_of_eq x.bits.toNat_lt (by decide)

/-- A number other than zero has one pattern. -/
theorem eq_of_value? {x y : Double} {v : ℚ} (hx : x.datum.value? = some v)
    (hy : y.datum.value? = some v) (hv : v ≠ 0) : x = y := by
  have hbits := BinaryFormat.bits_eq_of_value? (by decide) x.bits_lt y.bits_lt hx hy hv
  cases x
  cases y
  exact congrArg Double.mk (UInt64.toNat_inj.mp hbits)

/-- The two patterns of zero. -/
theorem bits_of_value?_eq_zero {x : Double} (h : x.datum.value? = some 0) :
    x.bits = 0 ∨ x.bits = 0x8000000000000000 := by
  rcases BinaryFormat.bits_of_value?_eq_zero (by decide) x.bits_lt h with hbits | hbits
  · exact .inl (UInt64.toNat_inj.mp (hbits.trans (by decide)))
  · exact .inr (UInt64.toNat_inj.mp (hbits.trans (by decide)))

theorem isZero_of_value? {x : Double} (h : x.datum.value? = some 0) : x.isZero = true := by
  unfold isZero
  rcases bits_of_value?_eq_zero h with hb | hb <;> rw [hb] <;> decide

theorem equals_comm (x y : Double) : x.equals y = y.equals x := by
  unfold equals
  rw [Bool.and_comm (!x.isNaN), Bool.beq_comm (a := x.bits), Bool.and_comm x.isZero]

/-- Two patterns are equal as numbers when they have one value. -/
theorem equals_iff {x y : Double} {v : ℚ} (hy : y.datum.value? = some v) :
    x.equals y = true ↔ x.datum.value? = some v := by
  refine ⟨fun h => value?_of_equals (equals_comm x y ▸ h) hy, fun hx => ?_⟩
  unfold equals
  rw [isNaN_eq_false hx, isNaN_eq_false hy]
  by_cases hv : v = 0
  · subst hv
    rw [isZero_of_value? hx, isZero_of_value? hy]
    simp
  · rw [eq_of_value? hx hy hv]
    simp

end Double

namespace Single

theorem bits_lt (x : Single) : x.bits.toNat < 2 * BinaryFormat.single.signBit :=
  lt_of_lt_of_eq x.bits.toNat_lt (by decide)

theorem eq_of_value? {x y : Single} {v : ℚ} (hx : x.datum.value? = some v)
    (hy : y.datum.value? = some v) (hv : v ≠ 0) : x = y := by
  have hbits := BinaryFormat.bits_eq_of_value? (by decide) x.bits_lt y.bits_lt hx hy hv
  cases x
  cases y
  exact congrArg Single.mk (UInt32.toNat_inj.mp hbits)

theorem bits_of_value?_eq_zero {x : Single} (h : x.datum.value? = some 0) :
    x.bits = 0 ∨ x.bits = 0x80000000 := by
  rcases BinaryFormat.bits_of_value?_eq_zero (by decide) x.bits_lt h with hbits | hbits
  · exact .inl (UInt32.toNat_inj.mp (hbits.trans (by decide)))
  · exact .inr (UInt32.toNat_inj.mp (hbits.trans (by decide)))

/-- An infinity has one pattern for each sign. -/
theorem eq_of_infinite {x : Single} {s : Bool} (h : x.datum = .infinite s) :
    x = .ofDatum (.infinite s) := by
  have hbits := BinaryFormat.eq_signed_infinity x.bits_lt h
  cases x
  apply congrArg Single.mk
  rw [← UInt32.toNat_inj]
  refine hbits.trans ?_
  cases s <;> decide

end Single
end TelemetryExport
