import Mathlib.Tactic.SplitIfs
import TelemetryExport.Log

/-! # Names of verbosities

A verbosity is found by its name in capital letters, after the letters that were given were turned
into capitals.  That comes to the same as comparing small letters (`map_toUpper_eq_iff`), so a text
names a verbosity exactly if it is one of the six names but for capitals
(`Verbosity.ofName?_isSome_iff`). -/

namespace TelemetryExport

theorem toNat_toLower (c : Char) :
    c.toLower.toNat = if 65 ≤ c.toNat ∧ c.toNat ≤ 90 then c.toNat + 32 else c.toNat := by
  by_cases h : 'A'.val ≤ c.val ∧ c.val ≤ 'Z'.val
  · have hnat : 65 ≤ c.toNat ∧ c.toNat ≤ 90 := h
    have hval : c.toLower.val = c.val + ('a'.val - 'A'.val) := by
      delta Char.toLower
      rw [dif_pos h]
    have hhigh : c.val.toNat ≤ 90 := hnat.2
    rw [if_pos hnat, Char.toNat, hval, UInt32.toNat_add]
    show (c.val.toNat + 32) % 4294967296 = c.val.toNat + 32
    omega
  · have hnat : ¬(65 ≤ c.toNat ∧ c.toNat ≤ 90) := h
    have hsame : c.toLower = c := dif_neg h
    rw [if_neg hnat, hsame]

theorem toNat_toUpper (c : Char) :
    c.toUpper.toNat = if 97 ≤ c.toNat ∧ c.toNat ≤ 122 then c.toNat - 32 else c.toNat := by
  by_cases h : 'a'.val ≤ c.val ∧ c.val ≤ 'z'.val
  · have hnat : 97 ≤ c.toNat ∧ c.toNat ≤ 122 := h
    have hval : c.toUpper.val = c.val + ('A'.val - 'a'.val) := by
      delta Char.toUpper
      rw [dif_pos h]
    have hlow : 97 ≤ c.val.toNat := hnat.1
    have hhigh : c.val.toNat ≤ 122 := hnat.2
    rw [if_pos hnat, Char.toNat, hval, UInt32.toNat_add]
    show (c.val.toNat + 4294967264) % 4294967296 = c.val.toNat - 32
    omega
  · have hnat : ¬(97 ≤ c.toNat ∧ c.toNat ≤ 122) := h
    have hsame : c.toUpper = c := dif_neg h
    rw [if_neg hnat, hsame]

/-- Capital letters are equal if small ones are. -/
theorem toUpper_eq_iff (c d : Char) : c.toUpper = d.toUpper ↔ c.toLower = d.toLower := by
  simp only [← Char.toNat_inj, toNat_toLower, toNat_toUpper]
  split_ifs <;> omega

theorem map_toUpper_eq_iff (cs ds : List Char) :
    cs.map Char.toUpper = ds.map Char.toUpper ↔ cs.map Char.toLower = ds.map Char.toLower := by
  induction cs generalizing ds with
  | nil => cases ds <;> simp
  | cons c cs ih =>
      cases ds with
      | nil => simp
      | cons d ds => simp [toUpper_eq_iff, ih]

/-- The names of all verbosities, in small letters. -/
def Verbosity.names : List String := ["off", "error", "warn", "info", "debug", "trace"]

theorem Verbosity.ofName?_isSome_iff (text : String) :
    (ofName? text).isSome = true ↔
      ∃ name ∈ names, text.toList.map Char.toLower = name.toList := by
  have hupper : ∀ v ∈ all, v.name.toList = v.name.toList.map Char.toUpper := by decide
  have hnames : names.map String.toList = all.map fun v => v.name.toList.map Char.toLower := by
    decide
  have hall : (∃ v ∈ all, (v.name.toList == text.toList.map Char.toUpper) = true) ↔
      text.toList.map Char.toLower ∈ all.map fun v => v.name.toList.map Char.toLower := by
    rw [List.mem_map]
    refine exists_congr fun v => and_congr_right fun hv => ?_
    rw [beq_iff_eq, ← map_toUpper_eq_iff, ← hupper v hv]
  rw [ofName?, List.find?_isSome, hall, ← hnames, List.mem_map]
  exact exists_congr fun name => and_congr_right fun _ => eq_comm

end TelemetryExport
