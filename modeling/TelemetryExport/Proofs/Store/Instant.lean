import Mathlib.Data.List.TakeWhile
import TelemetryExport.Proofs.Calendar.Moment
import TelemetryExport.Proofs.Decimal.Digits
import TelemetryExport.Store.Instant

/-! # Texts that stand for numbers and moments

The decimal text of an integer in range reads back as that integer (`leadingInteger_toString`),
and the text of a moment as its seconds (`instant?_text`).  A text is the same instant whenever it
is read within one second (`instant?_of_sameSecond`), and, unless it is a word for the present, at
any other time (`instant?_of_not_readsClock`). -/

namespace TelemetryExport
namespace Store

/-! ### Integers -/

theorem isBlank_of_isDigit {c : Char} (h : c.isDigit = true) : isBlank c = false := by
  have hlow : '0' ≤ c := by
    simp only [Char.isDigit, Bool.and_eq_true, decide_eq_true_eq] at h
    exact h.1
  simp only [isBlank, Bool.or_eq_false_iff, Bool.and_eq_false_iff, beq_eq_false_iff_ne,
    decide_eq_false_iff_not]
  refine ⟨?_, .inr fun hc => absurd (Char.le_trans hlow hc) (by decide)⟩
  rintro rfl
  exact absurd hlow (by decide)

/-- Nothing but the digits of a number is read of its text. -/
theorem takeWhile_toDigits (n : Nat) :
    (Nat.toDigits 10 n).takeWhile Char.isDigit = Nat.toDigits 10 n :=
  List.takeWhile_eq_self_iff.mpr fun _ hc => isDigit_of_mem_toDigits hc

theorem unboundedInteger_toDigits (n : Nat) : unboundedInteger (Nat.toDigits 10 n) = n := by
  have hskip : skipBlanks (Nat.toDigits 10 n) = Nat.toDigits 10 n := by
    obtain ⟨c, cs, hcs, hc⟩ := exists_toDigits_eq_cons n
    simp [hcs, skipBlanks, isBlank_of_isDigit hc]
  unfold unboundedInteger
  rw [hskip, takeSign_toDigits]
  dsimp only
  rw [takeWhile_toDigits, naturalOfDigits_toDigits]
  rfl

theorem unboundedInteger_minus_toDigits (n : Nat) :
    unboundedInteger ('-' :: Nat.toDigits 10 n) = -n := by
  have hskip : skipBlanks ('-' :: Nat.toDigits 10 n) = '-' :: Nat.toDigits 10 n := by
    simp [skipBlanks, isBlank]
  simp only [unboundedInteger, hskip, takeSign]
  rw [takeWhile_toDigits, naturalOfDigits_toDigits]
  rfl

theorem unboundedInteger_toString (i : Int) : unboundedInteger (toString i).toList = i := by
  by_cases hi : 0 ≤ i
  · rw [toList_toString_of_nonneg hi, unboundedInteger_toDigits, Int.toNat_of_nonneg hi]
  · have hneg := Int.not_le.mp hi
    rw [toList_toString_of_neg hneg, unboundedInteger_minus_toDigits]
    omega

theorem leadingInteger_toString {i : Int} (hlow : minInt64 ≤ i) (hhigh : i ≤ maxInt64) :
    leadingInteger (toString i).toList = i := by
  unfold leadingInteger saturate
  rw [unboundedInteger_toString, min_eq_right hhigh, max_eq_right hlow]

/-! ### Moments -/

end Store

namespace Calendar.Moment

/-- A date and a time of day, separated by a blank. -/
def chars (m : Moment) : List Char :=
  padded 4 m.year ++ '-' :: (padded 2 m.month ++ '-' :: (padded 2 m.day ++ ' ' ::
    (padded 2 m.hour ++ ':' :: (padded 2 m.minute ++ ':' :: padded 2 m.second))))

def text (m : Moment) : String := .ofList m.chars

example : (Moment.mk 2024 5 1 9 30 0).text = "2024-05-01 09:30:00" := by decide

end Calendar.Moment

namespace Store

open Calendar (Moment)

theorem dropWhile_padded {p : Char → Bool} (hp : ∀ c, c.isDigit = true → p c = false)
    (width n : Nat) (rest : List Char) :
    (padded width n ++ rest).dropWhile p = padded width n ++ rest := by
  obtain ⟨c, cs, hcs⟩ := List.exists_cons_of_ne_nil (padded_ne_nil width n)
  have hmem : c ∈ padded width n := by simp [hcs]
  have hc := isDigit_of_mem_padded hmem
  rw [hcs]
  simp [hp c hc]

theorem padded_append_ne_minus {width n : Nat} {rest cs : List Char} :
    padded width n ++ rest ≠ '-' :: cs := by
  intro h
  obtain ⟨c, ds, hds⟩ := List.exists_cons_of_ne_nil (padded_ne_nil width n)
  have hmem : c ∈ padded width n := by simp [hds]
  have hc := isDigit_of_mem_padded hmem
  rw [hds] at h
  injection h with hhead
  rw [hhead] at hc
  exact absurd hc (by decide)

theorem expect?_cons (c : Char) (cs : List Char) : expect? c (c :: cs) = some cs := if_pos rfl

theorem date?_padded (m : Moment) (rest : List Char) :
    date? (padded 4 m.year ++ '-' :: (padded 2 m.month ++ '-' :: (padded 2 m.day ++ rest))) =
      some ((m.year : Int), m.month, m.day, rest) := by
  have hyear := m.year_le
  have hmonth := m.month_le
  have hmonth' := m.one_le_month
  have hday := m.one_le_day
  have hday' := m.day_le_31
  unfold date?
  split
  rename_i hsign
  split at hsign
  · rename_i heq
    exact absurd heq padded_append_ne_minus
  · cases hsign
    simp (disch := omega) [fixedNumber?_padded_append, expect?_cons, Datum.withSign]

theorem timeOfDay?_padded (m : Moment) :
    timeOfDay? (padded 2 m.hour ++ ':' :: (padded 2 m.minute ++ ':' :: padded 2 m.second)) =
      some (m.secondOfDay : Int) := by
  have hhour := m.hour_lt
  have hminute := m.minute_lt
  have hsecond := m.second_lt
  have hfirst : ∀ rest, fixedNumber? 2 0 24 (padded 2 m.hour ++ rest) = some (m.hour, rest) :=
    fixedNumber?_padded_append (by decide) (by omega) (by omega) (by omega)
  have hmiddle : ∀ rest, fixedNumber? 2 0 59 (padded 2 m.minute ++ rest) = some (m.minute, rest) :=
    fixedNumber?_padded_append (by decide) (by omega) (by omega) (by omega)
  have hlast : fixedNumber? 2 0 59 (padded 2 m.second ++ []) = some (m.second, []) :=
    fixedNumber?_padded_append (by decide) (by omega) (by omega) (by omega) []
  rw [List.append_nil] at hlast
  unfold timeOfDay?
  simp [hfirst, hmiddle, hlast, expect?_cons, skipFraction?, offset?, skipBlanks,
    Moment.secondOfDay]

theorem dateTime?_chars (m : Moment) : dateTime? m.chars = some m.seconds := by
  have hrest : (' ' :: (padded 2 m.hour ++ ':' :: (padded 2 m.minute ++ ':' ::
      padded 2 m.second))).dropWhile (fun c => isBlank c || c == 'T') =
      padded 2 m.hour ++ ':' :: (padded 2 m.minute ++ ':' :: padded 2 m.second) := by
    rw [List.dropWhile_cons_of_pos (by decide), dropWhile_padded]
    intro c hc
    rw [Bool.or_eq_false_iff, beq_eq_false_iff_ne]
    refine ⟨isBlank_of_isDigit hc, ?_⟩
    rintro rfl
    exact absurd hc (by decide)
  have hnonempty : (padded 2 m.hour ++ ':' :: (padded 2 m.minute ++ ':' ::
      padded 2 m.second)).isEmpty = false := by simp
  unfold dateTime? Moment.chars
  rw [date?_padded]
  simp only [Option.bind_eq_bind, Option.bind_some, hrest, hnonempty, timeOfDay?_padded]
  have hguard : (-4713 : Int) ≤ m.year := by omega
  simp [hguard, m.seconds_eq]

/-- The seconds of a moment are within the years that are read. -/
theorem ofDaySeconds?_seconds (m : Moment) :
    ofDaySeconds? (m.seconds + epochOffset) = some m.seconds := by
  have hyear := m.year_le
  have hmonth := m.month_le
  have hmonth' := m.one_le_month
  have hday := m.one_le_day
  have hday' := m.day_le_31
  have htime := m.secondOfDay_lt
  have hdate : -719528 ≤ Calendar.dayNumber m.year m.month m.day ∧
      Calendar.dayNumber m.year m.month m.day ≤ 2932896 := by
    simp only [Calendar.dayNumber, Calendar.marchYear, Calendar.daysBeforeYear,
      Calendar.daysBeforeMonth, Calendar.firstDay]
    split_ifs <;> simp only <;> omega
  have hrange : 0 ≤ m.seconds + epochOffset ∧ m.seconds + epochOffset ≤ lastSecond := by
    rw [m.seconds_eq]
    unfold epochOffset lastSecond Calendar.secondsPerDay
    omega
  unfold ofDaySeconds?
  rw [if_pos hrange, add_sub_cancel_right]

theorem chars_ne_nul {m : Moment} {c : Char} (h : c ∈ m.chars) : c ≠ '\x00' := by
  rintro rfl
  have hdigit : ∀ {width n : Nat}, '\x00' ∉ padded width n := fun h =>
    absurd (isDigit_of_mem_padded h) (by decide)
  simp [Moment.chars, hdigit] at h

/-- **The text of a moment reads back as its seconds.** -/
theorem instant?_text (now : Clock) (m : Moment) : instant? now m.text = some m.seconds := by
  have hchars : beforeNul m.text = m.chars := by
    rw [beforeNul, Moment.text, String.toList_ofList, List.takeWhile_eq_self_iff]
    intro c hc
    exact bne_iff_ne.mpr (chars_ne_nul hc)
  unfold instant?
  rw [hchars]
  simp only [dateTime?_chars]
  exact ofDaySeconds?_seconds m

/-! ### The present -/

/-- Only a word for the present is read off the clock. -/
theorem instant?_of_not_readsClock {text : String} (h : readsClock text = false)
    (now now' : Clock) : instant? now text = instant? now' text := by
  have hword : Present.ofText? (beforeNul text) = none :=
    Option.not_isSome_iff_eq_none.mp (Bool.eq_false_iff.mp h)
  have hnone : ∀ clock : Clock, present? clock (beforeNul text) = none := by
    intro clock
    unfold present?
    rw [hword]
    rfl
  unfold instant?
  dsimp only
  rw [hnone now, hnone now']

/-- Both readings of the clock are the same second. -/
structure Clock.SameSecond (now now' : Clock) : Prop where
  inRange_iff : now.InRange ↔ now'.InRange
  seconds_eq : ∀ form, now.seconds form = now'.seconds form

/-- From the epoch on, a second is a thousand milliseconds long. -/
theorem Clock.sameSecond_of_div_eq {now now' : Clock} (h : 0 ≤ now.milliseconds)
    (h' : 0 ≤ now'.milliseconds) (hdiv : now.milliseconds / 1000 = now'.milliseconds / 1000) :
    now.SameSecond now' := by
  refine ⟨?_, fun form => ?_⟩
  · unfold InRange epochOffset lastSecond
    omega
  · cases form with
    | second => exact hdiv
    | millisecond =>
        unfold seconds
        rw [Int.tdiv_eq_ediv_of_nonneg h, Int.tdiv_eq_ediv_of_nonneg h', hdiv]

theorem instant?_of_sameSecond {now now' : Clock} (h : now.SameSecond now') (text : String) :
    instant? now text = instant? now' text := by
  have hpresent : ∀ cs, present? now cs = present? now' cs := by
    intro cs
    unfold present?
    simp only [h.inRange_iff, h.seconds_eq]
  unfold instant?
  simp only [hpresent]

example : instant? ⟨1500⟩ "NOW" = some 1 ∧ instant? ⟨-1500⟩ "SubSec" = some (-1) := by
  decide +kernel

end Store
end TelemetryExport
