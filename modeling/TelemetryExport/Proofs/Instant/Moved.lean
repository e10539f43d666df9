import Mathlib.Order.Basic
import TelemetryExport.Instant

/-! # Timestamps that are moved

`Timestamp.moved` says at once where a move leads, over any number of days and whether or not that
is still kept.  A move succeeds exactly if it leads to a second that is kept
(`Timestamp.plus?_eq`): the ranges of a span and of a number of days are wide enough never to
decide.  Going back keeps count of every nanosecond, those of a leap second included
(`Timestamp.total_moved`). -/

namespace TelemetryExport

theorem int64?_eq_some_iff {i j : Int} :
    int64? i = some j ↔
      (-9223372036854775808 ≤ i ∧ i ≤ 9223372036854775807) ∧ j = i := by
  unfold int64? minInt64 maxInt64
  rw [Option.ite_none_right_eq_some, Option.some_inj, eq_comm (a := j)]

theorem Span.ofSeconds?_eq_some_iff {seconds span : Int} :
    ofSeconds? seconds = some span ↔
      (-9223372036854775 ≤ seconds ∧ seconds ≤ 9223372036854775) ∧ span = seconds := by
  unfold ofSeconds? maxSeconds
  rw [Option.ite_none_right_eq_some, Option.some_inj, eq_comm (a := span)]

namespace Timestamp

/-- The first timestamp of all. -/
def earliest : Timestamp := ⟨earliestSecond, 0⟩

/-- A timestamp of the years that are kept, within a leap second or not. -/
structure Kept (t : Timestamp) : Prop where
  earliest_le : earliestSecond ≤ t.seconds
  le_latest : t.seconds ≤ latestSecond
  nanos_lt : t.nanos < 2 * nanosPerSecond

/-- Where a move leads. -/
def moved (t : Timestamp) (span : Int) : Timestamp :=
  if span = 0 then t
  else ⟨t.seconds + (if t.isLeap ∧ span < 0 then 1 else 0) + span, t.nanos % nanosPerSecond⟩

theorem earliestDay_eq : earliestDay = -96465292 := by decide

theorem latestDay_eq : latestDay = 95026236 := by decide

theorem earliestSecond_eq : earliestSecond = -8334601228800 := by decide

theorem latestSecond_eq : latestSecond = 8210266876799 := by decide

theorem movedDay?_eq_some_iff {day days u : Int} :
    movedDay? day days = some u ↔
      (-2147483648 ≤ days ∧ days ≤ 2147483647 ∧ -96465292 ≤ day + days ∧
        day + days ≤ 95026236) ∧ u = day + days := by
  unfold movedDay? minDays maxDays
  rw [Option.ite_none_right_eq_some, Option.some_inj, earliestDay_eq, latestDay_eq,
    eq_comm (a := u)]

variable {t : Timestamp} {span : Int}

@[simp] theorem moved_zero (t : Timestamp) : t.moved 0 = t := if_pos rfl

/-- The second of the day that is reached counts from the day that was left. -/
theorem seconds_moved (hspan : span ≠ 0) :
    (t.moved span).seconds = t.day * 86400 + t.movedSecond span := by
  have hseconds := Int.mul_ediv_add_emod t.seconds 86400
  unfold moved movedSecond day secondOfDay Calendar.secondsPerDay
  rw [if_neg hspan]
  dsimp only
  omega

theorem plus?_eq_some_iff {u : Timestamp} (hspan : span ≠ 0) :
    t.plus? span = some u ↔
      ∃ carried day, Span.ofSeconds? (t.movedSecond span - t.movedSecond span % 86400) =
        some carried ∧ movedDay? t.day (carried / 86400) = some day ∧
        u = ⟨day * 86400 + t.movedSecond span % 86400, t.nanos % nanosPerSecond⟩ := by
  unfold plus?
  rw [if_neg hspan]
  simp only [Option.bind_eq_bind, Option.bind_eq_some_iff, Option.pure_def, Option.some_inj,
    Calendar.secondsPerDay]
  constructor
  · rintro ⟨carried, hcarried, day, hday, rfl⟩
    exact ⟨carried, day, hcarried, hday, rfl⟩
  · rintro ⟨carried, day, hcarried, hday, rfl⟩
    exact ⟨carried, hcarried, day, hday, rfl⟩

theorem plus?_eq (hearliest : earliestSecond ≤ t.seconds) (hlatest : t.seconds ≤ latestSecond)
    (span : Int) :
    t.plus? span =
      if earliestSecond ≤ (t.moved span).seconds ∧ (t.moved span).seconds ≤ latestSecond then
        some (t.moved span)
      else none := by
  by_cases hspan : span = 0
  · rw [hspan, moved_zero, if_pos ⟨hearliest, hlatest⟩]
    rfl
  · have hmoved := seconds_moved (t := t) hspan
    have hnanos : (t.moved span).nanos = t.nanos % nanosPerSecond := by
      rw [moved, if_neg hspan]
    rw [earliestSecond_eq] at hearliest ⊢
    rw [latestSecond_eq] at hlatest ⊢
    have hday : -96465292 ≤ t.day ∧ t.day ≤ 95026236 := by
      unfold day Calendar.secondsPerDay
      omega
    generalize t.moved span = u at hmoved hnanos ⊢
    -- both ranges are wider than the years that are kept
    split_ifs with hkept
    · refine (plus?_eq_some_iff hspan).mpr
        ⟨_, _, Span.ofSeconds?_eq_some_iff.mpr ⟨?_, rfl⟩, movedDay?_eq_some_iff.mpr ⟨?_, rfl⟩, ?_⟩
      · omega
      · omega
      · obtain ⟨seconds, nanos⟩ := u
        rw [mk.injEq]
        exact ⟨by dsimp only at hmoved; omega, hnanos⟩
    · refine Option.eq_none_iff_forall_ne_some.mpr fun v hv => hkept ?_
      obtain ⟨carried, day, hcarried, hday', -⟩ := (plus?_eq_some_iff hspan).mp hv
      obtain ⟨-, rfl⟩ := Span.ofSeconds?_eq_some_iff.mp hcarried
      obtain ⟨hrange, -⟩ := movedDay?_eq_some_iff.mp hday'
      omega

/-- Going back never leads ahead, not even from a leap second. -/
theorem seconds_moved_le (hspan : span ≤ 0) : (t.moved span).seconds ≤ t.seconds := by
  by_cases hzero : span = 0
  · exact Int.le_of_eq (by rw [hzero, moved_zero])
  · rw [moved, if_neg hzero]
    dsimp only
    split_ifs <;> omega

/-- Going back keeps count of every nanosecond. -/
theorem total_moved (hnanos : t.nanos < 2 * nanosPerSecond) (hspan : span ≤ 0) :
    (t.moved span).total = t.total + span * nanosPerSecond := by
  by_cases hzero : span = 0
  · rw [hzero, moved_zero, Int.zero_mul, Int.add_zero]
  · unfold moved total isLeap
    rw [if_neg hzero]
    dsimp only
    unfold nanosPerSecond at hnanos ⊢
    simp only [decide_eq_true_eq]
    split_ifs <;> omega

theorem isLeap_eq_false_iff : t.isLeap = false ↔ t.nanos < nanosPerSecond := by
  rw [isLeap, decide_eq_false_iff_not, Nat.not_le]

/-- Whoever moves leaves a leap second. -/
theorem isLeap_moved (hspan : span ≠ 0) : (t.moved span).isLeap = false := by
  rw [isLeap_eq_false_iff, moved, if_neg hspan]
  exact Nat.mod_lt _ (by decide)

theorem Kept.moved (ht : t.Kept) (hearliest : earliestSecond ≤ (t.moved span).seconds)
    (hlatest : (t.moved span).seconds ≤ latestSecond) : (t.moved span).Kept := by
  by_cases hspan : span = 0
  · rwa [hspan, moved_zero]
  · have hlt := isLeap_eq_false_iff.mp (isLeap_moved (t := t) hspan)
    exact ⟨hearliest, hlatest, by omega⟩

/-- A timestamp that is reached by going back is not before the first of all if its second is
kept. -/
theorem Kept.earliest_total_le_iff (ht : t.Kept) (hspan : span ≤ 0) :
    earliest.total ≤ t.total + span * nanosPerSecond ↔
      earliestSecond ≤ (t.moved span).seconds := by
  rw [← total_moved ht.nanos_lt hspan]
  by_cases hzero : span = 0
  · have hearliest := ht.earliest_le
    rw [hzero, moved_zero]
    unfold total earliest nanosPerSecond
    dsimp only
    omega
  · have hlt := isLeap_eq_false_iff.mp (isLeap_moved (t := t) hzero)
    unfold total earliest
    unfold nanosPerSecond at hlt ⊢
    dsimp only
    omega

end Timestamp
end TelemetryExport
