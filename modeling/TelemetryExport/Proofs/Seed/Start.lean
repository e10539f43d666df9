import TelemetryExport.Proofs.Instant.Moved
import TelemetryExport.Seed

/-! # Where seeding starts

The span of all steps is computed in three conversions, each with a range of its own, and then
taken from the present in one move.  Only the last conversion decides whether there is a span
(`Seed.span?_eq_some_iff`), and not even that one decides whether there is a start
(`Seed.start?_eq`): no span that is too long for it leads back to a second that is kept.
`Seed.startedExactly` says what this comes to, in nanoseconds. -/

namespace TelemetryExport

namespace Seed

variable {now time : Timestamp} {count : Nat}

theorem span?_eq_some_iff {span : Int} :
    span? count = some span ↔ 900 * (count : Int) ≤ 9223372036854775 ∧ span = 900 * count := by
  unfold span? Span.ofMinutes?
  simp only [Option.bind_eq_bind, Option.bind_eq_some_iff, int64?_eq_some_iff,
    Span.ofSeconds?_eq_some_iff, stepMinutes]
  constructor
  · rintro ⟨n, ⟨hn, rfl⟩, m, ⟨hm, rfl⟩, s, ⟨hs, rfl⟩, hspan, rfl⟩
    omega
  · rintro ⟨hspan, rfl⟩
    refine ⟨count, ⟨by omega, rfl⟩, count * 15, ⟨by omega, rfl⟩, 60 * (count * 15),
      ⟨by omega, rfl⟩, by omega, by omega⟩

/-- Whether there is a start is decided by where the move leads. -/
theorem start?_eq (hearliest : Timestamp.earliestSecond ≤ now.seconds)
    (hlatest : now.seconds ≤ Timestamp.latestSecond) (count : Nat) :
    start? now count = now.plus? (-(900 * count)) := by
  unfold start?
  cases hspan : span? count with
  | some span =>
      obtain ⟨-, rfl⟩ := span?_eq_some_iff.mp hspan
      rfl
  | none =>
      have hlong : 9223372036854775 < 900 * (count : Int) := by
        by_contra hle
        have hsome := span?_eq_some_iff.mpr ⟨Int.not_lt.mp hle, rfl⟩
        rw [hspan] at hsome
        cases hsome
      -- and so long a span leads before the first second, a leap second notwithstanding
      have hnonzero : -(900 * (count : Int)) ≠ 0 := by omega
      have hmoved : (now.moved (-(900 * count))).seconds ≤ now.seconds + 1 - 900 * count := by
        unfold Timestamp.moved
        rw [if_neg hnonzero]
        dsimp only
        split_ifs <;> omega
      rw [Timestamp.plus?_eq hearliest hlatest, if_neg]
      · rfl
      · rw [Timestamp.earliestSecond_eq]
        rw [Timestamp.latestSecond_eq] at hlatest
        omega

/-- There is a start exactly if the move leads to a second that is kept. -/
theorem start_eq_ok_iff (hnow : now.Kept) :
    start now count = .ok time ↔
      Timestamp.earliestSecond ≤ (now.moved (-(900 * count))).seconds ∧
        now.moved (-(900 * count)) = time := by
  have hback : -(900 * (count : Int)) ≤ 0 := by omega
  have hlatest := Int.le_trans (Timestamp.seconds_moved_le (t := now) hback) hnow.le_latest
  have hsome : start now count = .ok time ↔ start? now count = some time := by
    unfold start
    cases start? now count <;> simp
  rw [hsome, start?_eq hnow.earliest_le hnow.le_latest,
    Timestamp.plus?_eq hnow.earliest_le hnow.le_latest, Option.ite_none_right_eq_some,
    Option.some_inj, and_iff_left hlatest]

theorem eq_tooFarBack_of_start {e : Error} (h : start now count = .error e) :
    e = .tooFarBack count := by
  unfold start at h
  cases hstart : start? now count with
  | some time =>
      rw [hstart] at h
      cases h
  | none =>
      rw [hstart] at h
      cases h
      rfl

/-- What comes of looking for the start of `count` readings. -/
structure StartedExactly (now : Timestamp) (count : Nat) : Prop where
  /-- There is one exactly if the time of all steps does not reach back before the first timestamp
  of all. -/
  ok_iff : (∃ time, start now count = .ok time) ↔
    Timestamp.earliest.total ≤ now.total - 900 * nanosPerSecond * count
  /-- It is exact, it is kept, and but for no readings at all it is outside every leap second. -/
  exact : ∀ time, start now count = .ok time →
    time.total = now.total - 900 * nanosPerSecond * count ∧ time.Kept ∧
      (0 < count → time.isLeap = false)
  /-- Otherwise it is the count that is reported. -/
  refused : ∀ e, start now count = .error e → e = .tooFarBack count ∧
    e.message = "Seed count " ++ toString count ++ " spans too far into the past"
  /-- What is added up without a check of its range fits 64 bits. -/
  fits : ∀ span, span? count = some span →
    int64? (now.movedSecond (-span)) = some (now.movedSecond (-span))

/-- **The start is exact**, and is refused only where it would be before the first timestamp. -/
theorem startedExactly (hnow : now.Kept) (count : Nat) : StartedExactly now count := by
  have hback : -(900 * (count : Int)) ≤ 0 := by omega
  have hlatest := Int.le_trans (Timestamp.seconds_moved_le (t := now) hback) hnow.le_latest
  have htotal : now.total + -(900 * (count : Int)) * nanosPerSecond =
      now.total - 900 * nanosPerSecond * count := by
    rw [Int.neg_mul, ← Int.sub_eq_add_neg, Int.mul_right_comm]
  refine ⟨?_, ?_, ?_, ?_⟩
  · rw [← htotal, hnow.earliest_total_le_iff hback]
    simp only [start_eq_ok_iff hnow, exists_and_left, exists_eq', and_true]
  · intro time htime
    obtain ⟨hearliest, rfl⟩ := (start_eq_ok_iff hnow).mp htime
    refine ⟨?_, hnow.moved hearliest hlatest, fun hcount => Timestamp.isLeap_moved (by omega)⟩
    rw [Timestamp.total_moved hnow.nanos_lt hback, htotal]
  · intro e he
    obtain rfl := eq_tooFarBack_of_start he
    exact ⟨rfl, rfl⟩
  · intro span hspan
    obtain ⟨hle, rfl⟩ := span?_eq_some_iff.mp hspan
    refine int64?_eq_some_iff.mpr ⟨?_, rfl⟩
    unfold Timestamp.movedSecond Timestamp.secondOfDay Calendar.secondsPerDay
    split_ifs <;> omega

/-- A leap second is left for a second of its own; the first timestamp of all is reached, and
nothing before it. -/
theorem startedExactly_leapSecond :
    let now : Timestamp := ⟨1483228799, 1500000000⟩
    let early : Timestamp := ⟨-8334601227000, 7⟩
    now.Kept ∧ StartedExactly now 96 ∧ start now 96 = .ok ⟨1483142400, 500000000⟩ ∧
      early.Kept ∧ StartedExactly early 2 ∧ start early 2 = .ok ⟨-8334601228800, 7⟩ ∧
      StartedExactly early 3 ∧ start early 3 = .error (.tooFarBack 3) := by
  intro now early
  have hnow : now.Kept := ⟨by decide, by decide, by decide⟩
  have hearly : early.Kept := ⟨by decide, by decide, by decide⟩
  exact ⟨hnow, startedExactly hnow 96, by decide, hearly, startedExactly hearly 2, by decide,
    startedExactly hearly 3, by decide⟩

end Seed
end TelemetryExport
