import TelemetryExport.Proofs.Seed.Start

/-! # From the start to the present

Seeding adds a step before each reading, and a step may in general lead out of the years that are
kept.  From the start of `count` readings that end at an instant it never does: after `i` steps the
time is `after start i`, which is kept up to the present (`Seed.plus?_after`), so the loop inserts
the records of these times one after the other and ends as the inserts do (`Seed.fill_eq`).
`Seed.run_cases` lists how a whole run can end. -/

namespace TelemetryExport

theorem Instant.isLeap_timestamp (t : Instant) : t.timestamp.isLeap = false :=
  Timestamp.isLeap_eq_false_iff.mpr t.nano.isLt

theorem Instant.kept_timestamp (t : Instant) : t.timestamp.Kept where
  earliest_le := t.second.earliest_le
  le_latest := t.second.le_latest
  nanos_lt := Nat.lt_trans t.nano.isLt (by decide)

/-- Outside leap seconds a move changes nothing but the seconds. -/
theorem Timestamp.moved_eq {t : Timestamp} (ht : t.isLeap = false) (span : Int) :
    t.moved span = ⟨t.seconds + span, t.nanos⟩ := by
  by_cases hspan : span = 0
  · rw [hspan, moved_zero, Int.add_zero]
  · rw [moved, if_neg hspan, Nat.mod_eq_of_lt (isLeap_eq_false_iff.mp ht), ht]
    simp

namespace Seed

variable {time : Timestamp} {count : Nat} {now : Instant}

/-- The time after `i` steps. -/
def after (time : Timestamp) (i : Nat) : Timestamp := ⟨time.seconds + 900 * i, time.nanos⟩

/-- The records of `count` readings that begin a step after the given time. -/
def records (deviceId : Int) (time : Timestamp) (count : Nat) : List Record :=
  (List.range count).map fun i => record deviceId i (after time (i + 1))

theorem eq_of_start (h : start now.timestamp count = .ok time) :
    time = ⟨now.seconds - 900 * count, now.nano⟩ ∧
      Timestamp.earliestSecond ≤ time.seconds := by
  rw [start_eq_ok_iff now.kept_timestamp, Timestamp.moved_eq now.isLeap_timestamp] at h
  obtain ⟨hearliest, rfl⟩ := h
  exact ⟨rfl, hearliest⟩

/-- The last step leads to the present. -/
theorem after_count (h : start now.timestamp count = .ok time) :
    after time count = now.timestamp := by
  obtain ⟨rfl, -⟩ := eq_of_start h
  unfold after Instant.timestamp
  rw [Int.sub_add_cancel]

/-- Every step on the way leads to a time that is kept. -/
theorem plus?_after (h : start now.timestamp count = .ok time) {i : Nat} (hi : i < count) :
    (after time i).plus? step = some (after time (i + 1)) := by
  obtain ⟨rfl, hearliest⟩ := eq_of_start h
  have hlatest : now.seconds ≤ Timestamp.latestSecond := now.second.le_latest
  have hleap : (after ⟨now.seconds - 900 * count, now.nano⟩ i).isLeap = false :=
    Timestamp.isLeap_eq_false_iff.mpr now.nano.isLt
  have hstep : step = 900 := rfl
  have hafter : ∀ j, (after ⟨now.seconds - 900 * count, now.nano⟩ j).seconds =
      now.seconds - 900 * count + 900 * j := fun _ => rfl
  dsimp only at hearliest
  rw [Timestamp.plus?_eq (by rw [hafter]; omega) (by rw [hafter]; omega),
    Timestamp.moved_eq hleap, hafter, hstep, if_pos (by dsimp only; omega)]
  unfold after
  dsimp only
  push_cast
  rw [Int.mul_add, Int.add_assoc]
  rfl

/-! ### The loop -/

/-- If no step fails, the loop is a matter of the inserts alone. -/
theorem fill_eq (a : Store.Access) (deviceId : Int) {left i : Nat}
    (hsteps : ∀ j, i ≤ j → j < i + left →
      (after time j).plus? step = some (after time (j + 1))) (f : Store.File) :
    fill a deviceId left i (after time i) f =
      (((f.insertUntil a ((List.range' i left).map fun j =>
          record deviceId j (after time (j + 1)))).1.mapError .insert),
        (f.insertUntil a ((List.range' i left).map fun j =>
          record deviceId j (after time (j + 1)))).2) := by
  induction left generalizing i f with
  | zero => rfl
  | succ left ih =>
      have hrest := @ih (i + 1) fun j hj hlt => hsteps j (by omega) (by omega)
      rw [fill, hsteps i (by omega) (by omega), List.range'_succ, List.map_cons]
      unfold Store.File.insertUntil
      dsimp only
      cases hinsert : f.insert a (record deviceId i (after time (i + 1))) with
      | mk result g =>
          cases result with
          | error e => rfl
          | ok _ => exact hrest g

theorem fill_of_start (h : start now.timestamp count = .ok time) (a : Store.Access)
    (deviceId : Int) (f : Store.File) :
    fill a deviceId count 0 time f =
      ((f.insertUntil a (records deviceId time count)).1.mapError .insert,
        (f.insertUntil a (records deviceId time count)).2) := by
  have hzero : after time 0 = time := by
    unfold after
    rw [Int.natCast_zero, Int.mul_zero, Int.add_zero]
  have hsteps : ∀ j, 0 ≤ j → j < 0 + count →
      (after time j).plus? step = some (after time (j + 1)) :=
    fun j _ hj => plus?_after h (by omega)
  have hfill := fill_eq a deviceId hsteps f
  rwa [hzero, ← List.range_eq_range'] at hfill

/-- How a run ends: before the start is looked for, without one, at an insert that fails, or with
all readings in the file. -/
theorem run_cases {s : StoreSettings} {deviceId : Int} {f g : Store.File}
    {result : Except Error (List LogLine)} (h : run s deviceId count now f = (result, g)) :
    (∃ e, f.init s.access = (.error e, g) ∧ result = .error (.prepare e)) ∨
      ∃ f₁, f.init s.access = (.ok (), f₁) ∧
        ((g = f₁ ∧ result = .error (.tooFarBack count)) ∨
          ∃ time, start now.timestamp count = .ok time ∧
            ((∃ e, f₁.insertUntil s.access (records deviceId time count) = (.error e, g) ∧
                result = .error (.insert e)) ∨
              f₁.insertUntil s.access (records deviceId time count) = (.ok (), g) ∧
                result = .ok [announcement s.path deviceId count])) := by
  unfold run at h
  cases hinit : f.init s.access with
  | mk prepared f₁ =>
      rw [hinit] at h
      cases prepared with
      | error e =>
          cases h
          exact .inl ⟨e, rfl, rfl⟩
      | ok _ =>
          refine .inr ⟨f₁, rfl, ?_⟩
          cases hstart : start now.timestamp count with
          | error e =>
              rw [hstart] at h
              cases h
              exact .inl ⟨rfl, congrArg _ (eq_tooFarBack_of_start hstart)⟩
          | ok time =>
              refine .inr ⟨time, rfl, ?_⟩
              rw [hstart] at h
              dsimp only at h
              rw [fill_of_start hstart] at h
              cases hinsert : f₁.insertUntil s.access (records deviceId time count) with
              | mk inserted g' =>
                  rw [hinsert] at h
                  cases inserted with
                  | error e =>
                      cases h
                      exact .inl ⟨e, rfl, rfl⟩
                  | ok _ =>
                      cases h
                      exact .inr ⟨rfl, rfl⟩

end Seed
end TelemetryExport
