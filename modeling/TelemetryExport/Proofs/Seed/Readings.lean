import TelemetryExport.Proofs.Seed.Steps
import TelemetryExport.Proofs.Store.Appending
import TelemetryExport.Proofs.Store.RoundTrip

/-! # What seeding leaves

The steps lead from the start to the present, so the records of a run are dated backwards from
the present (`Seed.map_records`), in the order of their insertion.  They are appended to whatever
rows are there, and if none are, they are what a query finds, in the opposite order
(`Seed.newest_records`).  `Seed.endsNow` puts this together with what happens when the start
would be too far back. -/

namespace TelemetryExport
namespace Seed

open Store

variable {deviceId : Int} {time : Timestamp} {count : Nat} {now : Instant}

theorem length_records (deviceId : Int) (time : Timestamp) (count : Nat) :
    (records deviceId time count).length = count := by
  unfold records
  rw [List.length_map, List.length_range]

theorem deviceId_of_mem_records {r : Record} (h : r ∈ records deviceId time count) :
    r.deviceId = deviceId := by
  obtain ⟨i, -, rfl⟩ := List.mem_map.mp h
  rfl

/-- The record of reading number `i` is as many steps before the present as readings follow. -/
theorem timestamp_record (h : start now.timestamp count = .ok time) (i : Nat) :
    (record deviceId i (after time (i + 1))).timestamp = now.seconds - 900 * (count - 1 - i) := by
  obtain ⟨rfl, -⟩ := eq_of_start h
  show now.seconds - 900 * count + 900 * ((i + 1 : Nat) : Int) = _
  omega

theorem map_records (h : start now.timestamp count = .ok time) :
    (records deviceId time count).map (fun r => (some r.deviceId, Cell.integer r.timestamp)) =
      (List.range count).map fun i =>
        (some deviceId, .integer (now.seconds - 900 * (count - 1 - i))) := by
  unfold records
  rw [List.map_map]
  refine List.map_congr_left fun i _ => Prod.ext rfl ?_
  exact congrArg Cell.integer (timestamp_record h i)

/-- Far fewer steps lead back to the first second than rows can be asked for. -/
theorem count_le_of_start (h : start now.timestamp count = .ok time) : count ≤ Table.maxCount := by
  obtain ⟨rfl, hearliest⟩ := eq_of_start h
  have hlatest : now.seconds ≤ Timestamp.latestSecond := now.second.le_latest
  rw [Timestamp.earliestSecond_eq] at hearliest
  rw [Timestamp.latestSecond_eq] at hlatest
  unfold Table.maxCount
  dsimp only at hearliest
  omega

/-! ### Asking for what was seeded -/

theorem reverse_records (deviceId : Int) (time : Timestamp) (count : Nat) :
    (records deviceId time count).reverse =
      (List.range count).map fun i => record deviceId (count - 1 - i) (after time (count - i)) := by
  have hreverse : (List.range count).reverse = (List.range count).map (0 + count - 1 - ·) := by
    rw [← List.reverse_range', ← List.range_eq_range']
  unfold records
  rw [← List.map_reverse, hreverse, List.map_map]
  refine List.map_congr_left fun i hi => ?_
  have hlt := List.mem_range.mp hi
  have hsteps : 0 + count - 1 - i + 1 = count - i := by omega
  dsimp only [Function.comp_apply]
  rw [hsteps, Nat.zero_add]

/-- Of the records the last one is the newest. -/
theorem newest_records (deviceId : Int) (time : Timestamp) (count : Nat) :
    newest deviceId (records deviceId time count) = (records deviceId time count).reverse := by
  have hall : (records deviceId time count).filter (·.deviceId == deviceId) =
      records deviceId time count :=
    List.filter_eq_self.mpr fun r hr => beq_iff_eq.mpr (deviceId_of_mem_records hr)
  unfold newest
  rw [hall]
  refine List.mergeSort_of_pairwise ?_
  rw [List.pairwise_reverse]
  unfold records
  rw [List.pairwise_map]
  refine List.pairwise_lt_range.imp fun {i j} hlt => decide_eq_true ?_
  show time.seconds + 900 * ((i + 1 : Nat) : Int) ≤ time.seconds + 900 * ((j + 1 : Nat) : Int)
  omega

/-- The answer to a query for the newest `n` of them: dated back from the present. -/
theorem take_newest_records (h : start now.timestamp count = .ok time) (n : Nat) :
    ((newest deviceId (records deviceId time count)).take n).map Record.readBack =
      (List.range (min n count)).map fun i =>
        ⟨deviceId, (reading (count - 1 - i)).readBack, now.seconds - 900 * i⟩ := by
  obtain ⟨rfl, -⟩ := eq_of_start h
  rw [newest_records, reverse_records, ← List.map_take, List.take_range, List.map_map]
  refine List.map_congr_left fun i hi => ?_
  have hlt := List.mem_range.mp hi
  have htime : now.seconds - 900 * count + 900 * ((count - i : Nat) : Int) =
      now.seconds - 900 * i := by omega
  exact congrArg (Record.mk deviceId (reading (count - 1 - i)).readBack) htime

end Seed

/-! ### Created for the records -/

namespace Store.File

/-- What is inserted with success has measurements that are all numbers. -/
theorem isNumeric_of_insert {a : Access} {done : List Record} {r : Record} {g : File}
    (h : (holding done).insert a r = (.ok (), g)) : r.reading.isNumeric = true := by
  obtain ⟨u, -, htable⟩ := content_of_insert rfl h
  rw [Table.insert_holding] at htable
  split_ifs at htable
  unfold Reading.isNumeric
  cases hnot : r.reading.notNumber? with
  | some column =>
      rw [hnot] at htable
      cases htable
  | none => rfl

theorem isNumeric_of_insertUntil {a : Access} {done records : List Record} {g : File}
    (h : (holding done).insertUntil a records = (.ok (), g)) :
    ∀ r ∈ records, r.reading.isNumeric = true := by
  induction records generalizing done with
  | nil => exact nofun
  | cons r rest ih =>
      unfold insertUntil at h
      cases hinsert : (holding done).insert a r with
      | mk result f₁ =>
          rw [hinsert] at h
          cases result with
          | error e => cases h
          | ok _ =>
              have hnumeric := isNumeric_of_insert hinsert
              obtain rfl := eq_holding_of_insert hinsert
              exact List.forall_mem_cons.mpr ⟨hnumeric, ih h⟩

end Store.File

/-! ### The whole -/

namespace Seed

open Store

/-- A run that ends well looked for the start and inserted every record. -/
theorem exists_of_run_eq_ok {s : StoreSettings} {f g : File} {log : List LogLine}
    (h : run s deviceId count now f = (.ok log, g)) :
    ∃ f₁ time, f.init s.access = (.ok (), f₁) ∧ start now.timestamp count = .ok time ∧
      f₁.insertUntil s.access (records deviceId time count) = (.ok (), g) := by
  obtain ⟨e, -, h⟩ | ⟨f₁, hinit, ⟨-, h⟩ | ⟨time, htime, ⟨e, -, h⟩ | ⟨hinserts, -⟩⟩⟩ := run_cases h
  · cases h
  · cases h
  · cases h
  · exact ⟨f₁, time, hinit, htime, hinserts⟩

/-- What comes of seeding a file with `count` readings of a device. -/
structure EndsNow (s : StoreSettings) (deviceId : Int) (count : Nat) (now : Instant) (f : File) :
    Prop where
  /-- Rows for `count` readings of the device are added behind all others, which stay as they are.
  Their numbers are new, and consecutive in a sequence; they are dated a quarter of an hour apart,
  and the last of them now. -/
  added : ∀ log g, run s deviceId count now f = (.ok log, g) → ∃ u added,
    g.content = .database (some u) ∧
    u = { f.table with rows := f.table.rows ++ added, numbering := u.numbering } ∧
    NewInTurn f.table.numbering.isSequence f.table.used (added.map (·.id)) ∧
    (∀ first, f.table.next? = some first → u.next? = some (first + count) ∧
      added.map (·.id) = consecutive first count) ∧
    added.map (fun row => (row.cells.deviceId.toInteger?, row.cells.timestamp)) =
      (List.range count).map fun i =>
        (some deviceId, .integer (now.seconds - 900 * (count - 1 - i)))
  /-- If the file was without a table, they are what is found, the newest of them first. -/
  found : f.created.content = .database none →
    ∀ log g, run s deviceId count now f = (.ok log, g) →
    ∀ (p : RetryPolicy) (n : Nat) (clock : Clock),
      g.query s.access p (.lastN deviceId n) clock =
        ⟨1, .ok ((List.range (min n count)).map fun i =>
          ⟨deviceId, (reading (count - 1 - i)).readBack, now.seconds - 900 * i⟩), []⟩
  /-- Nothing is added if the readings would go too far back. -/
  refused : ∀ n g, run s deviceId count now f = (.error (.tooFarBack n), g) → g.table = f.table
  /-- Every step on the way from the start leads to a time that is kept, and the last one to the
  present. -/
  steps : ∀ time, start now.timestamp count = .ok time → after time count = now.timestamp ∧
    ∀ i < count, (after time i).plus? step = some (after time (i + 1))
  /-- So no run gets stuck at a step. -/
  neverPastTheEnd : (run s deviceId count now f).1 ≠ .error .pastTheEnd

/-- **Seeding ends now**: with one reading every quarter of an hour, or with none at all. -/
theorem endsNow (s : StoreSettings) {deviceId : Int} (hlow : minInt64 ≤ deviceId)
    (hhigh : deviceId ≤ maxInt64) (count : Nat) (now : Instant) (f : File) :
    EndsNow s deviceId count now f := by
  refine ⟨?_, ?_, ?_, fun time htime => ⟨after_count htime, fun i hi => plus?_after htime hi⟩, ?_⟩
  · intro log g hrun
    obtain ⟨f₁, time, hinit, htime, hinserts⟩ := exists_of_run_eq_ok hrun
    obtain ⟨u, hcontent, hgrown⟩ :=
      File.content_of_insertUntil (File.content_of_init hinit) hinserts
    obtain ⟨added, hrows, hnew, hcells⟩ := hgrown.rows
    refine ⟨u, added, hcontent, hgrown.eq_append hrows, hnew, fun first hfirst => ?_, ?_⟩
    · obtain ⟨hnext, hused⟩ := hgrown.used_eq first hfirst
      rw [length_records] at hnext hused
      refine ⟨hnext, ?_⟩
      unfold Table.used at hused
      rw [hrows, List.map_append] at hused
      exact List.append_cancel_left hused
    · rw [Table.map_of_cells hcells, map_records htime]
      intro r hr
      rw [deviceId_of_mem_records hr]
      exact ⟨hlow, hhigh⟩
  · intro hfresh log g hrun p n clock
    obtain ⟨f₁, time, hinit, htime, hinserts⟩ := exists_of_run_eq_ok hrun
    obtain ⟨hbusy, rfl⟩ := File.eq_holding_of_init hfresh hinit
    have hnumeric := File.isNumeric_of_insertUntil hinserts
    obtain rfl := File.eq_holding_of_insertUntil hinserts
    rw [List.nil_append]
    refine File.query_holding hbusy p ?_
    have hlength : (records deviceId time count).countP (·.deviceId == deviceId) ≤ count :=
      List.countP_le_length.trans_eq (length_records deviceId time count)
    have hfits := (min_le_right n _).trans (hlength.trans (count_le_of_start htime))
    rw [Table.answer_holding_readBack hnumeric, take_min_maxCount_of_le hfits,
      take_newest_records htime]
  · intro n g hrun
    obtain ⟨e, -, h⟩ | ⟨f₁, hinit, ⟨rfl, -⟩ | ⟨time, -, ⟨e, -, h⟩ | ⟨-, h⟩⟩⟩ := run_cases hrun
    · cases h
    · have htable := File.table_init s.access f
      rwa [hinit] at htable
    · cases h
    · cases h
  · intro hover
    obtain ⟨e, -, h⟩ | ⟨f₁, -, ⟨-, h⟩ | ⟨time, -, ⟨e, -, h⟩ | ⟨-, h⟩⟩⟩ :=
      run_cases (Prod.ext hover rfl : run s deviceId count now f = (.error .pastTheEnd, _))
    · cases h
    · cases h
    · cases h
    · cases h

/-- A table of the ingestion side, with device ids as text: three readings come behind its row,
around the epoch.  Into an empty file they go alone; of 20 billion none goes anywhere. -/
theorem endsNow_ingestion :
    let s : StoreSettings := ⟨"farm.db", 100, 3, 100⟩
    let old : Row :=
      ⟨4, .text "-7", .integer 20, .integer 50, .integer 2, .text "2024-05-01 09:00:00"⟩
    let f : File := ⟨.database (some ⟨.ingestion, [old], .sequence 6, true⟩), none⟩
    let now : Instant := ⟨1000, 999999999⟩
    let log : List LogLine := [⟨.info, "Seeded farm.db with 3 records for device -7"⟩]
    minInt64 ≤ (-7 : Int) ∧ (-7 : Int) ≤ maxInt64 ∧ EndsNow s (-7) 3 now f ∧
      (run s (-7) 3 now f).1 = .ok log ∧
      (run s (-7) 3 now f).2.table.rows.map
          (fun row => (row.id, row.cells.deviceId, row.cells.timestamp)) =
        [(4, .text "-7", .text "2024-05-01 09:00:00"), (7, .text "-7", .integer (-800)),
          (8, .text "-7", .integer 100), (9, .text "-7", .integer 1000)] ∧
      EndsNow s (-7) 3 now .absent ∧ (run s (-7) 3 now .absent).1 = .ok log ∧
      EndsNow s (-7) 20000000000 now f ∧
      (run s (-7) 20000000000 now f).1 = .error (.tooFarBack 20000000000) := by
  intro s old f now log
  have hlow : minInt64 ≤ (-7 : Int) := by decide
  have hhigh : (-7 : Int) ≤ maxInt64 := by decide
  exact ⟨hlow, hhigh, endsNow s hlow hhigh 3 now f, by decide +kernel, by decide +kernel,
    endsNow s hlow hhigh 3 now .absent, by decide +kernel,
    endsNow s hlow hhigh 20000000000 now f, by decide +kernel⟩

end Seed
end TelemetryExport
