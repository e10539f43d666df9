import TelemetryExport.Proofs.Store.Growth
import TelemetryExport.Proofs.Store.Instant

/-! # Rows that are appended

An `init` that succeeds leaves the table, and inserts that all succeed let it grow by their records
(`File.content_of_init`, `File.content_of_insertUntil`).  Whatever the schema, a row that was added
is a row of the record's device and has the record's time (`Table.map_of_cells`). -/

namespace TelemetryExport
namespace Store

/-! ### Tables -/

namespace Table

/-- A device id is found again, in whatever form the column keeps it. -/
theorem toInteger?_convert_deviceId (s : Schema) {i : Int} (hlow : minInt64 ≤ i)
    (hhigh : i ≤ maxInt64) :
    ((s.affinity .deviceId).convert (.integer i)).toInteger? = some i := by
  cases s with
  | ingestion => exact congrArg some (leadingInteger_toString hlow hhigh)
  | own => rfl
  | untyped => rfl

/-- An integer is kept as it is in a column of times. -/
theorem convert_timestamp (s : Schema) (i : Int) :
    (s.affinity .timestamp).convert (.integer i) = .integer i := by
  cases s <;> rfl

/-- Devices and times of rows with the cells of some records are those of the records. -/
theorem map_of_cells {s : Schema} {records : List Record} {added : List Row}
    (h : List.Forall₂ (fun r row => row.cells = (Cells.ofRecord r).convert s) records added)
    (hrange : ∀ r ∈ records, minInt64 ≤ r.deviceId ∧ r.deviceId ≤ maxInt64) :
    added.map (fun row => (row.cells.deviceId.toInteger?, row.cells.timestamp)) =
      records.map fun r => (some r.deviceId, .integer r.timestamp) := by
  induction h with
  | nil => rfl
  | @cons r row records added hcells _ ih =>
      rw [List.forall_mem_cons] at hrange
      obtain ⟨⟨hlow, hhigh⟩, hrest⟩ := hrange
      have hdevice : row.cells.deviceId.toInteger? = some r.deviceId := by
        rw [hcells]
        exact toInteger?_convert_deviceId s hlow hhigh
      have htime : row.cells.timestamp = .integer r.timestamp := by
        rw [hcells]
        exact convert_timestamp s r.timestamp
      rw [List.map_cons, List.map_cons, ih hrest, hdevice, htime]

end Table

/-! ### Files -/

namespace File

variable {f g : File} {a : Access}

theorem content_of_ensureTable (h : f.ensureTable = (.ok (), g)) :
    g.content = .database (some f.table) := by
  unfold ensureTable at h
  cases hlook : f.look with
  | error e =>
      rw [hlook] at h
      cases h
  | ok t =>
      have hcontent := content_of_look hlook
      rw [hlook] at h
      dsimp only at h
      split_ifs at h with hprovided
      · cases h
        rw [table_of_content hcontent, hprovided, hcontent]
      · obtain ⟨u, changed, rfl, hedit, rfl⟩ := eq_of_change h
        cases hedit
        rfl

/-- An `init` that succeeds leaves the table. -/
theorem content_of_init (h : f.init a = (.ok (), g)) : g.content = .database (some f.table) := by
  obtain ⟨-, hensure⟩ := eq_of_write h
  rw [content_of_ensureTable hensure, table_created]

theorem content_of_insert {t : Table} {r : Record} (hf : f.content = .database (some t))
    (h : f.insert a r = (.ok (), g)) :
    ∃ u, g.content = .database (some u) ∧ t.insert (.ofRecord r) = .ok u := by
  obtain ⟨t', u, hcreated, htable, rfl⟩ := exists_of_insert h
  rw [created_of_content hf] at hcreated
  rw [hcreated] at hf
  cases hf
  exact ⟨u, rfl, htable⟩

/-- Inserts that all succeed let the table grow by the records. -/
theorem content_of_insertUntil {t : Table} {records : List Record}
    (hf : f.content = .database (some t)) (h : f.insertUntil a records = (.ok (), g)) :
    ∃ u, g.content = .database (some u) ∧ Table.Grown records t u := by
  induction records generalizing f t with
  | nil =>
      cases h
      exact ⟨t, hf, .refl t⟩
  | cons r rest ih =>
      unfold insertUntil at h
      cases hinsert : f.insert a r with
      | mk result f₁ =>
          rw [hinsert] at h
          cases result with
          | error e => cases h
          | ok _ =>
              obtain ⟨u, hu, htable⟩ := content_of_insert hf hinsert
              obtain ⟨v, hv, hgrown⟩ := ih hu h
              exact ⟨v, hv, (Table.Grown.of_insert htable).trans hgrown⟩

end File
end Store
end TelemetryExport
