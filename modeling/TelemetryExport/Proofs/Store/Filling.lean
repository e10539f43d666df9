import TelemetryExport.Proofs.Store.Newest
import TelemetryExport.Proofs.Store.Numbering
import TelemetryExport.Store.Retry

/-! # Filling a store

A change that succeeds found no lock and a database, and left what it was to make of the table;
one that fails left the file as it was (`File.change_cases`).  Around it stands only the opening
of the file (`File.write_eq`).  So a file that was created, and into which some records were
inserted with success, holds exactly these records, in that order and with nothing else
(`File.eq_holding_of_init`, `File.eq_holding_of_insertUntil`), and a query on it is answered at
the first attempt (`File.query_holding`). -/

namespace TelemetryExport
namespace Store

/-! ### Tables -/

namespace Table

theorem used_holding (records : List Record) :
    (holding records).used = (List.range' 1 records.length).map Nat.cast := by
  unfold used holding
  rw [← List.zipIdx_map_snd, List.map_map, List.map_map]
  rfl

theorem following_used_holding (records : List Record) :
    following (holding records).used ≤ (records.length : Int) + 1 := by
  apply following_le (by omega)
  rw [used_holding, List.forall_mem_map]
  intro id hid
  rw [List.mem_range'_1] at hid
  omega

/-- A table that holds some records gives out one number after the other. -/
theorem next?_holding (records : List Record) :
    (holding records).numbering.next? (holding records).used =
      if (records.length : Int) + 1 ≤ maxInt64 then
        some ((records.length : Int) + 1, .sequence ((records.length : Int) + 1))
      else none := by
  have hnext : max ((records.length : Int) + 1) (following (holding records).used) =
      (records.length : Int) + 1 := max_eq_left (following_used_holding records)
  show Numbering.next? _ (.sequence (records.length : Int)) = _
  unfold Numbering.next?
  simp only [hnext]

/-- A row that is accepted stands behind all others, with the next number. -/
theorem eq_holding_of_insert {done : List Record} {r : Record} {t : Table}
    (h : (holding done).insert (.ofRecord r) = .ok t) : t = .holding (done ++ [r]) := by
  obtain ⟨id, n, hnext, rfl⟩ := exists_of_insert h
  rw [next?_holding] at hnext
  split_ifs at hnext
  cases hnext
  unfold holding
  rw [List.zipIdx_append, List.map_append, List.length_append, Nat.add_comm 1]
  rfl

end Table

namespace File

variable {f g : File} {a : Access}

/-- A file without locks, created for the records and holding nothing else. -/
def holding (records : List Record) : File := ⟨.database (some (.holding records)), none⟩

theorem content_of_look {table : Option Table} (h : f.look = .ok table) :
    f.content = .database table := by
  unfold look at h
  split_ifs at h
  cases hc : f.content with
  | database t =>
      rw [hc] at h
      cases h
      rfl
  | _ =>
      rw [hc] at h
      cases h

/-- A change fails and leaves the file as it was, or it found no lock and a database. -/
theorem change_cases (f : File) (edit : Option Table → Except Error (Option Table)) :
    (∃ e, f.change edit = (.error e, f) ∧
      (f.look = .error e ∨ e = .locked ∨ ∃ table, edit table = .error e)) ∨
    ∃ table changed, f = ⟨.database table, none⟩ ∧ edit table = .ok changed ∧
      f.change edit = (.ok (), ⟨.database changed, none⟩) := by
  unfold change
  cases hlook : f.look with
  | error e => exact .inl ⟨e, rfl, .inl rfl⟩
  | ok table =>
      have hcontent := content_of_look hlook
      obtain ⟨content, lock⟩ := f
      dsimp only at hcontent ⊢
      subst hcontent
      cases hedit : edit table with
      | error e =>
          have hfailed : ∃ table, edit table = .error e := ⟨table, hedit⟩
          rcases lock with _ | _ | _ | _
          · exact .inl ⟨e, rfl, .inr (.inr hfailed)⟩
          · exact .inl ⟨e, rfl, .inr (.inr hfailed)⟩
          · -- a reserved lock hides all errors but the immediate ones
            refine .inl ⟨_, rfl, .inr ?_⟩
            split_ifs
            · exact .inr hfailed
            · exact .inl rfl
          · exact .inl ⟨e, rfl, .inr (.inr hfailed)⟩
      | ok changed =>
          rcases lock with _ | l
          · exact .inr ⟨table, changed, rfl, hedit, rfl⟩
          · refine .inl ⟨.locked, ?_, .inr (.inl rfl)⟩
            cases l <;> rfl

/-- What a successful change was made of. -/
theorem eq_of_change {edit : Option Table → Except Error (Option Table)}
    (h : f.change edit = (.ok (), g)) :
    ∃ table changed, f = ⟨.database table, none⟩ ∧ edit table = .ok changed ∧
      g = ⟨.database changed, none⟩ := by
  rcases change_cases f edit with ⟨e, hchange, -⟩ | ⟨table, changed, hf, hedit, hchange⟩
  · rw [hchange] at h
    cases h
  · rw [hchange] at h
    cases h
    exact ⟨table, changed, hf, hedit, rfl⟩

/-- Acting on a file that was opened for writing, or failing to open it. -/
theorem write_eq (a : Access) (stage : Stage) (f : File)
    (act : File → Except Error Unit × File) :
    f.write a stage act =
      if f.content = .unreachable then (.error ⟨.openFile, .cannotOpen a.path⟩, f)
      else if maxBusyTimeoutMs < a.busyTimeoutMs then
        (.error ⟨.setTimeout, .timeoutTooLarge⟩, f.created)
      else ((act f.created).1.mapError (⟨stage, ·⟩), (act f.created).2) := by
  unfold write openWritable
  split_ifs <;> rfl

theorem eq_of_write {stage : Stage} {act : File → Except Error Unit × File}
    (h : f.write a stage act = (.ok (), g)) :
    a.busyTimeoutMs ≤ maxBusyTimeoutMs ∧ act f.created = (.ok (), g) := by
  rw [write_eq] at h
  split_ifs at h with hcontent hbusy
  · cases h
  · cases h
  · refine ⟨by omega, ?_⟩
    cases hact : act f.created with
    | mk result g' =>
        rw [hact] at h
        cases result with
        | error e => cases h
        | ok _ =>
            cases h
            rfl

/-! ### Creating and inserting -/

/-- A successful `init` of a file without a table creates an empty one. -/
theorem eq_holding_of_init (hfresh : f.created.content = .database none)
    (h : f.init a = (.ok (), g)) : a.busyTimeoutMs ≤ maxBusyTimeoutMs ∧ g = holding [] := by
  obtain ⟨hbusy, hensure⟩ := eq_of_write h
  refine ⟨hbusy, ?_⟩
  unfold ensureTable at hensure
  cases hlook : f.created.look with
  | error e =>
      rw [hlook] at hensure
      cases hensure
  | ok table =>
      have hcontent := content_of_look hlook
      rw [hfresh] at hcontent
      cases hcontent
      rw [hlook] at hensure
      dsimp only at hensure
      have hmissing : some (provide none) ≠ none := Option.some_ne_none _
      rw [if_neg hmissing] at hensure
      obtain ⟨table, changed, hf, hedit, rfl⟩ := eq_of_change hensure
      rw [hf] at hfresh
      cases hfresh
      cases hedit
      rfl

/-- A successful insert found a table and no lock, and the table took the row. -/
theorem exists_of_insert {r : Record} (h : f.insert a r = (.ok (), g)) :
    ∃ t u, f.created = ⟨.database (some t), none⟩ ∧ t.insert (.ofRecord r) = .ok u ∧
      g = ⟨.database (some u), none⟩ := by
  obtain ⟨-, hinsert⟩ := eq_of_write h
  obtain ⟨table, changed, hf, hedit, rfl⟩ := eq_of_change hinsert
  cases table with
  | none => cases hedit
  | some t =>
      simp only [onTable, insertCells] at hedit
      cases htable : t.insert (.ofRecord r) with
      | error refusal =>
          rw [htable] at hedit
          cases hedit
      | ok u =>
          rw [htable] at hedit
          cases hedit
          exact ⟨t, u, hf, htable, rfl⟩

/-- A successful insert adds the record at the end. -/
theorem eq_holding_of_insert {done : List Record} {r : Record}
    (h : (holding done).insert a r = (.ok (), g)) : g = holding (done ++ [r]) := by
  obtain ⟨t, u, hf, htable, rfl⟩ := exists_of_insert h
  cases hf
  rw [Table.eq_holding_of_insert htable]
  rfl

theorem eq_holding_of_insertUntil {done records : List Record}
    (h : (holding done).insertUntil a records = (.ok (), g)) : g = holding (done ++ records) := by
  induction records generalizing done with
  | nil =>
      cases h
      rw [List.append_nil]
  | cons r rest ih =>
      unfold insertUntil at h
      cases hinsert : (holding done).insert a r with
      | mk result f₁ =>
          rw [hinsert] at h
          cases result with
          | error e => cases h
          | ok _ =>
              have hf₁ := eq_holding_of_insert hinsert
              subst hf₁
              rw [ih h, List.append_assoc, List.singleton_append]

/-! ### Asking -/

theorem read_holding (hbusy : a.busyTimeoutMs ≤ maxBusyTimeoutMs) (records : List Record) :
    (holding records).read a = .ok (.holding records) := by
  unfold read
  rw [if_neg (by simp [holding]), if_neg (by omega)]
  rfl

/-- A query that is answered is not repeated. -/
theorem query_of_attempt {p : RetryPolicy} {q : Query} {now : Clock} {answer : List Record}
    (h : f.attempt a q now = .ok answer) : f.query a p q now = ⟨1, .ok answer, []⟩ := by
  unfold query RetryPolicy.run
  rw [h]
  cases p.times <;> rfl

theorem query_holding (hbusy : a.busyTimeoutMs ≤ maxBusyTimeoutMs) (p : RetryPolicy)
    {records answer : List Record} {q : Query} {now : Clock}
    (hanswer : (Table.holding records).answer now q = .ok answer) :
    (holding records).query a p q now = ⟨1, .ok answer, []⟩ := by
  apply query_of_attempt
  unfold attempt
  rw [read_holding hbusy]
  exact hanswer

end File
end Store
end TelemetryExport
