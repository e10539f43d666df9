import TelemetryExport.Proofs.Store.Selection

/-! # Rows that cannot be read

A measurement that is no number keeps its row from being read, and so does a time that is null
(`Row.offends`); a text does not, whether it is an instant or not.  Rows are read in the order of
the answer and columns from left to right, so what a query reports is the leftmost such column of
the first such row (`Row.fault?`, `answer_eq_error_iff`).

`File.reportsFaults` says so of a file, and that rows which are not part of an answer have no
influence on it. -/

namespace TelemetryExport
namespace Store

/-! ### Cells and rows -/

theorem Column.mem_all (column : Column) : column ∈ all := by
  cases column <;> decide

instance : Fintype Column := .ofList Column.all Column.mem_all

def Cell.isNumber : Cell → Bool
  | integer _ => true
  | real _ => true
  | _ => false

/-- The cell of the column keeps the row from being read. -/
def Row.offends (row : Row) : Column → Bool
  | .deviceId => false
  | .timestamp => row.cells.timestamp == .null
  | column => !(row.cells.cell column).isNumber

/-- The leftmost column that keeps the row from being read, and what it holds instead. -/
def Row.fault? (row : Row) : Option (Column × StorageClass) :=
  (Column.all.find? row.offends).map fun column => (column, (row.cells.cell column).storageClass)

/-- The row stands at `first` or `last` or between them; one without a time does not. -/
def Row.During (now : Clock) (first last : Int) (row : Row) : Prop :=
  ∃ s : ℤ, row.time now = s ∧ first ≤ s ∧ s ≤ last

theorem Row.during_iff {now : Clock} {first last : Int} {row : Row} :
    row.During now first last ↔ (row.normalise now).within first last = true := by
  unfold Row.During Sample.within
  simp only [Row.time_eq_coe_iff]
  cases (row.normalise now).timestamp with
  | none => simp
  | some t => simp [Bool.and_eq_true]

instance (now : Clock) (first last : Int) : DecidablePred (Row.During now first last) :=
  fun _ => decidable_of_iff' _ Row.during_iff

theorem Row.fault?_eq_none_iff {row : Row} :
    row.fault? = none ↔ ∀ column, row.offends column = false := by
  unfold Row.fault?
  rw [Option.map_eq_none_iff, List.find?_eq_none]
  constructor
  · intro h column
    simpa using h column column.mem_all
  · intro h column _
    simp [h column]

theorem Row.offends_of_fault? {row : Row} {column : Column} {found : StorageClass}
    (h : row.fault? = some (column, found)) : row.offends column = true := by
  obtain ⟨column', hfind, heq⟩ := Option.map_eq_some_iff.mp h
  obtain ⟨rfl, -⟩ := Prod.mk.inj heq
  exact List.find?_some hfind

theorem measurement_cases (column : Column) (c : Cell) :
    (c.isNumber = false ∧
        Sample.measurement column c = .error (.unreadable column c.storageClass)) ∨
      (c.isNumber = true ∧ ∃ x, Sample.measurement column c = .ok x) := by
  cases c with
  | integer i => exact .inr ⟨rfl, _, rfl⟩
  | real x => exact .inr ⟨rfl, _, rfl⟩
  | _ => exact .inl ⟨rfl, rfl⟩

/-- A text is always a time. -/
theorem normalTime?_eq_none_iff {now : Clock} {c : Cell} :
    normalTime? now c = none ↔ c = .null := by
  cases c <;> simp [normalTime?, Cell.toInteger?]

theorem bind_of_eq_error {ε α β : Type} {x : Except ε α} {e : ε} (h : x = .error e)
    (k : α → Except ε β) : (x >>= k) = .error e := by
  rw [h]
  rfl

theorem bind_of_eq_ok {ε α β : Type} {x : Except ε α} {a : α} (h : x = .ok a)
    (k : α → Except ε β) : (x >>= k) = k a := by
  rw [h]
  rfl

/-- A row is read, or its leftmost fault is reported.  The columns are gone through as they are
read. -/
theorem Row.toRecord_cases (row : Row) (now : Clock) (deviceId : Int) :
    (row.fault? = none ∧ ∃ r, (row.normalise now).toRecord deviceId = .ok r) ∨
      ∃ column found, row.fault? = some (column, found) ∧
        (row.normalise now).toRecord deviceId = .error (.unreadable column found) := by
  unfold Row.fault? Column.all Sample.toRecord Row.normalise
  dsimp only
  obtain ⟨hnt, ht⟩ | ⟨hnt, t, ht⟩ := measurement_cases .temperature row.cells.temperature
  · refine .inr ⟨.temperature, row.cells.temperature.storageClass, ?_, bind_of_eq_error ht _⟩
    simp [offends, Cells.cell, hnt]
  rw [bind_of_eq_ok ht]
  obtain ⟨hnh, hh⟩ | ⟨hnh, h, hh⟩ := measurement_cases .humidity row.cells.humidity
  · refine .inr ⟨.humidity, row.cells.humidity.storageClass, ?_, bind_of_eq_error hh _⟩
    simp [offends, Cells.cell, hnt, hnh]
  rw [bind_of_eq_ok hh]
  obtain ⟨hnw, hw⟩ | ⟨hnw, w, hw⟩ := measurement_cases .waterLevel row.cells.waterLevel
  · refine .inr ⟨.waterLevel, row.cells.waterLevel.storageClass, ?_, bind_of_eq_error hw _⟩
    simp [offends, Cells.cell, hnt, hnh, hnw]
  rw [bind_of_eq_ok hw]
  cases hs : normalTime? now row.cells.timestamp with
  | none =>
      have hnull : row.cells.timestamp = .null := normalTime?_eq_none_iff.mp hs
      refine .inr ⟨.timestamp, row.cells.timestamp.storageClass, ?_, ?_⟩
      · simp [offends, Cells.cell, hnt, hnh, hnw, hnull]
      · rw [hnull]
        rfl
  | some s =>
      have hnull : row.cells.timestamp ≠ .null := by
        rw [Ne, ← normalTime?_eq_none_iff, hs]
        exact nofun
      exact .inl ⟨by simp [offends, Cells.cell, hnt, hnh, hnw, hnull], _, rfl⟩

theorem Row.exists_offends_iff {row : Row} :
    (∃ column, row.offends column = true) ↔ ∃ fault, row.fault? = some fault := by
  rw [← Option.ne_none_iff_exists', Ne, Row.fault?_eq_none_iff, not_forall]
  simp only [Bool.not_eq_false]

/-- A row with a time is kept from being read by its measurements only. -/
theorem Row.ne_timestamp_of_offends {now : Clock} {row : Row} {first last : Int}
    {column : Column} (h : row.During now first last) (hcolumn : row.offends column = true) :
    column ≠ .timestamp := by
  obtain ⟨t, ht, -, -⟩ := h
  rintro rfl
  have hnull : row.cells.timestamp = .null := beq_iff_eq.mp hcolumn
  rw [Row.time_eq_coe_iff] at ht
  rw [show (row.normalise now).timestamp = none from normalTime?_eq_none_iff.mpr hnull] at ht
  cases ht

/-! ### Answers -/

/-- What is reported of rows is the fault of the first one that has any. -/
theorem mapM_toRecord_eq_error_iff {now : Clock} {deviceId : Int} {rows : List Row}
    {e : Error} :
    (rows.map (Row.normalise now)).mapM (Sample.toRecord deviceId) = .error e ↔
      ∃ column found, rows.findSome? Row.fault? = some (column, found) ∧
        e = .unreadable column found := by
  induction rows with
  | nil => exact ⟨nofun, fun ⟨_, _, h, _⟩ => nomatch h⟩
  | cons row rest ih =>
      rw [List.map_cons, List.mapM_cons, List.findSome?_cons]
      obtain ⟨hnone, r, hr⟩ | ⟨column, found, hfault, he⟩ := row.toRecord_cases now deviceId
      · rw [bind_of_eq_ok hr, hnone]
        dsimp only
        rw [← ih]
        cases (rest.map (Row.normalise now)).mapM (Sample.toRecord deviceId) with
        | error e' => exact Iff.rfl
        | ok records => exact iff_of_false nofun nofun
      · rw [bind_of_eq_error he, hfault]
        simp [eq_comm]

namespace Table

/-- The rows that an answer is read from, in its order. -/
def chosen (t : Table) (now : Clock) : Query → List Row
  | .lastN deviceId count => (t.listed now deviceId).take (min count maxCount)
  | .range deviceId first last => (t.listed now deviceId).filter (Row.During now first last ·)

theorem selected_eq (t : Table) (now : Clock) (q : Query) :
    t.selected now q = (t.chosen now q).map (Row.normalise now) := by
  cases q with
  | lastN deviceId count =>
      unfold selected chosen
      dsimp only
      rw [history_eq, ← List.map_take]
  | range deviceId first last =>
      unfold selected chosen
      dsimp only
      rw [history_eq, List.filter_map]
      refine congrArg _ (List.filter_congr fun row _ => ?_)
      rw [Bool.eq_iff_iff, decide_eq_true_iff, Row.during_iff, Function.comp_apply]

theorem answer_eq (t : Table) (now : Clock) (q : Query) :
    t.answer now q =
      ((t.chosen now q).map (Row.normalise now)).mapM (Sample.toRecord q.deviceId) := by
  rw [answer, selected_eq]

theorem answer_eq_error_iff {t : Table} {now : Clock} {q : Query} {e : Error} :
    t.answer now q = .error e ↔
      ∃ column found, (t.chosen now q).findSome? Row.fault? = some (column, found) ∧
        e = .unreadable column found := by
  rw [answer_eq, mapM_toRecord_eq_error_iff]

theorem exists_answer_eq_error_iff {t : Table} {now : Clock} {q : Query} :
    (∃ e, t.answer now q = .error e) ↔
      ∃ row ∈ t.chosen now q, ∃ column, row.offends column = true := by
  simp only [answer_eq_error_iff, Row.exists_offends_iff]
  constructor
  · rintro ⟨e, column, found, hfound, -⟩
    obtain ⟨row, hrow, hfault⟩ := List.exists_of_findSome?_eq_some hfound
    exact ⟨row, hrow, _, hfault⟩
  · rintro ⟨row, hrow, fault, hfault⟩
    cases hfirst : (t.chosen now q).findSome? Row.fault? with
    | none =>
        rw [List.findSome?_eq_none_iff] at hfirst
        rw [hfirst row hrow] at hfault
        cases hfault
    | some first => exact ⟨_, first.1, first.2, rfl, rfl⟩

theorem mem_of_mem_chosen {t : Table} {now : Clock} {q : Query} {row : Row}
    (h : row ∈ t.chosen now q) : row ∈ t.rows ∧ row.isOf q.deviceId = true := by
  have hlisted : row ∈ t.listed now q.deviceId := by
    cases q with
    | lastN deviceId count => exact List.mem_of_mem_take h
    | range deviceId first last => exact List.mem_of_mem_filter h
  exact List.mem_filter.mp ((t.listed_perm now q.deviceId).mem_iff.mp hlisted)

theorem chosen_of_listed {t t' : Table} {now : Clock} {q : Query}
    (h : t'.listed now q.deviceId = t.listed now q.deviceId) :
    t'.chosen now q = t.chosen now q := by
  cases q with
  | lastN deviceId count => exact congrArg (List.take (min count maxCount)) h
  | range deviceId first last => exact congrArg (List.filter (Row.During now first last ·)) h

/-- Only the rows of the device matter. -/
theorem Keyed.chosen_of_perm {t t' : Table} (ht : t.Keyed) (ht' : t'.Keyed) (now : Clock)
    {q : Query}
    (hperm : (t'.rows.filter (Row.isOf q.deviceId)).Perm (t.rows.filter (Row.isOf q.deviceId))) :
    t'.chosen now q = t.chosen now q := by
  have hlisting := ht'.listing_listed now q.deviceId
  exact chosen_of_listed (Listing.unique ⟨hlisting.perm.trans hperm, hlisting.descending⟩
    (ht.listing_listed now q.deviceId))

end Table

/-! ### Queries on a file -/

namespace File

/-- The file can be read, and `rows` are those of the device in the order of an answer. -/
structure Lists (f : File) (a : Access) (t : Table) (now : Clock) (deviceId : Int)
    (rows : List Row) : Prop where
  keyed : t.Keyed
  readable : f.Readable a t
  listing : Listing t now deviceId rows

variable {f f' : File} {a a' : Access} {t t' : Table} {now : Clock} {deviceId : Int}
  {rows rows' : List Row}

theorem Readable.outcome_query (h : f.Readable a t) (p : RetryPolicy) (q : Query) (now : Clock) :
    (f.query a p q now).outcome = t.answer now q := by
  rw [File.outcome_query, attempt, read_eq_ok_iff.mpr h]
  rfl

theorem Lists.eq_listed (h : f.Lists a t now deviceId rows) : rows = t.listed now deviceId :=
  h.listing.unique (h.keyed.listing_listed now deviceId)

theorem Lists.chosen_lastN (h : f.Lists a t now deviceId rows) (count : Nat) :
    t.chosen now (.lastN deviceId count) = rows.take (min count rows.length) := by
  rw [h.eq_listed]
  exact h.keyed.take_listed now deviceId count

theorem Lists.chosen_range (h : f.Lists a t now deviceId rows) (first last : Int) :
    t.chosen now (.range deviceId first last) = rows.filter (Row.During now first last ·) := by
  rw [h.eq_listed]
  rfl

/-- Within a span, where all rows have a time, only measurements keep a row from being read. -/
theorem Lists.exists_offends_iff (h : f.Lists a t now deviceId rows) (first last : Int) :
    (∃ row ∈ rows.filter (Row.During now first last ·), ∃ column, row.offends column = true) ↔
      ∃ row ∈ t.rows, row.isOf deviceId = true ∧ row.During now first last ∧
        ∃ column, column ≠ .timestamp ∧ row.offends column = true := by
  simp only [List.mem_filter, h.listing.perm.mem_iff, decide_eq_true_iff, and_assoc]
  refine exists_congr fun row => and_congr_right fun _ => and_congr_right fun _ =>
    and_congr_right fun hduring => exists_congr fun column => ?_
  exact (and_iff_right_of_imp (Row.ne_timestamp_of_offends hduring)).symm

/-- The same rows are answered alike, whatever else the tables hold. -/
theorem outcome_query_of_chosen (h : f.Readable a t) (h' : f'.Readable a' t') {q : Query}
    (hq : t'.chosen now q = t.chosen now q) (p p' : RetryPolicy) :
    (f'.query a' p' q now).outcome = (f.query a p q now).outcome := by
  rw [h.outcome_query, h'.outcome_query, Table.answer_eq, Table.answer_eq, hq]

/-- What the rows of a device, listed in the order of an answer, come to in queries about it. -/
structure ReportsFaults (f : File) (a : Access) (p : RetryPolicy) (t : Table) (now : Clock)
    (deviceId : Int) (rows : List Row) : Prop where
  lists : f.Lists a t now deviceId rows
  /-- A query for the newest records fails for a row that the answer would have. -/
  lastN_fails_iff : ∀ count, (∃ e, (f.query a p (.lastN deviceId count) now).outcome = .error e) ↔
    ∃ row ∈ rows.take (min count rows.length), ∃ column, row.offends column = true
  /-- A query for a span of time fails for a measurement within it. -/
  range_fails_iff : ∀ first last,
    (∃ e, (f.query a p (.range deviceId first last) now).outcome = .error e) ↔
      ∃ row ∈ t.rows, row.isOf deviceId = true ∧ row.During now first last ∧
        ∃ column, column ≠ .timestamp ∧ row.offends column = true
  /-- The leftmost fault of the first row that has any is the one that is named. -/
  lastN_error_iff : ∀ count e, (f.query a p (.lastN deviceId count) now).outcome = .error e ↔
    ∃ column found,
      (rows.take (min count rows.length)).findSome? Row.fault? = some (column, found) ∧
        e = .unreadable column found
  range_error_iff : ∀ first last e,
    (f.query a p (.range deviceId first last) now).outcome = .error e ↔ ∃ column found,
      (rows.filter (Row.During now first last ·)).findSome? Row.fault? = some (column, found) ∧
        e = .unreadable column found
  /-- The time of a row is reported only where it is null. -/
  time_null : ∀ q found, q.deviceId = deviceId →
    (f.query a p q now).outcome = .error (.unreadable .timestamp found) →
      ∃ row ∈ t.rows, row.isOf deviceId = true ∧ row.cells.timestamp = .null
  /-- Rows beyond the count have no influence. -/
  beyond : ∀ (f' : File) (p' : RetryPolicy) (t' : Table) (rows' : List Row) (count : Nat),
    f'.Lists a t' now deviceId rows' →
      rows'.take (min count rows'.length) = rows.take (min count rows.length) →
        (f'.query a p' (.lastN deviceId count) now).outcome =
          (f.query a p (.lastN deviceId count) now).outcome
  /-- Rows outside the span have no influence. -/
  outside : ∀ (f' : File) (p' : RetryPolicy) (t' : Table) (rows' : List Row) (first last : Int),
    f'.Lists a t' now deviceId rows' →
      rows'.filter (Row.During now first last ·) = rows.filter (Row.During now first last ·) →
        (f'.query a p' (.range deviceId first last) now).outcome =
          (f.query a p (.range deviceId first last) now).outcome
  /-- Rows of other devices have no influence. -/
  foreign : ∀ (f' : File) (p' : RetryPolicy) (t' : Table) (q : Query), t'.Keyed →
    f'.Readable a t' → q.deviceId = deviceId →
      (t'.rows.filter (Row.isOf deviceId)).Perm (t.rows.filter (Row.isOf deviceId)) →
        (f'.query a p' q now).outcome = (f.query a p q now).outcome

/-- **A query fails because of the data** exactly if a row that its answer would have cannot be
read, whatever else the table holds and whatever the clock shows. -/
theorem reportsFaults (ht : t.Keyed) (hf : f.Readable a t) (p : RetryPolicy) (now : Clock)
    (deviceId : Int) : ∃ rows, ReportsFaults f a p t now deviceId rows := by
  have hlists : f.Lists a t now deviceId (t.listed now deviceId) :=
    ⟨ht, hf, ht.listing_listed now deviceId⟩
  refine ⟨t.listed now deviceId, hlists, fun count => ?_, fun first last => ?_, fun count e => ?_,
    fun first last e => ?_, fun q found hq h => ?_, ?_, ?_, ?_⟩
  · rw [hf.outcome_query, Table.exists_answer_eq_error_iff, hlists.chosen_lastN]
  · rw [hf.outcome_query, Table.exists_answer_eq_error_iff, hlists.chosen_range]
    exact hlists.exists_offends_iff first last
  · rw [hf.outcome_query, Table.answer_eq_error_iff, hlists.chosen_lastN]
  · rw [hf.outcome_query, Table.answer_eq_error_iff, hlists.chosen_range]
  · rw [hf.outcome_query, Table.answer_eq_error_iff] at h
    obtain ⟨column, found', hfirst, he⟩ := h
    obtain ⟨rfl, rfl⟩ := Error.unreadable.inj he
    obtain ⟨row, hrow, hfault⟩ := List.exists_of_findSome?_eq_some hfirst
    obtain ⟨hmem, hdevice⟩ := Table.mem_of_mem_chosen hrow
    exact ⟨row, hmem, hq ▸ hdevice, beq_iff_eq.mp (Row.offends_of_fault? hfault)⟩
  · intro f' p' t' rows' count h' htake
    refine outcome_query_of_chosen hf h'.readable ?_ p p'
    rw [h'.chosen_lastN, hlists.chosen_lastN, htake]
  · intro f' p' t' rows' first last h' hfilter
    refine outcome_query_of_chosen hf h'.readable ?_ p p'
    rw [h'.chosen_range, hlists.chosen_range, hfilter]
  · intro f' p' t' q ht' hf' hq hperm
    exact outcome_query_of_chosen hf hf' (ht.chosen_of_perm ht' now (hq ▸ hperm)) p p'

/-- The newest row can be read, the next one is dated by the present and has a text for a
temperature and a blob for a humidity, then comes a text that is no instant, and last a null; a row
of another device cannot be read at all.  One record is answered, two are not, and neither does the
span around the epoch fail.  Two seconds later the row that is dated by the present has become the
newest. -/
theorem reportsFaults_textTemperature :
    let cells (deviceId : String) (temperature humidity timestamp : Cell) : Cells :=
      ⟨.text deviceId, temperature, humidity, .real ⟨0x3ff8000000000000⟩, timestamp⟩
    let early : Row := ⟨1, cells "1" (.integer 20) (.integer 50) (.text "soon")⟩
    let broken : Row := ⟨-2, cells " 01 " (.text "n/a") (.blob []) (.text "Now")⟩
    let foreign : Row := ⟨3, cells "2" .null .null .null⟩
    let late : Row := ⟨4, cells "1" (.integer 23) (.integer 50) (.integer 1714557601)⟩
    let timeless : Row := ⟨5, cells "1" (.integer 24) (.integer 50) .null⟩
    let t : Table := ⟨.untyped, [early, broken, foreign, late, timeless], .vacancy [], true⟩
    let f : File := ⟨.database (some t), some .reserved⟩
    let a : Access := ⟨"farm.db", 100⟩
    let p : RetryPolicy := ⟨3, 100⟩
    let now : Clock := ⟨1714557600999⟩
    let later : Clock := ⟨1714557602999⟩
    t.Keyed ∧ f.Readable a t ∧ ∃ rows, rows = [late, broken, early, timeless] ∧
      ReportsFaults f a p t now 1 rows ∧
      (¬ ∃ e, (f.query a p (.lastN 1 1) now).outcome = .error e) ∧
      (f.query a p (.lastN 1 2) now).outcome = .error (.unreadable .temperature .text) ∧
      (¬ ∃ e, (f.query a p (.range 1 (-5) 5) now).outcome = .error e) ∧
      ∃ rows, rows = [broken, late, early, timeless] ∧ ReportsFaults f a p t later 1 rows ∧
        (f.query a p (.lastN 1 1) later).outcome = .error (.unreadable .temperature .text) := by
  intro cells early broken foreign late timeless t f a p now later
  have hkeyed : t.Keyed := ⟨by decide, by decide⟩
  have hreadable : f.Readable a t := ⟨rfl, nofun, by decide⟩
  obtain ⟨rows, h⟩ := reportsFaults hkeyed hreadable p now 1
  have hrows : rows = [late, broken, early, timeless] :=
    h.lists.listing.unique ⟨by decide +kernel, by decide +kernel⟩
  subst hrows
  refine ⟨hkeyed, hreadable, _, rfl, h, ?_, ?_, ?_, ?_⟩
  · rw [h.lastN_fails_iff]
    decide +kernel
  · exact (h.lastN_error_iff 2 _).mpr ⟨_, _, rfl, rfl⟩
  · rw [h.range_fails_iff]
    decide +kernel
  · obtain ⟨rows, h⟩ := reportsFaults hkeyed hreadable p later 1
    have hrows : rows = [broken, late, early, timeless] :=
      h.lists.listing.unique ⟨by decide +kernel, by decide +kernel⟩
    subst hrows
    exact ⟨_, rfl, h, (h.lastN_error_iff 1 _).mpr ⟨_, _, rfl, rfl⟩⟩

end File
end Store
end TelemetryExport
