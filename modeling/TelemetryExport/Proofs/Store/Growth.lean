import Mathlib.Data.List.Forall2
import TelemetryExport.Frame.FaultySink
import TelemetryExport.Proofs.Store.Filling
import TelemetryExport.Proofs.Store.Numbering
import TelemetryExport.Proofs.Store.Observations
import TelemetryExport.Server.Worker

/-! # Rows come from inserts

A file is looked at through the table that `init` would leave in it (`File.table`): empty if
there is none.  An operation that stores no record does not change this table, whether it
succeeds or fails and at whatever lock it fails (`Operation.table_perform_of_none`); one that
stores a record adds one row to it (`Operation.insert_table_of_some`).  `Table.Grown` says what
any number of them come to: it is reflexive and transitive, and so a sequence of operations adds
a row for each record it stored, in that order and with a new number each, and nothing else
(`File.grown_perform`).  `File.rowsKept` is the whole of it, with what an `init` means for
queries.

Numbers need not increase once the greatest of all is in use, and a query that comes after an
`init` may meet a lock, or find that the present has moved on: `File.orderNotKept`. -/

namespace TelemetryExport
namespace Store

/-! ### Tables -/

namespace Table

/-- The second table has grown from the first one by a row for each of the records. -/
structure Grown (records : List Record) (t u : Table) : Prop where
  schema : u.schema = t.schema
  indexed : u.indexed = t.indexed
  isSequence : u.numbering.isSequence = t.numbering.isSequence
  /-- The rows that were there stay as they are; each further one has a number that is new. -/
  rows : ∃ added, u.rows = t.rows ++ added ∧
    NewInTurn t.numbering.isSequence t.used (added.map (·.id)) ∧
    List.Forall₂ (fun r row => row.cells = (Cells.ofRecord r).convert t.schema) records added
  /-- In a sequence one number comes after the other. -/
  used_eq : ∀ first, t.next? = some first → u.next? = some (first + records.length) ∧
    u.used = t.used ++ consecutive first records.length

/-- Nothing else has changed. -/
theorem Grown.eq_append {records : List Record} {t u : Table} {added : List Row}
    (h : Grown records t u) (hrows : u.rows = t.rows ++ added) :
    u = { t with rows := t.rows ++ added, numbering := u.numbering } := by
  obtain ⟨schema, rows, numbering, indexed⟩ := u
  obtain rfl : schema = t.schema := h.schema
  obtain rfl : rows = t.rows ++ added := hrows
  obtain rfl : indexed = t.indexed := h.indexed
  rfl

theorem Grown.refl (t : Table) : Grown [] t t := by
  refine ⟨rfl, rfl, rfl, ⟨[], (List.append_nil _).symm, trivial, .nil⟩, fun first h => ⟨?_, ?_⟩⟩
  · rw [h, List.length_nil, Nat.cast_zero, add_zero]
  · exact (List.append_nil _).symm

theorem Grown.trans {rs ss : List Record} {t u v : Table} (h : Grown rs t u) (h' : Grown ss u v) :
    Grown (rs ++ ss) t v := by
  obtain ⟨added, hrows, hnew, hcells⟩ := h.rows
  obtain ⟨added', hrows', hnew', hcells'⟩ := h'.rows
  have hused : u.used = t.used ++ added.map (·.id) := by
    unfold used
    rw [hrows, List.map_append]
  refine ⟨h'.schema.trans h.schema, h'.indexed.trans h.indexed,
    h'.isSequence.trans h.isSequence, ⟨added ++ added', ?_, ?_, ?_⟩, fun first hfirst => ?_⟩
  · rw [hrows', hrows, List.append_assoc]
  · rw [h.isSequence, hused] at hnew'
    rw [List.map_append]
    exact hnew.append hnew'
  · rw [h.schema] at hcells'
    exact List.rel_append hcells hcells'
  · obtain ⟨hnext, hu⟩ := h.used_eq first hfirst
    obtain ⟨hnext', hv⟩ := h'.used_eq _ hnext
    refine ⟨?_, ?_⟩
    · rw [hnext', List.length_append, Nat.cast_add, add_assoc]
    · rw [hv, hu, List.length_append, consecutive_add, List.append_assoc]

theorem Grown.of_insert {t u : Table} {r : Record} (h : t.insert (.ofRecord r) = .ok u) :
    Grown [r] t u := by
  have hsequence : ∀ first, t.next? = some first →
      u.used = t.used ++ [first] ∧ u.next? = some (first + 1) :=
    fun _ hfirst => next?_of_insert h hfirst
  obtain ⟨id, n, hnext, rfl⟩ := exists_of_insert h
  refine ⟨rfl, rfl, Numbering.isSequence_of_next? hnext,
    ⟨[⟨id, (Cells.ofRecord r).convert t.schema⟩], rfl, ⟨?_, trivial⟩, .cons rfl .nil⟩,
    fun first hfirst => ?_⟩
  · exact Numbering.newNumber_of_next? hnext
  · obtain ⟨hused, hnext'⟩ := hsequence first hfirst
    refine ⟨hnext', ?_⟩
    rw [hused, List.length_singleton, consecutive_one]

/-- An index makes no difference to what is accepted. -/
theorem insert_provide {t u : Table} {c : Cells} (h : t.insert c = .ok u) :
    (File.provide (some t)).insert c = .ok (File.provide (some u)) := by
  unfold Table.insert at h ⊢
  dsimp only [File.provide, Table.used] at h ⊢
  split at h
  · cases h
  · next id n hnext =>
      split at h
      · cases h
      · cases h
        rfl

end Table

/-! ### Files -/

namespace File

variable {f g : File} {a : Access}

/-- The table in the file as `init` leaves it. -/
def table (f : File) : Table :=
  match f.content with
  | .database t => provide t
  | _ => provide none

@[simp] theorem provide_table (f : File) : provide (some f.table) = f.table := by
  unfold table
  split
  · cases ‹Option Table› <;> rfl
  · rfl

theorem table_of_content {t : Option Table} (h : f.content = .database t) :
    f.table = provide t := by
  unfold table
  rw [h]

/-- Opening a database leaves it as it is. -/
theorem created_of_content {t : Option Table} (h : f.content = .database t) : f.created = f := by
  unfold created
  rw [h]
  rfl

@[simp] theorem table_created (f : File) : f.created.table = f.table := by
  unfold created
  split_ifs with h
  · simp [table, h]
  · rfl

@[simp] theorem table_takeLock (l : Lock) (f : File) : (f.takeLock l).2.table = f.table := by
  rw [← table_created f]
  unfold takeLock
  dsimp only
  split
  · rfl
  · split_ifs <;> rfl
  · rfl

/-- A change that fails leaves the file as it was. -/
theorem change_of_error {edit : Option Table → Except Error (Option Table)} {e : Error}
    (h : (f.change edit).1 = .error e) : (f.change edit).2 = f := by
  rcases change_cases f edit with ⟨e, hchange, -⟩ | ⟨table, changed, -, -, hchange⟩
  · rw [hchange]
  · rw [hchange] at h
    cases h

theorem ensureTable_cases (f : File) :
    f.ensureTable.2 = f ∨ f.ensureTable.2 = ⟨.database (some f.table), none⟩ := by
  unfold ensureTable
  cases hlook : f.look with
  | error e => exact .inl rfl
  | ok t =>
      dsimp only
      split_ifs with hprovided
      · exact .inl rfl
      · rcases change_cases f fun t => .ok (some (provide t)) with
          ⟨e, hchange, -⟩ | ⟨t, changed, rfl, hedit, hchange⟩
        · rw [hchange]
          exact .inl rfl
        · cases hedit
          rw [hchange]
          exact .inr rfl

/-- What an `init` leaves, whether it succeeds or not. -/
theorem init_cases (a : Access) (f : File) :
    (f.init a).2 = f ∨ (f.init a).2 = f.created ∨
      (f.init a).2 = ⟨.database (some f.table), none⟩ := by
  unfold init
  rw [write_eq, ← table_created f]
  split_ifs
  · exact .inl rfl
  · exact .inr (.inl rfl)
  · exact .inr (ensureTable_cases f.created)

/-- Creating the table neither adds rows nor takes any away. -/
theorem table_init (a : Access) (f : File) : (f.init a).2.table = f.table := by
  rcases init_cases a f with h | h | h
  · rw [h]
  · rw [h, table_created]
  · rw [h, table_of_content rfl, provide_table]

/-- A table that is there is there after an `init`. -/
theorem content_init (a : Access) {t : Table} (h : f.content = .database (some t)) :
    ∃ u, (f.init a).2.content = .database (some u) := by
  rcases init_cases a f with hg | hg | hg
  · exact ⟨t, by rw [hg, h]⟩
  · exact ⟨t, by rw [hg, created_of_content h, h]⟩
  · exact ⟨f.table, by rw [hg]⟩

theorem table_insert_of_error {r : Record} {e : WriteError} (h : (f.insert a r).1 = .error e) :
    (f.insert a r).2.table = f.table := by
  unfold insert at h ⊢
  rw [write_eq] at h ⊢
  split_ifs at h ⊢
  · rfl
  · exact table_created f
  · cases hact : (insertRow (.ofRecord r) f.created).1 with
    | error e =>
        have hg : (insertRow (.ofRecord r) f.created).2 = f.created := change_of_error hact
        rw [hg, table_created]
    | ok _ =>
        rw [hact] at h
        cases h

theorem insert_table_of_ok {r : Record} (h : (f.insert a r).1 = .ok ()) :
    f.table.insert (.ofRecord r) = .ok (f.insert a r).2.table := by
  cases hinsert : f.insert a r with
  | mk result g =>
      rw [hinsert] at h
      obtain rfl : result = .ok () := h
      obtain ⟨t, u, hcreated, htable, rfl⟩ := exists_of_insert hinsert
      rw [← table_created f, hcreated]
      exact Table.insert_provide htable

end File

/-! ### Operations -/

/-- What is done with a file: by this library, and by a connection that comes between. -/
inductive Operation (σ : Type) where
  | init (a : Access)
  | insert (a : Access) (r : Record)
  | query (a : Access) (p : RetryPolicy) (q : Query) (now : Clock)
  /-- A worker carries on an exchange with a client. -/
  | serve (r : Resolver) (request : Bytes) (a : Access) (p : RetryPolicy) (now : Clock)
      (task : String) (sink : Frame.Sink σ) (state : σ) (fuel : Nat)
  | takeLock (l : Lock)
  | unlock

inductive Reply where
  | written (result : Except WriteError Unit)
  | answered (tried : Tried (List Record))
  | served (x : Server.Exchange)
  | locked (result : Except Error Unit)
  | unlocked

namespace Operation

variable {σ : Type}

def perform (f : File) : Operation σ → Reply × File
  | init a =>
    let (result, f) := f.init a
    (.written result, f)
  | insert a r =>
    let (result, f) := f.insert a r
    (.written result, f)
  | query a p q now => (.answered (f.query a p q now), f)
  | serve r request a p now task sink state fuel =>
    (.served (Server.work r (.ofFile request f a p now task sink) fuel state .start).2, f)
  | takeLock l =>
    let (result, f) := f.takeLock l
    (.locked result, f)
  | unlock => (.unlocked, f.unlock)

/-- The record that was stored, as the reply has it. -/
def stored? : Operation σ → Reply → Option Record
  | insert _ r, .written (.ok ()) => some r
  | _, _ => none

theorem table_perform_of_none {f : File} {o : Operation σ}
    (h : o.stored? (o.perform f).1 = none) : (o.perform f).2.table = f.table := by
  cases o with
  | init a => exact File.table_init a f
  | insert a r =>
      cases hresult : (f.insert a r).1 with
      | error e => exact File.table_insert_of_error hresult
      | ok _ =>
          simp only [perform, hresult, stored?] at h
          cases h
  | query a p q now => rfl
  | serve r request a p now task sink state fuel => rfl
  | takeLock l => exact File.table_takeLock l f
  | unlock => rfl

theorem insert_table_of_some {f : File} {o : Operation σ} {r : Record}
    (h : o.stored? (o.perform f).1 = some r) :
    f.table.insert (.ofRecord r) = .ok (o.perform f).2.table := by
  cases o with
  | insert a r' =>
      cases hresult : (f.insert a r').1 with
      | error e =>
          simp only [perform, hresult, stored?] at h
          cases h
      | ok _ =>
          simp only [perform, hresult, stored?] at h
          cases h
          exact File.insert_table_of_ok hresult
  | _ => cases h

/-- One operation lets the table grow by what it stored. -/
theorem grown_perform (f : File) (o : Operation σ) :
    Table.Grown (o.stored? (o.perform f).1).toList f.table (o.perform f).2.table := by
  cases hstored : o.stored? (o.perform f).1 with
  | none =>
      rw [table_perform_of_none hstored]
      exact .refl f.table
  | some r => exact .of_insert (insert_table_of_some hstored)

end Operation

namespace File

variable {σ : Type} {f g : File}

/-- Performs the operations one after the other; each with its reply, and the file in the end. -/
def perform (f : File) : List (Operation σ) → List (Operation σ × Reply) × File
  | [] => ([], f)
  | o :: rest =>
    let (reply, f) := o.perform f
    let (later, f) := f.perform rest
    ((o, reply) :: later, f)

/-- The records that were stored, in the order of the inserts. -/
def stored (f : File) (os : List (Operation σ)) : List Record :=
  (f.perform os).1.filterMap fun p => p.1.stored? p.2

theorem stored_cons (f : File) (o : Operation σ) (os : List (Operation σ)) :
    f.stored (o :: os) =
      (o.stored? (o.perform f).1).toList ++ (o.perform f).2.stored os := by
  simp only [stored, perform, List.filterMap_cons]
  cases o.stored? (o.perform f).1 <;> rfl

theorem grown_perform (f : File) (os : List (Operation σ)) :
    Table.Grown (f.stored os) f.table (f.perform os).2.table := by
  induction os generalizing f with
  | nil => exact .refl f.table
  | cons o rest ih =>
      rw [stored_cons]
      exact (o.grown_perform f).trans (ih _)

/-! ### Queries around an `init` -/

theorem answer_provide (t : Table) (now : Clock) (q : Query) :
    (provide (some t)).answer now q = t.answer now q := by
  cases q <;> rfl

/-- A query that was answered is answered alike by any file with the same table that it can read. -/
theorem query_eq_of_table {a : Access} {p : RetryPolicy} {q : Query} {now : Clock}
    {answer : List Record} (hquery : (f.query a p q now).outcome = .ok answer)
    (hg : ∃ t, g.content = .database (some t)) (htable : g.table = f.table)
    (hlock : g.lock ≠ some .exclusive) : g.query a p q now = f.query a p q now := by
  obtain ⟨t, ht, hanswer⟩ := query_eq_ok_iff.mp hquery
  obtain ⟨u, hu⟩ := hg
  rw [table_of_content hu, table_of_content ht.content] at htable
  have hattempt : g.attempt a q now = .ok answer := by
    rw [attempt_of_content hu, if_neg (Nat.not_lt.mpr ht.timeout), if_neg hlock,
      ← answer_provide, htable, answer_provide, hanswer]
  rw [outcome_query] at hquery
  rw [query_of_attempt hattempt, query_of_attempt hquery]

theorem query_holding_nil {a : Access} (hbusy : a.busyTimeoutMs ≤ maxBusyTimeoutMs)
    (p : RetryPolicy) (q : Query) (now : Clock) :
    (holding []).query a p q now = ⟨1, .ok [], []⟩ := by
  apply query_holding hbusy
  have hhistory : ∀ deviceId, (Table.holding []).history now deviceId = [] :=
    fun _ => List.mergeSort_nil
  cases q with
  | lastN deviceId count =>
      simp only [Table.answer, Table.selected, hhistory, List.take_nil]
      rfl
  | range deviceId first last =>
      simp only [Table.answer, Table.selected, hhistory, List.filter_nil]
      rfl

/-! ### The whole -/

/-- What operations that stored the records have made of a file. -/
structure RowsKept (σ : Type) (f : File) (records : List Record) (g : File) : Prop where
  /-- There is one more row for each record, in that order, behind the rows that were there. -/
  grown : Table.Grown records f.table g.table
  /-- Whatever is done next changes no row, unless it stores a record. -/
  unchanged : ∀ o : Operation σ, o.stored? (o.perform g).1 = none →
    (o.perform g).2.table.rows = g.table.rows
  /-- A query that succeeds now comes to the same after an `init`, which may succeed or fail, and
  whatever locks are held by then but an exclusive one, if no row is dated by the present or the
  clock shows the same second again. -/
  query_init : ∀ a b p q answer now now' lock lock', (g.query b p q now).outcome = .ok answer →
    g.Steady now now' → lock' ≠ some .exclusive →
    File.query b p q now' { (File.init a { g with lock := lock }).2 with lock := lock' } =
      g.query b p q now
  /-- A table that was just created is empty to every query. -/
  query_created : ∀ a h, g.created.content = .database none → g.init a = (.ok (), h) →
    ∀ b p q now, b.busyTimeoutMs ≤ maxBusyTimeoutMs → h.query b p q now = ⟨1, .ok [], []⟩

/-- **Rows change only through inserts that succeed**, in whatever order the operations come,
from whatever file, and whichever locks are taken between them. -/
theorem rowsKept (f : File) (os : List (Operation σ)) :
    RowsKept σ f (f.stored os) (f.perform os).2 := by
  generalize hg : (f.perform os).2 = g
  refine ⟨hg ▸ grown_perform f os, ?_, ?_, ?_⟩
  · intro o ho
    rw [Operation.table_perform_of_none ho]
  · intro a b p q answer now now' lock lock' hquery hsteady hlock
    rw [query_of_steady hsteady] at hquery ⊢
    obtain ⟨t, ht, -⟩ := query_eq_ok_iff.mp hquery
    have hinit := table_init a { g with lock := lock }
    have hcontent := content_init (f := { g with lock := lock }) a ht.content
    exact query_eq_of_table hquery hcontent hinit hlock
  · intro a h hfresh hinit b p q now hbusy
    obtain ⟨-, rfl⟩ := eq_holding_of_init hfresh hinit
    exact query_holding_nil hbusy p q now

/-- A table of the ingestion side from which the last rows were deleted.  One of three inserts and
one of two `init`s meet a lock.  The same operations on a missing file create a table, which is
empty before anything is inserted; what is found in it then is found after a further `init` that
meets a lock, and while another connection is about to write. -/
theorem rowsKept_ingestion :
    let row (id : Int) : Row :=
      ⟨id, .text "7", .integer 20, .integer 50, .integer 2, .text "2024-05-01 09:00:00"⟩
    let f : File := ⟨.database (some ⟨.ingestion, [row 1, row 4], .sequence 6, false⟩), none⟩
    let a : Access := ⟨"farm.db", 100⟩
    let p : RetryPolicy := ⟨3, 100⟩
    let now : Clock := ⟨1714557600000⟩
    let later : Clock := ⟨1714557605000⟩
    let plan : Frame.FaultPlan := ⟨some 5, none, none, false, true, .writeZero⟩
    let first : Record := ⟨7, ⟨⟨0x41a00000⟩, ⟨0x7fc00000⟩, ⟨0x3fc00000⟩⟩, 1714557600⟩
    let second : Record := ⟨8, ⟨⟨0x41a00000⟩, ⟨0x42480000⟩, ⟨0x3fc00000⟩⟩, 300⟩
    let os : List (Operation Frame.FaultRecord) :=
      [.insert a first, .takeLock .shared, .insert a second, .init a,
        .serve ⟨7, .static 30⟩ [1] a p now "0" plan.sink plan.fresh 9, .unlock, .init a,
        .insert a second, .query a p (.lastN 7 30) now]
    RowsKept Frame.FaultRecord f [first, second] (f.perform os).2 ∧
      (f.perform os).2.table.used = [1, 4, 7, 8] ∧
      RowsKept Frame.FaultRecord .absent [second] (absent.perform os).2 ∧
      (∃ g, absent.init a = (.ok (), g) ∧ g.query a p (.lastN 8 30) now = ⟨1, .ok [], []⟩) ∧
      (absent.perform os).2 = holding [second] ∧
      (File.query a p (.lastN 8 30) later
        { (File.init a { holding [second] with lock := some .exclusive }).2 with
          lock := some .reserved }).outcome = .ok [second] := by
  intro row f a p now later plan first second os
  have hstored : f.stored os = [first, second] := by decide +kernel
  have hstored' : absent.stored os = [second] := by decide +kernel
  have hempty : RowsKept Frame.FaultRecord absent (absent.stored []) absent := rowsKept absent []
  have hfilled : (absent.perform os).2 = holding [second] := by decide +kernel
  have hkept : RowsKept Frame.FaultRecord absent [second] (holding [second]) := by
    rw [← hfilled, ← hstored']
    exact rowsKept absent os
  have hreadable : (holding [second]).Readable a (.holding [second]) := ⟨rfl, by decide, by decide⟩
  have hquery : ((holding [second]).query a p (.lastN 8 30) now).outcome = .ok [second] :=
    hreadable.query_singleton rfl (r := second) (by decide +kernel) (by decide) p
  have hsteady : (holding [second]).Steady now later := by
    rintro t ⟨rfl⟩
    exact .inr (by decide)
  refine ⟨hstored ▸ rowsKept f os, by decide +kernel, hfilled ▸ hkept, ⟨_, rfl, ?_⟩, hfilled, ?_⟩
  · exact hempty.query_created a _ rfl rfl a p _ now (by decide)
  · rw [hkept.query_init a a p _ _ now later (some .exclusive) (some .reserved) hquery hsteady
      (by decide)]
    exact hquery

/-- A row has the greatest number of all, so the next one has a smaller number.  The row is dated
by the present, and so a query is answered otherwise when an `init` took a second, and not at all
when another connection locked the file meanwhile. -/
theorem orderNotKept :
    let row : Row := ⟨maxInt64, .integer 1, .integer 20, .integer 50, .integer 2, .text "now"⟩
    let f : File := ⟨.database (some ⟨.untyped, [row], .vacancy [4], true⟩), none⟩
    let a : Access := ⟨"farm.db", 100⟩
    let p : RetryPolicy := ⟨3, 100⟩
    let record (timestamp : Int) : Record :=
      ⟨1, ⟨⟨0x41a00000⟩, ⟨0x42480000⟩, ⟨0x40000000⟩⟩, timestamp⟩
    (f.insert a (record 100)).1 = .ok () ∧
      (f.insert a (record 100)).2.table.used = [maxInt64, 5] ∧
      (f.query a p (.lastN 1 9) ⟨0⟩).outcome = .ok [record 0] ∧
      f.init a = (.ok (), f) ∧
      (f.query a p (.lastN 1 9) ⟨1000⟩).outcome = .ok [record 1] ∧
      (File.query a p (.lastN 1 9) ⟨0⟩ { f with lock := some .exclusive }).outcome =
        .error .locked := by
  intro row f a p record
  have hreadable : f.Readable a ⟨.untyped, [row], .vacancy [4], true⟩ := ⟨rfl, nofun, by decide⟩
  refine ⟨by decide +kernel, by decide +kernel, ?_, by decide +kernel, ?_, ?_⟩
  · exact hreadable.query_singleton rfl (r := record 0) (by decide +kernel) (by decide) p
  · exact hreadable.query_singleton rfl (r := record 1) (by decide +kernel) (by decide) p
  · rw [outcome_query]
    rfl

end File
end Store
end TelemetryExport
