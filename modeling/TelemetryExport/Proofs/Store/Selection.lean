import Mathlib.Data.Int.ConditionallyCompleteOrder
import Mathlib.Data.List.Sort
import Mathlib.Data.Prod.Lex
import Mathlib.Order.ConditionallyCompleteLattice.Basic
import TelemetryExport.Proofs.Store.Instant
import TelemetryExport.Proofs.Store.Numbering
import TelemetryExport.Store.Retry

/-! # What a query selects

`Listing` says, of the rows of a table, which are those of a device and in which order an answer
has them: by descending `Row.key`, a pair of the row's time and its number.  There is one such
list (`Listing.unique`), and it is the one that a query cuts its answer from
(`listing_listed`, `history_eq`).  `Row.ReadsAs` says what is read of a row.

`Newest` puts these together, and `File.answersNewest` is the query on a file: it succeeds with
just those records.  All of it is said for what the clock shows when the query reads it, because a
text may stand for the present; within one second, and without such texts at any time, a file is
`Steady`, and a query on it comes to the same (`File.query_of_steady`). -/

namespace TelemetryExport
namespace Store

/-! ### The order of an answer -/

/-- The time at which a row stands.  A text counts as the epoch if it is no instant, and null
stands before all times. -/
def Row.time (now : Clock) (r : Row) : WithBot ℤ :=
  match r.cells.timestamp with
  | .null => ⊥
  | .integer i => (i : ℤ)
  | .real x => x.saturated
  | .text s =>
    match instant? now s with
    | some t => t
    | none => (0 : ℤ)
  | .blob bytes => leadingInteger (Cell.blobText bytes)

/-- By time, and at one time by number. -/
def Row.key (now : Clock) (r : Row) : WithBot ℤ ×ₗ ℤ := toLex (r.time now, r.id)

def Row.isOf (deviceId : Int) (r : Row) : Bool := r.cells.deviceId.toInteger? == some deviceId

/-- The rows of a device, each of them once, in the order of an answer. -/
structure Listing (t : Table) (now : Clock) (deviceId : Int) (rows : List Row) : Prop where
  perm : rows.Perm (t.rows.filter (Row.isOf deviceId))
  descending : rows.Pairwise fun a b => b.key now < a.key now

theorem Listing.unique {t : Table} {now : Clock} {deviceId : Int} {rows rows' : List Row}
    (h : Listing t now deviceId rows) (h' : Listing t now deviceId rows') : rows = rows' :=
  List.Perm.eq_of_pairwise (fun _ _ _ _ hab hba => absurd hba (lt_asymm hab)) h.descending
    h'.descending (h.perm.trans h'.perm.symm)

theorem Row.time_eq_coe_iff {now : Clock} {r : Row} {t : ℤ} :
    r.time now = (t : WithBot ℤ) ↔ (r.normalise now).timestamp = some t := by
  unfold Row.time Row.normalise normalTime?
  cases r.cells.timestamp with
  | text s =>
      dsimp only
      cases instant? now s with
      | none => exact WithBot.coe_eq_coe.trans Option.some_inj.symm
      | some i => exact WithBot.coe_eq_coe.trans Option.some_inj.symm
  | _ => simp [Cell.toInteger?]

theorem Row.time_eq_bot_iff {now : Clock} {r : Row} :
    r.time now = ⊥ ↔ (r.normalise now).timestamp = none := by
  unfold Row.time Row.normalise normalTime?
  cases r.cells.timestamp with
  | text s => cases h : instant? now s <;> simp [h]
  | _ => simp [Cell.toInteger?]

/-- The order by which answers are sorted is that of the keys. -/
theorem newer_normalise (now : Clock) (a b : Row) :
    (a.normalise now).newer (b.normalise now) = true ↔ b.key now ≤ a.key now := by
  unfold Row.key Sample.newer
  rw [Prod.Lex.toLex_le_toLex]
  cases ha : (a.normalise now).timestamp with
  | none =>
      rw [Row.time_eq_bot_iff.mpr ha]
      cases hb : (b.normalise now).timestamp with
      | none =>
          rw [Row.time_eq_bot_iff.mpr hb, decide_eq_true_iff]
          simp [Row.normalise]
      | some t =>
          rw [Row.time_eq_coe_iff.mpr hb]
          simp
  | some s =>
      rw [Row.time_eq_coe_iff.mpr ha]
      cases hb : (b.normalise now).timestamp with
      | none =>
          rw [Row.time_eq_bot_iff.mpr hb]
          simp
      | some t =>
          rw [Row.time_eq_coe_iff.mpr hb]
          dsimp only
          split_ifs with hst
          · rw [decide_eq_true_iff]
            simp [hst, Row.normalise]
          · rw [decide_eq_true_iff]
            simp [Ne.symm hst]

theorem Row.id_eq_of_key_eq {now : Clock} {a b : Row} (h : a.key now = b.key now) :
    a.id = b.id :=
  congrArg (fun k => (ofLex k).2) h

namespace Table

/-- The rows that the history of a device is made of. -/
def listed (t : Table) (now : Clock) (deviceId : Int) : List Row :=
  (t.rows.filter (Row.isOf deviceId)).mergeSort fun a b =>
    (a.normalise now).newer (b.normalise now)

theorem history_eq (t : Table) (now : Clock) (deviceId : Int) :
    t.history now deviceId = (t.listed now deviceId).map (Row.normalise now) := by
  have hsort : (t.listed now deviceId).map (Row.normalise now) =
      ((t.rows.filter (Row.isOf deviceId)).map (Row.normalise now)).mergeSort Sample.newer :=
    List.map_mergeSort fun a _ b _ => rfl
  rw [hsort, history, List.filter_map]
  rfl

theorem listed_perm (t : Table) (now : Clock) (deviceId : Int) :
    (t.listed now deviceId).Perm (t.rows.filter (Row.isOf deviceId)) :=
  List.mergeSort_perm _ _

theorem isOf_of_mem_listed {t : Table} {now : Clock} {deviceId : Int} {r : Row}
    (h : r ∈ t.listed now deviceId) : r.isOf deviceId = true :=
  (List.mem_filter.mp ((t.listed_perm now deviceId).mem_iff.mp h)).2

theorem Keyed.listing_listed {t : Table} (ht : t.Keyed) (now : Clock) (deviceId : Int) :
    Listing t now deviceId (t.listed now deviceId) := by
  refine ⟨t.listed_perm now deviceId, ?_⟩
  have hsorted : (t.listed now deviceId).Pairwise fun a b => b.key now ≤ a.key now := by
    refine (List.pairwise_mergeSort ?_ ?_ _).imp fun {a b} h => (newer_normalise now a b).mp h
    · intro a b c hab hbc
      rw [newer_normalise] at hab hbc ⊢
      exact hbc.trans hab
    · intro a b
      rw [Bool.or_eq_true, newer_normalise, newer_normalise]
      exact le_total _ _
  have hdistinct : (t.listed now deviceId).Pairwise fun a b => a.id ≠ b.id := by
    rw [← List.pairwise_map]
    refine ((t.listed_perm now deviceId).map _).nodup_iff.mpr ?_
    exact ht.nodup.sublist (List.filter_sublist.map _)
  exact hsorted.imp₂ (fun {a b} hle hne => lt_of_le_of_ne hle fun h =>
    hne (Row.id_eq_of_key_eq h).symm) hdistinct

theorem Keyed.length_listed_le {t : Table} (ht : t.Keyed) (now : Clock) (deviceId : Int) :
    (t.listed now deviceId).length ≤ maxCount := by
  rw [(t.listed_perm now deviceId).length_eq]
  exact (List.length_filter_le _ _).trans ht.length_le

end Table

/-! ### Reading rows -/

/-- The record is what is read of the row. -/
@[mk_iff]
structure Row.ReadsAs (now : Clock) (row : Row) (r : Record) : Prop where
  deviceId : row.cells.deviceId.toInteger? = some r.deviceId
  temperature : row.cells.temperature.toSingle = .ok r.reading.temperature
  humidity : row.cells.humidity.toSingle = .ok r.reading.humidity
  waterLevel : row.cells.waterLevel.toSingle = .ok r.reading.waterLevel
  timestamp : row.time now = (r.timestamp : ℤ)

instance (now : Clock) (row : Row) (r : Record) : Decidable (row.ReadsAs now r) :=
  decidable_of_iff' _ (row.readsAs_iff now r)

theorem bind_eq_ok_iff {ε α β : Type} {x : Except ε α} {f : α → Except ε β} {b : β} :
    (x >>= f) = .ok b ↔ ∃ a, x = .ok a ∧ f a = .ok b := by
  cases x with
  | error e => exact ⟨nofun, nofun⟩
  | ok a => exact ⟨fun h => ⟨a, rfl, h⟩, fun ⟨_, ha, hb⟩ => Except.ok.inj ha ▸ hb⟩

theorem measurement_eq_ok_iff {column : Column} {c : Cell} {x : Single} :
    Sample.measurement column c = .ok x ↔ c.toSingle = .ok x := by
  unfold Sample.measurement
  cases c.toSingle with
  | error e => exact ⟨nofun, nofun⟩
  | ok y => simp [Except.mapError]

theorem toRecord_normalise_eq_ok_iff {now : Clock} {row : Row} {deviceId : Int} {r : Record}
    (hrow : row.isOf deviceId = true) :
    (row.normalise now).toRecord deviceId = .ok r ↔ row.ReadsAs now r := by
  have hdevice : row.cells.deviceId.toInteger? = some deviceId := beq_iff_eq.mp hrow
  unfold Sample.toRecord
  simp only [bind_eq_ok_iff, measurement_eq_ok_iff]
  constructor
  · rintro ⟨t, ht, h, hh, w, hw, hr⟩
    cases hs : (row.normalise now).timestamp with
    | none =>
        rw [hs] at hr
        cases hr
    | some s =>
        rw [hs] at hr
        cases hr
        exact ⟨hdevice, ht, hh, hw, Row.time_eq_coe_iff.mpr hs⟩
  · rintro ⟨hd, ht, hh, hw, hs⟩
    refine ⟨_, ht, _, hh, _, hw, ?_⟩
    rw [Row.time_eq_coe_iff.mp hs]
    rw [hdevice] at hd
    cases hd
    rfl

theorem mapM_eq_ok_iff {ε α β : Type} {f : α → Except ε β} {l : List α} {bs : List β} :
    l.mapM f = .ok bs ↔ List.Forall₂ (fun a b => f a = .ok b) l bs := by
  induction l generalizing bs with
  | nil =>
      rw [List.forall₂_nil_left_iff]
      exact ⟨fun h => (Except.ok.inj h).symm, fun h => h ▸ rfl⟩
  | cons a rest ih =>
      rw [List.mapM_cons, bind_eq_ok_iff, List.forall₂_cons_left_iff]
      simp only [bind_eq_ok_iff, ih]
      constructor
      · rintro ⟨b, hb, bs', hbs', h⟩
        exact ⟨b, bs', hb, hbs', (Except.ok.inj h).symm⟩
      · rintro ⟨b, bs', hb, hbs', rfl⟩
        exact ⟨b, hb, bs', hbs', rfl⟩

/-- Rows of a device are all read, or none is. -/
theorem mapM_toRecord_eq_ok_iff {now : Clock} {deviceId : Int} {rows : List Row}
    {answer : List Record} (hrows : ∀ row ∈ rows, row.isOf deviceId = true) :
    (rows.map (Row.normalise now)).mapM (Sample.toRecord deviceId) = .ok answer ↔
      List.Forall₂ (Row.ReadsAs now) rows answer := by
  rw [List.mapM_map, mapM_eq_ok_iff]
  constructor
  · intro h
    exact (List.forall₂_and_left _ _ |>.mpr ⟨hrows, h⟩).imp fun row r ⟨hrow, hr⟩ =>
      (toRecord_normalise_eq_ok_iff hrow).mp hr
  · intro h
    exact (List.forall₂_and_left _ _ |>.mpr ⟨hrows, h⟩).imp fun row r ⟨hrow, hr⟩ =>
      (toRecord_normalise_eq_ok_iff hrow).mpr hr

/-! ### Answers -/

/-- The answer to a query for the newest `count` records of a device. -/
def Newest (t : Table) (now : Clock) (deviceId : Int) (count : Nat) (answer : List Record) :
    Prop :=
  ∃ rows, Listing t now deviceId rows ∧
    List.Forall₂ (Row.ReadsAs now) (rows.take (min count rows.length)) answer

theorem Newest.length_eq {t : Table} {now : Clock} {deviceId : Int} {count : Nat}
    {answer : List Record} (h : Newest t now deviceId count answer) :
    answer.length = min count (t.rows.countP (Row.isOf deviceId)) := by
  obtain ⟨rows, hrows, hread⟩ := h
  rw [← hread.length_eq, List.length_take, hrows.perm.length_eq, ← List.countP_eq_length_filter]
  omega

namespace Table

variable {t : Table} {now : Clock} {deviceId : Int} {count : Nat} {answer : List Record}

theorem answer_lastN_eq_ok_iff :
    t.answer now (.lastN deviceId count) = .ok answer ↔
      List.Forall₂ (Row.ReadsAs now) ((t.listed now deviceId).take (min count maxCount))
        answer := by
  unfold Table.answer selected
  dsimp only [Query.deviceId]
  rw [history_eq, ← List.map_take, mapM_toRecord_eq_ok_iff fun row hrow =>
    isOf_of_mem_listed (List.mem_of_mem_take hrow)]

/-- A table has no more rows than the largest limit, so that only the count cuts anything off. -/
theorem Keyed.take_listed (ht : t.Keyed) (now : Clock) (deviceId : Int) (count : Nat) :
    (t.listed now deviceId).take (min count maxCount) =
      (t.listed now deviceId).take (min count (t.listed now deviceId).length) := by
  have hlength := ht.length_listed_le now deviceId
  rw [List.take_eq_take_iff]
  omega

theorem Keyed.answer_lastN_iff_newest (ht : t.Keyed) :
    t.answer now (.lastN deviceId count) = .ok answer ↔ Newest t now deviceId count answer := by
  have hlisting := ht.listing_listed now deviceId
  rw [answer_lastN_eq_ok_iff, ht.take_listed]
  refine ⟨fun h => ⟨_, hlisting, h⟩, ?_⟩
  rintro ⟨rows, hrows, h⟩
  rwa [hrows.unique hlisting] at h

end Table

/-! ### Rows dated by the present -/

/-- The row is dated by the present. -/
def Row.readsClock (r : Row) : Bool :=
  match r.cells.timestamp with
  | .text s => Store.readsClock s
  | _ => false

theorem Row.normalise_eq {r : Row} {now now' : Clock}
    (h : now.SameSecond now' ∨ r.readsClock = false) : r.normalise now = r.normalise now' := by
  unfold Row.readsClock at h
  unfold Row.normalise normalTime?
  cases hc : r.cells.timestamp with
  | text s =>
      rw [hc] at h
      have hinstant : instant? now s = instant? now' s :=
        h.elim (instant?_of_sameSecond · s) (instant?_of_not_readsClock · now now')
      simp only [hinstant]
  | _ => rfl

/-- The clock shows the same second again, or no row is dated by it. -/
def Table.Steady (t : Table) (now now' : Clock) : Prop :=
  now.SameSecond now' ∨ ∀ r ∈ t.rows, r.readsClock = false

theorem Table.Steady.answer_eq {t : Table} {now now' : Clock} (h : t.Steady now now') (q : Query) :
    t.answer now q = t.answer now' q := by
  have hrows : t.rows.map (Row.normalise now) = t.rows.map (Row.normalise now') :=
    List.map_congr_left fun r hr => Row.normalise_eq (h.imp_right fun hnone => hnone r hr)
  have hhistory : ∀ deviceId, t.history now deviceId = t.history now' deviceId := by
    intro deviceId
    unfold history
    rw [hrows]
  cases q <;> simp only [answer, selected, hhistory]

/-! ### Queries on a file -/

/-- The file can be read, and holds the table. -/
structure File.Readable (f : File) (a : Access) (t : Table) : Prop where
  content : f.content = .database (some t)
  unlocked : f.lock ≠ some .exclusive
  timeout : a.busyTimeoutMs ≤ maxBusyTimeoutMs

theorem File.Readable.unique {f : File} {a : Access} {t t' : Table} (h : f.Readable a t)
    (h' : f.Readable a t') : t = t' := by
  have heq := h.content.symm.trans h'.content
  injection heq with heq
  exact Option.some.inj heq

/-- Attempts that all end alike end like each of them. -/
theorem RetryPolicy.outcome_runFrom {α : Type} (p : RetryPolicy) (outcome : Except Error α)
    (left k : Nat) : (p.runFrom (fun _ => outcome) left k).outcome = outcome := by
  induction left generalizing k with
  | zero => rfl
  | succ left ih =>
      unfold runFrom
      cases outcome with
      | ok answer => rfl
      | error e =>
          dsimp only
          split_ifs
          · exact ih (k + 1)
          · rfl

namespace File

variable {f : File} {a : Access}

theorem read_eq_ok_iff {t : Table} : f.read a = .ok t ↔ f.Readable a t := by
  obtain ⟨content, lock⟩ := f
  unfold read look
  constructor
  · intro h
    split_ifs at h with hexists htimeout hlock
    · cases h
    · cases content with
      | database table =>
          cases table with
          | none => cases h
          | some t' =>
              cases h
              exact ⟨rfl, hlock, Nat.not_lt.mp htimeout⟩
      | _ => cases h
  · rintro ⟨hcontent, hlock, htimeout⟩
    dsimp only at hcontent hlock
    subst hcontent
    rw [if_neg (by simp), if_neg (Nat.not_lt.mpr htimeout), if_neg hlock]
    rfl

/-- On a file that stays as it is, the query ends like every attempt at it. -/
theorem outcome_query (p : RetryPolicy) (q : Query) (now : Clock) :
    (f.query a p q now).outcome = f.attempt a q now :=
  p.outcome_runFrom _ _ _

theorem query_eq_ok_iff {p : RetryPolicy} {q : Query} {now : Clock} {answer : List Record} :
    (f.query a p q now).outcome = .ok answer ↔
      ∃ t, f.Readable a t ∧ t.answer now q = .ok answer := by
  rw [outcome_query, attempt, bind_eq_ok_iff]
  simp only [read_eq_ok_iff]

/-- A row that is alone in its table is what its device's queries are answered with. -/
theorem Readable.query_singleton {t : Table} {row : Row} {r : Record} {now : Clock} {count : Nat}
    (h : f.Readable a t) (hrows : t.rows = [row]) (hread : row.ReadsAs now r) (hcount : 0 < count)
    (p : RetryPolicy) : (f.query a p (.lastN r.deviceId count) now).outcome = .ok [r] := by
  have hkeyed : t.Keyed := by
    refine ⟨?_, ?_⟩
    · rw [hrows]
      exact List.nodup_singleton row.id
    · rw [hrows, List.length_singleton, Table.maxCount]
      omega
  have hof : row.isOf r.deviceId = true := beq_iff_eq.mpr hread.deviceId
  have hlisting : Listing t now r.deviceId [row] := by
    refine ⟨?_, List.pairwise_singleton _ row⟩
    rw [hrows, List.filter_cons_of_pos hof, List.filter_nil]
  refine query_eq_ok_iff.mpr ⟨t, h, hkeyed.answer_lastN_iff_newest.mpr ⟨[row], hlisting, ?_⟩⟩
  rw [List.take_of_length_le (le_min hcount le_rfl)]
  exact .cons hread .nil

/-! ### Another reading of the clock -/

/-- What the table in the file holds is the same at both readings of the clock. -/
def Steady (f : File) (now now' : Clock) : Prop :=
  ∀ t, f.content = .database (some t) → t.Steady now now'

theorem query_of_steady {now now' : Clock} (h : f.Steady now now') (p : RetryPolicy) (q : Query) :
    f.query a p q now = f.query a p q now' := by
  have hattempt : f.attempt a q now = f.attempt a q now' := by
    unfold attempt
    cases hread : f.read a with
    | error e => rfl
    | ok t => exact (h t (read_eq_ok_iff.mp hread).content).answer_eq q
  unfold query
  rw [hattempt]

/-! ### The whole -/

/-- What a query for the newest `count` records of a device comes to when the clock shows `now`. -/
structure AnswersNewest (f : File) (a : Access) (p : RetryPolicy) (now : Clock) (deviceId : Int)
    (count : Nat) : Prop where
  /-- It succeeds with the records that are to be read of the rows selected, and with no others. -/
  eq_ok_iff : ∀ answer, (f.query a p (.lastN deviceId count) now).outcome = .ok answer ↔
    ∃ t, f.Readable a t ∧ Newest t now deviceId count answer
  /-- As many rows are selected as there are, up to the count. -/
  length_eq : ∀ answer t, f.Readable a t →
    (f.query a p (.lastN deviceId count) now).outcome = .ok answer →
      answer.length = min count (t.rows.countP (Row.isOf deviceId))
  /-- However large the count is, the limit that is asked for is a signed 64-bit integer. -/
  limit_le : ((min count Table.maxCount : Nat) : Int) ≤ maxInt64

/-- **A query for the newest records** selects, orders and cuts as `Newest` says, whatever the
cells of the table hold and whatever the clock shows. -/
theorem answersNewest (hf : f.Keyed) (p : RetryPolicy) (now : Clock) (deviceId : Int)
    (count : Nat) : AnswersNewest f a p now deviceId count := by
  have hiff : ∀ answer, (f.query a p (.lastN deviceId count) now).outcome = .ok answer ↔
      ∃ t, f.Readable a t ∧ Newest t now deviceId count answer := by
    intro answer
    rw [query_eq_ok_iff]
    exact exists_congr fun t => and_congr_right fun ht =>
      (hf t ht.content).answer_lastN_iff_newest
  refine ⟨hiff, fun answer t ht h => ?_, ?_⟩
  · obtain ⟨t', ht', hnewest⟩ := (hiff answer).mp h
    obtain rfl := ht.unique ht'
    exact hnewest.length_eq
  · have hmin := Nat.min_le_right count Table.maxCount
    simp only [Table.maxCount, maxInt64] at hmin ⊢
    omega

/-- Rows of two kinds of writers: two rows of one time, one that stands for the present, a text that
is no instant, a row of another device, and a row without a time and with an unreadable measurement,
which the count leaves out.  The present, in a row whose number is below zero, comes after the two
rows of one time in 1999 and before them in 2033. -/
theorem answersNewest_mixed :
    let cells (deviceId : String) (temperature timestamp : Cell) : Cells :=
      ⟨.text deviceId, temperature, .integer 50, .real ⟨0x3ff8000000000000⟩, timestamp⟩
    let early : Row := ⟨1, cells "1" (.integer 20) (.text "2024-05-01 10:00:00")⟩
    let soon : Row := ⟨2, cells " 01 " (.integer 21) (.text "soon")⟩
    let foreign : Row := ⟨3, cells "2" (.integer 22) .null⟩
    let late : Row := ⟨4, cells "1" (.integer 23) (.integer 1714557600)⟩
    let broken : Row := ⟨5, cells "1" (.blob []) .null⟩
    let present : Row := ⟨-6, cells "1" (.integer 24) (.text "NOW")⟩
    let t : Table := ⟨.ingestion, [early, soon, foreign, late, broken, present], .sequence 5, true⟩
    let f : File := ⟨.database (some t), none⟩
    let a : Access := ⟨"farm.db", 100⟩
    let p : RetryPolicy := ⟨3, 100⟩
    let reading (temperature : UInt32) : Reading := ⟨⟨temperature⟩, ⟨0x42480000⟩, ⟨0x3fc00000⟩⟩
    f.Keyed ∧
      (f.query a p (.lastN 1 4) ⟨946684799999⟩).outcome =
        .ok [⟨1, reading 0x41b80000, 1714557600⟩, ⟨1, reading 0x41a00000, 1714557600⟩,
          ⟨1, reading 0x41c00000, 946684799⟩, ⟨1, reading 0x41a80000, 0⟩] ∧
      AnswersNewest f a p ⟨946684799999⟩ 1 4 ∧
      (f.query a p (.lastN 1 2) ⟨2000000000000⟩).outcome =
        .ok [⟨1, reading 0x41c00000, 2000000000⟩, ⟨1, reading 0x41b80000, 1714557600⟩] ∧
      AnswersNewest f a p ⟨2000000000000⟩ 1 2 := by
  intro cells early soon foreign late broken present t f a p reading
  have hkeyed : f.Keyed := by
    rintro t ⟨rfl⟩
    exact ⟨by decide, by decide⟩
  have hreadable : f.Readable a t := ⟨rfl, nofun, by decide⟩
  have hbefore := answersNewest (a := a) hkeyed p ⟨946684799999⟩ 1 4
  have hbehind := answersNewest (a := a) hkeyed p ⟨2000000000000⟩ 1 2
  refine ⟨hkeyed, (hbefore.eq_ok_iff _).mpr ⟨t, hreadable, [late, early, present, soon, broken],
    ⟨by decide +kernel, by decide +kernel⟩, by decide +kernel⟩, hbefore,
    (hbehind.eq_ok_iff _).mpr ⟨t, hreadable, [present, late, early, soon, broken],
      ⟨by decide +kernel, by decide +kernel⟩, by decide +kernel⟩, hbehind⟩

end File
end Store
end TelemetryExport
