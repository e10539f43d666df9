import TelemetryExport.Proofs.Store.Instant
import TelemetryExport.Proofs.Store.Selection

/-! # Observations and their two forms

The two kinds of writers store one `Observation` in two ways: a device id as an integer or as its
text, a moment as seconds or as its text, each on its own (`Row.Tells`).  A query sees no
difference (`Row.normalise_of_tells`), and none of them is read off the clock, so what it comes to
is a matter of the observations alone: `Observation.chronicle` selects them in the order of the
calendar, with no seconds and no texts, and `File.query_eq_of_tells` says that all files that tell
the same observations have the same answers at any time, read from that chronicle. -/

namespace TelemetryExport
namespace Store

open Calendar (Moment)

/-- What a writer has to tell.  A measurement is whatever it stored as one. -/
structure Observation where
  id : Int
  deviceId : Int
  temperature : Cell
  humidity : Cell
  waterLevel : Cell
  moment : Moment
  minInt64_le : minInt64 ≤ deviceId := by decide
  le_maxInt64 : deviceId ≤ maxInt64 := by decide

namespace Observation

/-- The order of the calendar, later ones first, and at one moment that of the numbers. -/
def later (a b : Observation) : Bool :=
  b.moment.fields < a.moment.fields || (a.moment = b.moment && b.id ≤ a.id)

def during (first last : Int) (o : Observation) : Bool :=
  first ≤ o.moment.seconds && o.moment.seconds ≤ last

/-- The observations of a device, the latest first. -/
def history (os : List Observation) (deviceId : Int) : List Observation :=
  (os.filter (·.deviceId == deviceId)).mergeSort later

/-- The observations that an answer is read from. -/
def chronicle (os : List Observation) : Query → List Observation
  | .lastN deviceId count => (history os deviceId).take (min count Table.maxCount)
  | .range deviceId first last => (history os deviceId).filter (during first last)

/-- The observation as the queries see it. -/
def sample (o : Observation) : Sample where
  id := o.id
  deviceId := some o.deviceId
  temperature := o.temperature
  humidity := o.humidity
  waterLevel := o.waterLevel
  timestamp := some o.moment.seconds

end Observation

/-! ### Rows and tables -/

/-- The row holds the observation, the device and the moment in either form. -/
structure Row.Tells (row : Row) (o : Observation) : Prop where
  id : row.id = o.id
  deviceId : row.cells.deviceId = .integer o.deviceId ∨
    row.cells.deviceId = .text (toString o.deviceId)
  temperature : row.cells.temperature = o.temperature
  humidity : row.cells.humidity = o.humidity
  waterLevel : row.cells.waterLevel = o.waterLevel
  timestamp : row.cells.timestamp = .integer o.moment.seconds ∨
    row.cells.timestamp = .text o.moment.text

theorem toInteger?_of_tells {row : Row} {o : Observation} (h : row.Tells o) :
    row.cells.deviceId.toInteger? = some o.deviceId := by
  rcases h.deviceId with hinteger | htext
  · rw [hinteger]
    rfl
  · rw [htext]
    exact congrArg some (leadingInteger_toString o.minInt64_le o.le_maxInt64)

theorem normalTime?_of_tells {row : Row} {o : Observation} (h : row.Tells o) (now : Clock) :
    normalTime? now row.cells.timestamp = some o.moment.seconds := by
  rcases h.timestamp with hinteger | htext
  · rw [hinteger]
    rfl
  · rw [htext]
    simp [normalTime?, instant?_text]

theorem Row.normalise_of_tells {row : Row} {o : Observation} (h : row.Tells o) (now : Clock) :
    row.normalise now = o.sample := by
  simp only [Row.normalise, Observation.sample, toInteger?_of_tells h, normalTime?_of_tells h now,
    h.id, h.temperature, h.humidity, h.waterLevel]

theorem map_normalise_of_tells {rows : List Row} {os : List Observation}
    (h : List.Forall₂ Row.Tells rows os) (now : Clock) :
    rows.map (Row.normalise now) = os.map Observation.sample := by
  induction h with
  | nil => rfl
  | cons hrow _ ih => rw [List.map_cons, List.map_cons, Row.normalise_of_tells hrow, ih]

/-! ### The order of an answer -/

theorem later_eq_newer (a b : Observation) : a.later b = a.sample.newer b.sample := by
  show _ = if a.moment.seconds = b.moment.seconds then decide (b.id ≤ a.id)
    else decide (b.moment.seconds < a.moment.seconds)
  simp only [Observation.later, ← Moment.seconds_lt_iff, ← Moment.seconds_inj]
  split_ifs with h
  · simp [h]
  · simp [h]

theorem history_of_tells {t : Table} {os : List Observation}
    (h : List.Forall₂ Row.Tells t.rows os) (now : Clock) (deviceId : Int) :
    t.history now deviceId = (Observation.history os deviceId).map Observation.sample := by
  unfold Table.history Observation.history
  rw [map_normalise_of_tells h, List.filter_map,
    List.map_mergeSort fun a _ b _ => later_eq_newer a b]
  rfl

theorem selected_of_tells {t : Table} {os : List Observation}
    (h : List.Forall₂ Row.Tells t.rows os) (now : Clock) (q : Query) :
    t.selected now q = (Observation.chronicle os q).map Observation.sample := by
  cases q with
  | lastN deviceId count =>
      dsimp only [Table.selected, Observation.chronicle]
      rw [history_of_tells h, List.map_take]
  | range deviceId first last =>
      dsimp only [Table.selected, Observation.chronicle]
      rw [history_of_tells h, List.filter_map]
      rfl

theorem answer_of_tells {t : Table} {os : List Observation}
    (h : List.Forall₂ Row.Tells t.rows os) (now : Clock) (q : Query) :
    t.answer now q =
      (Observation.chronicle os q).mapM fun o => o.sample.toRecord q.deviceId := by
  unfold Table.answer
  rw [selected_of_tells h, List.mapM_map]
  rfl

/-! ### Files -/

/-- The file holds a table whose rows tell the observations. -/
def File.Tells (f : File) (os : List Observation) : Prop :=
  ∃ t, f.content = .database (some t) ∧ List.Forall₂ Row.Tells t.rows os

namespace File

variable {f g : File} {os : List Observation}

/-- Asking a table needs no more than that its file can be read. -/
theorem attempt_of_content {t : Table} (h : f.content = .database (some t)) (a : Access)
    (q : Query) (now : Clock) : f.attempt a q now =
      if maxBusyTimeoutMs < a.busyTimeoutMs then .error .timeoutTooLarge
      else if f.lock = some .exclusive then .error .locked
      else t.answer now q := by
  have hexists : ¬ (f.content = .unreachable ∨ f.content = .missing) := by simp [h]
  unfold attempt read look
  rw [if_neg hexists, h]
  split_ifs <;> rfl

theorem attempt_eq_of_tells (hf : f.Tells os) (hg : g.Tells os) (hlock : f.lock = g.lock)
    {a b : Access} (hbusy : a.busyTimeoutMs = b.busyTimeoutMs) (q : Query) (now now' : Clock) :
    f.attempt a q now = g.attempt b q now' := by
  obtain ⟨t, ht, hrows⟩ := hf
  obtain ⟨u, hu, hrows'⟩ := hg
  rw [attempt_of_content ht, attempt_of_content hu, answer_of_tells hrows, answer_of_tells hrows',
    hlock, hbusy]

theorem attempt_of_tells (hf : f.Tells os) {a : Access} (hlock : f.lock ≠ some .exclusive)
    (hbusy : a.busyTimeoutMs ≤ maxBusyTimeoutMs) (q : Query) (now : Clock) :
    f.attempt a q now =
      (Observation.chronicle os q).mapM fun o => o.sample.toRecord q.deviceId := by
  obtain ⟨t, ht, hrows⟩ := hf
  rw [attempt_of_content ht, if_neg (Nat.not_lt.mpr hbusy), if_neg hlock, answer_of_tells hrows]

/-- **The two forms are interchangeable.**  Files that tell the same observations answer every
query alike, whenever it is asked, and from the chronicle of these observations: in the order of
the calendar, cut to the count or to the span. -/
theorem query_eq_of_tells (hf : f.Tells os) (hg : g.Tells os) (hlock : f.lock = g.lock)
    {a b : Access} (hbusy : a.busyTimeoutMs = b.busyTimeoutMs) (p : RetryPolicy) (q : Query)
    (now now' : Clock) :
    f.query a p q now = g.query b p q now' ∧
      (f.lock ≠ some .exclusive → a.busyTimeoutMs ≤ maxBusyTimeoutMs →
        (f.query a p q now).outcome =
          (Observation.chronicle os q).mapM fun o => o.sample.toRecord q.deviceId) := by
  constructor
  · unfold query
    rw [attempt_eq_of_tells hf hg hlock hbusy q now now']
  · intro hopen hlimit
    rw [outcome_query, attempt_of_tells hf hopen hlimit]

/-- The second before the epoch and the last one of a leap day, of one device, and the first one of
the year 0, of another: once all numbers, once mostly texts. -/
theorem query_eq_of_tells_leapDay :
    let eve : Moment := ⟨1969, 12, 31, 23, 59, 59, by decide, by decide, by decide, by decide,
      by decide, by decide, by decide, by decide⟩
    let leapDay : Moment := ⟨2000, 2, 29, 23, 59, 59, by decide, by decide, by decide, by decide,
      by decide, by decide, by decide, by decide⟩
    let first : Moment := ⟨0, 1, 1, 0, 0, 0, by decide, by decide, by decide, by decide,
      by decide, by decide, by decide, by decide⟩
    let os : List Observation :=
      [⟨1, -7, .integer 20, .integer 50, .integer 2, eve, by decide, by decide⟩,
        ⟨2, -7, .integer 21, .integer 50, .integer 2, leapDay, by decide, by decide⟩,
        ⟨3, 8, .integer 22, .integer 50, .integer 2, first, by decide, by decide⟩]
    let row (id : Int) (deviceId : Cell) (temperature : Int) (timestamp : Cell) : Row :=
      ⟨id, deviceId, .integer temperature, .integer 50, .integer 2, timestamp⟩
    let f : File := ⟨.database (some ⟨.untyped, [row 1 (.integer (-7)) 20 (.integer (-1)),
      row 2 (.integer (-7)) 21 (.integer 951868799),
      row 3 (.integer 8) 22 (.integer (-62167219200))], .sequence 3, true⟩), none⟩
    let g : File := ⟨.database (some ⟨.untyped, [row 1 (.text "-7") 20 (.text "1969-12-31 23:59:59"),
      row 2 (.integer (-7)) 21 (.text "2000-02-29 23:59:59"),
      row 3 (.text "8") 22 (.text "0000-01-01 00:00:00")], .vacancy [], false⟩), none⟩
    let a : Access := ⟨"numbers.db", 100⟩
    let b : Access := ⟨"texts.db", 100⟩
    let p : RetryPolicy := ⟨3, 100⟩
    let reading (temperature : UInt32) : Reading := ⟨⟨temperature⟩, ⟨0x42480000⟩, ⟨0x40000000⟩⟩
    f.Tells os ∧ g.Tells os ∧ f.lock = g.lock ∧ a.busyTimeoutMs = b.busyTimeoutMs ∧
      (f.query a p (.lastN (-7) 9) ⟨0⟩).outcome =
        .ok [⟨-7, reading 0x41a80000, 951868799⟩, ⟨-7, reading 0x41a00000, -1⟩] ∧
      (g.query b p (.lastN (-7) 9) ⟨1000⟩).outcome =
        .ok [⟨-7, reading 0x41a80000, 951868799⟩, ⟨-7, reading 0x41a00000, -1⟩] := by
  intro eve leapDay first os row f g a b p reading
  have heve : eve.seconds = -1 := by
    rw [Moment.seconds_eq]
    decide
  have hleapDay : leapDay.seconds = 951868799 := by
    rw [Moment.seconds_eq]
    decide
  have hfirst : first.seconds = -62167219200 := by
    rw [Moment.seconds_eq]
    decide
  have hf : f.Tells os := by
    refine ⟨_, rfl, .cons ?_ (.cons ?_ (.cons ?_ .nil))⟩
    · exact ⟨rfl, .inl rfl, rfl, rfl, rfl, .inl (congrArg Cell.integer heve.symm)⟩
    · exact ⟨rfl, .inl rfl, rfl, rfl, rfl, .inl (congrArg Cell.integer hleapDay.symm)⟩
    · exact ⟨rfl, .inl rfl, rfl, rfl, rfl, .inl (congrArg Cell.integer hfirst.symm)⟩
  have hg : g.Tells os := by
    refine ⟨_, rfl, .cons ?_ (.cons ?_ (.cons ?_ .nil))⟩
    · exact ⟨rfl, .inr (by decide), rfl, rfl, rfl, .inr (by decide)⟩
    · exact ⟨rfl, .inl rfl, rfl, rfl, rfl, .inr (by decide)⟩
    · exact ⟨rfl, .inr (by decide), rfl, rfl, rfl, .inr (by decide)⟩
  have hanswer : (f.query a p (.lastN (-7) 9) ⟨0⟩).outcome =
      .ok [⟨-7, reading 0x41a80000, 951868799⟩, ⟨-7, reading 0x41a00000, -1⟩] := by
    have hkeyed : f.Keyed := by
      rintro t ⟨rfl⟩
      exact ⟨by decide, by decide⟩
    refine query_eq_ok_iff.mpr ⟨_, ⟨rfl, nofun, by decide⟩, ?_⟩
    refine (hkeyed _ rfl).answer_lastN_iff_newest.mpr
      ⟨[row 2 (.integer (-7)) 21 (.integer 951868799), row 1 (.integer (-7)) 20 (.integer (-1))],
        ⟨by decide +kernel, by decide +kernel⟩, ?_⟩
    decide +kernel
  have hquery := (query_eq_of_tells hf hg rfl rfl (a := a) (b := b) p (.lastN (-7) 9) ⟨0⟩ ⟨1000⟩).1
  exact ⟨hf, hg, rfl, rfl, hanswer, hquery ▸ hanswer⟩

end File
end Store
end TelemetryExport
