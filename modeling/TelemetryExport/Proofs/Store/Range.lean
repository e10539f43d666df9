import TelemetryExport.Proofs.Store.Selection

/-! # Queries for a span of time

A query for a span of time and one for the newest records read the same rows in the same order,
so where the second can be answered in full, the first is answered with those of its records that
are within the span (`Table.Keyed.answer_range`).  As they stand in descending order of time, two
spans that follow on one another have the answers of the whole one after the other
(`filter_during_append`).  `File.rangesAgree` says so of two files with the same content, of which
the second can be read too, within one second of the clock or where no row is dated by the present;
`File.rangesDisagree` shows what comes of it otherwise. -/

namespace TelemetryExport

/-- The record was taken at `first` or `last` or between them. -/
def Record.during (first last : Int) (r : Record) : Bool :=
  first ≤ r.timestamp && r.timestamp ≤ last

theorem Record.during_iff {first last : Int} {r : Record} :
    r.during first last = true ↔ first ≤ r.timestamp ∧ r.timestamp ≤ last := by
  rw [during, Bool.and_eq_true, decide_eq_true_iff, decide_eq_true_iff]

namespace Store

/-! ### Spans of an ordered list -/

/-- Where nothing of the first kind stands behind something of the second, the list of both kinds
is the one kind and then the other. -/
theorem filter_or_eq_append {α : Type} {p q : α → Bool} {l : List α}
    (hdisjoint : ∀ a ∈ l, q a = true → p a = false)
    (horder : l.Pairwise fun a b => q a = true → p b = false) :
    l.filter (fun a => p a || q a) = l.filter p ++ l.filter q := by
  induction l with
  | nil => rfl
  | cons a rest ih =>
      rw [List.pairwise_cons] at horder
      have hrest := ih (fun b hb => hdisjoint b (List.mem_cons_of_mem a hb)) horder.2
      cases hq : q a with
      | false =>
          cases hp : p a with
          | false => simpa [hp, hq] using hrest
          | true => simpa [hp, hq] using hrest
      | true =>
          have hp : p a = false := hdisjoint a (List.mem_cons_self ..) hq
          have hnone : rest.filter p = [] :=
            List.filter_eq_nil_iff.mpr fun b hb => by simp [horder.1 b hb hq]
          rw [hnone, List.nil_append] at hrest
          simp [hp, hq, hnone, hrest]

theorem filter_during_append {records : List Record}
    (hdescending : records.Pairwise fun r s => s.timestamp ≤ r.timestamp)
    {first middle last : Int} (hfirst : first ≤ middle) (hlast : middle < last) :
    records.filter (Record.during first last) =
      records.filter (Record.during (middle + 1) last) ++
        records.filter (Record.during first middle) := by
  rw [← filter_or_eq_append]
  · refine List.filter_congr fun r _ => ?_
    rw [Bool.eq_iff_iff, Bool.or_eq_true]
    simp only [Record.during_iff]
    omega
  · intro r _ hr
    rw [Bool.eq_false_iff, Ne, Record.during_iff]
    rw [Record.during_iff] at hr
    omega
  · refine hdescending.imp fun {r s} hle hr => ?_
    rw [Bool.eq_false_iff, Ne, Record.during_iff]
    rw [Record.during_iff] at hr
    omega

/-! ### Both kinds of queries -/

/-- The largest count that a query can have. -/
def largestCount : Nat := 18446744073709551615

theorem Row.ReadsAs.within_iff {now : Clock} {row : Row} {r : Record} (h : row.ReadsAs now r)
    (first last : Int) :
    (row.normalise now).within first last = true ↔ r.during first last = true := by
  rw [Sample.within, Row.time_eq_coe_iff.mp h.timestamp, Record.during]

/-- What is read of a listing stands in descending order of time. -/
theorem Listing.descending_of_readsAs {t : Table} {now : Clock} {deviceId : Int}
    {rows : List Row} {records : List Record} (h : Listing t now deviceId rows)
    (hread : List.Forall₂ (Row.ReadsAs now) rows records) :
    records.Pairwise fun r s => s.timestamp ≤ r.timestamp := by
  have htimes : records.map (fun r => ((r.timestamp : ℤ) : WithBot ℤ)) =
      rows.map (Row.time now) := by
    have hflip : List.Forall₂ (fun (r : Record) (row : Row) =>
        ((r.timestamp : ℤ) : WithBot ℤ) = row.time now) records rows :=
      (hread.imp fun _ _ hr => hr.timestamp.symm).flip
    rwa [← List.forall₂_eq_eq_eq, List.forall₂_map_left_iff, List.forall₂_map_right_iff]
  have hrows : (rows.map (Row.time now)).Pairwise fun s t => t ≤ s := by
    rw [List.pairwise_map]
    refine h.descending.imp fun {a b} hlt => ?_
    exact Prod.Lex.monotone_fst _ _ hlt.le
  rw [← htimes, List.pairwise_map] at hrows
  exact hrows.imp fun hle => WithBot.coe_le_coe.mp hle

namespace Table

variable {t : Table} {now : Clock} {deviceId : Int} {count : Nat} {all : List Record}

/-- A count that is large enough cuts nothing off. -/
theorem Keyed.answer_lastN_iff_of_large (ht : t.Keyed) (hcount : maxCount ≤ count) :
    t.answer now (.lastN deviceId count) = .ok all ↔
      List.Forall₂ (Row.ReadsAs now) (t.listed now deviceId) all := by
  rw [answer_lastN_eq_ok_iff, min_eq_right hcount,
    List.take_of_length_le (ht.length_listed_le now deviceId)]

theorem answer_range_eq_ok_iff {first last : Int} {answer : List Record} :
    t.answer now (.range deviceId first last) = .ok answer ↔
      List.Forall₂ (Row.ReadsAs now)
        ((t.listed now deviceId).filter (Sample.within first last ∘ Row.normalise now))
        answer := by
  unfold Table.answer selected
  dsimp only [Query.deviceId]
  rw [history_eq, List.filter_map, mapM_toRecord_eq_ok_iff fun row hrow =>
    isOf_of_mem_listed (List.mem_of_mem_filter hrow)]

theorem Keyed.answer_range (ht : t.Keyed) (hcount : maxCount ≤ count)
    (h : t.answer now (.lastN deviceId count) = .ok all) (first last : Int) :
    t.answer now (.range deviceId first last) = .ok (all.filter (Record.during first last)) := by
  have hread := (ht.answer_lastN_iff_of_large hcount).mp h
  exact answer_range_eq_ok_iff.mpr
    (List.rel_filter (fun row r hr => hr.within_iff first last) hread)

end Table

/-! ### Spans of time of a file -/

namespace File

variable {f g : File} {a : Access} {p : RetryPolicy} {now now' : Clock} {deviceId : Int}
  {all : List Record}

/-- Queries for spans of time have their answers from the records `all` of the device. -/
structure RangesAgree (f : File) (a : Access) (p : RetryPolicy) (now : Clock) (deviceId : Int)
    (all : List Record) : Prop where
  /-- Every span is answered with the records within it, in their order and as often. -/
  eq_filter : ∀ first last, (f.query a p (.range deviceId first last) now).outcome =
    .ok (all.filter (Record.during first last))
  eq_nil : ∀ first last, last < first →
    (f.query a p (.range deviceId first last) now).outcome = .ok []
  /-- A span is answered like its later part and then its earlier one. -/
  append : ∀ first middle last, first ≤ middle → middle < last → ∃ later earlier,
    (f.query a p (.range deviceId (middle + 1) last) now).outcome = .ok later ∧
    (f.query a p (.range deviceId first middle) now).outcome = .ok earlier ∧
    (f.query a p (.range deviceId first last) now).outcome = .ok (later ++ earlier)

theorem outcome_query_range (hf : f.Keyed) {count : Nat} (hcount : Table.maxCount ≤ count)
    (h : (f.query a p (.lastN deviceId count) now).outcome = .ok all) (first last : Int) :
    (f.query a p (.range deviceId first last) now).outcome =
      .ok (all.filter (Record.during first last)) := by
  obtain ⟨t, ht, hanswer⟩ := query_eq_ok_iff.mp h
  exact query_eq_ok_iff.mpr
    ⟨t, ht, (hf t ht.content).answer_range hcount hanswer first last⟩

theorem descending_of_query (hf : f.Keyed) {count : Nat} (hcount : Table.maxCount ≤ count)
    (h : (f.query a p (.lastN deviceId count) now).outcome = .ok all) :
    all.Pairwise fun r s => s.timestamp ≤ r.timestamp := by
  obtain ⟨t, ht, hanswer⟩ := query_eq_ok_iff.mp h
  have hkeyed := hf t ht.content
  exact (hkeyed.listing_listed now deviceId).descending_of_readsAs
    ((hkeyed.answer_lastN_iff_of_large hcount).mp hanswer)

/-- What was answered once is answered again while the content is the same, unless a lock keeps
everybody out or the present has moved on. -/
theorem outcome_query_of_content {q : Query} (hcontent : g.content = f.content)
    (hlock : g.lock ≠ some .exclusive) (hsteady : f.Steady now now')
    (h : (f.query a p q now).outcome = .ok all) : (g.query a p q now').outcome = .ok all := by
  obtain ⟨t, ht, hanswer⟩ := query_eq_ok_iff.mp h
  rw [(hsteady t ht.content).answer_eq] at hanswer
  exact query_eq_ok_iff.mpr ⟨t, ⟨hcontent.trans ht.content, hlock, ht.timeout⟩, hanswer⟩

/-- **Queries for spans of time agree with the one for all records.**  Where the latter succeeds,
every span is answered, with just those of its records that are within the span, as long as the
content is the same and no exclusive lock is held, if the clock shows the same second again or no
row is dated by it. -/
theorem rangesAgree (hf : f.Keyed) (hcontent : g.content = f.content)
    (hlock : g.lock ≠ some .exclusive) (hsteady : f.Steady now now')
    (h : (f.query a p (.lastN deviceId largestCount) now).outcome = .ok all) :
    RangesAgree g a p now' deviceId all := by
  have hcount : Table.maxCount ≤ largestCount := by decide
  have hg : g.Keyed := fun t ht => hf t (hcontent ▸ ht)
  replace h := outcome_query_of_content hcontent hlock hsteady h
  have hfilter := outcome_query_range hg hcount h
  refine ⟨hfilter, fun first last hempty => ?_, fun first middle last hfirst hlast => ?_⟩
  · rw [hfilter, List.filter_eq_nil_iff.mpr]
    intro r _ hr
    rw [Record.during_iff] at hr
    omega
  · refine ⟨_, _, hfilter (middle + 1) last, hfilter first middle, ?_⟩
    rw [hfilter, filter_during_append (descending_of_query hg hcount h) hfirst hlast]

/-- Three rows of one time, given as a text, as a number and as the present, a text that is no
instant, and a row of another device.  Later in the same second, while another connection is about
to write, the span of that second has the three, and the span up to the epoch the one without an
instant. -/
theorem rangesAgree_ties :
    let cells (deviceId : Int) (temperature : Int) (timestamp : Cell) : Cells :=
      ⟨.integer deviceId, .integer temperature, .integer 50, .integer 2, timestamp⟩
    let rows : List Row := [⟨1, cells 1 20 (.text "2024-05-01 10:00:00")⟩,
      ⟨2, cells 1 21 (.text "soon")⟩, ⟨3, cells 2 22 (.integer 1714557600)⟩,
      ⟨4, cells 1 23 (.integer 1714557600)⟩, ⟨-5, cells 1 24 (.text "now")⟩]
    let f : File := ⟨.database (some ⟨.untyped, rows, .vacancy [], true⟩), none⟩
    let g : File := { f with lock := some .reserved }
    let a : Access := ⟨"farm.db", 100⟩
    let p : RetryPolicy := ⟨3, 100⟩
    let now : Clock := ⟨1714557600001⟩
    let later : Clock := ⟨1714557600999⟩
    let record (temperature : UInt32) (timestamp : Int) : Record :=
      ⟨1, ⟨⟨temperature⟩, ⟨0x42480000⟩, ⟨0x40000000⟩⟩, timestamp⟩
    let ties : List Record := [record 0x41b80000 1714557600, record 0x41a00000 1714557600,
      record 0x41c00000 1714557600]
    let all : List Record := ties ++ [record 0x41a80000 0]
    f.Keyed ∧ g.content = f.content ∧ g.lock ≠ some .exclusive ∧ f.Steady now later ∧
      (f.query a p (.lastN 1 largestCount) now).outcome = .ok all ∧
      (g.query a p (.range 1 1714557600 1714557600) later).outcome = .ok ties ∧
      (g.query a p (.range 1 (-5) 0) later).outcome = .ok [record 0x41a80000 0] ∧
      RangesAgree g a p later 1 all := by
  intro cells rows f g a p now later record ties all
  have hkeyed : f.Keyed := by
    rintro t ⟨rfl⟩
    exact ⟨by decide, by decide⟩
  have hsteady : f.Steady now later := fun _ _ =>
    .inl (Clock.sameSecond_of_div_eq (by decide) (by decide) (by decide))
  have hall : (f.query a p (.lastN 1 largestCount) now).outcome = .ok all := by
    refine query_eq_ok_iff.mpr ⟨⟨.untyped, rows, .vacancy [], true⟩, ⟨rfl, nofun, by decide⟩, ?_⟩
    refine (hkeyed _ rfl).answer_lastN_iff_newest.mpr
      ⟨[rows[3], rows[0], rows[4], rows[1]], ?_, ?_⟩
    · exact ⟨by decide +kernel, by decide +kernel⟩
    · decide +kernel
  have hlock : g.lock ≠ some .exclusive := nofun
  have hagree : RangesAgree g a p later 1 all := rangesAgree hkeyed rfl hlock hsteady hall
  exact ⟨hkeyed, rfl, hlock, hsteady, hall, hagree.eq_filter 1714557600 1714557600,
    hagree.eq_filter (-5) 0, hagree⟩

/-- A row that is dated by the present is found under the epoch when the clock shows the epoch.  A
second later the span of just that time is empty, and while the file is locked there is no answer
for it at all. -/
theorem rangesDisagree :
    let row : Row := ⟨1, .integer 1, .integer 20, .integer 50, .integer 2, .text "now"⟩
    let f : File := ⟨.database (some ⟨.untyped, [row], .sequence 1, true⟩), none⟩
    let a : Access := ⟨"farm.db", 100⟩
    let p : RetryPolicy := ⟨3, 100⟩
    let record (timestamp : Int) : Record :=
      ⟨1, ⟨⟨0x41a00000⟩, ⟨0x42480000⟩, ⟨0x40000000⟩⟩, timestamp⟩
    (f.query a p (.lastN 1 largestCount) ⟨0⟩).outcome = .ok [record 0] ∧
      [record 0].filter (Record.during 0 0) = [record 0] ∧
      (f.query a p (.range 1 0 0) ⟨1000⟩).outcome = .ok [] ∧
      (File.query a p (.range 1 0 0) ⟨0⟩ { f with lock := some .exclusive }).outcome =
        .error .locked := by
  intro row f a p record
  have hkeyed : f.Keyed := by
    rintro t ⟨rfl⟩
    exact ⟨by decide, by decide⟩
  have hreadable : f.Readable a ⟨.untyped, [row], .sequence 1, true⟩ := ⟨rfl, nofun, by decide⟩
  have hcount : 0 < largestCount := by decide
  have hlater : (f.query a p (.lastN 1 largestCount) ⟨1000⟩).outcome = .ok [record 1] :=
    hreadable.query_singleton rfl (r := record 1) (by decide +kernel) hcount p
  refine ⟨?_, by decide, ?_, ?_⟩
  · exact hreadable.query_singleton rfl (r := record 0) (by decide +kernel) hcount p
  · rw [outcome_query_range hkeyed (by decide) hlater]
    decide
  · rw [outcome_query]
    rfl

end File
end Store
end TelemetryExport
