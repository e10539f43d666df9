import TelemetryExport.Proofs.Store.Faults
import TelemetryExport.Proofs.Store.Instant
import TelemetryExport.Proofs.Store.Observations

/-! # Devices kept apart

The store's writers agree that a device has a number, but not on how to write it down, so an id is
read of any cell.  Of a text only the beginning counts: `Begins` says which integer stands there,
`Spells` that nothing but blanks stands behind it.  A text without digits at its beginning counts
as zero, and what is out of range is moved to the nearest end of it (`Cell.Denotes`).

Two devices whose ids are read as different integers are kept apart whatever else is stored
(`File.keptApart`), and so are all devices with ids that spell integers in range.  Ids that spell
nothing are not: they share a device with whatever they are read as
(`File.answer_of_suffixed`). -/

namespace TelemetryExport
namespace Store

/-! ### Integers in texts -/

inductive Sign : List Char → Bool → Prop
  | none : Sign [] false
  | plus : Sign ['+'] false
  | minus : Sign ['-'] true

/-- Blanks, a sign or none and one digit or more write the integer `i`; then comes the rest. -/
def Writes (cs : List Char) (i : Int) (rest : List Char) : Prop :=
  ∃ blanks sign negative digits, cs = blanks ++ (sign ++ (digits ++ rest)) ∧
    (∀ c ∈ blanks, isBlank c = true) ∧ Sign sign negative ∧ digits ≠ [] ∧
    (∀ c ∈ digits, c.isDigit = true) ∧ i = Datum.withSign negative (naturalOfDigits digits)

/-- The text begins with the integer `i`, all its digits taken. -/
def Begins (cs : List Char) (i : Int) : Prop :=
  ∃ rest, Writes cs i rest ∧ ∀ c ∈ rest.head?, c.isDigit = false

/-- The text is the integer `i` and nothing else. -/
def Spells (cs : List Char) (i : Int) : Prop :=
  ∃ rest, Writes cs i rest ∧ ∀ c ∈ rest, isBlank c = true

theorem Spells.begins {cs : List Char} {i : Int} (h : Spells cs i) : Begins cs i := by
  obtain ⟨rest, hwrites, hblank⟩ := h
  refine ⟨rest, hwrites, fun c hc => ?_⟩
  cases hdigit : c.isDigit with
  | false => rfl
  | true =>
      have hc' := hblank c (List.mem_of_head? hc)
      rw [isBlank_of_isDigit hdigit] at hc'
      cases hc'

/-- Nothing but blanks, signs and digits spells anything. -/
theorem Spells.mem {cs : List Char} {i : Int} (h : Spells cs i) {c : Char} (hc : c ∈ cs) :
    isBlank c = true ∨ c = '+' ∨ c = '-' ∨ c.isDigit = true := by
  obtain ⟨rest, ⟨blanks, sign, negative, digits, rfl, hblanks, hsign, -, hdigits, -⟩, hrest⟩ := h
  simp only [List.mem_append] at hc
  rcases hc with hc | hc | hc | hc
  · exact .inl (hblanks c hc)
  · cases hsign with
    | none => exact absurd hc List.not_mem_nil
    | plus => exact .inr (.inl (List.mem_singleton.mp hc))
    | minus => exact .inr (.inr (.inl (List.mem_singleton.mp hc)))
  · exact .inr (.inr (.inr (hdigits c hc)))
  · exact .inl (hrest c hc)

theorem takeSign_append {sign : List Char} {negative : Bool} (hsign : Sign sign negative)
    {c : Char} (hc : c.isDigit = true) (cs : List Char) :
    takeSign (sign ++ c :: cs) = (negative, c :: cs) := by
  cases hsign with
  | none => exact takeSign_of_isDigit hc cs
  | plus => rfl
  | minus => rfl

/-- Neither a sign nor a digit is skipped with the blanks. -/
theorem skipBlanks_append {blanks sign : List Char} {negative : Bool} {c : Char}
    (hblanks : ∀ b ∈ blanks, isBlank b = true) (hsign : Sign sign negative)
    (hc : c.isDigit = true) (cs : List Char) :
    skipBlanks (blanks ++ (sign ++ c :: cs)) = sign ++ c :: cs := by
  unfold skipBlanks
  rw [List.dropWhile_append_of_pos hblanks]
  cases hsign with
  | none => exact List.dropWhile_cons_of_neg (by simp [isBlank_of_isDigit hc])
  | plus => exact List.dropWhile_cons_of_neg (by decide)
  | minus => exact List.dropWhile_cons_of_neg (by decide)

/-- All digits are taken, and nothing behind them. -/
theorem takeWhile_isDigit_append {digits rest : List Char}
    (hdigits : ∀ c ∈ digits, c.isDigit = true) (hrest : ∀ c ∈ rest.head?, c.isDigit = false) :
    (digits ++ rest).takeWhile Char.isDigit = digits := by
  rw [List.takeWhile_append_of_pos hdigits]
  cases rest with
  | nil => rw [List.takeWhile_nil, List.append_nil]
  | cons c rest => rw [List.takeWhile_cons_of_neg (by simp [hrest c rfl]), List.append_nil]

theorem Begins.unboundedInteger_eq {cs : List Char} {i : Int} (h : Begins cs i) :
    unboundedInteger cs = i := by
  obtain ⟨rest, ⟨blanks, sign, negative, digits, rfl, hblanks, hsign, hne, hdigits, rfl⟩, hrest⟩ :=
    h
  obtain ⟨c, more, rfl⟩ := List.exists_cons_of_ne_nil hne
  have hc : c.isDigit = true := hdigits c (List.mem_cons_self ..)
  unfold unboundedInteger
  rw [List.cons_append, skipBlanks_append hblanks hsign hc, takeSign_append hsign hc]
  dsimp only
  rw [← List.cons_append, takeWhile_isDigit_append hdigits hrest]

theorem exists_sign (cs : List Char) :
    ∃ sign, Sign sign (takeSign cs).1 ∧ cs = sign ++ (takeSign cs).2 := by
  unfold takeSign
  split
  · exact ⟨_, .minus, rfl⟩
  · exact ⟨_, .plus, rfl⟩
  · exact ⟨_, .none, rfl⟩

/-- Where no integer begins there are no digits to read. -/
theorem unboundedInteger_of_not_begins {cs : List Char} (h : ∀ i, ¬ Begins cs i) :
    unboundedInteger cs = 0 := by
  obtain ⟨sign, hsign, hcs⟩ := exists_sign (skipBlanks cs)
  generalize hrest : (takeSign (skipBlanks cs)).2 = rest at hcs
  have hnone : rest.takeWhile Char.isDigit = [] := by
    -- digits at this place would begin an integer
    by_contra hne
    refine h _ ⟨rest.dropWhile Char.isDigit, ⟨cs.takeWhile isBlank, sign, _,
      rest.takeWhile Char.isDigit, ?_, ?_, hsign, hne, ?_, rfl⟩, ?_⟩
    · rw [List.takeWhile_append_dropWhile, ← hcs]
      exact (List.takeWhile_append_dropWhile).symm
    · exact fun c hc => List.mem_takeWhile_imp hc
    · exact fun c hc => List.mem_takeWhile_imp hc
    · intro c hc
      have hstop := List.head?_dropWhile_not Char.isDigit rest
      rw [Option.mem_def.mp hc] at hstop
      exact hstop
  unfold unboundedInteger
  dsimp only
  rw [hrest, hnone]
  cases (takeSign (skipBlanks cs)).1 <;> rfl

/-- What a text is read as: the integer that it begins with, moved into the range, or else zero. -/
def TextDenotes (cs : List Char) (d : Int) : Prop :=
  (∃ i, Begins cs i ∧ d = saturate i) ∨ (∀ i, ¬ Begins cs i) ∧ d = 0

theorem leadingInteger_eq_iff {cs : List Char} {d : Int} :
    leadingInteger cs = d ↔ TextDenotes cs d := by
  unfold leadingInteger TextDenotes
  by_cases h : ∃ i, Begins cs i
  · obtain ⟨i, hi⟩ := h
    rw [hi.unboundedInteger_eq]
    constructor
    · rintro rfl
      exact .inl ⟨i, hi, rfl⟩
    · rintro (⟨j, hj, rfl⟩ | ⟨hnone, -⟩)
      · rw [← hi.unboundedInteger_eq, hj.unboundedInteger_eq]
      · exact absurd hi (hnone i)
  · have hnone := not_exists.mp h
    rw [unboundedInteger_of_not_begins hnone]
    constructor
    · rintro rfl
      exact .inr ⟨hnone, rfl⟩
    · rintro (⟨j, hj, -⟩ | ⟨-, rfl⟩)
      · exact absurd hj (hnone j)
      · rfl

/-- What spells an integer in range is read as it. -/
theorem Spells.textDenotes_iff {cs : List Char} {i : Int} (h : Spells cs i) (hlow : minInt64 ≤ i)
    (hhigh : i ≤ maxInt64) (d : Int) : TextDenotes cs d ↔ d = i := by
  rw [← leadingInteger_eq_iff, leadingInteger, h.begins.unboundedInteger_eq, saturate,
    min_eq_right hhigh, max_eq_right hlow, eq_comm]

/-! ### Ids in cells -/

/-- What an id is read as, of whatever class its cell is; null is read as nothing. -/
def Cell.Denotes : Cell → Int → Prop
  | null, _ => False
  | integer i, d => d = i
  | real x, d => d = x.saturated
  | text s, d => TextDenotes s.toList d
  | blob bytes, d => TextDenotes (blobText bytes) d

theorem Cell.toInteger?_eq_some_iff {c : Cell} {d : Int} :
    c.toInteger? = some d ↔ c.Denotes d := by
  cases c with
  | null => exact ⟨nofun, False.elim⟩
  | integer i => exact Option.some_inj.trans eq_comm
  | real x => exact Option.some_inj.trans eq_comm
  | text s => exact Option.some_inj.trans leadingInteger_eq_iff
  | blob bytes => exact Option.some_inj.trans leadingInteger_eq_iff

theorem Row.isOf_iff {row : Row} {d : Int} :
    row.isOf d = true ↔ row.cells.deviceId.Denotes d :=
  beq_iff_eq.trans Cell.toInteger?_eq_some_iff

/-- The id of the row is read as the device and as no other, so if it spells an integer in range
it spells the device. -/
structure Row.OfDevice (row : Row) (deviceId : Int) : Prop where
  denotes_iff : ∀ d, row.cells.deviceId.Denotes d ↔ d = deviceId
  spelled : ∀ text i, row.cells.deviceId = .text text → Spells text.toList i → minInt64 ≤ i →
    i ≤ maxInt64 → i = deviceId

theorem Row.ofDevice_of_isOf {row : Row} {deviceId : Int} (h : row.isOf deviceId = true) :
    row.OfDevice deviceId := by
  have hread : row.cells.deviceId.toInteger? = some deviceId := beq_iff_eq.mp h
  have hdenotes : ∀ d, row.cells.deviceId.Denotes d ↔ d = deviceId := by
    intro d
    rw [← Cell.toInteger?_eq_some_iff, hread, Option.some_inj, eq_comm]
  refine ⟨hdenotes, fun text i htext hspells hlow hhigh => (hdenotes i).mp ?_⟩
  rw [htext]
  exact (hspells.textDenotes_iff hlow hhigh i).mpr rfl

/-! ### Queries -/

namespace Table

/-- Rows that are not of the device make no difference to its queries. -/
theorem answer_filter {t : Table} {keep : Row → Bool} {q : Query}
    (hkeep : ∀ row ∈ t.rows, row.isOf q.deviceId = true → keep row = true) (now : Clock) :
    ({ t with rows := t.rows.filter keep } : Table).answer now q = t.answer now q := by
  have hsame : (t.rows.filter keep).filter (Row.isOf q.deviceId) =
      t.rows.filter (Row.isOf q.deviceId) := by
    rw [List.filter_filter]
    refine List.filter_congr fun row hrow => ?_
    cases hof : row.isOf q.deviceId with
    | false => rfl
    | true => exact hkeep row hrow hof
  have hlisted : ({ t with rows := t.rows.filter keep } : Table).listed now q.deviceId =
      t.listed now q.deviceId := by
    unfold listed
    rw [hsame]
  rw [answer_eq, answer_eq, chosen_of_listed hlisted]

/-- No row is chosen twice. -/
theorem chosen_subperm (t : Table) (now : Clock) (q : Query) :
    (t.chosen now q).Subperm t.rows := by
  have hlisted : (t.chosen now q).Sublist (t.listed now q.deviceId) := by
    cases q with
    | lastN deviceId count => exact List.take_sublist _ _
    | range deviceId first last => exact List.filter_sublist
  exact hlisted.subperm.trans
    ((t.listed_perm now q.deviceId).subperm.trans List.filter_sublist.subperm)

end Table

namespace File

/-- A query is about the rows of one device and about no others. -/
structure KeptApart (f : File) (a : Access) (p : RetryPolicy) (q : Query) (now : Clock) :
    Prop where
  /-- An answer is read of rows of the table, none of them twice, and all of them of the device. -/
  origin : ∀ answer, (f.query a p q now).outcome = .ok answer → ∃ t rows, f.Readable a t ∧
    rows.Subperm t.rows ∧ List.Forall₂ (Row.ReadsAs now) rows answer ∧
    ∀ row ∈ rows, row.OfDevice q.deviceId
  /-- Whatever rows of other devices are taken away, the query comes to the same. -/
  foreign : ∀ (t : Table) (keep : Row → Bool), f.content = .database (some t) →
    (∀ row ∈ t.rows, row.cells.deviceId.Denotes q.deviceId → keep row = true) →
      File.query a p q now
          { f with content := .database (some { t with rows := t.rows.filter keep }) } =
        f.query a p q now

/-- **Devices are kept apart** if their ids are read as different integers, however these are
written. -/
theorem keptApart (f : File) (a : Access) (p : RetryPolicy) (q : Query) (now : Clock) :
    KeptApart f a p q now := by
  refine ⟨fun answer h => ?_, fun t keep hf hkeep => ?_⟩
  · obtain ⟨t, ht, hanswer⟩ := query_eq_ok_iff.mp h
    have hof : ∀ row ∈ t.chosen now q, row.isOf q.deviceId = true :=
      fun row hrow => (Table.mem_of_mem_chosen hrow).2
    rw [Table.answer_eq] at hanswer
    exact ⟨t, t.chosen now q, ht, t.chosen_subperm now q, (mapM_toRecord_eq_ok_iff hof).mp hanswer,
      fun row hrow => Row.ofDevice_of_isOf (hof row hrow)⟩
  · have hanswer : ({ t with rows := t.rows.filter keep } : Table).answer now q =
        t.answer now q :=
      Table.answer_filter (fun row hrow hof => hkeep row hrow (Row.isOf_iff.mp hof)) now
    unfold query
    rw [attempt_of_content hf, attempt_of_content rfl, hanswer]

/-- An id with a suffix spells nothing, yet its row is answered together with that of the device
whose id it begins with. -/
theorem answer_of_suffixed :
    let row (id : Int) (deviceId : String) (temperature timestamp : Int) : Row :=
      ⟨id, .text deviceId, .real (.ofInt temperature), .real (.ofInt 50), .real (.ofInt 2),
        .integer timestamp⟩
    let t : Table := ⟨.ingestion, [row 1 "1x" 20 100, row 2 "1" 21 200], .sequence 2, true⟩
    let f : File := ⟨.database (some t), none⟩
    let now : Clock := ⟨0⟩
    let record (temperature : UInt32) (timestamp : Int) : Record :=
      ⟨1, ⟨⟨temperature⟩, ⟨0x42480000⟩, ⟨0x40000000⟩⟩, timestamp⟩
    (f.query ⟨"farm.db", 100⟩ ⟨3, 100⟩ (.lastN 1 10) now).outcome =
        .ok [record 0x41a80000 200, record 0x41a00000 100] ∧
      (row 1 "1x" 20 100).ReadsAs now (record 0x41a00000 100) ∧
      ¬ (row 2 "1" 21 200).ReadsAs now (record 0x41a00000 100) ∧
      Spells "1".toList 1 ∧ ∀ i, ¬ Spells "1x".toList i := by
  intro row t f now record
  have hkeyed : t.Keyed := ⟨by decide, by decide⟩
  refine ⟨query_eq_ok_iff.mpr ⟨_, ⟨rfl, nofun, by decide⟩, ?_⟩, by decide +kernel,
    by decide +kernel, ?_, fun i hi => ?_⟩
  · exact hkeyed.answer_lastN_iff_newest.mpr ⟨[row 2 "1" 21 200, row 1 "1x" 20 100],
      ⟨by decide +kernel, by decide +kernel⟩, by decide +kernel⟩
  · exact ⟨[], ⟨[], [], false, ['1'], by decide, nofun, .none, nofun,
      List.forall_mem_singleton.mpr rfl, by decide⟩, nofun⟩
  · exact absurd (hi.mem (c := 'x') (by decide)) (by decide)

end File
end Store
end TelemetryExport
