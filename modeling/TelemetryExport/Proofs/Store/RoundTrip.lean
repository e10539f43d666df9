import TelemetryExport.Proofs.Binary.Values
import TelemetryExport.Proofs.Store.Filling

/-! # Inserting and asking

A file that was created holds the records that were inserted with success.  While there are numbers
for further rows, an insert fails exactly for a record with a measurement that is not a number
(`File.insert_holding`, `File.insertAll_holding`).  All other measurements, infinite ones too, come
back from their columns as they were, but for the sign of a zero (`Affinity.toSingle_convert`).  So
an answer is made of the newest accepted records, each with just this change
(`Table.answer_holding_readBack`); `File.roundTrip` puts the two together. -/

namespace TelemetryExport

/-! ### Measurements -/

/-- A number as it comes back from a column of reals: a negative zero has become a positive one. -/
def Single.readBack (x : Single) : Single := if x.bits = 0x80000000 then ⟨0⟩ else x

def Reading.readBack (x : Reading) : Reading :=
  ⟨x.temperature.readBack, x.humidity.readBack, x.waterLevel.readBack⟩

def Record.readBack (r : Record) : Record := ⟨r.deviceId, r.reading.readBack, r.timestamp⟩

/-- The first measurement that is not a number. -/
def Reading.notNumber? (x : Reading) : Option Store.Column :=
  if x.temperature.isNaN then some .temperature
  else if x.humidity.isNaN then some .humidity
  else if x.waterLevel.isNaN then some .waterLevel
  else none

def Reading.isNumeric (x : Reading) : Bool := x.notNumber?.isNone

theorem Reading.isNumeric_iff {x : Reading} :
    x.isNumeric = true ↔
      x.temperature.isNaN = false ∧ x.humidity.isNaN = false ∧ x.waterLevel.isNaN = false := by
  unfold isNumeric notNumber?
  split_ifs <;> simp_all

theorem Single.isNaN_toDouble (x : Single) : x.toDouble.isNaN = x.isNaN := by
  unfold Single.toDouble Single.isNaN
  cases hd : x.datum with
  | nan => decide
  | infinite s => cases s <;> decide
  | finite s m e =>
      have hx : x.toDouble.datum.value? = some _ := value?_toDouble (by rw [hd]; rfl)
      unfold Single.toDouble at hx
      rw [← hd, Double.isNaN_eq_false hx, hd]
      rfl

namespace Store

theorem Cell.ofDouble_toDouble_eq_null_iff (x : Single) :
    Cell.ofDouble x.toDouble = .null ↔ x.isNaN = true := by
  rw [Cell.ofDouble, Single.isNaN_toDouble]
  cases x.isNaN <;> simp

/-- What is read of a number that was stored in a column of reals. -/
theorem Affinity.toSingle_convert {x : Single} (h : x.isNaN = false) :
    (Affinity.real.convert (.ofDouble x.toDouble)).toSingle = .ok x.readBack := by
  cases hd : x.datum with
  | nan =>
      rw [Single.isNaN, hd] at h
      cases h
  | infinite s =>
      rw [Single.eq_of_infinite hd]
      cases s <;> decide +kernel
  | finite s m e =>
      have hx : x.datum.value? = (Datum.finite s m e).value? := congrArg _ hd
      obtain ⟨y, hy, v, hxv, hyv⟩ := exists_toSingle_convert (Single.isFinite_of_value? hx)
      by_cases hv : v = 0
      · -- the two zeros
        rw [hv] at hxv
        obtain ⟨bits⟩ := x
        rcases Single.bits_of_value?_eq_zero hxv with hbits | hbits
        · cases hbits
          decide +kernel
        · cases hbits
          decide +kernel
      · have hbits : x.bits ≠ 0x80000000 := by
          intro hbits
          obtain ⟨bits⟩ := x
          cases hbits
          have hzero : (Single.mk 0x80000000).datum.value? = some 0 := by decide +kernel
          exact hv (Option.some.inj (hxv.symm.trans hzero))
        rw [hy, Single.readBack, if_neg hbits, Single.eq_of_value? hxv hyv hv]

/-! ### Inserts -/

theorem Cells.missing?_ofRecord (r : Record) :
    (Cells.ofRecord r).missing? = r.reading.notNumber? := by
  have hnull : ∀ x : Single, (Cell.ofDouble x.toDouble == .null) = x.isNaN := by
    intro x
    rw [Bool.eq_iff_iff, beq_iff_eq]
    exact Cell.ofDouble_toDouble_eq_null_iff x
  simp only [missing?, Column.all, List.find?_cons, cell, ofRecord, hnull, Reading.notNumber?]
  cases r.reading.temperature.isNaN <;> cases r.reading.humidity.isNaN <;>
    cases r.reading.waterLevel.isNaN <;> rfl

namespace Table

/-- A row is refused when the numbers are used up, and else for its first null. -/
theorem insert_holding (done : List Record) (r : Record) :
    (holding done).insert (.ofRecord r) =
      if done.length < maxCount then
        match r.reading.notNumber? with
        | some column => .error (.missing column)
        | none => .ok (holding (done ++ [r]))
      else .error .full := by
  by_cases hroom : done.length < maxCount
  · have hnumber : (done.length : Int) + 1 ≤ maxInt64 := by
      unfold maxCount at hroom
      unfold maxInt64
      omega
    have hinsert : (holding done).insert (.ofRecord r) =
        match r.reading.notNumber? with
        | some column => .error (.missing column)
        | none => .ok { holding done with
            rows := (holding done).rows ++
              [⟨(done.length : Int) + 1, (Cells.ofRecord r).convert .own⟩]
            numbering := .sequence ((done.length : Int) + 1) } := by
      unfold Table.insert
      rw [next?_holding, if_pos hnumber, Cells.missing?_ofRecord]
      cases r.reading.notNumber? <;> rfl
    rw [if_pos hroom]
    cases hm : r.reading.notNumber? with
    | some column =>
        rw [hm] at hinsert
        exact hinsert
    | none =>
        rw [hm] at hinsert
        rw [hinsert, ← eq_holding_of_insert hinsert]
  · have hnumber : ¬ (done.length : Int) + 1 ≤ maxInt64 := by
      unfold maxCount at hroom
      unfold maxInt64
      omega
    rw [if_neg hroom]
    unfold Table.insert
    rw [next?_holding, if_neg hnumber]

end Table

namespace File

variable {f₀ f₁ : File} {a : Access}

/-- What comes of an insert into a table of required columns that has given out `given` numbers. -/
def insertResult (given : Nat) (r : Record) : Except WriteError Unit :=
  if given < Table.maxCount then
    match r.reading.notNumber? with
    | some column => .error ⟨.insertRow, .missingValue column⟩
    | none => .ok ()
  else .error ⟨.insertRow, .full⟩

/-- It matters only whether there are numbers left. -/
theorem insertResult_congr {m n : Nat} (h : m < Table.maxCount ↔ n < Table.maxCount)
    (r : Record) : insertResult m r = insertResult n r := by
  unfold insertResult
  simp only [h]

/-- While numbers are left, an insert fails for a measurement that is not a number and for nothing
else. -/
theorem insertResult_fails_iff {given : Nat} (h : given < Table.maxCount) (r : Record) :
    (∃ e, insertResult given r = .error e) ↔ r.reading.isNumeric = false := by
  unfold insertResult Reading.isNumeric
  rw [if_pos h]
  cases r.reading.notNumber? with
  | some column => exact iff_of_true ⟨_, rfl⟩ rfl
  | none => exact iff_of_false nofun (by decide)

/-- The records that a table holds after some more were offered to it. -/
def accepted (done offered : List Record) : List Record :=
  (done ++ offered.filter (·.reading.isNumeric)).take Table.maxCount

theorem accepted_nil {done : List Record} (h : done.length ≤ Table.maxCount) :
    accepted done [] = done := by
  unfold accepted
  rw [List.filter_nil, List.append_nil, List.take_of_length_le h]

/-- What was cut off already is cut off again. -/
theorem take_take_append {α : Type} (n : Nat) (l m : List α) :
    (l.take n ++ m).take n = (l ++ m).take n := by
  have hleft : n - (l.take n).length = n - l.length := by
    rw [List.length_take]
    omega
  rw [List.take_append, List.take_append, List.take_take, min_self, hleft]

theorem accepted_cons (done : List Record) (r : Record) (rest : List Record) :
    accepted (accepted done [r]) rest = accepted done (r :: rest) := by
  have hcons : (r :: rest).filter (·.reading.isNumeric) =
      [r].filter (·.reading.isNumeric) ++ rest.filter (·.reading.isNumeric) := by
    rw [← List.filter_append, List.singleton_append]
  unfold accepted
  rw [hcons, ← List.append_assoc, take_take_append]

theorem length_accepted (done offered : List Record) :
    (accepted done offered).length =
      min Table.maxCount (done.length + offered.countP (·.reading.isNumeric)) := by
  unfold accepted
  rw [List.length_take, List.length_append, ← List.countP_eq_length_filter]

theorem change_holding (records : List Record)
    (edit : Option Table → Except Error (Option Table)) :
    (holding records).change edit =
      match edit (some (.holding records)) with
      | .error e => (.error e, holding records)
      | .ok changed => (.ok (), ⟨.database changed, none⟩) := by
  cases hedit : edit (some (.holding records)) <;> simp [change, look, holding, hedit]

theorem write_holding (hbusy : a.busyTimeoutMs ≤ maxBusyTimeoutMs) (records : List Record)
    (stage : Stage) (act : File → Except Error Unit × File) :
    (holding records).write a stage act =
      ((act (holding records)).1.mapError (⟨stage, ·⟩), (act (holding records)).2) := by
  rw [write_eq, if_neg (by simp [holding]), if_neg (by omega)]
  rfl

theorem insert_holding (hbusy : a.busyTimeoutMs ≤ maxBusyTimeoutMs) {done : List Record}
    (hdone : done.length ≤ Table.maxCount) (r : Record) :
    (holding done).insert a r = (insertResult done.length r, holding (accepted done [r])) := by
  unfold insert
  rw [write_holding hbusy, insertRow, change_holding]
  simp only [onTable, insertCells, Table.insert_holding, insertResult, accepted]
  split_ifs with hroom
  · cases hm : r.reading.notNumber? with
    | some column =>
        have hrefused : [r].filter (·.reading.isNumeric) = [] := by simp [Reading.isNumeric, hm]
        rw [hrefused, List.append_nil, List.take_of_length_le hdone]
        rfl
    | none =>
        have hadded : [r].filter (·.reading.isNumeric) = [r] := by simp [Reading.isNumeric, hm]
        have hlength : (done ++ [r]).length ≤ Table.maxCount := by
          rw [List.length_append, List.length_singleton]
          omega
        rw [hadded, List.take_of_length_le hlength]
        rfl
  · have hfull : done.length = Table.maxCount := by omega
    rw [List.take_left' hfull]
    rfl

theorem insertAll_cons (f : File) (r : Record) (rest : List Record) :
    f.insertAll a (r :: rest) =
      ((f.insert a r).1 :: ((f.insert a r).2.insertAll a rest).1,
        ((f.insert a r).2.insertAll a rest).2) := rfl

/-- By induction on the records: those that are accepted come behind those that are there. -/
theorem insertAll_holding (hbusy : a.busyTimeoutMs ≤ maxBusyTimeoutMs) {done : List Record}
    (hdone : done.length ≤ Table.maxCount) (records : List Record) :
    ((holding done).insertAll a records).2 = holding (accepted done records) ∧
      ∀ k, ((holding done).insertAll a records).1[k]? = records[k]?.map
        (insertResult (done.length + (records.take k).countP (·.reading.isNumeric))) := by
  induction records generalizing done with
  | nil =>
      rw [accepted_nil hdone]
      exact ⟨rfl, fun k => rfl⟩
  | cons r rest ih =>
      have hlength := length_accepted done [r]
      obtain ⟨hfile, hresults⟩ := ih (hlength ▸ min_le_left _ _)
      rw [insertAll_cons, insert_holding hbusy hdone]
      refine ⟨by rw [hfile, accepted_cons], fun k => ?_⟩
      cases k with
      | zero => rfl
      | succ k =>
          rw [List.getElem?_cons_succ, List.getElem?_cons_succ, hresults, List.take_succ_cons]
          refine congrArg (Option.map · rest[k]?) (funext fun r' => insertResult_congr ?_ r')
          have hcons : (r :: rest.take k).countP (·.reading.isNumeric) =
              [r].countP (·.reading.isNumeric) + (rest.take k).countP (·.reading.isNumeric) := by
            rw [← List.singleton_append, List.countP_append]
          rw [hlength, hcons]
          omega

end File

/-! ### Answers -/

theorem Sample.toRecord_ofRecord {r : Record} (hr : r.reading.isNumeric = true) (id : Int) :
    (Sample.ofRecord r id).toRecord r.deviceId = .ok r.readBack := by
  obtain ⟨ht, hu, hw⟩ := Reading.isNumeric_iff.mp hr
  unfold toRecord measurement ofRecord
  dsimp only
  rw [Affinity.toSingle_convert ht, Affinity.toSingle_convert hu, Affinity.toSingle_convert hw]
  rfl

/-- An answer is made of the newest records, each as it reads back. -/
theorem Table.answer_holding_readBack {records : List Record}
    (hnumeric : ∀ r ∈ records, r.reading.isNumeric = true) (now : Clock) (deviceId : Int)
    (count : Nat) :
    (Table.holding records).answer now (.lastN deviceId count) =
      .ok (((newest deviceId records).take (min count maxCount)).map Record.readBack) := by
  obtain ⟨rows, hrows, hhistory⟩ := history_holding now deviceId records
  have hread : ∀ p ∈ rows.take (min count maxCount), ∃ s : Record,
      (Sample.ofRecord p.1 p.2).toRecord deviceId = .ok s ∧ p.1.readBack = s := by
    intro p hp
    have hp' : p.1 ∈ newest deviceId records :=
      hrows ▸ List.mem_map_of_mem (List.mem_of_mem_take hp)
    obtain ⟨hmem, rfl⟩ := mem_newest.mp hp'
    exact ⟨_, Sample.toRecord_ofRecord (hnumeric p.1 hmem) p.2, rfl⟩
  obtain ⟨answer, hanswer, hreadBack⟩ := mapM_eq_ok hread
  rw [← List.forall₂_map_left_iff (f := fun p : Record × Nat => p.1.readBack),
    List.forall₂_eq_eq_eq] at hreadBack
  unfold Table.answer Table.selected
  dsimp only [Query.deviceId]
  rw [hhistory, ← List.map_take, List.mapM_map, ← hrows, ← List.map_take, List.map_map]
  exact hanswer.trans (congrArg Except.ok hreadBack.symm)

theorem take_min_maxCount_of_le {deviceId : Int} {count : Nat} {records : List Record}
    (h : min count (records.countP (·.deviceId == deviceId)) ≤ Table.maxCount) :
    (newest deviceId records).take (min count Table.maxCount) =
      (newest deviceId records).take count := by
  rw [List.take_eq_take_iff, length_newest]
  omega

/-! ### The whole -/

namespace File

variable {f₀ f₁ : File} {a : Access}

/-- What comes of inserting records one after the other, and of asking for them. -/
structure RoundTrip (a : Access) (records : List Record)
    (results : List (Except WriteError Unit)) (f : File) : Prop where
  /-- Every insert has its result, which depends on the record and, beyond all numbers that there
  are for rows, on how many were accepted before it. -/
  result_eq : ∀ k, results[k]? = records[k]?.map
    (insertResult ((records.take k).countP (·.reading.isNumeric)))
  /-- So an insert fails exactly if there is a measurement that is not a number.  Only after as many
  inserts as there are numbers for rows could there be another reason. -/
  fails_iff : ∀ k r, records[k]? = some r → k < Table.maxCount →
    ((∃ e, results[k]? = some (.error e)) ↔ r.reading.isNumeric = false)
  /-- An answer holds the newest of the accepted records of the device, no more than were asked
  for, and each of them as it reads back. -/
  answered : ∀ (p : RetryPolicy) (now : Clock) (deviceId : Int) (count : Nat),
    let accepted := (records.filter (·.reading.isNumeric)).take Table.maxCount
    let available := min count (accepted.countP (·.deviceId == deviceId))
    let answer := ((newest deviceId accepted).take count).map Record.readBack
    f.query a p (.lastN deviceId count) now = ⟨1, .ok answer, []⟩ ∧ answer.length = available

/-- **What was inserted is what is answered.** -/
theorem roundTrip (hfresh : f₀.created.content = .database none)
    (hinit : f₀.init a = (.ok (), f₁)) (records : List Record) :
    RoundTrip a records (f₁.insertAll a records).1 (f₁.insertAll a records).2 := by
  obtain ⟨hbusy, rfl⟩ := eq_holding_of_init hfresh hinit
  have hnone : ([] : List Record).length ≤ Table.maxCount := Nat.zero_le _
  obtain ⟨hfile, hresults⟩ := insertAll_holding hbusy hnone records
  simp only [List.length_nil, Nat.zero_add] at hresults
  refine ⟨hresults, fun k r hr hk => ?_, ?_⟩
  · have hroom : (records.take k).countP (·.reading.isNumeric) < Table.maxCount :=
      lt_of_le_of_lt (List.countP_le_length.trans (List.length_take_le k records)) hk
    rw [hresults, hr, ← insertResult_fails_iff hroom]
    exact exists_congr fun e => Option.some_inj
  · intro p now deviceId count accepted available answer
    have hnumeric : ∀ r ∈ accepted, r.reading.isNumeric = true :=
      fun r hr => (List.mem_filter.mp (List.mem_of_mem_take hr)).2
    have havailable : available ≤ Table.maxCount := by
      refine (min_le_right _ _).trans (List.countP_le_length.trans ?_)
      exact List.length_take_le _ _
    refine ⟨?_, ?_⟩
    · rw [hfile]
      refine query_holding hbusy p ?_
      rw [show File.accepted [] records = accepted from rfl,
        Table.answer_holding_readBack hnumeric, take_min_maxCount_of_le havailable]
    · rw [List.length_map, List.length_take, length_newest]

/-- A negative zero, infinities and the least positive number are accepted, a record with a
not-a-number is not; of two records of one time the later one comes first. -/
theorem roundTrip_infinite :
    let a : Access := ⟨"farm.db", 100⟩
    let old : Record := ⟨1, ⟨⟨0x7f800000⟩, ⟨0x42480000⟩, ⟨0x3fc00000⟩⟩, -100⟩
    let first : Record := ⟨1, ⟨⟨0x80000000⟩, ⟨0x00000001⟩, ⟨0x7f7fffff⟩⟩, 300⟩
    let broken : Record := ⟨1, ⟨⟨0x41a00000⟩, ⟨0xffc00001⟩, ⟨0x7fc00000⟩⟩, 500⟩
    let foreign : Record := ⟨2, ⟨⟨0x42c60000⟩, ⟨0x42480000⟩, ⟨0x3fc00000⟩⟩, 400⟩
    let last : Record := ⟨1, ⟨⟨0xff800000⟩, ⟨0x42480000⟩, ⟨0x3fc00000⟩⟩, 300⟩
    let records := [old, first, broken, foreign, last]
    let inserted := (File.holding []).insertAll a records
    File.absent.init a = (.ok (), .holding []) ∧ RoundTrip a records inserted.1 inserted.2 ∧
      inserted.1 = [.ok (), .ok (), .error ⟨.insertRow, .missingValue .humidity⟩, .ok (), .ok ()] ∧
      inserted.2.query a ⟨3, 100⟩ (.lastN 1 2) ⟨0⟩ =
        ⟨1, .ok [last, ⟨1, ⟨⟨0⟩, ⟨0x00000001⟩, ⟨0x7f7fffff⟩⟩, 300⟩], []⟩ := by
  intro a old first broken foreign last records inserted
  have hinit : File.absent.init a = (.ok (), .holding []) := by decide
  have htrip : RoundTrip a records inserted.1 inserted.2 := roundTrip rfl hinit records
  refine ⟨hinit, htrip, by decide +kernel, ?_⟩
  have hnumeric : (records.filter (·.reading.isNumeric)).take Table.maxCount =
      [old, first, foreign, last] := by
    rw [List.take_of_length_le (by decide +kernel)]
    decide +kernel
  have hsorted : newest 1 [old, first, foreign, last] = [last, first, old] :=
    List.mergeSort_of_pairwise (by decide)
  have hanswered := (htrip.answered ⟨3, 100⟩ ⟨0⟩ 1 2).1
  rw [hnumeric, hsorted] at hanswered
  exact hanswered

end File
end Store
end TelemetryExport
