import Mathlib.Data.List.Basic
import TelemetryExport.Proofs.Store.Cell

/-! # The newest records

`newest` says which records of a device stand first without any row numbers: the records in the
opposite order of their insertion, sorted by time with a stable sort.  `history_holding` shows
that a table into which just these records were inserted lists them in this order, although it
sorts rows by time and number (`mergeSort_eq_of_tiebreak`), and `answer_holding` that every
answer consists of their values. -/

namespace TelemetryExport
namespace Store

/-! ### Sorting -/

section Sorting

variable {α : Type} {le tie : α → α → Bool}

/-- A stable sort decides ties by the order of the list, so it sorts by any finer order that
agrees with the list where the coarse one does not decide. -/
theorem mergeSort_eq_of_tiebreak (htrans : ∀ a b c, le a b → le b c → le a c)
    (htotal : ∀ a b, le a b || le b a) (htrans' : ∀ a b c, tie a b → tie b c → tie a c)
    (htotal' : ∀ a b, tie a b || tie b a) (hstrict : ∀ a b, le b a = false → tie a b)
    {l : List α} (hties : l.Pairwise fun a b => le a b → le b a → tie a b)
    (hantisymm : ∀ a ∈ l, ∀ b ∈ l, tie a b → tie b a → a = b) :
    l.mergeSort le = l.mergeSort tie := by
  have hsorted : (l.mergeSort le).Pairwise fun a b => tie a b := by
    rw [← List.mergeSort_zipIdx, List.pairwise_map]
    have hzip := List.pairwise_mergeSort (List.zipIdxLE_trans htrans)
      (List.zipIdxLE_total htotal) l.zipIdx
    refine hzip.imp_of_mem ?_
    rintro ⟨a, i⟩ ⟨b, j⟩ ha hb hab
    rw [List.mem_mergeSort, List.mem_zipIdx_iff_getElem?] at ha hb
    dsimp only at ha hb ⊢
    by_cases hba : le b a = true
    · have hle : le a b = true ∧ i ≤ j := by
        unfold List.zipIdxLE at hab
        dsimp only at hab
        split_ifs at hab with h
        · exact ⟨h, by simpa using hab⟩
      obtain ⟨hi, rfl⟩ := List.getElem?_eq_some_iff.mp ha
      obtain ⟨hj, rfl⟩ := List.getElem?_eq_some_iff.mp hb
      rcases Nat.lt_or_eq_of_le hle.2 with hlt | rfl
      · exact List.pairwise_iff_getElem.mp hties i j hi hj hlt hle.1 hba
      · simpa using htotal' l[i] l[i]
    · exact hstrict a b (by simpa using hba)
  refine List.Perm.eq_of_pairwise ?_ hsorted (List.pairwise_mergeSort htrans' htotal' l)
    ((List.mergeSort_perm l le).trans (List.mergeSort_perm l tie).symm)
  intro a b ha hb
  exact hantisymm a (List.mem_mergeSort.mp ha) b (List.mem_mergeSort.mp hb)

theorem mergeSort_eq_of_perm (htrans : ∀ a b c, tie a b → tie b c → tie a c)
    (htotal : ∀ a b, tie a b || tie b a) {l l' : List α} (hperm : l.Perm l')
    (hantisymm : ∀ a ∈ l, ∀ b ∈ l, tie a b → tie b a → a = b) :
    l.mergeSort tie = l'.mergeSort tie := by
  refine List.Perm.eq_of_pairwise ?_ (List.pairwise_mergeSort htrans htotal l)
    (List.pairwise_mergeSort htrans htotal l')
    ((List.mergeSort_perm l tie).trans (hperm.trans (List.mergeSort_perm l' tie).symm))
  intro a b ha hb
  rw [List.mem_mergeSort] at ha hb
  exact hantisymm a ha b (hperm.mem_iff.mpr hb)

end Sorting

/-! ### The order of an answer -/

/-- The records of a device, newest first, and of those of one time the last inserted first. -/
def newest (deviceId : Int) (records : List Record) : List Record :=
  ((records.filter (·.deviceId == deviceId)).reverse).mergeSort
    fun a b => b.timestamp ≤ a.timestamp

theorem newest_perm (deviceId : Int) (records : List Record) :
    (newest deviceId records).Perm (records.filter (·.deviceId == deviceId)) :=
  (List.mergeSort_perm _ _).trans (List.reverse_perm _)

theorem length_newest (deviceId : Int) (records : List Record) :
    (newest deviceId records).length = records.countP (·.deviceId == deviceId) := by
  rw [(newest_perm deviceId records).length_eq, List.countP_eq_length_filter]

theorem mem_newest {deviceId : Int} {records : List Record} {r : Record} :
    r ∈ newest deviceId records ↔ r ∈ records ∧ r.deviceId = deviceId := by
  rw [(newest_perm deviceId records).mem_iff, List.mem_filter, beq_iff_eq]

/-- A table into which the records were inserted one after the other, and nothing else was. -/
def Table.holding (records : List Record) : Table where
  schema := .own
  rows := (records.zipIdx 1).map fun p => ⟨p.2, (Cells.ofRecord p.1).convert .own⟩
  numbering := .sequence records.length
  indexed := true

/-- A record with the number of its row stands before another one in an answer. -/
def precedes (a b : Record × Nat) : Bool :=
  (Sample.ofRecord a.1 a.2).newer (Sample.ofRecord b.1 b.2)

theorem precedes_iff (a b : Record × Nat) :
    precedes a b = true ↔
      b.1.timestamp < a.1.timestamp ∨ a.1.timestamp = b.1.timestamp ∧ b.2 ≤ a.2 := by
  show (if a.1.timestamp = b.1.timestamp then decide ((b.2 : Int) ≤ a.2)
    else decide (b.1.timestamp < a.1.timestamp)) = true ↔ _
  split_ifs with h
  · rw [decide_eq_true_eq]
    omega
  · rw [decide_eq_true_eq]
    omega

theorem precedes_trans (a b c : Record × Nat) (hab : precedes a b = true)
    (hbc : precedes b c = true) : precedes a c = true := by
  rw [precedes_iff] at hab hbc ⊢
  omega

theorem precedes_total (a b : Record × Nat) : (precedes a b || precedes b a) = true := by
  rw [Bool.or_eq_true, precedes_iff, precedes_iff]
  omega

/-- The rows of a device, in the order of their numbers. -/
def ownRows (deviceId : Int) (records : List Record) : List (Record × Nat) :=
  (records.zipIdx 1).filter (·.1.deviceId == deviceId)

theorem map_fst_ownRows (deviceId : Int) (records : List Record) :
    (ownRows deviceId records).map Prod.fst = records.filter (·.deviceId == deviceId) := by
  have hmap := List.filter_map (f := Prod.fst) (p := fun r : Record => r.deviceId == deviceId)
    (l := records.zipIdx 1)
  rw [List.zipIdx_map_fst] at hmap
  exact hmap.symm

theorem pairwise_ownRows (deviceId : Int) (records : List Record) :
    (ownRows deviceId records).Pairwise fun a b => a.2 < b.2 := by
  refine List.Pairwise.filter _ ?_
  rw [← List.pairwise_map, List.zipIdx_map_snd]
  exact List.pairwise_lt_range'

theorem eq_of_mem_ownRows {deviceId : Int} {records : List Record} {a b : Record × Nat}
    (ha : a ∈ ownRows deviceId records) (hb : b ∈ ownRows deviceId records) (h : a.2 = b.2) :
    a = b := by
  have ha' := (List.mem_zipIdx_iff_le_and_getElem?_sub.mp (List.mem_filter.mp ha).1).2
  have hb' := (List.mem_zipIdx_iff_le_and_getElem?_sub.mp (List.mem_filter.mp hb).1).2
  rw [h, hb'] at ha'
  exact Prod.ext (Option.some.inj ha').symm h

theorem eq_of_precedes {deviceId : Int} {records : List Record} {a b : Record × Nat}
    (ha : a ∈ ownRows deviceId records) (hb : b ∈ ownRows deviceId records)
    (hab : precedes a b = true) (hba : precedes b a = true) : a = b := by
  rw [precedes_iff] at hab hba
  exact eq_of_mem_ownRows ha hb (by omega)

/-- Sorting rows by time and number gives what the stable sort of the records gives. -/
theorem map_fst_mergeSort_ownRows (deviceId : Int) (records : List Record) :
    ((ownRows deviceId records).mergeSort precedes).map Prod.fst = newest deviceId records := by
  let le : Record × Nat → Record × Nat → Bool := fun a b => b.1.timestamp ≤ a.1.timestamp
  have hmem : ∀ {a}, a ∈ (ownRows deviceId records).reverse → a ∈ ownRows deviceId records :=
    List.mem_reverse.mp
  have hties : (ownRows deviceId records).reverse.mergeSort le =
      (ownRows deviceId records).reverse.mergeSort precedes := by
    apply mergeSort_eq_of_tiebreak
    · intro a b c
      simp only [le, decide_eq_true_eq]
      omega
    · intro a b
      simp only [le, Bool.or_eq_true, decide_eq_true_eq]
      omega
    · exact precedes_trans
    · exact precedes_total
    · intro a b h
      simp only [le, decide_eq_false_iff_not] at h
      rw [precedes_iff]
      omega
    · rw [List.pairwise_reverse]
      refine (pairwise_ownRows deviceId records).imp fun {a b} hlt hle hle' => ?_
      simp only [le, decide_eq_true_eq] at hle hle'
      rw [precedes_iff]
      omega
    · exact fun a ha b hb => eq_of_precedes (hmem ha) (hmem hb)
  have hperm : (ownRows deviceId records).reverse.mergeSort precedes =
      (ownRows deviceId records).mergeSort precedes :=
    mergeSort_eq_of_perm precedes_trans precedes_total (List.reverse_perm _)
      fun a ha b hb => eq_of_precedes (hmem ha) (hmem hb)
  rw [← hperm, ← hties, newest, ← map_fst_ownRows, ← List.map_reverse]
  exact List.map_mergeSort fun a _ b _ => rfl

/-- The history of a device is its records, newest first. -/
theorem history_holding (now : Clock) (deviceId : Int) (records : List Record) :
    ∃ rows : List (Record × Nat), rows.map Prod.fst = newest deviceId records ∧
      (Table.holding records).history now deviceId = rows.map fun p => .ofRecord p.1 p.2 := by
  refine ⟨_, map_fst_mergeSort_ownRows deviceId records, ?_⟩
  have hsamples : (Table.holding records).rows.map (Row.normalise now) =
      (records.zipIdx 1).map fun p => Sample.ofRecord p.1 p.2 := by
    unfold Table.holding
    rw [List.map_map]
    exact List.map_congr_left fun p _ => Row.normalise_own now p.1 p.2
  unfold Table.history
  have hsort : ((ownRows deviceId records).mergeSort precedes).map
        (fun p => Sample.ofRecord p.1 p.2) =
      ((ownRows deviceId records).map fun p => Sample.ofRecord p.1 p.2).mergeSort Sample.newer :=
    List.map_mergeSort fun a _ b _ => rfl
  rw [hsamples, List.filter_map, hsort]
  rfl

/-! ### Answers -/

theorem mapM_eq_ok {ε α β : Type} {f : α → Except ε β} {R : α → β → Prop} {l : List α}
    (h : ∀ a ∈ l, ∃ b, f a = .ok b ∧ R a b) :
    ∃ bs, l.mapM f = .ok bs ∧ List.Forall₂ R l bs := by
  induction l with
  | nil => exact ⟨[], rfl, .nil⟩
  | cons a rest ih =>
      obtain ⟨b, hb, hab⟩ := h a (List.mem_cons_self ..)
      obtain ⟨bs, hbs, hrest⟩ := ih fun a' ha' => h a' (List.mem_cons_of_mem a ha')
      refine ⟨b :: bs, ?_, .cons hab hrest⟩
      rw [List.mapM_cons, hb, hbs]
      rfl

/-- An answer is made of the newest records, each with its values. -/
theorem answer_holding {records : List Record} (hfinite : ∀ r ∈ records, r.reading.Finite)
    (now : Clock) (deviceId : Int) (count : Nat) :
    ∃ answer, (Table.holding records).answer now (.lastN deviceId count) = .ok answer ∧
      List.Forall₂ Record.Agrees ((newest deviceId records).take (min count Table.maxCount))
        answer := by
  obtain ⟨rows, hrows, hhistory⟩ := history_holding now deviceId records
  have hread : ∀ p ∈ rows.take (min count Table.maxCount), ∃ s : Record,
      (Sample.ofRecord p.1 p.2).toRecord deviceId = .ok s ∧ p.1.Agrees s := by
    intro p hp
    have hp' : p.1 ∈ newest deviceId records :=
      hrows ▸ List.mem_map_of_mem (List.mem_of_mem_take hp)
    obtain ⟨hmem, rfl⟩ := mem_newest.mp hp'
    exact Sample.exists_toRecord (hfinite p.1 hmem) p.2
  obtain ⟨answer, hanswer, hagree⟩ := mapM_eq_ok hread
  refine ⟨answer, ?_, ?_⟩
  · unfold Table.answer Table.selected
    dsimp only [Query.deviceId]
    rw [hhistory, ← List.map_take, List.mapM_map]
    exact hanswer
  · rw [← hrows, ← List.map_take, List.forall₂_map_left_iff]
    exact hagree

end Store
end TelemetryExport
