import Mathlib.Data.Finset.Card
import Mathlib.Data.Int.Interval
import TelemetryExport.Store.Answer
import TelemetryExport.Store.File

/-! # Row numbers

`Numbering.next?_cases` says where a number comes from that is given out.  It is not in use, and it
is greater than all numbers in use, unless numbers are drawn because the greatest number of all is
among them (`NewNumber`, `Numbering.newNumber_of_next?`).  `NewInTurn` is the same for one number
after the other; those of a sequence are consecutive (`Table.next?_of_insert`).

So no two rows of a table have the same number, and there are never more of them than can be asked
for (`Table.Keyed`), whatever rows were added and taken away before (`Table.Made.keyed`). -/

namespace TelemetryExport
namespace Store

/-! ### Numbers -/

theorem lt_following {used : List Int} {id : Int} (h : id ∈ used) : id < following used := by
  unfold following
  cases hmax : used.max? with
  | none =>
      rw [List.max?_eq_none_iff] at hmax
      exact absurd (hmax ▸ h) List.not_mem_nil
  | some greatest =>
      have hle := (List.max?_le_iff hmax).mp le_rfl id h
      exact Int.lt_add_one_of_le hle

/-- Positive numbers are followed by a positive one, and so is no number at all. -/
theorem one_le_following {used : List Int} (h : ∀ id ∈ used, 1 ≤ id) : 1 ≤ following used := by
  unfold following
  cases hmax : used.max? with
  | none => exact le_rfl
  | some greatest =>
      have hgreatest := h greatest (List.max?_mem hmax)
      dsimp only
      omega

theorem following_le {used : List Int} {bound : Int} (hbound : 1 ≤ bound)
    (h : ∀ id ∈ used, id < bound) : following used ≤ bound := by
  unfold following
  cases hmax : used.max? with
  | none => exact hbound
  | some greatest => exact h greatest (List.max?_mem hmax)

theorem following_append {used : List Int} {id : Int} (h : ∀ i ∈ used, i < id) :
    following (used ++ [id]) = id + 1 := by
  have hmax : (used ++ [id]).max? = some id := by
    rw [List.max?_eq_some_iff, List.forall_mem_append, List.forall_mem_singleton]
    exact ⟨List.mem_concat_self, fun i hi => (h i hi).le, le_rfl⟩
  unfold following
  rw [hmax]

theorem one_le_drawn (word : UInt64) : 1 ≤ drawn word := by
  unfold drawn
  omega

theorem drawn_le (word : UInt64) : drawn word ≤ maxInt64 := by
  unfold drawn maxInt64
  omega

/-- A drawn number comes from one of the words, and is not in use. -/
theorem draw?_eq_some {used : List Int} {tries : Nat} {words rest : List UInt64} {id : Int}
    (h : draw? used tries words = some (id, rest)) : id ∉ used ∧ ∃ word, id = drawn word := by
  induction tries generalizing words with
  | zero => cases h
  | succ tries ih =>
      cases words with
      | nil => cases h
      | cons word words =>
          unfold draw? at h
          split_ifs at h with hused
          · exact ih h
          · cases h
            exact ⟨hused, word, rfl⟩

/-- How a new number stands to those in use, and to those given out in sequence. -/
structure NewNumber (sequential : Bool) (used : List Int) (id : Int) : Prop where
  notMem : id ∉ used
  le_maxInt64 : id ≤ maxInt64
  /-- Numbers grow, but for those that are drawn after the greatest one. -/
  greater : (sequential = true ∨ ∀ i ∈ used, i < maxInt64) → ∀ i ∈ used, i < id

theorem NewNumber.of_greater {sequential : Bool} {used : List Int} {id : Int}
    (hle : id ≤ maxInt64) (h : ∀ i ∈ used, i < id) : NewNumber sequential used id :=
  ⟨fun hid => lt_irrefl id (h id hid), hle, fun _ => h⟩

/-- The numbers are new, each of them where those before it are in use. -/
def NewInTurn (sequential : Bool) : (used ids : List Int) → Prop
  | _, [] => True
  | used, id :: ids => NewNumber sequential used id ∧ NewInTurn sequential (used ++ [id]) ids

theorem NewInTurn.append {sequential : Bool} {used ids ids' : List Int}
    (h : NewInTurn sequential used ids) (h' : NewInTurn sequential (used ++ ids) ids') :
    NewInTurn sequential used (ids ++ ids') := by
  induction ids generalizing used with
  | nil => rwa [List.append_nil] at h'
  | cons id ids ih =>
      rw [← List.singleton_append, ← List.append_assoc] at h'
      exact ⟨h.1, ih h.2 h'⟩

/-- As many numbers as `count` says, one after the other. -/
def consecutive (first : Int) (count : Nat) : List Int :=
  (List.range count).map fun i : Nat => first + i

theorem consecutive_one (first : Int) : consecutive first 1 = [first] := by
  simp [consecutive]

theorem consecutive_add (first : Int) (m n : Nat) :
    consecutive first (m + n) = consecutive first m ++ consecutive (first + m) n := by
  unfold consecutive
  rw [List.range_add, List.map_append, List.map_map]
  refine congrArg _ (List.map_congr_left fun i _ => ?_)
  show first + ((m + i : Nat) : Int) = first + (m : Int) + i
  rw [Nat.cast_add, add_assoc]

namespace Numbering

variable {n n' : Numbering} {used : List Int} {id : Int}

/-- Where a number comes from that is given out. -/
theorem next?_cases (h : n.next? used = some (id, n')) :
    (∃ last, n = sequence last ∧ n' = sequence id ∧ id ≤ maxInt64 ∧
      id = max (last + 1) (following used)) ∨
    ∃ words words', n = vacancy words ∧ n' = vacancy words' ∧
      (id = following used ∧ id ≤ maxInt64 ∨
        maxInt64 < following used ∧ id ∉ used ∧ ∃ word, id = drawn word) := by
  unfold next? at h
  cases n with
  | sequence last =>
      dsimp only at h
      split_ifs at h with hle
      cases h
      exact .inl ⟨last, rfl, rfl, hle, rfl⟩
  | vacancy words =>
      dsimp only at h
      split_ifs at h with hle
      · cases h
        exact .inr ⟨words, words, rfl, rfl, .inl ⟨rfl, hle⟩⟩
      · obtain ⟨⟨id', rest⟩, hdraw, heq⟩ := Option.map_eq_some_iff.mp h
        cases heq
        exact .inr ⟨words, rest, rfl, rfl, .inr ⟨not_le.mp hle, draw?_eq_some hdraw⟩⟩

theorem newNumber_of_next? (h : n.next? used = some (id, n')) :
    NewNumber n.isSequence used id := by
  rcases next?_cases h with ⟨last, -, -, hle, rfl⟩ | ⟨words, words', rfl, -, hid⟩
  · exact .of_greater hle fun i hi => lt_max_of_lt_right (lt_following hi)
  · rcases hid with ⟨rfl, hle⟩ | ⟨hfull, hfresh, word, rfl⟩
    · exact .of_greater hle fun i hi => lt_following hi
    · refine ⟨hfresh, drawn_le word, fun hgrow => ?_⟩
      rcases hgrow with hsequence | hfree
      · cases hsequence
      · exact absurd (following_le (by decide) hfree) (not_le.mpr hfull)

theorem one_le_of_next? (h : n.next? used = some (id, n')) (hused : ∀ i ∈ used, 1 ≤ i) :
    1 ≤ id := by
  have hfollowing := one_le_following hused
  rcases next?_cases h with ⟨last, -, -, -, rfl⟩ | ⟨words, words', -, -, hid⟩
  · exact le_max_of_le_right hfollowing
  · rcases hid with ⟨rfl, -⟩ | ⟨-, -, word, rfl⟩
    · exact hfollowing
    · exact one_le_drawn word

theorem isSequence_of_next? (h : n.next? used = some (id, n')) :
    n'.isSequence = n.isSequence := by
  rcases next?_cases h with ⟨last, rfl, rfl, -⟩ | ⟨words, words', rfl, rfl, -⟩
  · rfl
  · rfl

end Numbering

/-! ### Tables -/

namespace Table

structure Keyed (t : Table) : Prop where
  nodup : (t.rows.map (·.id)).Nodup
  /-- The rows can be counted by signed 64-bit integers. -/
  length_le : t.rows.length ≤ maxCount

/-- An accepted row stands behind all others, with the next number. -/
theorem exists_of_insert {t t' : Table} {c : Cells} (h : t.insert c = .ok t') :
    ∃ id n, t.numbering.next? t.used = some (id, n) ∧
      t' = { t with rows := t.rows ++ [⟨id, c.convert t.schema⟩], numbering := n } := by
  unfold Table.insert at h
  split at h
  · cases h
  · next id n hnext =>
      refine ⟨id, n, hnext, ?_⟩
      split at h
      · cases h
      · cases h
        rfl

theorem used_append (t : Table) (row : Row) (n : Numbering) :
    ({ t with rows := t.rows ++ [row], numbering := n } : Table).used = t.used ++ [row.id] :=
  List.map_append

/-- The number with which the table goes on, if it keeps a sequence. -/
def next? (t : Table) : Option Int :=
  match t.numbering with
  | .sequence last => some (max (last + 1) (following t.used))
  | .vacancy _ => none

theorem next?_of_sequence {t : Table} {last : Int} (h : t.numbering = .sequence last) :
    t.next? = some (max (last + 1) (following t.used)) := by
  unfold next?
  rw [h]

/-- A sequence goes on by one. -/
theorem next?_of_insert {t u : Table} {c : Cells} {first : Int} (hinsert : t.insert c = .ok u)
    (h : t.next? = some first) : u.used = t.used ++ [first] ∧ u.next? = some (first + 1) := by
  obtain ⟨id, n, hnext, rfl⟩ := exists_of_insert hinsert
  rcases Numbering.next?_cases hnext with ⟨last, hlast, rfl, -, hid⟩ | ⟨words, words', hn, -⟩
  · rw [next?_of_sequence hlast, ← hid] at h
    cases h
    have hgreater := (Numbering.newNumber_of_next? hnext).greater (.inl (by rw [hlast]; rfl))
    refine ⟨used_append t _ _, ?_⟩
    rw [next?_of_sequence rfl, used_append, following_append hgreater, max_self]
  · unfold next? at h
    rw [hn] at h
    cases h

/-- The numbers of the rows are distinct and positive. -/
structure Numbered (t : Table) : Prop where
  nodup : t.used.Nodup
  range : ∀ id ∈ t.used, 1 ≤ id ∧ id ≤ maxInt64

theorem Numbered.insert {t t' : Table} {c : Cells} (h : t.Numbered)
    (hinsert : t.insert c = .ok t') : t'.Numbered := by
  obtain ⟨id, n, hnext, rfl⟩ := exists_of_insert hinsert
  have hnew := Numbering.newNumber_of_next? hnext
  refine ⟨?_, ?_⟩
  · rw [used_append]
    refine List.nodup_append.mpr ⟨h.nodup, List.nodup_singleton id, ?_⟩
    rintro i hi j hj rfl
    obtain rfl : i = id := List.mem_singleton.mp hj
    exact hnew.notMem hi
  · rw [used_append, List.forall_mem_append, List.forall_mem_singleton]
    exact ⟨h.range, Numbering.one_le_of_next? hnext fun i hi => (h.range i hi).1,
      hnew.le_maxInt64⟩

theorem Numbered.delete {t : Table} (h : t.Numbered) (id : Int) : (t.delete id).Numbered := by
  have hsublist : (t.delete id).used.Sublist t.used := List.filter_sublist.map _
  exact ⟨h.nodup.sublist hsublist, fun i hi => h.range i (hsublist.mem hi)⟩

theorem Numbered.length_le {t : Table} (h : t.Numbered) : t.rows.length ≤ maxCount := by
  have hsubset : t.used.toFinset ⊆ Finset.Icc 1 maxInt64 := by
    intro id hid
    rw [List.mem_toFinset] at hid
    exact Finset.mem_Icc.mpr (h.range id hid)
  have hcard := Finset.card_le_card hsubset
  rwa [List.toFinset_card_of_nodup h.nodup, Int.card_Icc, used, List.length_map] at hcard

/-- The tables that begin empty, and that rows are added to and taken from one by one. -/
inductive Made : Table → Prop
  | empty (schema : Schema) (numbering : Numbering) (indexed : Bool) :
      Made ⟨schema, [], numbering, indexed⟩
  | index {t : Table} (h : Made t) : Made { t with indexed := true }
  | insert {t t' : Table} {c : Cells} (h : Made t) (hinsert : t.insert c = .ok t') : Made t'
  | delete {t : Table} (h : Made t) (id : Int) : Made (t.delete id)

theorem Made.numbered {t : Table} (h : t.Made) : t.Numbered := by
  induction h with
  | empty schema numbering indexed => exact ⟨.nil, fun _ hid => absurd hid List.not_mem_nil⟩
  | index _ ih => exact ⟨ih.nodup, ih.range⟩
  | insert _ hinsert ih => exact ih.insert hinsert
  | delete _ id ih => exact ih.delete id

/-- However a table was made, it is keyed. -/
theorem Made.keyed {t : Table} (h : t.Made) : t.Keyed :=
  ⟨h.numbered.nodup, h.numbered.length_le⟩

end Table

/-- The table in the file, if there is one, has keyed rows. -/
def File.Keyed (f : File) : Prop := ∀ t, f.content = .database (some t) → t.Keyed

end Store
end TelemetryExport
