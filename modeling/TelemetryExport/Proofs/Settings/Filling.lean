import TelemetryExport.Proofs.Toml.Keys
import TelemetryExport.Settings.Reading

/-! # Filling a group of settings

A section is read key by key in the order of the document, and each key that is known changes one
setting.  If no key stands there twice, every setting is in the end what its own key says, or what
it was before (`fill_place`), and reading goes through exactly if every known key has a value that
can be read (`exists_fill_iff`).  So a relation that looks keys up, without any order, settles
what is read (`fill_eq_ok_iff`). -/

namespace TelemetryExport
namespace Settings

open Toml (Value Document)

variable {σ α : Type} {entries : List (Entry σ)} {s s' : σ} {d : Document} {v : Value}

theorem exists_read_of_iff {name : String} {read : Value → Except Mismatch α}
    {set : α → σ → σ} :
    (∃ change, (Entry.of name read set).read v = .ok change) ↔ ∃ a, read v = .ok a := by
  unfold Entry.of
  dsimp only
  cases read v with
  | error m => exact ⟨nofun, nofun⟩
  | ok a => exact ⟨fun _ => ⟨a, rfl⟩, fun _ => ⟨set a, rfl⟩⟩

theorem eq_of_read_of {name : String} {read : Value → Except Mismatch α} {set : α → σ → σ}
    {change : σ → σ} (h : (Entry.of name read set).read v = .ok change) :
    ∃ a, read v = .ok a ∧ change = set a := by
  unfold Entry.of at h
  dsimp only at h
  cases hread : read v with
  | error m =>
      rw [hread] at h
      cases h
  | ok a =>
      rw [hread] at h
      cases h
      exact ⟨a, rfl, rfl⟩

/-- The entry changes nothing that `get` finds. -/
def Entry.Keeps (e : Entry σ) (get : σ → α) : Prop :=
  ∀ v change, e.read v = .ok change → ∀ s, get (change s) = get s

theorem Entry.keeps_of {β : Type} {name : String} {read : Value → Except Mismatch β}
    {set : β → σ → σ} {get : σ → α} (h : ∀ b s, get (set b s) = get s) :
    (Entry.of name read set).Keeps get := by
  intro v change hread s
  obtain ⟨b, -, rfl⟩ := eq_of_read_of hread
  exact h b s

/-- The entry of this name puts what it reads where `get` finds it, and no other entry changes
that. -/
structure Places (entries : List (Entry σ)) (name : String) (read : Value → Except Mismatch α)
    (get : σ → α) : Prop where
  own : ∃ set, entries.find? (·.name == name) = some (.of name read set) ∧
    ∀ a s, get (set a s) = a
  others : ∀ e ∈ entries, e.name = name ∨ e.Keeps get

theorem Places.here {name : String} {read : Value → Except Mismatch α} {get : σ → α}
    {set : α → σ → σ} (hset : ∀ a s, get (set a s) = a) (hrest : ∀ e ∈ entries, e.Keeps get) :
    Places (.of name read set :: entries) name read get := by
  refine ⟨⟨set, ?_, hset⟩, List.forall_mem_cons.mpr ⟨.inl rfl, fun e he => .inr (hrest e he)⟩⟩
  exact List.find?_cons_of_pos (beq_self_eq_true name)

theorem Places.there {β : Type} {name other : String} {read : Value → Except Mismatch α}
    {get : σ → α} {read' : Value → Except Mismatch β} {set' : β → σ → σ} (hne : other ≠ name)
    (hkeeps : ∀ b s, get (set' b s) = get s) (hplaces : Places entries name read get) :
    Places (.of other read' set' :: entries) name read get := by
  obtain ⟨set, hfind, hset⟩ := hplaces.own
  refine ⟨⟨set, ?_, hset⟩,
    List.forall_mem_cons.mpr ⟨.inr (Entry.keeps_of hkeeps), hplaces.others⟩⟩
  rwa [List.find?_cons_of_neg (p := fun e : Entry σ => e.name == name)
    (mt beq_iff_eq.mp hne : ¬ (other == name) = true)]

theorem mem_of_find? {key : String} {e : Entry σ}
    (h : entries.find? (·.name == key) = some e) : e ∈ entries ∧ e.name = key := by
  have hname := List.find?_some h
  exact ⟨List.mem_of_find?_eq_some h, beq_iff_eq.mp hname⟩

/-- What becomes of the first key: nobody knows it, or it is read and makes its change. -/
theorem fill_cons_cases {key : String} {rest : Document}
    (h : fill entries s ((key, v) :: rest) = .ok s') :
    (entries.find? (·.name == key) = none ∧ fill entries s rest = .ok s') ∨
      ∃ e change, entries.find? (·.name == key) = some e ∧ e.read v = .ok change ∧
        fill entries (change s) rest = .ok s' := by
  unfold fill at h
  cases hfind : entries.find? (·.name == key) with
  | none =>
      rw [hfind] at h
      exact .inl ⟨rfl, h⟩
  | some e =>
      rw [hfind] at h
      dsimp only at h
      cases hread : e.read v with
      | error m =>
          rw [hread] at h
          cases h
      | ok change =>
          rw [hread] at h
          exact .inr ⟨e, change, rfl, hread, h⟩

/-- A setting ends as what its key says, or as it was if there is no such key. -/
theorem fill_place {name : String} {read : Value → Except Mismatch α} {get : σ → α}
    (hplaces : Places entries name read get) (hkeys : (d.map Prod.fst).Nodup)
    (h : fill entries s d = .ok s') :
    match d.lookup name with
    | none => get s' = get s
    | some v => read v = .ok (get s') := by
  induction d generalizing s with
  | nil =>
      cases h
      rfl
  | cons e rest ih =>
      obtain ⟨key, v⟩ := e
      obtain ⟨hkey, hrest⟩ := List.nodup_cons.mp hkeys
      obtain ⟨set, hfind, hset⟩ := hplaces.own
      rw [List.lookup_cons]
      by_cases hname : name = key
      · -- the key itself: it does not come again
        subst hname
        rw [beq_self_eq_true]
        obtain ⟨hnone, -⟩ | ⟨e, change, hsome, hread, h⟩ := fill_cons_cases h
        · rw [hfind] at hnone
          cases hnone
        · rw [hfind] at hsome
          cases hsome
          obtain ⟨a, ha, rfl⟩ := eq_of_read_of hread
          have hend := ih hrest h
          rw [Toml.lookup_eq_none_iff_notMem.mpr hkey] at hend
          dsimp only at hend ⊢
          rw [hend, hset, ha]
      · rw [beq_eq_false_iff_ne.mpr hname]
        obtain ⟨-, h⟩ | ⟨e, change, hsome, hread, h⟩ := fill_cons_cases h
        · exact ih hrest h
        · have hend := ih hrest h
          obtain ⟨hmem, hekey⟩ := mem_of_find? hsome
          have hkeeps := (hplaces.others e hmem).resolve_left
            fun he => hname (he.symm.trans hekey)
          rw [hkeeps v change hread] at hend
          exact hend

theorem forall_lookup_cons_iff {key : String} {P : Entry σ → Value → Prop}
    (hkey : key ∉ d.map Prod.fst) :
    (∀ e ∈ entries, ∀ w, List.lookup e.name ((key, v) :: d) = some w → P e w) ↔
      (∀ e ∈ entries, e.name = key → P e v) ∧
        ∀ e ∈ entries, ∀ w, d.lookup e.name = some w → P e w := by
  constructor
  · intro h
    refine ⟨fun e he hname => h e he v ?_, fun e he w hw => h e he w ?_⟩
    · rw [hname, List.lookup_cons_self]
    · have hne : e.name ≠ key := by
        intro hname
        rw [hname, Toml.lookup_eq_none_iff_notMem.mpr hkey] at hw
        cases hw
      rw [List.lookup_cons, beq_eq_false_iff_ne.mpr hne]
      exact hw
  · rintro ⟨hhead, hrest⟩ e he w hw
    by_cases hname : e.name = key
    · rw [hname, List.lookup_cons_self] at hw
      cases hw
      exact hhead e he hname
    · rw [List.lookup_cons, beq_eq_false_iff_ne.mpr hname] at hw
      exact hrest e he w hw

/-- Filling goes through exactly if every known key that is there can be read. -/
theorem exists_fill_iff (hnames : (entries.map Entry.name).Nodup)
    (hkeys : (d.map Prod.fst).Nodup) :
    (∃ s', fill entries s d = .ok s') ↔
      ∀ e ∈ entries, ∀ v, d.lookup e.name = some v → ∃ change, e.read v = .ok change := by
  induction d generalizing s with
  | nil => exact ⟨fun _ _ _ _ h => (nomatch h), fun _ => ⟨s, rfl⟩⟩
  | cons e rest ih =>
      obtain ⟨key, v⟩ := e
      obtain ⟨hkey, hrest⟩ := List.nodup_cons.mp hkeys
      rw [forall_lookup_cons_iff hkey]
      unfold fill
      cases hfind : entries.find? (·.name == key) with
      | none =>
          have hnone : ∀ e ∈ entries, e.name = key → ∃ change, e.read v = .ok change :=
            fun e he hname => absurd (beq_iff_eq.mpr hname) (List.find?_eq_none.mp hfind e he)
          rw [and_iff_right hnone]
          exact ih hrest
      | some known =>
          obtain ⟨hknown, hname⟩ := mem_of_find? hfind
          dsimp only
          cases hread : known.read v with
          | error m =>
              refine ⟨nofun, fun h => ?_⟩
              obtain ⟨change, hchange⟩ := h.1 known hknown hname
              rw [hread] at hchange
              cases hchange
          | ok change =>
              -- no two entries have a name in common
              have honly : ∀ e ∈ entries, e.name = key → ∃ change, e.read v = .ok change := by
                intro e he hkey
                obtain rfl := List.inj_on_of_nodup_map hnames he hknown (hkey.trans hname.symm)
                exact ⟨change, hread⟩
              rw [and_iff_right honly]
              exact ih hrest

/-- Reading a group is settled by a relation that reading keeps, that no two results satisfy, and
that only readable keys allow. -/
theorem fill_eq_ok_iff {Holds : σ → Prop} (hnames : (entries.map Entry.name).Nodup)
    (hkeys : (d.map Prod.fst).Nodup) (hsound : ∀ s', fill entries s d = .ok s' → Holds s')
    (hreadable : ∀ s', Holds s' → ∀ e ∈ entries, ∀ v, d.lookup e.name = some v →
      ∃ change, e.read v = .ok change)
    (hunique : ∀ s' s'', Holds s' → Holds s'' → s' = s'') :
    fill entries s d = .ok s' ↔ Holds s' := by
  refine ⟨hsound s', fun h => ?_⟩
  obtain ⟨s'', hfill⟩ := (exists_fill_iff (s := s) hnames hkeys).mpr (hreadable s' h)
  rw [hfill, hunique s' s'' h (hsound s'' hfill)]

end Settings
end TelemetryExport
