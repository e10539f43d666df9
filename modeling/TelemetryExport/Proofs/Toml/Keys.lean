import Mathlib.Data.List.Nodup
import Mathlib.Data.Option.Basic
import TelemetryExport.Toml.Table

/-! # No key twice

A table is a list of keys with their values, and nothing in its type keeps a key from standing
there twice.  That it never does is a property of how documents are read: a key is only added
where there is none (`Entries.Proper.append`), a table that grows takes its own place
(`Entries.Proper.replace`), and one that is moved is taken away before it is added again
(`Entries.Proper.remove`).  `Document.proper_of_parse?` says so of the whole document, at any
depth. -/

namespace TelemetryExport
namespace Toml

theorem mem_of_lookup {α : Type} {l : List (String × α)} {key : String} {a : α}
    (h : l.lookup key = some a) : (key, a) ∈ l := by
  obtain ⟨before, after, rfl, -⟩ := List.lookup_eq_some_iff.mp h
  simp

theorem lookup_eq_none_iff_notMem {α : Type} {l : List (String × α)} {key : String} :
    l.lookup key = none ↔ key ∉ l.map Prod.fst := by
  rw [List.lookup_eq_none_iff, List.mem_map]
  constructor
  · rintro h ⟨e, he, rfl⟩
    exact absurd (h e he) (by simp)
  · exact fun h e he => bne_iff_ne.mpr fun heq => h ⟨e, he, heq.symm⟩

/-- No table in the value, at any depth, has a key twice. -/
inductive Value.Proper : Value → Prop
  | string (text : String) : Proper (.string text)
  | integer (i : Int) : Proper (.integer i)
  | float (x : Double) : Proper (.float x)
  | boolean (b : Bool) : Proper (.boolean b)
  | dateTime (text : String) : Proper (.dateTime text)
  | array {items : List Value} (hitems : ∀ v ∈ items, v.Proper) : Proper (.array items)
  | table {d : Document} (hkeys : (d.map Prod.fst).Nodup) (hvalues : ∀ e ∈ d, e.2.Proper) :
      Proper (.table d)

theorem Value.proper_array_iff {items : List Value} :
    (Value.array items).Proper ↔ ∀ v ∈ items, v.Proper :=
  ⟨fun | .array hitems => hitems, .array⟩

theorem Value.proper_table_iff {d : Document} :
    (Value.table d).Proper ↔ (d.map Prod.fst).Nodup ∧ ∀ e ∈ d, e.2.Proper :=
  ⟨fun | .table hkeys hvalues => ⟨hkeys, hvalues⟩, fun h => .table h.1 h.2⟩

theorem Value.Proper.nodup {d : Document} (h : (Value.table d).Proper) : (d.map Prod.fst).Nodup :=
  (proper_table_iff.mp h).1

theorem Value.Proper.of_lookup {d : Document} {key : String} {v : Value}
    (h : (Value.table d).Proper) (hlookup : d.lookup key = some v) : v.Proper :=
  (proper_table_iff.mp h).2 (key, v) (mem_of_lookup hlookup)

/-! ### Tables that grow -/

theorem Node.toDocument_eq_map (es : Entries) :
    Node.toDocument es = es.map fun e => (e.1, e.2.toValue) := by
  induction es with
  | nil => rw [toDocument, List.map_nil]
  | cons e rest ih => rw [toDocument, ih, List.map_cons]

theorem Node.toTables_eq_map (tables : List Entries) :
    Node.toTables tables = tables.map fun es => .table (toDocument es) := by
  induction tables with
  | nil => rw [toTables, List.map_nil]
  | cons es rest ih => rw [toTables, ih, List.map_cons]

namespace Entries

/-- What the entries have grown to is proper. -/
def Proper (es : Entries) : Prop := (Value.table (Node.toDocument es)).Proper

theorem proper_iff {es : Entries} :
    es.Proper ↔ (es.map Prod.fst).Nodup ∧ ∀ e ∈ es, e.2.toValue.Proper := by
  rw [Proper, Value.proper_table_iff, Node.toDocument_eq_map, List.map_map, List.forall_mem_map]
  rfl

theorem proper_nil : Proper [] := proper_iff.mpr ⟨List.nodup_nil, nofun⟩

end Entries

theorem Node.proper_toValue_table {origin : Origin} {es : Entries} :
    (Node.table origin es).toValue.Proper ↔ es.Proper := by
  rw [toValue, Entries.Proper]

theorem Node.proper_toValue_tables {earlier : List Entries} {latest : Entries} :
    (Node.tables earlier latest).toValue.Proper ↔
      (∀ es ∈ earlier, es.Proper) ∧ latest.Proper := by
  rw [toValue, Value.proper_array_iff, toTables_eq_map, List.forall_mem_append,
    List.forall_mem_map, List.forall_mem_singleton]
  rfl

namespace Entries

variable {es es' : Entries} {key : String} {node : Node}

theorem Proper.of_lookup (hes : es.Proper) (h : es.lookup key = some node) :
    node.toValue.Proper :=
  (proper_iff.mp hes).2 (key, node) (mem_of_lookup h)

theorem Proper.append (hes : es.Proper) (hkey : es.lookup key = none)
    (hnode : node.toValue.Proper) : Proper (es ++ [(key, node)]) := by
  obtain ⟨hkeys, hvalues⟩ := proper_iff.mp hes
  have hnew : key ∉ es.map Prod.fst := lookup_eq_none_iff_notMem.mp hkey
  refine proper_iff.mpr ⟨?_, ?_⟩
  · rw [List.map_append]
    exact hkeys.append (List.nodup_singleton _) (List.disjoint_singleton.mpr hnew)
  · exact List.forall_mem_append.mpr ⟨hvalues, List.forall_mem_singleton.mpr hnode⟩

theorem Proper.replace (hes : es.Proper) (hnode : node.toValue.Proper) :
    (es.replace key node).Proper := by
  obtain ⟨hkeys, hvalues⟩ := proper_iff.mp hes
  have hsame : (es.replace key node).map Prod.fst = es.map Prod.fst := by
    unfold Entries.replace
    rw [List.map_map]
    refine List.map_congr_left fun e _ => ?_
    dsimp only [Function.comp_apply]
    split_ifs with heq
    · exact heq.symm
    · rfl
  refine proper_iff.mpr ⟨hsame ▸ hkeys, List.forall_mem_map.mpr fun e he => ?_⟩
  split_ifs
  · exact hnode
  · exact hvalues e he

theorem Proper.remove (hes : es.Proper) (key : String) : (es.remove key).Proper := by
  obtain ⟨hkeys, hvalues⟩ := proper_iff.mp hes
  exact proper_iff.mpr ⟨hkeys.sublist (List.filter_sublist.map _),
    fun e he => hvalues e (List.mem_of_mem_filter he)⟩

theorem lookup_remove (es : Entries) (key : String) : (es.remove key).lookup key = none := by
  refine List.lookup_eq_none_iff.mpr fun e he => ?_
  have hne := (List.mem_filter.mp he).2
  rw [bne_comm]
  exact hne

/-- Whatever is done to the table at the end of a path, the tables on the way stay proper. -/
theorem Proper.reach {dotted : Bool} {act? : Origin → Entries → Option Entries}
    (hact : ∀ origin es es', act? origin es = some es' → es.Proper → es'.Proper)
    {path : List String} {origin : Origin} (h : reach? dotted act? path origin es = some es')
    (hes : es.Proper) : es'.Proper := by
  -- along the path: what lies below a key grows, and goes back to its place
  induction path generalizing origin es es' with
  | nil => exact hact origin es es' h hes
  | cons key path ih =>
      unfold reach? at h
      cases hlookup : es.lookup key with
      | none =>
          rw [hlookup] at h
          simp only [Option.bind_eq_bind, Option.bind_eq_some_iff, Option.pure_def,
            Option.some_inj] at h
          obtain ⟨inner, hinner, rfl⟩ := h
          exact hes.append hlookup (Node.proper_toValue_table.mpr (ih hinner proper_nil))
      | some node =>
          have hnode := hes.of_lookup hlookup
          rw [hlookup] at h
          cases node with
          | value v => cases h
          | table origin inner =>
              obtain ⟨-, -, h⟩ := Option.bind_eq_some_iff.mp h
              obtain ⟨changed, hchanged, h⟩ := Option.bind_eq_some_iff.mp h
              cases h
              rw [Node.proper_toValue_table] at hnode
              exact hes.replace (Node.proper_toValue_table.mpr (ih hchanged hnode))
          | tables earlier latest =>
              simp only [Option.bind_eq_bind, Option.bind_eq_some_iff, Option.pure_def,
                Option.some_inj] at h
              obtain ⟨changed, hchanged, rfl⟩ := h
              rw [Node.proper_toValue_tables] at hnode
              exact hes.replace
                (Node.proper_toValue_tables.mpr ⟨hnode.1, ih hchanged hnode.2⟩)

variable {path : Path} {v : Value} {pairs : List (Path × Value)}

theorem Proper.addPair (hes : es.Proper) (hv : v.Proper) (h : es.addPair? path v = some es') :
    es'.Proper := by
  refine hes.reach (fun origin es es' h hes => ?_) h
  obtain ⟨-, -, h⟩ := Option.bind_eq_some_iff.mp h
  unfold add? at h
  cases hlookup : es.lookup path.name with
  | some node =>
      rw [hlookup] at h
      cases h
  | none =>
      rw [hlookup] at h
      cases h
      exact hes.append hlookup (by rwa [Node.toValue])

theorem Proper.addPairs (hes : es.Proper) (hpairs : ∀ p ∈ pairs, p.2.Proper)
    (h : addPairs? pairs es = some es') : es'.Proper := by
  induction pairs generalizing es with
  | nil =>
      cases h
      exact hes
  | cons p rest ih =>
      obtain ⟨hp, hrest⟩ := List.forall_mem_cons.mp hpairs
      unfold addPairs? at h
      rw [List.foldlM_cons, Option.bind_eq_bind, Option.bind_eq_some_iff] at h
      obtain ⟨added, hadded, h⟩ := h
      exact ih (hes.addPair hp hadded) hrest h

theorem Proper.addTable (hes : es.Proper) (hpairs : ∀ p ∈ pairs, p.2.Proper)
    (h : es.addTable? path pairs = some es') : es'.Proper := by
  refine hes.reach (fun origin es es' h hes => ?_) h
  have hgrown : ∀ start : Entries, start.Proper →
      ((addPairs? pairs start).bind fun inner =>
        some (es.remove path.name ++ [(path.name, .table .written inner)])) = some es' →
      es'.Proper := by
    intro start hstart h
    obtain ⟨inner, hinner, h⟩ := Option.bind_eq_some_iff.mp h
    cases h
    exact (hes.remove _).append (lookup_remove es _)
      (Node.proper_toValue_table.mpr (hstart.addPairs hpairs hinner))
  dsimp only at h
  split at h
  · exact hgrown [] proper_nil h
  · rename_i inner hlookup
    exact hgrown inner (Node.proper_toValue_table.mp (hes.of_lookup hlookup)) h
  · cases h

theorem Proper.addElement (hes : es.Proper) (hpairs : ∀ p ∈ pairs, p.2.Proper)
    (h : es.addElement? path pairs = some es') : es'.Proper := by
  refine hes.reach (fun origin es es' h hes => ?_) h
  simp only [Option.bind_eq_bind, Option.bind_eq_some_iff, Option.pure_def] at h
  obtain ⟨element, helement, h⟩ := h
  have hproper := proper_nil.addPairs hpairs helement
  split at h
  · rename_i hlookup
    cases h
    exact hes.append hlookup (Node.proper_toValue_tables.mpr ⟨nofun, hproper⟩)
  · rename_i earlier latest hlookup
    cases h
    obtain ⟨hearlier, hlatest⟩ := Node.proper_toValue_tables.mp (hes.of_lookup hlookup)
    refine hes.replace (Node.proper_toValue_tables.mpr ⟨?_, hproper⟩)
    exact List.forall_mem_append.mpr ⟨hearlier, List.forall_mem_singleton.mpr hlatest⟩
  · cases h

end Entries

/-! ### Values that are read -/

namespace Value

/-- Whatever the reader makes of a text is proper. -/
def ProperReader (value? : ValueReader) : Prop :=
  ∀ cs v rest, value? cs = some (v, rest) → v.Proper

theorem proper_of_integer? {i : Int} {v : Value} (h : integer? i = some v) : v.Proper := by
  unfold integer? at h
  split_ifs at h
  cases h
  exact .integer i

theorem proper_of_float? {negative : Bool} {whole fraction : List Char} {exponent : Int}
    {v : Value} (h : float? negative whole fraction exponent = some v) : v.Proper := by
  unfold float? at h
  dsimp only at h
  split_ifs at h
  cases h
  exact .float _

theorem properReader_basedNumber? (base : Nat) : ProperReader (basedNumber? base) := by
  intro cs v rest h
  simp only [basedNumber?, Option.bind_eq_bind, Option.bind_eq_some_iff, Option.pure_def,
    Option.some_inj, Prod.mk.injEq] at h
  obtain ⟨_, -, i, hi, rfl, -⟩ := h
  exact proper_of_integer? hi

theorem properReader_decimalNumber? (negative : Bool) :
    ProperReader (decimalNumber? negative) := by
  intro cs v rest h
  simp only [decimalNumber?, Option.bind_eq_bind, Option.bind_eq_some_iff, Option.pure_def] at h
  obtain ⟨_, -, ⟨fraction, _⟩, -, ⟨exponent, _⟩, -, h⟩ := h
  split at h
  · obtain ⟨i, hi, h⟩ := Option.bind_eq_some_iff.mp h
    cases h
    exact proper_of_integer? hi
  · obtain ⟨x, hx, h⟩ := Option.bind_eq_some_iff.mp h
    cases h
    exact proper_of_float? hx

theorem properReader_specialFloat? (negative : Bool) :
    ProperReader (specialFloat? negative) := by
  intro cs v rest h
  unfold specialFloat? at h
  split at h
  · cases h
    exact .float _
  · cases h
    exact .float _
  · cases h

theorem properReader_orElse {first second : ValueReader} (hfirst : ProperReader first)
    (hsecond : ProperReader second) : ProperReader fun cs => first cs <|> second cs := by
  intro cs v rest h
  simp only [Option.orElse_eq_orElse, Option.orElse_eq_or, Option.or_eq_some_iff] at h
  rcases h with h | ⟨-, h⟩
  · exact hfirst cs v rest h
  · exact hsecond cs v rest h

theorem properReader_number? : ProperReader number? := by
  intro cs v rest h
  unfold number? at h
  split at h
  · exact properReader_basedNumber? 16 _ _ _ h
  · exact properReader_basedNumber? 8 _ _ _ h
  · exact properReader_basedNumber? 2 _ _ _ h
  · exact properReader_orElse (properReader_specialFloat? _) (properReader_decimalNumber? _)
      _ _ _ h

theorem properReader_map {α : Type} (read? : List Char → Option (α × List Char)) {make : α → Value}
    (hmake : ∀ a, (make a).Proper) :
    ProperReader fun cs => (read? cs).map fun p => (make p.1, p.2) := by
  intro cs v rest h
  obtain ⟨⟨a, _⟩, -, h⟩ := Option.map_eq_some_iff.mp h
  cases h
  exact hmake a

theorem properReader_scalar? : ProperReader scalar? := by
  have hkeyword : ProperReader keyword? := by
    intro cs v rest h
    unfold keyword? at h
    split at h
    · cases h
      exact .boolean true
    · cases h
      exact .boolean false
    · cases h
  exact properReader_orElse (properReader_map quoted? .string)
    (properReader_orElse hkeyword
      (properReader_orElse (properReader_map moment? .dateTime) properReader_number?))

variable {value? : ValueReader}

theorem proper_of_items? (hvalue : ProperReader value?) {fuel : Nat} {cs rest : List Char}
    {items : List Value} (h : items? value? fuel cs = some (items, rest)) :
    ∀ v ∈ items, v.Proper := by
  induction fuel generalizing cs items rest with
  | zero => cases h
  | succ fuel ih =>
      unfold items? at h
      split at h
      · cases h
        exact nofun
      · simp only [Option.bind_eq_bind, Option.bind_eq_some_iff] at h
        obtain ⟨⟨v, cs'⟩, hv, h⟩ := h
        have hproper := hvalue _ _ _ hv
        split at h
        · simp only [Option.bind_eq_some_iff, Option.pure_def, Option.some_inj,
            Prod.mk.injEq] at h
          obtain ⟨⟨more, _⟩, hmore, rfl, -⟩ := h
          exact List.forall_mem_cons.mpr ⟨hproper, ih hmore⟩
        · cases h
          exact List.forall_mem_singleton.mpr hproper
        · cases h

theorem proper_of_pair? (hvalue : ProperReader value?) {cs rest : List Char}
    {p : Path × Value} (h : pair? value? cs = some (p, rest)) : p.2.Proper := by
  simp only [pair?, Option.bind_eq_bind, Option.bind_eq_some_iff, Option.pure_def,
    Option.some_inj, Prod.mk.injEq] at h
  obtain ⟨⟨path, _⟩, -, _, -, ⟨v, _⟩, hv, rfl, -⟩ := h
  exact hvalue _ _ _ hv

theorem forall_of_separated? {α : Type} {P : α → Prop}
    {item? : List Char → Option (α × List Char)}
    (hitem : ∀ cs a rest, item? cs = some (a, rest) → P a) {separator : Char} {fuel : Nat}
    {cs rest : List Char} {items : List α}
    (h : separated? item? separator fuel cs = some (items, rest)) : ∀ a ∈ items, P a := by
  induction fuel generalizing cs items rest with
  | zero => cases h
  | succ fuel ih =>
      simp only [separated?, Option.bind_eq_bind, Option.bind_eq_some_iff] at h
      obtain ⟨⟨a, cs'⟩, ha, h⟩ := h
      have hproper := hitem _ _ _ ha
      split at h
      · cases h
        exact List.forall_mem_singleton.mpr hproper
      · simp only [Option.bind_eq_some_iff, Option.pure_def, Option.some_inj,
          Prod.mk.injEq] at h
        obtain ⟨⟨more, _⟩, hmore, rfl, -⟩ := h
        exact List.forall_mem_cons.mpr ⟨hproper, ih hmore⟩

theorem proper_of_inlinePairs? (hvalue : ProperReader value?) {cs rest : List Char}
    {pairs : List (Path × Value)} (h : inlinePairs? value? cs = some (pairs, rest)) :
    ∀ p ∈ pairs, p.2.Proper := by
  unfold inlinePairs? at h
  split at h
  · cases h
    exact nofun
  · simp only [Option.bind_eq_bind, Option.bind_eq_some_iff, Option.pure_def,
      Option.some_inj, Prod.mk.injEq] at h
    obtain ⟨⟨pairs, _⟩, hpairs, _, -, rfl, -⟩ := h
    exact forall_of_separated? (fun _ _ _ => proper_of_pair? hvalue) hpairs

theorem proper_of_inlineTable? {pairs : List (Path × Value)} {d : Document}
    (hpairs : ∀ p ∈ pairs, p.2.Proper) (h : inlineTable? pairs = some d) :
    (Value.table d).Proper := by
  obtain ⟨es, hes, rfl⟩ := Option.map_eq_some_iff.mp h
  exact Entries.proper_nil.addPairs hpairs hes

theorem properReader_value? (depth : Nat) : ProperReader (Toml.value? inlineTable? depth) := by
  induction depth with
  | zero => exact properReader_scalar?
  | succ depth ih =>
      intro cs v rest h
      unfold Toml.value? at h
      split at h
      · obtain ⟨⟨items, _⟩, hitems, h⟩ := Option.map_eq_some_iff.mp h
        cases h
        exact .array (proper_of_items? ih hitems)
      · simp only [Option.bind_eq_bind, Option.bind_eq_some_iff, Option.pure_def,
          Option.some_inj, Prod.mk.injEq] at h
        obtain ⟨⟨pairs, _⟩, hpairs, d, hd, rfl, -⟩ := h
        exact proper_of_inlineTable? (proper_of_inlinePairs? ih hpairs) hd
      · exact properReader_scalar? _ _ _ h

end Value

/-! ### Statements that are read -/

/-- The value of a pair is proper. -/
def Statement.Proper : Statement → Prop
  | pair _ v => v.Proper
  | header _ => True
  | elementHeader _ => True

theorem Statement.proper_of_statement? {cs rest : List Char} {s : Statement}
    (h : statement? inlineTable? cs = some (s, rest)) : s.Proper := by
  unfold statement? at h
  split at h
  · simp only [Option.bind_eq_bind, Option.bind_eq_some_iff, Option.pure_def, Option.some_inj,
      Prod.mk.injEq] at h
    obtain ⟨_, -, _, -, rfl, -⟩ := h
    trivial
  · obtain ⟨_, -, h⟩ := Option.map_eq_some_iff.mp h
    cases h
    trivial
  · obtain ⟨⟨p, _⟩, hp, h⟩ := Option.map_eq_some_iff.mp h
    cases h
    exact Value.proper_of_pair? (Value.properReader_value? _) hp

theorem Statement.proper_of_statements? {fuel : Nat} {cs : List Char}
    {statements : List Statement} (h : statements? inlineTable? fuel cs = some statements) :
    ∀ s ∈ statements, s.Proper := by
  induction fuel generalizing cs statements with
  | zero => cases h
  | succ fuel ih =>
      unfold statements? at h
      split at h
      · cases h
        exact nofun
      · split at h
        · exact ih h
        · simp only [Option.bind_eq_bind, Option.bind_eq_some_iff, Option.pure_def,
            Option.some_inj] at h
          obtain ⟨⟨s, _⟩, hs, _, -, more, hmore, rfl⟩ := h
          exact List.forall_mem_cons.mpr ⟨proper_of_statement? hs, ih hmore⟩

theorem proper_of_leadingPairs {statements : List Statement}
    (h : ∀ s ∈ statements, s.Proper) :
    (∀ p ∈ (leadingPairs statements).1, p.2.Proper) ∧
      ∀ s ∈ (leadingPairs statements).2, s.Proper := by
  induction statements with
  | nil => exact ⟨nofun, nofun⟩
  | cons s rest ih =>
      obtain ⟨hs, hrest⟩ := List.forall_mem_cons.mp h
      cases s with
      | pair path v =>
          obtain ⟨hpairs, hmore⟩ := ih hrest
          exact ⟨List.forall_mem_cons.mpr ⟨hs, hpairs⟩, hmore⟩
      | header path => exact ⟨nofun, h⟩
      | elementHeader path => exact ⟨nofun, h⟩

theorem Entries.Proper.addSections {es es' : Entries} {statements : List Statement}
    (hes : es.Proper) (hstatements : ∀ s ∈ statements, s.Proper)
    (h : es.addSections? statements = some es') : es'.Proper := by
  induction es, statements using Entries.addSections?.induct with
  | case1 es path rest pairs ih =>
      obtain ⟨hpairs, hmore⟩ := proper_of_leadingPairs (List.forall_mem_cons.mp hstatements).2
      rw [addSections?, Option.bind_eq_bind, Option.bind_eq_some_iff] at h
      obtain ⟨added, hadded, h⟩ := h
      exact ih added (hes.addTable hpairs hadded) hmore h
  | case2 es path rest pairs ih =>
      obtain ⟨hpairs, hmore⟩ := proper_of_leadingPairs (List.forall_mem_cons.mp hstatements).2
      rw [addSections?, Option.bind_eq_bind, Option.bind_eq_some_iff] at h
      obtain ⟨added, hadded, h⟩ := h
      exact ih added (hes.addElement hpairs hadded) hmore h
  | case3 es statements hheader helement =>
      rw [addSections?] at h
      · cases h
        exact hes
      · exact hheader
      · exact helement

/-- A document that is read has no key twice, in none of its tables. -/
theorem Document.proper_of_parse? {text : String} {d : Document} (h : parse? text = some d) :
    (Value.table d).Proper := by
  unfold parse? at h
  simp only [Option.bind_eq_bind, Option.bind_eq_some_iff] at h
  obtain ⟨statements, hread, h⟩ := h
  have hstatements := Statement.proper_of_statements? hread
  unfold Document.ofStatements? at h
  simp only [Option.bind_eq_bind, Option.bind_eq_some_iff, Option.pure_def, Option.some_inj] at h
  obtain ⟨root, hroot, es, hes, rfl⟩ := h
  obtain ⟨hpairs, hmore⟩ := proper_of_leadingPairs hstatements
  exact (Entries.proper_nil.addPairs hpairs hroot).addSections hmore hes

end Toml
end TelemetryExport
