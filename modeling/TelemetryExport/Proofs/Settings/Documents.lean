import Mathlib.Tactic.SplitIfs
import TelemetryExport.Proofs.Log
import TelemetryExport.Proofs.Settings.Filling
import TelemetryExport.Proofs.Toml.Keys
import TelemetryExport.Settings.Loading

/-! # The settings of a document

`Follows` says what settings a document asks for, by looking keys up: under each known key the
value that stands there, or the default.  It knows nothing of the order of sections and keys, and
nothing of keys with other names.  A document in which no key stands twice is read to just the
settings that follow it (`ofDocument_eq_ok_iff`), which exist exactly if all known keys have values
of their types (`exists_follows_iff`).  `decided` adds which of them can be used. -/

namespace TelemetryExport

open Toml (Value Document)

/-! ### Values -/

namespace Toml

namespace Value

def text? : Value → Option String
  | string text => some text
  | _ => none

def integer? : Value → Option Int
  | integer i => some i
  | _ => none

def natural? : Value → Option Nat
  | integer i => if 0 ≤ i then some i.toNat else none
  | _ => none

def isTable : Value → Bool
  | table _ => true
  | _ => false

end Value

/-- The value under a key of a section. -/
def Document.at? (d : Document) (group key : String) : Option Value :=
  match d.lookup group with
  | some (.table section_) => section_.lookup key
  | _ => none

/-- All sections that settings are read from are tables, if they are there. -/
def Document.Sectioned (d : Document) : Prop :=
  ∀ group ∈ ["server", "database", "export", "logging"],
    (d.lookup group).all Value.isTable = true

instance (d : Document) : Decidable d.Sectioned :=
  inferInstanceAs (Decidable (∀ group ∈ _, _))

end Toml

namespace Settings

/-! ### One setting -/

section Given

variable {α : Type} {read? : Value → Option α} {default a b : α} {v : Option Value}

/-- What a setting is: the value that may be there, as it is read, or else the default. -/
def Given (read? : Value → Option α) (default : α) (v : Option Value) (a : α) : Prop :=
  match v with
  | none => a = default
  | some v => read? v = some a

theorem Given.unique (h : Given read? default v a) (h' : Given read? default v b) : a = b := by
  cases v with
  | none => exact Eq.trans h (Eq.symm h')
  | some v => exact Option.some.inj (Eq.trans (Eq.symm h) h')

theorem exists_given_iff :
    (∃ a, Given read? default v a) ↔ v.all (fun w => (read? w).isSome) = true := by
  cases v with
  | none => exact ⟨fun _ => rfl, fun _ => ⟨default, rfl⟩⟩
  | some v => exact Option.isSome_iff_exists.symm

variable {σ : Type} {entries : List (Entry σ)} {name : String}
  {read : Value → Except Mismatch α} {get : σ → α} {s s' : σ} {d : Document}

/-- Filling a group gives each setting its own value. -/
theorem given_of_fill (hread : ∀ v a, read v = .ok a ↔ read? v = some a)
    (hkeys : (d.map Prod.fst).Nodup) (h : fill entries s d = .ok s')
    (hplaces : Places entries name read get) :
    Given read? (get s) (d.lookup name) (get s') := by
  have hplace := fill_place hplaces hkeys h
  cases hlookup : d.lookup name with
  | none =>
      rw [hlookup] at hplace
      exact hplace
  | some v =>
      rw [hlookup] at hplace
      exact (hread v _).mp hplace

/-- What was given can be read. -/
theorem Given.exists_read {set : α → σ → σ} (hread : ∀ v a, read v = .ok a ↔ read? v = some a)
    (h : Given read? default (d.lookup name) a) :
    ∀ v, d.lookup (Entry.of name read set).name = some v →
      ∃ change, (Entry.of name read set).read v = .ok change := by
  intro v hv
  rw [show (Entry.of name read set).name = name from rfl] at hv
  rw [hv] at h
  exact exists_read_of_iff.mpr ⟨a, (hread v a).mpr h⟩

end Given

theorem asText_eq_ok_iff (shape : Shape) (v : Value) (text : String) :
    asText shape v = .ok text ↔ v.text? = some text := by
  cases v <;> simp [asText, Value.text?]

theorem asInteger_eq_ok_iff (v : Value) (i : Int) : asInteger v = .ok i ↔ v.integer? = some i := by
  cases v <;> simp [asInteger, Value.integer?]

theorem asNatural_eq_ok_iff (shape : Shape) (v : Value) (n : Nat) :
    asNatural shape v = .ok n ↔ v.natural? = some n := by
  cases v with
  | integer i =>
      unfold asNatural Value.natural?
      dsimp only
      split_ifs
      · omega
      · simp
      · simp
      · omega
  | _ => simp [asNatural, Value.natural?]

end Settings

/-! ### Sections -/

open Settings

/-- The settings that the values found under the keys of the section ask for. -/
structure ServerSettings.Follows (find : String → Option Value) (s : ServerSettings) : Prop where
  bind : Given Value.text? "0.0.0.0:5003" (find "bind") s.bind
  maxConnections : Given Value.natural? 64 (find "max_connections") s.maxConnections
  readTimeoutSecs : Given Value.natural? 5 (find "read_timeout_secs") s.readTimeoutSecs

@[inherit_doc ServerSettings.Follows]
structure StoreSettings.Follows (find : String → Option Value) (s : StoreSettings) : Prop where
  path : Given Value.text? "mqtt_data.db" (find "path") s.path
  busyTimeoutMs : Given Value.natural? 5000 (find "busy_timeout_ms") s.busyTimeoutMs
  retryTimes : Given Value.natural? 3 (find "retry_times") s.retryTimes
  retryDelayMs : Given Value.natural? 100 (find "retry_delay_ms") s.retryDelayMs

@[inherit_doc ServerSettings.Follows]
structure ExportSettings.Follows (find : String → Option Value) (s : ExportSettings) : Prop where
  defaultDeviceId : Given Value.integer? 1 (find "default_device_id") s.defaultDeviceId
  recordCount : Given Value.natural? 30 (find "record_count") s.recordCount

@[inherit_doc ServerSettings.Follows]
structure LogSettings.Follows (find : String → Option Value) (s : LogSettings) : Prop where
  level : Given Value.text? "info" (find "level") s.level

variable {find : String → Option Value} {d : Document}

theorem ServerSettings.Follows.unique {s s' : ServerSettings} (h : s.Follows find)
    (h' : s'.Follows find) : s = s' := by
  cases s
  rw [mk.injEq]
  exact ⟨h.bind.unique h'.bind, h.maxConnections.unique h'.maxConnections,
    h.readTimeoutSecs.unique h'.readTimeoutSecs⟩

theorem StoreSettings.Follows.unique {s s' : StoreSettings} (h : s.Follows find)
    (h' : s'.Follows find) : s = s' := by
  cases s
  rw [mk.injEq]
  exact ⟨h.path.unique h'.path, h.busyTimeoutMs.unique h'.busyTimeoutMs,
    h.retryTimes.unique h'.retryTimes, h.retryDelayMs.unique h'.retryDelayMs⟩

theorem ExportSettings.Follows.unique {s s' : ExportSettings} (h : s.Follows find)
    (h' : s'.Follows find) : s = s' := by
  cases s
  rw [mk.injEq]
  exact ⟨h.defaultDeviceId.unique h'.defaultDeviceId, h.recordCount.unique h'.recordCount⟩

theorem LogSettings.Follows.unique {s s' : LogSettings} (h : s.Follows find)
    (h' : s'.Follows find) : s = s' := by
  cases s
  rw [mk.injEq]
  exact h.level.unique h'.level

namespace Settings

theorem fill_serverEntries_iff (hkeys : (d.map Prod.fst).Nodup) (s : ServerSettings) :
    fill serverEntries {} d = .ok s ↔ s.Follows (d.lookup ·) := by
  refine fill_eq_ok_iff (by decide) hkeys (fun s h => ?_) (fun s h => ?_)
    fun _ _ => ServerSettings.Follows.unique
  · refine ⟨given_of_fill (asText_eq_ok_iff _) hkeys h (.here ?_ ?_),
      given_of_fill (asNatural_eq_ok_iff _) hkeys h (.there ?_ ?_ (.here ?_ ?_)),
      given_of_fill (asNatural_eq_ok_iff _) hkeys h (.there ?_ ?_ (.there ?_ ?_ (.here ?_ ?_)))⟩
    all_goals simp [Entry.keeps_of]
  · simp only [serverEntries, List.forall_mem_cons]
    exact ⟨h.bind.exists_read (asText_eq_ok_iff _),
      h.maxConnections.exists_read (asNatural_eq_ok_iff _),
      h.readTimeoutSecs.exists_read (asNatural_eq_ok_iff _), nofun⟩

theorem fill_storeEntries_iff (hkeys : (d.map Prod.fst).Nodup) (s : StoreSettings) :
    fill storeEntries {} d = .ok s ↔ s.Follows (d.lookup ·) := by
  refine fill_eq_ok_iff (by decide) hkeys (fun s h => ?_) (fun s h => ?_)
    fun _ _ => StoreSettings.Follows.unique
  · refine ⟨given_of_fill (asText_eq_ok_iff _) hkeys h (.here ?_ ?_),
      given_of_fill (asNatural_eq_ok_iff _) hkeys h (.there ?_ ?_ (.here ?_ ?_)),
      given_of_fill (asNatural_eq_ok_iff _) hkeys h (.there ?_ ?_ (.there ?_ ?_ (.here ?_ ?_))),
      given_of_fill (asNatural_eq_ok_iff _) hkeys h
        (.there ?_ ?_ (.there ?_ ?_ (.there ?_ ?_ (.here ?_ ?_))))⟩
    all_goals simp [Entry.keeps_of]
  · simp only [storeEntries, List.forall_mem_cons]
    exact ⟨h.path.exists_read (asText_eq_ok_iff _),
      h.busyTimeoutMs.exists_read (asNatural_eq_ok_iff _),
      h.retryTimes.exists_read (asNatural_eq_ok_iff _),
      h.retryDelayMs.exists_read (asNatural_eq_ok_iff _), nofun⟩

theorem fill_exportEntries_iff (hkeys : (d.map Prod.fst).Nodup) (s : ExportSettings) :
    fill exportEntries {} d = .ok s ↔ s.Follows (d.lookup ·) := by
  refine fill_eq_ok_iff (by decide) hkeys (fun s h => ?_) (fun s h => ?_)
    fun _ _ => ExportSettings.Follows.unique
  · refine ⟨given_of_fill asInteger_eq_ok_iff hkeys h (.here ?_ ?_),
      given_of_fill (asNatural_eq_ok_iff _) hkeys h (.there ?_ ?_ (.here ?_ ?_))⟩
    all_goals simp [Entry.keeps_of]
  · simp only [exportEntries, List.forall_mem_cons]
    exact ⟨h.defaultDeviceId.exists_read asInteger_eq_ok_iff,
      h.recordCount.exists_read (asNatural_eq_ok_iff _), nofun⟩

theorem fill_logEntries_iff (hkeys : (d.map Prod.fst).Nodup) (s : LogSettings) :
    fill logEntries {} d = .ok s ↔ s.Follows (d.lookup ·) := by
  refine fill_eq_ok_iff (by decide) hkeys (fun s h => ?_) (fun s h => ?_)
    fun _ _ => LogSettings.Follows.unique
  · refine ⟨given_of_fill (asText_eq_ok_iff _) hkeys h (.here ?_ ?_)⟩
    all_goals simp
  · simp only [logEntries, List.forall_mem_cons]
    exact ⟨h.level.exists_read (asText_eq_ok_iff _), nofun⟩

/-! ### Documents -/

/-- The settings that a document asks for. -/
structure Follows (d : Document) (s : Settings) : Prop where
  server : s.server.Follows (d.at? "server")
  store : s.store.Follows (d.at? "database")
  exporting : s.exporting.Follows (d.at? "export")
  log : s.log.Follows (d.at? "logging")

theorem Follows.unique {s s' : Settings} (h : Follows d s) (h' : Follows d s') : s = s' := by
  cases s
  rw [mk.injEq]
  exact ⟨h.server.unique h'.server, h.store.unique h'.store, h.exporting.unique h'.exporting,
    h.log.unique h'.log⟩

section Section

variable {σ : Type} {group name : String} {entries : List (Entry σ)} {default s : σ}

/-- What a section is read to; a missing one to its defaults. -/
def sectionResult (name : String) (entries : List (Entry σ)) (default : σ) :
    Option Value → Except Mismatch σ
  | none => .ok default
  | some v => readSection name entries default v

/-- A section that is a table, or is missing, is read to what holds of the keys below it. -/
theorem sectionResult_iff {Holds : (String → Option Value) → σ → Prop}
    (hd : (Value.table d).Proper) (hsection : (d.lookup group).all Value.isTable = true)
    (hfill : ∀ {d : Document}, (d.map Prod.fst).Nodup → ∀ s,
      fill entries default d = .ok s ↔ Holds (d.lookup ·) s) :
    sectionResult name entries default (d.lookup group) = .ok s ↔ Holds (d.at? group) s := by
  unfold Toml.Document.at?
  cases hlookup : d.lookup group with
  | none => exact hfill (d := []) List.nodup_nil s
  | some v =>
      rw [hlookup] at hsection
      cases v with
      | table inner => exact hfill (hd.of_lookup hlookup).nodup s
      | _ => cases hsection

variable {set : σ → Settings → Settings} {get : Settings → σ} {s s' : Settings}

theorem sectionResult_of_fill (hkeys : (d.map Prod.fst).Nodup) (h : fill sections {} d = .ok s')
    (hplaces : Places sections group (readSection name entries default) get)
    (hdefault : get {} = default) :
    sectionResult name entries default (d.lookup group) = .ok (get s') := by
  have hplace := fill_place hplaces hkeys h
  cases hlookup : d.lookup group with
  | none =>
      rw [hlookup] at hplace
      exact congrArg Except.ok (hdefault.symm.trans hplace.symm)
  | some v =>
      rw [hlookup] at hplace
      exact hplace

theorem exists_read_of_sectionResult {s : σ}
    (h : sectionResult name entries default (d.lookup group) = .ok s) :
    ∀ v, d.lookup (Entry.of group (readSection name entries default) set).name = some v →
      ∃ change, (Entry.of group (readSection name entries default) set).read v = .ok change := by
  intro v hv
  rw [show (Entry.of group (readSection name entries default) set).name = group from rfl] at hv
  rw [hv] at h
  exact exists_read_of_iff.mpr ⟨s, h⟩

end Section

/-- **A document is read to the settings that follow it.** -/
theorem ofDocument_eq_ok_iff (hd : (Value.table d).Proper) (hsections : d.Sectioned)
    (s : Settings) : ofDocument d = .ok s ↔ Follows d s := by
  have hserver : ∀ s, sectionResult "ServerConfig" serverEntries {} (d.lookup "server") = .ok s ↔
      s.Follows (d.at? "server") := fun _ =>
    sectionResult_iff hd (hsections "server" (by simp)) fill_serverEntries_iff
  have hstore : ∀ s, sectionResult "DatabaseConfig" storeEntries {} (d.lookup "database") = .ok s ↔
      s.Follows (d.at? "database") := fun _ =>
    sectionResult_iff hd (hsections "database" (by simp)) fill_storeEntries_iff
  have hexport : ∀ s, sectionResult "ExportConfig" exportEntries {} (d.lookup "export") = .ok s ↔
      s.Follows (d.at? "export") := fun _ =>
    sectionResult_iff hd (hsections "export" (by simp)) fill_exportEntries_iff
  have hlog : ∀ s, sectionResult "LoggingConfig" logEntries {} (d.lookup "logging") = .ok s ↔
      s.Follows (d.at? "logging") := fun _ =>
    sectionResult_iff hd (hsections "logging" (by simp)) fill_logEntries_iff
  refine fill_eq_ok_iff (by decide) hd.nodup (fun s h => ?_) (fun s h => ?_)
    fun _ _ => Follows.unique
  · refine ⟨(hserver _).mp (sectionResult_of_fill hd.nodup h (.here ?_ ?_) rfl),
      (hstore _).mp (sectionResult_of_fill hd.nodup h (.there ?_ ?_ (.here ?_ ?_)) rfl),
      (hexport _).mp (sectionResult_of_fill hd.nodup h
        (.there ?_ ?_ (.there ?_ ?_ (.here ?_ ?_))) rfl),
      (hlog _).mp (sectionResult_of_fill hd.nodup h
        (.there ?_ ?_ (.there ?_ ?_ (.there ?_ ?_ (.here ?_ ?_)))) rfl)⟩
    all_goals simp [Entry.keeps_of]
  · simp only [sections, List.forall_mem_cons]
    exact ⟨exists_read_of_sectionResult ((hserver _).mpr h.server),
      exists_read_of_sectionResult ((hstore _).mpr h.store),
      exists_read_of_sectionResult ((hexport _).mpr h.exporting),
      exists_read_of_sectionResult ((hlog _).mpr h.log), nofun⟩

/-! ### Known keys -/

inductive Kind where
  | text
  | integer
  | natural
deriving DecidableEq, Repr

def Kind.admits : Kind → Value → Bool
  | text, v => v.text?.isSome
  | integer, v => v.integer?.isSome
  | natural, v => v.natural?.isSome

/-- A key that is known, in its section, and the kind of value it must have. -/
structure KnownKey where
  group : String
  name : String
  kind : Kind
deriving DecidableEq, Repr

def known : List KnownKey :=
  [⟨"server", "bind", .text⟩, ⟨"server", "max_connections", .natural⟩,
    ⟨"server", "read_timeout_secs", .natural⟩, ⟨"database", "path", .text⟩,
    ⟨"database", "busy_timeout_ms", .natural⟩, ⟨"database", "retry_times", .natural⟩,
    ⟨"database", "retry_delay_ms", .natural⟩, ⟨"export", "default_device_id", .integer⟩,
    ⟨"export", "record_count", .natural⟩, ⟨"logging", "level", .text⟩]

/-- Every known key that is there has a value of its kind. -/
def WellTyped (d : Document) : Prop :=
  ∀ k ∈ known, (d.at? k.group k.name).all k.kind.admits = true

/-- The documents have the same values under all known keys. -/
def Agree (d d' : Document) : Prop :=
  ∀ k ∈ known, d.at? k.group k.name = d'.at? k.group k.name

theorem exists_follows_iff : (∃ s, Follows d s) ↔ WellTyped d := by
  simp only [WellTyped, known, List.forall_mem_cons]
  constructor
  · rintro ⟨s, hserver, hstore, hexporting, hlog⟩
    exact ⟨exists_given_iff.mp ⟨_, hserver.bind⟩, exists_given_iff.mp ⟨_, hserver.maxConnections⟩,
      exists_given_iff.mp ⟨_, hserver.readTimeoutSecs⟩, exists_given_iff.mp ⟨_, hstore.path⟩,
      exists_given_iff.mp ⟨_, hstore.busyTimeoutMs⟩, exists_given_iff.mp ⟨_, hstore.retryTimes⟩,
      exists_given_iff.mp ⟨_, hstore.retryDelayMs⟩,
      exists_given_iff.mp ⟨_, hexporting.defaultDeviceId⟩,
      exists_given_iff.mp ⟨_, hexporting.recordCount⟩, exists_given_iff.mp ⟨_, hlog.level⟩, nofun⟩
  · rintro ⟨hbind, hconnections, hreadTimeout, hpath, hbusyTimeout, htimes, hdelay, hdevice, hcount,
      hlevel, -⟩
    obtain ⟨bind, hbind⟩ := exists_given_iff.mpr hbind
    obtain ⟨connections, hconnections⟩ := exists_given_iff.mpr hconnections
    obtain ⟨readTimeout, hreadTimeout⟩ := exists_given_iff.mpr hreadTimeout
    obtain ⟨path, hpath⟩ := exists_given_iff.mpr hpath
    obtain ⟨busyTimeout, hbusyTimeout⟩ := exists_given_iff.mpr hbusyTimeout
    obtain ⟨times, htimes⟩ := exists_given_iff.mpr htimes
    obtain ⟨delay, hdelay⟩ := exists_given_iff.mpr hdelay
    obtain ⟨device, hdevice⟩ := exists_given_iff.mpr hdevice
    obtain ⟨count, hcount⟩ := exists_given_iff.mpr hcount
    obtain ⟨level, hlevel⟩ := exists_given_iff.mpr hlevel
    exact ⟨⟨⟨bind, connections, readTimeout⟩, ⟨path, busyTimeout, times, delay⟩,
      ⟨device, count⟩, ⟨level⟩⟩, ⟨hbind, hconnections, hreadTimeout⟩,
      ⟨hpath, hbusyTimeout, htimes, hdelay⟩, ⟨hdevice, hcount⟩, ⟨hlevel⟩⟩

/-- Nothing but the values under known keys matters. -/
theorem Follows.of_agree {d d' : Document} {s : Settings} (h : Agree d d') (hd : Follows d s) :
    Follows d' s := by
  simp only [Agree, known, List.forall_mem_cons] at h
  obtain ⟨hbind, hconnections, hreadTimeout, hpath, hbusyTimeout, htimes, hdelay, hdevice, hcount,
    hlevel, -⟩ := h
  obtain ⟨⟨hd₁, hd₂, hd₃⟩, ⟨hd₄, hd₅, hd₆, hd₇⟩, ⟨hd₈, hd₉⟩, ⟨hd₁₀⟩⟩ := hd
  exact ⟨⟨hbind ▸ hd₁, hconnections ▸ hd₂, hreadTimeout ▸ hd₃⟩,
    ⟨hpath ▸ hd₄, hbusyTimeout ▸ hd₅, htimes ▸ hd₆, hdelay ▸ hd₇⟩,
    ⟨hdevice ▸ hd₈, hcount ▸ hd₉⟩, ⟨hlevel ▸ hd₁₀⟩⟩

end Settings

/-! ### Texts -/

namespace Settings

/-- The values are in their ranges, and the level has a name, in capitals or not. -/
structure Usable (s : Settings) : Prop where
  maxConnections : 1 ≤ s.server.maxConnections ∧ s.server.maxConnections ≤ 65536
  readTimeoutSecs : 1 ≤ s.server.readTimeoutSecs
  level : ∃ name ∈ Verbosity.names, s.log.level.toList.map Char.toLower = name.toList

theorem problem?_eq_none_iff {s : Settings} : s.problem? = none ↔ s.Usable := by
  have hlevel := Verbosity.ofName?_isSome_iff s.log.level
  unfold problem? Server.maxCapacity LogSettings.verbosity?
  constructor
  · intro h
    split_ifs at h with hconnections htimeout hverbosity
    have hfound := Option.isSome_iff_ne_none.mpr (mt Option.isNone_iff_eq_none.mpr hverbosity)
    exact ⟨by omega, by omega, hlevel.mp hfound⟩
  · rintro ⟨hconnections, htimeout, hname⟩
    have hfound := Option.isSome_iff_ne_none.mp (hlevel.mpr hname)
    rw [if_neg (by omega), if_neg (by omega), if_neg (mt Option.isNone_iff_eq_none.mp hfound)]

variable {text : String}

/-- What becomes of settings that were read. -/
theorem parse_of_parse? (hparse : Toml.parse? text = some d) (s : Settings) :
    parse text = .ok s ↔ ofDocument d = .ok s ∧ s.problem? = none := by
  unfold parse
  rw [hparse]
  dsimp only
  cases ofDocument d with
  | error m => exact ⟨nofun, fun h => nomatch h.1⟩
  | ok s' =>
      show s'.checked = .ok s ↔ _
      unfold checked
      cases hproblem : s'.problem? with
      | some p =>
          refine ⟨nofun, fun ⟨hs, hnone⟩ => ?_⟩
          cases hs
          rw [hproblem] at hnone
          cases hnone
      | none =>
          constructor
          · intro h
            cases h
            exact ⟨rfl, hproblem⟩
          · rintro ⟨hs, -⟩
            cases hs
            rfl

/-- What is decided of a text that is the given document. -/
structure Decided (text : String) (d : Document) : Prop where
  /-- It is accepted for the settings that follow the document, if these can be used. -/
  eq_ok_iff : ∀ s, parse text = .ok s ↔ Follows d s ∧ s.Usable
  /-- So it is accepted exactly if all known keys have values of their kinds, and the settings that
  come of these and the defaults can be used. -/
  exists_ok_iff : (∃ s, parse text = .ok s) ↔ WellTyped d ∧ ∀ s, Follows d s → s.Usable
  /-- A text whose document agrees with it under the known keys, in whatever order these come and
  whatever else there is, is accepted for the same settings. -/
  agrees : ∀ text' d', Toml.parse? text' = some d' → d'.Sectioned → Agree d d' →
    ∀ s, parse text = .ok s ↔ parse text' = .ok s
  /-- Whoever uses accepted settings finds the level, and no other capacity than theirs. -/
  usable : ∀ s, parse text = .ok s → (∃ v, s.log.verbosity? = some v) ∧
    Server.capacity s.server.maxConnections = s.server.maxConnections

/-- **Every document is decided** by the values under its known keys. -/
theorem decided (hparse : Toml.parse? text = some d) (hsections : d.Sectioned) :
    Decided text d := by
  have heq : ∀ {text d}, Toml.parse? text = some d → d.Sectioned → ∀ s,
      parse text = .ok s ↔ Follows d s ∧ s.Usable := by
    intro text d hparse hsections s
    rw [parse_of_parse? hparse,
      ofDocument_eq_ok_iff (Toml.Document.proper_of_parse? hparse) hsections,
      problem?_eq_none_iff]
  refine ⟨heq hparse hsections, ?_, ?_, ?_⟩
  · simp only [heq hparse hsections, ← exists_follows_iff]
    constructor
    · rintro ⟨s, hs, husable⟩
      refine ⟨⟨s, hs⟩, fun s' hs' => ?_⟩
      rwa [hs'.unique hs]
    · rintro ⟨⟨s, hs⟩, husable⟩
      exact ⟨s, hs, husable s hs⟩
  · intro text' d' hparse' hsections' hagree s
    rw [heq hparse hsections, heq hparse' hsections']
    exact and_congr_left' ⟨.of_agree hagree, .of_agree fun k hk => (hagree k hk).symm⟩
  · intro s hs
    obtain ⟨-, husable⟩ := (heq hparse hsections s).mp hs
    refine ⟨?_, Server.capacity_of_le husable.maxConnections.1 husable.maxConnections.2⟩
    exact Option.isSome_iff_exists.mp ((Verbosity.ofName?_isSome_iff _).mpr husable.level)

/-- Sections and keys in an order of their own, with unknown ones between them; the largest
capacity, and a level in mixed letters. -/
theorem decided_mixed :
    let text := "[logging]\ncolour = true\nlevel = \"Debug\"\n[[extra]]\nlevel = 5\n" ++
      "[server]\nread_timeout_secs = 0x10\nmax_connections = 65536\n[export]\nx.y = \x7b\x7d\n"
    ∃ d, Toml.parse? text = some d ∧ d.Sectioned ∧ Decided text d ∧
      (parse text).toOption = some { server := { maxConnections := 65536, readTimeoutSecs := 16 },
                                     log := { level := "Debug" } } := by
  intro text
  have hdocument : ((Toml.parse? text).any fun d => decide d.Sectioned) = true := by
    decide +kernel
  cases hparse : Toml.parse? text with
  | none =>
      rw [hparse] at hdocument
      cases hdocument
  | some d =>
      rw [hparse] at hdocument
      have hsections : d.Sectioned := of_decide_eq_true hdocument
      exact ⟨d, rfl, hsections, decided hparse hsections, by decide +kernel⟩

end Settings
end TelemetryExport
