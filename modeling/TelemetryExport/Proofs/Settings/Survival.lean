import TelemetryExport.Proofs.Seed.Steps
import TelemetryExport.Proofs.Server.Slots
import TelemetryExport.Proofs.Store.Filling
import TelemetryExport.Proofs.Store.Selection
import TelemetryExport.Server.Exchange
import TelemetryExport.Settings.Loading

/-! # Which settings a program survives

Of all that can go wrong in the store, one failure brings the program down: a busy timeout beyond
the range of the store's clock.  Nothing that is done with an open file fails in this way
(`Harmless`), so a change to the store crashes exactly if the file can be reached and the timeout
is too large (`File.crashes_write_iff`), and so does a query, if the file is there
(`File.harmless_attempt_iff`).

`Settings.parse` bounds the number of connections from both sides and the time to read a command
from below, but not the busy timeout.  `Settings.accepted_of_parse` says what this comes to, and
`Settings.crashes_init_of_parse` gives a text that is accepted and not survived. -/

namespace TelemetryExport
namespace Store

/-- Whatever the result is, the program goes on. -/
def Harmless {α : Type} : Except Error α → Prop
  | .ok _ => True
  | .error e => e ≠ .timeoutTooLarge

@[simp] theorem harmless_ok {α : Type} (a : α) : Harmless (.ok a) := trivial

@[simp] theorem harmless_error_iff {α : Type} {e : Error} :
    Harmless (.error e : Except Error α) ↔ e ≠ .timeoutTooLarge := Iff.rfl

theorem Harmless.bind {α β : Type} {x : Except Error α} {k : α → Except Error β}
    (hx : Harmless x) (hk : ∀ a, Harmless (k a)) : Harmless (x >>= k) := by
  cases x with
  | error e => exact hx
  | ok a => exact hk a

theorem Harmless.mapM {α β : Type} {k : α → Except Error β} (hk : ∀ a, Harmless (k a))
    (l : List α) : Harmless (l.mapM k) := by
  induction l with
  | nil => exact harmless_ok []
  | cons a rest ih =>
      rw [List.mapM_cons]
      exact (hk a).bind fun b => ih.bind fun bs => harmless_ok (b :: bs)

/-! ### Changes -/

/-- The program does not survive the attempt at a change. -/
def Crashes (result : Except WriteError Unit) : Prop := ∃ e, result = .error e ∧ e.isCrash = true

theorem crashes_mapError_iff {stage : Stage} {result : Except Error Unit} :
    Crashes (result.mapError (⟨stage, ·⟩)) ↔ ¬ Harmless result := by
  cases result with
  | error e => simp [Crashes, WriteError.isCrash, Except.mapError]
  | ok _ => simp [Crashes, Except.mapError]

namespace File

variable {f : File} {a : Access}

theorem harmless_look (f : File) : Harmless f.look := by
  unfold look
  split_ifs
  · simp
  · split <;> simp

theorem harmless_change (f : File) {edit : Option Table → Except Error (Option Table)}
    (hedit : ∀ t, Harmless (edit t)) : Harmless (f.change edit).1 := by
  rcases change_cases f edit with ⟨e, hchange, he⟩ | ⟨t, changed, -, -, hchange⟩
  · rw [hchange]
    rcases he with hlook | rfl | ⟨t, ht⟩
    · have h := harmless_look f
      rw [hlook] at h
      exact h
    · simp
    · have h := hedit t
      rw [ht] at h
      exact h
  · rw [hchange]
    simp

theorem harmless_ensureTable (f : File) : Harmless f.ensureTable.1 := by
  have hlook := harmless_look f
  unfold ensureTable
  cases hf : f.look with
  | error e =>
      rw [hf] at hlook
      exact hlook
  | ok t =>
      dsimp only
      split_ifs
      · simp
      · exact harmless_change f fun _ => harmless_ok _

theorem harmless_insertRow (c : Cells) (f : File) : Harmless (f.insertRow c).1 := by
  apply harmless_change
  intro t
  cases t with
  | none => simp [onTable]
  | some t =>
      simp only [onTable, insertCells]
      cases t.insert c with
      | error refusal => cases refusal <;> simp [Except.mapError, Refusal.error]
      | ok u => simp [Except.mapError]

/-- Only opening the file can bring the program down. -/
theorem crashes_write_iff {stage : Stage} {act : File → Except Error Unit × File}
    (hact : ∀ g, Harmless (act g).1) :
    Crashes (f.write a stage act).1 ↔
      f.content ≠ .unreachable ∧ maxBusyTimeoutMs < a.busyTimeoutMs := by
  rw [write_eq]
  split_ifs with hcontent hbusy
  · simp [Crashes, WriteError.isCrash, hcontent]
  · simp [Crashes, WriteError.isCrash, hcontent, hbusy]
  · exact iff_of_false (mt crashes_mapError_iff.mp (not_not.mpr (hact _))) fun h => hbusy h.2

theorem crashes_init_iff :
    Crashes (f.init a).1 ↔ f.content ≠ .unreachable ∧ maxBusyTimeoutMs < a.busyTimeoutMs :=
  crashes_write_iff harmless_ensureTable

theorem crashes_insert_iff {r : Record} :
    Crashes (f.insert a r).1 ↔
      f.content ≠ .unreachable ∧ maxBusyTimeoutMs < a.busyTimeoutMs :=
  crashes_write_iff (harmless_insertRow _)

theorem not_crashes_insertUntil (hbusy : a.busyTimeoutMs ≤ maxBusyTimeoutMs)
    (records : List Record) (f : File) : ¬ Crashes (f.insertUntil a records).1 := by
  induction records generalizing f with
  | nil => exact fun ⟨_, h, _⟩ => nomatch h
  | cons r rest ih =>
      have hinsert : ¬ Crashes (f.insert a r).1 := by
        rw [crashes_insert_iff]
        omega
      unfold insertUntil
      cases hr : f.insert a r with
      | mk result g =>
          rw [hr] at hinsert
          cases result with
          | error e => exact hinsert
          | ok _ => exact ih g

/-! ### Queries -/

theorem harmless_measurement (column : Column) (c : Cell) :
    Harmless (Sample.measurement column c) := by
  unfold Sample.measurement
  cases c.toSingle <;> simp [Except.mapError]

theorem harmless_answer (t : Table) (now : Clock) (q : Query) : Harmless (t.answer now q) := by
  refine Harmless.mapM (fun s => ?_) _
  refine (harmless_measurement _ _).bind fun temperature => ?_
  refine (harmless_measurement _ _).bind fun humidity => ?_
  refine (harmless_measurement _ _).bind fun waterLevel => ?_
  cases s.timestamp with
  | none => exact harmless_error_iff.mpr nofun
  | some timestamp => exact harmless_ok _

/-- An attempt at a query brings the program down if the file is there and the timeout is too
large. -/
theorem harmless_attempt_iff {q : Query} {now : Clock} :
    Harmless (f.attempt a q now) ↔
      f.content = .unreachable ∨ f.content = .missing ∨ a.busyTimeoutMs ≤ maxBusyTimeoutMs := by
  unfold attempt read
  split_ifs with hcontent hbusy
  · refine iff_of_true (harmless_error_iff.mpr nofun) ?_
    exact hcontent.imp_right .inl
  · refine iff_of_false (fun h => h rfl) ?_
    simp only [not_or] at hcontent ⊢
    exact ⟨hcontent.1, hcontent.2, Nat.not_le.mpr hbusy⟩
  · refine iff_of_true (Harmless.bind (Harmless.bind (harmless_look f) ?_) ?_) ?_
    · intro t
      cases t with
      | none => exact harmless_error_iff.mpr nofun
      | some t => exact harmless_ok t
    · exact fun t => harmless_answer t now q
    · exact .inr (.inr (Nat.not_lt.mp hbusy))

end File
end Store

/-- The one who asks for a worker comes back unless the query brings it down. -/
theorem Server.exists_crashed_iff {task : String} {tried : Store.Tried (List Record)} :
    (∃ name text, storeAnswer task tried = .error (.crashed name text)) ↔
      ¬ Store.Harmless tried.outcome := by
  unfold storeAnswer
  cases tried.outcome with
  | error e => by_cases he : e = .timeoutTooLarge <;> simp [Except.mapError, he]
  | ok _ => simp [Except.mapError]

/-- Where seeding can fail. -/
theorem Seed.error_cases {s : StoreSettings} {deviceId : Int} {count : Nat} {now : Instant}
    {f : Store.File} {e : Error} (h : (run s deviceId count now f).1 = .error e) :
    (∃ cause, (f.init s.access).1 = .error cause ∧ e = .prepare cause) ∨ e = .tooFarBack count ∨
      ∃ g records cause, f.init s.access = (.ok (), g) ∧
        (g.insertUntil s.access records).1 = .error cause ∧ e = .insert cause := by
  cases hrun : run s deviceId count now f with
  | mk result g =>
      rw [hrun] at h
      rcases run_cases hrun with ⟨cause, hinit, rfl⟩ | ⟨f₁, hinit, hfound⟩
      · cases h
        exact .inl ⟨cause, congrArg Prod.fst hinit, rfl⟩
      · rcases hfound with ⟨-, rfl⟩ | ⟨time, -, ⟨cause, hinsert, rfl⟩ | ⟨-, rfl⟩⟩
        · cases h
          exact .inr (.inl rfl)
        · cases h
          exact .inr (.inr ⟨f₁, _, cause, hinit, congrArg Prod.fst hinsert, rfl⟩)
        · cases h

/-! ### Settings -/

namespace Settings

open Store

/-- No operation on the file brings the program down, whatever comes of it. -/
structure Survives (s : Settings) (f : File) : Prop where
  init : ¬ Crashes (f.init s.store.access).1
  insert : ∀ r, ¬ Crashes (f.insert s.store.access r).1
  seed : ∀ deviceId count now e,
    (Seed.run s.store deviceId count now f).1 = .error e → e.isCrash = false
  query : ∀ q now task, ¬ ∃ name text,
    Server.storeAnswer task (f.query s.store.access s.store.retryPolicy q now) =
      .error (.crashed name text)

/-- Seeding is survived if creating the table is. -/
theorem isCrash_eq_false_of_seed {s : StoreSettings} {f : File}
    (hinit : ¬ Crashes (f.init s.access).1) {deviceId : Int} {count : Nat} {now : Instant}
    {e : Seed.Error} (h : (Seed.run s deviceId count now f).1 = .error e) : e.isCrash = false := by
  rcases Seed.error_cases h with ⟨cause, hcause, rfl⟩ | rfl | ⟨g, records, cause, hg, hcause, rfl⟩
  · exact Bool.eq_false_iff.mpr fun hcrash => hinit ⟨cause, hcause, hcrash⟩
  · rfl
  · have huntil := File.not_crashes_insertUntil (File.eq_of_write hg).1 records g
    exact Bool.eq_false_iff.mpr fun hcrash => huntil ⟨cause, hcause, hcrash⟩

theorem survives_iff {s : Settings} {f : File} :
    Survives s f ↔
      f.content = .unreachable ∨ s.store.busyTimeoutMs ≤ maxBusyTimeoutMs := by
  have hwrite : ¬ (f.content ≠ .unreachable ∧ maxBusyTimeoutMs < s.store.access.busyTimeoutMs) ↔
      f.content = .unreachable ∨ s.store.busyTimeoutMs ≤ maxBusyTimeoutMs := by
    rw [not_and_or, not_not, not_lt]
    rfl
  constructor
  · intro h
    exact hwrite.mp (mt File.crashes_init_iff.mpr h.init)
  · intro h
    have hinit : ¬ Crashes (f.init s.store.access).1 :=
      mt File.crashes_init_iff.mp (hwrite.mpr h)
    refine ⟨hinit, fun r => mt File.crashes_insert_iff.mp (hwrite.mpr h),
      fun deviceId count now e => isCrash_eq_false_of_seed hinit, fun q now task => ?_⟩
    rw [Server.exists_crashed_iff, not_not, File.outcome_query, File.harmless_attempt_iff]
    exact h.imp_right .inr

/-- What it means for the program that settings are accepted. -/
structure Accepted (s : Settings) : Prop where
  /-- The busy timeout is the only thing that can bring the program down. -/
  survives_iff : ∀ f, Survives s f ↔
    f.content = .unreachable ∨ s.store.busyTimeoutMs ≤ maxBusyTimeoutMs
  /-- The server carries on as many exchanges as the settings say. -/
  capacity_eq : Server.capacity s.server.maxConnections = s.server.maxConnections
  /-- When it stops, it can ask for all its slots in one request. -/
  drainCount_eq : Server.drainCount (Server.capacity s.server.maxConnections) =
    s.server.maxConnections
  readTimeout_pos : 1 ≤ s.server.readTimeoutSecs
  verbosity : ∃ v, s.log.verbosity? = some v

theorem problem?_of_parse {text : String} {s : Settings} (h : parse text = .ok s) :
    s.problem? = none := by
  unfold parse at h
  split at h
  · cases h
  · split at h
    · cases h
    · unfold checked at h
      split at h
      · cases h
      · next hproblem =>
          cases h
          exact hproblem

/-- **Accepted settings** bring the program down on no file but through a busy timeout that is
too large, and on every file that can be reached if it is. -/
theorem accepted_of_parse {text : String} {s : Settings} (h : parse text = .ok s) :
    Accepted s := by
  have hproblem := problem?_of_parse h
  unfold problem? at hproblem
  split_ifs at hproblem with hconnections htimeout hlevel
  have hcapacity : Server.capacity s.server.maxConnections = s.server.maxConnections :=
    Server.capacity_of_le (by omega) (by omega)
  refine ⟨fun f => survives_iff, hcapacity, ?_, by omega, ?_⟩
  · rw [Server.drainCount_capacity, hcapacity]
  · exact Option.ne_none_iff_exists'.mp (by simpa using hlevel)

theorem parse_of_toOption {text : String} {s : Settings} (h : (parse text).toOption = some s) :
    parse text = .ok s := by
  cases hparse : parse text with
  | error e =>
      rw [hparse] at h
      cases h
  | ok s' =>
      rw [hparse] at h
      cases h
      rfl

/-- The largest busy timeout that is survived. -/
theorem accepted_of_parse_largest :
    let s : Settings := { store := { busyTimeoutMs := 2147483647 } }
    parse "[database]\nbusy_timeout_ms = 2147483647\n" = .ok s ∧ Accepted s ∧
      ∀ f, Survives s f := by
  intro s
  have hparse : parse "[database]\nbusy_timeout_ms = 2147483647\n" = .ok s :=
    parse_of_toOption (by decide +kernel)
  have haccepted : Accepted s := accepted_of_parse hparse
  exact ⟨hparse, haccepted, fun f => (haccepted.survives_iff f).mpr (.inr (by decide))⟩

/-- One millisecond more is accepted too, and the table cannot even be created in a new file. -/
theorem crashes_init_of_parse :
    let s : Settings := { store := { busyTimeoutMs := 2147483648 } }
    parse "[database]\nbusy_timeout_ms = 2147483648\n" = .ok s ∧
      (File.absent.init s.store.access).1 = .error ⟨.setTimeout, .timeoutTooLarge⟩ ∧
      Crashes (File.absent.init s.store.access).1 ∧ ¬ Survives s .absent := by
  intro s
  have hcrash : Crashes (File.absent.init s.store.access).1 :=
    File.crashes_init_iff.mpr ⟨by decide, by decide⟩
  exact ⟨parse_of_toOption (by decide +kernel), by decide, hcrash, fun h => h.init hcrash⟩

end Settings
end TelemetryExport
