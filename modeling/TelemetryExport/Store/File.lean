import TelemetryExport.Store.Error

/-! # The store's file and its locks

A file holds a database, possibly without the table of readings, or something else; it may be
missing, or its folder may be.  Another connection may hold a lock on it meanwhile.  A lock
delays nobody here: whoever meets it has waited in vain.

* A `shared` lock lets everything begin but no change be completed.
* A `reserved` lock lets no change begin.
* An `exclusive` lock lets nothing begin.

Every operation gives its result and the file afterwards; `change` is the common form of those
that alter the table, and leaves the file as it was unless it succeeds. -/

namespace TelemetryExport
namespace Store

inductive Content where
  | unreachable
  | missing
  | foreign
  | database (table : Option Table)
deriving DecidableEq, Repr

inductive Lock where
  | shared
  | reserved
  | exclusive
deriving DecidableEq, Repr

/-- A further lock is compatible with the one that is held. -/
def Lock.admits : Lock → Lock → Bool
  | .shared, .shared => true
  | .shared, .reserved => true
  | .reserved, .shared => true
  | _, _ => false

structure File where
  content : Content
  lock : Option Lock
deriving DecidableEq, Repr

/-- How this library reaches its file. -/
structure Access where
  path : String
  busyTimeoutMs : Nat
deriving DecidableEq, Repr

/-- The largest busy timeout, in milliseconds. -/
def maxBusyTimeoutMs : Nat := 2147483647

namespace File

def absent : File := ⟨.missing, none⟩

def unreachable : File := ⟨.unreachable, none⟩

/-- Opening for writing creates a missing file, which is an empty database. -/
def created (f : File) : File :=
  if f.content = .missing then { f with content := .database none } else f

/-- The bytes of a file that was overwritten: up to one byte counts as an empty database. -/
def overwrite (f : File) (length : Nat) : File :=
  { f with content := if length ≤ 1 then .database none else .foreign }

/-- The table, if nothing keeps a connection from looking for it. -/
def look (f : File) : Except Error (Option Table) :=
  if f.lock = some .exclusive then .error .locked
  else
    match f.content with
    | .database table => .ok table
    | _ => .error .notADatabase

/-- Begins a change, makes it and completes it.  What is wrong with the request itself shows
before any lock does, a refused value only after the change has begun. -/
def change (f : File) (edit : Option Table → Except Error (Option Table)) :
    Except Error Unit × File :=
  match f.look with
  | .error e => (.error e, f)
  | .ok table =>
    match f.lock, edit table with
    | some .reserved, .error e => (.error (if e.isImmediate then e else .locked), f)
    | _, .error e => (.error e, f)
    | some _, .ok _ => (.error .locked, f)
    | none, .ok changed => (.ok (), { f with content := .database changed })

def onTable (edit : Table → Except Error Table) : Option Table → Except Error (Option Table)
  | none => .error .noSuchTable
  | some t => some <$> edit t

def insertCells (c : Cells) (t : Table) : Except Error Table :=
  (t.insert c).mapError Refusal.error

/-- The table and its index, each created if it is not there. -/
def provide : Option Table → Table
  | none => .empty .own true
  | some t => { t with indexed := true }

/-! ### Changes made by this library -/

/-- Opens the file for writing: a failure, or the file as it then is. -/
def openWritable (a : Access) (f : File) : Except WriteError Unit × File :=
  if f.content = .unreachable then (.error ⟨.openFile, .cannotOpen a.path⟩, f)
  else if maxBusyTimeoutMs < a.busyTimeoutMs then
    (.error ⟨.setTimeout, .timeoutTooLarge⟩, f.created)
  else (.ok (), f.created)

def write (a : Access) (stage : Stage) (f : File)
    (act : File → Except Error Unit × File) : Except WriteError Unit × File :=
  match f.openWritable a with
  | (.error e, f) => (.error e, f)
  | (.ok (), f) =>
    let (result, f) := act f
    (result.mapError (⟨stage, ·⟩), f)

/-- A file that has both the table and its index is only looked at. -/
def ensureTable (f : File) : Except Error Unit × File :=
  match f.look with
  | .error e => (.error e, f)
  | .ok table =>
    if some (provide table) = table then (.ok (), f)
    else f.change fun table => .ok (some (provide table))

def init (a : Access) (f : File) : Except WriteError Unit × File :=
  f.write a .createTable ensureTable

def insertRow (c : Cells) (f : File) : Except Error Unit × File :=
  f.change (onTable (insertCells c))

def insert (a : Access) (r : Record) (f : File) : Except WriteError Unit × File :=
  f.write a .insertRow (insertRow (.ofRecord r))

/-- Inserts one after the other, also after a failure; the results in order. -/
def insertAll (a : Access) : List Record → File → List (Except WriteError Unit) × File
  | [], f => ([], f)
  | r :: rest, f =>
    let (first, f) := f.insert a r
    let (later, f) := insertAll a rest f
    (first :: later, f)

/-- Inserts one after the other up to the first failure. -/
def insertUntil (a : Access) : List Record → File → Except WriteError Unit × File
  | [], f => (.ok (), f)
  | r :: rest, f =>
    match f.insert a r with
    | (.error e, f) => (.error e, f)
    | (.ok (), f) => insertUntil a rest f

/-! ### Changes made by others -/

def insertForeign (c : Cells) (f : File) : Except Error Unit × File := f.created.insertRow c

def deleteRow (id : Int) (f : File) : Except Error Unit × File :=
  f.created.change (onTable fun t => .ok (t.delete id))

def dropTable (f : File) : Except Error Unit × File :=
  f.created.change fun
    | none => .error .noSuchTable
    | some _ => .ok none

def createTable (s : Schema) (f : File) : Except Error Unit × File :=
  f.created.change fun
    | none => .ok (some (.empty s false))
    | some _ => .error .tableExists

def takeLock (l : Lock) (f : File) : Except Error Unit × File :=
  let f := f.created
  match f.content, f.lock with
  | .foreign, _ => (.error .notADatabase, f)
  | _, some held =>
    if held.admits l then (.ok (), { f with lock := some l }) else (.error .locked, f)
  | _, none => (.ok (), { f with lock := some l })

def unlock (f : File) : File := { f with lock := none }

end File
end Store
end TelemetryExport
