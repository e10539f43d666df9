import TelemetryExport.Store.Table

/-! # What can go wrong in the store -/

namespace TelemetryExport
namespace Store

inductive Error where
  | cannotOpen (path : String)
  /-- Another connection holds a lock. -/
  | locked
  | notADatabase
  | noSuchTable
  | tableExists
  | missingValue (column : Column)
  /-- There is no number for a further row. -/
  | full
  /-- A row's cell has a class that its column is not read from. -/
  | unreadable (column : Column) (found : StorageClass)
  /-- A busy timeout beyond the range of the store's clock brings the program down. -/
  | timeoutTooLarge
  /-- Any other failure, as the store words it, with its number and what that stands for. -/
  | other (text : String) (number? : Option (Nat × String))
deriving DecidableEq, Repr

namespace Error

def tableName : String := "farm_data"

def message : Error → String
  | cannotOpen path => "unable to open database file: " ++ path
  | locked => "database is locked"
  | notADatabase => "file is not a database"
  | noSuchTable => "no such table: " ++ tableName
  | tableExists => "table " ++ tableName ++ " already exists"
  | missingValue column =>
    "NOT NULL constraint failed: " ++ tableName ++ "." ++ column.name
  | full => "database or disk is full"
  | unreadable column found =>
    "Invalid column type " ++ found.name ++ " at index: " ++ toString column.index ++
      ", name: " ++ column.name
  | timeoutTooLarge => "too big"
  | other text _ => text

/-- The store's own error number and what it stands for. -/
def code? : Error → Option (Nat × String)
  | cannotOpen _ => some (14, "Unable to open the database file")
  | locked => some (5, "The database file is locked")
  | notADatabase => some (26, "File opened that is not a database file")
  | noSuchTable => some (1, "SQL error or missing database")
  | tableExists => some (1, "SQL error or missing database")
  | missingValue _ => some (1299, "A NOT NULL constraint failed")
  | full => some (13, "Insertion failed because database is full")
  | unreadable .. => none
  | timeoutTooLarge => none
  | other _ number? => number?

/-- The message, followed by the store's explanation if it has one. -/
def explained (e : Error) : String :=
  match e.code? with
  | some (number, text) => e.message ++ ": Error code " ++ toString number ++ ": " ++ text
  | none => e.message

/-- The number for a file that another connection holds. -/
def busyNumber : Nat := 5

/-- The number for a table that is in use. -/
def inUseNumber : Nat := 6

/-- A later attempt may succeed.  What is above the lowest byte of a number is detail. -/
def isTransient (e : Error) : Bool :=
  match e.code? with
  | some (number, _) => number % 256 == busyNumber || number % 256 == inUseNumber
  | none => false

/-- The request itself is wrong, whatever the values in it. -/
def isImmediate : Error → Bool
  | noSuchTable => true
  | tableExists => true
  | _ => false

end Error

/-- Why a row is not added, as the store puts it. -/
def Refusal.error : Refusal → Error
  | full => .full
  | missing column => .missingValue column

/-- What the store was being asked to do. -/
inductive Stage where
  | openFile
  | setTimeout
  | createTable
  | insertRow
deriving DecidableEq, Repr

def Stage.context : Stage → String
  | openFile => "Failed to open database file"
  | setTimeout => "Failed to set busy timeout"
  | createTable => "Failed to create table"
  | insertRow => "Failed to insert data into table"

/-- A failed attempt to change the store. -/
structure WriteError where
  stage : Stage
  cause : Error
deriving DecidableEq, Repr

/-- The program does not survive the failure. -/
def WriteError.isCrash (e : WriteError) : Bool := e.cause == .timeoutTooLarge

def WriteError.message (e : WriteError) : String :=
  if e.isCrash then e.cause.message else e.stage.context ++ ": " ++ e.cause.explained

def Error.queryMessage (e : Error) : String := "Failed to query records: " ++ e.message

end Store
end TelemetryExport
