import TelemetryExport.Binary.Number

/-! # Document values

A document is a table: a list of keys with their values, in the order of the document, no key
twice.  Dates and times are kept as they were written. -/

namespace TelemetryExport
namespace Toml

inductive Value where
  | string (text : String)
  | integer (value : Int)
  | float (value : Double)
  | boolean (value : Bool)
  | dateTime (text : String)
  | array (items : List Value)
  | table (entries : List (String × Value))
deriving Repr, Inhabited

/-- A table's keys with their values. -/
abbrev Document := List (String × Value)

end Toml
end TelemetryExport
