import TelemetryExport.Store.File
import TelemetryExport.Text.Hex

/-! # The store as text

On disk a store is a text: a line for the table and a line for each row.  The table's line
holds its shape, whether it is indexed and how it numbers its rows: the last number given out, or
the word `drawn` and the random words to come.  A row's line holds its number and its five cells.
A real is written as its pattern, a text or blob as its bytes, so that
reading gives back what was written.  Up to one byte stands for a database without a table, and
any other file is foreign. -/

namespace TelemetryExport
namespace Store

namespace Cell

def image : Cell → String
  | null => "-"
  | integer i => toString i
  | real x => "r" ++ Text.hex (bigEndian 8 x.bits.toNat)
  | text s => "t" ++ Text.hex s.toUTF8.toList
  | blob bytes => "b" ++ Text.hex bytes

def ofImage? (s : String) : Option Cell :=
  match s.toList with
  | ['-'] => some null
  | 'r' :: cs => do
    let bytes ← Text.ofHex? cs
    guard (bytes.length = 8)
    return real ⟨UInt64.ofNat (ofBigEndian bytes)⟩
  | 't' :: cs => do return text (← String.fromUTF8? ⟨(← Text.ofHex? cs).toArray⟩)
  | 'b' :: cs => do return blob (← Text.ofHex? cs)
  | _ => s.toInt?.map integer

end Cell

namespace Schema

def image : Schema → String
  | own => "own"
  | ingestion => "ingestion"
  | untyped => "untyped"

def ofImage? (s : String) : Option Schema := [own, ingestion, untyped].find? (·.image == s)

end Schema

/-- The cells of a row, from left to right. -/
def Cells.toList (c : Cells) : List Cell := Column.all.map c.cell

def Row.image (r : Row) : String :=
  " ".intercalate (toString r.id :: r.cells.toList.map Cell.image)

def Row.ofImage? (s : String) : Option Row :=
  match s.splitOn " " with
  | id :: cells => do
    let id ← id.toInt?
    match ← cells.mapM Cell.ofImage? with
    | [d, t, h, w, ts] => some ⟨id, ⟨d, t, h, w, ts⟩⟩
    | _ => none
  | [] => none

namespace Numbering

/-- The word before random words. -/
def vacancyMark : String := "drawn"

def image : Numbering → List String
  | sequence last => [toString last]
  | vacancy words => vacancyMark :: words.map fun word => toString word.toNat

def ofImage? : List String → Option Numbering
  | [] => none
  | first :: rest =>
    if first = vacancyMark then do
      return vacancy (← rest.mapM fun word => word.toNat?.map UInt64.ofNat)
    else do
      guard rest.isEmpty
      return sequence (← first.toInt?)

end Numbering

namespace Table

def headImage (t : Table) : String :=
  " ".intercalate (t.schema.image :: (if t.indexed then "indexed" else "plain") ::
    t.numbering.image)

def image (t : Table) : String :=
  "\n".intercalate (t.headImage :: t.rows.map Row.image)

def ofImage? (s : String) : Option Table :=
  match s.splitOn "\n" with
  | head :: rows =>
    match head.splitOn " " with
    | schema :: index :: numbering => do
      let schema ← Schema.ofImage? schema
      guard (index = "indexed" ∨ index = "plain")
      return ⟨schema, ← rows.mapM Row.ofImage?, ← Numbering.ofImage? numbering, index = "indexed"⟩
    | _ => none
  | [] => none

end Table

/-- What a file that exists holds. -/
def Content.ofBytes (bytes : Bytes) : Content :=
  if bytes.length ≤ 1 then .database none
  else
    match (String.fromUTF8? ⟨bytes.toArray⟩).bind Table.ofImage? with
    | some t => .database (some t)
    | none => .foreign

/-- The bytes of a database; whatever else a file is, it is left alone. -/
def Content.toBytes? : Content → Option Bytes
  | .database none => some []
  | .database (some t) => some t.image.toUTF8.toList
  | _ => none

end Store
end TelemetryExport
