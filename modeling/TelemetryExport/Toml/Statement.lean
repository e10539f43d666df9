import TelemetryExport.Toml.Moment
import TelemetryExport.Toml.Number

/-! # Statements

A document is written as a list of statements: pairs of a key and a value, one to a line, and
headers, which name the table that the following pairs belong to.  A header in double brackets
adds a new element to an array of tables.

Keys and values only say here what was written; `Toml.Table` makes the document out of them.
Inline tables are made on the way, by the function `build?` that the readers take as an
argument, because they stand inside values. -/

namespace TelemetryExport
namespace Toml

/-- A dotted key: the tables on the way, and the key in the last of them. -/
structure Path where
  above : List String
  name : String
deriving DecidableEq, Repr

inductive Statement where
  | pair (path : Path) (value : Value)
  | header (path : Path)
  | elementHeader (path : Path)

/-- Arrays and inline tables stand inside each other to less than this depth, and the keys of a
dotted key are fewer. -/
def nestingLimit : Nat := 80

/-! ### Keys -/

def isKeyChar (c : Char) : Bool := c.isAlphanum || c == '-' || c == '_'

def bareKey? (cs : List Char) : Option (String × List Char) :=
  let key := cs.takeWhile isKeyChar
  if key.isEmpty then none else some (.ofList key, cs.dropWhile isKeyChar)

/-- One key, with blanks around it. -/
def key? (cs : List Char) : Option (String × List Char) := do
  let cs := skipSpaces cs
  let (key, cs) ← quotedLine? cs <|> bareKey? cs
  return (key, skipSpaces cs)

/-- Items with a separator between them; `fuel` bounds their number. -/
def separated? {α : Type} (item? : List Char → Option (α × List Char)) (separator : Char) :
    (fuel : Nat) → List Char → Option (List α × List Char)
  | 0, _ => none
  | fuel + 1, cs => do
    let (a, cs) ← item? cs
    match expect? separator cs with
    | none => return ([a], cs)
    | some cs =>
      let (more, cs) ← separated? item? separator fuel cs
      return (a :: more, cs)

def Path.ofKeys? (keys : List String) : Option Path := do
  guard (keys.length < nestingLimit)
  return ⟨keys.dropLast, ← keys.getLast?⟩

def path? (cs : List Char) : Option (Path × List Char) := do
  let (keys, cs) ← separated? key? '.' (cs.length + 1) cs
  return (← Path.ofKeys? keys, cs)

/-! ### Values -/

abbrev ValueReader := List Char → Option (Value × List Char)

def pair? (value? : ValueReader) (cs : List Char) : Option ((Path × Value) × List Char) := do
  let (path, cs) ← path? cs
  let (value, cs) ← value? (skipSpaces (← expect? '=' cs))
  return ((path, value), skipSpaces cs)

/-- The items of an array and its closing bracket; a comma may stand after the last item. -/
def items? (value? : ValueReader) : (fuel : Nat) → List Char → Option (List Value × List Char)
  | 0, _ => none
  | fuel + 1, cs =>
    match skipLayout false cs with
    | ']' :: cs => some ([], cs)
    | cs => do
      let (v, cs) ← value? cs
      match skipLayout false cs with
      | ',' :: cs =>
        let (more, cs) ← items? value? fuel cs
        return (v :: more, cs)
      | ']' :: cs => return ([v], cs)
      | _ => none

/-- The pairs of an inline table and its closing brace. -/
def inlinePairs? (value? : ValueReader) (cs : List Char) :
    Option (List (Path × Value) × List Char) :=
  match expect? '\x7d' (skipSpaces cs) with
  | some cs => some ([], cs)
  | none => do
    let (pairs, cs) ← separated? (pair? value?) ',' (cs.length + 1) cs
    return (pairs, ← expect? '\x7d' cs)

def keyword? : List Char → Option (Value × List Char)
  | 't' :: 'r' :: 'u' :: 'e' :: cs => some (.boolean true, cs)
  | 'f' :: 'a' :: 'l' :: 's' :: 'e' :: cs => some (.boolean false, cs)
  | _ => none

def scalar? (cs : List Char) : Option (Value × List Char) :=
  ((quoted? cs).map fun (s, cs) => (.string s, cs)) <|> keyword? cs <|>
    ((moment? cs).map fun (s, cs) => (.dateTime s, cs)) <|> number? cs

/-- A value, in which arrays and inline tables go at most `depth` deep. -/
def value? (build? : List (Path × Value) → Option Document) : (depth : Nat) → ValueReader
  | 0, cs => scalar? cs
  | depth + 1, cs =>
    match cs with
    | '[' :: cs => (items? (value? build? depth) (cs.length + 1) cs).map fun (vs, cs) =>
      (.array vs, cs)
    | '\x7b' :: cs => do
      let (pairs, cs) ← inlinePairs? (value? build? depth) cs
      return (.table (← build? pairs), cs)
    | cs => scalar? cs

/-! ### Statements -/

def header? (cs : List Char) : Option (Path × List Char) := do
  let (path, cs) ← path? cs
  return (path, ← expect? ']' cs)

def statement? (build? : List (Path × Value) → Option Document) :
    List Char → Option (Statement × List Char)
  | '[' :: '[' :: cs => do
    let (path, cs) ← header? cs
    return (.elementHeader path, ← expect? ']' cs)
  | '[' :: cs => (header? cs).map fun (path, cs) => (.header path, cs)
  | cs => (pair? (value? build? (nestingLimit - 1)) cs).map fun (p, cs) => (.pair p.1 p.2, cs)

/-- All statements up to the end of the text; `fuel` bounds the number of lines. -/
def statements? (build? : List (Path × Value) → Option Document) :
    (fuel : Nat) → List Char → Option (List Statement)
  | 0, _ => none
  | fuel + 1, cs =>
    if cs.isEmpty then some []
    else
      match nextLine? cs with
      | some cs => statements? build? fuel cs
      | none => do
        let (s, cs) ← statement? build? (skipSpaces cs)
        return s :: (← statements? build? fuel (← nextLine? cs))

end Toml
end TelemetryExport
