import TelemetryExport.Toml.Statement

/-! # Tables

Statements add up to a document.  While it grows, a table remembers how it came about:

* `written`: by a header of its own, or as the document itself;
* `implied`: as a table on the way to one with a header;
* `dotted`: as a table on the way of a dotted key.

A header may name a table that so far was only implied; the table then moves behind all other
keys beside it.  A dotted key goes only through tables that are not `written`, and ends in one
that a dotted key made.  No value is ever replaced, and nothing is added to the value of a
pair. -/

namespace TelemetryExport
namespace Toml

inductive Origin where
  | written
  | implied
  | dotted
deriving DecidableEq, Repr

/-- What a key stands for while the document grows. -/
inductive Node where
  | value (v : Value)
  | table (origin : Origin) (entries : List (String × Node))
  /-- An array of tables, of which only the latest can grow. -/
  | tables (earlier : List (List (String × Node))) (latest : List (String × Node))

abbrev Entries := List (String × Node)

namespace Node

mutual

def toValue : Node → Value
  | value v => v
  | table _ entries => .table (toDocument entries)
  | tables earlier latest => .array (toTables earlier ++ [.table (toDocument latest)])

def toDocument : List (String × Node) → Document
  | [] => []
  | (key, node) :: rest => (key, node.toValue) :: toDocument rest

def toTables : List (List (String × Node)) → List Value
  | [] => []
  | entries :: rest => .table (toDocument entries) :: toTables rest

end

end Node

namespace Entries

def replace (key : String) (node : Node) (es : Entries) : Entries :=
  es.map fun e => if e.1 = key then (key, node) else e

def remove (key : String) (es : Entries) : Entries := es.filter (·.1 != key)

/-- Changes the table at the end of a path, making the tables on the way that are missing.  The
change is told how the table came about. -/
def reach? (dotted : Bool) (act? : Origin → Entries → Option Entries) :
    (path : List String) → Origin → Entries → Option Entries
  | [], origin, es => act? origin es
  | key :: path, _, es =>
    match es.lookup key with
    | none => do
      let origin := if dotted then .dotted else .implied
      return es ++ [(key, .table origin (← reach? dotted act? path origin []))]
    | some (.table origin inner) => do
      guard (!dotted || origin != .written)
      return es.replace key (.table origin (← reach? dotted act? path origin inner))
    | some (.tables earlier latest) => do
      return es.replace key (.tables earlier (← reach? dotted act? path .written latest))
    | some (.value _) => none

def add? (key : String) (node : Node) (es : Entries) : Option Entries :=
  match es.lookup key with
  | none => some (es ++ [(key, node)])
  | some _ => none

/-- Adds a pair to the table it is written in. -/
def addPair? (es : Entries) (path : Path) (v : Value) : Option Entries :=
  reach? true (fun origin es => do
    guard (path.above.isEmpty || origin == .dotted)
    es.add? path.name (.value v)) path.above .written es

def addPairs? (pairs : List (Path × Value)) (es : Entries) : Option Entries :=
  pairs.foldlM (fun es p => es.addPair? p.1 p.2) es

/-- Adds a table under a header of its own. -/
def addTable? (path : Path) (pairs : List (Path × Value)) (root : Entries) : Option Entries :=
  reach? false (fun _ es => do
    let start ← match es.lookup path.name with
      | none => some []
      | some (.table .implied inner) => some inner
      | some _ => none
    return es.remove path.name ++ [(path.name, .table .written (← addPairs? pairs start))])
    path.above .written root

/-- Adds an element to an array of tables. -/
def addElement? (path : Path) (pairs : List (Path × Value)) (root : Entries) : Option Entries :=
  reach? false (fun _ es => do
    let element ← addPairs? pairs []
    match es.lookup path.name with
    | none => return es ++ [(path.name, .tables [] element)]
    | some (.tables earlier latest) =>
      return es.replace path.name (.tables (earlier ++ [latest]) element)
    | some _ => none)
    path.above .written root

end Entries

/-! ### From statements to a document -/

/-- The pairs before the first header, and what follows them. -/
def leadingPairs : List Statement → List (Path × Value) × List Statement
  | .pair path v :: rest =>
    let (pairs, rest) := leadingPairs rest
    ((path, v) :: pairs, rest)
  | rest => ([], rest)

theorem length_leadingPairs_le (statements : List Statement) :
    (leadingPairs statements).2.length ≤ statements.length := by
  fun_induction leadingPairs statements <;> simp_all
  omega

/-- Adds the tables of all headers with the pairs that follow each. -/
def Entries.addSections? (root : Entries) : List Statement → Option Entries
  | .header path :: rest => do
    let section_ := leadingPairs rest
    (← root.addTable? path section_.1).addSections? section_.2
  | .elementHeader path :: rest => do
    let section_ := leadingPairs rest
    (← root.addElement? path section_.1).addSections? section_.2
  | _ => some root
termination_by statements => statements.length
decreasing_by all_goals
  simp only [List.length_cons]
  have := length_leadingPairs_le rest
  omega

def inlineTable? (pairs : List (Path × Value)) : Option Document :=
  (Entries.addPairs? pairs []).map Node.toDocument

def Document.ofStatements? (statements : List Statement) : Option Document := do
  let (pairs, rest) := leadingPairs statements
  let root ← Entries.addPairs? pairs []
  return Node.toDocument (← root.addSections? rest)

/-- The document that a text is, if it is one.  A byte order mark may precede it. -/
def parse? (text : String) : Option Document := do
  let cs := match text.toList with
    | '\uFEFF' :: cs => cs
    | cs => cs
  Document.ofStatements? (← statements? inlineTable? (cs.length + 1) cs)

end Toml
end TelemetryExport
