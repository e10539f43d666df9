/-! # Blanks, line ends and comments

Only the space and the tab are blanks, and a line ends with a line feed, possibly after a
carriage return, or with the document.  A comment runs to the end of its line; control
characters other than the tab are allowed nowhere. -/

namespace TelemetryExport
namespace Toml

def isSpace (c : Char) : Bool := c == ' ' || c == '\t'

/-- Neither a control character of the ASCII range nor a line end. -/
def isTextChar (c : Char) : Bool := c == '\t' || (' ' ≤ c && c != '\x7f')

def skipSpaces (cs : List Char) : List Char := cs.dropWhile isSpace

/-- The rest after a line end. -/
def newline? : List Char → Option (List Char)
  | '\n' :: cs => some cs
  | '\r' :: '\n' :: cs => some cs
  | _ => none

def skipComment : List Char → List Char
  | '#' :: cs => cs.dropWhile isTextChar
  | cs => cs

/-- The next line, if nothing but blanks and a comment stands before it. -/
def nextLine? (cs : List Char) : Option (List Char) :=
  match skipComment (skipSpaces cs) with
  | [] => some []
  | cs => newline? cs

/-- Skips blanks and line ends. -/
def skipLines : List Char → List Char
  | '\r' :: '\n' :: cs => skipLines cs
  | c :: cs => if isSpace c || c == '\n' then skipLines cs else c :: cs
  | [] => []

/-- Skips blanks, line ends and comments, from within a comment or not. -/
def skipLayout : (comment : Bool) → List Char → List Char
  | _, [] => []
  | _, '\n' :: cs => skipLayout false cs
  | _, '\r' :: '\n' :: cs => skipLayout false cs
  | true, c :: cs => if isTextChar c then skipLayout true cs else c :: cs
  | false, c :: cs =>
    if c = '#' then skipLayout true cs
    else if isSpace c then skipLayout false cs
    else c :: cs

/-! ### Nothing grows -/

theorem length_skipSpaces_le (cs : List Char) : (skipSpaces cs).length ≤ cs.length :=
  (List.dropWhile_sublist isSpace).length_le

theorem length_newline?_lt {cs rest : List Char} (h : newline? cs = some rest) :
    rest.length < cs.length := by
  unfold newline? at h
  split at h
  · simp only [Option.some.injEq] at h
    simp [← h]
  · simp only [Option.some.injEq] at h
    simp only [List.length_cons, ← h]
    omega
  · simp at h

theorem length_skipLines_le (cs : List Char) : (skipLines cs).length ≤ cs.length := by
  fun_induction skipLines cs <;> simp_all <;> omega

end Toml
end TelemetryExport
