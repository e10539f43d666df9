import TelemetryExport.Toml.Layout

/-! # Quoted text

Text stands between double quotes, where a backslash begins an escape, or between single
quotes, where it stands for itself.  Three quotes instead of one allow line ends in the text;
each counts as a line feed, the one right after the opening quotes does not count, and a
backslash at the end of a line joins it to the next text.  Such a text may begin and end with
one or two quotes of its own. -/

namespace TelemetryExport
namespace Toml

/-- How a text is quoted: the character, and whether it is written three times. -/
structure Quoting where
  quote : Char
  multiline : Bool
deriving DecidableEq, Repr

/-! ### Escapes -/

def isHexDigit (c : Char) : Bool :=
  c.isDigit || ('a' ≤ c && c ≤ 'f') || ('A' ≤ c && c ≤ 'F')

def hexValue (c : Char) : Nat :=
  if c.isDigit then c.toNat - '0'.toNat
  else if 'a' ≤ c then c.toNat - 'a'.toNat + 10
  else c.toNat - 'A'.toNat + 10

/-- The character whose number is written in the next `width` digits. -/
def codePoint? (width : Nat) (cs : List Char) : Option (Char × List Char) :=
  let ds := cs.take width
  let n := ds.foldl (fun n c => 16 * n + hexValue c) 0
  if ds.length = width ∧ ds.all isHexDigit ∧ n.isValidChar then some (.ofNat n, cs.drop width)
  else none

/-- The character that an escape stands for, after its backslash. -/
def escape? : List Char → Option (Char × List Char)
  | 'b' :: cs => some ('\x08', cs)
  | 't' :: cs => some ('\t', cs)
  | 'n' :: cs => some ('\n', cs)
  | 'f' :: cs => some ('\x0c', cs)
  | 'r' :: cs => some ('\r', cs)
  | '"' :: cs => some ('"', cs)
  | '\\' :: cs => some ('\\', cs)
  | 'u' :: cs => codePoint? 4 cs
  | 'U' :: cs => codePoint? 8 cs
  | _ => none

/-- What follows a backslash that ends its line, without the blanks and line ends there. -/
def joined? (cs : List Char) : Option (List Char) := (newline? (skipSpaces cs)).map skipLines

theorem length_escape?_lt {cs rest : List Char} {c : Char} (h : escape? cs = some (c, rest)) :
    rest.length < cs.length := by
  have code {width : Nat} {cs : List Char} (h : codePoint? width cs = some (c, rest)) :
      rest.length ≤ cs.length := by
    simp only [codePoint?, Option.ite_none_right_eq_some, Option.some.injEq, Prod.mk.injEq] at h
    simp [← h.2.2]
  unfold escape? at h
  split at h
  case h_8 => simpa using Nat.lt_succ_of_le (code h)
  case h_9 => simpa using Nat.lt_succ_of_le (code h)
  all_goals simp_all

theorem length_joined?_le {cs rest : List Char} (h : joined? cs = some rest) :
    rest.length ≤ cs.length := by
  simp only [joined?, Option.map_eq_some_iff] at h
  obtain ⟨line, hline, rfl⟩ := h
  have := length_newline?_lt hline
  have := length_skipSpaces_le cs
  have := length_skipLines_le line
  omega

/-! ### The text -/

namespace Quoting

/-- If the text ends here: the quotes that still belong to it, and what follows it. -/
def ending? (q : Quoting) (cs : List Char) : Option (List Char × List Char) :=
  let quotes := cs.takeWhile (· == q.quote)
  let least := if q.multiline then 3 else 1
  if quotes.length < least then none
  else
    let kept := if q.multiline then min (quotes.length - least) 2 else 0
    some (quotes.take kept, cs.drop (kept + least))

/-- The next part of a text that does not end here, and what follows that part. -/
def part? (q : Quoting) : List Char → Option (List Char × List Char)
  | [] => none
  | c :: cs =>
    if c = '\\' ∧ q.quote = '"' then
      match q.multiline, joined? cs with
      | true, some cs => some ([], cs)
      | _, _ => (escape? cs).map fun (c, cs) => ([c], cs)
    else if isTextChar c then some ([c], cs)
    else if q.multiline then (newline? (c :: cs)).map fun cs => (['\n'], cs)
    else none

theorem length_part?_lt {q : Quoting} {cs part rest : List Char}
    (h : q.part? cs = some (part, rest)) : rest.length < cs.length := by
  unfold part? at h
  split at h
  · simp at h
  next c cs =>
    split at h
    · split at h
      next hj =>
        simp only [Option.some.injEq, Prod.mk.injEq] at h
        have := length_joined?_le hj
        simp only [List.length_cons, ← h.2]
        omega
      · simp only [Option.map_eq_some_iff, Prod.exists, Prod.mk.injEq] at h
        obtain ⟨e, r, he, -, rfl⟩ := h
        have := length_escape?_lt he
        simp only [List.length_cons]
        omega
    · split at h
      · simp_all
      · split at h
        · simp only [Option.map_eq_some_iff, Prod.mk.injEq] at h
          obtain ⟨r, hr, -, rfl⟩ := h
          exact length_newline?_lt hr
        · simp at h

/-- The text up to its closing quotes, and what follows them. -/
def chars? (q : Quoting) (cs : List Char) : Option (List Char × List Char) :=
  match q.ending? cs with
  | some found => some found
  | none =>
    match h : q.part? cs with
    | none => none
    | some (part, rest) =>
      have := length_part?_lt h
      (q.chars? rest).map fun (more, rest) => (part ++ more, rest)
termination_by cs.length

def text? (q : Quoting) (cs : List Char) : Option (String × List Char) :=
  (q.chars? cs).map fun (text, cs) => (.ofList text, cs)

end Quoting

/-- A text on one line, as a key may be written. -/
def quotedLine? : List Char → Option (String × List Char)
  | '"' :: cs => Quoting.text? ⟨'"', false⟩ cs
  | '\'' :: cs => Quoting.text? ⟨'\'', false⟩ cs
  | _ => none

/-- A text with any quoting. -/
def quoted? : List Char → Option (String × List Char)
  | '"' :: '"' :: '"' :: cs => Quoting.text? ⟨'"', true⟩ ((newline? cs).getD cs)
  | '\'' :: '\'' :: '\'' :: cs => Quoting.text? ⟨'\'', true⟩ ((newline? cs).getD cs)
  | cs => quotedLine? cs

end Toml
end TelemetryExport
