import TelemetryExport.Text.Plain

/-! # Quoted texts in messages

A text that a message quotes stands between double quotes.  A quote or backslash in it and the
usual control characters are written with a backslash, and any other character that is not
plain by its number. -/

namespace TelemetryExport
namespace Text

/-- The number of a character in hexadecimal digits between braces. -/
def numbered (c : Char) : List Char :=
  '\\' :: 'u' :: '\x7b' :: Nat.toDigits 16 c.toNat ++ ['\x7d']

def quotedChar (c : Char) : List Char :=
  match c with
  | '"' => ['\\', '"']
  | '\\' => ['\\', '\\']
  | '\t' => ['\\', 't']
  | '\n' => ['\\', 'n']
  | '\r' => ['\\', 'r']
  | '\x00' => ['\\', '0']
  | c => if isPlain c then [c] else numbered c

def quoted (s : String) : String := .ofList ('"' :: s.toList.flatMap quotedChar ++ ['"'])

end Text
end TelemetryExport
