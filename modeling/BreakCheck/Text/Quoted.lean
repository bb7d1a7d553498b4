/-
BreakCheck/Text/Quoted.lean

Texts between double quotes, for error texts and listings.

Inside the quotes every character shows: quotes and backslashes are escaped, the
common controls have short escapes, and any other character that would not show
on its own is named by its code point in hexadecimal.
-/
import BreakCheck.Text.Hidden

namespace BreakCheck

/-- One character of a quoted text. -/
def quoteChar (c : Char) : List Char :=
  match c with
  | '\x00' => ['\\', '0']
  | '\t' => ['\\', 't']
  | '\n' => ['\\', 'n']
  | '\r' => ['\\', 'r']
  | '"' => ['\\', '"']
  | '\\' => ['\\', '\\']
  | c =>
    if isHidden c then ['\\', 'u', '{'] ++ Nat.toDigits 16 c.toNat ++ ['}'] else [c]

/-- A text between double quotes. -/
def quoted (text : String) : String :=
  String.ofList ('"' :: (text.toList.flatMap quoteChar ++ ['"']))

end BreakCheck
