/-
BreakCheck/Json/Writing.lean

Data as JSON text.

Text comes compact, or set out with an indentation of two spaces.  Only texts
can be names of members, so a map with any other key cannot be written.

An object that is announced without members is closed at once.  The entries of
such a map, if there are any, are written behind the closed object, and it is
closed once more behind them.  Compact text is then not JSON.  Text that is set
out does not come about at all: closed twice, the object gives its indentation
back twice, and before the end there is none left to give back.  So `indentBehind`
goes through the data in the order of writing, and `write` sets out only what keeps
its indentation.
-/
import BreakCheck.Data

namespace BreakCheck.Json

/-- Why data cannot be written as JSON. -/
inductive WriteError
  /-- A map has a key that is not a text. -/
  | keyNotText
  /-- More objects are closed than have been opened, where the text is set out. -/
  | lostIndentation
  deriving DecidableEq

/-- The text of a write error. -/
def WriteError.message : WriteError → String
  | keyNotText => "key must be a string"
  | lostIndentation => "attempt to subtract with overflow"

/-- Whether the text is set out for people to read. -/
inductive Style
  | compact
  | pretty

/-! ### Texts -/

/-- One character of a text in quotes. -/
def escapeChar (c : Char) : List Char :=
  match c with
  | '"' => ['\\', '"']
  | '\\' => ['\\', '\\']
  | '\x08' => ['\\', 'b']
  | '\x0c' => ['\\', 'f']
  | '\n' => ['\\', 'n']
  | '\r' => ['\\', 'r']
  | '\t' => ['\\', 't']
  | c =>
    if c.toNat < 0x20 then
      ['\\', 'u', '0', '0', Nat.digitChar (c.toNat / 16), Nat.digitChar (c.toNat % 16)]
    else [c]

/-- A text in quotes. -/
def textChars (value : String) : List Char :=
  '"' :: (value.toList.flatMap escapeChar ++ ['"'])

/-! ### Layout -/

namespace Style

/-- A new line of the given depth; nothing in compact text. -/
def line (style : Style) (depth : Nat) : List Char :=
  match style with
  | compact => []
  | pretty => '\n' :: List.replicate (2 * depth) ' '

/-- What stands between a name and its value. -/
def colon : Style → List Char
  | compact => [':']
  | pretty => [':', ' ']

end Style

/-! ### Indentation -/

/-- One step back; there is none from the margin. -/
def outdent : Nat → Except WriteError Nat
  | 0 => .error .lostIndentation
  | indent + 1 => .ok indent

mutual

/-- The indentation behind a value that starts with the given one. -/
def indentBehind : Data → Nat → Except WriteError Nat
  | .null, indent => .ok indent
  | .flag _, indent => .ok indent
  | .text _, indent => .ok indent
  | .list items, indent => indentBehindItems items (indent + 1) >>= outdent
  | .map _ [], indent => .ok indent
  -- closed at once, the object is back at its own indentation when its entries come
  | .map 0 entries, indent => indentBehindEntries entries indent >>= outdent
  | .map _ entries, indent => indentBehindEntries entries (indent + 1) >>= outdent
termination_by structural value => value

/-- The indentation behind all items. -/
def indentBehindItems : List Data → Nat → Except WriteError Nat
  | [], indent => .ok indent
  | item :: rest, indent => indentBehind item indent >>= indentBehindItems rest
termination_by structural items => items

/-- The indentation behind all entries. -/
def indentBehindEntries : List (Data × Data) → Nat → Except WriteError Nat
  | [], indent => .ok indent
  | (.text _, value) :: rest, indent => indentBehind value indent >>= indentBehindEntries rest
  | _ :: _, _ => .error .keyNotText
termination_by structural entries => entries

end

/-! ### Values -/

/-- A name and its value; the name has to be a text. -/
def memberChars (style : Style) (key : Data) (value : Except WriteError (List Char)) :
    Except WriteError (List Char) :=
  match key with
  | .text name => value.map fun chars => textChars name ++ style.colon ++ chars
  | _ => .error .keyNotText

mutual

/-- A value at the given depth, to which every collection returns when it is closed. -/
def valueChars (style : Style) : Data → Nat → Except WriteError (List Char)
  | .null, _ => .ok ['n', 'u', 'l', 'l']
  | .flag true, _ => .ok ['t', 'r', 'u', 'e']
  | .flag false, _ => .ok ['f', 'a', 'l', 's', 'e']
  | .text value, _ => .ok (textChars value)
  | .list [], _ => .ok ['[', ']']
  | .list (item :: rest), depth => do
    let first ← valueChars style item (depth + 1)
    let others ← itemChars style rest (depth + 1)
    return '[' :: (style.line (depth + 1) ++ first ++ others ++ style.line depth ++ [']'])
  | .map _ [], _ => .ok ['{', '}']
  | .map 0 entries, depth => do
    let late ← entryChars style entries depth
    return '{' :: '}' :: (late ++ style.line depth ++ ['}'])
  | .map _ ((key, value) :: rest), depth => do
    let first ← memberChars style key (valueChars style value (depth + 1))
    let others ← entryChars style rest (depth + 1)
    return '{' :: (style.line (depth + 1) ++ first ++ others ++ style.line depth ++ ['}'])
termination_by structural value => value

/-- The items of a list after the first one. -/
def itemChars (style : Style) : List Data → Nat → Except WriteError (List Char)
  | [], _ => .ok []
  | item :: rest, depth => do
    let first ← valueChars style item depth
    let others ← itemChars style rest depth
    return ',' :: (style.line depth ++ first ++ others)
termination_by structural items => items

/-- The entries of a map after the first one. -/
def entryChars (style : Style) : List (Data × Data) → Nat → Except WriteError (List Char)
  | [], _ => .ok []
  | (key, value) :: rest, depth => do
    let first ← memberChars style key (valueChars style value depth)
    let others ← entryChars style rest depth
    return ',' :: (style.line depth ++ first ++ others)
termination_by structural entries => entries

end

/-- Data as JSON text.  Text that is set out needs its indentation up to the end. -/
def write (style : Style) (data : Data) : Except WriteError String :=
  match style with
  | .compact => (valueChars .compact data 0).map String.ofList
  | .pretty => do
    let _ ← indentBehind data 0
    (valueChars .pretty data 0).map String.ofList

end BreakCheck.Json
