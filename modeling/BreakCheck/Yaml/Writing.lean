/-
BreakCheck/Yaml/Writing.lean

Data as YAML text.

Collections are written in block style.  A collection stands at a column, where
its first entry begins on the line it is met on and every other entry on a line
of its own.  A sequence that is the value of a key stands at the column of the
key, any other inner collection two columns further right.

A key that is one short line is followed by its colon; any other key has an
indicator in front, and its value a line of its own.

A map that announces one entry is begun by its first key.  So if that key is such
a map, too, one beginning serves for both of them, the second end has nothing to
end, and the data cannot be written (`beginsApart`).
-/
import BreakCheck.Data
import BreakCheck.Yaml.Form

namespace BreakCheck.Yaml

open Form (pad scalarChars scalarLines)

/-- Why data cannot be written as YAML. -/
inductive WriteError
  /-- Two maps have only one beginning. -/
  | sharedBeginning
  deriving DecidableEq

/-! ### Beginnings -/

/-- Whether data is a map that its first key begins. -/
def isBegunByKey : Data → Bool
  | .map announced _ => announced == 1
  | _ => false

mutual

/-- Whether every map in the data has a beginning of its own. -/
def beginsApart : Data → Bool
  | .null => true
  | .flag _ => true
  | .text _ => true
  | .list items => itemsBeginApart items
  | .map announced entries =>
    !(announced == 1 && entries.head?.any fun entry => isBegunByKey entry.1)
      && entriesBeginApart entries
termination_by structural data => data

/-- Whether every map in the items of a list has a beginning of its own. -/
def itemsBeginApart : List Data → Bool
  | [] => true
  | item :: rest => beginsApart item && itemsBeginApart rest
termination_by structural items => items

/-- Whether every map in the entries of a map has a beginning of its own. -/
def entriesBeginApart : List (Data × Data) → Bool
  | [] => true
  | (key, value) :: rest => beginsApart key && beginsApart value && entriesBeginApart rest
termination_by structural entries => entries

end

/-! ### Lines -/

/-- The length in bytes up to which a key can be followed by its colon. -/
def maxKeySize : Nat := 128

/-- Whether a key can be followed by its colon. -/
def isSimpleKey : Data → Bool
  | .null => true
  | .flag _ => true
  | .text value => !value.toList.any isBreak && decide (value.utf8ByteSize ≤ maxKeySize)
  | .list items => items.isEmpty
  | .map _ entries => entries.isEmpty

/-- Data that takes no more than the rest of a line, or literal lines; none for
collections that are not empty. -/
def leafLines? (column : Nat) : Data → Option (List Char)
  | .null => some ['n', 'u', 'l', 'l', '\n']
  | .flag true => some ['t', 'r', 'u', 'e', '\n']
  | .flag false => some ['f', 'a', 'l', 's', 'e', '\n']
  | .text value => some (scalarLines column value)
  | .list [] => some ['[', ']', '\n']
  | .map _ [] => some ['{', '}', '\n']
  | _ => none

/-- A key that is followed by its colon. -/
def simpleKeyChars : Data → List Char
  | .null => ['n', 'u', 'l', 'l']
  | .flag true => ['t', 'r', 'u', 'e']
  | .flag false => ['f', 'a', 'l', 's', 'e']
  | .text value => scalarChars 0 value
  | .list _ => ['[', ']']
  | .map .. => ['{', '}']

mutual

/-- Data met at a column, up to the end of its last line. -/
def nodeLines : Data → Nat → List Char
  | .list (item :: rest), column => itemLines (item :: rest) column
  | .map _ (entry :: rest), column => entryLines (entry :: rest) column
  | data, column => (leafLines? column data).getD []
termination_by structural data => data

/-- The items of a sequence at a column, the first of which is met there. -/
def itemLines : List Data → Nat → List Char
  | [], _ => []
  | [item], column => '-' :: ' ' :: nodeLines item (column + 2)
  | item :: rest, column =>
    '-' :: ' ' :: (nodeLines item (column + 2) ++ pad column ++ itemLines rest column)
termination_by structural items => items

/-- The entries of a mapping at a column, the first of which is met there. -/
def entryLines : List (Data × Data) → Nat → List Char
  | [], _ => []
  | (key, value) :: rest, column =>
    (if isSimpleKey key then simpleKeyChars key ++ ':' :: valueLines value column
     else
      '?' :: ' ' :: (nodeLines key (column + 2) ++ pad column
        ++ ':' :: ' ' :: nodeLines value (column + 2)))
      ++ (if rest.isEmpty then [] else pad column) ++ entryLines rest column
termination_by structural entries => entries

/-- The value behind the colon of a key at a column. -/
def valueLines : Data → Nat → List Char
  | .list (item :: rest), column => '\n' :: (pad column ++ itemLines (item :: rest) column)
  | .map _ (entry :: rest), column =>
    '\n' :: (pad (column + 2) ++ entryLines (entry :: rest) (column + 2))
  | data, column => ' ' :: (leafLines? (column + 2) data).getD []
termination_by structural data => data

end

/-- All lines of a document. -/
def documentLines : Data → List Char
  | .text value => scalarLines 2 value
  | data => nodeLines data 0

/-- Data as a YAML document. -/
def write (data : Data) : Except WriteError String :=
  if beginsApart data then .ok (String.ofList (documentLines data)) else .error .sharedBeginning

end BreakCheck.Yaml
