/-
BreakCheck/Yaml/Token/Stream.lean

A YAML text as the sequence of its tokens.

Two things make this more than cutting a text into pieces.  Indentation opens
and closes block collections, so a line may begin with tokens that are not
written.  And a key without an indicator is recognised only at the colon behind
it: a token that may begin such a key is held back until that is settled.  Held
back tokens are the `queue`; the place where a key may have begun is a
`Candidate`.

The tokens of a text that is not well formed are those that are settled before
the fault; the sequence then lacks `Token.streamEnd`.
-/
import BreakCheck.Yaml.Token.Properties
import BreakCheck.Yaml.Token.Scalar

namespace BreakCheck.Yaml

/-- A place where a key without an indicator may have begun. -/
structure Candidate where
  /-- The number of the token that begins there. -/
  number : Nat
  offset : Nat
  line : Nat
  column : Nat
  /-- Whether nothing but a key can stand there. -/
  required : Bool

/-- The state of going through a text. -/
structure Scan where
  cursor : Cursor
  /-- The column of the innermost block collection; below zero outside of all. -/
  indent : Int := -1
  /-- The columns of the collections around it. -/
  outer : List Int := []
  /-- Whether a key may begin here. -/
  keyAllowed : Bool := true
  /-- The candidate of the innermost flow collection. -/
  candidate : Option Candidate := none
  /-- The candidates of the collections around it, and of the block context. -/
  around : List (Option Candidate) := []
  /-- How many tokens have been settled. -/
  settled : Nat := 0
  /-- The tokens that are held back. -/
  queue : List Token := []

namespace Scan

/-- Whether the place lies in a flow collection. -/
def inFlow (s : Scan) : Bool := !s.around.isEmpty

/-- Add a token at the end. -/
def push (s : Scan) (token : Token) : Scan := { s with queue := s.queue ++ [token] }

/-- Step over `count` characters and add a token. -/
def take (s : Scan) (count : Nat) (token : Token) : Scan :=
  { s.push token with cursor := s.cursor.skip count }

/-- Put a token before the one with the given number. -/
def insert (s : Scan) (number : Nat) (token : Token) : Scan :=
  let place := number - s.settled
  { s with queue := s.queue.take place ++ token :: s.queue.drop place }

/-! ### Candidates -/

/-- Give up the innermost candidate; a required one cannot be given up. -/
def dropCandidate (s : Scan) : Option Scan :=
  if s.candidate.any Candidate.required then none else some { s with candidate := none }

/-- Take note that a key may begin here. -/
def noteCandidate (s : Scan) : Option Scan :=
  if s.keyAllowed then do
    let s ← s.dropCandidate
    return { s with
      candidate := some
        { number := s.settled + s.queue.length
          offset := s.cursor.offset
          line := s.cursor.line
          column := s.cursor.column
          required := !s.inFlow && decide (s.indent = (s.cursor.column : Int)) } }
  else some s

/-- Whether a candidate is too far away: a key ends on its line, and within 1024
bytes. -/
def isStale (s : Scan) (candidate : Candidate) : Bool :=
  candidate.line < s.cursor.line || candidate.offset + 1024 < s.cursor.offset

/-- Give up every candidate that is too far away. -/
def dropStale (s : Scan) : Option Scan :=
  if (s.candidate :: s.around).any fun slot =>
      slot.any fun candidate => s.isStale candidate && candidate.required then none
  else
    let keep (slot : Option Candidate) := slot.filter fun candidate => !s.isStale candidate
    some { s with candidate := keep s.candidate, around := s.around.map keep }

/-! ### Indentation -/

/-- Close the block collections right of a column. -/
def closeBlocks (s : Scan) (column : Int) : List Int → Scan
  | [] => s
  | outer :: rest =>
    if column < s.indent then
      closeBlocks { s.push .blockEnd with indent := outer, outer := rest } column rest
    else s

/-- Close the block collections right of a column, unless in a flow collection. -/
def unroll (s : Scan) (column : Int) : Scan :=
  if s.inFlow then s else s.closeBlocks column s.outer

/-- Open a block collection at a column right of the innermost one.  Its first
token comes before the one with the given number. -/
def roll (s : Scan) (column : Nat) (number : Nat) (token : Token) : Scan :=
  if !s.inFlow && decide (s.indent < (column : Int)) then
    { s.insert number token with indent := column, outer := s.indent :: s.outer }
  else s

/-- Open a block collection here. -/
def rollHere (s : Scan) (token : Token) : Scan :=
  s.roll s.cursor.column (s.settled + s.queue.length) token

/-! ### Steps to the next token -/

/-- Step over blanks, comments and breaks.  In block context a new line may begin
with a key; tabs may not stand where a key may begin. -/
def skipToToken (inFlow : Bool) : Nat → Bool → Cursor → Bool × Cursor
  | 0, keyAllowed, c => (keyAllowed, c)
  | fuel + 1, keyAllowed, c =>
    match c.next? with
    | none => (keyAllowed, c)
    | some char =>
      if char == ' ' || (char == '\t' && (inFlow || !keyAllowed))
          || (char == byteOrderMark && c.column == 0) then
        skipToToken inFlow fuel keyAllowed (c.skip 1)
      else if char == '#' then skipToToken inFlow fuel keyAllowed c.skipLine
      else if isBreak char then skipToToken inFlow fuel (keyAllowed || !inFlow) c.skipBreak
      else (keyAllowed, c)

/-! ### Tokens -/

/-- The end of the text. -/
def takeEnd (s : Scan) : Option Scan := do
  -- a last line without a break is a line, too
  let line := if s.cursor.column = 0 then s.cursor.line else s.cursor.line + 1
  let s := { s with cursor := { s.cursor with line, column := 0 } }
  let s ← (s.unroll (-1)).dropCandidate
  return { s with keyAllowed := false }.push .streamEnd

/-- A token of the document level: a directive or a mark between documents. -/
def takeTopLevel (s : Scan) (read : Cursor → Option (Token × Cursor)) : Option Scan := do
  let s ← (s.unroll (-1)).dropCandidate
  let (token, cursor) ← read s.cursor
  return { s.push token with cursor, keyAllowed := false }

/-- The beginning of a flow collection. -/
def openFlow (s : Scan) (token : Token) : Option Scan := do
  let s ← s.noteCandidate
  return { s.take 1 token with
    candidate := none
    around := s.candidate :: s.around
    keyAllowed := true }

/-- The end of a flow collection. -/
def closeFlow (s : Scan) (token : Token) : Option Scan := do
  let s ← s.dropCandidate
  let s := { s.take 1 token with keyAllowed := false }
  match s.around with
  | [] => return s
  | outer :: around => return { s with candidate := outer, around }

/-- A comma. -/
def takeFlowEntry (s : Scan) : Option Scan := do
  let s ← s.dropCandidate
  return { s.take 1 .flowEntry with keyAllowed := true }

/-- The indicator of an item. -/
def takeBlockEntry (s : Scan) : Option Scan := do
  if !s.inFlow && !s.keyAllowed then none
  let s ← (s.rollHere .blockSequenceStart).dropCandidate
  return { s.take 1 .blockEntry with keyAllowed := true }

/-- The indicator of a key. -/
def takeKey (s : Scan) : Option Scan := do
  if !s.inFlow && !s.keyAllowed then none
  let s ← (s.rollHere .blockMappingStart).dropCandidate
  return { s.take 1 .key with keyAllowed := !s.inFlow }

/-- The indicator of a value.  It makes a key of the candidate, if there is one. -/
def takeValue (s : Scan) : Option Scan :=
  match s.candidate with
  | some candidate =>
    -- both tokens go to where the key began, before everything held back since
    let s := s.insert candidate.number .key
    let s := s.roll candidate.column candidate.number .blockMappingStart
    some { s.take 1 .value with candidate := none, keyAllowed := false }
  | none =>
    if !s.inFlow && !s.keyAllowed then none
    else some { (s.rollHere .blockMappingStart).take 1 .value with keyAllowed := !s.inFlow }

/-- A token that may begin a key, and after which none may begin. -/
def takeWord (s : Scan) (read : Cursor → Option (Token × Cursor)) : Option Scan := do
  let s ← s.noteCandidate
  let (token, cursor) ← read s.cursor
  return { s.push token with cursor, keyAllowed := false }

/-- A plain scalar; one that ends with a line break leaves room for a key. -/
def takePlain (s : Scan) (size : Nat) : Option Scan := do
  let s ← s.noteCandidate
  let text ← plainScalar s.inFlow s.indent size s.cursor
  return { s.push (.scalar .plain (String.ofList text.chars)) with
    cursor := text.cursor
    keyAllowed := text.crossed }

/-- A scalar of whole lines. -/
def takeBlock (s : Scan) (folded : Bool) (size : Nat) : Option Scan := do
  let s ← s.dropCandidate
  let text ← blockScalar folded s.indent size s.cursor
  let style := if folded then ScalarStyle.folded else .literal
  return { s.push (.scalar style (String.ofList text.chars)) with
    cursor := text.cursor
    keyAllowed := true }

/-- A quoted scalar as a token. -/
def quotedToken (quote : Char) (style : ScalarStyle) (size : Nat) (c : Cursor) :
    Option (Token × Cursor) :=
  (quotedScalar quote size c).map fun text =>
    (.scalar style (String.ofList text.chars), text.cursor)

/-- Whether a plain scalar may begin with a character. -/
def startsPlain (inFlow : Bool) (char : Char) (second : Option Char) : Bool :=
  if char == '-' then !second.any isBlank
  else if char == '?' || char == ':' then !inFlow && !Cursor.endsWord second
  else !isBlank char && !"#,[]\x7b\x7d&*!|>'\"%@`".toList.contains char

/-- The next token, by its first character. -/
def takeToken (size : Nat) (s : Scan) (char : Char) : Option Scan :=
  let c := s.cursor
  let alone := Cursor.endsWord c.second?
  -- what stands at the start of a line and separates documents
  if char == '%' && c.column == 0 then s.takeTopLevel (directive? size)
  else if c.atIndicator '-' then s.takeTopLevel fun c => some (.documentStart, c.skip 3)
  else if c.atIndicator '.' then s.takeTopLevel fun c => some (.documentEnd, c.skip 3)
  -- flow collections
  else if char == '[' then s.openFlow .flowSequenceStart
  else if char == '{' then s.openFlow .flowMappingStart
  else if char == ']' then s.closeFlow .flowSequenceEnd
  else if char == '}' then s.closeFlow .flowMappingEnd
  else if char == ',' then s.takeFlowEntry
  -- indicators that count only in front of a blank, at least in block context
  else if char == '-' && alone then s.takeBlockEntry
  else if char == '?' && (s.inFlow || alone) then s.takeKey
  else if char == ':' && (s.inFlow || alone) then s.takeValue
  -- references and properties
  else if char == '*' then
    s.takeWord fun c => (name? (c.skip 1)).map fun (name, c) => (.reference name, c)
  else if char == '&' then
    s.takeWord fun c => (name? (c.skip 1)).map fun (name, c) => (.anchor name, c)
  else if char == '!' then s.takeWord (tag? s.inFlow size)
  -- scalars
  else if char == '|' && !s.inFlow then s.takeBlock false size
  else if char == '>' && !s.inFlow then s.takeBlock true size
  else if char == '\'' then s.takeWord (quotedToken '\'' .singleQuoted size)
  else if char == '"' then s.takeWord (quotedToken '"' .doubleQuoted size)
  else if startsPlain s.inFlow char c.second? then s.takePlain size
  else none

/-- Go on to the next token and take it. -/
def advance (size : Nat) (s : Scan) : Option Scan := do
  let (keyAllowed, cursor) := skipToToken s.inFlow (size + 1) s.keyAllowed s.cursor
  let s ← { s with keyAllowed, cursor }.dropStale
  let s := s.unroll s.cursor.column
  -- a mark between documents shows only with the character behind it
  if !s.cursor.sees 4 then none
  else
    match s.cursor.next? with
    | none => s.takeEnd
    | some char => s.takeToken size char

/-! ### The whole text -/

/-- The tokens that are settled: those before the first candidate. -/
def settle (s : Scan) : List Token × Scan :=
  let numbers := (s.candidate :: s.around).filterMap fun slot => slot.map Candidate.number
  let count :=
    match numbers.min? with
    | some number => number - s.settled
    | none => s.queue.length
  let ready := s.queue.take count
  (ready, { s with settled := s.settled + ready.length, queue := s.queue.drop count })

/-- The tokens from here on.  No token ends where the readable part does. -/
def tokens (size : Nat) : Nat → Scan → List Token
  | 0, _ => []
  | fuel + 1, s =>
    match (s.advance size).bind dropStale with
    | none => []
    | some s =>
      if !s.cursor.sees 1 then []
      else
        let (ready, s') := s.settle
        if s.queue.getLast? = some .streamEnd then ready
        else ready ++ tokens size fuel s'

end Scan

/-- The tokens of a text, as far as it is well formed. -/
def Token.ofSource (source : Source) : List Token :=
  let size := source.chars.length + 1
  let cursor := { rest := source.chars, spoiled := source.spoiled }
  Scan.tokens size (size + 1) { cursor }

end BreakCheck.Yaml
