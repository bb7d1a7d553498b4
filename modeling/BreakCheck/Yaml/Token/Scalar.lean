/-
BreakCheck/Yaml/Token/Scalar.lean

The texts of scalars.

Plain and quoted scalars are rows of words.  What lies between two words is a
`Gap`: blanks on one line count as they are, but once a line break is crossed,
blanks are dropped, a single line feed becomes a space, and only further breaks
count.  Literal and folded scalars take whole lines at a fixed indentation.

Every function returns `none` where the text is not well formed.  The `fuel` of
a loop is the length of the text, of which each round takes a character.
-/
import BreakCheck.Numeral.Literal
import BreakCheck.Yaml.Cursor

namespace BreakCheck.Yaml

/-- The text of a scalar and the place behind it. -/
structure ScalarText where
  chars : List Char
  cursor : Cursor
  /-- Whether the last thing read was a line break, with the blanks after it. -/
  crossed : Bool := false

/-! ### Gaps -/

/-- The blanks and breaks after a word. -/
structure Gap where
  /-- The blanks, the last one first. -/
  blanks : List Char := []
  /-- Whether a line break has been crossed. -/
  crossed : Bool := false
  /-- The first break. -/
  first : List Char := []
  /-- The other breaks, the last one first. -/
  later : List Char := []

namespace Gap

/-- What a gap counts as if a word follows. -/
def chars (gap : Gap) : List Char :=
  if gap.crossed then
    if gap.first = ['\n'] then
      if gap.later.isEmpty then [' '] else gap.later.reverse
    else gap.first ++ gap.later.reverse
  else gap.blanks.reverse

/-- Step over a gap.  Behind a break no tab may stand left of column `limit`. -/
def cross (limit : Int) : Nat → Gap → Cursor → Option (Gap × Cursor)
  | 0, gap, c => some (gap, c)
  | fuel + 1, gap, c =>
    match c.next? with
    | none => some (gap, c)
    | some char =>
      if isBlank char then
        if gap.crossed then
          if char = '\t' ∧ (c.column : Int) < limit then none
          else cross limit fuel gap (c.skip 1)
        else cross limit fuel { gap with blanks := char :: gap.blanks } (c.skip 1)
      else if isBreak char then
        let gap :=
          if gap.crossed then { gap with later := c.breakChars ++ gap.later }
          else { crossed := true, first := c.breakChars }
        cross limit fuel gap c.skipBreak
      else some (gap, c)

end Gap

/-! ### Plain scalars -/

/-- Whether a character ends a plain scalar inside a flow collection. -/
def isFlowIndicator (c : Char) : Bool := c == ',' || c == '[' || c == ']' || c == '{' || c == '}'

/-- Take a word of a plain scalar.  `done` is the text so far, the last character
first; the gap counts as soon as a character follows it. -/
def plainWord (inFlow : Bool) :
    Nat → List Char → Gap → Cursor → Option (List Char × Gap × Cursor)
  | 0, done, gap, c => some (done, gap, c)
  | fuel + 1, done, gap, c =>
    match c.next? with
    | none => some (done, gap, c)
    | some char =>
      -- whether the scalar goes on hangs on the character after this one, too
      if !c.sees 2 then none
      else if isBlank char || isBreak char then some (done, gap, c)
      -- in a flow collection a colon may not touch an indicator
      else if inFlow && char == ':'
          && c.second?.any (fun other => isFlowIndicator other || other == '?') then none
      else if (char == ':' && Cursor.endsWord c.second?) || (inFlow && isFlowIndicator char) then
        some (done, gap, c)
      else plainWord inFlow fuel (char :: (gap.chars.reverse ++ done)) {} (c.skip 1)

/-- The words of a plain scalar, up to a comment, a mark between documents, or a
line that is not indented to column `limit`. -/
def plainWords (inFlow : Bool) (limit : Int) (size : Nat) :
    Nat → List Char → Gap → Cursor → Option ScalarText
  | 0, done, gap, c => some ⟨done.reverse, c, gap.crossed⟩
  | fuel + 1, done, gap, c =>
    if !c.sees 4 then none
    else if c.atDocumentMark || c.isAt '#' then some ⟨done.reverse, c, gap.crossed⟩
    else do
      let (done, gap, c) ← plainWord inFlow size done gap c
      if c.next?.any (fun char => isBlank char || isBreak char) then
        let (gap, c) ← gap.cross limit size c
        if !inFlow && decide ((c.column : Int) < limit) then some ⟨done.reverse, c, gap.crossed⟩
        else plainWords inFlow limit size fuel done gap c
      else some ⟨done.reverse, c, gap.crossed⟩

/-- A plain scalar.  In block context its lines lie right of column `indent`. -/
def plainScalar (inFlow : Bool) (indent : Int) (size : Nat) (c : Cursor) : Option ScalarText :=
  plainWords inFlow (indent + 1) size size [] {} c

/-! ### Quoted scalars -/

/-- The character that a backslash and a character stand for between double quotes. -/
def shortEscape? : Char → Option Char
  | '0' => some '\x00'
  | 'a' => some '\x07'
  | 'b' => some '\x08'
  | 't' => some '\t'
  | '\t' => some '\t'
  | 'n' => some '\n'
  | 'v' => some '\x0b'
  | 'f' => some '\x0c'
  | 'r' => some '\r'
  | 'e' => some '\x1b'
  | ' ' => some ' '
  | '"' => some '"'
  | '/' => some '/'
  | '\\' => some '\\'
  | 'N' => some '\u0085'
  | '_' => some '\u00a0'
  | 'L' => some '\u2028'
  | 'P' => some '\u2029'
  | _ => none

/-- How many hexadecimal digits follow a backslash and a letter. -/
def escapeWidth? : Char → Option Nat
  | 'x' => some 2
  | 'u' => some 4
  | 'U' => some 8
  | _ => none

/-- The character with a code point, unless it is half of a surrogate pair or too large. -/
def charOf? (n : Nat) : Option Char :=
  if n < 0xd800 ∨ (0xdfff < n ∧ n ≤ 0x10ffff) then some (Char.ofNat n) else none

/-- The character of an escape, and the place behind it. -/
def escape? (c : Cursor) : Option (Char × Cursor) := do
  let letter ← c.second?
  match shortEscape? letter with
  | some char => some (char, c.skip 2)
  | none =>
    let width ← escapeWidth? letter
    let digits := (c.rest.drop 2).take width
    if digits.length = width then do
      let char ← charOf? (← Literal.natural? 16 digits)
      some (char, c.skip (2 + width))
    else none

/-- Take a word of a quoted scalar, up to a blank, a break or the quote.  A break
behind a backslash starts a gap that counts for nothing. -/
def quotedWord (quote : Char) : Nat → List Char → Cursor → Option (List Char × Gap × Cursor)
  | 0, done, c => some (done, {}, c)
  | fuel + 1, done, c =>
    match c.next? with
    | none => some (done, {}, c)
    | some char =>
      if isBlank char || isBreak char then some (done, {}, c)
      else if char == quote then
        -- a single quote that belongs to the text is written twice
        if quote == '\'' && c.second? == some '\'' then
          quotedWord quote fuel ('\'' :: done) (c.skip 2)
        else some (done, {}, c)
      else if quote == '"' && char == '\\' then
        if c.second?.any isBreak then some (done, { crossed := true }, (c.skip 1).skipBreak)
        else
          match escape? c with
          | some (char, c) => quotedWord quote fuel (char :: done) c
          | none => none
      else quotedWord quote fuel (char :: done) (c.skip 1)

/-- The words of a quoted scalar, up to its closing quote. -/
def quotedWords (quote : Char) (size : Nat) : Nat → List Char → Cursor → Option ScalarText
  | 0, _, _ => none
  | fuel + 1, done, c =>
    if !c.sees 4 || c.atDocumentMark || c.rest.isEmpty then none
    else do
      let (done, gap, c) ← quotedWord quote size done c
      if c.isAt quote then some ⟨done.reverse, c.skip 1, false⟩
      else do
        let (gap, c) ← gap.cross 0 size c
        quotedWords quote size fuel (gap.chars.reverse ++ done) c

/-- A scalar between quotes. -/
def quotedScalar (quote : Char) (size : Nat) (c : Cursor) : Option ScalarText :=
  quotedWords quote size size [] (c.skip 1)

/-! ### Literal and folded scalars -/

/-- What happens to the breaks at the end of a block of lines. -/
inductive Chomping
  | strip
  | clip
  | keep
  deriving DecidableEq

/-- The sign for chomping. -/
def chomping? : Option Char → Option Chomping
  | some '-' => some .strip
  | some '+' => some .keep
  | _ => none

/-- The header of a block of lines: chomping and indentation, in either order.  The
indentation is zero if it is to be found out, and may not be written as zero. -/
def blockHeader? (c : Cursor) : Option (Chomping × Nat × Cursor) :=
  let (early, c) :=
    match chomping? c.next? with
    | some chomping => (some chomping, c.skip 1)
    | none => (none, c)
  let (digit, c) :=
    match c.next?.filter Literal.isDigit with
    | some digit => (some (Literal.digitValue digit), c.skip 1)
    | none => (none, c)
  let (late, c) :=
    match early, digit, chomping? c.next? with
    | none, some _, some chomping => (some chomping, c.skip 1)
    | _, _, _ => (none, c)
  if digit = some 0 then none
  else some ((early.or late).getD .clip, digit.getD 0, c)

/-- Step over indentation and empty lines; `indent` is zero while it is unknown.
Returns the widest indentation met and the breaks, the last one first. -/
def blockBreaks (indent : Nat) :
    Nat → Nat → List Char → Cursor → Option (Nat × List Char × Cursor)
  | 0, widest, breaks, c => some (widest, breaks, c)
  | fuel + 1, widest, breaks, c =>
    let inside := indent == 0 || decide (c.column < indent)
    let widest := if c.isAt ' ' && inside then widest else max widest c.column
    match c.next? with
    | none => some (widest, breaks, c)
    | some char =>
      if char == ' ' && inside then blockBreaks indent fuel widest breaks (c.skip 1)
      else if char == '\t' && inside then none
      else if isBreak char then
        blockBreaks indent fuel widest (c.breakChars ++ breaks) c.skipBreak
      else some (widest, breaks, c)

/-- The lines of a block.  `first` is the break before the line and `later` the
breaks after that one, the last one first; `blankBefore` tells whether the last
line began with a blank. -/
def blockLines (folded : Bool) (chomping : Chomping) (indent : Nat) (size : Nat) :
    Nat → List Char → List Char → List Char → Bool → Cursor → Option ScalarText
  | 0, done, _, _, _, c => some ⟨done.reverse, c, false⟩
  | fuel + 1, done, first, later, blankBefore, c =>
    if c.column = indent ∧ c.rest ≠ [] then do
      let blank := c.next?.any isBlank
      let gap :=
        if folded && first == ['\n'] && !blankBefore && !blank then
          if later.isEmpty then [' '] else later
        else later ++ first
      let line := c.rest.takeWhile fun char => !isBreak char
      let c := c.skipLine
      let (_, later, next) ← blockBreaks indent size 0 [] c.skipBreak
      blockLines folded chomping indent size fuel
        (line.reverse ++ gap ++ done) c.breakChars later blank next
    else
      let tail :=
        match chomping with
        | .strip => []
        | .clip => first
        | .keep => later ++ first
      some ⟨(tail ++ done).reverse, c, false⟩

/-- A block of lines below a collection at column `parent`. -/
def blockScalar (folded : Bool) (parent : Int) (size : Nat) (c : Cursor) : Option ScalarText := do
  let (chomping, increment, c) ← blockHeader? (c.skip 1)
  let c := c.skipWhile isBlank
  let c := if c.isAt '#' then c.skipLine else c
  if Cursor.endsLine c.next? then do
    let c := c.skipBreak
    -- an indentation that is not given is found out from the first lines
    let given := if increment = 0 then 0 else increment + parent.toNat
    let (widest, breaks, c) ← blockBreaks given size 0 [] c
    let indent := if given = 0 then max widest (max (parent + 1).toNat 1) else given
    blockLines folded chomping indent size size [] [] breaks false c
  else none

end BreakCheck.Yaml
