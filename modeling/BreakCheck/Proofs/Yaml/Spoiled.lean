/-
BreakCheck/Proofs/Yaml/Spoiled.lean

Texts with characters that nobody can read.

A place in front of unreadable characters stays one, however far one goes: no function
that takes a part of a text forgets that the text is spoiled.  So the end of the text is
never seen, and its tokens do not come to an end (`streamEnd_not_mem_of_spoiled`).
-/
import BreakCheck.Yaml.Token.Stream

namespace BreakCheck.Yaml

/-! ### Steps -/

namespace Cursor

@[simp, grind =] theorem spoiled_skip (c : Cursor) (count : Nat) :
    (c.skip count).spoiled = c.spoiled := rfl

@[simp, grind =] theorem spoiled_skipWhile (c : Cursor) (test : Char → Bool) :
    (c.skipWhile test).spoiled = c.spoiled := rfl

@[simp, grind =] theorem spoiled_skipLine (c : Cursor) : c.skipLine.spoiled = c.spoiled := rfl

/-- A break is stepped over as a whole, of one character or of two. -/
@[simp, grind =] theorem spoiled_skipBreak (c : Cursor) : c.skipBreak.spoiled = c.spoiled := by
  unfold skipBreak
  split
  · rfl
  · split <;> rfl
  · rfl

end Cursor

variable {c c' : Cursor}

/-! ### Scalars -/

/-- Crossing the gap behind a word forgets nothing, whatever breaks there are in it. -/
theorem spoiled_cross {limit : Int} {fuel : Nat} {gap gap' : Gap}
    (crossed : gap.cross limit fuel c = some (gap', c')) : c'.spoiled = c.spoiled := by
  fun_induction Gap.cross limit fuel gap c <;> grind

/-- A plain word ends at a place that is as spoiled as the one where it began. -/
theorem spoiled_plainWord {inFlow : Bool} {fuel : Nat} {done done' : List Char} {gap gap' : Gap}
    (taken : plainWord inFlow fuel done gap c = some (done', gap', c')) :
    c'.spoiled = c.spoiled := by
  fun_induction plainWord inFlow fuel done gap c <;> grind

/-- The words of a plain scalar forget nothing, and the gaps between them do not, either. -/
theorem spoiled_plainWords {inFlow : Bool} {limit : Int} {size fuel : Nat} {done : List Char}
    {gap : Gap} {text : ScalarText}
    (taken : plainWords inFlow limit size fuel done gap c = some text) :
    text.cursor.spoiled = c.spoiled := by
  fun_induction plainWords inFlow limit size fuel done gap c with
  | case1 => grind
  | case2 => grind
  | case3 => grind
  | case4 fuel done gap c _ _ ih =>
    obtain ⟨⟨done, gap, c'⟩, word, taken⟩ := Option.bind_eq_some_iff.1 taken
    have first := spoiled_plainWord word
    dsimp only at taken
    split at taken
    · obtain ⟨⟨gap, c''⟩, crossed, taken⟩ := Option.bind_eq_some_iff.1 taken
      have second := spoiled_cross crossed
      grind
    · grind

/-- An escape is taken with its digits, and forgets nothing. -/
theorem spoiled_escape? {char : Char} (read : escape? c = some (char, c')) :
    c'.spoiled = c.spoiled := by
  obtain ⟨letter, -, read⟩ := Option.bind_eq_some_iff.1 read
  split at read
  · grind
  · obtain ⟨width, -, read⟩ := Option.bind_eq_some_iff.1 read
    dsimp only at read
    split at read
    · obtain ⟨code, -, read⟩ := Option.bind_eq_some_iff.1 read
      obtain ⟨char, -, read⟩ := Option.bind_eq_some_iff.1 read
      grind
    · grind

/-- A quoted word forgets nothing, its escapes included. -/
theorem spoiled_quotedWord {quote : Char} {fuel : Nat} {done done' : List Char} {gap : Gap}
    (taken : quotedWord quote fuel done c = some (done', gap, c')) : c'.spoiled = c.spoiled := by
  fun_induction quotedWord quote fuel done c <;> grind [spoiled_escape?]

/-- The words up to the closing quote forget nothing. -/
theorem spoiled_quotedWords {quote : Char} {size fuel : Nat} {done : List Char}
    {text : ScalarText} (taken : quotedWords quote size fuel done c = some text) :
    text.cursor.spoiled = c.spoiled := by
  fun_induction quotedWords quote size fuel done c with
  | case1 => grind
  | case2 => grind
  | case3 fuel done c _ ih =>
    obtain ⟨⟨done, gap, c'⟩, word, taken⟩ := Option.bind_eq_some_iff.1 taken
    have first := spoiled_quotedWord word
    dsimp only at taken
    split at taken
    · grind
    · obtain ⟨⟨gap, c''⟩, crossed, taken⟩ := Option.bind_eq_some_iff.1 taken
      have second := spoiled_cross crossed
      grind

theorem spoiled_quotedScalar {quote : Char} {size : Nat} {text : ScalarText}
    (taken : quotedScalar quote size c = some text) : text.cursor.spoiled = c.spoiled :=
  (spoiled_quotedWords taken).trans (Cursor.spoiled_skip c 1)

/-- The header of a block scalar forgets nothing, in whichever order its two parts stand. -/
theorem spoiled_blockHeader? {chomping : Chomping} {indent : Nat}
    (read : blockHeader? c = some (chomping, indent, c')) : c'.spoiled = c.spoiled := by
  unfold blockHeader? at read
  grind

/-- The empty lines in front of a line of text forget nothing. -/
theorem spoiled_blockBreaks {indent fuel widest widest' : Nat} {breaks breaks' : List Char}
    (taken : blockBreaks indent fuel widest breaks c = some (widest', breaks', c')) :
    c'.spoiled = c.spoiled := by
  fun_induction blockBreaks indent fuel widest breaks c <;> grind

/-- The lines of a block scalar forget nothing, up to the first one that is not its own. -/
theorem spoiled_blockLines {folded : Bool} {chomping : Chomping} {indent size fuel : Nat}
    {done first later : List Char} {blankBefore : Bool} {text : ScalarText}
    (taken : blockLines folded chomping indent size fuel done first later blankBefore c
      = some text) : text.cursor.spoiled = c.spoiled := by
  fun_induction blockLines folded chomping indent size fuel done first later blankBefore c with
  | case1 => grind
  | case2 fuel done first later blankBefore c _ _ _ _ _ ih =>
    obtain ⟨⟨widest, breaks, next⟩, passed, taken⟩ := Option.bind_eq_some_iff.1 taken
    have := spoiled_blockBreaks passed
    have := ih _ _ taken
    grind
  | case3 => grind

/-- A comment is stepped over, if there is one. -/
theorem spoiled_comment (c : Cursor) :
    (if c.isAt '#' then c.skipLine else c).spoiled = c.spoiled := by
  split <;> rfl

/-- **A block scalar forgets nothing**: its header, the rest of that line and its lines do not.
-/
theorem spoiled_blockScalar {folded : Bool} {parent : Int} {size : Nat} {text : ScalarText}
    (taken : blockScalar folded parent size c = some text) :
    text.cursor.spoiled = c.spoiled := by
  obtain ⟨⟨chomping, increment, c'⟩, header, taken⟩ := Option.bind_eq_some_iff.1 taken
  have first := spoiled_blockHeader? header
  have behind := spoiled_comment (c'.skipWhile isBlank)
  dsimp only at taken
  generalize (if (c'.skipWhile isBlank).isAt '#' then (c'.skipWhile isBlank).skipLine
    else c'.skipWhile isBlank) = c₁ at taken behind
  split at taken
  · obtain ⟨⟨widest, breaks, c''⟩, passed, taken⟩ := Option.bind_eq_some_iff.1 taken
    have second := spoiled_blockBreaks passed
    have third := spoiled_blockLines taken
    grind
  · grind

/-! ### Directives, anchors, references and tags -/

/-- The name of an anchor or of a reference forgets nothing. -/
theorem spoiled_name? {name : String} (read : name? c = some (name, c')) :
    c'.spoiled = c.spoiled := by
  unfold name? takeText at read
  grind

theorem spoiled_escapedTail? {count : Nat} {done done' : List UInt8}
    (read : escapedTail? count done c = some (done', c')) : c'.spoiled = c.spoiled := by
  fun_induction escapedTail? count done c with
  | case1 => grind
  | case2 count done c ih =>
    obtain ⟨byte, -, read⟩ := Option.bind_eq_some_iff.1 read
    split at read
    · have := ih byte read
      grind
    · grind

/-- A character that is spelled in bytes forgets nothing, however many bytes it has. -/
theorem spoiled_escapedChar? {done done' : List UInt8}
    (read : escapedChar? done c = some (done', c')) : c'.spoiled = c.spoiled := by
  obtain ⟨first, -, read⟩ := Option.bind_eq_some_iff.1 read
  obtain ⟨count, -, read⟩ := Option.bind_eq_some_iff.1 read
  have := spoiled_escapedTail? read
  grind

theorem spoiled_tagBytes {full : Bool} {fuel : Nat} {done done' : List UInt8}
    (read : tagBytes full fuel done c = some (done', c')) : c'.spoiled = c.spoiled := by
  fun_induction tagBytes full fuel done c <;> grind [spoiled_escapedChar?]

/-- A part of a tag, be it written in full or behind a handle, forgets nothing. -/
theorem spoiled_tagPart? {full : Bool} {start : List Char} {size : Nat} {tag : Tag}
    (read : tagPart? full start size c = some (tag, c')) : c'.spoiled = c.spoiled := by
  obtain ⟨⟨done, c'⟩, bytes, read⟩ := Option.bind_eq_some_iff.1 read
  have := spoiled_tagBytes bytes
  grind

theorem spoiled_handle? {handle : List Char} (read : handle? c = some (handle, c')) :
    c'.spoiled = c.spoiled := by
  unfold handle? takeText at read
  grind

/-- A tag forgets nothing, and it does not end the stream. -/
theorem spoiled_tag? {inFlow : Bool} {size : Nat} {token : Token}
    (read : tag? inFlow size c = some (token, c')) :
    c'.spoiled = c.spoiled ∧ token ≠ .streamEnd := by
  unfold tag? at read
  dsimp only at read
  split at read
  · obtain ⟨⟨suffix, c₁⟩, part, read⟩ := Option.bind_eq_some_iff.1 read
    have := spoiled_tagPart? part
    dsimp only at read
    split at read <;> simp only [Option.bind_eq_bind, Option.bind_some, Option.bind_none] at read <;>
      grind
  · obtain ⟨⟨handle, c₁⟩, found, read⟩ := Option.bind_eq_some_iff.1 read
    have := spoiled_handle? found
    dsimp only at read
    split at read
    all_goals
      obtain ⟨⟨suffix, c₂⟩, part, read⟩ := Option.bind_eq_some_iff.1 read
      have := spoiled_tagPart? part
      simp only [Option.bind_eq_bind, Option.bind_some] at read
      grind

theorem spoiled_versionNumber? {n : Nat} (read : versionNumber? c = some (n, c')) :
    c'.spoiled = c.spoiled := by
  unfold versionNumber? at read
  grind

/-- What a directive says forgets nothing, and it does not end the stream. -/
theorem spoiled_directiveValue? {name : String} {size : Nat} {token : Token}
    (read : directiveValue? name size c = some (token, c')) :
    c'.spoiled = c.spoiled ∧ token ≠ .streamEnd := by
  unfold directiveValue? at read
  split at read
  · obtain ⟨⟨major, c₁⟩, first, read⟩ := Option.bind_eq_some_iff.1 read
    have := spoiled_versionNumber? first
    dsimp only at read
    split at read
    · obtain ⟨⟨minor, c₂⟩, second, read⟩ := Option.bind_eq_some_iff.1 read
      have := spoiled_versionNumber? second
      grind
    · cases read
  · split at read
    · obtain ⟨⟨handle, c₁⟩, found, read⟩ := Option.bind_eq_some_iff.1 read
      have := spoiled_handle? found
      dsimp only at read
      split at read
      · grind
      · split at read
        · obtain ⟨⟨start, c₂⟩, part, read⟩ := Option.bind_eq_some_iff.1 read
          have := spoiled_tagPart? part
          grind
        · grind
    · grind

/-- A directive forgets nothing, with the rest of its line, and it does not end the stream. -/
theorem spoiled_directive? {size : Nat} {token : Token}
    (read : directive? size c = some (token, c')) :
    c'.spoiled = c.spoiled ∧ token ≠ .streamEnd := by
  unfold directive? takeText at read
  dsimp only at read
  split at read
  · grind
  · obtain ⟨⟨token, c₁⟩, value, read⟩ := Option.bind_eq_some_iff.1 read
    have := spoiled_directiveValue? value
    have := spoiled_comment (c₁.skipWhile isBlank)
    grind

/-! ### Tokens -/

namespace Scan

/-- A state in front of unreadable characters that has not come to the end. -/
structure Lost (s : Scan) : Prop where
  spoiled : s.cursor.spoiled = true
  noEnd : Token.streamEnd ∉ s.queue

variable {s t : Scan} {token : Token}

/-- A lost state stays lost when any token but the end is added. -/
theorem Lost.push (lost : s.Lost) (other : token ≠ .streamEnd) : (s.push token).Lost where
  spoiled := lost.spoiled
  noEnd := by simp [Scan.push, lost.noEnd, other.symm]

theorem Lost.take (lost : s.Lost) (count : Nat) (other : token ≠ .streamEnd) :
    (s.take count token).Lost :=
  ⟨lost.spoiled, (lost.push other).noEnd⟩

/-- A lost state stays lost wherever a token is put that is not the end. -/
theorem Lost.insert (lost : s.Lost) (number : Nat) (other : token ≠ .streamEnd) :
    (s.insert number token).Lost where
  spoiled := lost.spoiled
  noEnd := by
    simp only [Scan.insert, List.mem_append, List.mem_cons]
    rintro (held | rfl | held)
    · exact lost.noEnd (List.mem_of_mem_take held)
    · exact other rfl
    · exact lost.noEnd (List.mem_of_mem_drop held)

/-- Closing blocks adds their ends only, not that of the stream. -/
theorem Lost.closeBlocks (lost : s.Lost) (column : Int) (outer : List Int) :
    (s.closeBlocks column outer).Lost := by
  induction outer generalizing s with
  | nil => exact lost
  | cons indent rest ih =>
    rw [Scan.closeBlocks]
    split
    · have other : Token.blockEnd ≠ .streamEnd := by simp
      have pushed := lost.push other
      exact ih ⟨pushed.spoiled, pushed.noEnd⟩
    · exact lost

theorem Lost.unroll (lost : s.Lost) (column : Int) : (s.unroll column).Lost := by
  rw [Scan.unroll]
  split
  · exact lost
  · exact lost.closeBlocks column s.outer

/-- Opening a block puts its first token in, or it does nothing. -/
theorem Lost.roll (lost : s.Lost) (column number : Nat) (other : token ≠ .streamEnd) :
    (s.roll column number token).Lost := by
  rw [Scan.roll]
  split
  · have inserted := lost.insert number other
    exact ⟨inserted.spoiled, inserted.noEnd⟩
  · exact lost

/-- Giving up a candidate changes neither the place nor the tokens. -/
theorem Lost.dropCandidate (lost : s.Lost) (dropped : s.dropCandidate = some t) : t.Lost := by
  unfold Scan.dropCandidate at dropped
  split at dropped
  · cases dropped
  · cases dropped
    exact ⟨lost.spoiled, lost.noEnd⟩

/-- Noting that a key may begin changes neither the place nor the tokens. -/
theorem Lost.noteCandidate (lost : s.Lost) (noted : s.noteCandidate = some t) : t.Lost := by
  unfold Scan.noteCandidate at noted
  split at noted
  · obtain ⟨s', dropped, noted⟩ := Option.bind_eq_some_iff.1 noted
    have lost := lost.dropCandidate dropped
    cases noted
    exact ⟨lost.spoiled, lost.noEnd⟩
  · cases noted
    exact lost

/-- Giving up what is too far away leaves a lost state lost. -/
theorem Lost.dropStale (lost : s.Lost) (dropped : s.dropStale = some t) : t.Lost := by
  unfold Scan.dropStale at dropped
  split at dropped
  · cases dropped
  · cases dropped
    exact ⟨lost.spoiled, lost.noEnd⟩

/-- What is taken in front of unreadable characters still lies in front of them. -/
theorem Lost.word (lost : s.Lost) {c : Cursor} (spoiled : c.spoiled = s.cursor.spoiled)
    (other : token ≠ .streamEnd) (keyAllowed : Bool) :
    Lost { s.push token with cursor := c, keyAllowed } :=
  ⟨spoiled.trans lost.spoiled, (lost.push other).noEnd⟩

/-- A token of the document level leaves a lost state lost if taking it forgets nothing. -/
theorem Lost.takeTopLevel (lost : s.Lost) {read : Cursor → Option (Token × Cursor)}
    (keeps : ∀ c token c', read c = some (token, c') →
      c'.spoiled = c.spoiled ∧ token ≠ .streamEnd)
    (taken : s.takeTopLevel read = some t) : t.Lost := by
  obtain ⟨s', dropped, taken⟩ := Option.bind_eq_some_iff.1 taken
  obtain ⟨⟨token, c⟩, found, taken⟩ := Option.bind_eq_some_iff.1 taken
  have lost := (lost.unroll (-1)).dropCandidate dropped
  obtain ⟨spoiled, other⟩ := keeps _ _ _ found
  cases taken
  exact lost.word spoiled other false

/-- A token that may begin a key leaves a lost state lost if taking it forgets nothing. -/
theorem Lost.takeWord (lost : s.Lost) {read : Cursor → Option (Token × Cursor)}
    (keeps : ∀ c token c', read c = some (token, c') →
      c'.spoiled = c.spoiled ∧ token ≠ .streamEnd)
    (taken : s.takeWord read = some t) : t.Lost := by
  obtain ⟨s', noted, taken⟩ := Option.bind_eq_some_iff.1 taken
  obtain ⟨⟨token, c⟩, found, taken⟩ := Option.bind_eq_some_iff.1 taken
  have lost := lost.noteCandidate noted
  obtain ⟨spoiled, other⟩ := keeps _ _ _ found
  cases taken
  exact lost.word spoiled other false

/-- A plain scalar leaves a lost state lost. -/
theorem Lost.takePlain (lost : s.Lost) {size : Nat} (taken : s.takePlain size = some t) :
    t.Lost := by
  obtain ⟨s', noted, taken⟩ := Option.bind_eq_some_iff.1 taken
  obtain ⟨text, found, taken⟩ := Option.bind_eq_some_iff.1 taken
  have lost := lost.noteCandidate noted
  cases taken
  exact lost.word (spoiled_plainWords found) (by simp) text.crossed

/-- A scalar of whole lines leaves a lost state lost. -/
theorem Lost.takeBlock (lost : s.Lost) {folded : Bool} {size : Nat}
    (taken : s.takeBlock folded size = some t) : t.Lost := by
  obtain ⟨s', dropped, taken⟩ := Option.bind_eq_some_iff.1 taken
  obtain ⟨text, found, taken⟩ := Option.bind_eq_some_iff.1 taken
  have lost := lost.dropCandidate dropped
  cases taken
  exact lost.word (spoiled_blockScalar found) (by simp) true

/-- The beginning of a flow collection leaves a lost state lost. -/
theorem Lost.openFlow (lost : s.Lost) (other : token ≠ .streamEnd)
    (taken : s.openFlow token = some t) : t.Lost := by
  obtain ⟨s', noted, taken⟩ := Option.bind_eq_some_iff.1 taken
  have lost := (lost.noteCandidate noted).take 1 other
  cases taken
  exact ⟨lost.spoiled, lost.noEnd⟩

/-- The end of a flow collection leaves a lost state lost, whether one has begun or not. -/
theorem Lost.closeFlow (lost : s.Lost) (other : token ≠ .streamEnd)
    (taken : s.closeFlow token = some t) : t.Lost := by
  obtain ⟨s', dropped, taken⟩ := Option.bind_eq_some_iff.1 taken
  have lost := (lost.dropCandidate dropped).take 1 other
  dsimp only at taken
  split at taken
  all_goals
    cases taken
    exact ⟨lost.spoiled, lost.noEnd⟩

theorem Lost.takeFlowEntry (lost : s.Lost) (taken : s.takeFlowEntry = some t) : t.Lost := by
  obtain ⟨s', dropped, taken⟩ := Option.bind_eq_some_iff.1 taken
  have other : Token.flowEntry ≠ .streamEnd := by simp
  have lost := (lost.dropCandidate dropped).take 1 other
  cases taken
  exact ⟨lost.spoiled, lost.noEnd⟩

theorem Lost.takeBlockEntry (lost : s.Lost) (taken : s.takeBlockEntry = some t) : t.Lost := by
  unfold Scan.takeBlockEntry at taken
  dsimp only at taken
  split at taken
  · cases taken
  · obtain ⟨s', dropped, taken⟩ := Option.bind_eq_some_iff.1 taken
    have start : Token.blockSequenceStart ≠ .streamEnd := by simp
    have other : Token.blockEntry ≠ .streamEnd := by simp
    have lost := ((lost.roll _ _ start).dropCandidate dropped).take 1 other
    cases taken
    exact ⟨lost.spoiled, lost.noEnd⟩

/-- The indicator of a key may open a block, and leaves a lost state lost. -/
theorem Lost.takeKey (lost : s.Lost) (taken : s.takeKey = some t) : t.Lost := by
  unfold Scan.takeKey at taken
  dsimp only at taken
  split at taken
  · cases taken
  · obtain ⟨s', dropped, taken⟩ := Option.bind_eq_some_iff.1 taken
    have start : Token.blockMappingStart ≠ .streamEnd := by simp
    have other : Token.key ≠ .streamEnd := by simp
    have lost := ((lost.roll _ _ start).dropCandidate dropped).take 1 other
    cases taken
    exact ⟨lost.spoiled, lost.noEnd⟩

/-- **A colon leaves a lost state lost**: the tokens that it puts in front of the candidate are
no ends either. -/
theorem Lost.takeValue (lost : s.Lost) (taken : s.takeValue = some t) : t.Lost := by
  have start : Token.blockMappingStart ≠ .streamEnd := by simp
  have key : Token.key ≠ .streamEnd := by simp
  have other : Token.value ≠ .streamEnd := by simp
  unfold Scan.takeValue at taken
  split at taken
  next candidate _ =>
    have lost := ((lost.insert candidate.number key).roll candidate.column candidate.number
      start).take 1 other
    cases taken
    exact ⟨lost.spoiled, lost.noEnd⟩
  next =>
    split at taken
    · cases taken
    · have lost := (lost.roll s.cursor.column (s.settled + s.queue.length) start).take 1 other
      cases taken
      exact ⟨lost.spoiled, lost.noEnd⟩

/-- A quoted scalar forgets nothing, and it does not end the stream. -/
theorem keeps_quotedToken (quote : Char) (style : ScalarStyle) (size : Nat) (c : Cursor)
    (token : Token) (c' : Cursor) (read : quotedToken quote style size c = some (token, c')) :
    c'.spoiled = c.spoiled ∧ token ≠ .streamEnd := by
  obtain ⟨text, found, same⟩ := Option.map_eq_some_iff.1 read
  cases same
  exact ⟨spoiled_quotedScalar found, by simp⟩

/-- The name behind `&` or `*` forgets nothing, and it does not end the stream. -/
theorem keeps_named (make : String → Token) (other : ∀ name, make name ≠ .streamEnd) (c : Cursor)
    (token : Token) (c' : Cursor)
    (read : (name? (c.skip 1)).map (fun (name, c) => (make name, c)) = some (token, c')) :
    c'.spoiled = c.spoiled ∧ token ≠ .streamEnd := by
  obtain ⟨⟨name, c₁⟩, found, same⟩ := Option.map_eq_some_iff.1 read
  cases same
  exact ⟨(spoiled_name? found).trans (Cursor.spoiled_skip c 1), other name⟩

/-- Whether a state that is arrived at, if there is one, is lost. -/
def Strays (result : Option Scan) : Prop := ∀ t, result = some t → t.Lost

/-- A decision leads to lost states only if both of its branches do. -/
theorem Strays.ite {condition : Prop} [Decidable condition] {first second : Option Scan}
    (yes : Strays first) (no : Strays second) :
    Strays (if condition then first else second) := by
  split
  · exact yes
  · exact no

/-- **No token that begins with a character ends the stream.** -/
theorem Lost.takeToken (lost : s.Lost) (size : Nat) (char : Char) :
    Strays (takeToken size s char) := by
  unfold Scan.takeToken
  -- the cases in the order in which they are tried
  refine .ite (fun t => lost.takeTopLevel fun _ _ _ => spoiled_directive?) ?_
  refine .ite (fun t => lost.takeTopLevel ?_) ?_
  · rintro c _ _ ⟨⟩
    exact ⟨rfl, by simp⟩
  refine .ite (fun t => lost.takeTopLevel ?_) ?_
  · rintro c _ _ ⟨⟩
    exact ⟨rfl, by simp⟩
  refine .ite (fun t => lost.openFlow (by simp)) (.ite (fun t => lost.openFlow (by simp)) ?_)
  refine .ite (fun t => lost.closeFlow (by simp)) (.ite (fun t => lost.closeFlow (by simp)) ?_)
  refine .ite (fun t => lost.takeFlowEntry) (.ite (fun t => lost.takeBlockEntry) ?_)
  refine .ite (fun t => lost.takeKey) (.ite (fun t => lost.takeValue) ?_)
  refine .ite (fun t => lost.takeWord (keeps_named .reference (by simp))) ?_
  refine .ite (fun t => lost.takeWord (keeps_named .anchor (by simp))) ?_
  refine .ite (fun t => lost.takeWord fun _ _ _ => spoiled_tag?) ?_
  refine .ite (fun t => lost.takeBlock) (.ite (fun t => lost.takeBlock) ?_)
  refine .ite (fun t => lost.takeWord (keeps_quotedToken _ _ _)) ?_
  refine .ite (fun t => lost.takeWord (keeps_quotedToken _ _ _)) ?_
  exact .ite (fun t => lost.takePlain) (fun _ other => nomatch other)

/-- The blanks, comments and breaks in front of a token forget nothing. -/
theorem spoiled_skipToToken (inFlow : Bool) (fuel : Nat) (keyAllowed : Bool) (c : Cursor) :
    (skipToToken inFlow fuel keyAllowed c).2.spoiled = c.spoiled := by
  fun_induction skipToToken inFlow fuel keyAllowed c <;> grind

/-- **One cannot see the end of the text** from in front of unreadable characters. -/
theorem Lost.sees (lost : s.Lost) (ends : s.cursor.next? = none) : s.cursor.sees 4 = false := by
  rw [Cursor.next?, List.head?_eq_none_iff] at ends
  simp [Cursor.sees, lost.spoiled, ends]

/-- **No step out of a lost state finds the end**: to see it, one has to see that the text is
over. -/
theorem Lost.advance (lost : s.Lost) (size : Nat) : Strays (s.advance size) := by
  intro t taken
  have spoiled := spoiled_skipToToken s.inFlow (size + 1) s.keyAllowed s.cursor
  unfold Scan.advance at taken
  generalize skipToToken s.inFlow (size + 1) s.keyAllowed s.cursor = skipped at taken spoiled
  obtain ⟨keyAllowed, c⟩ := skipped
  obtain ⟨s', dropped, taken⟩ := Option.bind_eq_some_iff.1 taken
  have here : Lost { s with keyAllowed, cursor := c } := ⟨spoiled.trans lost.spoiled, lost.noEnd⟩
  have lost := (here.dropStale dropped).unroll s'.cursor.column
  dsimp only at taken
  split at taken
  next => cases taken
  next sees =>
    split at taken
    next ends =>
      rw [lost.sees ends] at sees
      exact absurd rfl sees
    next char _ => exact lost.takeToken size char t taken

/-- **The tokens of a lost state do not come to an end.** -/
theorem Lost.tokens (lost : s.Lost) (size fuel : Nat) :
    Token.streamEnd ∉ tokens size fuel s := by
  induction fuel generalizing s with
  | zero => exact List.not_mem_nil
  | succ fuel ih =>
    rw [Scan.tokens]
    split
    next => exact List.not_mem_nil
    next t taken =>
      obtain ⟨s', advanced, dropped⟩ := Option.bind_eq_some_iff.1 taken
      have lost := (lost.advance size s' advanced).dropStale dropped
      have ready : Token.streamEnd ∉ t.settle.1 := fun held =>
        lost.noEnd (List.mem_of_mem_take held)
      have left : t.settle.2.Lost :=
        ⟨lost.spoiled, fun held => lost.noEnd (List.mem_of_mem_drop held)⟩
      split
      · exact List.not_mem_nil
      · dsimp only
        split
        · exact ready
        · rw [List.mem_append]
          rintro (held | held)
          · exact ready held
          · exact ih left held

end Scan

/-- **A text with unreadable characters does not come to an end.** -/
theorem streamEnd_not_mem_of_spoiled {source : Source} (spoiled : source.spoiled = true) :
    Token.streamEnd ∉ Token.ofSource source := by
  apply Scan.Lost.tokens
  exact ⟨spoiled, List.not_mem_nil⟩

end BreakCheck.Yaml
