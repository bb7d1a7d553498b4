/-
BreakCheck/Proofs/Yaml/FlowSteps.lean

The steps from place to place, one for each kind of token that JSON has.

A step goes over blanks first (`Place.stand`).  Which token is taken then hangs on the
first character alone.  What is settled afterwards hangs on the candidate: without one,
nothing is held back (`settle_of_none`).
-/
import BreakCheck.Proofs.Yaml.Scanning

namespace BreakCheck.Yaml.Scan

open Json (textChars)

variable {size depth : Nat} {held : List Token} {s : Scan}

/-! ### Taking a token -/

/-- Standing in front of a character, with no blanks in between. -/
structure Stands (size depth : Nat) (char : Char) (more : List Char) (held : List Token)
    (s : Scan) : Prop extends Place size depth (char :: more) held s where
  starts : s.cursor.rest = char :: more

/-- The state without a candidate that is too far away. -/
def fresh (s : Scan) : Scan :=
  { s with candidate := s.candidate.filter fun candidate => !s.isStale candidate }

theorem fresh_eq_of_some {candidate : Candidate} (found : s.candidate = some candidate) :
    s.fresh
      = { s with candidate := if s.isStale candidate then none else some candidate } := by
  rw [fresh, found, Option.filter_some]
  cases s.isStale candidate <;> rfl

/-- What going over blanks leaves as it was. -/
structure Walked (s : Scan) (char : Char) (more : List Char) (s' : Scan) : Prop where
  keyAllowed : s'.keyAllowed = s.keyAllowed
  noCandidate : s.candidate = none → s'.candidate = none
  /-- If there are no blanks, a candidate may still be too far away. -/
  atOnce : s.cursor.rest = char :: more → s' = s.fresh

/-- Over the blanks to the character that begins the next token. -/
theorem Place.stand {char : Char} {more : List Char} (solid : IsSolid char)
    (here : Place size (depth + 1) (char :: more) held s) :
    ∃ s', Stands size (depth + 1) char more held s' ∧ Walked s char more s'
      ∧ s.advance size = takeToken size s' char
      ∧ s'.cursor.rest.length ≤ s.cursor.rest.length := by
  obtain ⟨blanks, blank, starts⟩ := exists_blanks s.cursor.rest
  rw [here.faces, unblanked_solid solid] at starts
  have enough : blanks.length < size + 1 := by
    have room := here.room
    rw [starts, List.length_append] at room
    omega
  obtain ⟨keyAllowed, c, passed, starts', same, stays, skipped⟩ :=
    skipToToken_blanks blank (stops_solid solid more) starts enough true s.keyAllowed
  rw [stays rfl] at skipped
  have clear : c.spoiled = false := passed.spoiled.trans here.clear
  have shorter : c.rest.length ≤ s.cursor.rest.length := by
    rw [passed.length]
    exact Nat.le_add_left _ _
  have step := advance_eq here.around (fun candidate found => (here.soft candidate found).1)
    skipped clear (by rw [Cursor.next?, starts']; rfl)
  refine ⟨fresh { s with cursor := c }, ?_,
    ⟨rfl, fun none => by simp [fresh, none], fun atOnce => ?_⟩, step, shorter⟩
  · exact
      { around := here.around
        outer := here.outer
        queue := here.queue
        going := here.going
        clear := clear
        room := Nat.lt_of_le_of_lt shorter here.room
        soft := fun candidate found =>
          here.soft candidate (Option.filter_eq_some_iff.1 found).1
        faces := congrArg unblanked starts'
        starts := starts' }
  · rw [same (by simpa [atOnce] using starts)]

/-- What is settled when there is no candidate. -/
theorem settle_of_none (around : s.around = List.replicate depth none)
    (none : s.candidate = none) :
    s.settle = (s.queue, { s with settled := s.settled + s.queue.length, queue := [] }) := by
  have numbers : (s.candidate :: s.around).filterMap (fun slot => slot.map Candidate.number)
      = [] := by
    rw [none, around, List.filterMap_eq_nil_iff]
    intro slot held
    rcases List.mem_cons.1 held with rfl | held
    · rfl
    · rw [List.eq_of_mem_replicate held]
      rfl
  unfold settle
  simp only [numbers, List.min?_nil, List.take_length, List.drop_length]

/-- What is settled when there is a candidate: the tokens in front of it. -/
theorem settle_of_some {front back : List Token} {candidate : Candidate}
    (around : s.around = List.replicate depth none) (found : s.candidate = some candidate)
    (queue : s.queue = front ++ back) (number : candidate.number = s.settled + front.length) :
    s.settle = (front, { s with settled := s.settled + front.length, queue := back }) := by
  have numbers : (s.candidate :: s.around).filterMap (fun slot => slot.map Candidate.number)
      = [candidate.number] := by
    have others : s.around.filterMap (fun slot => slot.map Candidate.number) = [] := by
      rw [around, List.filterMap_eq_nil_iff]
      intro slot held
      rw [List.eq_of_mem_replicate held]
      rfl
    rw [found, List.filterMap_cons, others]
    rfl
  unfold settle
  simp only [numbers, List.min?_singleton, number, Nat.add_sub_cancel_left, queue,
    List.take_left, List.drop_left]

/-- **A token is taken** in front of a character: the run goes on from what is left when
the settled tokens are out. -/
theorem Place.leads {char : Char} {more : List Char} (solid : IsSolid char)
    (here : Place size (depth + 1) (char :: more) held s) :
    ∃ s', Stands size (depth + 1) char more held s' ∧ Walked s char more s'
      ∧ (takeToken size s' char = none → Breaks size s)
      ∧ ∀ t depth', takeToken size s' char = some t → t.around = List.replicate depth' none →
          (∀ candidate, t.candidate = some candidate → candidate.required = false) →
          t.cursor.rest.length ≤ more.length → t.cursor.spoiled = false →
          Token.streamEnd ∉ t.queue →
          Leads size s t.fresh.settle.1 t.fresh.settle.2 := by
  obtain ⟨s', stands, walked, step, shorter⟩ := here.stand solid
  refine ⟨s', stands, walked, fun none => ?_, ?_⟩
  · exact Breaks.of_advance (by rw [step, none, Option.bind_none])
  · intro t depth' taken around soft less clear noEnd
    have length : s'.cursor.rest.length = more.length + 1 := by rw [stands.starts]; rfl
    apply Leads.of_advance
    · rw [step, taken, Option.bind_some, dropStale_eq around soft]
      rfl
    · show t.cursor.rest.length < _
      omega
    · exact clear
    · exact noEnd

/-- **A token is taken that leaves no candidate**: then nothing is held back. -/
theorem Place.settles {char : Char} {more : List Char} (solid : IsSolid char)
    (here : Place size (depth + 1) (char :: more) held s) :
    ∃ s', Stands size (depth + 1) char more held s' ∧ Walked s char more s'
      ∧ (takeToken size s' char = none → Breaks size s)
      ∧ ∀ t depth' text held', takeToken size s' char = some t →
          Place size depth' text held' t → t.candidate = none →
          t.cursor.rest.length ≤ more.length →
          ∃ s'', Leads size s held' s'' ∧ Place size depth' text [] s''
            ∧ s''.candidate = none ∧ s''.keyAllowed = t.keyAllowed := by
  obtain ⟨s', stands, walked, breaks, leads⟩ := here.leads solid
  refine ⟨s', stands, walked, breaks, ?_⟩
  intro t depth' text held' taken there none less
  obtain rfl := there.queue
  have led := leads t depth' taken there.around (by simp [none]) less there.clear there.going
  have noCandidate : t.fresh.candidate = Option.none := by simp [fresh, none]
  rw [settle_of_none (s := t.fresh) there.around noCandidate] at led
  refine ⟨_, led, ?_, noCandidate, rfl⟩
  exact
    { around := there.around
      outer := there.outer
      queue := rfl
      going := List.not_mem_nil
      clear := there.clear
      room := there.room
      soft := fun candidate found => absurd (noCandidate.symm.trans found) (by simp)
      faces := there.faces }

/-! ### By the first character -/

/-- No solid character begins a directive or a mark between documents. -/
theorem Stands.takeToken_eq {char : Char} {more : List Char} (solid : IsSolid char)
    (here : Stands size (depth + 1) char more held s) :
    takeToken size s char
      = if char == '[' then s.openFlow .flowSequenceStart
        else if char == '{' then s.openFlow .flowMappingStart
        else if char == ']' then s.closeFlow .flowSequenceEnd
        else if char == '}' then s.closeFlow .flowMappingEnd
        else if char == ',' then s.takeFlowEntry
        else if char == ':' then s.takeValue
        else if char == '"' then s.takeWord (quotedToken '"' .doubleQuoted size)
        else s.takePlain size := by
  have noDash : s.cursor.atIndicator '-' = false := by
    refine Cursor.atIndicator_of_ne here.starts ?_
    rintro rfl
    exact absurd solid (by unfold IsSolid; decide)
  have noDots : s.cursor.atIndicator '.' = false := by
    refine Cursor.atIndicator_of_ne here.starts ?_
    rintro rfl
    exact absurd solid (by unfold IsSolid; decide)
  have inside := inFlow_of_around here.around
  simp only [IsSolid, List.mem_cons, List.not_mem_nil, or_false] at solid
  unfold takeToken
  simp only [noDash, noDots, inside]
  rcases solid with rfl | rfl | rfl | rfl | rfl | rfl | rfl | rfl | rfl <;> rfl

theorem dropCandidate_of_soft
    (soft : ∀ candidate, s.candidate = some candidate → candidate.required = false) :
    s.dropCandidate = some { s with candidate := none } := by
  have harmless : s.candidate.any Candidate.required = false := by
    cases found : s.candidate with
    | none => rfl
    | some candidate => exact soft candidate found
  rw [dropCandidate, harmless]
  rfl

theorem Place.dropCandidate {text : List Char} (here : Place size depth text held s) :
    s.dropCandidate = some { s with candidate := none } :=
  dropCandidate_of_soft fun candidate found => (here.soft candidate found).1

/-! ### Steps -/

/-- The place behind the character that one stands in front of. -/
theorem Stands.beside {char : Char} {more : List Char} {held' : List Token} {t : Scan}
    {depth' : Nat} (here : Stands size depth char more held s)
    (cursor : t.cursor = s.cursor.skip 1) (queue : t.queue = held')
    (going : Token.streamEnd ∉ held') (outer : t.outer = s.outer)
    (around : t.around = List.replicate depth' none) (none : t.candidate = none) :
    Place size depth' more held' t := by
  have behind : t.cursor.rest = more := by simp [cursor, Cursor.skip, here.starts]
  have length : s.cursor.rest.length = more.length + 1 := by rw [here.starts]; rfl
  have room : more.length + 1 < size := length ▸ here.room
  exact
    { around := around
      outer := outer.trans here.outer
      queue := queue
      going := going
      clear := by rw [cursor]; exact here.clear
      room := by rw [behind]; omega
      soft := fun candidate found => absurd (none.symm.trans found) (by simp)
      faces := congrArg unblanked behind }

/-- A single character is a token that leaves no candidate. -/
theorem Place.sign {char : Char} {text : List Char} (solid : IsSolid char)
    (here : Place size (depth + 1) (char :: text) held s) :
    ∃ s', Stands size (depth + 1) char text held s' ∧ Walked s char text s'
      ∧ ∀ t depth' token, takeToken size s' char = some t → t.cursor = s'.cursor.skip 1 →
          t.queue = s'.queue ++ [token] → t.outer = s'.outer →
          t.around = List.replicate depth' none → t.candidate = none → token ≠ .streamEnd →
          ∃ s'', Leads size s (held ++ [token]) s'' ∧ Place size depth' text [] s''
            ∧ s''.candidate = none ∧ s''.keyAllowed = t.keyAllowed := by
  obtain ⟨s', stands, walked, -, settles⟩ := here.settles solid
  refine ⟨s', stands, walked, ?_⟩
  intro t depth' token taken cursor queue outer around none noEnd
  rw [stands.queue] at queue
  have going : Token.streamEnd ∉ held ++ [token] := by simp [stands.going, noEnd.symm]
  apply settles t depth' text (held ++ [token]) taken
    (stands.beside cursor queue going outer around none) none
  simp [cursor, Cursor.skip, stands.starts]

/-- **A comma**: the next item or key may begin. -/
theorem Place.comma {text : List Char} (here : Place size (depth + 1) (',' :: text) held s) :
    ∃ s', Leads size s (held ++ [.flowEntry]) s' ∧ Begins size (depth + 1) text [] s' := by
  have solid : IsSolid ',' := by unfold IsSolid; decide
  obtain ⟨s', stands, -, sign⟩ := here.sign solid
  have taken := stands.takeToken_eq solid
  rw [show takeToken size s' ',' = s'.takeFlowEntry from taken, takeFlowEntry,
    stands.dropCandidate] at sign
  obtain ⟨s'', leads, there, noCandidate, allowed⟩ :=
    sign _ (depth + 1) .flowEntry rfl rfl rfl rfl stands.around rfl (by simp)
  exact ⟨s'', leads, { there with noCandidate, allowed }⟩

/-- **The end of a collection.** -/
theorem Place.close {char : Char} {token : Token} {text : List Char}
    (which : char = ']' ∧ token = .flowSequenceEnd ∨ char = '}' ∧ token = .flowMappingEnd)
    (here : Place size (depth + 1) (char :: text) held s) :
    ∃ s', Leads size s (held ++ [token]) s' ∧ Behind size depth text [] s' := by
  have solid : IsSolid char := by
    unfold IsSolid
    rcases which with ⟨rfl, -⟩ | ⟨rfl, -⟩ <;> decide
  obtain ⟨s', stands, -, sign⟩ := here.sign solid
  have taken : takeToken size s' char = s'.closeFlow token := by
    rw [stands.takeToken_eq solid]
    rcases which with ⟨rfl, rfl⟩ | ⟨rfl, rfl⟩ <;> rfl
  have around := stands.around
  rw [List.replicate_succ] at around
  rw [taken, closeFlow, stands.dropCandidate] at sign
  simp only [Option.bind_eq_bind, Option.bind_some, take, push, around] at sign
  have noEnd : token ≠ .streamEnd := by rcases which with ⟨-, rfl⟩ | ⟨-, rfl⟩ <;> simp
  obtain ⟨s'', leads, there, noCandidate, barred⟩ :=
    sign _ depth token rfl rfl rfl rfl rfl rfl noEnd
  exact ⟨s'', leads, { there with noCandidate, barred }⟩

/-- **The beginning of a collection** where no key may begin. -/
theorem Behind.openFlow {char : Char} {token : Token} {text : List Char}
    (which : char = '[' ∧ token = .flowSequenceStart ∨ char = '{' ∧ token = .flowMappingStart)
    (here : Behind size (depth + 1) (char :: text) held s) :
    ∃ s', Leads size s (held ++ [token]) s' ∧ Begins size (depth + 2) text [] s' := by
  have solid : IsSolid char := by
    unfold IsSolid
    rcases which with ⟨rfl, -⟩ | ⟨rfl, -⟩ <;> decide
  obtain ⟨s', stands, walked, sign⟩ := here.toPlace.sign solid
  have taken : takeToken size s' char = s'.openFlow token := by
    rw [stands.takeToken_eq solid]
    rcases which with ⟨rfl, rfl⟩ | ⟨rfl, rfl⟩ <;> rfl
  have around : s'.candidate :: s'.around = List.replicate (depth + 2) none := by
    rw [walked.noCandidate here.noCandidate, stands.around]
    rfl
  rw [taken, Scan.openFlow, noteCandidate, walked.keyAllowed, here.barred] at sign
  have noEnd : token ≠ .streamEnd := by rcases which with ⟨-, rfl⟩ | ⟨-, rfl⟩ <;> simp
  obtain ⟨s'', leads, there, noCandidate, allowed⟩ :=
    sign _ (depth + 2) token rfl rfl rfl rfl around rfl noEnd
  exact ⟨s'', leads, { there with noCandidate, allowed }⟩

/-! ### Texts -/

/-- The token of a text in quotes. -/
def textToken (value : String) : Token := .scalar .doubleQuoted (requote value)

/-- Whether a text in quotes is close enough to its end to be a key. -/
def isShortKey (name : String) : Bool :=
  !(textChars name).any isBreak && decide (byteCount (textChars name) ≤ 1024)

/-- The candidate that a word makes. -/
def candidateHere (s : Scan) : Option Candidate :=
  if s.keyAllowed then
    some ⟨s.settled + s.queue.length, s.cursor.offset, s.cursor.line, s.cursor.column, false⟩
  else s.candidate

theorem Place.noteCandidate {text : List Char} (here : Place size (depth + 1) text held s) :
    s.noteCandidate = some { s with candidate := s.candidateHere } := by
  have inside := inFlow_of_around here.around
  unfold Scan.noteCandidate candidateHere
  by_cases allowed : s.keyAllowed = true
  · rw [if_pos allowed, if_pos allowed, here.dropCandidate]
    simp [inFlow, here.around, List.replicate_succ]
  · rw [if_neg allowed, if_neg allowed]

/-- A text in quotes is taken; it is a candidate if a key may begin. -/
theorem Stands.takeText {value : String} {text : List Char}
    (here : Stands size (depth + 1) '"' ((textChars value).tail ++ text) held s) :
    (requote? value = none → takeToken size s '"' = none)
      ∧ ((requote? value).isSome = true → ∃ c', Cursor.Passed s.cursor (textChars value) c'
        ∧ takeToken size s '"' = some { s with
            candidate := s.candidateHere
            cursor := c'
            queue := s.queue ++ [textToken value]
            keyAllowed := false }) := by
  have taken : takeToken size s '"' = s.takeWord (quotedToken '"' .doubleQuoted size) :=
    here.takeToken_eq (by unfold IsSolid; decide)
  have starts : s.cursor.rest = textChars value ++ text := here.starts
  obtain ⟨unread, read⟩ := quotedScalar_textChars starts here.clear (Nat.le_of_lt here.room)
  constructor
  · intro none
    rw [requote?, Option.map_eq_none_iff] at none
    rw [taken, takeWord, here.noteCandidate]
    simp [quotedToken, unread none]
  · intro some
    obtain ⟨value', same⟩ := Option.isSome_iff_exists.1 some
    obtain ⟨chars, requoted, rfl⟩ := Option.map_eq_some_iff.1 same
    obtain ⟨c', passed, scalar⟩ := read chars requoted
    refine ⟨c', passed, ?_⟩
    rw [taken, takeWord, here.noteCandidate]
    simp [quotedToken, scalar, push, textToken, requote, same]

/-- A candidate in front of a text in quotes is too far away behind a text that cannot be a
key. -/
theorem isStale_behind {value : String} {candidate : Candidate} {c : Cursor}
    (passed : Cursor.Passed c (textChars value) s.cursor) (offset : candidate.offset = c.offset)
    (line : candidate.line = c.line) : s.isStale candidate = !isShortKey value := by
  have breaks : decide (candidate.line < s.cursor.line) = (textChars value).any isBreak := by
    rw [line, passed.line, Bool.eq_iff_iff, decide_eq_true_iff, List.any_eq_true,
      Nat.lt_add_right_iff_pos, List.countP_pos_iff]
  rw [isStale, breaks, offset, passed.offset, isShortKey, Bool.not_and, Bool.not_not]
  congr 1
  rw [Bool.eq_iff_iff]
  simp

/-- The place behind characters that have been passed. -/
theorem Place.beyond {text text' chars : List Char} {held' : List Token} {t : Scan}
    (here : Place size depth text' held s) (starts : s.cursor.rest = chars ++ text)
    (passed : Cursor.Passed s.cursor chars t.cursor) (outer : t.outer = s.outer)
    (around : t.around = s.around) (queue : t.queue = held')
    (going : Token.streamEnd ∉ held')
    (soft : ∀ candidate, t.candidate = some candidate →
      candidate.required = false ∧ candidate.number = t.settled) :
    Place size depth text held' t := by
  have behind : t.cursor.rest = text := List.append_cancel_left (passed.rest.symm.trans starts)
  have room := here.room
  rw [passed.length] at room
  exact
    { around := around.trans here.around
      outer := outer.trans here.outer
      queue := queue
      going := going
      clear := passed.spoiled.trans here.clear
      room := Nat.lt_of_le_of_lt (Nat.le_add_left _ _) room
      soft := soft
      faces := congrArg unblanked behind }

/-- **A text where no key may begin.** -/
theorem Behind.text {value : String} {text : List Char}
    (here : Behind size (depth + 1) (textChars value ++ text) held s) :
    Runs size (requote? value).isSome s (held ++ [textToken value])
      (Behind size (depth + 1) text) := by
  have solid : IsSolid '"' := by unfold IsSolid; decide
  obtain ⟨s', stands, walked, breaks, settles⟩ := here.toPlace.settles solid
  obtain ⟨unread, read⟩ := stands.takeText
  cases some : (requote? value).isSome with
  | false => exact breaks (unread (by simpa using some))
  | true =>
    obtain ⟨c', passed, taken⟩ := read some
    have noCandidate : s'.candidateHere = none := by
      rw [candidateHere, walked.keyAllowed, here.barred, walked.noCandidate here.noCandidate]
      rfl
    have starts : s'.cursor.rest = textChars value ++ text := stands.starts
    have behind : c'.rest = text := List.append_cancel_left (passed.rest.symm.trans starts)
    obtain ⟨s'', leads, there, noCandidate', barred⟩ :=
      settles _ (depth + 1) text _ taken
        (stands.beyond starts passed rfl rfl rfl (by simp [stands.queue, stands.going, textToken])
          fun candidate found => absurd (noCandidate.symm.trans found) (by simp))
        noCandidate (by simp [behind]; omega)
    rw [stands.queue] at leads
    exact ⟨s'', _, [], List.append_nil _, leads, { there with noCandidate := noCandidate', barred }⟩

/-- Behind a text that a key may begin with. -/
structure Marked (size depth : Nat) (text : List Char) (value : String) (s : Scan) : Prop
    extends Place size depth text [textToken value] s where
  starts : s.cursor.rest = text
  marked : ∃ candidate, s.candidate = some candidate ∧ s.isStale candidate = false

/-- **A text where a key may begin.**  It is held back if it can be a key. -/
theorem Begins.text {value : String} {text : List Char}
    (here : Begins size (depth + 1) (textChars value ++ text) held s) :
    (requote? value = none → Breaks size s)
      ∧ ((requote? value).isSome = true →
        if isShortKey value then
          ∃ s', Leads size s held s' ∧ Marked size (depth + 1) text value s'
        else
          ∃ s', Leads size s (held ++ [textToken value]) s' ∧ Place size (depth + 1) text [] s'
            ∧ s'.candidate = none) := by
  have solid : IsSolid '"' := by unfold IsSolid; decide
  obtain ⟨s', stands, walked, breaks, leads⟩ := here.toPlace.leads solid
  obtain ⟨unread, read⟩ := stands.takeText
  refine ⟨fun none => breaks (unread none), fun some => ?_⟩
  obtain ⟨c', passed, taken⟩ := read some
  have starts : s'.cursor.rest = textChars value ++ text := stands.starts
  have behind : c'.rest = text := List.append_cancel_left (passed.rest.symm.trans starts)
  -- the state behind the text, which is noted as a candidate for a key
  let candidate : Candidate :=
    ⟨s'.settled + held.length, s'.cursor.offset, s'.cursor.line, s'.cursor.column, false⟩
  let t : Scan := { s' with
    candidate := candidate, cursor := c', queue := held ++ [textToken value], keyAllowed := false }
  have taken : takeToken size s' '"' = t := by
    rw [taken, candidateHere, walked.keyAllowed, here.allowed, stands.queue]
    rfl
  have led : Leads size s t.fresh.settle.1 t.fresh.settle.2 :=
    leads t (depth + 1) taken stands.around (by simp [t, candidate])
      (by simp [t, behind]; omega) (passed.spoiled.trans stands.clear)
      (by simp [t, textToken, stands.going])
  have stale : t.isStale candidate = !isShortKey value := isStale_behind passed rfl rfl
  have found : t.candidate = candidate := rfl
  have fresh := fresh_eq_of_some found
  cases short : isShortKey value with
  | true =>
    -- the candidate stands, and its token waits for a colon
    rw [short] at stale
    have fresh : t.fresh = t := by
      rw [fresh, stale]
      rfl
    rw [fresh, settle_of_some (s := t) stands.around found rfl rfl] at led
    have there : Place size (depth + 1) text [textToken value]
        { t with settled := t.settled + held.length, queue := [textToken value] } := by
      refine stands.beyond starts passed rfl rfl rfl (by simp [textToken]) ?_
      rintro _ ⟨⟩
      exact ⟨rfl, rfl⟩
    exact ⟨_, led, { there with starts := behind, marked := ⟨candidate, rfl, stale⟩ }⟩
  | false =>
    -- the candidate is too far away to be a key, and all tokens are let go
    have fresh : t.fresh = { t with candidate := none } := by
      rw [fresh, stale, short]
      rfl
    rw [fresh, settle_of_none (s := { t with candidate := none }) stands.around rfl] at led
    refine ⟨_, led, ?_, rfl⟩
    refine stands.beyond starts passed rfl rfl rfl (by simp) ?_
    rintro _ ⟨⟩

/-! ### Keys -/

/-- No block collection begins inside a flow collection. -/
theorem roll_inFlow (inside : s.inFlow = true) (column number : Nat) (token : Token) :
    s.roll column number token = s := by
  rw [roll, inside]
  rfl

/-- **A colon without a key.** -/
theorem Place.colon {text : List Char} (here : Place size (depth + 1) (':' :: text) held s)
    (noCandidate : s.candidate = none) :
    ∃ s', Leads size s (held ++ [.value]) s' ∧ Behind size (depth + 1) text [] s' := by
  have solid : IsSolid ':' := by unfold IsSolid; decide
  obtain ⟨s', stands, walked, sign⟩ := here.sign solid
  have inside := inFlow_of_around stands.around
  have taken : takeToken size s' ':' = some { s'.take 1 .value with keyAllowed := false } := by
    rw [show takeToken size s' ':' = s'.takeValue from stands.takeToken_eq solid, takeValue,
      walked.noCandidate noCandidate]
    simp only [inside, rollHere, roll_inFlow inside, Bool.not_true, Bool.false_and,
      Bool.false_eq_true, if_false]
  rw [taken] at sign
  obtain ⟨s'', leads, there, noCandidate, barred⟩ :=
    sign _ (depth + 1) .value rfl rfl rfl rfl stands.around (walked.noCandidate noCandidate)
      (by simp)
  exact ⟨s'', leads, { there with noCandidate, barred }⟩

/-- **A colon behind a key**: now it is known that the text is one. -/
theorem Marked.colon {value : String} {text : List Char}
    (here : Marked size (depth + 1) (':' :: text) value s) :
    ∃ s', Leads size s [.key, textToken value, .value] s' ∧ Behind size (depth + 1) text [] s' := by
  have solid : IsSolid ':' := by unfold IsSolid; decide
  obtain ⟨candidate, found, near⟩ := here.marked
  obtain ⟨s', stands, walked, -, settles⟩ := here.toPlace.settles solid
  -- the candidate is not given up in front of the colon
  have same : s' = s := by
    rw [walked.atOnce here.starts, fresh_eq_of_some found, near, if_neg (by simp), ← found]
  subst same
  have inserted : s'.insert candidate.number .key
      = { s' with queue := [.key, textToken value] } := by
    rw [insert, (here.soft candidate found).2, Nat.sub_self, here.queue]
    rfl
  have inside : inFlow { s' with queue := [.key, textToken value] } = true :=
    inFlow_of_around stands.around
  have taken : takeToken size s' ':' = some { s' with
      cursor := s'.cursor.skip 1, queue := [.key, textToken value, .value], candidate := none,
      keyAllowed := false } := by
    rw [show takeToken size s' ':' = s'.takeValue from stands.takeToken_eq solid, takeValue, found]
    simp only [inserted, roll_inFlow inside]
    rfl
  obtain ⟨s'', leads, there, noCandidate, barred⟩ :=
    settles _ (depth + 1) text [.key, textToken value, .value] taken
      (stands.beside rfl rfl (by simp [textToken]) rfl stands.around rfl) rfl
      (by simp [Cursor.skip, stands.starts])
  exact ⟨s'', leads, { there with noCandidate, barred }⟩

/-- The tokens of a key. -/
def keyTokens (name : String) : List Token :=
  (if isShortKey name then [.key] else []) ++ [textToken name, .value]

/-- **A key**: it is marked as one unless its text is too long. -/
theorem Begins.key {name : String} {text : List Char}
    (here : Begins size (depth + 1) (textChars name ++ ':' :: text) held s) :
    Runs size (requote? name).isSome s (held ++ keyTokens name) (Behind size (depth + 1) text) := by
  obtain ⟨unread, read⟩ := here.text
  cases some : (requote? name).isSome with
  | false => exact unread (by simpa using some)
  | true =>
    have read := read some
    cases short : isShortKey name with
    | true =>
      rw [if_pos short] at read
      obtain ⟨s', leads, marked⟩ := read
      obtain ⟨s'', leads', there⟩ := marked.colon
      exact ⟨s'', _, [], by simp [keyTokens, short], leads.trans leads', there⟩
    | false =>
      rw [if_neg (by simp [short])] at read
      obtain ⟨s', leads, place, noCandidate⟩ := read
      obtain ⟨s'', leads', there⟩ := place.colon noCandidate
      exact ⟨s'', _, [], by simp [keyTokens, short], leads.trans leads', there⟩

/-- **An item of a list.** -/
theorem Begins.item {value : String} {text : List Char}
    (here : Begins size (depth + 1) (textChars value ++ text) held s) :
    Runs size (requote? value).isSome s (held ++ [textToken value])
      (Place size (depth + 1) text) := by
  obtain ⟨unread, read⟩ := here.text
  cases some : (requote? value).isSome with
  | false => exact unread (by simpa using some)
  | true =>
    have read := read some
    split at read
    · obtain ⟨s', leads, marked⟩ := read
      exact ⟨s', held, [textToken value], rfl, leads, marked.toPlace⟩
    · obtain ⟨s', leads, place, -⟩ := read
      exact ⟨s', _, [], List.append_nil _, leads, place⟩

/-! ### Flags -/

/-- The word for a flag. -/
def flagText (value : Bool) : String := if value then "true" else "false"

theorem flagText_eq_cons (value : Bool) :
    ∃ letter others, (flagText value).toList = letter :: others ∧ IsSolid letter
      ∧ (letter = 't' ∨ letter = 'f') ∧ ∀ c ∈ letter :: others, c.isAlpha = true := by
  unfold IsSolid
  cases value with
  | true =>
    exact ⟨'t', ['r', 'u', 'e'], by decide, by decide, .inl rfl, List.all_eq_true.1 (by decide)⟩
  | false =>
    exact ⟨'f', ['a', 'l', 's', 'e'], by decide, by decide, .inr rfl,
      List.all_eq_true.1 (by decide)⟩

/-- What a value in a collection can be followed by, blanks aside. -/
def EndsValue (text : List Char) : Prop :=
  ∃ char more, unblanked text = char :: more ∧ isFlowIndicator char = true

/-- **A flag**, together with the blanks behind it. -/
theorem Behind.flag {value : Bool} {text : List Char} (ends : EndsValue text)
    (here : Behind size (depth + 1) ((flagText value).toList ++ text) held s) :
    ∃ s', Leads size s (held ++ [.scalar .plain (flagText value)]) s'
      ∧ Place size (depth + 1) text [] s' := by
  obtain ⟨letter, others, same, solid, which, letters⟩ := flagText_eq_cons value
  obtain ⟨char, more, left, sign⟩ := ends
  obtain ⟨blanks, blank, split⟩ := exists_blanks text
  rw [left] at split
  rw [same, split] at here
  obtain ⟨s', stands, walked, -, settles⟩ := here.toPlace.settles solid
  have inside : inFlow { s' with candidate := none } = true := inFlow_of_around stands.around
  have noCandidate : s'.candidateHere = none := by
    rw [candidateHere, walked.keyAllowed, here.barred, walked.noCandidate here.noCandidate]
    rfl
  obtain ⟨c', crossed, passed, scalar⟩ := plainScalar_word (List.cons_ne_nil letter others) letters
    blank sign stands.starts stands.clear stands.room s'.indent
  have taken : takeToken size s' letter = some { s' with
      candidate := none
      cursor := c'
      queue := s'.queue ++ [.scalar .plain (flagText value)]
      keyAllowed := crossed } := by
    have plain : takeToken size s' letter = s'.takePlain size := by
      rw [stands.takeToken_eq solid]
      rcases which with rfl | rfl <;> rfl
    rw [plain, takePlain, stands.noteCandidate, noCandidate]
    simp only [Option.bind_eq_bind, Option.bind_some, inside]
    rw [scalar, ← same]
    simp [push]
  have starts : s'.cursor.rest = (letter :: others ++ blanks) ++ char :: more :=
    stands.starts.trans (by simp)
  have behind := List.append_cancel_left (passed.rest.symm.trans starts)
  obtain ⟨s'', leads, there, -, -⟩ := settles _ (depth + 1) (char :: more) _ taken
    (stands.beyond starts passed rfl rfl rfl (by simp [stands.queue, stands.going])
      fun _ found => nomatch found)
    rfl (by simp [behind]; omega)
  rw [stands.queue] at leads
  refine ⟨s'', leads, { there with faces := there.faces.trans ?_ }⟩
  rw [split, unblanked_append blank]

end BreakCheck.Yaml.Scan
