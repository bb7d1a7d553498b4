/-
BreakCheck/Proofs/Yaml/Quoted.lean

JSON texts as YAML scalars between double quotes.

Every escape of JSON is one of YAML.  What JSON leaves as it is, YAML need not: the
next-line character and the separators of lines and of paragraphs are line breaks, and
line breaks are folded together with the spaces around them.  A line that begins with
a mark between documents breaks the text off altogether.

`requoted?` is the text that comes back, as a recursion on the text that was written.
It follows the words and the gaps between them, so it is compared with the scanner word
by word and gap by gap (`quotedWords_escaped`).

Main result: the scanner reads `requoted?` (`quotedScalar_textChars`).
-/
import BreakCheck.Json.Writing
import BreakCheck.Proofs.Yaml.Gaps
import Mathlib.Data.List.TakeWhile

namespace BreakCheck.Yaml

open Json (escapeChar textChars)

/-! ### Words and gaps -/

/-- A character that JSON leaves as it is and that stands between words in YAML. -/
def isLoose (c : Char) : Bool :=
  c == ' ' || c == '\u0085' || c == '\u2028' || c == '\u2029'

/-- Whether a text begins with a mark between documents; a quote does not end it. -/
def startsMark (text : List Char) : Bool :=
  (text.take 3 == ['-', '-', '-'] || text.take 3 == ['.', '.', '.']) && text[3]?.any isLoose

/-- The text that comes back from between quotes, if any does.  The gap waits for a
word; `fresh` tells whether a line begins here. -/
def requoted? : Gap → Bool → List Char → Option (List Char)
  | gap, _, [] => some gap.chars
  | gap, fresh, c :: rest =>
    if isLoose c then requoted? (gap.add c) (isBreak c) rest
    else if fresh && startsMark (c :: rest) then none
    else (requoted? {} false rest).map fun others => gap.chars ++ c :: others

/-- What a text becomes that is written as JSON and read as YAML, if it can be read. -/
def requote? (text : String) : Option String :=
  (requoted? {} false text.toList).map String.ofList

/-- What a text becomes, or the text itself if it cannot be read. -/
def requote (text : String) : String := (requote? text).getD text

theorem isBlank_of_not_loose {c : Char} (word : isLoose c = false) (noTab : c ≠ '\t') :
    isBlank c = false := by
  simp only [isLoose, Bool.or_eq_false_iff, beq_eq_false_iff_ne] at word
  simp [isBlank, word, noTab]

theorem loose_cases {c : Char} (loose : isLoose c = true) : c = ' ' ∨ isBreak c = true := by
  simp only [isLoose, Bool.or_eq_true, beq_iff_eq] at loose
  rcases loose with ((rfl | rfl) | rfl) | rfl
  · exact .inl rfl
  all_goals exact .inr rfl

theorem ne_return_of_loose {c : Char} (loose : isLoose c = true) : c ≠ '\r' := by
  rintro rfl
  cases loose

/-! ### Escapes -/

/-- A word goes on with an escape. -/
theorem quotedWord_backslash {c : Cursor} {letter : Char} {more : List Char}
    (starts : c.rest = '\\' :: letter :: more) (inside : isBreak letter = false) {char : Char}
    {c' : Cursor} (escaped : escape? c = some (char, c')) (fuel : Nat) (done : List Char) :
    quotedWord '"' (fuel + 1) done c = quotedWord '"' fuel (char :: done) c' := by
  have next : c.next? = some '\\' := by rw [Cursor.next?, starts]; rfl
  have second : c.second? = some letter := by rw [Cursor.second?, starts]; rfl
  have noBlank : isBlank '\\' = false := rfl
  have noBreak : isBreak '\\' = false := rfl
  rw [quotedWord, next]
  simp [noBlank, noBreak, second, inside, escaped]

/-- A word goes on with a character that stands for itself. -/
theorem quotedWord_raw {c : Cursor} {char : Char} {more : List Char}
    (starts : c.rest = char :: more) (noBlank : isBlank char = false)
    (noBreak : isBreak char = false) (noQuote : char ≠ '"') (noBackslash : char ≠ '\\')
    (fuel : Nat) (done : List Char) :
    quotedWord '"' (fuel + 1) done c = quotedWord '"' fuel (char :: done) (c.skip 1) := by
  have next : c.next? = some char := by rw [Cursor.next?, starts]; rfl
  rw [quotedWord, next]
  simp [noBlank, noBreak, noQuote, noBackslash]

/-- A backslash and a letter stand for a character. -/
theorem escape?_short {c : Cursor} {letter char : Char} {more : List Char}
    (starts : c.rest = '\\' :: letter :: more) (short : shortEscape? letter = some char) :
    escape? c = some (char, c.skip 2) := by
  have second : c.second? = some letter := by rw [Cursor.second?, starts]; rfl
  simp [escape?, second, short]

/-- A control character is read back from its code. -/
theorem escape?_code {c : Cursor} {char : Char} {more : List Char} (control : char.toNat < 0x20)
    (starts : c.rest = '\\' :: 'u' :: '0' :: '0' :: Nat.digitChar (char.toNat / 16)
      :: Nat.digitChar (char.toNat % 16) :: more) :
    escape? c = some (char, c.skip 6) := by
  have codes : ∀ n < 0x20, Literal.natural? 16
      ['0', '0', Nat.digitChar (n / 16), Nat.digitChar (n % 16)] = some n := by
    decide
  have second : c.second? = some 'u' := by rw [Cursor.second?, starts]; rfl
  have digits : (c.rest.drop 2).take 4
      = ['0', '0', Nat.digitChar (char.toNat / 16), Nat.digitChar (char.toNat % 16)] := by
    rw [starts]
    rfl
  have inside : char.toNat < 0xd800 := Nat.lt_trans control (by decide)
  have char_of : charOf? char.toNat = some char := by
    rw [charOf?, if_pos (.inl inside), Char.ofNat_toNat]
  simp only [escape?, second, shortEscape?, escapeWidth?, digits, codes _ control, char_of,
    Option.bind_eq_bind, Option.bind_some]
  rfl

/-- Escaping puts no break into a word. -/
theorem isBreak_escapeChar {char : Char} (word : isLoose char = false) :
    ∀ c ∈ escapeChar char, isBreak c = false := by
  have control : ∀ n < 0x20, isBreak (Nat.digitChar (n / 16)) = false
      ∧ isBreak (Nat.digitChar (n % 16)) = false := by
    decide
  unfold escapeChar
  split
  iterate 7 · simp [isBreak]
  next noFeed noReturn _ =>
    split
    next low =>
      have low : char.toNat < 0x20 := low
      obtain ⟨high_digit, low_digit⟩ := control _ low
      intro c held
      simp only [List.mem_cons, List.not_mem_nil, or_false] at held
      rcases held with rfl | rfl | rfl | rfl | rfl | rfl
      iterate 4 · rfl
      · exact high_digit
      · exact low_digit
    next =>
      simp only [isLoose, Bool.or_eq_false_iff, beq_eq_false_iff_ne] at word
      simp_all [isBreak]

/-- **An escape of JSON is read as the character it stands for**; other characters are
read as they are, if they belong to a word. -/
theorem quotedWord_escapeChar {char : Char} (word : isLoose char = false) {c : Cursor}
    {more : List Char} (starts : c.rest = escapeChar char ++ more) (fuel : Nat)
    (done : List Char) :
    quotedWord '"' (fuel + 1) done c
      = quotedWord '"' fuel (char :: done) (c.skip (escapeChar char).length) := by
  unfold escapeChar at starts ⊢
  split at starts
  iterate 7 · exact quotedWord_backslash starts rfl (escape?_short starts rfl) fuel done
  next noQuote noBackslash _ _ noFeed noReturn noTab =>
    split at starts
    next low =>
      rw [if_pos low]
      exact quotedWord_backslash starts rfl (escape?_code low starts) fuel done
    next high =>
      rw [if_neg high]
      have noBreak : isBreak char = false := by
        simp only [isLoose, Bool.or_eq_false_iff, beq_eq_false_iff_ne] at word
        simp_all [isBreak]
      exact quotedWord_raw starts (isBlank_of_not_loose word noTab) noBreak noQuote noBackslash
        fuel done

/-! ### One word -/

/-- Whether a word between quotes ends before a text. -/
def EndsWord (text : List Char) : Prop :=
  ∃ c rest, text = c :: rest ∧ (c = '"' ∨ isLoose c = true)

/-- **A word** is read up to its end. -/
theorem quotedWord_escaped {word : List Char} (solid : ∀ char ∈ word, isLoose char = false)
    {c : Cursor} {more : List Char} (starts : c.rest = word.flatMap escapeChar ++ more)
    (ends : EndsWord more) {fuel : Nat} (enough : word.length < fuel) (done : List Char) :
    ∃ c', Cursor.Passed c (word.flatMap escapeChar) c'
      ∧ quotedWord '"' fuel done c = some (word.reverse ++ done, {}, c') := by
  induction word generalizing c fuel done with
  | nil =>
    obtain ⟨d, rest, rfl, which⟩ := ends
    cases fuel with
    | zero => cases enough
    | succ fuel =>
      have next : c.next? = some d := by rw [Cursor.next?, starts]; rfl
      refine ⟨c, .refl c, ?_⟩
      rw [quotedWord, next]
      rcases which with rfl | loose
      · rfl
      · have stops : (isBlank d || isBreak d) = true := by
          rcases loose_cases loose with rfl | breaks
          · rfl
          · rw [breaks, Bool.or_true]
        simp [stops]
  | cons char word ih =>
    rw [List.flatMap_cons, List.append_assoc] at starts
    have here := solid char List.mem_cons_self
    have step := Cursor.passed_skip starts (isBreak_escapeChar here)
    have behind : (c.skip (escapeChar char).length).rest = word.flatMap escapeChar ++ more :=
      List.append_cancel_left (step.rest.symm.trans starts)
    cases fuel with
    | zero => cases enough
    | succ fuel =>
      obtain ⟨c', passed, read⟩ := ih (fun c held => solid c (List.mem_cons_of_mem _ held))
        behind (Nat.lt_of_succ_lt_succ enough) (char :: done)
      refine ⟨c', ?_, ?_⟩
      · rw [List.flatMap_cons]
        exact step.trans passed
      · rw [quotedWord_escapeChar here starts, read]
        simp

theorem areGap_of_loose {run : List Char} (loose : ∀ char ∈ run, isLoose char = true) :
    AreGap run :=
  fun char held => (loose_cases (loose char held)).imp_right
    fun breaks => ⟨breaks, ne_return_of_loose (loose char held)⟩

/-! ### All words -/

/-- A word comes back as it is, in front of what comes back behind it. -/
theorem requoted?_word {word : List Char} (solid : ∀ char ∈ word, isLoose char = false)
    (rest : List Char) :
    requoted? {} false (word ++ rest) = (requoted? {} false rest).map (word ++ ·) := by
  induction word with
  | nil => simp
  | cons char word ih =>
    rw [List.cons_append, requoted?, solid char List.mem_cons_self,
      ih fun c held => solid c (List.mem_cons_of_mem _ held)]
    simp [Gap.chars, Function.comp_def]

/-- A run of spaces and breaks is gathered in one gap. -/
theorem requoted?_gap {run : List Char} (loose : ∀ char ∈ run, isLoose char = true) (gap : Gap)
    (fresh : Bool) (rest : List Char) :
    requoted? gap fresh (run ++ rest)
      = requoted? (run.foldl Gap.add gap) (Cursor.startsLine fresh run) rest := by
  induction run generalizing gap fresh with
  | nil => rfl
  | cons char run ih =>
    rw [List.cons_append, requoted?, if_pos (loose char List.mem_cons_self),
      ih fun c held => loose c (List.mem_cons_of_mem _ held)]
    rfl

/-- What a gap counts as stands in front of the words behind it. -/
theorem requoted?_of_gap (gap : Gap) (fresh : Bool) {rest : List Char}
    (word : ∀ c ∈ rest.head?, isLoose c = false) :
    requoted? gap fresh rest = (requoted? {} fresh rest).map (gap.chars ++ ·) := by
  cases rest with
  | nil => simp [requoted?, Gap.chars]
  | cons c rest =>
    have here : isLoose c = false := word c rfl
    simp only [requoted?, here, Bool.false_eq_true, if_false]
    split
    · rfl
    · simp [Gap.chars, Function.comp_def]

theorem escapeChar_cases (char : Char) :
    (∃ more, escapeChar char = '\\' :: more ∧ isLoose char = false ∧ char ≠ '-' ∧ char ≠ '.')
      ∨ (escapeChar char = [char] ∧ Cursor.endsWord (some char) = isLoose char) := by
  unfold escapeChar
  split
  iterate 7 · exact .inl ⟨_, rfl, rfl, by decide, by decide⟩
  next noFeed noReturn noTab =>
    split
    next low =>
      have low : char.toNat < 0x20 := low
      refine .inl ⟨_, rfl, ?_, ?_, ?_⟩
      · refine Bool.eq_false_iff.2 fun loose => ?_
        simp only [isLoose, Bool.or_eq_true, beq_iff_eq] at loose
        rcases loose with ((rfl | rfl) | rfl) | rfl <;> revert low <;> decide
      · rintro rfl
        revert low
        decide
      · rintro rfl
        revert low
        decide
    next =>
      refine .inr ⟨rfl, ?_⟩
      have noTab : (char == '\t') = false := by simpa using noTab
      have noFeed : (char == '\n') = false := by simpa using noFeed
      have noReturn : (char == '\r') = false := by simpa using noReturn
      simp [Cursor.endsWord, isBlank, isBreak, isLoose, noTab, noFeed, noReturn, Bool.or_assoc]

/-- The first of the characters that a text is written as ends a word where the text has
a gap. -/
theorem endsWord_head_escaped (text tail : List Char) :
    Cursor.endsWord (text.flatMap escapeChar ++ '"' :: tail).head? = text.head?.any isLoose := by
  cases text with
  | nil => rfl
  | cons char text =>
    rcases escapeChar_cases char with ⟨more, escaped, word, -, -⟩ | ⟨raw, same⟩
    · simp [escaped, word, Cursor.endsWord, isBlank, isBreak]
    · simpa [raw] using same

/-- A character of a mark is written where it stands in the text itself. -/
theorem escaped_eq_cons_iff {mark : Char} (which : mark = '-' ∨ mark = '.')
    (text tail rest : List Char) :
    text.flatMap escapeChar ++ '"' :: tail = mark :: rest
      ↔ ∃ text', text = mark :: text' ∧ text'.flatMap escapeChar ++ '"' :: tail = rest := by
  have raw : escapeChar mark = [mark] := by rcases which with rfl | rfl <;> rfl
  have noBackslash : mark ≠ '\\' := by rcases which with rfl | rfl <;> decide
  have noQuote : mark ≠ '"' := by rcases which with rfl | rfl <;> decide
  constructor
  · intro same
    cases text with
    | nil => exact absurd (List.cons.inj same).1.symm noQuote
    | cons char text =>
      rw [List.flatMap_cons] at same
      rcases escapeChar_cases char with ⟨more, escaped, -⟩ | ⟨single, -⟩
      · rw [escaped] at same
        exact absurd (List.cons.inj same).1.symm noBackslash
      · rw [single] at same
        obtain ⟨rfl, behind⟩ := List.cons.inj same
        exact ⟨text, rfl, behind⟩
  · rintro ⟨text, rfl, rfl⟩
    rw [List.flatMap_cons, raw]
    rfl

/-- Three characters and what stands behind them. -/
theorem take_three_iff (mark : Char) (chars : List Char) :
    chars.take 3 = [mark, mark, mark] ↔ ∃ rest, chars = mark :: mark :: mark :: rest := by
  constructor
  · intro same
    refine ⟨chars.drop 3, ?_⟩
    have := List.take_append_drop 3 chars
    rw [same] at this
    exact this.symm
  · rintro ⟨rest, rfl⟩
    rfl

theorem atIndicator_escaped {mark : Char} (which : mark = '-' ∨ mark = '.') {c : Cursor}
    {text tail : List Char} (starts : c.rest = text.flatMap escapeChar ++ '"' :: tail) :
    c.atIndicator mark
      = ((c.column == 0) && (text.take 3 == [mark, mark, mark] && text[3]?.any isLoose)) := by
  rw [Cursor.atIndicator, Bool.and_assoc]
  refine congrArg (c.column == 0 && ·) ?_
  rw [Bool.eq_iff_iff, Bool.and_eq_true, Bool.and_eq_true, beq_iff_eq, beq_iff_eq,
    take_three_iff, take_three_iff, starts]
  constructor
  · rintro ⟨⟨rest, same⟩, ends⟩
    rw [same] at ends
    obtain ⟨text₁, rfl, same₁⟩ := (escaped_eq_cons_iff which ..).1 same
    obtain ⟨text₂, rfl, same₂⟩ := (escaped_eq_cons_iff which ..).1 same₁
    obtain ⟨text₃, rfl, rfl⟩ := (escaped_eq_cons_iff which ..).1 same₂
    refine ⟨⟨text₃, rfl⟩, ?_⟩
    have behind : Cursor.endsWord (text₃.flatMap escapeChar ++ '"' :: tail).head? = true := by
      simpa [List.head?_eq_getElem?] using ends
    rw [endsWord_head_escaped] at behind
    simpa [List.head?_eq_getElem?] using behind
  · rintro ⟨⟨text, rfl⟩, loose⟩
    have raw : escapeChar mark = [mark] := by rcases which with rfl | rfl <;> rfl
    refine ⟨⟨text.flatMap escapeChar ++ '"' :: tail, by simp [raw]⟩, ?_⟩
    have behind : text.head?.any isLoose = true := by
      simpa [List.head?_eq_getElem?] using loose
    rw [← endsWord_head_escaped text tail] at behind
    simpa [raw, List.head?_eq_getElem?] using behind

/-- **A mark between documents** shows in the written text where it stands in the text
itself. -/
theorem atDocumentMark_escaped {c : Cursor} {text tail : List Char}
    (starts : c.rest = text.flatMap escapeChar ++ '"' :: tail) :
    c.atDocumentMark = ((c.column == 0) && startsMark text) := by
  rw [Cursor.atDocumentMark, atIndicator_escaped (.inl rfl) starts,
    atIndicator_escaped (.inr rfl) starts, startsMark, ← Bool.and_or_distrib_left,
    ← Bool.and_or_distrib_right]

theorem requoted?_fresh {fresh : Bool} {text : List Char}
    (noMark : (fresh && startsMark text) = false) (gap : Gap) :
    requoted? gap fresh text = requoted? gap false text := by
  cases text with
  | nil => rfl
  | cons c rest => simp only [requoted?, noMark, Bool.false_and]

theorem requoted?_mark {text : List Char} (mark : startsMark text = true) (gap : Gap) :
    requoted? gap true text = none := by
  cases text with
  | nil => cases mark
  | cons c rest =>
    have word : isLoose c = false := by
      rw [startsMark, Bool.and_eq_true, Bool.or_eq_true, beq_iff_eq, beq_iff_eq] at mark
      rcases mark.1 with same | same <;> rw [List.take_succ_cons, List.cons.injEq] at same <;>
        rw [same.1] <;> rfl
    simp [requoted?, word, mark]

theorem startsLine_of_some {chars : List Char} (some : chars ≠ []) (before before' : Bool) :
    Cursor.startsLine before chars = Cursor.startsLine before' chars := by
  cases chars with
  | nil => exact absurd rfl some
  | cons c rest => rfl

theorem isAt_of_rest {c : Cursor} {char : Char} {more : List Char} (starts : c.rest = char :: more)
    (mark : Char) : c.isAt mark = (char == mark) := by
  rw [Cursor.isAt, Cursor.next?, starts]
  rfl

/-- A text is the characters at its front that satisfy a test, and the others. -/
theorem exists_front (test : Char → Bool) (text : List Char) :
    ∃ front back, text = front ++ back ∧ (∀ c ∈ front, test c = true)
      ∧ ∀ c ∈ back.head?, test c = false := by
  refine ⟨text.takeWhile test, text.dropWhile test, List.takeWhile_append_dropWhile.symm,
    fun c held => List.mem_takeWhile_imp held, fun c held => ?_⟩
  have first := List.head?_dropWhile_not test text
  rw [Option.mem_def.1 held] at first
  simpa using first

/-- A gap does not take up what a word begins with. -/
theorem endsGap_escaped {text : List Char} (word : ∀ c ∈ text.head?, isLoose c = false)
    (tail : List Char) : EndsGap (text.flatMap escapeChar ++ '"' :: tail) := by
  have ends := endsWord_head_escaped text tail
  have none : text.head?.any isLoose = false := by
    cases text with
    | nil => rfl
    | cons c text => exact word c rfl
  rw [none] at ends
  cases written : text.flatMap escapeChar ++ '"' :: tail with
  | nil => simp at written
  | cons c more =>
    rw [written] at ends
    simp only [List.head?_cons, Cursor.endsWord, Bool.or_eq_false_iff] at ends
    exact ⟨c, more, rfl, ends.1, ends.2⟩

theorem endsWord_escaped {text : List Char} (gap : ∀ c ∈ text.head?, isLoose c = true)
    (tail : List Char) : EndsWord (text.flatMap escapeChar ++ '"' :: tail) := by
  cases text with
  | nil => exact ⟨'"', tail, rfl, .inl rfl⟩
  | cons c text =>
    have loose : isLoose c = true := gap c rfl
    rcases escapeChar_cases c with ⟨_, _, word, -⟩ | ⟨raw, -⟩
    · rw [word] at loose
      cases loose
    · exact ⟨c, text.flatMap escapeChar ++ '"' :: tail, by simp [raw], .inr loose⟩

theorem flatMap_escapeChar_loose {run : List Char} (loose : ∀ c ∈ run, isLoose c = true) :
    run.flatMap escapeChar = run := by
  induction run with
  | nil => rfl
  | cons c run ih =>
    have here := loose c List.mem_cons_self
    rw [List.flatMap_cons, ih fun c held => loose c (List.mem_cons_of_mem _ held)]
    rcases escapeChar_cases c with ⟨_, _, word, -⟩ | ⟨raw, -⟩
    · rw [word] at here
      cases here
    · rw [raw]
      rfl

/-- The first word of a text, and what is left to do behind it. -/
theorem quotedWords_front {size fuel : Nat} {text tail : List Char} {c : Cursor}
    (starts : c.rest = text.flatMap escapeChar ++ '"' :: tail) (clear : c.spoiled = false)
    (room : text.length < size) (mark : ((c.column == 0) && startsMark text) = false)
    (done : List Char) :
    ∃ word rest c₁, text = word ++ rest ∧ (∀ char ∈ word, isLoose char = false)
      ∧ (∀ char ∈ rest.head?, isLoose char = true)
      ∧ Cursor.Passed c (word.flatMap escapeChar) c₁
      ∧ c₁.rest = rest.flatMap escapeChar ++ '"' :: tail
      ∧ quotedWords '"' size (fuel + 1) done c
        = if c₁.isAt '"' then some ⟨(word.reverse ++ done).reverse, c₁.skip 1, false⟩
          else (({} : Gap).cross 0 size c₁).bind fun (gap, c) =>
            quotedWords '"' size fuel (gap.chars.reverse ++ (word.reverse ++ done)) c := by
  have sees : c.sees 4 = true := by simp [Cursor.sees, clear]
  have left : c.rest.isEmpty = false := by simp [starts]
  have marked := atDocumentMark_escaped starts
  rw [mark] at marked
  obtain ⟨word, rest, rfl, solid, gap⟩ := exists_front (!isLoose ·) text
  simp only [Bool.not_eq_true', Bool.not_eq_false'] at solid gap
  rw [List.flatMap_append, List.append_assoc] at starts
  rw [List.length_append] at room
  obtain ⟨c₁, passed, word_read⟩ := quotedWord_escaped solid starts (endsWord_escaped gap tail)
    (Nat.lt_of_le_of_lt (Nat.le_add_right _ _) room) done
  refine ⟨word, rest, c₁, rfl, solid, gap, passed,
    List.append_cancel_left (passed.rest.symm.trans starts), ?_⟩
  rw [quotedWords, sees, marked, left, word_read]
  rfl

/-- The gap behind a word, up to the next one. -/
theorem cross_escaped {size : Nat} {d : Char} {rest tail : List Char} {c : Cursor}
    (loose : isLoose d = true) (starts : c.rest = (d :: rest).flatMap escapeChar ++ '"' :: tail)
    (room : (d :: rest).length < size) :
    ∃ run others c', d :: rest = run ++ others ∧ run ≠ [] ∧ (∀ char ∈ run, isLoose char = true)
      ∧ (∀ char ∈ others.head?, isLoose char = false)
      ∧ Cursor.Passed c (run.flatMap escapeChar) c'
      ∧ c'.rest = others.flatMap escapeChar ++ '"' :: tail
      ∧ c.isAt '"' = false
      ∧ ({} : Gap).cross 0 size c = some (run.foldl Gap.add {}, c') := by
  obtain ⟨run, others, same, run_loose, word⟩ := exists_front isLoose (d :: rest)
  cases run with
  | nil =>
    rw [List.nil_append] at same
    have := word d (by rw [← same]; rfl)
    rw [this] at loose
    cases loose
  | cons first run =>
    rw [same] at starts room
    rw [List.flatMap_append, flatMap_escapeChar_loose run_loose, List.append_assoc] at starts
    rw [List.length_append] at room
    have apart : c.isAt '"' = false := by
      rw [isAt_of_rest starts, beq_eq_false_iff_ne]
      rintro rfl
      cases run_loose '"' List.mem_cons_self
    obtain ⟨c', passed, crossed⟩ :=
      cross_gap (areGap_of_loose run_loose) starts (endsGap_escaped word tail) 0
        (Nat.lt_of_le_of_lt (Nat.le_add_right _ _) room) {}
    refine ⟨first :: run, others, c', same, List.cons_ne_nil _ _, run_loose, word, ?_,
      List.append_cancel_left (passed.rest.symm.trans starts), apart, crossed⟩
    rwa [flatMap_escapeChar_loose run_loose]

/-- **The words of a text in quotes** are read as `requoted?` says, up to the closing
quote. -/
theorem quotedWords_escaped (size : Nat) {fuel : Nat} {text tail : List Char} {c : Cursor}
    (starts : c.rest = text.flatMap escapeChar ++ '"' :: tail) (clear : c.spoiled = false)
    (enough : text.length < fuel) (room : text.length < size) (done : List Char) :
    (requoted? {} (c.column == 0) text = none → quotedWords '"' size fuel done c = none)
      ∧ ∀ read, requoted? {} (c.column == 0) text = some read →
        ∃ c', Cursor.Passed c (text.flatMap escapeChar ++ ['"']) c'
          ∧ quotedWords '"' size fuel done c = some ⟨done.reverse ++ read, c', false⟩ := by
  induction fuel generalizing text c done with
  | zero => cases enough
  | succ fuel ih =>
    cases mark : (c.column == 0) && startsMark text with
    | true =>
      -- a mark between documents ends the text, quotes or not
      have marked := (atDocumentMark_escaped starts).trans mark
      rw [Bool.and_eq_true] at mark
      rw [mark.1, requoted?_mark mark.2]
      refine ⟨fun _ => ?_, fun _ found => nomatch found⟩
      rw [quotedWords, marked]
      simp
    | false =>
      rw [requoted?_fresh mark]
      -- the first word; then the closing quote, or a gap and the words behind it
      obtain ⟨word, rest, c₁, rfl, solid, gap, passed, behind, go⟩ :=
        quotedWords_front starts clear room mark done
      rw [List.length_append] at enough room
      rw [requoted?_word solid, go]
      cases rest with
      | nil =>
        have closed : c₁.isAt '"' = true := isAt_of_rest behind '"'
        have last : Cursor.Passed c₁ ['"'] (c₁.skip 1) :=
          Cursor.passed_skip behind (by simp [isBreak])
        rw [if_pos closed]
        refine ⟨fun nothing => (by cases nothing), fun read found => ⟨c₁.skip 1, ?_, ?_⟩⟩
        · rw [List.append_nil]
          exact passed.trans last
        · cases found
          simp [Gap.chars]
      | cons d rest =>
        have room' : (d :: rest).length < size := by omega
        obtain ⟨run, others, c₂, same, some_run, run_loose, word', passed', behind', apart,
          crossed⟩ := cross_escaped (gap d rfl) behind room'
        rw [same, List.length_append] at enough room
        rw [same]
        have clear' : c₂.spoiled = false := by rw [passed'.spoiled, passed.spoiled, clear]
        obtain ⟨lost, kept⟩ := ih behind' clear'
          (by have := List.length_pos_iff.2 some_run; omega) (by omega)
          ((run.foldl Gap.add {}).chars.reverse ++ (word.reverse ++ done))
        rw [passed'.column, flatMap_escapeChar_loose run_loose,
          startsLine_of_some some_run _ false] at lost kept
        rw [apart, crossed, requoted?_gap run_loose, requoted?_of_gap _ _ word']
        simp only [Bool.false_eq_true, if_false, Option.bind_some, Option.map_map,
          Option.map_eq_none_iff, Option.map_eq_some_iff, Function.comp_apply]
        refine ⟨lost, ?_⟩
        rintro _ ⟨read, found, rfl⟩
        obtain ⟨c₃, passed'', words_read⟩ := kept read found
        refine ⟨c₃, ?_, ?_⟩
        · rw [List.flatMap_append, List.flatMap_append, List.append_assoc, List.append_assoc]
          exact passed.trans (passed'.trans passed'')
        · rw [words_read]
          simp

theorem length_le_length_escaped (text : List Char) :
    text.length ≤ (text.flatMap escapeChar).length := by
  induction text with
  | nil => exact Nat.le_refl 0
  | cons c text ih =>
    have some : 0 < (escapeChar c).length := by
      rcases escapeChar_cases c with ⟨more, escaped, -⟩ | ⟨raw, -⟩
      · simp [escaped]
      · simp [raw]
    rw [List.flatMap_cons, List.length_append, List.length_cons]
    omega

/-- **A JSON text is read between quotes** as `requoted?` says. -/
theorem quotedScalar_textChars {size : Nat} {value : String} {tail : List Char} {c : Cursor}
    (starts : c.rest = textChars value ++ tail) (clear : c.spoiled = false)
    (room : c.rest.length ≤ size) :
    (requoted? {} false value.toList = none → quotedScalar '"' size c = none)
      ∧ ∀ read, requoted? {} false value.toList = some read →
        ∃ c', Cursor.Passed c (textChars value) c'
          ∧ quotedScalar '"' size c = some ⟨read, c', false⟩ := by
  have starts' : c.rest = ['"'] ++ (value.toList.flatMap escapeChar ++ '"' :: tail) := by
    rw [starts, textChars]
    simp
  have opened : Cursor.Passed c ['"'] (c.skip 1) :=
    Cursor.passed_skip starts' (by simp [isBreak])
  have behind := List.append_cancel_left (opened.rest.symm.trans starts')
  have longer := length_le_length_escaped value.toList
  have enough : value.toList.length < size := by
    rw [starts'] at room
    simp only [List.length_append, List.length_cons, List.length_nil] at room
    omega
  obtain ⟨lost, kept⟩ :=
    quotedWords_escaped size behind (opened.spoiled.trans clear) enough enough []
  have inside : ((c.skip 1).column == 0) = false := by rw [opened.column]; rfl
  rw [inside] at lost kept
  refine ⟨lost, fun read found => ?_⟩
  obtain ⟨c', passed, read_back⟩ := kept read found
  exact ⟨c', opened.trans passed, read_back⟩

end BreakCheck.Yaml
