/-
BreakCheck/Proofs/Json/Brackets.lean

Counting the brackets of JSON text.

Outside of texts in quotes every opening bracket adds one to the count and every closing one
takes one away.  A value that is read without a fault closes all brackets that it opens,
whatever stands behind it (`consumes_valueTree`), so the brackets of a whole JSON text come to
nothing (`nets_of_isWellFormed`).

Design.  `Leads` speaks of given characters, and is put together by `Leads.append`.  `Takes`
speaks of a text and of what a reader leaves of it; the readers are followed one by one, and
the characters they take are not named.
-/
import BreakCheck.Json.Tree
import BreakCheck.Json.Writing
import Mathlib.Data.List.Basic

namespace BreakCheck.Json

/-! ### The count -/

/-- Where a count of brackets stands. -/
inductive Spot
  | outside
  | quoted
  /-- In quotes, behind a backslash. -/
  | escaped

/-- What a character adds to the number of open brackets. -/
def bracket (c : Char) : Int :=
  if c = '{' ∨ c = '[' then 1 else if c = '}' ∨ c = ']' then -1 else 0

/-- The count, one character further. -/
def count : Spot × Int → Char → Spot × Int
  | (.outside, depth), c => if c = '"' then (.quoted, depth) else (.outside, depth + bracket c)
  | (.quoted, depth), c =>
    if c = '"' then (.outside, depth)
    else if c = '\\' then (.escaped, depth)
    else (.quoted, depth)
  | (.escaped, depth), _ => (.quoted, depth)

/-- **Characters lead from one spot to another** and open that many more brackets than they
close. -/
def Leads (spot : Spot) (chars : List Char) (spot' : Spot) (net : Int) : Prop :=
  ∀ depth, chars.foldl count (spot, depth) = (spot', depth + net)

/-- Characters that begin and end outside of quotes. -/
abbrev Nets (chars : List Char) (net : Int) : Prop := Leads .outside chars .outside net

section Leads

variable {spot spot' spot'' : Spot} {chars chars' : List Char} {net net' : Int}

theorem Leads.nil (spot : Spot) : Leads spot [] spot 0 := by
  intro depth
  rw [Int.add_zero]
  rfl

/-- What is opened along a text is the sum of what is opened along its parts. -/
theorem Leads.append (first : Leads spot chars spot' net)
    (second : Leads spot' chars' spot'' net') :
    Leads spot (chars ++ chars') spot'' (net + net') := by
  intro depth
  rw [List.foldl_append, first, second, Int.add_assoc]

/-- Characters do not open different numbers of brackets. -/
theorem Leads.net_eq (first : Leads spot chars spot' net) (second : Leads spot chars spot'' net') :
    net = net' := by
  have same := (first 0).symm.trans (second 0)
  have := congrArg Prod.snd same
  simpa using this

/-- A character outside of quotes. -/
theorem nets_char {c : Char} (unquoted : c ≠ '"') : Nets [c] (bracket c) := by
  intro depth
  show count (.outside, depth) c = _
  rw [count, if_neg unquoted]

/-- A character in quotes that has no meaning there. -/
theorem leads_raw {c : Char} (quote : c ≠ '"') (backslash : c ≠ '\\') :
    Leads .quoted [c] .quoted 0 := by
  intro depth
  show count (.quoted, depth) c = _
  rw [count, if_neg quote, if_neg backslash, Int.add_zero]

/-- A backslash takes any character with it. -/
theorem leads_escape (c : Char) : Leads .quoted ['\\', c] .quoted 0 := by
  intro depth
  rw [Int.add_zero]
  rfl

/-- A quote that is not escaped ends the text. -/
theorem leads_close : Leads .quoted ['"'] .outside 0 := by
  intro depth
  rw [Int.add_zero]
  rfl

theorem leads_open : Leads .outside ['"'] .quoted 0 := by
  intro depth
  rw [Int.add_zero]
  rfl

end Leads

/-- Whether a character outside of quotes says nothing about brackets. -/
def isNeutral (c : Char) : Bool := !(['"', '{', '[', '}', ']'].contains c)

/-- Characters that are neither brackets nor quotes change nothing. -/
theorem nets_neutral {chars : List Char} (neutral : chars.all isNeutral = true) :
    Nets chars 0 := by
  induction chars with
  | nil => exact Leads.nil _
  | cons c rest ih =>
    rw [List.all_cons, Bool.and_eq_true] at neutral
    have apart := neutral.1
    simp only [isNeutral, List.contains_cons, List.contains_nil, Bool.not_eq_true',
      Bool.or_eq_false_iff, beq_eq_false_iff_ne, ne_eq] at apart
    have plain : bracket c = 0 := by simp [bracket, apart]
    have first := nets_char apart.1
    rw [plain] at first
    exact first.append (ih neutral.2)

/-! ### Texts in quotes -/

/-- A character of a text, escaped if it has to be, does not leave the quotes. -/
theorem leads_escapeChar (c : Char) : Leads .quoted (escapeChar c) .quoted 0 := by
  -- the codes of all control characters, by inspection
  have control : ∀ n < 0x20,
      (Nat.digitChar (n / 16) ≠ '"' ∧ Nat.digitChar (n / 16) ≠ '\\')
        ∧ Nat.digitChar (n % 16) ≠ '"' ∧ Nat.digitChar (n % 16) ≠ '\\' := by
    decide
  unfold escapeChar
  split
  iterate 7 · exact leads_escape _
  next quote backslash _ _ _ _ _ =>
    split
    next low =>
      obtain ⟨first, second⟩ := control c.toNat low
      have zero : Leads .quoted ['0'] .quoted 0 := leads_raw (by decide) (by decide)
      exact (leads_escape 'u').append (zero.append (zero.append
        ((leads_raw first.1 first.2).append (leads_raw second.1 second.2))))
    next => exact leads_raw quote backslash

/-- **A text in quotes counts for nothing**, whatever brackets and quotes it holds. -/
theorem nets_textChars (value : String) : Nets (textChars value) 0 := by
  have inner (chars : List Char) : Leads .quoted (chars.flatMap escapeChar) .quoted 0 := by
    induction chars with
    | nil => exact Leads.nil _
    | cons c rest ih =>
      rw [List.flatMap_cons]
      exact (leads_escapeChar c).append ih
  exact leads_open.append ((inner value.toList).append leads_close)

/-- **A text takes characters** from one spot to another, and leaves the rest. -/
def Takes (spot : Spot) (text : List Char) (spot' : Spot) (rest : List Char) (net : Int) : Prop :=
  ∃ front, text = front ++ rest ∧ Leads spot front spot' net

/-- What characters lead to is taken with them from any text. -/
theorem Takes.of_leads {spot spot' : Spot} {chars : List Char} {net : Int}
    (leads : Leads spot chars spot' net) (rest : List Char) :
    Takes spot (chars ++ rest) spot' rest net :=
  ⟨chars, rfl, leads⟩

/-- What is taken in two steps is taken together. -/
theorem Takes.trans {spot spot' spot'' : Spot} {text text' rest : List Char} {net net' : Int}
    (first : Takes spot text spot' text' net) (second : Takes spot' text' spot'' rest net') :
    Takes spot text spot'' rest (net + net') := by
  obtain ⟨front, rfl, leads⟩ := first
  obtain ⟨back, rfl, leads'⟩ := second
  exact ⟨front ++ back, (List.append_assoc ..).symm, leads.append leads'⟩

/-- A first step that opens nothing does not count. -/
theorem Takes.after {spot spot' spot'' : Spot} {text text' rest : List Char} {net : Int}
    (first : Takes spot text spot' text' 0) (second : Takes spot' text' spot'' rest net) :
    Takes spot text spot'' rest net := by
  have both := first.trans second
  rwa [Int.zero_add] at both

/-- Hexadecimal digits have no meaning in quotes. -/
theorem leads_digit {c : Char} (digit : Literal.digitValue c < 16) :
    Leads .quoted [c] .quoted 0 := by
  apply leads_raw
  · rintro rfl
    exact absurd digit (by decide)
  · rintro rfl
    exact absurd digit (by decide)

/-- Four digits behind a `u` stay within the quotes. -/
theorem leads_codeUnit {a b c d : Char} {unit : Nat} (spelled : codeUnit? a b c d = some unit) :
    Leads .quoted ['\\', 'u', a, b, c, d] .quoted 0 := by
  rw [codeUnit?, Literal.natural?] at spelled
  split at spelled
  next digits =>
    simp only [List.all_cons, Bool.and_eq_true, decide_eq_true_eq] at digits
    obtain ⟨-, first, second, third, fourth, -⟩ := digits
    exact (leads_escape 'u').append ((leads_digit first).append ((leads_digit second).append
      ((leads_digit third).append (leads_digit fourth))))
  next => cases spelled

/-- What stands in front of a body does not change what is left behind it. -/
theorem snd_after (lead : Option Nat) (body : Body) : (body.after lead).2 = body.2 := by
  unfold Body.after
  split <;> rfl

/-- Characters in front of a body change what it says, but not where it ends. -/
theorem Takes.behind {front text rest : List Char} {body : Option Body} {change : Body → Body}
    {chars : Option (List Char)} (leads : Leads .quoted front .quoted 0)
    (read : body.map change = some (chars, rest)) (keeps : ∀ body : Body, (change body).2 = body.2)
    (others : ∀ {chars rest}, body = some (chars, rest) → Takes .quoted text .outside rest 0) :
    Takes .quoted (front ++ text) .outside rest 0 := by
  obtain ⟨⟨chars', rest'⟩, same, changed⟩ := Option.map_eq_some_iff.1 read
  obtain rfl : rest = rest' := by
    have kept := keeps (chars', rest')
    rwa [changed] at kept
  exact (Takes.of_leads leads text).trans (others same)

/-- What stands behind an opening quote ends with the closing one. -/
theorem takes_body? {lead : Option Nat} {text rest : List Char} {chars : Option (List Char)}
    (read : body? lead text = some (chars, rest)) : Takes .quoted text .outside rest 0 := by
  fun_induction body? lead text generalizing chars rest with
  | case1 lead => cases read
  | case2 lead rest' =>
    have same := congrArg (Option.map Prod.snd) read
    simp only [Option.map_some, Option.some.injEq, snd_after] at same
    rw [← same]
    exact Takes.of_leads leads_close rest'
  | case3 lead a b c d rest' none => cases read
  | case4 a b c d rest' unit spelled first trail ih =>
    exact Takes.behind (leads_codeUnit spelled) read (fun _ => rfl) ih
  | case5 a b c d rest' unit spelled first trail ih =>
    exact Takes.behind (leads_codeUnit spelled) read (fun _ => rfl) ih
  | case6 a b c d rest' unit spelled lead ih =>
    exact (Takes.of_leads (leads_codeUnit spelled) rest').trans (ih read)
  | case7 a b c d rest' unit spelled lead trail ih =>
    exact Takes.behind (leads_codeUnit spelled) read (fun _ => rfl) ih
  | case8 a b c d rest' unit spelled lead trail ih =>
    exact Takes.behind (leads_codeUnit spelled) read (fun _ => rfl) ih
  | case9 lead e rest' other unknown => cases read
  | case10 lead e rest' other c known ih =>
    exact Takes.behind (leads_escape e) read (fun _ => snd_after lead _) ih
  | case11 lead c rest' quote unit escape low => cases read
  | case12 lead c rest' quote unit escape high ih =>
    -- a backslash with nothing behind it is no text
    by_cases backslash : c = '\\'
    · cases rest' with
      | nil => rw [body?] at read; cases read
      | cons e rest'' => exact (escape e rest'' backslash rfl).elim
    · exact Takes.behind (leads_raw quote backslash) read (fun _ => snd_after lead _) ih

/-! ### Numbers, words and blanks -/

/-- Text outside of quotes. -/
abbrev Consumes (text rest : List Char) (net : Int) : Prop :=
  Takes .outside text .outside rest net

theorem consumes_nothing (text : List Char) : Consumes text text 0 :=
  Takes.of_leads (Leads.nil _) text

/-- A character outside of quotes counts as the bracket that it is, if it is one. -/
theorem consumes_char {c : Char} (unquoted : c ≠ '"') (rest : List Char) :
    Consumes (c :: rest) rest (bracket c) :=
  Takes.of_leads (nets_char unquoted) rest

/-- Characters that say nothing can be dropped. -/
theorem consumes_dropWhile {p : Char → Bool} (neutral : ∀ c, p c = true → isNeutral c = true)
    (text : List Char) : Consumes text (text.dropWhile p) 0 := by
  refine ⟨text.takeWhile p, List.takeWhile_append_dropWhile.symm, nets_neutral ?_⟩
  rw [List.all_eq_true]
  intro c held
  exact neutral c (List.all_eq_true.1 List.all_takeWhile c held)

theorem isNeutral_of_ne {c : Char} (quote : c ≠ '"') (brace : c ≠ '{') (square : c ≠ '[')
    (brace' : c ≠ '}') (square' : c ≠ ']') : isNeutral c = true := by
  simp [isNeutral, quote, brace, square, brace', square']

/-- Digits are no brackets. -/
theorem isNeutral_of_isDigit {c : Char} (digit : Literal.isDigit c = true) :
    isNeutral c = true := by
  apply isNeutral_of_ne <;> rintro rfl <;> exact absurd digit (by decide)

theorem consumes_blanks (text : List Char) : Consumes text (skipBlanks text) 0 := by
  apply consumes_dropWhile
  intro c blank
  apply isNeutral_of_ne <;> rintro rfl <;> exact absurd blank (by decide)

theorem consumes_digits (text : List Char) : Consumes text (text.dropWhile Literal.isDigit) 0 :=
  consumes_dropWhile (fun _ => isNeutral_of_isDigit) text

/-- A word is what stands in front of the rest. -/
theorem eq_of_afterWord? {word text rest : List Char} (read : afterWord? word text = some rest) :
    text = word ++ rest := by
  fun_induction afterWord? word text with
  | case1 text => cases read; rfl
  | case2 c word text ih => rw [ih read]; rfl
  | case3 c word d text differ => cases read
  | case4 c word => cases read

/-- A word is taken whole, or its tree has a fault. -/
theorem consumes_wordTree {word text rest : List Char} (neutral : word.all isNeutral = true)
    {value tree : Tree} (read : wordTree word value text = (tree, rest))
    (sound : tree.isSound = true) : Consumes text rest 0 := by
  unfold wordTree at read
  split at read
  next found =>
    cases read
    exact ⟨word, eq_of_afterWord? found, nets_neutral neutral⟩
  next => cases read; cases sound

namespace Number

/-- The fraction of a number opens nothing, be it there or not. -/
theorem consumes_fraction? {text rest : List Char} {digits : Option (List Char)}
    (read : fraction? text = some (digits, rest)) : Consumes text rest 0 := by
  unfold fraction? at read
  split at read
  next text' =>
    simp only at read
    split at read
    · cases read
    · cases read
      exact (consumes_char (by decide) _).trans (consumes_digits text')
  next =>
    cases read
    exact consumes_nothing _

theorem consumes_exponentDigits? {negative : Bool} {text rest : List Char} {value : Option Int}
    (read : exponentDigits? negative text = some (value, rest)) : Consumes text rest 0 := by
  unfold exponentDigits? at read
  simp only at read
  split at read
  · cases read
  · cases read
    exact consumes_digits text

/-- The exponent of a number opens nothing, with a sign or without one. -/
theorem consumes_exponent? {text rest : List Char} {value : Option Int}
    (read : exponent? text = some (value, rest)) : Consumes text rest 0 := by
  unfold exponent? at read
  split at read
  next mark text' =>
    split at read
    next isMark =>
      have first : Consumes (mark :: text') text' 0 := by
        rcases isMark with rfl | rfl <;> exact consumes_char (by decide) _
      split at read
      · exact first.trans ((consumes_char (by decide) _).trans (consumes_exponentDigits? read))
      · exact first.trans ((consumes_char (by decide) _).trans (consumes_exponentDigits? read))
      · exact first.trans (consumes_exponentDigits? read)
    next =>
      cases read
      exact consumes_nothing _
  next =>
    cases read
    exact consumes_nothing _

/-- **A number opens nothing**, in any of its forms. -/
theorem consumes_read? {text rest : List Char} {number : Number}
    (read : read? text = some (number, rest)) : Consumes text rest 0 := by
  unfold read? at read
  split at read
  next negative unsigned sign =>
    have signed : Consumes text unsigned 0 := by
      split at sign
      · cases sign
        exact consumes_char (by decide) _
      · cases sign
        exact consumes_nothing _
    dsimp only at read
    split at read
    · cases read
    · simp only [bind, Option.bind_eq_some_iff] at read
      obtain ⟨⟨fraction, text'⟩, first, ⟨exponent, text''⟩, second, read⟩ := read
      cases read
      exact signed.trans ((consumes_digits unsigned).trans
        ((consumes_fraction? first).trans (consumes_exponent? second)))

end Number

/-- A text is taken up to the quote that ends it, or its tree has a fault. -/
theorem takes_textTree {text rest : List Char} {tree : Tree} (read : textTree text = (tree, rest))
    (sound : tree.isSound = true) : Takes .quoted text .outside rest 0 := by
  unfold textTree at read
  split at read
  next found => cases read; exact takes_body? found
  next found => cases read; exact takes_body? found
  next => cases read; cases sound

/-- A number is taken whole, or its tree has a fault. -/
theorem consumes_numberTree {text rest : List Char} {tree : Tree}
    (read : numberTree text = (tree, rest)) (sound : tree.isSound = true) :
    Consumes text rest 0 := by
  unfold numberTree at read
  split at read
  next found => cases read; exact Number.consumes_read? found
  next => cases read; cases sound

/-! ### Values -/

theorem isSound_of_isName {tree : Tree} (name : tree.isName = true) : tree.isSound = true := by
  cases tree <;> first | rfl | cases name

mutual

/-- **A value without a fault** closes all brackets that it opens. -/
theorem consumes_valueTree : ∀ {fuel : Nat} {text rest : List Char} {tree : Tree},
    valueTree fuel text = (tree, rest) → tree.isSound = true → Consumes text rest 0
  | 0, _, _, _, read, sound => by
    cases read
    cases sound
  | fuel + 1, text, rest, tree, read, sound => by
    refine (consumes_blanks text).after ?_
    rw [valueTree] at read
    generalize skipBlanks text = start at read ⊢
    split at read
    next text' => exact (Takes.of_leads leads_open text').after (takes_textTree read sound)
    next text' =>
      have opened : Consumes ('[' :: text') (skipBlanks text') 1 :=
        (consumes_char (by decide) text').trans (consumes_blanks text')
      split at read
      next closed =>
        cases read
        rw [closed] at opened
        exact opened.trans (consumes_char (by decide) _)
      next =>
        split at read
        next items rest' found =>
          cases read
          rw [Tree.isSound] at sound
          exact opened.trans (consumes_itemTrees found sound)
    next text' =>
      have opened : Consumes ('{' :: text') (skipBlanks text') 1 :=
        (consumes_char (by decide) text').trans (consumes_blanks text')
      split at read
      next closed =>
        cases read
        rw [closed] at opened
        exact opened.trans (consumes_char (by decide) _)
      next =>
        split at read
        next members rest' found =>
          cases read
          rw [Tree.isSound] at sound
          exact opened.trans (consumes_memberTrees found sound)
    next text' =>
      exact (consumes_char (by decide) text').after (consumes_wordTree (by decide) read sound)
    next text' =>
      exact (consumes_char (by decide) text').after (consumes_wordTree (by decide) read sound)
    next text' =>
      exact (consumes_char (by decide) text').after (consumes_wordTree (by decide) read sound)
    next text' => exact consumes_numberTree read sound
    next c text' _ _ _ _ _ _ _ =>
      split at read
      · exact consumes_numberTree read sound
      · cases read
        cases sound
    next =>
      cases read
      cases sound

/-- Items close the bracket in front of them. -/
theorem consumes_itemTrees : ∀ {fuel : Nat} {text rest : List Char} {items : List Tree},
    itemTrees fuel text = (items, rest) → Tree.allSound items = true → Consumes text rest (-1)
  | 0, _, _, _, read, sound => by
    cases read
    cases sound
  | fuel + 1, text, rest, items, read, sound => by
    rw [itemTrees] at read
    split at read
    next item text' found =>
      have behind (first : item.isSound = true) : Consumes text (skipBlanks text') 0 :=
        (consumes_valueTree found first).after (consumes_blanks text')
      generalize skipBlanks text' = after at read behind
      split at read
      next text'' =>
        split at read
        next others rest' more =>
          cases read
          rw [Tree.allSound, Bool.and_eq_true] at sound
          exact (behind sound.1).after
            ((consumes_char (by decide) text'').after (consumes_itemTrees more sound.2))
      next =>
        cases read
        rw [Tree.allSound, Bool.and_eq_true] at sound
        exact (behind sound.1).after (consumes_char (by decide) _)
      next =>
        cases read
        simp [Tree.allSound, Tree.isSound] at sound

/-- So do members. -/
theorem consumes_memberTrees : ∀ {fuel : Nat} {text rest : List Char}
    {members : List (Tree × Tree)}, memberTrees fuel text = (members, rest) →
      Tree.allMembersSound members = true → Consumes text rest (-1)
  | 0, _, _, _, read, sound => by
    cases read
    cases sound
  | fuel + 1, text, rest, members, read, sound => by
    rw [memberTrees] at read
    split at read
    next name text' found =>
      split at read
      next isName =>
        have named : Consumes text (skipBlanks text') 0 :=
          (consumes_valueTree found (isSound_of_isName isName)).after (consumes_blanks text')
        generalize skipBlanks text' = after at read named
        split at read
        next text'' =>
          split at read
          next value text3 found' =>
            have behind (held : value.isSound = true) : Consumes text (skipBlanks text3) 0 :=
              named.after ((consumes_char (by decide) text'').after
                ((consumes_valueTree found' held).after (consumes_blanks text3)))
            generalize skipBlanks text3 = after at read behind
            split at read
            next text4 =>
              split at read
              next others rest' more =>
                cases read
                simp only [Tree.allMembersSound, Bool.and_eq_true] at sound
                exact (behind sound.1.2).after
                  ((consumes_char (by decide) text4).after (consumes_memberTrees more sound.2))
            next =>
              cases read
              simp only [Tree.allMembersSound, Bool.and_eq_true] at sound
              exact (behind sound.1.2).after (consumes_char (by decide) _)
            next =>
              cases read
              simp [Tree.allMembersSound, Tree.isSound] at sound
        next =>
          cases read
          simp [Tree.allMembersSound, Tree.isSound] at sound
      next =>
        cases read
        simp [Tree.allMembersSound, Tree.isSound] at sound

end

/-! ### Well-formed texts -/

/-- **Whether a text is JSON**: one value without a fault, and nothing behind it. -/
def isWellFormed (text : String) : Bool :=
  (Tree.ofText text).1.isSound && (Tree.ofText text).2

/-- **Well-formed text closes just the brackets that it opens.** -/
theorem nets_of_isWellFormed {text : String} (sound : isWellFormed text = true) :
    Nets text.toList 0 := by
  rw [isWellFormed, Bool.and_eq_true, Tree.ofText] at sound
  cases read : valueTree (2 * text.toList.length + 2) text.toList with
  | mk tree rest =>
    simp only [read] at sound
    obtain ⟨front, same, leads⟩ := (consumes_valueTree read sound.1).after (consumes_blanks rest)
    rw [List.isEmpty_iff.1 sound.2, List.append_nil] at same
    rw [same]
    exact leads

end BreakCheck.Json
