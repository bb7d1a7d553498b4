/-
BreakCheck/Proofs/Yaml/Plain.lean

Words without quotes inside flow collections.

A plain scalar goes on over line breaks, so it takes the blanks behind it, too, and
ends only at the sign behind them.  They do not count as long as no other word follows
(`plainScalar_word`).
-/
import BreakCheck.Proofs.Yaml.Gaps
import Mathlib.Data.List.TakeWhile

namespace BreakCheck.Yaml

/-- Blanks as they are laid out: spaces and line feeds. -/
def AreBlanks (chars : List Char) : Prop := ∀ c ∈ chars, c = ' ' ∨ c = '\n'

theorem AreBlanks.areGap {chars : List Char} (blank : AreBlanks chars) : AreGap chars := by
  intro c held
  rcases blank c held with rfl | rfl
  · exact .inl rfl
  · exact .inr ⟨rfl, by decide⟩

/-- What is left behind blanks. -/
def unblanked (chars : List Char) : List Char := chars.dropWhile fun c => c == ' ' || c == '\n'

theorem unblanked_append {blanks : List Char} (blank : AreBlanks blanks) (chars : List Char) :
    unblanked (blanks ++ chars) = unblanked chars := by
  have passed : ∀ c ∈ blanks, (c == ' ' || c == '\n') = true := by
    intro c held
    rw [Bool.or_eq_true, beq_iff_eq, beq_iff_eq]
    exact blank c held
  exact List.dropWhile_append_of_pos passed

theorem exists_blanks (chars : List Char) :
    ∃ blanks, AreBlanks blanks ∧ chars = blanks ++ unblanked chars := by
  refine ⟨chars.takeWhile fun c => c == ' ' || c == '\n', ?_, List.takeWhile_append_dropWhile.symm⟩
  intro c held
  have passed := List.mem_takeWhile_imp held
  rw [Bool.or_eq_true, beq_iff_eq, beq_iff_eq] at passed
  exact passed

/-- A letter has no meaning in YAML. -/
theorem ne_of_isAlpha {c other : Char} (letter : c.isAlpha = true) (sign : other.isAlpha = false) :
    c ≠ other := by
  rintro rfl
  rw [letter] at sign
  cases sign

/-- What ends a word is no letter. -/
theorem plain_of_isAlpha {c : Char} (letter : c.isAlpha = true) :
    isBlank c = false ∧ isBreak c = false ∧ isFlowIndicator c = false ∧ (c == ':') = false := by
  have apart (other : Char) (sign : other.isAlpha = false) : c ≠ other :=
    ne_of_isAlpha letter sign
  refine ⟨?_, ?_, ?_, by simp [apart ':' rfl]⟩
  · simp [isBlank, apart ' ' rfl, apart '\t' rfl]
  · simp [isBreak, apart '\n' rfl, apart '\r' rfl, apart '\u0085' rfl, apart '\u2028' rfl,
      apart '\u2029' rfl]
  · simp [isFlowIndicator, apart ',' rfl, apart '[' rfl, apart ']' rfl, apart '{' rfl,
      apart '}' rfl]

/-- **A word is taken letter by letter.** -/
theorem plainWord_letters {word more : List Char} (letters : ∀ c ∈ word, c.isAlpha = true)
    {c : Cursor} (starts : c.rest = word ++ more) (clear : c.spoiled = false) (fuel : Nat)
    (done : List Char) :
    ∃ c', Cursor.Passed c word c' ∧ plainWord true (fuel + word.length) done {} c
      = plainWord true fuel (word.reverse ++ done) {} c' := by
  induction word generalizing c done with
  | nil => exact ⟨c, .refl c, rfl⟩
  | cons letter word ih =>
    obtain ⟨noBlank, noBreak, noSign, noColon⟩ :=
      plain_of_isAlpha (letters letter List.mem_cons_self)
    have next : c.next? = some letter := by rw [Cursor.next?, starts]; rfl
    have sees : c.sees 2 = true := by simp [Cursor.sees, clear]
    have step : Cursor.Passed c [letter] (c.skip 1) :=
      Cursor.passed_skip starts (by simp [noBreak])
    obtain ⟨c', passed, same⟩ := ih (fun c held => letters c (List.mem_cons_of_mem _ held))
      (List.append_cancel_left (step.rest.symm.trans starts)) clear (letter :: done)
    refine ⟨c', step.trans passed, ?_⟩
    have first : plainWord true (fuel + word.length + 1) done {} c
        = plainWord true (fuel + word.length) (letter :: done) {} (c.skip 1) := by
      rw [plainWord, next]
      simp [sees, noBlank, noBreak, noSign, noColon, Gap.chars]
    rw [List.length_cons, ← Nat.add_assoc, first, same]
    simp

/-- A word ends at a blank or a sign. -/
theorem plainWord_ends {char : Char} {more : List Char} {c : Cursor}
    (starts : c.rest = char :: more) (clear : c.spoiled = false)
    (ends : isBlank char = true ∨ isBreak char = true ∨ isFlowIndicator char = true)
    (fuel : Nat) (done : List Char) (gap : Gap) :
    plainWord true fuel done gap c = some (done, gap, c) := by
  cases fuel with
  | zero => rfl
  | succ fuel =>
    have next : c.next? = some char := by rw [Cursor.next?, starts]; rfl
    have sees : c.sees 2 = true := by simp [Cursor.sees, clear]
    have noColon : (char == ':') = false := by
      rw [beq_eq_false_iff_ne]
      rintro rfl
      rcases ends with ends | ends | ends <;> cases ends
    rw [plainWord, next]
    simp only [sees, noColon, Bool.not_true, Bool.false_and, Bool.and_false, Bool.true_and,
      Bool.false_or, Bool.false_eq_true, if_false, Bool.or_eq_true]
    rcases ends with ends | ends | ends <;> simp [ends]

/-- A word begins where there is neither a mark nor a comment. -/
theorem plainWords_starts {char : Char} {more : List Char} {c : Cursor}
    (starts : c.rest = char :: more) (clear : c.spoiled = false)
    (other : ∀ mark ∈ ['-', '.', '#'], char ≠ mark) (limit : Int) (size fuel : Nat)
    (done : List Char) (gap : Gap) :
    plainWords true limit size (fuel + 1) done gap c = (do
      let (done, gap, c) ← plainWord true size done gap c
      if c.next?.any (fun char => isBlank char || isBreak char) then
        let (gap, c) ← gap.cross limit size c
        plainWords true limit size fuel done gap c
      else some ⟨done.reverse, c, gap.crossed⟩) := by
  have sees : c.sees 4 = true := by simp [Cursor.sees, clear]
  have noDash := Cursor.atIndicator_of_ne starts (other '-' (by simp))
  have noDots := Cursor.atIndicator_of_ne starts (other '.' (by simp))
  have noComment : c.isAt '#' = false := by
    have next : c.next? = some char := by rw [Cursor.next?, starts]; rfl
    rw [Cursor.isAt, next]
    simp [other '#' (by simp)]
  rw [plainWords, Cursor.atDocumentMark]
  simp only [sees, noDash, noDots, noComment, Bool.not_true, Bool.or_self, Bool.false_and,
    Bool.false_eq_true, if_false]

/-- A sign is neither a blank nor a break, and begins no mark and no comment. -/
theorem sign_of_isFlowIndicator {char : Char} (sign : isFlowIndicator char = true) :
    isBlank char = false ∧ isBreak char = false ∧ ∀ mark ∈ ['-', '.', '#'], char ≠ mark := by
  simp only [isFlowIndicator, Bool.or_eq_true, beq_iff_eq] at sign
  rcases sign with (((rfl | rfl) | rfl) | rfl) | rfl <;>
    exact ⟨by decide, by decide, by simp⟩

theorem plainWords_ends {char : Char} {more : List Char} {c : Cursor}
    (starts : c.rest = char :: more) (clear : c.spoiled = false)
    (ends : isFlowIndicator char = true) (limit : Int) (size fuel : Nat) (done : List Char)
    (gap : Gap) :
    plainWords true limit size (fuel + 1) done gap c = some ⟨done.reverse, c, gap.crossed⟩ := by
  obtain ⟨noBlank, noBreak, other⟩ := sign_of_isFlowIndicator ends
  have next : c.next? = some char := by rw [Cursor.next?, starts]; rfl
  rw [plainWords_starts starts clear other, plainWord_ends starts clear (.inr (.inr ends))]
  simp [next, noBlank, noBreak]

/-- **A word in front of a sign**, perhaps with blanks in between. -/
theorem plainScalar_word {word blanks more : List Char} {char : Char} (some : word ≠ [])
    (letters : ∀ c ∈ word, c.isAlpha = true) (blank : AreBlanks blanks)
    (ends : isFlowIndicator char = true) {c : Cursor}
    (starts : c.rest = word ++ (blanks ++ char :: more)) (clear : c.spoiled = false) {size : Nat}
    (room : c.rest.length < size) (indent : Int) :
    ∃ c' crossed, Cursor.Passed c (word ++ blanks) c'
      ∧ plainScalar true indent size c = Option.some ⟨word, c', crossed⟩ := by
  obtain ⟨letter, others, rfl⟩ := List.exists_cons_of_ne_nil some
  have other : ∀ mark ∈ ['-', '.', '#'], letter ≠ mark := by
    intro mark held
    apply ne_of_isAlpha (letters letter List.mem_cons_self)
    simp only [List.mem_cons, List.not_mem_nil, or_false] at held
    rcases held with rfl | rfl | rfl <;> rfl
  have length := congrArg List.length starts
  simp only [List.length_append, List.length_cons] at length
  -- the letters of the word take a step each
  obtain ⟨fuel, rfl⟩ : ∃ fuel, size = fuel + 1 + (letter :: others).length :=
    ⟨size - 1 - (letter :: others).length, by simp only [List.length_cons]; omega⟩
  obtain ⟨c₁, passed, taken⟩ := plainWord_letters letters starts clear (fuel + 1) []
  have behind := List.append_cancel_left (passed.rest.symm.trans starts)
  have clear₁ := passed.spoiled.trans clear
  have starts' : c.rest = letter :: (others ++ (blanks ++ char :: more)) := starts
  have first := plainWords_starts starts' clear other (indent + 1)
    (fuel + 1 + (letter :: others).length) (fuel + 1 + others.length) [] {}
  rw [taken, List.append_nil] at first
  obtain ⟨noBlank, noBreak, -⟩ := sign_of_isFlowIndicator ends
  show ∃ c' crossed, _ ∧ plainWords true (indent + 1) _ (fuel + 1 + others.length + 1) [] {} c = _
  rw [first]
  cases blanks with
  | nil =>
    have next : c₁.next? = Option.some char := by rw [Cursor.next?, behind]; rfl
    refine ⟨c₁, false, by simpa using passed, ?_⟩
    rw [plainWord_ends behind clear₁ (.inr (.inr ends))]
    simp [next, noBlank, noBreak]
  | cons b blanks =>
    have next : c₁.next? = Option.some b := by rw [Cursor.next?, behind]; rfl
    have isGap : isBlank b = true ∨ isBreak b = true := by
      rcases blank b List.mem_cons_self with rfl | rfl
      · exact .inl rfl
      · exact .inr rfl
    -- the scalar goes on over the blanks, only to meet the sign
    have enough : (b :: blanks).length < fuel + 1 + (letter :: others).length := by
      simp only [List.length_cons] at room length ⊢
      omega
    obtain ⟨c₂, passed', crossed⟩ :=
      cross_gap blank.areGap behind ⟨_, _, rfl, noBlank, noBreak⟩ (indent + 1) enough {}
    generalize (b :: blanks).foldl Gap.add {} = gap at crossed
    have behind' := List.append_cancel_left (passed'.rest.symm.trans behind)
    have clear₂ := passed'.spoiled.trans clear₁
    refine ⟨c₂, gap.crossed, passed.trans passed', ?_⟩
    have stops : (isBlank b || isBreak b) = true := by rcases isGap with gap | gap <;> simp [gap]
    have last := plainWords_ends behind' clear₂ ends (indent + 1)
      (fuel + 1 + (letter :: others).length) (fuel + others.length) (letter :: others).reverse gap
    rw [plainWord_ends behind clear₁ (isGap.imp_right .inl), Option.bind_eq_bind, Option.bind_some]
    simp only [next, Option.any_some, stops, if_true]
    rw [crossed, Nat.add_right_comm fuel 1 others.length]
    exact last.trans (by rw [List.reverse_reverse])

end BreakCheck.Yaml
