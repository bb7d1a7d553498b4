/-
BreakCheck/Proofs/Yaml/Gaps.lean

Gaps between the words of a scalar.

A gap is a run of spaces and of line breaks that are one character each.  What it counts
as grows character by character (`Gap.add`), and does not depend on where it stands.

Main result: the scanner crosses a gap up to the next word (`cross_gap`).
-/
import BreakCheck.Proofs.Yaml.Passed
import BreakCheck.Yaml.Token.Scalar

namespace BreakCheck.Yaml

/-- A separator of lines or of paragraphs. -/
def isSeparator (c : Char) : Bool := c == '\u2028' || c == '\u2029'

/-- What a break counts as. -/
def countedBreak (c : Char) : Char := if isSeparator c then c else '\n'

/-- A gap with one character more. -/
def Gap.add (gap : Gap) (c : Char) : Gap :=
  if c == ' ' then if gap.crossed then gap else { gap with blanks := c :: gap.blanks }
  else if gap.crossed then { gap with later := countedBreak c :: gap.later }
  else { crossed := true, first := [countedBreak c] }

/-- Spaces and line breaks of one character each. -/
def AreGap (run : List Char) : Prop := ∀ c ∈ run, c = ' ' ∨ (isBreak c = true ∧ c ≠ '\r')

/-- Whether a gap ends before a text. -/
def EndsGap (text : List Char) : Prop :=
  ∃ c rest, text = c :: rest ∧ isBlank c = false ∧ isBreak c = false

theorem breakChars_eq {c : Cursor} {char : Char} {more : List Char} (starts : c.rest = char :: more)
    (breaks : isBreak char = true) : c.breakChars = [countedBreak char] := by
  have next : c.next? = some char := by rw [Cursor.next?, starts]; rfl
  unfold Cursor.breakChars
  rw [next]
  split
  next same => cases same; rfl
  next same => cases same; rfl
  next other noLine noParagraph same =>
    cases same
    rw [if_pos breaks, countedBreak, if_neg]
    simp only [isSeparator, Bool.or_eq_true, beq_iff_eq]
    rintro (rfl | rfl)
    · exact noLine rfl
    · exact noParagraph rfl
  next same => cases same

/-- **A gap** is crossed up to the next word. -/
theorem cross_gap {run : List Char} (gaps : AreGap run) {c : Cursor} {more : List Char}
    (starts : c.rest = run ++ more) (ends : EndsGap more) (limit : Int) {fuel : Nat}
    (enough : run.length < fuel) (gap : Gap) :
    ∃ c', Cursor.Passed c run c' ∧ gap.cross limit fuel c = some (run.foldl Gap.add gap, c') := by
  induction run generalizing c fuel gap with
  | nil =>
    obtain ⟨d, rest, rfl, noBlank, noBreak⟩ := ends
    cases fuel with
    | zero => cases enough
    | succ fuel =>
      have next : c.next? = some d := by rw [Cursor.next?, starts]; rfl
      refine ⟨c, .refl c, ?_⟩
      rw [Gap.cross, next]
      simp [noBlank, noBreak]
  | cons char run ih =>
    have others : AreGap run := fun c held => gaps c (List.mem_cons_of_mem _ held)
    have next : c.next? = some char := by rw [Cursor.next?, starts]; rfl
    cases fuel with
    | zero => cases enough
    | succ fuel =>
      have fewer : run.length < fuel := Nat.lt_of_succ_lt_succ enough
      rcases gaps char List.mem_cons_self with rfl | ⟨breaks, noReturn⟩
      · have step : Cursor.Passed c [' '] (c.skip 1) :=
          Cursor.passed_skip starts (by simp [isBreak])
        have behind := List.append_cancel_left (step.rest.symm.trans starts)
        obtain ⟨c', passed, read⟩ := ih others behind fewer (gap.add ' ')
        refine ⟨c', step.trans passed, ?_⟩
        rw [List.foldl_cons, ← read, Gap.cross, next]
        cases crossed : gap.crossed <;> simp [Gap.add, crossed, isBlank]
      · have step := Cursor.passed_skipBreak starts breaks noReturn
        have behind := List.append_cancel_left (step.rest.symm.trans starts)
        obtain ⟨c', passed, read⟩ := ih others behind fewer (gap.add char)
        have noSpace : char ≠ ' ' := by rintro rfl; cases breaks
        have noBlank : isBlank char = false := by
          refine Bool.eq_false_iff.2 fun blank => ?_
          simp only [isBlank, Bool.or_eq_true, beq_iff_eq] at blank
          rcases blank with rfl | rfl <;> cases breaks
        refine ⟨c', step.trans passed, ?_⟩
        rw [List.foldl_cons, ← read, Gap.cross, next]
        simp only [noBlank, breaks, breakChars_eq starts breaks, Bool.false_eq_true, if_false,
          if_true]
        cases crossed : gap.crossed <;> simp [Gap.add, crossed, noSpace]

end BreakCheck.Yaml
