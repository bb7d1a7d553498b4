/-
BreakCheck/Proofs/Yaml/Passed.lean

Stepping over characters of a YAML text.

`Passed c chars c'` says that the place `c'` lies behind `c`, with certain characters
between them, none of them a carriage return.  It is all that later proofs know about
places: what is left, how far the place has come in bytes and in lines, and whether it
is the beginning of a line.
-/
import BreakCheck.Yaml.Cursor
import Mathlib.Data.List.Basic

namespace BreakCheck.Yaml

/-- The number of bytes of characters one behind the other. -/
@[simp] theorem byteCount_append (chars chars' : List Char) :
    byteCount (chars ++ chars') = byteCount chars + byteCount chars' := by
  induction chars with
  | nil => simp [byteCount]
  | cons c rest ih => rw [List.cons_append, byteCount, byteCount, ih, Nat.add_assoc]

namespace Cursor

/-- Whether a line begins behind characters, given whether one begins in front. -/
def startsLine (before : Bool) : List Char → Bool
  | [] => before
  | c :: rest => startsLine (isBreak c) rest

/-- **Characters lie between two places.** -/
structure Passed (c : Cursor) (chars : List Char) (c' : Cursor) : Prop where
  rest : c.rest = chars ++ c'.rest
  spoiled : c'.spoiled = c.spoiled
  offset : c'.offset = c.offset + byteCount chars
  line : c'.line = c.line + chars.countP isBreak
  column : (c'.column == 0) = startsLine (c.column == 0) chars

theorem startsLine_append (before : Bool) (chars chars' : List Char) :
    startsLine before (chars ++ chars') = startsLine (startsLine before chars) chars' := by
  induction chars generalizing before with
  | nil => rfl
  | cons c rest ih => exact ih (isBreak c)

/-- Behind characters without a break no line starts. -/
theorem startsLine_of_no_break {chars : List Char} (inside : ∀ c ∈ chars, isBreak c = false)
    (some : chars ≠ []) (before : Bool) : startsLine before chars = false := by
  induction chars generalizing before with
  | nil => exact absurd rfl some
  | cons c rest ih =>
    rw [startsLine, inside c List.mem_cons_self]
    cases rest with
    | nil => rfl
    | cons d rest => exact ih (fun c held => inside c (List.mem_cons_of_mem _ held)) (by simp) _

namespace Passed

variable {c c' c'' : Cursor} {chars chars' : List Char}

theorem refl (c : Cursor) : Passed c [] c :=
  ⟨rfl, rfl, rfl, rfl, rfl⟩

/-- What is passed in two steps is passed together. -/
theorem trans (first : Passed c chars c') (second : Passed c' chars' c'') :
    Passed c (chars ++ chars') c'' where
  rest := by rw [first.rest, second.rest, List.append_assoc]
  spoiled := second.spoiled.trans first.spoiled
  offset := by rw [second.offset, first.offset, byteCount_append, Nat.add_assoc]
  line := by rw [second.line, first.line, List.countP_append, Nat.add_assoc]
  column := by rw [second.column, first.column, startsLine_append]

theorem length (passed : Passed c chars c') : c.rest.length = chars.length + c'.rest.length := by
  rw [passed.rest, List.length_append]

end Passed

/-- Stepping along a line. -/
theorem passed_skip {c : Cursor} {chars rest : List Char} (starts : c.rest = chars ++ rest)
    (inside : ∀ char ∈ chars, isBreak char = false) : Passed c chars (c.skip chars.length) where
  rest := by simp [skip, starts]
  spoiled := rfl
  offset := by simp [skip, starts]
  line := by
    have none : chars.countP isBreak = 0 := by
      rw [List.countP_eq_zero]
      intro char held
      simp [inside char held]
    rw [none]
    rfl
  column := by
    cases chars with
    | nil => simp [skip, startsLine]
    | cons char chars =>
      rw [startsLine_of_no_break inside (by simp)]
      simp [skip]

/-- Stepping over a break that is no carriage return. -/
theorem passed_skipBreak {c : Cursor} {char : Char} {rest : List Char}
    (starts : c.rest = char :: rest) (breaks : isBreak char = true) (single : char ≠ '\r') :
    Passed c [char] c.skipBreak := by
  have stepped : c.skipBreak
      = { c with rest, offset := c.offset + char.utf8Size, line := c.line + 1, column := 0 } := by
    unfold skipBreak
    rw [starts]
    split
    next same => exact absurd (List.cons.inj same).1 single
    next same =>
      obtain ⟨rfl, rfl⟩ := List.cons.inj same
      rw [if_pos breaks]
    next same => cases same
  rw [stepped]
  exact
    { rest := starts
      spoiled := rfl
      offset := by simp [byteCount]
      line := by simp [breaks]
      column := by simp [startsLine, breaks] }

/-- A line that begins with another character is no mark between documents. -/
theorem atIndicator_of_ne {c : Cursor} {char mark : Char} {more : List Char}
    (starts : c.rest = char :: more) (other : char ≠ mark) : c.atIndicator mark = false := by
  have differs : (c.rest.take 3 == [mark, mark, mark]) = false := by
    rw [starts, beq_eq_false_iff_ne]
    intro same
    exact other (List.cons.inj same).1
  rw [atIndicator, differs, Bool.and_false, Bool.false_and]

end Cursor

end BreakCheck.Yaml
