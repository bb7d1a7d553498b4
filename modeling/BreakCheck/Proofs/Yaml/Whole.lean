/-
BreakCheck/Proofs/Yaml/Whole.lean

Texts that are whole: one document without any fault, and nothing behind it.

No reader accepts anything else, whatever it wants to know (`isWhole_of_read`).  A text is
whole only if its tokens come to an end: where there was no end, the functions of the grammar
leave none (`endless_lasts`).

Main result: a whole text has no unreadable characters and its tokens come to an end
(`readable_of_isWhole`).
-/
import BreakCheck.Proofs.Attempt
import BreakCheck.Proofs.Yaml.Lasting
import BreakCheck.Proofs.Yaml.Spoiled
import BreakCheck.Yaml.Reading

namespace BreakCheck.Yaml

namespace Progress

/-- Whether the end of the text is not among the tokens. -/
def Endless (p : Progress) : Prop := Token.streamEnd ∉ p.tokens

/-- **No end comes from nowhere**: tokens are only ever taken from the front. -/
theorem endless_lasts : Lasts Endless where
  step endless suffix _ := fun held => endless (suffix.subset held)
  name _ _ _ endless _ := endless

/-! ### Documents -/

theorem goesOn_of_endless {tokens : List Token} (endless : Token.streamEnd ∉ tokens) :
    goesOn tokens = true := by
  fun_induction goesOn tokens with
  | case1 rest ih => exact ih fun held => endless (List.mem_cons_of_mem _ held)
  | case2 => exact absurd List.mem_cons_self endless
  | case3 => rfl

theorem directives_suffix {tokens rest : List Token} {versioned : Bool}
    {handles handles' : List (String × Tag)}
    (taken : directives tokens versioned handles = some (rest, handles')) : rest <:+ tokens := by
  fun_induction directives tokens versioned handles with
  | case1 => cases taken
  | case2 _ _ _ _ _ _ ih => exact (ih taken).trans (List.suffix_cons _ _)
  | case3 => cases taken
  | case4 _ _ _ _ _ _ ih => exact (ih taken).trans (List.suffix_cons _ _)
  | case5 =>
    cases taken
    exact List.suffix_refl _

theorem begin?_suffix {tokens rest : List Token} {handles : List (String × Tag)} {marked : Bool}
    (begun : begin? tokens = some (rest, handles, marked)) : rest <:+ tokens := by
  unfold begin? at begun
  split at begun
  -- with directives, or only with a mark
  iterate 3
    · obtain ⟨⟨left, known⟩, taken, begun⟩ := Option.bind_eq_some_iff.1 begun
      dsimp only at begun
      split at begun
      · cases begun
        exact (List.suffix_cons _ _).trans (directives_suffix taken)
      · cases begun
  · cases begun
    exact List.suffix_refl _

end Progress

/-- **A document without any fault**, and with nothing behind it. -/
def Document.isWhole (document : Document) : Bool :=
  document.fault.isNone && !document.continues

open Progress in
/-- Tokens that do not come to an end are no whole document. -/
theorem not_isWhole_of_endless {tokens : List Token} (endless : Token.streamEnd ∉ tokens) :
    (firstDocument tokens).isWhole = false := by
  unfold firstDocument
  split
  · rfl
  · exact absurd List.mem_cons_self endless
  · split
    · rfl
    next rest handles marked begun =>
      have start : Endless { tokens := rest, handles } :=
        fun held => endless ((begin?_suffix begun).subset held)
      have done := endless_lasts.rootOf start marked
      generalize rootOf marked { tokens := rest, handles } = result at done
      obtain ⟨root, p⟩ := result
      have open_end : goesOn (if (!p.isOver && p.tokens.isEmpty) = true then p.fail else p).tokens
          = true := by
        split <;> exact goesOn_of_endless done
      dsimp only
      rw [Document.isWhole, open_end, Bool.not_true, Bool.and_false]

/-- Whether a text is one document without any fault. -/
def isWhole (text : String) : Bool := (Document.ofText text).isWhole

/-! ### What it takes to be whole -/

/-- **A whole text has no unreadable characters**, and its tokens come to an end. -/
theorem readable_of_isWhole {text : String} (whole : isWhole text = true) :
    text.toList.all isPrintable = true
      ∧ Token.streamEnd ∈ Token.ofSource ⟨text.toList, false⟩ := by
  have ends : Token.streamEnd ∈ Token.ofSource (Source.ofText text) := by
    refine Decidable.byContradiction fun endless => ?_
    rw [isWhole, Document.ofText, not_isWhole_of_endless endless] at whole
    cases whole
  cases printable : text.toList.all isPrintable with
  | false =>
    rw [Source.ofText, printable] at ends
    exact absurd ends (streamEnd_not_mem_of_spoiled rfl)
  | true =>
    rw [Source.ofText, printable] at ends
    exact ⟨rfl, ends⟩

/-! ### Reading -/

/-- What a step comes to, with the number of references that have been followed before it and
behind it. -/
def Reader.result {α : Type} (step : Effect α) (followed : Nat) : Except Error (α × Nat) :=
  (step.run followed).outcome.value

/-- **A text is read if it is whole**, and its root is. -/
theorem read_eq_ok_iff {α : Type} {reader : Reader α} {text : String} {value : α} :
    (read reader text).outcome.value = .ok value
      ↔ isWhole text = true ∧ ∃ followed,
        Reader.result (reader ⟨Document.ofText text, [], maxDepth⟩ (Document.ofText text).root) 0
          = .ok (value, followed) := by
  rw [isWhole, Document.isWhole, Bool.and_eq_true, Option.isNone_iff_eq_none, Bool.not_eq_true']
  constructor
  · intro given
    obtain ⟨⟨value', followed⟩, reached, given⟩ := Attempt.exists_of_bind_ok given
    dsimp only at given
    split at given
    · cases given
    next sound =>
      split at given
      · cases given
      next alone =>
        cases given
        exact ⟨⟨sound, Bool.eq_false_iff.2 alone⟩, followed, reached⟩
  · rintro ⟨⟨sound, alone⟩, followed, reached⟩
    rw [read, Document.decode, Attempt.value_bind]
    change Reader.result _ 0 >>= _ = _
    rw [reached, sound, alone]
    rfl

/-- **Nothing else than a whole text is read**, whatever is wanted of it. -/
theorem isWhole_of_read {α : Type} {reader : Reader α} {text : String} {value : α}
    (given : (read reader text).outcome.value = .ok value) : isWhole text = true :=
  (read_eq_ok_iff.1 given).1

end BreakCheck.Yaml
