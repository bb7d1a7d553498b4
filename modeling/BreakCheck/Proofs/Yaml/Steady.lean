/-
BreakCheck/Proofs/Yaml/Steady.lean

The texts that come back unchanged from between quotes.

A text is steady if nothing in it is folded: it has no next-line character, no space
stands beside a separator of lines or of paragraphs, and no mark between documents
stands behind such a separator.  That can be seen from the neighbours of each character
(`isSteadyAfter`).

That steady texts come back is a run through the text, gap by gap.  That no others do
rests on a count: no gap becomes longer in reading, so one gap cannot make up for what
another one loses (`requoted?_eq_iff`).
-/
import BreakCheck.Proofs.Yaml.Quoted

namespace BreakCheck.Yaml

/-! ### Steady texts -/

/-- Whether a text behind a character comes back unchanged. -/
def isSteadyAfter : Option Char → List Char → Bool
  | _, [] => true
  | before, c :: rest =>
    c != '\u0085'
      && !(before == some ' ' && isSeparator c)
      && !(before.any isSeparator && (c == ' ' || startsMark (c :: rest)))
      && isSteadyAfter (some c) rest

/-- Whether a text has no next-line character, no space beside a separator of lines or
paragraphs, and no mark between documents behind such a separator. -/
def isSteady (text : List Char) : Bool := isSteadyAfter none text

/-- Behind a break only the breaks of a gap count. -/
theorem foldl_add_crossed {run : List Char} (loose : ∀ c ∈ run, isLoose c = true) (gap : Gap)
    (crossed : gap.crossed = true) :
    run.foldl Gap.add gap
      = { gap with later := ((run.filter isBreak).map countedBreak).reverse ++ gap.later } := by
  induction run generalizing gap with
  | nil => rfl
  | cons c run ih =>
    have others : ∀ c ∈ run, isLoose c = true := fun c held => loose c (List.mem_cons_of_mem _ held)
    rcases loose_cases (loose c List.mem_cons_self) with rfl | breaks
    · have same : gap.add ' ' = gap := by simp [Gap.add, crossed]
      rw [List.foldl_cons, same, ih others gap crossed]
      rfl
    · have noSpace : (c == ' ') = false := by
        rw [beq_eq_false_iff_ne]
        rintro rfl
        cases breaks
      have added : gap.add c = { gap with later := countedBreak c :: gap.later } := by
        simp [Gap.add, crossed, noSpace]
      have others := ih others { gap with later := countedBreak c :: gap.later } crossed
      rw [List.foldl_cons, added, others]
      simp [breaks]

theorem foldl_add_spaces {run : List Char} (spaces : ∀ c ∈ run, c = ' ') (blanks : List Char) :
    run.foldl Gap.add { blanks } = { blanks := run.reverse ++ blanks } := by
  induction run generalizing blanks with
  | nil => rfl
  | cons c run ih =>
    rw [spaces c List.mem_cons_self]
    have added : Gap.add { blanks } ' ' = { blanks := ' ' :: blanks } := rfl
    rw [List.foldl_cons, added, ih fun c held => spaces c (List.mem_cons_of_mem _ held)]
    simp

/-- What a gap with a break counts as. -/
theorem chars_of_break {spaces run : List Char} {c : Char} (blank : ∀ c ∈ spaces, c = ' ')
    (breaks : isBreak c = true) (loose : ∀ c ∈ run, isLoose c = true) :
    ((spaces ++ c :: run).foldl Gap.add {}).chars
      = if isSeparator c then c :: (run.filter isBreak).map countedBreak
        else if (run.filter isBreak).isEmpty then [' ']
        else (run.filter isBreak).map countedBreak := by
  have noSpace : (c == ' ') = false := by
    rw [beq_eq_false_iff_ne]
    rintro rfl
    cases breaks
  have added : Gap.add { blanks := spaces.reverse ++ [] } c
      = { crossed := true, first := [countedBreak c] } := by
    simp [Gap.add, noSpace]
  rw [List.foldl_append, foldl_add_spaces blank, List.foldl_cons, added,
    foldl_add_crossed loose _ rfl]
  cases separator : isSeparator c with
  | true =>
    have noFeed : c ≠ '\n' := by rintro rfl; cases separator
    simp [Gap.chars, countedBreak, separator, noFeed]
  | false => simp [Gap.chars, countedBreak, separator]

theorem isSeparator_of_countedBreak {c : Char} (loose : isLoose c = true)
    (same : countedBreak c = c) : isSeparator c = true := by
  unfold countedBreak at same
  split at same
  next separator => exact separator
  next =>
    rw [← same] at loose
    cases loose

/-- Whether a gap is all spaces or all separators. -/
def Unmixed (run : List Char) : Prop :=
  (∀ c ∈ run, c = ' ') ∨ ∀ c ∈ run, isSeparator c = true

/-- A gap with a separator for its first break comes back if it has nothing else. -/
theorem counted_eq_iff {spaces rest : List Char} {c : Char} (blank : ∀ c ∈ spaces, c = ' ')
    (separator : isSeparator c = true) (loose : ∀ c ∈ rest, isLoose c = true) :
    c :: (rest.filter isBreak).map countedBreak = spaces ++ c :: rest
      ↔ ∀ d ∈ spaces ++ c :: rest, isSeparator d = true := by
  have shorter := List.length_filter_le isBreak rest
  constructor
  · intro same
    have lengths := congrArg List.length same
    simp only [List.length_cons, List.length_map, List.length_append] at lengths
    -- nothing was dropped, so there was nothing to drop
    have none : spaces = [] := List.length_eq_zero_iff.1 (by omega)
    subst none
    have all : rest.filter isBreak = rest :=
      List.filter_eq_self.2 (List.length_filter_eq_length_iff.1 (by omega))
    rw [all, List.nil_append, List.cons.injEq] at same
    intro d held
    rcases List.mem_cons.1 held with rfl | held
    · exact separator
    · refine isSeparator_of_countedBreak (loose d held) ?_
      exact List.map_inj_left.1 (same.2.trans (List.map_id rest).symm) d held
  · intro all
    have none : spaces = [] := by
      rw [List.eq_nil_iff_forall_not_mem]
      intro d held
      have := all d (List.mem_append_left _ held)
      rw [blank d held] at this
      cases this
    subst none
    have counted : ∀ d ∈ rest, countedBreak d = d := by
      intro d held
      rw [countedBreak, if_pos (all d (by simp [held]))]
    have kept : rest.filter isBreak = rest := by
      refine List.filter_eq_self.2 fun d held => ?_
      rcases loose_cases (loose d held) with rfl | breaks
      · cases all ' ' (by simp [held])
      · exact breaks
    rw [kept, List.map_congr_left counted, List.map_id']
    rfl

/-- **A gap comes back unchanged** if it is all spaces or all separators; no gap becomes
longer. -/
theorem chars_eq_iff {run : List Char} (loose : ∀ c ∈ run, isLoose c = true) :
    (run.foldl Gap.add {}).chars.length ≤ run.length
      ∧ ((run.foldl Gap.add {}).chars = run ↔ Unmixed run) := by
  obtain ⟨spaces, rest, rfl, blank, first⟩ := exists_front (· == ' ') run
  simp only [beq_iff_eq, beq_eq_false_iff_ne] at blank first
  cases rest with
  | nil =>
    rw [List.append_nil, foldl_add_spaces blank]
    have same : Gap.chars { blanks := spaces.reverse ++ [] } = spaces := by simp [Gap.chars]
    rw [same]
    exact ⟨Nat.le_refl _, iff_of_true rfl (.inl blank)⟩
  | cons c rest =>
    have noSpace : c ≠ ' ' := first c rfl
    have breaks : isBreak c = true := by
      rcases loose_cases (loose c (by simp)) with rfl | breaks
      · exact absurd rfl noSpace
      · exact breaks
    have rest_loose : ∀ c ∈ rest, isLoose c = true := fun c held => loose c (by simp [held])
    have shorter := List.length_filter_le isBreak rest
    have notSpaces : ¬ ∀ d ∈ spaces ++ c :: rest, d = ' ' := fun all => noSpace (all c (by simp))
    rw [chars_of_break blank breaks rest_loose, Unmixed, or_iff_right notSpaces]
    -- the first break decides whether anything of the gap is kept
    cases separator : isSeparator c with
    | true =>
      rw [if_pos rfl]
      exact ⟨by simp; omega, counted_eq_iff blank separator rest_loose⟩
    | false =>
      have notSeparators : ¬ ∀ d ∈ spaces ++ c :: rest, isSeparator d = true := by
        intro all
        rw [all c (by simp)] at separator
        cases separator
      rw [if_neg Bool.false_ne_true, iff_false_right notSeparators]
      split
      · refine ⟨by simp; omega, fun same => ?_⟩
        have lengths := congrArg List.length same
        simp only [List.length_cons, List.length_nil, List.length_append] at lengths
        have none : spaces = [] := List.length_eq_zero_iff.1 (by omega)
        rw [none, List.nil_append, List.cons.injEq] at same
        exact noSpace same.1.symm
      · refine ⟨by simp; omega, fun same => ?_⟩
        have lengths := congrArg List.length same
        simp only [List.length_cons, List.length_map, List.length_append] at lengths
        omega

theorem isSeparator_of_loose {c : Char} (loose : isLoose c = true) :
    c = ' ' ∨ c = '\u0085' ∨ isSeparator c = true := by
  simp only [isLoose, Bool.or_eq_true, beq_iff_eq] at loose
  simp only [isSeparator, Bool.or_eq_true, beq_iff_eq]
  rcases loose with ((same | same) | same) | same <;> simp [same]

/-- A gap stays unmixed if the character behind it is of the kind of the last one. -/
theorem unmixed_append_iff {run : List Char} {c : Char} (loose : isLoose c = true) :
    Unmixed (run ++ [c]) ↔ Unmixed run ∧ c ≠ '\u0085'
      ∧ ¬ (run.getLast? = some ' ' ∧ isSeparator c = true)
      ∧ ¬ (run.getLast?.any isSeparator = true ∧ c = ' ') := by
  have space_or : isSeparator ' ' = false := rfl
  constructor
  · rintro (all | all)
    · have last := all c (by simp)
      subst last
      refine ⟨.inl fun d held => all d (by simp [held]), by decide, by simp [space_or], ?_⟩
      rintro ⟨separator, -⟩
      cases last : run.getLast? with
      | none => rw [last] at separator; cases separator
      | some d =>
        rw [last, all d (by simp [List.mem_of_getLast? last])] at separator
        cases separator
    · have separator := all c (by simp)
      have noSpace : c ≠ ' ' := by rintro rfl; cases separator
      refine ⟨.inr fun d held => all d (by simp [held]), ?_, ?_, fun both => noSpace both.2⟩
      · rintro rfl
        cases separator
      · rintro ⟨last, -⟩
        cases all ' ' (by simp [List.mem_of_getLast? last])
  · rintro ⟨unmixed, noNextLine, noSeparator, noSpace⟩
    have kinds : c = ' ' ∨ isSeparator c = true := by
      rcases isSeparator_of_loose loose with same | same | same
      · exact .inl same
      · exact absurd same noNextLine
      · exact .inr same
    cases last : run.getLast? with
    | none =>
      rw [List.getLast?_eq_none_iff.1 last]
      rcases kinds with rfl | separator
      · exact .inl (by simp)
      · exact .inr (by simpa using separator)
    | some d =>
      have held := List.mem_of_getLast? last
      rw [last] at noSeparator noSpace
      rcases unmixed with all | all
      · rw [all d held] at noSeparator
        have same : c = ' ' := kinds.resolve_right fun separator => noSeparator ⟨rfl, separator⟩
        refine .inl fun e held => ?_
        rcases List.mem_append.1 held with held | held
        · exact all e held
        · rw [List.mem_singleton.1 held, same]
      · have separator := kinds.resolve_left fun same => noSpace ⟨all d held, same⟩
        refine .inr fun e held => ?_
        rcases List.mem_append.1 held with held | held
        · exact all e held
        · rw [List.mem_singleton.1 held, separator]

theorem isSteadyAfter_word {c : Char} (word : isLoose c = false) (rest : List Char) :
    isSteadyAfter (some c) rest = isSteadyAfter none rest := by
  have noSpace : (c == ' ') = false := by
    rw [beq_eq_false_iff_ne]
    rintro rfl
    cases word
  have noSeparator : isSeparator c = false := by
    simp only [isLoose, Bool.or_eq_false_iff] at word
    simp [isSeparator, word]
  cases rest with
  | nil => rfl
  | cons d rest => simp [isSteadyAfter, noSpace, noSeparator]

theorem loose_concat {run : List Char} (loose : ∀ c ∈ run, isLoose c = true) {c : Char}
    (here : isLoose c = true) : ∀ d ∈ run ++ [c], isLoose d = true := by
  intro d held
  rcases List.mem_append.1 held with held | held
  · exact loose d held
  · rw [List.mem_singleton.1 held, here]

/-- No text becomes longer. -/
theorem length_requoted? (text : List Char) (run : List Char)
    (loose : ∀ c ∈ run, isLoose c = true) {fresh : Bool} {read : List Char}
    (found : requoted? (run.foldl Gap.add {}) fresh text = some read) :
    read.length ≤ run.length + text.length := by
  induction text generalizing run fresh read with
  | nil =>
    cases found
    exact (chars_eq_iff loose).1
  | cons c text ih =>
    rw [requoted?] at found
    split at found
    next here =>
      have step := ih (run ++ [c]) (loose_concat loose here)
        (by rw [List.foldl_append]; exact found)
      rw [List.length_append, List.length_cons, List.length_nil] at step
      rw [List.length_cons]
      omega
    next =>
      split at found
      -- a mark between documents
      next => cases found
      -- a word, with the gap in front of it
      next =>
        rw [Option.map_eq_some_iff] at found
        obtain ⟨others, found, rfl⟩ := found
        have step := ih [] (by simp) found
        have gap := (chars_eq_iff loose).1
        rw [List.length_nil] at step
        rw [List.length_append, List.length_cons, List.length_cons]
        omega

theorem startsLine_eq (before : Bool) (chars : List Char) :
    Cursor.startsLine before chars = chars.getLast?.elim before isBreak := by
  induction chars generalizing before with
  | nil => rfl
  | cons c rest ih =>
    rw [Cursor.startsLine, ih]
    cases rest with
    | nil => rfl
    | cons d rest => simp [List.getLast?_cons]

theorem isBreak_of_isSeparator {c : Char} (separator : isSeparator c = true) :
    isBreak c = true := by
  simp only [isSeparator, Bool.or_eq_true, beq_iff_eq] at separator
  rcases separator with rfl | rfl <;> rfl

/-- In an unmixed gap a line begins exactly behind a separator. -/
theorem startsLine_of_unmixed {run : List Char} (unmixed : Unmixed run) :
    Cursor.startsLine false run = run.getLast?.any isSeparator := by
  rw [startsLine_eq]
  cases last : run.getLast? with
  | none => rfl
  | some c =>
    have held := List.mem_of_getLast? last
    rcases unmixed with all | all
    · rw [all c held]
      rfl
    · simp [all c held, isBreak_of_isSeparator (all c held)]

theorem startsMark_loose {c : Char} (loose : isLoose c = true) (rest : List Char) :
    startsMark (c :: rest) = false := by
  refine Bool.eq_false_iff.2 fun mark => ?_
  rw [startsMark, Bool.and_eq_true, Bool.or_eq_true, beq_iff_eq, beq_iff_eq] at mark
  rcases mark.1 with same | same <;> rw [List.take_succ_cons, List.cons.injEq] at same <;>
    rw [same.1] at loose <;> cases loose

/-- **A text comes back unchanged behind a gap** if the gap is unmixed and the text is
steady behind it.  Since nothing becomes longer, every word and every gap has to stay as
it is. -/
theorem requoted?_eq_iff (text : List Char) (run : List Char)
    (loose : ∀ c ∈ run, isLoose c = true) :
    requoted? (run.foldl Gap.add {}) (Cursor.startsLine false run) text = some (run ++ text)
      ↔ Unmixed run ∧ isSteadyAfter run.getLast? text = true := by
  induction text generalizing run with
  | nil => simp [requoted?, isSteadyAfter, (chars_eq_iff loose).2, Unmixed]
  | cons c text ih =>
    rw [requoted?]
    cases here : isLoose c with
    | true =>
      -- the gap grows by one character
      have step := ih (run ++ [c]) (loose_concat loose here)
      rw [List.foldl_append, Cursor.startsLine_append, List.append_assoc] at step
      rw [if_pos rfl]
      refine step.trans ?_
      rw [unmixed_append_iff here, List.getLast?_concat, isSteadyAfter, startsMark_loose here]
      simp only [Bool.or_false, Bool.and_eq_true, bne_iff_ne, Bool.not_eq_true',
        Bool.and_eq_false_iff, beq_eq_false_iff_ne, not_and_or, and_assoc, Bool.not_eq_true,
        ne_eq]
    | false =>
      -- the gap ends, and what matters of it is only whether a line begins behind it
      have noSpace : (c == ' ') = false := beq_eq_false_iff_ne.2 (by rintro rfl; cases here)
      have noNextLine : (c != '\u0085') = true := bne_iff_ne.2 (by rintro rfl; cases here)
      have noSeparator : isSeparator c = false := by
        refine Bool.eq_false_iff.2 fun separator => ?_
        simp only [isSeparator, Bool.or_eq_true, beq_iff_eq] at separator
        rcases separator with rfl | rfl <;> cases here
      have steady : isSteadyAfter run.getLast? (c :: text)
          = (!(run.getLast?.any isSeparator && startsMark (c :: text))
            && isSteadyAfter none text) := by
        simp [isSteadyAfter, noSpace, noNextLine, noSeparator, isSteadyAfter_word here]
      rw [if_neg Bool.false_ne_true, steady]
      cases mark : Cursor.startsLine false run && startsMark (c :: text) with
      | true =>
        rw [if_pos rfl]
        refine iff_of_false (by simp) ?_
        rintro ⟨unmixed, kept⟩
        rw [← startsLine_of_unmixed unmixed, mark] at kept
        cases kept
      | false =>
        rw [if_neg Bool.false_ne_true]
        constructor
        · intro same
          obtain ⟨others, found, same⟩ := Option.map_eq_some_iff.1 same
          -- neither the gap nor what is behind it can make up for the other
          have gap := chars_eq_iff loose
          have behind := length_requoted? text [] (by simp) found
          have lengths := congrArg List.length same
          rw [List.length_nil] at behind
          simp only [List.length_append, List.length_cons] at lengths
          obtain ⟨gap_same, rest_same⟩ := List.append_inj same (by omega)
          rw [(List.cons.inj rest_same).2] at found
          have unmixed := gap.2.1 gap_same
          refine ⟨unmixed, ?_⟩
          rw [← startsLine_of_unmixed unmixed, mark]
          exact ((ih [] (by simp)).1 found).2
        · rintro ⟨unmixed, kept⟩
          rw [Bool.and_eq_true] at kept
          have found := (ih [] (by simp)).2 ⟨.inl (by simp), kept.2⟩
          have same := (chars_eq_iff loose).2.2 unmixed
          rw [List.foldl_nil, List.nil_append] at found
          exact Option.map_eq_some_iff.2 ⟨text, found, by rw [same]⟩

/-- **A text comes back unchanged exactly if it is steady.** -/
theorem requoted?_eq_self_iff (text : List Char) :
    requoted? {} false text = some text ↔ isSteady text = true := by
  have same := requoted?_eq_iff text [] (by simp)
  rw [List.nil_append] at same
  exact same.trans (and_iff_right (.inl (by simp)))

end BreakCheck.Yaml
