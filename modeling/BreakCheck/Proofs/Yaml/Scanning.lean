/-
BreakCheck/Proofs/Yaml/Scanning.lean

Going through a text inside flow collections.

Inside brackets and braces indentation counts for nothing, so what the scanner does
there depends on little: how deep it is inside, which tokens it holds back, and whether
a key may begin.  `Place` is that much of a state.  For every kind of token that JSON has
there is one step from place to place.

`Leads s out s'` says that going on from `s` settles some tokens and then goes on from
`s'`.  `Breaks s` says that the end of the text is never reached.  Whether a run goes on
or breaks off hangs on the texts that are met; `Runs` has both outcomes, and runs are put
together by `Runs.andThen`.
-/
import BreakCheck.Proofs.Yaml.Plain
import BreakCheck.Proofs.Yaml.Quoted
import BreakCheck.Yaml.Token.Stream

namespace BreakCheck.Yaml.Scan

variable {size : Nat}

/-! ### Runs -/

/-- Going on from one state settles tokens and then goes on from another. -/
structure Leads (size : Nat) (s : Scan) (out : List Token) (s' : Scan) : Prop where
  noEnd : Token.streamEnd ∉ out
  goesOn : ∀ fuel, s.cursor.rest.length < fuel →
    ∃ fuel', s'.cursor.rest.length < fuel' ∧ tokens size fuel s = out ++ tokens size fuel' s'

/-- Going on from a state never comes to the end of the text. -/
def Breaks (size : Nat) (s : Scan) : Prop :=
  ∀ fuel, s.cursor.rest.length < fuel → Token.streamEnd ∉ tokens size fuel s

theorem Leads.refl (s : Scan) : Leads size s [] s :=
  ⟨List.not_mem_nil, fun fuel enough => ⟨fuel, enough, rfl⟩⟩

/-- Two runs of steps follow on each other, and so do their tokens. -/
theorem Leads.trans {s s' s'' : Scan} {out out' : List Token} (first : Leads size s out s')
    (second : Leads size s' out' s'') : Leads size s (out ++ out') s'' where
  noEnd := by simp [first.noEnd, second.noEnd]
  goesOn := by
    intro fuel enough
    obtain ⟨fuel', enough', same⟩ := first.goesOn fuel enough
    obtain ⟨fuel'', enough'', same'⟩ := second.goesOn fuel' enough'
    exact ⟨fuel'', enough'', by rw [same, same', List.append_assoc]⟩

/-- If a run leads to where the tokens break off, they break off where it began. -/
theorem Leads.breaks {s s' : Scan} {out : List Token} (first : Leads size s out s')
    (breaks : Breaks size s') : Breaks size s := by
  intro fuel enough
  obtain ⟨fuel', enough', same⟩ := first.goesOn fuel enough
  rw [same, List.mem_append]
  rintro (held | held)
  · exact first.noEnd held
  · exact breaks fuel' enough' held

/-- **A token is taken**: what is settled then comes out. -/
theorem Leads.of_advance {s t : Scan} (step : (s.advance size).bind dropStale = some t)
    (shorter : t.cursor.rest.length < s.cursor.rest.length) (clear : t.cursor.spoiled = false)
    (noEnd : Token.streamEnd ∉ t.queue) : Leads size s t.settle.1 t.settle.2 where
  noEnd held := noEnd (List.mem_of_mem_take held)
  goesOn := by
    intro fuel enough
    cases fuel with
    | zero => cases enough
    | succ fuel =>
      refine ⟨fuel, Nat.lt_of_lt_of_le shorter (Nat.le_of_lt_succ enough), ?_⟩
      have sees : t.cursor.sees 1 = true := by simp [Cursor.sees, clear]
      have notLast : t.queue.getLast? ≠ some .streamEnd := fun last =>
        noEnd (List.mem_of_getLast? last)
      rw [tokens, step]
      simp only [sees, notLast, Bool.not_true, Bool.false_eq_true, if_false]

/-- Nothing comes out where no token can be taken. -/
theorem Breaks.of_advance {s : Scan} (step : (s.advance size).bind dropStale = none) :
    Breaks size s := by
  intro fuel enough
  cases fuel with
  | zero => cases enough
  | succ fuel =>
    rw [tokens, step]
    exact List.not_mem_nil

/-- **A run that goes on or breaks off.**  Of the tokens it comes to, the last ones may
still be held back by the state it arrives at. -/
def Runs (size : Nat) (good : Bool) (s : Scan) (total : List Token)
    (arrives : List Token → Scan → Prop) : Prop :=
  match good with
  | true => ∃ s' out held, out ++ held = total ∧ Leads size s out s' ∧ arrives held s'
  | false => Breaks size s

theorem Runs.of_leads {s s' : Scan} {out : List Token} {arrives : List Token → Scan → Prop}
    (leads : Leads size s out s') (there : arrives [] s') : Runs size true s out arrives :=
  ⟨s', out, [], List.append_nil out, leads, there⟩

/-- Less can be said of where a run arrives. -/
theorem Runs.mono {good : Bool} {s : Scan} {total : List Token}
    {arrives arrives' : List Token → Scan → Prop} (first : Runs size good s total arrives)
    (weaker : ∀ held s', arrives held s' → arrives' held s') :
    Runs size good s total arrives' := by
  cases good with
  | false => exact first
  | true =>
    obtain ⟨s', out, held, same, leads, here⟩ := first
    exact ⟨s', out, held, same, leads, weaker held s' here⟩

/-- A run behind tokens that have been settled. -/
theorem Runs.after {good : Bool} {s s' : Scan} {out more : List Token}
    {arrives : List Token → Scan → Prop} (leads : Leads size s out s')
    (next : Runs size good s' more arrives) : Runs size good s (out ++ more) arrives := by
  cases good with
  | false => exact leads.breaks next
  | true =>
    obtain ⟨s'', out', held, rfl, leads', there⟩ := next
    exact ⟨s'', out ++ out', held, List.append_assoc _ _ _, leads.trans leads', there⟩

/-- **Runs one behind the other.** -/
theorem Runs.andThen {good good' : Bool} {s : Scan} {total more : List Token}
    {arrives arrives' : List Token → Scan → Prop} (first : Runs size good s total arrives)
    (next : ∀ held s', arrives held s' → Runs size good' s' (held ++ more) arrives') :
    Runs size (good && good') s (total ++ more) arrives' := by
  cases good with
  | false => exact first
  | true =>
    obtain ⟨s', out, held, rfl, leads, here⟩ := first
    rw [List.append_assoc]
    exact Runs.after leads (next held s' here)

/-- A step behind a run. -/
theorem Runs.andStep {good : Bool} {s : Scan} {total more : List Token}
    {arrives arrives' : List Token → Scan → Prop} (first : Runs size good s total arrives)
    (step : ∀ held s', arrives held s' →
      ∃ s'', Leads size s' (held ++ more) s'' ∧ arrives' [] s'') :
    Runs size good s (total ++ more) arrives' := by
  rw [← Bool.and_true good]
  apply first.andThen
  intro held s' here
  obtain ⟨s'', leads, there⟩ := step held s' here
  exact .of_leads leads there

/-! ### Places -/

/-- **A place inside flow collections**, in front of some text, blanks aside. -/
structure Place (size depth : Nat) (text : List Char) (held : List Token) (s : Scan) : Prop where
  around : s.around = List.replicate depth none
  outer : s.outer = []
  queue : s.queue = held
  going : Token.streamEnd ∉ held
  clear : s.cursor.spoiled = false
  room : s.cursor.rest.length < size
  /-- A candidate is the first token that is held back. -/
  soft : ∀ candidate, s.candidate = some candidate →
    candidate.required = false ∧ candidate.number = s.settled
  /-- Blanks in front of the text make no difference. -/
  faces : unblanked s.cursor.rest = unblanked text

/-- A place where an item or a key may begin. -/
structure Begins (size depth : Nat) (text : List Char) (held : List Token) (s : Scan) : Prop
    extends Place size depth text held s where
  noCandidate : s.candidate = none
  allowed : s.keyAllowed = true

/-- A place where no key may begin: behind a colon or behind the end of a collection. -/
structure Behind (size depth : Nat) (text : List Char) (held : List Token) (s : Scan) : Prop
    extends Place size depth text held s where
  noCandidate : s.candidate = none
  barred : s.keyAllowed = false

/-- Blanks can be left behind. -/
theorem Place.pass {depth : Nat} {blanks text : List Char} {held : List Token} {s : Scan}
    (blank : AreBlanks blanks) (here : Place size depth (blanks ++ text) held s) :
    Place size depth text held s :=
  { here with faces := here.faces.trans (unblanked_append blank text) }

/-! ### On to the next token -/

/-- A character that begins a token of JSON. -/
def IsSolid (c : Char) : Prop := c ∈ ['{', '}', '[', ']', ',', ':', '"', 't', 'f']

theorem unblanked_solid {char : Char} (solid : IsSolid char) (more : List Char) :
    unblanked (char :: more) = char :: more := by
  simp only [IsSolid, List.mem_cons, List.not_mem_nil, or_false] at solid
  rcases solid with rfl | rfl | rfl | rfl | rfl | rfl | rfl | rfl | rfl <;> rfl

/-- Whether the scanner stops in front of a text. -/
def Stops (text : List Char) : Prop :=
  ∀ (inFlow : Bool) (fuel : Nat) (keyAllowed : Bool) (c : Cursor), c.rest = text →
    skipToToken inFlow fuel keyAllowed c = (keyAllowed, c)

theorem stops_solid {char : Char} (solid : IsSolid char) (more : List Char) :
    Stops (char :: more) := by
  intro inFlow fuel keyAllowed c starts
  cases fuel with
  | zero => rfl
  | succ fuel =>
    have next : c.next? = some char := by rw [Cursor.next?, starts]; rfl
    rw [skipToToken, next]
    simp only [IsSolid, List.mem_cons, List.not_mem_nil, or_false] at solid
    rcases solid with rfl | rfl | rfl | rfl | rfl | rfl | rfl | rfl | rfl <;> rfl

theorem stops_nil : Stops [] := by
  intro inFlow fuel keyAllowed c ends
  cases fuel with
  | zero => rfl
  | succ fuel =>
    have next : c.next? = none := by rw [Cursor.next?, ends]; rfl
    rw [skipToToken, next]

/-- **Over blanks**: a new line makes room for a key, but not in a flow collection. -/
theorem skipToToken_blanks {blanks text : List Char} (blank : AreBlanks blanks)
    (stops : Stops text) {c : Cursor} (starts : c.rest = blanks ++ text) {fuel : Nat}
    (enough : blanks.length < fuel) (inFlow keyAllowed : Bool) :
    ∃ keyAllowed' c', Cursor.Passed c blanks c' ∧ c'.rest = text ∧ (blanks = [] → c' = c)
      ∧ (inFlow = true → keyAllowed' = keyAllowed)
      ∧ skipToToken inFlow fuel keyAllowed c = (keyAllowed', c') := by
  induction blanks generalizing c fuel keyAllowed with
  | nil =>
    exact ⟨keyAllowed, c, .refl c, starts, fun _ => rfl, fun _ => rfl,
      stops inFlow fuel keyAllowed c starts⟩
  | cons b blanks ih =>
    have others : AreBlanks blanks := fun c held => blank c (List.mem_cons_of_mem _ held)
    have next : c.next? = some b := by rw [Cursor.next?, starts]; rfl
    cases fuel with
    | zero => cases enough
    | succ fuel =>
      have fewer : blanks.length < fuel := Nat.lt_of_succ_lt_succ enough
      rcases blank b List.mem_cons_self with rfl | rfl
      · have step : Cursor.Passed c [' '] (c.skip 1) :=
          Cursor.passed_skip starts (by simp [isBreak])
        have behind := List.append_cancel_left (step.rest.symm.trans starts)
        obtain ⟨keyAllowed', c', passed, starts', -, same, skipped⟩ :=
          ih others behind fewer keyAllowed
        refine ⟨keyAllowed', c', step.trans passed, starts', by simp, same, ?_⟩
        rw [← skipped, skipToToken, next]
        rfl
      · have step := Cursor.passed_skipBreak starts rfl (by decide)
        have behind := List.append_cancel_left (step.rest.symm.trans starts)
        obtain ⟨keyAllowed', c', passed, starts', -, same, skipped⟩ :=
          ih others behind fewer (keyAllowed || !inFlow)
        refine ⟨keyAllowed', c', step.trans passed, starts', by simp, ?_, ?_⟩
        · rintro rfl
          rw [same rfl, Bool.not_true, Bool.or_false]
        · rw [← skipped, skipToToken, next]
          cases keyAllowed <;> rfl

/-- Candidates that may be given up are given up when they are too far away. -/
theorem dropStale_eq {s : Scan} {depth : Nat} (around : s.around = List.replicate depth none)
    (soft : ∀ candidate, s.candidate = some candidate → candidate.required = false) :
    s.dropStale
      = some { s with candidate := s.candidate.filter fun candidate => !s.isStale candidate } := by
  have harmless : ((s.candidate :: s.around).any fun slot =>
      slot.any fun candidate => s.isStale candidate && candidate.required) = false := by
    rw [around, List.any_eq_false]
    intro slot held
    rcases List.mem_cons.1 held with rfl | held
    · cases found : s.candidate with
      | none => simp
      | some candidate => simp [soft candidate found]
    · rw [List.eq_of_mem_replicate held]
      simp
  rw [dropStale, harmless]
  simp [around]

theorem inFlow_of_around {s : Scan} {depth : Nat}
    (around : s.around = List.replicate (depth + 1) none) : s.inFlow = true := by
  rw [inFlow, around]
  rfl

/-- The next token is taken by its first character. -/
theorem advance_eq {s : Scan} {depth : Nat} {char : Char} {c : Cursor}
    (around : s.around = List.replicate (depth + 1) none)
    (soft : ∀ candidate, s.candidate = some candidate → candidate.required = false)
    (skipped : skipToToken true (size + 1) s.keyAllowed s.cursor = (s.keyAllowed, c))
    (clear : c.spoiled = false) (next : c.next? = some char) :
    s.advance size = takeToken size
      { s with
        cursor := c
        candidate := s.candidate.filter fun candidate =>
          !isStale { s with cursor := c } candidate } char := by
  have dropped := dropStale_eq (s := { s with cursor := c }) around soft
  have inside : inFlow { s with
      cursor := c
      candidate := s.candidate.filter fun candidate =>
        !isStale { s with cursor := c } candidate } = true := inFlow_of_around around
  have sees : c.sees 4 = true := by simp [Cursor.sees, clear]
  rw [advance, inFlow_of_around around, skipped]
  simp only [Option.bind_eq_bind]
  rw [dropped, Option.bind_some, unroll, if_pos inside]
  simp only [sees, next, Bool.not_true, Bool.false_eq_true, if_false]

end BreakCheck.Yaml.Scan
