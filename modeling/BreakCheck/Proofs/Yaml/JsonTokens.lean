/-
BreakCheck/Proofs/Yaml/JsonTokens.lean

The tokens of a JSON text that is read as YAML.

Files hold texts, flags, lists of texts, and maps from texts to such values.  Their
JSON is a YAML text of the same shape: `flowTokens` are its tokens, with every text as
it comes back.  The text breaks off if one of its texts cannot be read
(`Data.isQuotable`).

The scanner is followed along the layout, value by value (`runs_value`); which place it
is in between two values is all that has to be carried on.
-/
import BreakCheck.Proofs.Json.Layout
import BreakCheck.Proofs.Yaml.FlowSteps

namespace BreakCheck

namespace Data

open Yaml Yaml.Scan

/-! ### Flat data -/

mutual

/-- Whether data consists of texts, flags, lists of texts, and maps from texts. -/
def isFlat : Data → Bool
  | text _ => true
  | flag _ => true
  | list items => items.all isText
  | map _ entries => entriesFlat entries
  | null => false

/-- Whether all keys are texts and all values are flat. -/
def entriesFlat : List (Data × Data) → Bool
  | [] => true
  | (key, value) :: rest => key.isText && value.isFlat && entriesFlat rest

end

mutual

/-- Whether all texts can be read between quotes. -/
def isQuotable : Data → Bool
  | text value => (requote? value).isSome
  | list items => itemsQuotable items
  | map _ entries => entriesQuotable entries
  | _ => true

/-- Whether all texts of the items of a list can be read. -/
def itemsQuotable : List Data → Bool
  | [] => true
  | item :: rest => item.isQuotable && itemsQuotable rest

/-- Whether all texts of the entries of a map can be read. -/
def entriesQuotable : List (Data × Data) → Bool
  | [] => true
  | (key, value) :: rest => key.isQuotable && value.isQuotable && entriesQuotable rest

end

/-- The tokens of a name. -/
def nameTokens : Data → List Token
  | text name => keyTokens name
  | _ => []

mutual

/-- The tokens of flat data as JSON. -/
def flowTokens : Data → List Token
  | text value => [textToken value]
  | flag value => [.scalar .plain (flagText value)]
  | list [] => [.flowSequenceStart, .flowSequenceEnd]
  | list (item :: rest) =>
    .flowSequenceStart :: (flowTokens item ++ itemTokens rest ++ [.flowSequenceEnd])
  | map _ [] => [.flowMappingStart, .flowMappingEnd]
  | map _ ((key, value) :: rest) =>
    .flowMappingStart :: (nameTokens key ++ flowTokens value ++ entryTokens rest
      ++ [.flowMappingEnd])
  | null => []

/-- The tokens of the items of a list after the first one. -/
def itemTokens : List Data → List Token
  | [] => []
  | item :: rest => .flowEntry :: (flowTokens item ++ itemTokens rest)

/-- The tokens of the entries of a map after the first one. -/
def entryTokens : List (Data × Data) → List Token
  | [] => []
  | (key, value) :: rest =>
    .flowEntry :: (nameTokens key ++ flowTokens value ++ entryTokens rest)

end

end Data

namespace Yaml.Scan

open Json (Style layout itemsLayout entriesLayout nameChars)

variable {size depth : Nat} {held : List Token} {s : Scan}

/-! ### Following the layout -/

theorem areBlanks_line (level : Nat) : AreBlanks (Style.pretty.line level) := by
  intro c held
  rcases List.mem_cons.1 held with rfl | held
  · exact .inr rfl
  · exact .inl (List.eq_of_mem_replicate held)

theorem EndsValue.pass {text : List Char} (ends : EndsValue text) {blanks : List Char}
    (blank : AreBlanks blanks) : EndsValue (blanks ++ text) := by
  obtain ⟨char, more, left, sign⟩ := ends
  exact ⟨char, more, by rw [unblanked_append blank, left], sign⟩

/-- Behind a member there is a comma or the end of the map. -/
theorem endsValue_entries (entries : List (Data × Data)) (level : Nat) {blanks : List Char}
    (blank : AreBlanks blanks) (more : List Char) :
    EndsValue (entriesLayout .pretty entries level ++ (blanks ++ '}' :: more)) := by
  cases entries with
  | nil =>
    show EndsValue (blanks ++ '}' :: more)
    exact EndsValue.pass ⟨'}', more, rfl, rfl⟩ blank
  | cons entry rest => exact ⟨',', _, rfl, rfl⟩

theorem Begins.pass {blanks text : List Char} (blank : AreBlanks blanks)
    (here : Begins size depth (blanks ++ text) held s) : Begins size depth text held s :=
  { here with toPlace := here.toPlace.pass blank }

theorem Behind.pass {blanks text : List Char} (blank : AreBlanks blanks)
    (here : Behind size depth (blanks ++ text) held s) : Behind size depth text held s :=
  { here with toPlace := here.toPlace.pass blank }

/-- The items of a list after the first one. -/
theorem Place.items {items : List Data} (texts : items.all Data.isText = true) {level : Nat}
    {text : List Char}
    (here : Place size (depth + 1) (itemsLayout .pretty items level ++ text) held s) :
    Runs size (Data.itemsQuotable items) s (held ++ Data.itemTokens items)
      (Place size (depth + 1) text) := by
  induction items generalizing held s with
  | nil =>
    rw [Data.itemTokens, List.append_nil]
    exact ⟨s, [], held, rfl, .refl s, here⟩
  | cons item rest ih =>
    rw [List.all_cons, Bool.and_eq_true] at texts
    cases item with
    | text value =>
      simp only [itemsLayout, layout, List.cons_append, List.append_assoc] at here
      obtain ⟨s', leads, begins⟩ := here.comma
      have begins := begins.pass (areBlanks_line level)
      have run := Runs.after leads (begins.item.andThen fun held' s'' there => ih texts.2 there)
      simpa [Data.itemsQuotable, Data.isQuotable, Data.itemTokens, Data.flowTokens] using run
    | _ => simp [Data.isText] at texts

/-- A key and its value, if it is known how the value runs. -/
theorem Begins.member {key value : Data} (isText : key.isText = true) {level : Nat}
    {text : List Char}
    (run : ∀ held s, Behind size (depth + 1) (layout .pretty value level ++ text) held s →
      Runs size value.isQuotable s (held ++ value.flowTokens) (Place size (depth + 1) text))
    (here : Begins size (depth + 1)
      (nameChars key ++ (Style.pretty.colon ++ (layout .pretty value level ++ text))) held s) :
    Runs size (key.isQuotable && value.isQuotable) s
      (held ++ (key.nameTokens ++ value.flowTokens)) (Place size (depth + 1) text) := by
  cases key with
  | text name =>
    have space : AreBlanks [' '] := by simp [AreBlanks]
    rw [← List.append_assoc]
    apply (Begins.key here).andThen
    intro held s there
    exact run held s (there.pass space)
  | _ => simp [Data.isText] at isText

/-- A map from its first member on, if it is known how the members run. -/
theorem Begins.members {key value : Data} {rest : List (Data × Data)}
    (isText : key.isText = true) {level : Nat} {blanks text : List Char}
    (valueRuns : ∀ held s, Behind size (depth + 1) (layout .pretty value level
        ++ (entriesLayout .pretty rest level ++ (blanks ++ '}' :: text))) held s →
      Runs size value.isQuotable s (held ++ value.flowTokens)
        (Place size (depth + 1) (entriesLayout .pretty rest level ++ (blanks ++ '}' :: text))))
    (restRuns : ∀ held s, Place size (depth + 1)
        (entriesLayout .pretty rest level ++ (blanks ++ '}' :: text)) held s →
      Runs size (Data.entriesQuotable rest) s (held ++ Data.entryTokens rest)
        (Place size (depth + 1) ('}' :: text)))
    (here : Begins size (depth + 1) (nameChars key ++ (Style.pretty.colon
      ++ (layout .pretty value level
        ++ (entriesLayout .pretty rest level ++ (blanks ++ '}' :: text))))) held s) :
    Runs size (Data.entriesQuotable ((key, value) :: rest)) s
      (held ++ (key.nameTokens ++ value.flowTokens) ++ Data.entryTokens rest ++ [.flowMappingEnd])
      (Behind size depth text) := by
  rw [Data.entriesQuotable]
  apply Runs.andStep
  · exact (here.member isText valueRuns).andThen restRuns
  · intro held s there
    exact there.close (.inr ⟨rfl, rfl⟩)

mutual

/-- **A value behind a colon**, whatever it is. -/
theorem Behind.value : ∀ (data : Data) (level : Nat) {depth : Nat} {text : List Char}
    {held : List Token} {s : Scan}, data.isFlat = true → EndsValue text →
      Behind size (depth + 1) (layout .pretty data level ++ text) held s →
        Runs size data.isQuotable s (held ++ data.flowTokens) (Place size (depth + 1) text)
  | .text value, level, depth, text, held, s, _, _, here => by
    rw [layout] at here
    exact here.text.mono fun held s there => there.toPlace
  | .flag value, level, depth, text, held, s, _, ends, here => by
    have same : layout .pretty (.flag value) level = (flagText value).toList := by
      cases value <;> rw [layout] <;> decide
    rw [same] at here
    obtain ⟨s', leads, there⟩ := here.flag ends
    exact .of_leads leads there
  | .list [], level, depth, text, held, s, _, _, here => by
    obtain ⟨s', leads, begins⟩ := here.openFlow (.inl ⟨rfl, rfl⟩)
    obtain ⟨s'', leads', there⟩ := begins.toPlace.close (.inl ⟨rfl, rfl⟩)
    have run := Runs.of_leads (leads.trans leads') there.toPlace
    simpa [Data.isQuotable, Data.itemsQuotable, Data.flowTokens] using run
  | .list (item :: rest), level, depth, text, held, s, flat, _, here => by
    rw [Data.isFlat, List.all_cons, Bool.and_eq_true] at flat
    cases item with
    | text value =>
      simp only [layout, List.cons_append, List.append_assoc, List.nil_append] at here
      obtain ⟨s', leads, begins⟩ := here.openFlow (.inl ⟨rfl, rfl⟩)
      have items := (begins.pass (areBlanks_line (level + 1))).item.andThen
        fun held s there => there.items flat.2
      have run := items.andStep fun held s there =>
        (there.pass (areBlanks_line level)).close (.inl ⟨rfl, rfl⟩)
      have run := (Runs.after leads run).mono fun held s there => there.toPlace
      simpa [Data.isQuotable, Data.itemsQuotable, Data.flowTokens] using run
    | _ => simp [Data.isText] at flat
  | .map _ [], level, depth, text, held, s, _, _, here => by
    obtain ⟨s', leads, begins⟩ := here.openFlow (.inr ⟨rfl, rfl⟩)
    obtain ⟨s'', leads', there⟩ := begins.toPlace.close (.inr ⟨rfl, rfl⟩)
    have run := Runs.of_leads (leads.trans leads') there.toPlace
    simpa [Data.isQuotable, Data.entriesQuotable, Data.flowTokens] using run
  | .map _ ((key, value) :: rest), level, depth, text, held, s, flat, _, here => by
    rw [Data.isFlat, Data.entriesFlat, Bool.and_eq_true, Bool.and_eq_true] at flat
    obtain ⟨⟨isText, value_flat⟩, rest_flat⟩ := flat
    simp only [layout, List.cons_append, List.append_assoc, List.nil_append] at here
    obtain ⟨s', leads, begins⟩ := here.openFlow (.inr ⟨rfl, rfl⟩)
    have members := (begins.pass (areBlanks_line (level + 1))).members isText
      (fun held s there => Behind.value value (level + 1) value_flat
        (endsValue_entries rest (level + 1) (areBlanks_line level) text) there)
      (fun held s there => Place.entries rest (level + 1) rest_flat (areBlanks_line level) there)
    have run := (Runs.after leads members).mono fun held s there => there.toPlace
    simpa [Data.isQuotable, Data.flowTokens] using run
  | .null, _, _, _, _, _, flat, _, _ => by simp [Data.isFlat] at flat

/-- The entries of a map after the first one. -/
theorem Place.entries : ∀ (entries : List (Data × Data)) (level : Nat) {depth : Nat}
    {blanks more : List Char} {held : List Token} {s : Scan}, Data.entriesFlat entries = true →
      AreBlanks blanks →
      Place size (depth + 1) (entriesLayout .pretty entries level ++ (blanks ++ '}' :: more))
        held s →
        Runs size (Data.entriesQuotable entries) s (held ++ Data.entryTokens entries)
          (Place size (depth + 1) ('}' :: more))
  | [], level, depth, blanks, more, held, s, _, blank, here => by
    rw [Data.entryTokens, List.append_nil]
    exact ⟨s, [], held, rfl, .refl s, here.pass blank⟩
  | (key, value) :: rest, level, depth, blanks, more, held, s, flat, blank, here => by
    rw [Data.entriesFlat, Bool.and_eq_true, Bool.and_eq_true] at flat
    obtain ⟨⟨isText, value_flat⟩, rest_flat⟩ := flat
    simp only [entriesLayout, List.cons_append, List.append_assoc] at here
    obtain ⟨s', leads, begins⟩ := here.comma
    have first := (begins.pass (areBlanks_line level)).member isText fun held s there =>
      Behind.value value level value_flat (endsValue_entries rest level blank more) there
    have run := Runs.after leads (first.andThen fun held s there =>
      Place.entries rest level rest_flat blank there)
    simpa [Data.entriesQuotable, Data.entryTokens] using run

end

/-! ### The whole text -/

/-- No block collection is closed where none is open. -/
theorem unroll_of_outer (outer : s.outer = []) (column : Int) : s.unroll column = s := by
  unfold unroll
  rw [outer]
  split <;> rfl

theorem dropStale_of_none (around : s.around = List.replicate depth none)
    (noCandidate : s.candidate = none) : s.dropStale = some s := by
  rw [dropStale_eq around (by simp [noCandidate]), noCandidate, Option.filter_none, ← noCandidate]

theorem dropCandidate_of_none (noCandidate : s.candidate = none) : s.dropCandidate = some s := by
  rw [dropCandidate_of_soft (by simp [noCandidate]), ← noCandidate]

/-- What is taken at the end of the text. -/
theorem takeEnd_eq (outer : s.outer = []) (noCandidate : s.candidate = none) :
    ∃ c, c.spoiled = s.cursor.spoiled ∧ s.takeEnd
      = some { s with cursor := c, queue := s.queue ++ [.streamEnd], keyAllowed := false } := by
  let t : Scan := { s with
    cursor := { s.cursor with
      line := if s.cursor.column = 0 then s.cursor.line else s.cursor.line + 1, column := 0 } }
  have outer : t.outer = [] := outer
  have unrolled : t.unroll (-1) = t := unroll_of_outer outer (-1)
  have dropped : t.dropCandidate = some t := dropCandidate_of_none noCandidate
  refine ⟨t.cursor, rfl, ?_⟩
  show ((t.unroll (-1)).dropCandidate.bind fun s =>
    some ({ s with keyAllowed := false }.push .streamEnd)) = _
  rw [unrolled, dropped]
  rfl

/-- **The end of the text.** -/
theorem Behind.finish (here : Behind size 0 ['\n'] held s) {fuel : Nat}
    (enough : s.cursor.rest.length < fuel) : tokens size fuel s = held ++ [.streamEnd] := by
  obtain ⟨blanks, blank, starts⟩ := exists_blanks s.cursor.rest
  rw [here.faces, show unblanked ['\n'] = [] from rfl] at starts
  have room : blanks.length < size + 1 := by
    have room := here.room
    rw [starts, List.length_append] at room
    omega
  obtain ⟨keyAllowed, c, passed, ends, -, -, skipped⟩ :=
    skipToToken_blanks blank stops_nil starts room s.inFlow s.keyAllowed
  -- the state in front of the end
  let t : Scan := { s with keyAllowed, cursor := c }
  have clear : t.cursor.spoiled = false := passed.spoiled.trans here.clear
  have outer : t.outer = [] := here.outer
  have noCandidate : t.candidate = none := here.noCandidate
  have dropped : t.dropStale = some t := dropStale_of_none here.around noCandidate
  have unrolled : t.unroll t.cursor.column = t := unroll_of_outer outer _
  have sees : t.cursor.sees 4 = true := by simp [Cursor.sees, clear]
  have next : t.cursor.next? = none := by rw [Cursor.next?, ends]; rfl
  have step : s.advance size = t.takeEnd := by
    rw [advance, skipped]
    show (t.dropStale.bind fun s => _) = _
    rw [dropped]
    show (if !(t.unroll t.cursor.column).cursor.sees 4 then _ else _) = _
    rw [unrolled, sees, next]
    rfl
  obtain ⟨c', spoiled, taken⟩ := takeEnd_eq outer noCandidate
  -- the state behind the end
  let t' : Scan := { t with cursor := c', queue := held ++ [.streamEnd], keyAllowed := false }
  have taken : t.takeEnd = some t' := by
    rw [taken, show t.queue = held from here.queue]
  have dropped' : t'.dropStale = some t' := dropStale_of_none here.around noCandidate
  have settled := settle_of_none (s := t') here.around noCandidate
  have sees' : t'.cursor.sees 1 = true := by simp [t', Cursor.sees, spoiled, clear]
  cases fuel with
  | zero => cases enough
  | succ fuel =>
    rw [tokens, step, taken, Option.bind_some, dropped']
    simp only [sees', settled]
    simp [t']

/-- The state at the beginning of a text. -/
def atStart (chars : List Char) : Scan := { cursor := { rest := chars } }

/-- The state behind the brace that begins a text; the brace could begin a key. -/
def behindBrace (chars : List Char) : Scan where
  cursor := { rest := chars, offset := 1, column := 1 }
  around := [some ⟨0, 0, 0, 0, false⟩]
  queue := [.flowMappingStart]

theorem leads_behindBrace (chars : List Char) :
    Leads size (atStart ('{' :: chars)) [] (behindBrace chars) := by
  have step : (advance size (atStart ('{' :: chars))).bind dropStale
      = some (behindBrace chars) := by
    rfl
  have settled : (behindBrace chars).settle = ([], behindBrace chars) := rfl
  have leads := Leads.of_advance step (Nat.lt_succ_self _) rfl (by simp [behindBrace])
  rw [settled] at leads
  exact leads

theorem Leads.of_advance_eq {s s' : Scan} (same : s.advance size = s'.advance size)
    (cursor : s'.cursor = s.cursor) : Leads size s [] s' where
  noEnd := List.not_mem_nil
  goesOn fuel enough := by
    refine ⟨fuel, by rw [cursor]; exact enough, ?_⟩
    cases fuel with
    | zero => rfl
    | succ fuel => rw [tokens, same, List.nil_append, tokens]

/-- **On the next line the brace cannot begin a key any more.** -/
theorem begins_behindBrace {chars text : List Char} {level : Nat} (stops : Stops text)
    (starts : chars = Style.pretty.line level ++ text) (room : chars.length < size) :
    ∃ s', Leads size (behindBrace chars) [] s' ∧ Begins size 1 text [.flowMappingStart] s' := by
  let s : Scan := { behindBrace chars with around := [none] }
  have enough : (Style.pretty.line level).length < size + 1 := by
    rw [starts, List.length_append] at room
    omega
  obtain ⟨keyAllowed, c, passed, -, -, allowed, skipped⟩ :=
    skipToToken_blanks (c := (behindBrace chars).cursor) (areBlanks_line level) stops starts enough
      true true
  obtain rfl := allowed rfl
  have later : c.line ≠ 0 := by
    rw [passed.line]
    simp [behindBrace, Style.line, isBreak]
  have dropped : dropStale { behindBrace chars with cursor := c }
      = dropStale { s with cursor := c } := by
    simp [dropStale, s, behindBrace, isStale, later]
  have same : (behindBrace chars).advance size = s.advance size := by
    have here : skipToToken (behindBrace chars).inFlow (size + 1) (behindBrace chars).keyAllowed
        (behindBrace chars).cursor = (true, c) := skipped
    have there : skipToToken s.inFlow (size + 1) s.keyAllowed s.cursor = (true, c) := skipped
    rw [advance, advance, here, there]
    exact congrArg (Option.bind · _) dropped
  refine ⟨s, .of_advance_eq same rfl, ?_⟩
  exact
    { around := rfl
      outer := rfl
      queue := rfl
      going := by simp
      clear := rfl
      room := room
      soft := fun _ found => absurd found (by simp [s, behindBrace])
      faces := by
        show unblanked chars = _
        rw [starts, unblanked_append (areBlanks_line level)]
      noCandidate := rfl
      allowed := rfl }

/-- A file, from its beginning up to the line feed at its end. -/
theorem runs_layout {announced : Nat} {key value : Data} {rest : List (Data × Data)}
    (flat : (Data.map announced ((key, value) :: rest)).isFlat = true) {chars : List Char}
    (written : chars = layout .pretty (.map announced ((key, value) :: rest)) 0 ++ ['\n'])
    (room : chars.length < size) :
    Runs size (Data.map announced ((key, value) :: rest)).isQuotable (atStart chars)
      (Data.map announced ((key, value) :: rest)).flowTokens (Behind size 0 ['\n']) := by
  rw [Data.isFlat, Data.entriesFlat, Bool.and_eq_true, Bool.and_eq_true] at flat
  obtain ⟨⟨isText, value_flat⟩, rest_flat⟩ := flat
  simp only [layout, List.cons_append, List.append_assoc, List.nil_append] at written
  have stops (more : List Char) : Stops (nameChars key ++ more) := by
    cases key with
    | text name => exact stops_solid (by unfold IsSolid; decide) _
    | _ => simp [Data.isText] at isText
  subst written
  obtain ⟨s, leads, begins⟩ := begins_behindBrace (stops _) rfl (Nat.lt_of_succ_lt room)
  have members := begins.members isText
    (fun held s there => Behind.value value 1 value_flat
      (endsValue_entries rest 1 (areBlanks_line 0) ['\n']) there)
    (fun held s there => Place.entries rest 1 rest_flat (areBlanks_line 0) there)
  have run := Runs.after ((leads_behindBrace _).trans leads) members
  simpa [Data.isQuotable, Data.flowTokens] using run

/-- **The tokens of a JSON text**, or none at its end if one of its texts cannot be read. -/
theorem ofSource_layout {announced : Nat} {key value : Data} {rest : List (Data × Data)}
    (flat : (Data.map announced ((key, value) :: rest)).isFlat = true) {chars : List Char}
    (written : chars = layout .pretty (.map announced ((key, value) :: rest)) 0 ++ ['\n']) :
    ((Data.map announced ((key, value) :: rest)).isQuotable = true →
        Token.ofSource ⟨chars, false⟩
          = (Data.map announced ((key, value) :: rest)).flowTokens ++ [.streamEnd])
      ∧ ((Data.map announced ((key, value) :: rest)).isQuotable = false →
        Token.streamEnd ∉ Token.ofSource ⟨chars, false⟩) := by
  have room : chars.length < chars.length + 1 := Nat.lt_succ_self _
  have enough : chars.length < chars.length + 1 + 1 := Nat.lt_succ_of_lt room
  have run := runs_layout flat written room
  show (_ → tokens (chars.length + 1) (chars.length + 1 + 1) (atStart chars) = _)
    ∧ (_ → Token.streamEnd ∉ tokens (chars.length + 1) (chars.length + 1 + 1) (atStart chars))
  cases quotable : (Data.map announced ((key, value) :: rest)).isQuotable with
  | false =>
    rw [quotable] at run
    exact ⟨(nomatch ·), fun _ => run _ enough⟩
  | true =>
    rw [quotable] at run
    obtain ⟨s, out, held, same, leads, there⟩ := run
    obtain ⟨fuel, enough', goesOn⟩ := leads.goesOn _ enough
    refine ⟨fun _ => ?_, (nomatch ·)⟩
    rw [goesOn, there.finish enough', ← List.append_assoc, same]

end Yaml.Scan

end BreakCheck
