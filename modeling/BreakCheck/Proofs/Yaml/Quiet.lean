/-
BreakCheck/Proofs/Yaml/Quiet.lean

Readers that issue no notices.

A step of reading can issue notices, whether it has a value in the end or fails: a value may
have to pass a check, and the check may have something to tell.  The questions themselves have
nothing to tell.  A step is quiet if its parts are, so every reader is that is made of texts,
flags, lists, keys, nodes and records alone, however far it gets (`quiet_read`).

The collections are gone through by induction on what they hold, and nodes by induction on the
levels that may be entered; nothing else recurs.
-/
import BreakCheck.Proofs.Attempt
import BreakCheck.Yaml.Reading

namespace BreakCheck

/-! ### Attempts -/

namespace Attempt

variable {ε ε' α β : Type}

/-- **A step issues no notice**, whatever comes of it. -/
def IsQuiet (step : Attempt ε α) : Prop := step.outcome.notices = []

theorem isQuiet_pure (a : α) : IsQuiet (pure a : Attempt ε α) := rfl

/-- A failure tells nothing by itself. -/
theorem isQuiet_throw (error : ε) : IsQuiet (throw error : Attempt ε α) := rfl

/-- The outcome of a quiet step is its value and no more. -/
theorem IsQuiet.outcome_eq {step : Attempt ε α} (quiet : step.IsQuiet) :
    step.outcome = ⟨step.outcome.value, []⟩ := congrArg (Logged.mk _) quiet

/-- Two steps are quiet if the first one is, and the second one whatever it starts from.  If the
first one fails, there is no second one. -/
theorem IsQuiet.bind {step : Attempt ε α} {next : α → Attempt ε β} (first : step.IsQuiet)
    (second : ∀ a, (next a).IsQuiet) : IsQuiet (step >>= next) := by
  have outcome := first.outcome_eq
  rw [IsQuiet]
  cases value : step.outcome.value with
  | ok a =>
    rw [value] at outcome
    rw [outcome_bind_ok outcome]
    exact second a
  | error error =>
    rw [value] at outcome
    rw [outcome_bind_error outcome]

/-- Another name for its failures does not make a step less quiet. -/
theorem IsQuiet.mapError {step : Attempt ε α} (quiet : step.IsQuiet) (f : ε → ε') :
    (step.mapError f).IsQuiet := by
  rw [IsQuiet, outcome_mapError]
  exact quiet

end Attempt

namespace Yaml

namespace Reader

variable {α β σ : Type}

/-! ### Steps of reading -/

/-- **A step of reading issues no notice**, however many references have been followed. -/
def Quiet (step : Effect α) : Prop := ∀ followed, (step.run followed).IsQuiet

theorem quiet_pure (a : α) : Quiet (pure a) := fun _ => rfl

theorem quiet_throw (error : Error) : Quiet (throw error : Effect α) := fun _ => rfl

/-- Steps of reading are quiet one after the other, with the references that the first one has
followed counted on. -/
theorem Quiet.bind {step : Effect α} {next : α → Effect β} (first : Quiet step)
    (second : ∀ a, Quiet (next a)) : Quiet (step >>= next) :=
  fun followed => (first followed).bind fun reached => second reached.1 reached.2

/-- What is made of a value is made quietly. -/
theorem Quiet.map {step : Effect α} (quiet : Quiet step) (f : α → β) : Quiet (f <$> step) := by
  rw [map_eq_pure_bind]
  exact quiet.bind fun a => quiet_pure (f a)

/-- A reader is quiet wherever it stands. -/
def IsQuiet (read : Reader α) : Prop := ∀ context tree, Quiet (read context tree)

theorem IsQuiet.map {read : Reader α} (quiet : read.IsQuiet) (f : α → β) :
    IsQuiet (f <$> read) := fun context tree => (quiet context tree).map f

/-! ### Single values -/

/-- Following a reference is quiet, be it that the reference leads somewhere or that too many
have been followed. -/
theorem quiet_follow (context : Context) (tree : Tree) : Quiet (follow context tree) := by
  cases tree with
  | reference number =>
    refine Quiet.bind (fun _ => rfl) fun followed => Quiet.bind (fun _ => rfl) fun _ => ?_
    split
    · exact quiet_throw _
    · exact quiet_pure _
  | _ => exact quiet_pure _

/-- A value that nobody asks for is stepped over quietly. -/
theorem quiet_pass (context : Context) (tree : Tree) : Quiet (pass context tree) := by
  unfold pass
  split
  · exact quiet_pure _
  · exact quiet_throw _

/-- Only scalars are texts, and everything else is refused without a notice. -/
theorem isQuiet_textAs (wanted : String) : (textAs wanted).IsQuiet := by
  intro context tree
  refine (quiet_follow context tree).bind fun tree => ?_
  cases tree with
  | scalar style tag text => exact quiet_pure text
  | _ => exact quiet_throw _

/-- A flag is read quietly, whichever scalar is taken for it. -/
theorem isQuiet_flag : flag.IsQuiet := by
  intro context tree
  refine (quiet_follow context tree).bind fun tree => ?_
  cases tree with
  | scalar style tag text =>
    dsimp only
    split
    · exact quiet_pure _
    · exact quiet_throw _
  | _ => exact quiet_throw _

/-! ### Collections -/

/-- Going into a collection is quiet, or it goes too deep. -/
theorem quiet_enter (context : Context) {go : Context → Effect α}
    (quiet : ∀ context, Quiet (go context)) : Quiet (enter context go) := by
  unfold enter
  split
  · exact quiet_throw _
  · exact quiet _

/-- Items are read quietly one by one, each by a quiet reader. -/
theorem quiet_items {read : Reader α} (quiet : read.IsQuiet) (context : Context) (index : Nat)
    (trees : List Tree) : Quiet (items read context index trees) := by
  induction trees generalizing index with
  | nil => exact quiet_pure []
  | cons item rest ih =>
    refine (quiet _ item).bind fun value => ?_
    exact (ih (index + 1)).bind fun others => quiet_pure _

/-- Something else than a collection is nothing, or it is refused. -/
theorem quiet_nothing (tree : Tree) (blank : α) (error : Error) :
    Quiet (if isNothing tree then pure blank else throw error) := by
  split
  · exact quiet_pure blank
  · exact quiet_throw error

/-- A list is quiet if the reader of its items is. -/
theorem IsQuiet.list {item : Reader α} (quiet : item.IsQuiet) : (list item).IsQuiet := by
  intro context tree
  refine (quiet_follow context tree).bind fun tree => ?_
  cases tree with
  | sequence tag trees => exact quiet_enter context fun context => quiet_items quiet context 0 trees
  | _ => exact quiet_nothing _ _ _

/-- Keys are read as texts, and their values are stepped over. -/
theorem quiet_keysOf (context : Context) (entries : List (Tree × Tree)) :
    Quiet (keysOf context entries) := by
  induction entries with
  | nil => exact quiet_pure []
  | cons entry rest ih =>
    obtain ⟨key, tree⟩ := entry
    refine (isQuiet_textAs _ context key).bind fun name => ?_
    refine (quiet_pass context tree).bind fun _ => ?_
    exact ih.bind fun others => quiet_pure _

/-- The keys of a mapping are read quietly. -/
theorem isQuiet_keys : keys.IsQuiet := by
  intro context tree
  refine (quiet_follow context tree).bind fun tree => ?_
  cases tree with
  | mapping tag entries => exact quiet_enter context fun context => quiet_keysOf context entries
  | _ => exact quiet_nothing _ _ _

/-- A value that may be missing is read as quietly as one that may not. -/
theorem IsQuiet.optional {read : Reader α} (quiet : read.IsQuiet) : (optional read).IsQuiet := by
  intro context tree
  refine (quiet_follow context tree).bind fun tree => ?_
  have value := (quiet context tree).map some
  cases tree with
  | scalar style tag text =>
    dsimp only
    split
    · exact quiet_pure none
    · exact value
    · exact quiet_throw _
  | void => exact quiet_pure none
  | cut => exact quiet_throw _
  | _ => exact value

/-! ### Nodes -/

/-- A scalar becomes a node quietly, or is refused for its tag. -/
theorem quiet_scalarNode (context : Context) (style : ScalarStyle) (tag : Option Tag)
    (text : String) : Quiet (scalarNode context style tag text) := by
  unfold scalarNode
  split
  · exact quiet_throw _
  · split
    · exact quiet_pure _
    · exact quiet_throw _

/-- The entries of a node are quiet if the reader of its values is. -/
theorem quiet_nodeEntries {read : Reader Node} (quiet : read.IsQuiet) (context : Context)
    (entries : List (Tree × Tree)) : Quiet (nodeEntries read context entries) := by
  induction entries with
  | nil => exact quiet_pure []
  | cons entry rest ih =>
    obtain ⟨key, tree⟩ := entry
    refine (isQuiet_textAs _ context key).bind fun name => ?_
    refine (quiet _ tree).bind fun value => ?_
    exact ih.bind fun others => quiet_pure _

/-- **Nodes are read quietly**, however many levels may be entered. -/
theorem isQuiet_nodeWithin (levels : Nat) : (nodeWithin levels).IsQuiet := by
  induction levels with
  | zero =>
    intro context tree
    refine (quiet_follow context tree).bind fun tree => ?_
    cases tree with
    | scalar style tag text => exact quiet_scalarNode context style tag text
    | void => exact quiet_pure _
    | _ => exact quiet_throw _
  | succ levels ih =>
    intro context tree
    refine (quiet_follow context tree).bind fun tree => ?_
    cases tree with
    | scalar style tag text => exact quiet_scalarNode context style tag text
    | void => exact quiet_pure _
    | sequence tag trees =>
      have scalars : IsQuiet fun c t => Node.scalar <$> textAs "a scalar" c t :=
        (isQuiet_textAs "a scalar").map Node.scalar
      exact (quiet_items scalars context 0 trees).map _
    | mapping tag entries => exact (quiet_nodeEntries ih context entries).map _
    | _ => exact quiet_throw _

theorem isQuiet_node : node.IsQuiet := fun context tree =>
  isQuiet_nodeWithin context.levels context tree

/-! ### Records -/

/-- All fields of a record are quiet. -/
def AreQuiet (fields : List (String × Reader (σ → σ))) : Prop :=
  ∀ field ∈ fields, field.2.IsQuiet

/-- The entries of a record are read quietly, those that are no fields of it and those that
stand twice among them. -/
theorem quiet_entries {fields : List (String × Reader (σ → σ))} (quiet : AreQuiet fields)
    (context : Context) (pairs : List (Tree × Tree)) (seen : List String) (value : σ) :
    Quiet (entries fields context pairs seen value) := by
  induction pairs generalizing seen value with
  | nil => exact quiet_pure value
  | cons entry rest ih =>
    obtain ⟨key, tree⟩ := entry
    refine (isQuiet_textAs _ context key).bind fun name => ?_
    split
    next read known =>
      split
      · exact quiet_throw _
      · obtain ⟨before, after, rfl, -⟩ := List.lookup_eq_some_iff.1 known
        have field : read.IsQuiet := quiet (name, read) (List.mem_append_right _ List.mem_cons_self)
        exact (field _ tree).bind fun update => ih _ _
    next => exact (quiet_pass context tree).bind fun _ => ih seen value

/-- **A record is quiet if its fields are.** -/
theorem AreQuiet.record {fields : List (String × Reader (σ → σ))} (quiet : AreQuiet fields)
    (name : String) (blank : σ) : (record name blank fields).IsQuiet := by
  intro context tree
  refine (quiet_follow context tree).bind fun tree => ?_
  cases tree with
  | mapping tag pairs =>
    exact quiet_enter context fun context => quiet_entries quiet context pairs [] blank
  | _ => exact quiet_nothing _ _ _

end Reader

/-! ### Texts -/

/-- **A quiet reader reads a text without any notice**, be it that it has a value, that the
text holds something else or that it breaks off. -/
theorem quiet_read {α : Type} {reader : Reader α} (quiet : reader.IsQuiet) (text : String) :
    (read reader text).IsQuiet := by
  refine (quiet _ _ 0).bind fun reached => ?_
  dsimp only
  split
  · exact Attempt.isQuiet_throw _
  · split
    · exact Attempt.isQuiet_throw _
    · exact Attempt.isQuiet_pure _

end Yaml

end BreakCheck
