/-
BreakCheck/Proofs/Yaml/Given.lean

What trees give to readers, right or wrong.

A reader goes along a tree with the way that led there, a count of references and its own
words for what is wrong.  If a tree refers to nothing and has all its parts, none of this
decides whether a value is read, or which: the tree alone gives the value, or none.  The
functions below say so for every kind of question (`text?`, `texts?`, `flag?`, `keys?`,
`node?`), and `Gives` says that a reader follows one of them: it makes the value that is
given, and if none is given it fails.

A record goes by a `Table` of its fields.  Its entries are taken one behind the other, and a
field that was taken before ends it (`Table.fill?`).

Main results: `gives_node` and `Describes.gives`.
-/
import BreakCheck.Proofs.Yaml.Unbroken
import Mathlib.Data.List.Forall2

namespace BreakCheck.Yaml

/-! ### Trees that refer to nothing -/

namespace Tree

mutual

/-- Whether a tree refers to nothing. -/
def isFree : Tree → Bool
  | scalar .. => true
  | sequence _ items => allFree items
  | mapping _ entries => allEntriesFree entries
  | reference _ => false
  | void => true
  | cut => true

/-- Whether all items refer to nothing. -/
def allFree : List Tree → Bool
  | [] => true
  | item :: rest => item.isFree && allFree rest

/-- Whether all keys and values refer to nothing. -/
def allEntriesFree : List (Tree × Tree) → Bool
  | [] => true
  | (key, value) :: rest => key.isFree && value.isFree && allEntriesFree rest

end

/-- A tree has all its parts and refers to nothing. -/
structure IsSound (tree : Tree) : Prop where
  whole : tree.isWhole = true
  free : tree.isFree = true

/-- What stands in a sound sequence is sound. -/
theorem IsSound.items {tag : Option Tag} {items : List Tree}
    (sound : (sequence tag items).IsSound) : ∀ item ∈ items, item.IsSound := by
  obtain ⟨whole, free⟩ := sound
  rw [isWhole] at whole
  rw [isFree] at free
  induction items with
  | nil => exact List.forall_mem_nil _
  | cons first rest ih =>
    rw [allWhole, Bool.and_eq_true] at whole
    rw [allFree, Bool.and_eq_true] at free
    exact List.forall_mem_cons.2 ⟨⟨whole.1, free.1⟩, ih whole.2 free.2⟩

/-- Keys and values of a sound mapping are sound. -/
theorem IsSound.entries {tag : Option Tag} {entries : List (Tree × Tree)}
    (sound : (mapping tag entries).IsSound) :
    ∀ entry ∈ entries, entry.1.IsSound ∧ entry.2.IsSound := by
  obtain ⟨whole, free⟩ := sound
  rw [isWhole] at whole
  rw [isFree] at free
  induction entries with
  | nil => exact List.forall_mem_nil _
  | cons first rest ih =>
    obtain ⟨key, value⟩ := first
    rw [allEntriesWhole, Bool.and_eq_true, Bool.and_eq_true] at whole
    rw [allEntriesFree, Bool.and_eq_true, Bool.and_eq_true] at free
    exact List.forall_mem_cons.2
      ⟨⟨⟨whole.1.1, free.1.1⟩, whole.1.2, free.1.2⟩, ih whole.2 free.2⟩

/-! ### What trees give -/

/-- The text of a scalar. -/
def text? : Tree → Option String
  | scalar _ _ text => some text
  | _ => none

/-- The boolean of a scalar. -/
def flag? : Tree → Option Bool
  | scalar style tag text => if Reader.mayBeFlag style tag then flagOf? text else none
  | _ => none

/-- The items of a sequence, each as `item` has it; nothing is a list without items. -/
def list? {α : Type} (item : Tree → Option α) : Tree → Option (List α)
  | sequence _ items => items.mapM item
  | tree => if Reader.isNothing tree then some [] else none

/-- A list of texts. -/
def texts? : Tree → Option (List String) := list? text?

/-- The entries of a mapping, with the texts of their keys. -/
def named? : List (Tree × Tree) → Option (List (String × Tree))
  | [] => some []
  | (key, tree) :: rest =>
    key.text?.bind fun name => (named? rest).map fun written => (name, tree) :: written

/-- The keys of a mapping, each a text. -/
def keys? : Tree → Option (List String)
  | mapping _ entries => (named? entries).map fun written => written.map Prod.fst
  | tree => if Reader.isNothing tree then some [] else none

/-- The entries of a tree that is a mapping whose keys are scalars. -/
def fields? : Tree → Option (List (String × Tree))
  | mapping _ entries => named? entries
  | _ => none

/-- A value, or that null is written; a tag for null on another scalar is wrong. -/
def optional? {α : Type} (value : Tree → Option α) : Tree → Option (Option α)
  | scalar style tag text =>
    match Reader.isAbsent style tag text with
    | .ok true => some none
    | .ok false => (value (scalar style tag text)).map some
    | .error _ => none
  | void => some none
  | tree => (value tree).map some

/-- Whether null is written. -/
def isNull : Tree → Bool
  | scalar style tag text =>
    match Reader.isAbsent style tag text with
    | .ok absent => absent
    | .error _ => false
  | void => true
  | _ => false

/-- Where null is written, nothing is given for the value. -/
theorem optional?_of_isNull {α : Type} {tree : Tree} (null : tree.isNull = true)
    (value : Tree → Option α) : optional? value tree = some none := by
  cases tree with
  | scalar style tag text =>
    rw [isNull] at null
    rw [optional?]
    split at null
    next same => rw [same, null]
    next => cases null
  | void => rfl
  | _ => cases null

/-- A mapping is no null, so its value is asked for. -/
theorem optional?_of_fields? {α : Type} {tree : Tree} {written : List (String × Tree)}
    (fields : tree.fields? = some written) (value : Tree → Option α) :
    optional? value tree = (value tree).map some := by
  cases tree with
  | mapping tag entries => rfl
  | _ => cases fields

/-- The keys of a tree with fields are the names of the fields. -/
theorem keys?_of_fields? {tree : Tree} {written : List (String × Tree)}
    (fields : tree.fields? = some written) : tree.keys? = some (written.map Prod.fst) := by
  cases tree with
  | mapping tag entries =>
    have named : named? entries = some written := fields
    rw [keys?, named]
    rfl
  | _ => cases fields

/-- What is given for a value that may be left out. -/
def held? {α : Type} (given : Tree → Option α) (blank : α) (found : Option Tree) : Option α :=
  found.elim (some blank) given

/-- The node of a scalar. -/
def scalarNode? (style : ScalarStyle) (tag : Option Tag) (text : String) : Option Node :=
  match meaning style tag text with
  | .ok meaning => Reader.nodeOf? meaning
  | .error _ => none

/-- Keys and values in turns; the values are had by `value`. -/
def turns? (value : Tree → Option Node) : List (Tree × Tree) → Option (List Node)
  | [] => some []
  | (key, tree) :: rest => do
    let name ← key.text?
    let node ← value tree
    let others ← turns? value rest
    some (.scalar name :: node :: others)

/-- A node of at most so many levels. -/
def node? : Nat → Tree → Option Node
  | _, scalar style tag text => scalarNode? style tag text
  | _, void => some .null
  | _ + 1, sequence _ items =>
    (items.mapM fun item : Tree => item.text?.map Node.scalar).map Node.sequence
  | levels + 1, mapping _ entries => (turns? (node? levels) entries).map (Node.mapping .plain)
  | _, _ => none

end Tree

/-! ### Steps that are settled -/

/-- **A step does what is given**: it has the value for its result, or it fails if there is
none. -/
def Settles {ε : Type} {m : Type → Type} [Monad m] [MonadExcept ε m] {α : Type} (step : m α) :
    Option α → Prop
  | some value => step = pure value
  | none => ∃ error : ε, step = throw error

theorem settles_pure {ε : Type} {m : Type → Type} [Monad m] [MonadExcept ε m] {α : Type}
    {value : α} {given : Option α} (same : given = some value) :
    Settles (pure value : m α) given := by
  rw [same]
  rfl

theorem settles_throw {ε : Type} {m : Type → Type} [Monad m] [MonadExcept ε m] {α : Type}
    {given : Option α} (none : given = none) (error : ε) : Settles (throw error : m α) given := by
  rw [none]
  exact ⟨error, rfl⟩

namespace Reader

variable {α β σ : Type}

/-- Behind a failure nothing is done. -/
theorem throw_bind (error : Error) (next : α → Effect β) :
    (throw error : Effect α) >>= next = throw error := rfl

/-- **Two steps do what is given for both**, one after the other. -/
theorem settles_bind {step : Effect α} {given : Option α} {next : α → Effect β}
    {given' : α → Option β} (first : Settles step given)
    (second : ∀ value, given = some value → Settles (next value) (given' value)) :
    Settles (step >>= next) (given >>= given') := by
  cases given with
  | none =>
    obtain ⟨error, failed⟩ := first
    exact ⟨error, by rw [failed, throw_bind]⟩
  | some value =>
    have done : step = pure value := first
    rw [done, pure_bind]
    exact second value rfl

/-- What is made of a value is made of what is given. -/
theorem settles_map {step : Effect α} {given : Option α} (settled : Settles step given)
    (f : α → β) : Settles (f <$> step) (given.map f) := by
  cases given with
  | none =>
    obtain ⟨error, failed⟩ := settled
    exact ⟨error, by rw [failed]; rfl⟩
  | some value =>
    have done : step = pure value := settled
    rw [done, map_pure]
    rfl

/-- **A reader makes what a tree gives**, if the tree is sound and so many levels may be
entered. -/
def Gives (levels : Nat) (read : Reader α) (given : Tree → Option α) : Prop :=
  ∀ (context : Context) (tree : Tree), context.levels = levels → tree.IsSound →
    Settles (read context tree) (given tree)

variable {levels : Nat} {read : Reader α} {given : Tree → Option α}

/-- A reader whose results are changed makes what the tree gives, changed in the same way. -/
theorem Gives.map (gives : Gives levels read given) (f : α → β) :
    Gives levels (f <$> read) (fun tree => (given tree).map f) :=
  fun context tree same sound => settles_map (gives context tree same sound) f

/-- In a sound tree there is nothing to follow. -/
theorem follow_sound {tree : Tree} (sound : tree.IsSound) (context : Context) :
    follow context tree = pure tree := by
  cases tree with
  | reference number => cases sound.free
  | _ => rfl

/-- A sound tree may always be stepped over. -/
theorem pass_sound {tree : Tree} (sound : tree.IsSound) (context : Context) :
    pass context tree = pure () := if_pos sound.whole

/-! ### Texts, flags and lists -/

/-- A text is what its scalar says. -/
theorem gives_textAs (levels : Nat) (wanted : String) :
    Gives levels (textAs wanted) Tree.text? := by
  intro context tree _ sound
  rw [textAs, follow_sound sound, pure_bind]
  cases tree with
  | scalar style tag text => rfl
  | _ => exact ⟨_, rfl⟩

/-- A flag is a scalar with one of the words for it, of a style and a tag that allow it. -/
theorem gives_flag (levels : Nat) : Gives levels flag Tree.flag? := by
  intro context tree _ sound
  rw [flag, follow_sound sound, pure_bind]
  cases tree with
  | scalar style tag text =>
    dsimp only
    split
    next value same => exact settles_pure same
    next same => exact settles_throw same _
  | _ => exact ⟨_, rfl⟩

/-- Items are read one by one, wherever the numbering of their places starts. -/
theorem settles_items (gives : Gives levels read given) {context : Context}
    (same : context.levels = levels) (index : Nat) {trees : List Tree}
    (sound : ∀ tree ∈ trees, tree.IsSound) :
    Settles (items read context index trees) (trees.mapM given) := by
  induction trees generalizing index with
  | nil => rfl
  | cons item rest ih =>
    rw [List.forall_mem_cons] at sound
    rw [items, List.mapM_cons]
    refine settles_bind (gives _ _ same sound.1) fun value _ => ?_
    exact settles_bind (ih (index + 1) sound.2) fun others _ => rfl

/-- Something else than a collection is nothing, or it is wrong. -/
theorem settles_nothing (tree : Tree) (blank : α) (error : Error) :
    Settles (if isNothing tree then pure blank else throw error : Effect α)
      (if isNothing tree then some blank else none) := by
  cases isNothing tree with
  | true => rfl
  | false => exact ⟨error, rfl⟩

/-- A list takes one level more than its items. -/
theorem Gives.list (gives : Gives levels read given) :
    Gives (levels + 1) (list read) (Tree.list? given) := by
  intro context tree same sound
  rw [Reader.list, follow_sound sound, pure_bind]
  obtain ⟨document, path, entered⟩ := context
  subst same
  cases tree with
  | sequence tag trees => exact settles_items gives rfl 0 sound.items
  | _ => exact settles_nothing _ _ _

theorem gives_texts (levels : Nat) :
    Gives (levels + 1) (Decoder.texts : Reader (List String)) Tree.texts? :=
  (gives_textAs levels "a string").list

/-! ### Keys and values that may be missing -/

/-- The keys of entries are their names, and nothing is asked of the values. -/
theorem settles_keysOf {context : Context} {entries : List (Tree × Tree)}
    (sound : ∀ entry ∈ entries, entry.1.IsSound ∧ entry.2.IsSound) :
    Settles (keysOf context entries)
      ((Tree.named? entries).map fun written => written.map Prod.fst) := by
  induction entries with
  | nil => rfl
  | cons entry rest ih =>
    obtain ⟨key, tree⟩ := entry
    rw [List.forall_mem_cons] at sound
    rw [keysOf, Tree.named?, Option.map_bind]
    refine settles_bind (gives_textAs context.levels _ _ _ rfl sound.1.1) fun name _ => ?_
    rw [pass_sound sound.1.2, pure_bind, Function.comp_apply, Option.map_map]
    have others := settles_map (ih sound.2) fun names => name :: names
    rw [Option.map_map, map_eq_pure_bind] at others
    exact others

/-- The keys of a mapping take one level, the one that the mapping itself is. -/
theorem gives_keys (levels : Nat) : Gives (levels + 1) keys Tree.keys? := by
  intro context tree same sound
  rw [keys, follow_sound sound, pure_bind]
  obtain ⟨document, path, entered⟩ := context
  subst same
  cases tree with
  | mapping tag entries => exact settles_keysOf sound.entries
  | _ => exact settles_nothing _ _ _

/-- A value that may be missing takes no level of its own. -/
theorem Gives.optional (gives : Gives levels read given) :
    Gives levels (optional read) (Tree.optional? given) := by
  intro context tree same sound
  have value := gives context tree same sound
  rw [Reader.optional, follow_sound sound, pure_bind]
  cases tree with
  | scalar style tag text =>
    dsimp only
    rw [Tree.optional?]
    generalize isAbsent style tag text = absent
    match absent with
    | .ok true => rfl
    | .ok false => exact settles_map value some
    | .error complaint => exact ⟨_, rfl⟩
  | void => rfl
  | cut => cases sound.whole
  | reference number => cases sound.free
  | sequence tag items => exact settles_map value some
  | mapping tag entries => exact settles_map value some

/-! ### Nodes -/

/-- The node of a scalar is what the scalar means, or there is none. -/
theorem settles_scalarNode (context : Context) (style : ScalarStyle) (tag : Option Tag)
    (text : String) :
    Settles (scalarNode context style tag text) (Tree.scalarNode? style tag text) := by
  rw [scalarNode, Tree.scalarNode?]
  cases meaning style tag text with
  | error complaint => exact ⟨_, rfl⟩
  | ok meaning =>
    dsimp only
    split
    next node same => exact settles_pure same
    next same => exact settles_throw same _

/-- Keys and values are read in turns, the keys as texts. -/
theorem settles_nodeEntries {read : Reader Node} {given : Tree → Option Node}
    (gives : ∀ context tree, tree.IsSound → Settles (read context tree) (given tree))
    {context : Context} {entries : List (Tree × Tree)}
    (sound : ∀ entry ∈ entries, entry.1.IsSound ∧ entry.2.IsSound) :
    Settles (nodeEntries read context entries) (Tree.turns? given entries) := by
  induction entries with
  | nil => rfl
  | cons entry rest ih =>
    obtain ⟨key, tree⟩ := entry
    rw [List.forall_mem_cons] at sound
    rw [nodeEntries, Tree.turns?]
    refine settles_bind (gives_textAs context.levels _ _ _ rfl sound.1.1) fun name _ => ?_
    refine settles_bind (gives _ _ sound.1.2) fun node _ => ?_
    exact settles_bind (ih sound.2) fun others _ => rfl

/-- **A node is given level by level**, wherever it stands. -/
theorem settles_nodeWithin (levels : Nat) (context : Context) (tree : Tree)
    (sound : tree.IsSound) :
    Settles (nodeWithin levels context tree) (Tree.node? levels tree) := by
  induction levels generalizing context tree with
  | zero =>
    rw [nodeWithin, follow_sound sound, pure_bind]
    cases tree with
    | scalar style tag text => exact settles_scalarNode _ _ _ _
    | void => rfl
    | _ => exact ⟨_, rfl⟩
  | succ levels ih =>
    rw [nodeWithin, follow_sound sound, pure_bind]
    cases tree with
    | scalar style tag text => exact settles_scalarNode _ _ _ _
    | void => rfl
    | sequence tag items =>
      have scalars : Gives context.levels (fun c t => Node.scalar <$> textAs "a scalar" c t)
          fun item => item.text?.map Node.scalar := (gives_textAs _ _).map _
      exact settles_map (settles_items scalars rfl 0 sound.items) Node.sequence
    | mapping tag entries =>
      exact settles_map (settles_nodeEntries ih sound.entries) (Node.mapping .plain)
    | _ => exact ⟨_, rfl⟩

/-- **A node is what its tree gives** within the levels that may be entered. -/
theorem gives_node (levels : Nat) :
    Gives levels (Decoder.node : Reader Node) (Tree.node? levels) := by
  intro context tree same sound
  rw [← same]
  exact settles_nodeWithin _ _ _ sound

/-! ### Records -/

/-- The fields of a record by their names, with what their values do to it. -/
abbrev Table (σ : Type) : Type := List (String × (Tree → Option (σ → σ)))

namespace Table

theorem mem_of_lookup {table : Table σ} {name : String} {given : Tree → Option (σ → σ)}
    (field : table.lookup name = some given) : (name, given) ∈ table := by
  obtain ⟨before, after, rfl, -⟩ := List.lookup_eq_some_iff.1 field
  exact List.mem_append_right _ List.mem_cons_self

/-- Take the entries of a record one behind the other.  `seen` holds the fields that have been
taken. -/
def fill? (table : Table σ) : List (String × Tree) → List String → σ → Option σ
  | [], _, value => some value
  | (name, tree) :: rest, seen, value =>
    match table.lookup name with
    | some given =>
      if seen.contains name then none
      else (given tree).bind fun update => fill? table rest (name :: seen) (update value)
    | none => fill? table rest seen value

/-- A record: its entries, or nothing. -/
def record? (table : Table σ) (blank : σ) : Tree → Option σ
  | .mapping _ entries => (Tree.named? entries).bind fun written => fill? table written [] blank
  | tree => if isNothing tree then some blank else none

end Table

/-- **Two lists with the same keys** know a key both or not at all. -/
theorem lookup_cases {related : String × α → String × β → Prop}
    (same : ∀ entry entry', related entry entry' → entry.1 = entry'.1)
    {entries : List (String × α)} {entries' : List (String × β)}
    (pairs : List.Forall₂ related entries entries') (name : String) :
    (entries.lookup name = none ∧ entries'.lookup name = none)
      ∨ ∃ value value', entries.lookup name = some value ∧ entries'.lookup name = some value'
        ∧ related (name, value) (name, value') := by
  induction pairs with
  | nil => exact .inl ⟨rfl, rfl⟩
  | @cons entry entry' _ _ here _ ih =>
    obtain ⟨key, value⟩ := entry
    obtain ⟨key', value'⟩ := entry'
    obtain rfl : key = key' := same _ _ here
    rw [List.lookup_cons, List.lookup_cons]
    cases found : name == key with
    | true =>
      obtain rfl : name = key := beq_iff_eq.1 found
      exact .inr ⟨value, value', rfl, rfl, here⟩
    | false => exact ih

/-- A table tells of each field what its reader makes. -/
def Describes (levels : Nat) (table : Table σ) (fields : List (String × Reader (σ → σ))) : Prop :=
  List.Forall₂ (fun slot field => slot.1 = field.1 ∧ Gives levels field.2 slot.2) table fields

/-- A table and the fields it describes have the same names, and under each name the reader
makes what the table tells. -/
theorem Describes.lookup {table : Table σ} {fields : List (String × Reader (σ → σ))}
    (describes : Describes levels table fields) (name : String) :
    (table.lookup name = none ∧ fields.lookup name = none)
      ∨ ∃ given read, table.lookup name = some given ∧ fields.lookup name = some read
        ∧ Gives levels read given := by
  obtain none | ⟨given, read, known, known', -, gives⟩ :=
    lookup_cases (fun _ _ related => related.1) describes name
  · exact .inl none
  · exact .inr ⟨given, read, known, known', gives⟩

/-- **The entries of a record fill it as the table does**, one behind the other; what has been
seen is seen by both. -/
theorem settles_entries {table : Table σ} {fields : List (String × Reader (σ → σ))}
    (describes : Describes levels table fields) {context : Context}
    (same : context.levels = levels) {pairs : List (Tree × Tree)}
    (sound : ∀ entry ∈ pairs, entry.1.IsSound ∧ entry.2.IsSound) (seen : List String)
    (value : σ) :
    Settles (entries fields context pairs seen value)
      ((Tree.named? pairs).bind fun written => table.fill? written seen value) := by
  induction pairs generalizing seen value with
  | nil => rfl
  | cons entry rest ih =>
    obtain ⟨key, tree⟩ := entry
    rw [List.forall_mem_cons] at sound
    obtain ⟨⟨here, there⟩, others⟩ := sound
    have named : (Tree.named? ((key, tree) :: rest)).bind (table.fill? · seen value)
        = key.text? >>= fun name =>
            (Tree.named? rest).bind fun written =>
              table.fill? ((name, tree) :: written) seen value := by
      rw [Tree.named?]
      cases key.text? with
      | none => rfl
      | some name => cases Tree.named? rest <;> rfl
    rw [entries, named]
    refine settles_bind (gives_textAs levels _ _ _ same here) fun name _ => ?_
    simp only [Table.fill?]
    obtain ⟨unknown, unknown'⟩ | ⟨given, read, known, known', gives⟩ := describes.lookup name
    · rw [unknown, unknown']
      dsimp only
      rw [pass_sound there, pure_bind]
      exact ih others seen value
    · rw [known, known']
      dsimp only
      cases seen.contains name with
      | true => exact settles_throw (by cases Tree.named? rest <;> rfl) _
      | false =>
        simp only [Bool.false_eq_true, if_false]
        rw [Option.bind_comm]
        refine settles_bind (gives _ _ same there) fun update _ => ?_
        exact ih others (name :: seen) (update value)

/-- **A record gives what its table makes of its entries.** -/
theorem Describes.gives {table : Table σ} {fields : List (String × Reader (σ → σ))}
    (describes : Describes levels table fields) (name : String) (blank : σ) :
    Gives (levels + 1) (record name blank fields) (table.record? blank) := by
  intro context tree same sound
  rw [record, follow_sound sound, pure_bind]
  obtain ⟨document, path, entered⟩ := context
  subst same
  cases tree with
  | mapping tag entries => exact settles_entries describes rfl sound.entries [] blank
  | _ => exact settles_nothing _ _ _

end Reader

/-! ### Documents -/

/-- **A whole text without references is read as what its tree gives.** -/
theorem settles_read {α : Type} {reader : Reader α} {given : Tree → Option α}
    (gives : Reader.Gives maxDepth reader given) {text : String} (whole : isWhole text = true)
    (free : (Document.ofText text).root.isFree = true) :
    Settles (read reader text) (given (Document.ofText text).root) := by
  rw [isWhole, Document.isWhole, Bool.and_eq_true, Option.isNone_iff_eq_none,
    Bool.not_eq_true'] at whole
  have settled := gives ⟨Document.ofText text, [], maxDepth⟩ _ rfl ⟨isWhole_root whole.1, free⟩
  rw [read, Document.decode]
  generalize given (Document.ofText text).root = given at settled ⊢
  cases given with
  | none =>
    obtain ⟨error, failed⟩ := settled
    exact ⟨error, by rw [failed]; rfl⟩
  | some value =>
    have done : reader ⟨Document.ofText text, [], maxDepth⟩ (Document.ofText text).root
        = pure value := settled
    rw [done, whole.1, whole.2]
    rfl

end BreakCheck.Yaml
