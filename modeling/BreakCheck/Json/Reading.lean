/-
BreakCheck/Json/Reading.lean

Typed values from JSON texts.

A reader looks at a tree and knows how many more levels of nesting it may enter.
It meets the faults of the text in document order, so a value of the wrong type
is reported even if the syntax breaks further on; values that are skipped are
not looked into.
-/
import BreakCheck.Complaint
import BreakCheck.Decoder
import BreakCheck.Json.Tree

namespace BreakCheck.Json

/-- Why a JSON text cannot be read. -/
inductive Error
  /-- The text is not well formed, nested too deep, or holds an unusable number or text. -/
  | grammar
  /-- The text holds other data than wanted. -/
  | data (complaint : Complaint)

/-- A null is called `null`, and large or small numbers have an exponent. -/
def dialect : Dialect := ⟨"null", .scientific⟩

/-- A reader of values, given the levels of nesting it may still enter. -/
def Reader (α : Type) : Type := Nat → Tree → Attempt Error α

/-- The levels of nesting a document may have. -/
def maxDepth : Nat := 127

namespace Reader

variable {α β σ : Type}

/-! ### Finding something else -/

/-- What a value is called in complaints; faults have no name. -/
def found? : Tree → Option Found
  | .null => some .unit
  | .flag value => some (.flag value)
  | .number (.integer value) => some (.integer value)
  | .number (.real value) => some (.number value)
  | .number .outOfRange => none
  | .text value => some (.text value)
  | .flawed => none
  | .array _ => some .sequence
  | .object _ => some .map
  | .broken => none

/-- The error of having met a value where another was wanted. -/
def mismatch (tree : Tree) (wanted : String) : Error :=
  match found? tree with
  | some found => .data (.wrongType found wanted)
  | none => .grammar

/-- Enter a level of nesting, if any are left. -/
def enter (levels : Nat) (go : Nat → Attempt Error α) : Attempt Error α :=
  match levels with
  | 0 => throw .grammar
  | levels + 1 => go levels

/-! ### Texts, flags, lists -/

/-- A text, wanted under some name. -/
def textAs (wanted : String) : Reader String := fun _ tree =>
  match tree with
  | .text value => pure value
  | tree => throw (mismatch tree wanted)

/-- A boolean. -/
def flag : Reader Bool := fun _ tree =>
  match tree with
  | .flag value => pure value
  | tree => throw (mismatch tree "a boolean")

/-- A list. -/
def list (item : Reader α) : Reader (List α) := fun levels tree =>
  match tree with
  | .array items => enter levels fun levels => items.mapM (item levels)
  | tree => throw (mismatch tree "a sequence")

/-! ### Records -/

/-- The fields of a record that is written as an array, in their order; fields at
the end may be missing, but there may not be more. -/
def positions (levels : Nat) : List (String × Reader (σ → σ)) → List Tree → σ → Attempt Error σ
  | _, [], value => pure value
  | [], _ :: _, _ => throw .grammar
  | (_, read) :: fields, item :: items, value => do
    let update ← read levels item
    positions levels fields items (update value)

/-- The fields of a record that is written as an object.  `seen` holds the keys
that have been read. -/
def members (levels : Nat) (fields : List (String × Reader (σ → σ))) :
    List (Tree × Tree) → List String → σ → Attempt Error σ
  | [], _, value => pure value
  | (.text key, member) :: rest, seen, value =>
    match fields.lookup key with
    | some read =>
      if seen.contains key then throw (.data (.duplicateField key))
      else do
        let update ← read levels member
        members levels fields rest (key :: seen) (update value)
    | none =>
      if member.isSound then members levels fields rest seen value else throw .grammar
  | _ :: _, _, _ => throw .grammar

/-- A record. -/
def record (name : String) (blank : σ) (fields : List (String × Reader (σ → σ))) : Reader σ :=
  fun levels tree =>
    match tree with
    | .array items => enter levels fun levels => positions levels fields items blank
    | .object entries => enter levels fun levels => members levels fields entries [] blank
    | tree => throw (mismatch tree ("struct " ++ name))

/-! ### Choices -/

/-- The value of a name among several. -/
def choose (choices : List (String × α)) (name : String) : Attempt Error α :=
  match choices.lookup name with
  | some value => pure value
  | none => throw (.data (.unknownChoice name (choices.map Prod.fst)))

/-- One of several values: a name, or an object whose one member has that name and
the value null. -/
def choice (choices : List (String × α)) : Reader α := fun _ tree =>
  match tree with
  | .text name => choose choices name
  | .object ((.text name, member) :: rest) => do
    let value ← choose choices name
    match member, rest with
    | .null, [] => pure value
    | .null, _ => throw .grammar
    | member, _ => throw (mismatch member "unit")
  | .object ((name, _) :: _) => throw (mismatch name "variant identifier")
  | _ => throw .grammar

/-! ### Nodes -/

/-- The text a single value becomes in a node. -/
def scalar? : Tree → Option Node
  | .null => some .null
  | .flag value => some (.scalar (if value then "true" else "false"))
  | .number (.integer value) => some (.scalar (toString value))
  | .number (.real value) => some (.scalar (value.text .plain))
  | .text value => some (.scalar value)
  | _ => none

/-- An item of a node's sequence; it has to be a text. -/
def nodeItem (item : Tree) : Attempt Error Node :=
  Node.scalar <$> textAs "a scalar" 0 item

mutual

/-- A node.  Its objects keep repeated names. -/
def node : Tree → Nat → Attempt Error Node
  | .array items, levels => enter levels fun _ => Node.sequence <$> items.mapM nodeItem
  | .object _, 0 => throw .grammar
  | .object entries, levels + 1 => Node.mapping .plain <$> nodeMembers entries levels
  | tree, _ =>
    match scalar? tree with
    | some node => pure node
    | none => throw .grammar
termination_by structural tree => tree

/-- Names and values of an object's members, in turns. -/
def nodeMembers : List (Tree × Tree) → Nat → Attempt Error (List Node)
  | [], _ => pure []
  | (.text name, member) :: rest, levels => do
    let value ← node member levels
    let others ← nodeMembers rest levels
    pure (.scalar name :: value :: others)
  | _ :: _, _ => throw .grammar
termination_by structural entries => entries

end

end Reader

instance : Decoder Reader where
  map f read := fun levels tree => f <$> read levels tree
  text := Reader.textAs "a string"
  flag := Reader.flag
  list := Reader.list
  record := Reader.record
  choice := Reader.choice
  node := fun levels tree => Reader.node tree levels
  refine check read := fun levels tree => do
    let value ← read levels tree
    (check value).mapError fun error => .data (.schema error)

/-- A value from a JSON text, with nothing after it. -/
def read {α : Type} (reader : Reader α) (text : String) : Attempt Error α := do
  let (tree, complete) := Tree.ofText text
  let value ← reader maxDepth tree
  if complete then pure value else throw .grammar

end BreakCheck.Json
