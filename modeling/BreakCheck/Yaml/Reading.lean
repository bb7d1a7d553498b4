/-
BreakCheck/Yaml/Reading.lean

Typed values from YAML texts.

A reader looks at a tree and knows the way that led there (`Path`), which goes
into its complaints, and how many more levels of nesting it may enter.  It meets
the faults of the text in document order: a value of the wrong type is reported
even if the text breaks off further on.  Only when all that was wanted has been
read is the rest of the text looked at.

References are followed wherever a value is read.  Following them takes time that
the size of the text does not bound, so their number is limited.
-/
import BreakCheck.Decoder
import BreakCheck.Yaml.Scalar
import BreakCheck.Yaml.Tree.Composition

namespace BreakCheck.Yaml

/-! ### Paths and errors -/

/-- A step from a node to one below it. -/
inductive Step
  | key (name : String)
  | item (index : Nat)
  /-- To the value of a key that is not written as a text of its own. -/
  | unnamed

/-- The way to a node, its last step first. -/
abbrev Path := List Step

/-- A way as it stands in front of a complaint; the root is a point. -/
def Path.text : Path → String
  | [] => "."
  | .item index :: outer => Path.text outer ++ "[" ++ toString index ++ "]"
  | .key name :: [] => name
  | .key name :: outer => Path.text outer ++ "." ++ name
  | .unnamed :: [] => "?"
  | .unnamed :: outer => Path.text outer ++ ".?"

/-- Why a YAML text cannot be read. -/
inductive Error
  /-- The text breaks off. -/
  | fault (fault : Fault)
  /-- The text holds other data than wanted. -/
  | data (path : Path) (complaint : Complaint)
  /-- Collections are nested too deep. -/
  | tooDeep
  /-- References are followed too often. -/
  | tooManyReferences
  /-- There is a document behind the one that was read. -/
  | manyDocuments
  /-- There is no value where one is needed. -/
  | noValue

/-- A null is called a unit value, and numbers are written without exponent. -/
def dialect : Dialect := ⟨"unit value", .pointed⟩

/-- The text of an error; faults of the grammar have none here. -/
def Error.message? : Error → Option String
  | fault .grammar => none
  | fault .unknownAnchor => some "unknown anchor"
  | data [] complaint => some (complaint.message dialect)
  | data path complaint => some (path.text ++ ": " ++ complaint.message dialect)
  | tooDeep => some "recursion limit exceeded"
  | tooManyReferences => some "repetition limit exceeded"
  | manyDocuments =>
    some "deserializing from YAML containing more than one document is not supported"
  | noValue => some "EOF while parsing a value"

/-! ### Readers -/

/-- What a reader knows beside the tree. -/
structure Context where
  document : Document
  path : Path
  /-- The levels of nesting that may still be entered. -/
  levels : Nat

/-- One step further on the way. -/
def Context.down (context : Context) (step : Step) : Context :=
  { context with path := step :: context.path }

/-- A step of reading; it counts the references that have been followed. -/
abbrev Effect (α : Type) := StateT Nat (Attempt Error) α

/-- A reader of values. -/
def Reader (α : Type) : Type := Context → Tree → Effect α

/-- The levels of nesting a document may have. -/
def maxDepth : Nat := 128

namespace Reader

variable {α β σ : Type}

/-- The error of having come to the place where the text breaks off. -/
def cutShort (context : Context) : Error :=
  match context.document.fault with
  | some fault => .fault fault
  | none => .noValue

/-- The error of having met a node where another was wanted. -/
def mismatch (context : Context) (tree : Tree) (wanted : String) : Error :=
  let complain (found : Found) := Error.data context.path (.wrongType found wanted)
  match tree with
  | .scalar style tag text =>
    match meaning style tag text with
    | .ok meaning => complain meaning.found
    | .error complaint => .data context.path complaint
  | .sequence .. => complain .sequence
  | .mapping .. => complain .map
  | .void => .noValue
  | .reference _ => cutShort context
  | .cut => cutShort context

/-- The node itself, or the one it refers to. -/
def follow (context : Context) (tree : Tree) : Effect Tree :=
  match tree with
  | .reference number => do
    let followed := (← get) + 1
    set followed
    if 100 * context.document.size < followed then throw .tooManyReferences
    else pure ((context.document.target? number).getD .cut)
  | tree => pure tree

/-- Enter a level of nesting, if any are left. -/
def enter (context : Context) (go : Context → Effect α) : Effect α :=
  match context.levels with
  | 0 => throw .tooDeep
  | levels + 1 => go { context with levels }

/-- The step to the value of a key. -/
def stepTo : Tree → Step
  | .scalar _ _ text => .key text
  | _ => .unnamed

/-- Whether a node counts as an empty collection. -/
def isNothing : Tree → Bool
  | .scalar .plain _ text => text.isEmpty
  | .void => true
  | _ => false

/-- Step over a node without looking into it. -/
def pass (context : Context) (tree : Tree) : Effect Unit :=
  if tree.isWhole then pure () else throw (cutShort context)

/-! ### Texts and flags -/

/-- A text, wanted under some name; the text of any scalar will do. -/
def textAs (wanted : String) : Reader String := fun context tree => do
  match ← follow context tree with
  | .scalar _ _ text => pure text
  | tree => throw (mismatch context tree wanted)

/-- Whether a scalar can be a boolean: it is plain, or a literal one with that tag. -/
def mayBeFlag (style : ScalarStyle) (tag : Option Tag) : Bool :=
  style == .plain || (style == .literal && tag == some (.common "bool"))

/-- A boolean. -/
def flag : Reader Bool := fun context tree => do
  match ← follow context tree with
  | .scalar style tag text =>
    match if mayBeFlag style tag then flagOf? text else none with
    | some value => pure value
    | none => throw (mismatch context (.scalar style tag text) "a boolean")
  | tree => throw (mismatch context tree "a boolean")

/-! ### Collections -/

/-- The items of a list, from the given position on. -/
def items (read : Reader α) (context : Context) : Nat → List Tree → Effect (List α)
  | _, [] => pure []
  | index, item :: rest => do
    let value ← read (context.down (.item index)) item
    let others ← items read context (index + 1) rest
    pure (value :: others)

/-- A list. -/
def list (item : Reader α) : Reader (List α) := fun context tree => do
  match ← follow context tree with
  | .sequence _ trees => enter context fun context => items item context 0 trees
  | tree => if isNothing tree then pure [] else throw (mismatch context tree "a sequence")

/-- The fields of a record.  `seen` holds the keys that have been read. -/
def entries (fields : List (String × Reader (σ → σ))) (context : Context) :
    List (Tree × Tree) → List String → σ → Effect σ
  | [], _, value => pure value
  | (key, tree) :: rest, seen, value => do
    let name ← textAs "field identifier" context key
    match fields.lookup name with
    | some read =>
      if seen.contains name then throw (.data context.path (.duplicateField name))
      else do
        let update ← read (context.down (stepTo key)) tree
        entries fields context rest (name :: seen) (update value)
    | none => do
      pass context tree
      entries fields context rest seen value

/-- A record. -/
def record (name : String) (blank : σ) (fields : List (String × Reader (σ → σ))) : Reader σ :=
  fun context tree => do
    match ← follow context tree with
    | .mapping _ pairs => enter context fun context => entries fields context pairs [] blank
    | tree =>
      if isNothing tree then pure blank
      else throw (mismatch context tree ("struct " ++ name))

/-- The keys of a mapping, which have to be texts. -/
def keysOf (context : Context) : List (Tree × Tree) → Effect (List String)
  | [] => pure []
  | (key, tree) :: rest => do
    let name ← textAs "a string" context key
    pass context tree
    let others ← keysOf context rest
    pure (name :: others)

/-- The keys of a mapping, whatever their values are. -/
def keys : Reader (List String) := fun context tree => do
  match ← follow context tree with
  | .mapping _ pairs => enter context fun context => keysOf context pairs
  | tree => if isNothing tree then pure [] else throw (mismatch context tree "a map")

/-! ### Values that may be missing -/

/-- Whether a scalar stands for a missing value; a tag for null makes it an error to
be anything else. -/
def isAbsent (style : ScalarStyle) (tag : Option Tag) (text : String) :
    Except Complaint Bool :=
  if style ≠ .plain then .ok false
  else
    match tag with
    | none => .ok (text.isEmpty || isNull text)
    | some tag =>
      if tag = .common "null" then
        if isNull text then .ok true else .error (.wrongValue text "null")
      else .ok false

/-- A value, or none where null is written.  Complaints about the tag are made in the
name of the collection around it. -/
def optional (read : Reader α) : Reader (Option α) := fun context tree => do
  let tree ← follow context tree
  match tree with
  | .scalar style tag text =>
    match isAbsent style tag text with
    | .ok true => pure none
    | .ok false => some <$> read context tree
    | .error complaint => throw (.data context.path.tail complaint)
  | .void => pure none
  | .cut => throw (cutShort context)
  | tree => some <$> read context tree

/-! ### Choices -/

/-- The value of a name among several. -/
def choose (choices : List (String × α)) (context : Context) (name : String) : Effect α :=
  match choices.lookup name with
  | some value => pure value
  | none => throw (.data context.path (.unknownChoice name (choices.map Prod.fst)))

/-- What stands behind a tag that makes a choice: nothing. -/
def unit (context : Context) (tree : Tree) : Effect Unit :=
  match tree with
  | .scalar style _ text =>
    if style = .plain ∧ (text.isEmpty ∨ isNull text) then pure ()
    else throw (.data context.path (.wrongValue text "null"))
  | tree => throw (mismatch context tree "unit")

/-- The name of a node's tag, if the tag belongs to the document. -/
def localTagOf? : Tree → Option String
  | .scalar _ tag _ => tag.bind Tag.localName?
  | .sequence tag _ => tag.bind Tag.localName?
  | .mapping tag _ => tag.bind Tag.localName?
  | _ => none

/-- One of several values: its name as a text or as a tag. -/
def choice (choices : List (String × α)) : Reader α := fun context tree => do
  let tree ← follow context tree
  match localTagOf? tree, tree with
  | some name, tree => do
    let value ← choose choices context name
    unit context tree
    pure value
  | none, .scalar _ _ text => choose choices context text
  | none, tree => throw (mismatch context tree "a YAML tag starting with '!'")

/-! ### Nodes -/

/-- The node that a scalar with a meaning becomes. -/
def nodeOf? : Meaning → Option Node
  | .null => some .null
  | .flag value => some (.scalar (if value then "true" else "false"))
  | .integer value => some (.scalar (toString value))
  | .wideInteger .. => none
  | .number value => some (.scalar (value.text .plain))
  | .text value => some (.scalar value)

/-- The node that a scalar becomes. -/
def scalarNode (context : Context) (style : ScalarStyle) (tag : Option Tag) (text : String) :
    Effect Node :=
  match meaning style tag text with
  | .error complaint => throw (.data context.path complaint)
  | .ok meaning =>
    match nodeOf? meaning with
    | some node => pure node
    | none =>
      throw (.data context.path (.wrongType meaning.found "a scalar, sequence or mapping"))

/-- Keys and values of a mapping in turns; the values are read by `read`. -/
def nodeEntries (read : Reader Node) (context : Context) :
    List (Tree × Tree) → Effect (List Node)
  | [] => pure []
  | (key, tree) :: rest => do
    let name ← textAs "a scalar" context key
    let value ← read (context.down (stepTo key)) tree
    let others ← nodeEntries read context rest
    pure (.scalar name :: value :: others)

/-- A node, entering at most the given number of levels. -/
def nodeWithin : Nat → Reader Node
  | 0, context, tree => do
    match ← follow context tree with
    | .scalar style tag text => scalarNode context style tag text
    | .sequence .. => throw .tooDeep
    | .mapping .. => throw .tooDeep
    | .void => pure .null
    | tree => throw (mismatch context tree "a scalar, sequence or mapping")
  | levels + 1, context, tree => do
    match ← follow context tree with
    | .scalar style tag text => scalarNode context style tag text
    | .sequence _ trees =>
      Node.sequence <$> items (fun c t => Node.scalar <$> textAs "a scalar" c t) context 0 trees
    | .mapping _ pairs =>
      Node.mapping .plain <$> nodeEntries (nodeWithin levels) context pairs
    | .void => pure .null
    | tree => throw (mismatch context tree "a scalar, sequence or mapping")

/-- A node.  Tags are dropped, and keys and items keep their text. -/
def node : Reader Node := fun context tree => nodeWithin context.levels context tree

end Reader

instance : Decoder Reader where
  map f read := fun context tree => f <$> read context tree
  text := Reader.textAs "a string"
  flag := Reader.flag
  list := Reader.list
  record := Reader.record
  choice := Reader.choice
  node := Reader.node
  refine check read := fun context tree => do
    let value ← read context tree
    monadLift ((check value).mapError fun error => Error.data context.path.tail (.schema error))

/-- A value from a document that has to be the only one.  Faults behind the value
count only after it has been read. -/
def Document.decode {α : Type} (document : Document) (reader : Reader α) : Attempt Error α := do
  let (value, _) ← (reader ⟨document, [], maxDepth⟩ document.root).run 0
  match document.fault with
  | some fault => throw (.fault fault)
  | none => if document.continues then throw .manyDocuments else pure value

/-- A value from the only document of a text. -/
def read {α : Type} (reader : Reader α) (text : String) : Attempt Error α :=
  (Document.ofText text).decode reader

end BreakCheck.Yaml
