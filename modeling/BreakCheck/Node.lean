/-
BreakCheck/Node.lean

Trees of structured text.

A mapping keeps its keys and values as one flat, alternating list, so the order
of declaration and repeated keys are kept; a tree made by hand may even hold a
key without a value.  Mapping keys and items are texts exactly as written, so
`1.10` stays `1.10`.
-/

namespace BreakCheck

/-- How a mapping is meant to be laid out.  It carries no meaning. -/
inductive Node.Style
  | plain
  | literal
  deriving DecidableEq

/-- The four kinds of node. -/
inductive Node.Kind
  | null
  | scalar
  | sequence
  | mapping
  deriving DecidableEq

/-- A node of structured text. -/
inductive Node
  | null
  | scalar (text : String)
  | sequence (items : List Node)
  /-- Keys and values take turns in `content`, starting with a key. -/
  | mapping (style : Node.Style) (content : List Node)
  deriving Inhabited

/-- Why a node cannot be taken for what was asked of it. -/
inductive Node.Misfit
  /-- The node is not a single text. -/
  | notText (kind : Node.Kind)
  /-- The node is not a list of texts. -/
  | notTexts (kind : Node.Kind)
  deriving DecidableEq

namespace Node

/-- The name of a kind in messages. -/
def Kind.name : Kind → String
  | null => "null"
  | scalar => "scalar"
  | sequence => "sequence"
  | mapping => "mapping"

/-- A plain mapping of keys to values. -/
def ofPairs (pairs : List (Node × Node)) : Node :=
  mapping .plain (pairs.flatMap fun (key, value) => [key, value])

def kind : Node → Kind
  | null => .null
  | scalar _ => .scalar
  | sequence _ => .sequence
  | mapping .. => .mapping

def style : Node → Style
  | mapping style _ => style
  | _ => .plain

/-- The nodes directly below a node. -/
def children : Node → List Node
  | null => []
  | scalar _ => []
  | sequence items => items
  | mapping _ content => content

/-- Keys and values as pairs, and the key without a value at the end, if any. -/
def pairUp : List Node → List (Node × Node) × Option Node
  | key :: value :: rest => ((key, value) :: (pairUp rest).1, (pairUp rest).2)
  | [key] => ([], some key)
  | [] => ([], none)

/-! ### Reading single texts -/

/-- The text of a scalar; a null stands for the empty text. -/
def asText : Node → Except Misfit String
  | scalar text => .ok text
  | null => .ok ""
  | node => .error (.notText node.kind)

/-- The texts of a sequence; a null stands for the empty list. -/
def asTexts : Node → Except Misfit (List String)
  | sequence items => items.mapM asText
  | null => .ok []
  | node => .error (.notTexts node.kind)

/-! ### Equality -/

mutual

/-- Whether two nodes are the same tree. -/
def same : Node → Node → Bool
  | null, null => true
  | scalar a, scalar b => a == b
  | sequence xs, sequence ys => sameAll xs ys
  | mapping s xs, mapping t ys => s == t && sameAll xs ys
  | _, _ => false

/-- Whether two lists of nodes are the same. -/
def sameAll : List Node → List Node → Bool
  | [], [] => true
  | x :: xs, y :: ys => same x y && sameAll xs ys
  | _, _ => false

end

mutual

theorem same_iff : ∀ a b : Node, same a b = true ↔ a = b
  | null, b => by cases b <;> simp [same]
  | scalar x, b => by cases b <;> simp [same]
  | sequence xs, b => by
    cases b with
    | sequence ys => simp [same, sameAll_iff xs ys]
    | _ => simp [same]
  | mapping s xs, b => by
    cases b with
    | mapping t ys => simp [same, sameAll_iff xs ys]
    | _ => simp [same]

theorem sameAll_iff : ∀ xs ys : List Node, sameAll xs ys = true ↔ xs = ys
  | [], ys => by cases ys <;> simp [sameAll]
  | x :: xs, ys => by
    cases ys with
    | nil => simp [sameAll]
    | cons y ys => simp [sameAll, same_iff x y, sameAll_iff xs ys]

end

instance : DecidableEq Node := fun a b => decidable_of_iff _ (same_iff a b)

end Node

end BreakCheck
