/-
BreakCheck/Node/Offer.lean

Nodes from values of any source.

A source that is asked for a node answers with an `Offer`: a single value, or a
collection, perhaps with something wrapped around it.  Optional values and tags
are unwrapped; keys and items have to be single values.  An offer that a node
has no place for is refused with a complaint.
-/
import BreakCheck.Complaint

namespace BreakCheck

/-- What a source answers when it is asked for a value. -/
inductive Offer
  | unit
  | absent
  | flag (value : Bool)
  /-- An integer of at most 64 bits. -/
  | integer (value : Int)
  | wideInteger (value : Int) (signed : Bool)
  | number (value : Binary)
  | text (value : String)
  | bytes
  /-- An optional value that is present. -/
  | present (offer : Offer)
  /-- A value in a wrapper. -/
  | wrapped (offer : Offer)
  | sequence (items : List Offer)
  | map (entries : List (Offer × Offer))
  | tagged (tag : String) (content : Offer)
  deriving Inhabited

namespace Offer

/-- What an offer is called in complaints. -/
def found : Offer → Found
  | unit => .unit
  | absent => .optional
  | flag value => .flag value
  | integer value => .integer value
  | wideInteger value signed => .wideInteger value signed
  | number value => .number value
  | text value => .text value
  | bytes => .bytes
  | present _ => .optional
  | wrapped _ => .wrapped
  | sequence _ => .sequence
  | map _ => .map
  | tagged .. => .tagged

/-- The node of a single value. -/
def single? : Offer → Option Node
  | unit => some .null
  | absent => some .null
  | flag value => some (.scalar (if value then "true" else "false"))
  | integer value => some (.scalar (toString value))
  | number value => some (.scalar (value.text .plain))
  | text value => some (.scalar value)
  | _ => none

/-- The node of a key or an item. -/
def toLeaf (offer : Offer) : Except Complaint Node :=
  match offer.single? with
  | some node => .ok node
  | none => .error (.wrongType offer.found "a scalar")

mutual

/-- The node of an offer. -/
def toNode : Offer → Except Complaint Node
  | present offer => offer.toNode
  | tagged _ content => content.toNode
  | sequence items => Node.sequence <$> items.mapM toLeaf
  | map entries => Node.mapping .plain <$> toContent entries
  | offer =>
    match offer.single? with
    | some node => .ok node
    | none => .error (.wrongType offer.found "a scalar, sequence or mapping")
termination_by structural offer => offer

/-- Keys and values in turns. -/
def toContent : List (Offer × Offer) → Except Complaint (List Node)
  | [] => .ok []
  | (key, value) :: rest => do
    let key ← key.toLeaf
    let value ← value.toNode
    let others ← toContent rest
    return key :: value :: others
termination_by structural entries => entries

end

end Offer

end BreakCheck
