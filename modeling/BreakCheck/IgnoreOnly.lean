/-
BreakCheck/IgnoreOnly.lean

The `ignore_only` part of a section: a mapping from IDs to paths, as a node.

A plain map would lose the order in which the IDs were written, so the pairs are
kept as a list and go through a `Node`.  Reading keeps order and repeated IDs
and reports the first defect in document order; writing leaves out IDs without
paths.
-/
import BreakCheck.Exemptions
import BreakCheck.Node

namespace BreakCheck

/-- Why a text is not a configuration of the declared version. -/
inductive SchemaError
  /-- A key of the section is not one of the version's fields. -/
  | unknownField (key : String) (version : Version)
  /-- An ID or a path list is something else. -/
  | misfit (why : Node.Misfit)
  /-- `ignore_only` holds nodes but is not a mapping. -/
  | notMapping (kind : Node.Kind)
  /-- The last key of `ignore_only` has no value. -/
  | oddChildren (count : Nat)
  deriving DecidableEq

/-- The text of a misfit. -/
def Node.Misfit.message : Node.Misfit → String
  | notText kind => "cannot decode " ++ kind.name ++ " node into a string"
  | notTexts kind => "cannot decode " ++ kind.name ++ " node into a list of strings"

/-- The text of a schema error. -/
def SchemaError.message : SchemaError → String
  | unknownField key version =>
    "unknown field '" ++ key ++ "' in " ++ version.name ++ " breaking config"
  | misfit why => why.message
  | notMapping kind => "ignore_only must be a YAML map, instead is " ++ kind.name
  | oddChildren count =>
    "ignore_only mapping has " ++ toString count ++ " children, expected key/value pairs"

namespace IgnoreOnly

/-! ### Reading -/

/-- The pairs of a mapping's content, each ID read before its paths. -/
def pairs : List Node → Except SchemaError (List Exemption)
  | key :: value :: rest => do
    let id ← key.asText.mapError .misfit
    let paths ← value.asTexts.mapError .misfit
    let others ← pairs rest
    return { id, paths } :: others
  | _ => .ok []

/-- The pairs a node declares; a node without children declares none. -/
def decode (node : Node) : Attempt SchemaError (List Exemption) :=
  if node.children.isEmpty then pure []
  else if node.kind ≠ .mapping then throw (.notMapping node.kind)
  else if node.children.length % 2 ≠ 0 then throw (.oddChildren node.children.length)
  else
    match pairs node.children with
    | .error error => throw error
    | .ok declared => do
      monadLift (Logged.note (.decodedIgnoreOnly declared.length))
      pure declared

/-! ### Writing -/

/-- The key and the value of a pair; none for an ID without paths. -/
def content (entry : Exemption) : List Node :=
  if entry.paths.isEmpty then []
  else [.scalar entry.id, .sequence (entry.paths.map Node.scalar)]

/-- The mapping that declares pairs; there is none for no pairs at all. -/
def encode? (declared : List Exemption) : Option Node :=
  if declared.isEmpty then none else some (.mapping .literal (declared.flatMap content))

/-- Whether writing would show nothing: no pair has a path. -/
def isVacuous (declared : List Exemption) : Bool :=
  declared.all fun entry => entry.paths.isEmpty

end IgnoreOnly

end BreakCheck
