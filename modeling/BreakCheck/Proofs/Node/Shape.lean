/-
BreakCheck/Proofs/Node/Shape.lean

The shape of nodes that are read.

A node made by hand may be any tree: a mapping may hold a key without a value, a key may be a
list, and an item a mapping.  A node that is read may not.  Keys and items are asked for as
single values, so they are scalars or null; keys and values are taken in turns, so none is left
over; and only values are nodes again.  This is so for any source, whatever it answers
(`isRegular_toNode`), and for both text formats, which ask in their own ways
(`ends_nodeWithin`, `isRegular_node`).

Hence of all that can be wrong with `ignore_only` only two things are left for nodes that are
read: that they are sequences, and that a value is no list of paths.

The inductions follow the readers, which take the content of a mapping two nodes at a time;
`IsContent` is put together in the same way.

Main result: `read_regular`.
-/
import BreakCheck.Json.Reading
import BreakCheck.Node.Offer
import BreakCheck.Proofs.IgnoreOnly.Faults
import BreakCheck.Proofs.Yaml.Deferral

namespace BreakCheck

namespace Node

/-! ### Regular nodes -/

/-- **A node lies within a node**: it is that node, or it lies within one of its children. -/
inductive Within (inner : Node) : Node → Prop
  | self : Within inner inner
  | child {node child : Node} : child ∈ node.children → Within inner child → Within inner node

/-- **What is asked of a single node.**  A mapping is plain, every key of it has a value, and the
keys are scalars or null; so are the items of a sequence. -/
structure IsOrderly (node : Node) : Prop where
  plain : node.style = .plain
  paired : node.kind = .mapping → node.children.length % 2 = 0
  keys : node.kind = .mapping → ∀ (place : Nat) (child : Node),
    node.children[place]? = some child → place % 2 = 0 → child.isText = true
  items : node.kind = .sequence → ∀ item ∈ node.children, item.isText = true

/-- **A node is regular** if all that lies within it is as it should be. -/
def IsRegular (node : Node) : Prop := ∀ inner : Node, inner.Within node → inner.IsOrderly

/-- A node is regular if it is orderly and its children are regular. -/
theorem isRegular_iff (node : Node) :
    node.IsRegular ↔ node.IsOrderly ∧ ∀ child ∈ node.children, child.IsRegular := by
  constructor
  · intro regular
    exact ⟨regular node .self, fun child held inner within => regular inner (.child held within)⟩
  · rintro ⟨orderly, children⟩ inner (_ | ⟨held, within⟩)
    · exact orderly
    · exact children _ held inner within

/-- Scalars and null have no children, and nothing else is asked of them. -/
theorem isRegular_of_isText {node : Node} (text : node.isText = true) : node.IsRegular := by
  rw [isRegular_iff]
  cases node with
  | null => exact ⟨⟨rfl, nofun, nofun, nofun⟩, List.forall_mem_nil _⟩
  | scalar text => exact ⟨⟨rfl, nofun, nofun, nofun⟩, List.forall_mem_nil _⟩
  | sequence items => cases text
  | mapping style content => cases text

/-- A sequence of texts is regular. -/
theorem isRegular_sequence {items : List Node} (texts : ∀ item ∈ items, item.isText = true) :
    (sequence items).IsRegular := by
  rw [isRegular_iff]
  refine ⟨⟨rfl, nofun, nofun, fun _ => texts⟩, fun item held => ?_⟩
  exact isRegular_of_isText (texts item held)

/-- **Keys and values in turns**, as they are read. -/
inductive IsContent : List Node → Prop
  | nil : IsContent []
  | cons {key value : Node} {rest : List Node} :
    key.isText = true → value.IsRegular → IsContent rest → IsContent (key :: value :: rest)

namespace IsContent

variable {content : List Node}

/-- Each key has its value, so the number of children is even. -/
theorem even (turns : IsContent content) : content.length % 2 = 0 := by
  induction turns with
  | nil => rfl
  | cons _ _ _ ih => rwa [List.length_cons, List.length_cons, Nat.add_assoc, Nat.add_mod_right]

/-- What stands in an even place is a text. -/
theorem keys (turns : IsContent content) (place : Nat) (child : Node)
    (found : content[place]? = some child) (key : place % 2 = 0) : child.isText = true := by
  induction turns generalizing place with
  | nil => cases found
  | cons text _ _ ih =>
    match place with
    | 0 => cases found; exact text
    | 1 => cases key
    | place + 2 => exact ih place found (by rwa [Nat.add_mod_right] at key)

theorem children (turns : IsContent content) : ∀ child ∈ content, child.IsRegular := by
  induction turns with
  | nil => exact List.forall_mem_nil _
  | cons text regular _ ih =>
    exact List.forall_mem_cons.2 ⟨isRegular_of_isText text, List.forall_mem_cons.2 ⟨regular, ih⟩⟩

/-- **A plain mapping of keys and values in turns is regular.** -/
theorem mapping (turns : IsContent content) : (mapping .plain content).IsRegular := by
  rw [isRegular_iff]
  exact ⟨⟨rfl, fun _ => turns.even, fun _ => turns.keys, nofun⟩, turns.children⟩

end IsContent

end Node

/-! ### Nodes of any source -/

namespace Offer

theorem isText_of_single? {offer : Offer} {node : Node} (single : offer.single? = some node) :
    node.isText = true := by
  cases offer <;> cases single <;> rfl

/-- What is taken from an offer as a single value is a text, or it is refused. -/
theorem isText_of_toLeaf {offer : Offer} {node : Node} (read : offer.toLeaf = .ok node) :
    node.isText = true := by
  rw [toLeaf] at read
  split at read
  next single =>
    cases read
    exact isText_of_single? single
  next => cases read

/-- The items of an offered list are texts, if none of them is refused. -/
theorem isText_of_mapM_toLeaf {items : List Offer} {nodes : List Node}
    (read : items.mapM toLeaf = .ok nodes) : ∀ node ∈ nodes, node.isText = true := by
  induction items generalizing nodes with
  | nil =>
    cases read
    exact List.forall_mem_nil _
  | cons item rest ih =>
    rw [List.mapM_cons] at read
    cases first : item.toLeaf with
    | error complaint => rw [first] at read; cases read
    | ok node =>
      cases others : rest.mapM toLeaf with
      | error complaint => rw [first, others] at read; cases read
      | ok nodes =>
        rw [first, others] at read
        cases read
        exact List.forall_mem_cons.2 ⟨isText_of_toLeaf first, ih others⟩

mutual

/-- **Whatever a source answers**, the node that is made of it is regular. -/
theorem isRegular_toNode : ∀ (offer : Offer) {node : Node}, offer.toNode = .ok node →
    node.IsRegular
  | present offer, _, read => isRegular_toNode offer read
  | tagged _ content, _, read => isRegular_toNode content read
  | sequence items, node, read => by
    rw [toNode] at read
    cases leaves : items.mapM toLeaf with
    | error complaint => rw [leaves] at read; cases read
    | ok nodes =>
      rw [leaves] at read
      cases read
      exact Node.isRegular_sequence (isText_of_mapM_toLeaf leaves)
  | map entries, node, read => by
    rw [toNode] at read
    cases content : toContent entries with
    | error complaint => rw [content] at read; cases read
    | ok nodes =>
      rw [content] at read
      cases read
      exact (isContent_toContent entries content).mapping
  -- single values; what is left is refused
  | unit, _, rfl => Node.isRegular_of_isText rfl
  | absent, _, rfl => Node.isRegular_of_isText rfl
  | flag _, _, rfl => Node.isRegular_of_isText rfl
  | integer _, _, rfl => Node.isRegular_of_isText rfl
  | number _, _, rfl => Node.isRegular_of_isText rfl
  | text _, _, rfl => Node.isRegular_of_isText rfl

/-- What is taken from the entries of an offer are keys and values in turns. -/
theorem isContent_toContent : ∀ (entries : List (Offer × Offer)) {content : List Node},
    toContent entries = .ok content → Node.IsContent content
  | [], _, read => by
    cases read
    exact .nil
  | (key, value) :: rest, content, read => by
    rw [toContent] at read
    cases first : key.toLeaf with
    | error complaint => rw [first] at read; cases read
    | ok name =>
      cases second : value.toNode with
      | error complaint => rw [first, second] at read; cases read
      | ok node =>
        cases others : toContent rest with
        | error complaint => rw [first, second, others] at read; cases read
        | ok nodes =>
          rw [first, second, others] at read
          cases read
          exact .cons (isText_of_toLeaf first) (isRegular_toNode value second)
            (isContent_toContent rest others)

end

end Offer

/-! ### Nodes of YAML texts -/

namespace Yaml.Reader

/-- What a scalar means is a text, if it is a node at all. -/
theorem isText_of_nodeOf? {meaning : Meaning} {node : Node} (same : nodeOf? meaning = some node) :
    node.isText = true := by
  cases meaning <;> cases same <;> rfl

/-- The node of a scalar is regular, if there is one. -/
theorem ends_scalarNode (context : Context) (style : ScalarStyle) (tag : Option Tag)
    (text : String) : Ends (scalarNode context style tag text) Node.IsRegular := by
  rw [scalarNode]
  cases meaning style tag text with
  | error complaint => exact ends_throw _
  | ok meaning =>
    dsimp only
    split
    next node same => exact ends_pure (Node.isRegular_of_isText (isText_of_nodeOf? same))
    next => exact ends_throw _

/-- What holds of every item wherever it is read holds of the items of a list. -/
theorem ends_items {α : Type} {read : Reader α} {holds : α → Prop}
    (each : ∀ context tree, Ends (read context tree) holds) (context : Context) (index : Nat)
    (trees : List Tree) :
    Ends (items read context index trees) fun values => ∀ value ∈ values, holds value := by
  induction trees generalizing index with
  | nil => exact ends_pure (List.forall_mem_nil _)
  | cons tree rest ih =>
    rw [items]
    refine (each _ tree).bind fun value held => (ih (index + 1)).bind fun values others => ?_
    exact ends_pure (List.forall_mem_cons.2 ⟨held, others⟩)

/-- An item of a sequence ends as a text, or not at all. -/
theorem ends_nodeItem (context : Context) (tree : Tree) :
    Ends (Node.scalar <$> textAs "a scalar" context tree) fun node => node.isText = true := by
  rw [map_eq_pure_bind]
  exact (ends_any _).bind fun _ _ => ends_pure rfl

/-- If the values end as regular nodes, the entries end as keys and values in turns. -/
theorem ends_nodeEntries {read : Reader Node}
    (regular : ∀ context tree, Ends (read context tree) Node.IsRegular) (context : Context)
    (pairs : List (Tree × Tree)) : Ends (nodeEntries read context pairs) Node.IsContent := by
  induction pairs with
  | nil => exact ends_pure .nil
  | cons entry rest ih =>
    obtain ⟨key, tree⟩ := entry
    rw [nodeEntries]
    refine (ends_any _).bind fun name _ => (regular _ _).bind fun value valueRegular => ?_
    exact ih.bind fun others turns => ends_pure (.cons rfl valueRegular turns)

/-- **Wherever a YAML text is read**, a node that is found there is regular.  The induction is on
the levels of nesting; a reference may lead anywhere. -/
theorem ends_nodeWithin (levels : Nat) (context : Context) (tree : Tree) :
    Ends (nodeWithin levels context tree) Node.IsRegular := by
  induction levels generalizing context tree with
  | zero =>
    -- no level is left for a collection
    rw [nodeWithin]
    refine (ends_any _).bind fun target _ => ?_
    cases target with
    | scalar style tag text => exact ends_scalarNode context style tag text
    | void => exact ends_pure (Node.isRegular_of_isText rfl)
    | _ => exact ends_throw _
  | succ levels ih =>
    rw [nodeWithin]
    refine (ends_any _).bind fun target _ => ?_
    cases target with
    | scalar style tag text => exact ends_scalarNode context style tag text
    | sequence tag trees =>
      dsimp only
      rw [map_eq_pure_bind]
      exact (ends_items ends_nodeItem context 0 trees).bind fun nodes texts =>
        ends_pure (Node.isRegular_sequence texts)
    | mapping tag pairs =>
      dsimp only
      rw [map_eq_pure_bind]
      exact (ends_nodeEntries ih context pairs).bind fun content turns =>
        ends_pure turns.mapping
    | void => exact ends_pure (Node.isRegular_of_isText rfl)
    | _ => exact ends_throw _

end Yaml.Reader

/-! ### Nodes of JSON texts -/

namespace Json.Reader

open Attempt

/-- Items that are read as texts are texts. -/
theorem isText_of_mapM_nodeItem {items : List Tree} {nodes : List Node}
    (read : (items.mapM nodeItem).outcome.value = .ok nodes) :
    ∀ node ∈ nodes, node.isText = true := by
  induction items generalizing nodes with
  | nil =>
    cases read
    exact List.forall_mem_nil _
  | cons item rest ih =>
    rw [List.mapM_cons] at read
    obtain ⟨node, first, read⟩ := exists_of_bind_ok read
    obtain ⟨others, second, read⟩ := exists_of_bind_ok read
    cases read
    rw [nodeItem, map_eq_pure_bind] at first
    obtain ⟨text, -, first⟩ := exists_of_bind_ok first
    cases first
    exact List.forall_mem_cons.2 ⟨rfl, ih second⟩

mutual

/-- **Wherever a JSON text is read**, a node that is found there is regular. -/
theorem isRegular_node : ∀ (tree : Tree) (levels : Nat) {found : Node},
    (node tree levels).outcome.value = .ok found → found.IsRegular
  | .array items, levels + 1, found, read => by
    rw [node, enter, map_eq_pure_bind] at read
    obtain ⟨nodes, items, read⟩ := exists_of_bind_ok read
    cases read
    exact Node.isRegular_sequence (isText_of_mapM_nodeItem items)
  | .object entries, levels + 1, found, read => by
    rw [node, map_eq_pure_bind] at read
    obtain ⟨content, members, read⟩ := exists_of_bind_ok read
    cases read
    exact (isContent_nodeMembers entries levels members).mapping
  -- faults are refused, and so are collections where no level is left
  | .null, _, _, rfl => Node.isRegular_of_isText rfl
  | .flag _, _, _, rfl => Node.isRegular_of_isText rfl
  | .number (.integer _), _, _, rfl => Node.isRegular_of_isText rfl
  | .number (.real _), _, _, rfl => Node.isRegular_of_isText rfl
  | .text _, _, _, rfl => Node.isRegular_of_isText rfl

theorem isContent_nodeMembers : ∀ (entries : List (Tree × Tree)) (levels : Nat)
    {content : List Node}, (nodeMembers entries levels).outcome.value = .ok content →
      Node.IsContent content
  | [], _, _, read => by
    cases read
    exact .nil
  | (.text name, member) :: rest, levels, content, read => by
    rw [nodeMembers] at read
    obtain ⟨value, second, read⟩ := exists_of_bind_ok read
    obtain ⟨others, third, read⟩ := exists_of_bind_ok read
    cases read
    exact .cons rfl (isRegular_node member levels second)
      (isContent_nodeMembers rest levels third)

end

end Json.Reader

/-! ### Pairs of regular nodes -/

namespace Node

/-- **A value is unlisted** if it is neither a list nor nothing. -/
def IsUnlisted (value : Node) : Prop := value.kind = .scalar ∨ value.kind = .mapping

/-- The items of a regular node are in order, so as a list of texts it can be wrong in its kind
only. -/
theorem IsOrderly.textsMisfit?_eq {value : Node} (orderly : value.IsOrderly) :
    value.textsMisfit? = none ∧ ¬ value.IsUnlisted
      ∨ value.textsMisfit? = some (.notTexts value.kind) ∧ value.IsUnlisted := by
  cases value with
  | null => exact .inl ⟨rfl, nofun⟩
  | scalar text => exact .inr ⟨rfl, .inl rfl⟩
  | sequence items =>
    refine .inl ⟨List.findSome?_eq_none_iff.2 fun item held => ?_, nofun⟩
    exact item.textMisfit?_eq_none_iff.2 (orderly.items rfl item held)
  | mapping style content => exact .inr ⟨rfl, .inr rfl⟩

/-- **What can be wrong with a child of a regular mapping**: it is a value, and no list. -/
theorem IsRegular.misfitAt?_eq {style : Style} {content : List Node}
    (regular : (mapping style content).IsRegular) {place : Nat} {child : Node}
    (found : content[place]? = some child) :
    child.misfitAt? place = none ∧ ¬ (place % 2 = 1 ∧ child.IsUnlisted)
      ∨ child.misfitAt? place = some (.notTexts child.kind) ∧ place % 2 = 1
        ∧ child.IsUnlisted := by
  obtain ⟨orderly, children⟩ := (isRegular_iff _).1 regular
  rcases Nat.mod_two_eq_zero_or_one place with even | odd
  · refine .inl ⟨?_, fun both => ?_⟩
    · rw [misfitAt?, if_pos even, textMisfit?_eq_none_iff]
      exact orderly.keys rfl place child found even
    · rw [even] at both
      cases both.1
  · rw [misfitAt?, if_neg (by rw [odd]; decide)]
    have inner := ((isRegular_iff _).1 (children child (List.mem_of_getElem? found))).1
    obtain ⟨right, listed⟩ | ⟨wrong, unlisted⟩ := inner.textsMisfit?_eq
    · exact .inl ⟨right, fun both => listed both.2⟩
    · exact .inr ⟨wrong, odd, unlisted⟩

end Node

namespace IgnoreOnly

/-- **A node has an unlisted value** for one of its keys. -/
def HasUnlisted (node : Node) : Prop :=
  ∃ style content place value, node = .mapping style content ∧ content[place]? = some value
    ∧ place % 2 = 1 ∧ value.IsUnlisted

/-- **A node is a list of something**, where keys and values are wanted. -/
def IsListed (node : Node) : Prop := ∃ items, node = .sequence items ∧ items ≠ []

/-- Keys and lists take turns in a regular mapping unless a value of it is not a list. -/
theorem takeTurns_iff_of_isRegular {style : Node.Style} {content : List Node}
    (regular : (Node.mapping style content).IsRegular) :
    TakeTurns content ↔ ¬ HasUnlisted (.mapping style content) := by
  constructor
  · rintro turns ⟨style, content, place, value, same, found, odd, unlisted⟩
    cases same
    have right := (value.misfitAt?_eq_none_iff place).2 (turns place value found)
    obtain ⟨-, listed⟩ | ⟨wrong, -⟩ := regular.misfitAt?_eq found
    · exact listed ⟨odd, unlisted⟩
    · cases right.symm.trans wrong
  · intro none place child found
    obtain ⟨right, -⟩ | ⟨-, odd, unlisted⟩ := regular.misfitAt?_eq found
    · exact (child.misfitAt?_eq_none_iff place).1 right
    · exact absurd ⟨style, content, place, child, rfl, found, odd, unlisted⟩ none

/-- **Two things are left to be wrong with a regular node**, and what is reported tells which of
them it is. -/
theorem outcome_of_isRegular {node : Node} (regular : node.IsRegular) :
    (IsListed node ∧ (decode node).outcome.value = .error (.notMapping .sequence))
      ∨ (HasUnlisted node ∧ ∃ kind, (kind = .scalar ∨ kind = .mapping)
        ∧ (decode node).outcome.value = .error (.misfit (.notTexts kind)))
      ∨ ¬ IsListed node ∧ ¬ HasUnlisted node
        ∧ ∃ declared, (decode node).outcome.value = .ok declared := by
  by_cases childless : node.children = []
  · refine .inr (.inr ⟨?_, ?_, [], by rw [decode_of_childless node childless]⟩)
    · rintro ⟨items, rfl, some⟩
      exact some childless
    · rintro ⟨style, content, place, value, rfl, found, -⟩
      cases childless
      cases found
  cases node with
  | null => exact absurd rfl childless
  | scalar text => exact absurd rfl childless
  | sequence items =>
    have filled : items ≠ [] := childless
    exact .inl ⟨⟨items, rfl, filled⟩, by rw [outcome_of_sequence filled]⟩
  | mapping style content =>
    have filled : content ≠ [] := childless
    have even : content.length % 2 = 0 := ((Node.isRegular_iff _).1 regular).1.paired rfl
    have turns_iff := takeTurns_iff_of_isRegular regular
    obtain ⟨turns, done⟩ | ⟨stray, front, child, rest, why, rfl, -, wrong, failed⟩ :=
      outcome_of_even style filled even
    · exact .inr (.inr ⟨nofun, turns_iff.1 turns, _, by rw [done]⟩)
    · -- the first child that does not fit is a value, for the keys are texts
      have found : (front ++ child :: rest)[front.length]? = some child := by simp
      obtain ⟨right, -⟩ | ⟨wrong', -, unlisted⟩ := regular.misfitAt?_eq found
      · cases right.symm.trans wrong
      · cases wrong.symm.trans wrong'
        exact .inr (.inl ⟨not_not.1 (mt turns_iff.2 stray), child.kind, unlisted, by rw [failed]⟩)

/-- **The shape of nodes that are read.**  Whatever a source answers, and wherever in a YAML text
or a JSON text a node is asked for: a node that comes out is regular, all through.  As
`ignore_only`, such a node is refused for two reasons only.  It is a sequence of something, or
one of its values is no list but a scalar or a mapping; so it never lacks a value, and no key
and no path is found not to be a text. -/
theorem read_regular :
    (∀ (offer : Offer) (node : Node), offer.toNode = .ok node → node.IsRegular)
      ∧ (∀ (context : Yaml.Context) (tree : Yaml.Tree),
          Yaml.Reader.Ends (Yaml.Reader.node context tree) Node.IsRegular)
      ∧ (∀ (tree : Json.Tree) (levels : Nat) (node : Node),
          (Json.Reader.node tree levels).outcome.value = .ok node → node.IsRegular)
      ∧ ∀ node : Node, node.IsRegular →
        ((∃ why, (decode node).outcome.value = .error why) ↔ IsListed node ∨ HasUnlisted node)
          ∧ ∀ why, (decode node).outcome.value = .error why →
            why = .notMapping .sequence ∨ why = .misfit (.notTexts .scalar)
              ∨ why = .misfit (.notTexts .mapping) := by
  refine ⟨fun offer _ => offer.isRegular_toNode, fun context tree => ?_,
    fun tree levels _ => Json.Reader.isRegular_node tree levels, fun node regular => ?_⟩
  · exact Yaml.Reader.ends_nodeWithin context.levels context tree
  · obtain ⟨listed, failed⟩ | ⟨unlisted, kind, unfit, failed⟩ | ⟨unlist, listed, declared, done⟩ :=
      outcome_of_isRegular regular
    · refine ⟨iff_of_true ⟨_, failed⟩ (.inl listed), fun why error => ?_⟩
      cases failed.symm.trans error
      exact .inl rfl
    · refine ⟨iff_of_true ⟨_, failed⟩ (.inr unlisted), fun why error => ?_⟩
      cases failed.symm.trans error
      obtain rfl | rfl := unfit
      · exact .inr (.inl rfl)
      · exact .inr (.inr rfl)
    · refine ⟨iff_of_false ?_ (not_or.2 ⟨unlist, listed⟩), fun why error => ?_⟩
      · rintro ⟨why, error⟩
        cases done.symm.trans error
      · cases done.symm.trans error

end IgnoreOnly

end BreakCheck
