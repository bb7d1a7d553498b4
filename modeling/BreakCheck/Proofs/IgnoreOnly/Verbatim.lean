/-
BreakCheck/Proofs/IgnoreOnly/Verbatim.lean

Pairs that are read as they are spelled.

Where `ignore_only` is written out, an ID is a key and its paths are the items of a sequence.  A
plain scalar would otherwise mean a number, a boolean or null if it looked like one, and a tag
would force a meaning on it.  But keys and items are asked for as texts, so what stands there is
the text, character by character, however it is quoted and whatever tag it has.

Nor do the tags of the collections matter.  A collection with a tag of the document is offered
as one of several choices with a content, and the content is read in its place
(`toNode_choiceOffer`); all other tags are passed over.

A mapping that is written like this is a `SpelledMap`; it tells everything about how it is
written, so what it declares can be read off it.  `Tree.bare` forgets how a tree is written and
keeps what is written.

Main result: `read_verbatim`.
-/
import BreakCheck.Node.Offer
import BreakCheck.Proofs.ConfigFile.Shown
import BreakCheck.Proofs.IgnoreOnly.Codec
import BreakCheck.Proofs.Yaml.Deferral

namespace BreakCheck

namespace Yaml

/-! ### Pairs that are spelled out -/

/-- A scalar of any style, with any tag or none. -/
structure Spelling where
  style : ScalarStyle
  tag : Option Tag
  text : String

/-- An ID with a sequence of paths. -/
structure SpelledEntry where
  key : Spelling
  tag : Option Tag
  paths : List Spelling

/-- A mapping of IDs to sequences of paths. -/
structure SpelledMap where
  tag : Option Tag
  entries : List SpelledEntry

def Spelling.tree (scalar : Spelling) : Tree := .scalar scalar.style scalar.tag scalar.text

/-- A key and its value. -/
def SpelledEntry.trees (entry : SpelledEntry) : Tree × Tree :=
  (entry.key.tree, .sequence entry.tag (entry.paths.map Spelling.tree))

/-- The node of a YAML document. -/
def SpelledMap.tree (spelled : SpelledMap) : Tree :=
  .mapping spelled.tag (spelled.entries.map SpelledEntry.trees)

/-- The pair that an entry declares, verbatim. -/
def SpelledEntry.declared (entry : SpelledEntry) : Exemption :=
  ⟨entry.key.text, entry.paths.map Spelling.text⟩

/-- **The pairs that are declared**: one for each entry, in the order in which they stand there. -/
def SpelledMap.declared (spelled : SpelledMap) : List Exemption :=
  spelled.entries.map SpelledEntry.declared

/-! ### Spelling aside -/

namespace Tree

mutual

/-- A tree without styles and tags: all scalars plain, and only their texts left. -/
def bare : Tree → Tree
  | scalar _ _ text => scalar .plain none text
  | sequence _ items => sequence none (itemsBare items)
  | mapping _ entries => mapping none (entriesBare entries)
  | tree => tree

/-- Items without styles and tags. -/
def itemsBare : List Tree → List Tree
  | [] => []
  | item :: rest => item.bare :: itemsBare rest

/-- Keys and values without styles and tags. -/
def entriesBare : List (Tree × Tree) → List (Tree × Tree)
  | [] => []
  | (key, value) :: rest => (key.bare, value.bare) :: entriesBare rest

end

theorem itemsBare_eq (items : List Tree) : itemsBare items = items.map bare := by
  induction items with
  | nil => rfl
  | cons item rest ih => rw [itemsBare, ih, List.map_cons]

theorem entriesBare_eq (entries : List (Tree × Tree)) :
    entriesBare entries = entries.map fun entry => (entry.1.bare, entry.2.bare) := by
  induction entries with
  | nil => rfl
  | cons entry rest ih => rw [entriesBare, ih, List.map_cons]

end Tree

/-- The plainest way to write a pair. -/
def plainTrees (entry : Exemption) : Tree × Tree :=
  (.scalar .plain none entry.id, .sequence none (entry.paths.map (.scalar .plain none)))

/-- Plain texts can be told from their trees. -/
theorem plainTrees_injective : Function.Injective plainTrees := by
  rintro ⟨id, paths⟩ ⟨id', paths'⟩ same
  have same_id : id = id' := (Tree.scalar.inj (congrArg Prod.fst same)).2.2
  have same_paths : paths.map (Tree.scalar .plain none) = paths'.map (Tree.scalar .plain none) :=
    (Tree.sequence.inj (congrArg Prod.snd same)).2
  have scalar_injective : Function.Injective (Tree.scalar .plain none) :=
    fun _ _ same => (Tree.scalar.inj same).2.2
  rw [same_id, List.map_injective_iff.2 scalar_injective same_paths]

/-- **Spelling aside, a mapping is what it declares.** -/
theorem SpelledMap.bare_tree (spelled : SpelledMap) :
    spelled.tree.bare = .mapping none (spelled.declared.map plainTrees) := by
  have entry_bare (entry : SpelledEntry) :
      (entry.trees.1.bare, entry.trees.2.bare) = plainTrees entry.declared := by
    show (Tree.bare (.scalar ..), Tree.bare (.sequence ..)) = plainTrees ⟨_, _⟩
    rw [Tree.bare, Tree.bare, Tree.itemsBare_eq, List.map_map, plainTrees, List.map_map]
    rfl
  rw [tree, Tree.bare, Tree.entriesBare_eq, List.map_map, declared, List.map_map]
  exact congrArg _ (List.map_congr_left fun entry _ => entry_bare entry)

/-- **What is declared does not hang on the spelling**: maps with the same bare tree declare the
same pairs. -/
theorem SpelledMap.declared_eq_of_bare {spelled spelled' : SpelledMap}
    (same : spelled.tree.bare = spelled'.tree.bare) : spelled.declared = spelled'.declared := by
  rw [bare_tree, bare_tree] at same
  exact List.map_injective_iff.2 plainTrees_injective (Tree.mapping.inj same).2

/-! ### Reading the spelled-out pairs -/

/-- The node that says nothing but what is declared. -/
def nodeOf (declared : List Exemption) : Node :=
  Reader.textsNode (declared.map fun entry => (entry.id, entry.paths))

/-- The node of some pairs is taken apart into these pairs. -/
theorem value_decode_nodeOf (declared : List Exemption) :
    (IgnoreOnly.decode (nodeOf declared)).outcome.value = .ok declared := by
  by_cases none : declared = []
  · subst none
    rw [IgnoreOnly.decode_of_childless (nodeOf []) rfl]
  · rw [nodeOf, ConfigFile.decode_textsNode none]

namespace Reader

/-- Items that are read alike wherever they stand. -/
theorem items_map {α β : Type} (read : Reader α) (tree : β → Tree) (value : β → α)
    (each : ∀ context b, read context (tree b) = pure (value b)) (context : Context)
    (index : Nat) (written : List β) :
    items read context index (written.map tree) = pure (written.map value) := by
  induction written generalizing index with
  | nil => rfl
  | cons first rest ih =>
    rw [List.map_cons, items, each, pure_bind, ih, pure_bind, List.map_cons]

/-- A text is asked for, and the text of a scalar is given. -/
theorem textAs_spelling (wanted : String) (context : Context) (scalar : Spelling) :
    textAs wanted context scalar.tree = pure scalar.text := rfl

/-- A list of paths is read verbatim, whichever way they are spelled. -/
theorem nodeWithin_paths (levels : Nat) (context : Context) (entry : SpelledEntry) :
    nodeWithin (levels + 1) context entry.trees.2
      = pure (.sequence (entry.declared.paths.map Node.scalar)) := by
  have texts : items (fun c t => Node.scalar <$> textAs "a scalar" c t) context 0
      (entry.paths.map Spelling.tree) = pure (entry.paths.map fun path => .scalar path.text) :=
    items_map (fun c t => Node.scalar <$> textAs "a scalar" c t) Spelling.tree _
      (fun _ _ => rfl) context 0 entry.paths
  show Node.sequence <$> items _ context 0 (entry.paths.map Spelling.tree) = _
  rw [texts, map_pure, SpelledEntry.declared, List.map_map]
  rfl

/-- Entries are read verbatim, IDs and paths. -/
theorem nodeEntries_spelled (levels : Nat) (context : Context) (entries : List SpelledEntry) :
    nodeEntries (nodeWithin (levels + 1)) context (entries.map SpelledEntry.trees)
      = pure (nodeOf (entries.map SpelledEntry.declared)).children := by
  induction entries with
  | nil => rfl
  | cons entry rest ih =>
    have key : textAs "a scalar" context entry.trees.1 = pure entry.key.text :=
      textAs_spelling _ _ _
    rw [List.map_cons, nodeEntries, key, pure_bind, nodeWithin_paths, pure_bind, ih, pure_bind]
    rfl

/-- **A spelled map is read as the node of what it declares**, within two levels or more. -/
theorem node_spelled (spelled : SpelledMap) {context : Context} (enough : 2 ≤ context.levels) :
    node context spelled.tree = pure (nodeOf spelled.declared) := by
  obtain ⟨document, path, levels⟩ := context
  -- one level for the mapping, one for its sequences
  obtain ⟨levels, rfl⟩ := Nat.exists_eq_add_of_le' enough
  show Node.mapping .plain <$> nodeEntries (nodeWithin (levels + 1)) _ _ = _
  rw [nodeEntries_spelled, map_pure]
  rfl

/-- It is then taken apart into the pairs it declares, and no reference has been followed. -/
theorem result_decoder_spelled (spelled : SpelledMap) {context : Context}
    (enough : 2 ≤ context.levels) (followed : Nat) :
    result ((IgnoreOnly.decoder : Reader (List Exemption)) context spelled.tree) followed
      = .ok (spelled.declared, followed) := by
  show result (node context spelled.tree >>= _) followed = _
  rw [node_spelled spelled enough, pure_bind, result_lift, Attempt.outcome_mapError,
    value_decode_nodeOf]
  rfl

end Reader

/-! ### Offering the spelled-out pairs -/

/-- How a collection is offered: if its tag belongs to the document, as the choice of that
name. -/
def choiceOffer (tag : Option Tag) (content : Offer) : Offer :=
  match tag.bind Tag.localName? with
  | some name => .tagged name content
  | none => content

/-- A tag changes nothing. -/
theorem toNode_choiceOffer (tag : Option Tag) (content : Offer) :
    (choiceOffer tag content).toNode = content.toNode := by
  unfold choiceOffer
  split <;> rfl

/-- A sequence of paths, as it is offered to one who asks for texts. -/
def SpelledEntry.offer (entry : SpelledEntry) : Offer :=
  choiceOffer entry.tag (.sequence (entry.paths.map fun path => .text path.text))

/-- A mapping, as it is offered to one who asks for texts as keys. -/
def SpelledMap.offer (spelled : SpelledMap) : Offer :=
  choiceOffer spelled.tag <|
    .map (spelled.entries.map fun entry => (.text entry.key.text, entry.offer))

/-- The offered paths of an entry become the list of these paths. -/
theorem toNode_offer_entry (entry : SpelledEntry) :
    entry.offer.toNode = .ok (.sequence (entry.declared.paths.map Node.scalar)) := by
  have leaves (paths : List Spelling) : (paths.map fun path => Offer.text path.text).mapM
      Offer.toLeaf = .ok ((paths.map Spelling.text).map Node.scalar) := by
    induction paths with
    | nil => rfl
    | cons path rest ih =>
      rw [List.map_cons, List.mapM_cons, ih]
      rfl
  rw [SpelledEntry.offer, toNode_choiceOffer, Offer.toNode, leaves]
  rfl

/-- An offered map becomes the node of what it declares. -/
theorem toNode_offer (spelled : SpelledMap) :
    spelled.offer.toNode = .ok (nodeOf spelled.declared) := by
  have turns (entries : List SpelledEntry) :
      Offer.toContent (entries.map fun entry => (.text entry.key.text, entry.offer))
        = .ok (nodeOf (entries.map SpelledEntry.declared)).children := by
    induction entries with
    | nil => rfl
    | cons entry rest ih =>
      rw [List.map_cons, Offer.toContent, toNode_offer_entry, ih]
      rfl
  rw [SpelledMap.offer, toNode_choiceOffer, Offer.toNode, turns]
  rfl

end Yaml

namespace IgnoreOnly

open Yaml

/-- **Pairs are read verbatim.**  Let IDs and paths be scalars of any style, with any tags, in
collections with any tags.  Wherever such a mapping stands in a YAML document it is read, unless
it is nested too deep, as the pairs that it declares: one for each entry, in document order, with
the texts of the scalars as they are.  The same comes out where the tags make a choice of the
collections.  So mappings that differ in nothing but styles and tags are read as the same
pairs. -/
theorem read_verbatim :
    (∀ (spelled : SpelledMap) (context : Context) (followed : Nat), 2 ≤ context.levels →
        Reader.result ((decoder : Reader (List Exemption)) context spelled.tree) followed
          = .ok (spelled.declared, followed))
      ∧ (∀ (spelled : SpelledMap) (text : String), Yaml.isWhole text = true →
          (Document.ofText text).root = spelled.tree →
          (Yaml.read (decoder : Reader (List Exemption)) text).outcome.value
            = .ok spelled.declared)
      ∧ (∀ spelled : SpelledMap, ∃ node, spelled.offer.toNode = .ok node
          ∧ (decode node).outcome.value = .ok spelled.declared)
      ∧ ∀ (spelled spelled' : SpelledMap) (context : Context) (followed : Nat),
        spelled.tree.bare = spelled'.tree.bare → 2 ≤ context.levels →
        Reader.result ((decoder : Reader (List Exemption)) context spelled.tree) followed
          = Reader.result ((decoder : Reader (List Exemption)) context spelled'.tree) followed := by
  refine ⟨fun spelled context followed enough => ?_, fun spelled text whole root => ?_,
    fun spelled => ?_, fun spelled spelled' context followed same enough => ?_⟩
  · exact Reader.result_decoder_spelled spelled enough followed
  · refine read_eq_ok_iff.2 ⟨whole, 0, ?_⟩
    rw [root]
    exact Reader.result_decoder_spelled spelled (show 2 ≤ maxDepth by decide) 0
  · exact ⟨nodeOf spelled.declared, toNode_offer spelled, value_decode_nodeOf spelled.declared⟩
  · rw [Reader.result_decoder_spelled spelled enough, Reader.result_decoder_spelled spelled' enough,
      SpelledMap.declared_eq_of_bare same]

/-- Neither what looks like a number nor what looks like null is taken for it, not even where a
tag asks for it. -/
example (document : Document) :
    Reader.result ((decoder : Reader (List Exemption)) ⟨document, [], 2⟩
        (.mapping (some (.ofText "!keep")) [(.scalar .plain none "1.10", .sequence none
          [.scalar .plain (some (.common "int")) "0x1F", .scalar .plain none "~"])])) 0
      = .ok ([⟨"1.10", ["0x1F", "~"]⟩], 0) := rfl

end IgnoreOnly

end BreakCheck
