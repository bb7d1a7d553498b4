/-
BreakCheck/Proofs/Yaml/JsonTree.lean

The tree of a JSON text that is read as YAML.

The tokens of flat data are put together to a tree that shows the data with every text
as it comes back.  This needs all keys to be recognised as keys: a key that is too long
for that stands there like an item of a list, and the colon behind it is a fault
(`Data.hasShortKeys`).

As with runs of the scanner, `Yields` has both outcomes.
-/
import BreakCheck.Proofs.Yaml.JsonTokens
import BreakCheck.Proofs.Yaml.Shown
import BreakCheck.Yaml.Tree.Composition

namespace BreakCheck

namespace Data

open Yaml Yaml.Scan

mutual

/-- Whether all keys are recognised as keys. -/
def hasShortKeys : Data → Bool
  | map _ entries => entriesHaveShortKeys entries
  | _ => true

/-- Whether the keys of the entries of a map, and all keys of their values, are. -/
def entriesHaveShortKeys : List (Data × Data) → Bool
  | [] => true
  | (text name, value) :: rest =>
    isShortKey name && value.hasShortKeys && entriesHaveShortKeys rest
  | (_, value) :: rest => value.hasShortKeys && entriesHaveShortKeys rest

end

mutual

/-- Data with every text as it comes back. -/
def requoted : Data → Data
  | text value => text (requote value)
  | flag value => flag value
  | list items => list (itemsRequoted items)
  | map _ entries => map entries.length (entriesRequoted entries)
  | null => null

/-- Items with every text as it comes back. -/
def itemsRequoted : List Data → List Data
  | [] => []
  | item :: rest => item.requoted :: itemsRequoted rest

/-- Entries with every text as it comes back. -/
def entriesRequoted : List (Data × Data) → List (Data × Data)
  | [] => []
  | (key, value) :: rest => (key.requoted, value.requoted) :: entriesRequoted rest

end

mutual

/-- The tree of flat data as JSON. -/
def flowTree : Data → Tree
  | text value => .scalar .doubleQuoted none (requote value)
  | flag value => .scalar .plain none (flagText value)
  | list items => .sequence none (itemTrees items)
  | map _ entries => .mapping none (entryTrees entries)
  | null => .missing

/-- The trees of the items of a list. -/
def itemTrees : List Data → List Tree
  | [] => []
  | item :: rest => item.flowTree :: itemTrees rest

/-- The trees of the entries of a map. -/
def entryTrees : List (Data × Data) → List (Tree × Tree)
  | [] => []
  | (key, value) :: rest => (key.flowTree, value.flowTree) :: entryTrees rest

end

end Data

namespace Data

open Yaml Yaml.Scan

/-! ### What the tree shows -/

theorem length_entriesRequoted (entries : List (Data × Data)) :
    (entriesRequoted entries).length = entries.length := by
  induction entries with
  | nil => rfl
  | cons entry rest ih => exact congrArg (· + 1) ih

theorem data?_text (value : String) : (text value).flowTree.data? = some (text value).requoted := by
  rw [flowTree, Tree.data?, scalarData?]
  rfl

theorem itemData?_texts {items : List Data} (texts : items.all isText = true) :
    Tree.itemData? (itemTrees items) = some (itemsRequoted items) := by
  induction items with
  | nil => rfl
  | cons item rest ih =>
    rw [List.all_cons, Bool.and_eq_true] at texts
    cases item with
    | text value =>
      rw [itemTrees, Tree.itemData?, data?_text, ih texts.2]
      rfl
    | _ => simp [isText] at texts

mutual

/-- **The tree of data shows the data** as it comes back. -/
theorem data?_flowTree : ∀ (data : Data), data.isFlat = true →
    data.flowTree.data? = some data.requoted
  | text value, _ => data?_text value
  | flag true, _ => rfl
  | flag false, _ => rfl
  | list items, flat => by
    rw [flowTree, Tree.data?, itemData?_texts flat]
    rfl
  | map _ entries, flat => by
    rw [flowTree, Tree.data?, entryData?_entryTrees entries flat, requoted, Option.map_some,
      length_entriesRequoted]
  | null, flat => by simp [isFlat] at flat

theorem entryData?_entryTrees : ∀ (entries : List (Data × Data)), entriesFlat entries = true →
    Tree.entryData? (entryTrees entries) = some (entriesRequoted entries)
  | [], _ => rfl
  | (key, value) :: rest, flat => by
    rw [entriesFlat, Bool.and_eq_true, Bool.and_eq_true] at flat
    obtain ⟨⟨isText, value_flat⟩, rest_flat⟩ := flat
    cases key with
    | text name =>
      rw [entryTrees, Tree.entryData?, data?_text, data?_flowTree value value_flat,
        entryData?_entryTrees rest rest_flat]
      rfl
    | _ => simp [Data.isText] at isText

end

end Data

namespace Yaml.Progress

open Scan

variable {p : Progress} {more : List Token} {place : Place} {fuel : Nat}

/-- **What comes of tokens**: a tree, with the tokens behind it left, or a fault. -/
def Yields {α : Type} (good : Bool) (result : α × Progress) (tree : α) (p : Progress)
    (more : List Token) : Prop :=
  match good with
  | true => ∃ size, result = (tree, { p with tokens := more, size })
  | false => result.2.isOver = true

theorem Yields.map {α β : Type} {good : Bool} {result : α × Progress} {tree : α} (f : α → β)
    (yields : Yields good result tree p more) :
    Yields good (f result.1, result.2) (f tree) p more := by
  cases good with
  | false => exact yields
  | true =>
    obtain ⟨size, rfl⟩ := yields
    exact ⟨size, rfl⟩

/-- A scalar by itself. -/
theorem node_scalar {style : ScalarStyle} {text : String}
    (starts : p.tokens = .scalar style text :: more) :
    node place (fuel + 1) p
      = (.scalar style none text, { p with tokens := more, size := p.size + 1 }) := by
  simp [node, properties, starts, skip, start, count, keep]

theorem node_sequence (starts : p.tokens = .flowSequenceStart :: more) :
    node place (fuel + 1) p
      = (.sequence none (flowItems true fuel p.skip.count).1,
          (flowItems true fuel p.skip.count).2) := by
  simp [node, properties, starts, start, keep]

theorem node_mapping (starts : p.tokens = .flowMappingStart :: more) :
    node place (fuel + 1) p
      = (.mapping none (flowEntries true fuel p.skip.count).1,
          (flowEntries true fuel p.skip.count).2) := by
  simp [node, properties, starts, start, keep]

/-- An item of a list, the first one or behind a comma. -/
theorem flowItems_scalar (first : Bool) {style : ScalarStyle} {text : String} {tree : Tree}
    {q' : Progress}
    (starts : p.tokens = (if first then [] else [.flowEntry]) ++ .scalar style text :: more)
    (item : node .flow fuel (if first then p else p.skip) = (tree, q'))
    (going : q'.fault = none) :
    flowItems first (fuel + 1) p
      = (tree :: (flowItems false fuel q').1, (flowItems false fuel q').2) := by
  cases first with
  | true =>
    have next : p.tokens = .scalar style text :: more := starts
    rw [if_pos rfl] at item
    simp [flowItems, next, item, isOver, going]
  | false =>
    have comma : p.tokens = .flowEntry :: .scalar style text :: more := starts
    have next : p.skip.tokens = .scalar style text :: more := by rw [skip, comma]; rfl
    rw [if_neg (by simp)] at item
    simp [flowItems, comma, next, item, isOver, going]

/-- The items of a list, from the first one on or from a comma on. -/
theorem flowItems_texts {items : List Data} (texts : items.all Data.isText = true)
    (starts : p.tokens = Data.itemTokens items ++ .flowSequenceEnd :: more)
    (going : p.fault = none) (enough : (Data.itemTokens items).length < fuel) :
    ∃ size, flowItems false fuel p = (Data.itemTrees items, { p with tokens := more, size }) := by
  induction items generalizing p fuel with
  | nil =>
    cases fuel with
    | zero => cases enough
    | succ fuel =>
      refine ⟨p.size + 1, ?_⟩
      simp [flowItems, starts, Data.itemTokens, Data.itemTrees, skip, count]
  | cons item rest ih =>
    rw [List.all_cons, Bool.and_eq_true] at texts
    cases item with
    | text value =>
      simp only [Data.itemTokens, Data.flowTokens, List.cons_append, List.nil_append,
        List.length_cons] at starts enough
      obtain ⟨fuel, rfl⟩ : ∃ n, fuel = n + 2 := ⟨fuel - 2, by omega⟩
      have next : p.skip.tokens
          = textToken value :: (Data.itemTokens rest ++ .flowSequenceEnd :: more) := by
        rw [skip, starts]
        rfl
      have enough : (Data.itemTokens rest).length < fuel + 1 := by omega
      obtain ⟨size, others⟩ := ih texts.2 (p := { p with
        tokens := Data.itemTokens rest ++ .flowSequenceEnd :: more, size := p.size + 1 })
        rfl going enough
      refine ⟨size, ?_⟩
      rw [flowItems_scalar false starts (node_scalar next) going]
      exact congrArg (fun result => (Data.flowTree (.text value) :: result.1, result.2)) others
    | _ => simp [Data.isText] at texts

/-- **A list of texts.** -/
theorem node_list {items : List Data} (texts : items.all Data.isText = true)
    (starts : p.tokens = (Data.list items).flowTokens ++ more) (going : p.fault = none)
    (enough : (Data.list items).flowTokens.length ≤ fuel) :
    ∃ size, node place fuel p = ((Data.list items).flowTree, { p with tokens := more, size }) := by
  cases items with
  | nil =>
    simp only [Data.flowTokens, List.length_cons, List.length_nil, List.cons_append,
      List.nil_append] at starts enough
    obtain ⟨fuel, rfl⟩ : ∃ n, fuel = n + 2 := ⟨fuel - 2, by omega⟩
    rw [node_sequence starts]
    refine ⟨p.size + 2, ?_⟩
    simp [flowItems, skip, count, starts, Data.flowTree, Data.itemTrees]
  | cons item rest =>
    rw [List.all_cons, Bool.and_eq_true] at texts
    cases item with
    | text value =>
      simp only [Data.flowTokens, List.cons_append, List.nil_append, List.append_assoc,
        List.length_cons, List.length_append, List.length_nil] at starts enough
      obtain ⟨fuel, rfl⟩ : ∃ n, fuel = n + 3 := ⟨fuel - 3, by omega⟩
      have next : p.skip.count.tokens
          = textToken value :: (Data.itemTokens rest ++ .flowSequenceEnd :: more) := by
        rw [count, skip, starts]
        rfl
      have enough : (Data.itemTokens rest).length < fuel + 1 := by omega
      obtain ⟨size, others⟩ := flowItems_texts texts.2 (p := { p with
        tokens := Data.itemTokens rest ++ .flowSequenceEnd :: more, size := p.size + 1 + 1 })
        rfl going enough
      refine ⟨size, ?_⟩
      rw [node_sequence starts, flowItems_scalar true next (node_scalar next) going]
      exact congrArg (fun result =>
        (Tree.sequence none (Data.flowTree (.text value) :: result.1), result.2)) others
    | _ => simp [Data.isText] at texts

/-! ### Maps -/

/-- An entry of a map, the first one or behind a comma. -/
theorem flowEntries_key (first : Bool) {key value : Tree} {q q' : Progress} {others : List Token}
    (starts : p.tokens = (if first then [] else [.flowEntry]) ++ .key :: more)
    (name : nodeUnless [.value, .flowEntry, .flowMappingEnd] .flow fuel
      (if first then p.skip else p.skip.skip) = (key, q))
    (going : q.fault = none) (colon : q.tokens = .value :: others)
    (held : nodeUnless [.flowEntry, .flowMappingEnd] .flow fuel q.skip = (value, q')) :
    flowEntries first (fuel + 1) p
      = if q'.isOver then ([(key, value)], q')
        else ((key, value) :: (flowEntries false fuel q').1, (flowEntries false fuel q').2) := by
  cases first with
  | true =>
    have next : p.tokens = .key :: more := starts
    rw [if_pos rfl] at name
    simp [flowEntries, next, name, isOver, going, colon, held]
    rfl
  | false =>
    have comma : p.tokens = .flowEntry :: .key :: more := starts
    have next : p.skip.tokens = .key :: more := by rw [skip, comma]; rfl
    rw [if_neg (by simp)] at name
    simp [flowEntries, comma, next, name, isOver, going, colon, held]
    rfl

/-- There is a fault where a colon stands instead of a comma. -/
theorem flowEntries_value (colon : p.tokens = .value :: more) :
    (flowEntries false fuel p).2.isOver = true := by
  cases fuel with
  | zero => rfl
  | succ fuel => simp [flowEntries, colon, fail, isOver]

/-- An entry that does not begin with a key: what is there has no value. -/
theorem flowEntries_scalar (first : Bool) {style : ScalarStyle} {text : String}
    (starts : p.tokens = (if first then [] else [.flowEntry]) ++ .scalar style text :: more) :
    flowEntries first (fuel + 1) p =
      let (key, q) := node .flow fuel (if first then p else p.skip)
      if q.isOver then ([(key, .cut)], q)
      else if q.tokens.isEmpty then ([(key, .cut)], q.fail)
      else
        ((key, q.missing.1) :: (flowEntries false fuel q.missing.2).1,
          (flowEntries false fuel q.missing.2).2) := by
  cases first with
  | true =>
    have next : p.tokens = .scalar style text :: more := starts
    simp [flowEntries, next]
  | false =>
    have comma : p.tokens = .flowEntry :: .scalar style text :: more := starts
    have next : p.skip.tokens = .scalar style text :: more := by rw [skip, comma]; rfl
    simp [flowEntries, comma, next]

/-- **A text that is no key has no value**, so the colon behind it is a fault. -/
theorem flowEntries_colon (first : Bool) {style : ScalarStyle} {text : String}
    (starts : p.tokens
      = (if first then [] else [.flowEntry]) ++ .scalar style text :: .value :: more) :
    (flowEntries first fuel p).2.isOver = true := by
  cases fuel with
  | zero => rfl
  | succ fuel =>
    rw [flowEntries_scalar first starts]
    cases fuel with
    | zero => rfl
    | succ fuel =>
      have next : (if first then p else p.skip).tokens = .scalar style text :: .value :: more := by
        cases first with
        | true => exact starts
        | false =>
          show p.tokens.tail = _
          rw [starts]
          rfl
      generalize (if first then p else p.skip) = q at next ⊢
      rw [node_scalar next]
      dsimp only
      split
      next ended => exact ended
      next => exact flowEntries_value (p := Progress.count _) rfl

theorem nodeUnless_eq {ends : List Token} (begins : p.hasNode ends = true) :
    nodeUnless ends place (fuel + 1) p = node place fuel p := by
  rw [nodeUnless, if_pos begins]

/-- A value begins where one is expected. -/
theorem hasNode_flowTokens {value : Data} (flat : value.isFlat = true)
    (starts : p.tokens = value.flowTokens ++ more) :
    p.hasNode [.flowEntry, .flowMappingEnd] = true := by
  rw [hasNode, starts]
  match value, flat with
  | .text _, _ => rfl
  | .flag _, _ => rfl
  | .list [], _ => rfl
  | .list (_ :: _), _ => rfl
  | .map _ [], _ => rfl
  | .map _ ((_, _) :: _), _ => rfl

/-- **A member and those behind it**, if it is known what comes of its value and of them. -/
theorem flowEntries_member (first : Bool) {key value : Data} {rest : List (Data × Data)}
    (isText : key.isText = true) (flat : value.isFlat = true)
    (starts : p.tokens = (if first then [] else [.flowEntry]) ++ (key.nameTokens
      ++ (value.flowTokens ++ (Data.entryTokens rest ++ .flowMappingEnd :: more))))
    (going : p.fault = none)
    (valueYields : ∀ q : Progress, q.fault = none →
      q.tokens = value.flowTokens ++ (Data.entryTokens rest ++ .flowMappingEnd :: more) →
      Yields value.hasShortKeys (node .flow (fuel + 1) q) value.flowTree q
        (Data.entryTokens rest ++ .flowMappingEnd :: more))
    (restYields : ∀ q : Progress, q.fault = none →
      q.tokens = Data.entryTokens rest ++ .flowMappingEnd :: more →
      Yields (Data.entriesHaveShortKeys rest) (flowEntries false (fuel + 2) q)
        (Data.entryTrees rest) q more) :
    Yields (Data.entriesHaveShortKeys ((key, value) :: rest)) (flowEntries first (fuel + 3) p)
      (Data.entryTrees ((key, value) :: rest)) p more := by
  cases key with
  | text name =>
    cases short : isShortKey name with
    | false =>
      -- the name stands there like an item, so the colon behind it is a fault
      rw [Data.entriesHaveShortKeys, short, Bool.false_and, Bool.false_and]
      simp only [Data.nameTokens, keyTokens, short] at starts
      exact flowEntries_colon first starts
    | true =>
      rw [Data.entriesHaveShortKeys, short, Bool.true_and]
      simp only [Data.nameTokens, keyTokens, short, if_true, List.cons_append,
        List.nil_append] at starts
      generalize behind : Data.entryTokens rest ++ .flowMappingEnd :: more = tail at *
      have going : (if first then p.skip else p.skip.skip).fault = none := by
        cases first <;> exact going
      have next : (if first then p.skip else p.skip.skip).tokens
          = textToken name :: .value :: (value.flowTokens ++ tail) := by
        cases first with
        | true => exact congrArg List.tail starts
        | false => exact congrArg (fun tokens => tokens.tail.tail) starts
      -- the place behind the key
      let q : Progress := { (if first then p.skip else p.skip.skip) with
        tokens := .value :: (value.flowTokens ++ tail)
        size := (if first then p.skip else p.skip.skip).size + 1 }
      have keyed : nodeUnless [.value, .flowEntry, .flowMappingEnd] .flow (fuel + 2)
          (if first then p.skip else p.skip.skip) = (Data.flowTree (.text name), q) := by
        rw [nodeUnless_eq (by rw [hasNode, next]; rfl), node_scalar next]
        rfl
      have held : nodeUnless [.flowEntry, .flowMappingEnd] .flow (fuel + 2) q.skip
          = ((node .flow (fuel + 1) q.skip).1, (node .flow (fuel + 1) q.skip).2) :=
        nodeUnless_eq (hasNode_flowTokens flat rfl)
      have yields := valueYields q.skip going rfl
      rw [flowEntries_key first starts keyed going rfl held]
      cases good : value.hasShortKeys with
      | false =>
        rw [good] at yields
        have ended : (node .flow (fuel + 1) q.skip).2.isOver = true := yields
        rw [Bool.false_and, if_pos ended]
        exact ended
      | true =>
        rw [good] at yields
        obtain ⟨size, same⟩ := yields
        have proceeds : isOver { q.skip with tokens := tail, size } = false :=
          congrArg Option.isSome going
        rw [Bool.true_and, same, if_neg (Bool.eq_false_iff.1 proceeds)]
        have others := (restYields { q.skip with tokens := tail, size } going rfl).map
          fun trees => (Data.flowTree (.text name), value.flowTree) :: trees
        cases first <;> exact others
  | _ => simp [Data.isText] at isText

theorem two_le_length_nameTokens {key : Data} (isText : key.isText = true) :
    2 ≤ key.nameTokens.length := by
  cases key with
  | text name => simp [Data.nameTokens, keyTokens]
  | _ => simp [Data.isText] at isText

mutual

/-- **The tree of a value.** -/
theorem node_flowTokens : ∀ (data : Data) (place : Place) {fuel : Nat} {p : Progress}
    {more : List Token}, data.isFlat = true → p.tokens = data.flowTokens ++ more →
      p.fault = none → data.flowTokens.length ≤ fuel →
        Yields data.hasShortKeys (node place fuel p) data.flowTree p more
  | .text value, place, fuel, p, more, _, starts, _, enough => by
    cases fuel with
    | zero => cases enough
    | succ fuel => exact ⟨_, node_scalar starts⟩
  | .flag value, place, fuel, p, more, _, starts, _, enough => by
    cases fuel with
    | zero => cases enough
    | succ fuel => exact ⟨_, node_scalar starts⟩
  | .list items, place, fuel, p, more, flat, starts, going, enough =>
    node_list flat starts going enough
  | .map _ [], place, fuel, p, more, _, starts, going, enough => by
    simp only [Data.flowTokens, List.length_cons, List.length_nil, List.cons_append,
      List.nil_append] at starts enough
    obtain ⟨fuel, rfl⟩ : ∃ n, fuel = n + 2 := ⟨fuel - 2, by omega⟩
    rw [node_mapping starts]
    refine ⟨p.size + 2, ?_⟩
    simp [flowEntries, skip, count, starts, Data.flowTree, Data.entryTrees]
  | .map _ ((key, value) :: rest), place, fuel, p, more, flat, starts, going, enough => by
    rw [Data.isFlat, Data.entriesFlat, Bool.and_eq_true, Bool.and_eq_true] at flat
    obtain ⟨⟨isText, value_flat⟩, rest_flat⟩ := flat
    have named := two_le_length_nameTokens isText
    simp only [Data.flowTokens, List.cons_append, List.nil_append, List.append_assoc,
      List.length_cons, List.length_append, List.length_nil] at starts enough
    obtain ⟨fuel, rfl⟩ : ∃ n, fuel = n + 4 := ⟨fuel - 4, by omega⟩
    have next : p.skip.count.tokens = key.nameTokens
        ++ (value.flowTokens ++ (Data.entryTokens rest ++ .flowMappingEnd :: more)) :=
      congrArg List.tail starts
    rw [node_mapping starts]
    have members : Yields _ (flowEntries true (fuel + 3) p.skip.count) _ _ _ :=
      flowEntries_member true isText value_flat next going
      (fun q going starts =>
        node_flowTokens value .flow value_flat starts going (by omega))
      (fun q going starts =>
        flowEntries_entryTokens rest rest_flat starts going (by omega))
    exact members.map (Tree.mapping none)
  | .null, _, _, _, _, flat, _, _, _ => by simp [Data.isFlat] at flat

/-- The entries of a map after the first one. -/
theorem flowEntries_entryTokens : ∀ (entries : List (Data × Data)) {fuel : Nat} {p : Progress}
    {more : List Token}, Data.entriesFlat entries = true →
      p.tokens = Data.entryTokens entries ++ .flowMappingEnd :: more → p.fault = none →
        (Data.entryTokens entries).length < fuel →
          Yields (Data.entriesHaveShortKeys entries) (flowEntries false fuel p)
            (Data.entryTrees entries) p more
  | [], fuel, p, more, _, starts, _, enough => by
    cases fuel with
    | zero => cases enough
    | succ fuel =>
      refine ⟨p.size + 1, ?_⟩
      simp [flowEntries, starts, Data.entryTokens, Data.entryTrees, skip, count]
  | (key, value) :: rest, fuel, p, more, flat, starts, going, enough => by
    rw [Data.entriesFlat, Bool.and_eq_true, Bool.and_eq_true] at flat
    obtain ⟨⟨isText, value_flat⟩, rest_flat⟩ := flat
    have named := two_le_length_nameTokens isText
    simp only [Data.entryTokens, List.cons_append, List.append_assoc, List.length_cons,
      List.length_append] at starts enough
    obtain ⟨fuel, rfl⟩ : ∃ n, fuel = n + 3 := ⟨fuel - 3, by omega⟩
    exact flowEntries_member false isText value_flat starts going
      (fun q going starts =>
        node_flowTokens value .flow value_flat starts going (by omega))
      (fun q going starts =>
        flowEntries_entryTokens rest rest_flat starts going (by omega))

end

/-! ### Documents -/

/-- A document that begins with a brace has no directives. -/
theorem firstDocument_brace (tokens : List Token) :
    firstDocument (.flowMappingStart :: tokens) =
      let (root, p) := rootOf false
        { tokens := .flowMappingStart :: tokens, handles := commonHandles }
      let p := if !p.isOver && p.tokens.isEmpty then p.fail else p
      { root, anchors := p.anchors, size := p.size, fault := p.fault,
        continues := goesOn p.tokens } := rfl

/-- **The document of a JSON text.** -/
theorem firstDocument_flowTokens {announced : Nat} {key value : Data}
    {rest : List (Data × Data)} (flat : (Data.map announced ((key, value) :: rest)).isFlat = true)
    {document : Document} (composed : document = firstDocument
      ((Data.map announced ((key, value) :: rest)).flowTokens ++ [.streamEnd])) :
    ((Data.map announced ((key, value) :: rest)).hasShortKeys = true →
        document.root = (Data.map announced ((key, value) :: rest)).flowTree
          ∧ document.fault = none ∧ document.continues = false)
      ∧ ((Data.map announced ((key, value) :: rest)).hasShortKeys = false →
        document.fault.isSome = true) := by
  generalize which : Data.map announced ((key, value) :: rest) = data at *
  have brace : ∃ tokens, data.flowTokens ++ [.streamEnd] = .flowMappingStart :: tokens :=
    ⟨_, by rw [← which]; rfl⟩
  obtain ⟨tokens, brace⟩ := brace
  rw [brace, firstDocument_brace] at composed
  have enough : data.flowTokens.length ≤ 2 * (Token.flowMappingStart :: tokens).length + 4 := by
    rw [← brace, List.length_append]
    omega
  have yields : Yields data.hasShortKeys
      (rootOf false { tokens := .flowMappingStart :: tokens, handles := commonHandles })
      data.flowTree { tokens := .flowMappingStart :: tokens, handles := commonHandles }
      [.streamEnd] :=
    node_flowTokens data .item flat brace.symm rfl enough
  cases short : data.hasShortKeys with
  | true =>
    rw [short] at yields
    obtain ⟨size, same⟩ := yields
    rw [same] at composed
    refine ⟨fun _ => ?_, (nomatch ·)⟩
    rw [composed]
    exact ⟨rfl, rfl, rfl⟩
  | false =>
    rw [short] at yields
    refine ⟨(nomatch ·), fun _ => ?_⟩
    generalize rootOf false _ = result at composed yields
    have ended : result.2.isOver = true := yields
    rw [composed]
    simp only [ended, Bool.not_true, Bool.false_and, Bool.false_eq_true, if_false]
    exact ended

end Yaml.Progress

end BreakCheck
