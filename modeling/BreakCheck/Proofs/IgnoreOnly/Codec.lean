/-
BreakCheck/Proofs/IgnoreOnly/Codec.lean

Pairs as nodes, and nodes as pairs.

A list of pairs is encoded without the pairs that have no paths, and what is decoded from
that are the pairs that are kept (`decode_flatMap_content`).  The other way round a node may
say the same thing in several ways: a null stands for an empty text or for no paths.
Encoding what was decoded says each pair in one way and leaves out those without paths;
`tidied` is the content that is left (`flatMap_content_of_pairs`).

Both inductions follow `pairs`, which takes the content two nodes at a time.

Decoding and encoding once more changes nothing, with one exception.  Pairs of which none
has a path are encoded as an empty mapping; this declares no pairs, and for no pairs there
is no node at all (`encode_decode_bare`).

Main result: `encode_decode`.
-/
import BreakCheck.Proofs.Attempt
import BreakCheck.Proofs.IgnoreOnly.Kept

namespace BreakCheck

/-! ### Nodes that are read as text -/

namespace Node

/-- A null as the empty text that it is read as. -/
def spelled : Node → Node
  | null => scalar ""
  | node => node

/-- Whether a node holds no paths: it is null or an empty sequence. -/
def isBare : Node → Bool
  | null => true
  | sequence items => items.isEmpty
  | _ => false

/-- A sequence with its items spelled out. -/
def spelledItems : Node → Node
  | sequence items => sequence (items.map spelled)
  | node => node

theorem spelled_of_asText {node : Node} {text : String} (read : node.asText = .ok text) :
    node.spelled = scalar text := by
  cases node with
  | null => cases read; rfl
  | scalar held => cases read; rfl
  | sequence items => cases read
  | mapping style content => cases read

theorem mapM_asText_scalars (texts : List String) :
    (texts.map scalar).mapM asText = .ok texts := by
  induction texts with
  | nil => rfl
  | cons text rest ih =>
    rw [List.map_cons, List.mapM_cons, ih]
    rfl

theorem map_spelled_of_mapM {items : List Node} {texts : List String}
    (read : items.mapM asText = .ok texts) : items.map spelled = texts.map scalar := by
  induction items generalizing texts with
  | nil => cases read; rfl
  | cons item rest ih =>
    rw [List.mapM_cons] at read
    cases first : item.asText with
    | error why => rw [first] at read; cases read
    | ok text =>
      cases others : rest.mapM asText with
      | error why => rw [first, others] at read; cases read
      | ok texts =>
        rw [first, others] at read
        cases read
        rw [List.map_cons, List.map_cons, spelled_of_asText first, ih others]

/-- What is read of a bare node are no paths, and of any other node the texts of its items. -/
theorem asTexts_cases {node : Node} {texts : List String} (read : node.asTexts = .ok texts) :
    (node.isBare = true ∧ texts = [])
      ∨ (node.isBare = false ∧ texts ≠ []
          ∧ node.spelledItems = sequence (texts.map scalar)) := by
  cases node with
  | null => cases read; exact .inl ⟨rfl, rfl⟩
  | scalar text => cases read
  | mapping style content => cases read
  | sequence items =>
    have same := map_spelled_of_mapM read
    cases items with
    | nil => cases read; exact .inl ⟨rfl, rfl⟩
    | cons item rest =>
      refine .inr ⟨rfl, ?_, congrArg sequence same⟩
      rintro rfl
      cases same

end Node

namespace IgnoreOnly

/-! ### From pairs to a node and back -/

/-- A mapping that holds anything is decoded as its pairs, with a notice of their number. -/
theorem decode_mapping {content : List Node} {declared : List Exemption} (style : Node.Style)
    (some : content ≠ []) (even : content.length % 2 = 0) (read : pairs content = .ok declared) :
    (decode (.mapping style content)).outcome
      = ⟨.ok declared, [.decodedIgnoreOnly declared.length]⟩ := by
  rw [decode, if_neg (by simpa [Node.children] using some), if_neg (by simp [Node.kind]),
    if_neg (by simpa [Node.children] using even)]
  have same : pairs (Node.mapping style content).children = .ok declared := read
  rw [same]
  exact Attempt.outcome_bind_ok (Attempt.outcome_lift _) _

/-- A node without children declares nothing, and says so without a notice. -/
theorem decode_of_childless (node : Node) (none : node.children = []) :
    (decode node).outcome = ⟨.ok [], []⟩ := by
  rw [decode, if_pos (by simp [none])]
  rfl

theorem pairs_flatMap_content (declared : List Exemption) :
    pairs (declared.flatMap content) = .ok (kept declared) := by
  induction declared with
  | nil => rfl
  | cons entry rest ih =>
    rw [List.flatMap_cons, kept_cons]
    cases has : entry.hasPaths with
    | false => rw [content_eq_nil has, List.nil_append, ih]; rfl
    | true =>
      rw [content_eq has]
      show pairs (.scalar entry.id :: .sequence (entry.paths.map Node.scalar)
        :: rest.flatMap content) = _
      rw [pairs, ih, Node.asTexts, Node.mapM_asText_scalars]
      rfl

/-- **What is encoded is decoded** as the pairs that are kept. -/
theorem decode_flatMap_content (style : Node.Style) (declared : List Exemption) :
    (decode (.mapping style (declared.flatMap content))).outcome.value = .ok (kept declared) := by
  have length := length_flatMap_content declared
  by_cases none : declared.flatMap content = []
  · have nothing : kept declared = [] := by
      rw [none, List.length_nil] at length
      exact List.length_eq_zero_iff.1 (by omega)
    rw [none, decode_of_childless (.mapping style []) rfl, nothing]
  · rw [decode_mapping style none (by omega) (pairs_flatMap_content declared)]

theorem encode?_eq_none_iff (declared : List Exemption) :
    encode? declared = none ↔ declared = [] := by
  rw [encode?]
  cases declared with
  | nil => simp
  | cons entry rest => simp

theorem encode?_of_ne_nil {declared : List Exemption} (some : declared ≠ []) :
    encode? declared = .some (.mapping .literal (declared.flatMap content)) := by
  rw [encode?, if_neg (by simpa using some)]

/-! ### From a node to pairs and back -/

/-- The content of a mapping without the pairs that have no paths, and with nulls spelled
out. -/
def tidied : List Node → List Node
  | key :: value :: rest =>
    if value.isBare then tidied rest else key.spelled :: value.spelledItems :: tidied rest
  | _ => []

/-- A key and a value are read as the first pair, and the rest as the others. -/
theorem pairs_cons_ok {key value : Node} {rest : List Node} {declared : List Exemption}
    (read : pairs (key :: value :: rest) = .ok declared) :
    ∃ id paths others, key.asText = .ok id ∧ value.asTexts = .ok paths
      ∧ pairs rest = .ok others ∧ declared = ⟨id, paths⟩ :: others := by
  rw [pairs] at read
  cases first : key.asText with
  | error why => rw [first] at read; cases read
  | ok id =>
    cases second : value.asTexts with
    | error why => rw [first, second] at read; cases read
    | ok paths =>
      cases third : pairs rest with
      | error error => rw [first, second, third] at read; cases read
      | ok others =>
        rw [first, second, third] at read
        cases read
        exact ⟨id, paths, others, rfl, rfl, rfl, rfl⟩

theorem flatMap_content_of_pairs {nodes : List Node} {declared : List Exemption}
    (read : pairs nodes = .ok declared) : declared.flatMap content = tidied nodes := by
  fun_induction tidied nodes generalizing declared with
  | case1 key value rest bare ih =>
    obtain ⟨id, paths, others, -, second, third, rfl⟩ := pairs_cons_ok read
    have none : paths = [] := by
      rcases Node.asTexts_cases second with ⟨-, none⟩ | ⟨full, -⟩
      · exact none
      · rw [bare] at full; cases full
    rw [List.flatMap_cons, content_eq_nil (by simp [Exemption.hasPaths, none]),
      List.nil_append, ih third]
  | case2 key value rest full ih =>
    obtain ⟨id, paths, others, first, second, third, rfl⟩ := pairs_cons_ok read
    rcases Node.asTexts_cases second with ⟨bare, -⟩ | ⟨-, some, same⟩
    · exact absurd bare full
    · rw [List.flatMap_cons, content_eq (by simpa [Exemption.hasPaths] using some), ih third,
        Node.spelled_of_asText first, same]
      rfl
  | case3 nodes short =>
    cases nodes with
    | nil => cases read; rfl
    | cons key rest =>
      cases rest with
      | nil => cases read; rfl
      | cons value rest => exact absurd rfl (short key value rest)

/-- Only mappings declare any pairs. -/
theorem mapping_of_decode {node : Node} {declared : List Exemption}
    (read : (decode node).outcome.value = .ok declared) (some : declared ≠ []) :
    ∃ style nodes, node = .mapping style nodes ∧ pairs nodes = .ok declared := by
  rw [decode] at read
  split at read
  · cases read
    exact absurd rfl some
  · split at read
    · cases read
    next mapping =>
      split at read
      · cases read
      · cases node with
        | mapping style nodes =>
          refine ⟨style, nodes, rfl, ?_⟩
          simp only [Node.children] at read
          cases found : pairs nodes with
          | error error => rw [found] at read; cases read
          | ok found' => rw [found] at read; cases read; rfl
        | _ => exact absurd (by simp [Node.kind]) mapping

/-! ### Encoding and decoding -/

theorem flatMap_content_kept (declared : List Exemption) :
    (kept declared).flatMap content = declared.flatMap content := by
  induction declared with
  | nil => rfl
  | cons entry rest ih =>
    rw [List.flatMap_cons, kept_cons]
    cases has : entry.hasPaths with
    | false => rw [content_eq_nil has, List.nil_append, ← ih]; rfl
    | true => rw [if_pos rfl, List.flatMap_cons, ih]

/-- What is encoded of the pairs that are kept is what is encoded of all, if any are. -/
theorem encode?_kept (declared : List Exemption) :
    encode? (kept declared)
      = if (declared.flatMap content).isEmpty then none
        else some (.mapping .literal (declared.flatMap content)) := by
  have length := length_flatMap_content declared
  by_cases nothing : kept declared = []
  · have none : declared.flatMap content = [] := by
      rw [nothing] at length
      exact List.length_eq_zero_iff.1 length
    rw [(encode?_eq_none_iff _).2 nothing, none]
    rfl
  · have some : ¬ (declared.flatMap content).isEmpty = true := by
      have present := List.length_pos_iff.2 nothing
      rw [List.isEmpty_iff_length_eq_zero]
      omega
    rw [encode?_of_ne_nil nothing, flatMap_content_kept, if_neg some]

/-- Pairs show nothing if there is no node for them, or one that declares no pairs. -/
theorem isVacuous_iff_encode? (declared : List Exemption) :
    isVacuous declared = true
      ↔ encode? declared = none
        ∨ ∃ node, encode? declared = some node ∧ (decode node).outcome.value = .ok [] := by
  rw [isVacuous_iff]
  by_cases nothing : declared = []
  · simp [nothing, encode?, kept]
  · have encoded := encode?_of_ne_nil nothing
    have decoded := decode_flatMap_content .literal declared
    constructor
    · intro none
      exact .inr ⟨_, encoded, by rw [decoded, none]⟩
    · rintro (none | ⟨node, same, empty⟩)
      · rw [encoded] at none; cases none
      · rw [encoded, Option.some.injEq] at same
        rw [← same, decoded, Except.ok.injEq] at empty
        exact empty

/-- **Pairs and nodes.**  A node that is encoded is decoded as the pairs with paths; only
for no pairs there is no node; and pairs show nothing if what they are encoded as declares
nothing.  The other way round, pairs that a node declares are encoded as its tidied content.
From this the pairs with paths are decoded, and these are encoded as the same node, unless
there are none. -/
theorem encode_decode :
    (∀ declared node, encode? declared = some node →
        (decode node).outcome.value = .ok (kept declared))
      ∧ (∀ declared, encode? declared = none ↔ declared = [])
      ∧ (∀ declared, isVacuous declared = true
        ↔ encode? declared = none
          ∨ ∃ node, encode? declared = some node ∧ (decode node).outcome.value = .ok [])
      ∧ ∀ node declared, (decode node).outcome.value = .ok declared → declared ≠ [] →
        ∃ style nodes, node = .mapping style nodes
          ∧ encode? declared = some (.mapping .literal (tidied nodes))
          ∧ (decode (.mapping .literal (tidied nodes))).outcome.value = .ok (kept declared)
          ∧ encode? (kept declared)
            = if (tidied nodes).isEmpty then none else some (.mapping .literal (tidied nodes)) := by
  refine ⟨?_, encode?_eq_none_iff, isVacuous_iff_encode?, ?_⟩
  · intro declared node encoded
    have some : declared ≠ [] := by
      rintro rfl
      cases encoded
    rw [encode?_of_ne_nil some, Option.some.injEq] at encoded
    rw [← encoded]
    exact decode_flatMap_content .literal declared
  · intro node declared read some
    obtain ⟨style, nodes, rfl, found⟩ := mapping_of_decode read some
    have same := flatMap_content_of_pairs found
    refine ⟨style, nodes, rfl, ?_, ?_, ?_⟩
    · rw [encode?_of_ne_nil some, same]
    · rw [← same]
      exact decode_flatMap_content .literal declared
    · rw [encode?_kept, same]

/-- An ID without paths is encoded as an empty mapping the first time, and as no node at
all after that. -/
theorem encode_decode_bare :
    ∃ declared node again,
      (decode (.mapping .plain [.scalar "A", .null])).outcome.value = .ok declared
        ∧ declared ≠ [] ∧ encode? declared = some node
        ∧ (decode node).outcome.value = .ok again ∧ encode? again ≠ some node :=
  ⟨[⟨"A", []⟩], .mapping .literal [], [], rfl, by decide, rfl, rfl, by decide⟩

end IgnoreOnly

end BreakCheck
