/-
BreakCheck/Proofs/IgnoreOnly/Faults.lean

Which nodes declare pairs, and what is wrong with the others.

Nodes for IDs and nodes for paths take turns in a mapping, so whether a child is in order is a
question of its place: at an even one it has to be a text, at an odd one a list of texts
(`Node.fitsAt`).  A node declares pairs if it holds nothing, or if it is a mapping of an even
number of children that all fit where they stand (`DeclaresPairs`).

A node may be wrong in several ways at once.  What is reported is the first of these that
applies: that it is no mapping; that a key has no value; and then of all children that do not
fit the one that stands first, which for a list of texts means its first item that is no text.

Main result: `decode_first_fault`, built on `pairs_cases`, whose induction follows `pairs` and
takes two children at a time.
-/
import BreakCheck.Proofs.IgnoreOnly.Codec

namespace BreakCheck

namespace Node

/-! ### Children that fit -/

/-- Whether a node can stand for a text. -/
def isText : Node → Bool
  | null => true
  | scalar _ => true
  | _ => false

/-- Whether a node can stand for a list of texts. -/
def isTexts : Node → Bool
  | null => true
  | sequence items => items.all isText
  | _ => false

/-- Whether a child is in order at its place in a mapping: texts for IDs stand at even places,
lists of texts for paths at odd ones. -/
def fitsAt (place : Nat) (child : Node) : Bool :=
  if place % 2 = 0 then child.isText else child.isTexts

/-- Two children further on stands what stands here. -/
theorem fitsAt_add_two (place : Nat) (child : Node) :
    child.fitsAt (place + 2) = child.fitsAt place := by
  rw [fitsAt, Nat.add_mod_right, fitsAt]

/-- The text that a node stands for. -/
def text : Node → String
  | scalar text => text
  | _ => ""

/-- The texts that a node stands for. -/
def texts : Node → List String
  | sequence items => items.map text
  | _ => []

/-! ### Children that do not -/

/-- What keeps a node from standing for a text. -/
def textMisfit? : Node → Option Misfit
  | null => none
  | scalar _ => none
  | node => some (.notText node.kind)

/-- What keeps a node from standing for a list of texts: its kind, or its first item that is
no text. -/
def textsMisfit? : Node → Option Misfit
  | null => none
  | sequence items => items.findSome? textMisfit?
  | node => some (.notTexts node.kind)

/-- What is wrong with a child at its place in a mapping. -/
def misfitAt? (place : Nat) (child : Node) : Option Misfit :=
  if place % 2 = 0 then child.textMisfit? else child.textsMisfit?

theorem textMisfit?_eq_none_iff (node : Node) : node.textMisfit? = none ↔ node.isText = true := by
  cases node <;> simp [textMisfit?, isText]

theorem textsMisfit?_eq_none_iff (node : Node) :
    node.textsMisfit? = none ↔ node.isTexts = true := by
  cases node with
  | sequence items =>
    rw [textsMisfit?, isTexts, List.findSome?_eq_none_iff, List.all_eq_true]
    exact forall₂_congr fun item _ => item.textMisfit?_eq_none_iff
  | _ => simp [textsMisfit?, isTexts]

theorem misfitAt?_eq_none_iff (place : Nat) (child : Node) :
    child.misfitAt? place = none ↔ child.fitsAt place = true := by
  unfold misfitAt? fitsAt
  split
  · exact child.textMisfit?_eq_none_iff
  · exact child.textsMisfit?_eq_none_iff

theorem misfitAt?_add_two (place : Nat) (child : Node) :
    child.misfitAt? (place + 2) = child.misfitAt? place := by
  rw [misfitAt?, Nat.add_mod_right, misfitAt?]

/-- A node is read as the text that it stands for, or it is told what keeps it from that. -/
theorem asText_eq (node : Node) :
    node.asText = node.textMisfit?.elim (.ok node.text) .error := by
  cases node <;> rfl

/-- Of several items that are no texts the first one is complained about. -/
theorem mapM_asText_eq (items : List Node) :
    items.mapM asText = (items.findSome? textMisfit?).elim (.ok (items.map text)) .error := by
  induction items with
  | nil => rfl
  | cons item rest ih =>
    rw [List.mapM_cons, List.findSome?_cons, asText_eq, ih]
    cases item.textMisfit? with
    | some why => rfl
    | none => cases rest.findSome? textMisfit? <;> rfl

theorem asTexts_eq (node : Node) :
    node.asTexts = node.textsMisfit?.elim (.ok node.texts) .error := by
  cases node with
  | sequence items => exact mapM_asText_eq items
  | _ => rfl

end Node

namespace IgnoreOnly

/-! ### Children in turns -/

/-- **All children are in order** where they stand. -/
def TakeTurns (content : List Node) : Prop :=
  ∀ (place : Nat) (child : Node), content[place]? = some child → child.fitsAt place = true

/-- The pairs that children in turns declare, one for every two of them. -/
def declaredBy (content : List Node) : List Exemption :=
  (Node.pairUp content).1.map fun (key, value) => ⟨key.text, value.texts⟩

/-- **A node declares pairs**: it holds nothing, or it is a mapping whose keys all have a value
and whose children are all in order. -/
def DeclaresPairs (node : Node) : Prop :=
  node.children = []
    ∨ ∃ style content, node = .mapping style content ∧ content.length % 2 = 0 ∧ TakeTurns content

theorem takeTurns_nil : TakeTurns [] := by
  intro place child found
  cases found

theorem takeTurns_singleton_iff (key : Node) : TakeTurns [key] ↔ key.isText = true := by
  constructor
  · intro turns
    exact turns 0 key rfl
  · rintro text (_ | place) child found
    · cases found
      exact text
    · cases found

theorem takeTurns_cons_cons_iff (key value : Node) (rest : List Node) :
    TakeTurns (key :: value :: rest)
      ↔ key.isText = true ∧ value.isTexts = true ∧ TakeTurns rest := by
  constructor
  · intro turns
    refine ⟨turns 0 key rfl, turns 1 value rfl, ?_⟩
    intro place child found
    rw [← Node.fitsAt_add_two]
    exact turns (place + 2) child found
  · rintro ⟨text, texts, turns⟩ (_ | _ | place) child found
    · cases found
      exact text
    · cases found
      exact texts
    · rw [Node.fitsAt_add_two]
      exact turns place child found

/-- A child that does not fit spoils the turns. -/
theorem not_takeTurns_of_misfit {front rest : List Node} {child : Node} {why : Node.Misfit}
    (wrong : child.misfitAt? front.length = some why) : ¬ TakeTurns (front ++ child :: rest) := by
  intro turns
  have fits := turns front.length child (by simp)
  rw [← Node.misfitAt?_eq_none_iff, wrong] at fits
  cases fits

/-! ### The first child that does not fit -/

/-- Two children are read as a pair if both of them fit; the key is looked at first. -/
theorem pairs_cons_cons (key value : Node) (rest : List Node) :
    pairs (key :: value :: rest)
      = (key.textMisfit?.or value.textsMisfit?).elim
          ((pairs rest).map fun others => ⟨key.text, value.texts⟩ :: others)
          fun why => .error (.misfit why) := by
  rw [pairs, Node.asText_eq, Node.asTexts_eq]
  cases key.textMisfit? with
  | some why => rfl
  | none =>
    cases value.textsMisfit? with
    | some why => rfl
    | none => cases pairs rest <;> rfl

/-- **Children in twos** take turns and are read as the pairs that they declare; or one of
them is the first that does not fit, and what is wrong with it is reported. -/
theorem pairs_cases (content : List Node) (even : content.length % 2 = 0) :
    (TakeTurns content ∧ pairs content = .ok (declaredBy content))
      ∨ ∃ front child rest why, content = front ++ child :: rest ∧ TakeTurns front
        ∧ child.misfitAt? front.length = some why ∧ pairs content = .error (.misfit why) := by
  induction content using pairs.induct with
  | case1 key value rest ih =>
    rw [pairs_cons_cons]
    cases first : key.textMisfit? with
    | some why => exact .inr ⟨[], key, value :: rest, why, rfl, takeTurns_nil, first, rfl⟩
    | none =>
      have text := key.textMisfit?_eq_none_iff.1 first
      cases second : value.textsMisfit? with
      | some why =>
        exact .inr ⟨[key], value, rest, why, rfl, (takeTurns_singleton_iff key).2 text, second, rfl⟩
      | none =>
        have texts := value.textsMisfit?_eq_none_iff.1 second
        have rest_even : rest.length % 2 = 0 := by rwa [← Nat.add_mod_right]
        obtain ⟨turns, read⟩ | ⟨front, child, back, why, rfl, turns, wrong, read⟩ := ih rest_even
        · rw [read]
          exact .inl ⟨(takeTurns_cons_cons_iff key value rest).2 ⟨text, texts, turns⟩, rfl⟩
        · rw [read]
          refine .inr ⟨key :: value :: front, child, back, why, rfl, ?_, ?_, rfl⟩
          · exact (takeTurns_cons_cons_iff key value front).2 ⟨text, texts, turns⟩
          · rw [← wrong]
            exact Node.misfitAt?_add_two front.length child
  | case2 content short =>
    -- of fewer than two children an even number is none
    match content with
    | [] => exact .inl ⟨takeTurns_nil, rfl⟩
    | [key] => cases even
    | key :: value :: rest => exact absurd rfl (short key value rest)

/-- Children declare a pair for every two of them. -/
theorem length_declaredBy (content : List Node) :
    (declaredBy content).length = content.length / 2 := by
  rw [declaredBy, List.length_map]
  induction content using Node.pairUp.induct with
  | case1 key value rest ih =>
    rw [Node.pairUp, List.length_cons, ih]
    exact (Nat.add_div_right _ (by decide)).symm
  | case2 key => simp [Node.pairUp]
  | case3 => rfl

/-! ### What is reported -/

/-- A sequence of anything is no mapping. -/
theorem outcome_of_sequence {items : List Node} (some : items ≠ []) :
    (decode (.sequence items)).outcome = ⟨.error (.notMapping .sequence), []⟩ := by
  rw [decode, if_neg (by simpa [Node.children] using some), if_pos (by simp [Node.kind])]
  rfl

/-- A key without a value is complained about before any child is looked at. -/
theorem outcome_of_odd (style : Node.Style) {content : List Node} (odd : content.length % 2 = 1) :
    (decode (.mapping style content)).outcome = ⟨.error (.oddChildren content.length), []⟩ := by
  have some : content ≠ [] := by
    rintro rfl
    cases odd
  rw [decode, if_neg (by simpa [Node.children] using some), if_neg (by simp [Node.kind]),
    if_pos (by simp [Node.children, odd])]
  rfl

/-- Pairs that cannot be read are no pairs, and there is no notice of them. -/
theorem outcome_of_error (style : Node.Style) {content : List Node} {error : SchemaError}
    (even : content.length % 2 = 0) (failed : pairs content = .error error) :
    (decode (.mapping style content)).outcome = ⟨.error error, []⟩ := by
  have some : content ≠ [] := by
    rintro rfl
    cases failed
  have same : pairs (Node.mapping style content).children = .error error := failed
  rw [decode, if_neg (by simpa [Node.children] using some), if_neg (by simp [Node.kind]),
    if_neg (by simpa [Node.children] using even), same]
  rfl

/-- **A mapping of an even number of children** declares its pairs, or one of its children is
the first that does not fit. -/
theorem outcome_of_even (style : Node.Style) {content : List Node} (some : content ≠ [])
    (even : content.length % 2 = 0) :
    (TakeTurns content
        ∧ (decode (.mapping style content)).outcome
          = ⟨.ok (declaredBy content), [.decodedIgnoreOnly (content.length / 2)]⟩)
      ∨ ¬ TakeTurns content
        ∧ ∃ front child rest why, content = front ++ child :: rest ∧ TakeTurns front
          ∧ child.misfitAt? front.length = .some why
          ∧ (decode (.mapping style content)).outcome = ⟨.error (.misfit why), []⟩ := by
  obtain ⟨turns, read⟩ | ⟨front, child, rest, why, same, turns, wrong, read⟩ :=
    pairs_cases content even
  · rw [← length_declaredBy]
    exact .inl ⟨turns, decode_mapping style some even read⟩
  · refine .inr ⟨?_, front, child, rest, why, same, turns, wrong, outcome_of_error style even read⟩
    rw [same]
    exact not_takeTurns_of_misfit wrong

theorem exists_decode_iff (node : Node) :
    (∃ found, (decode node).outcome.value = .ok found) ↔ DeclaresPairs node := by
  by_cases nothing : node.children = []
  · rw [decode_of_childless node nothing]
    exact iff_of_true ⟨[], rfl⟩ (.inl nothing)
  cases node with
  | null => exact absurd rfl nothing
  | scalar text => exact absurd rfl nothing
  | sequence items =>
    have some : items ≠ [] := nothing
    rw [outcome_of_sequence some]
    refine iff_of_false (fun ⟨_, same⟩ => nomatch same) ?_
    rintro (none | ⟨style, content, same, -⟩)
    · exact some none
    · cases same
  | mapping style content =>
    have some : content ≠ [] := nothing
    have turns_iff : DeclaresPairs (.mapping style content)
        ↔ content.length % 2 = 0 ∧ TakeTurns content := by
      constructor
      · rintro (none | ⟨style, content, same, turns⟩)
        · exact absurd none some
        · cases same
          exact turns
      · intro turns
        exact .inr ⟨style, content, rfl, turns⟩
    rw [turns_iff]
    rcases Nat.mod_two_eq_zero_or_one content.length with even | odd
    · obtain ⟨turns, read⟩ | ⟨stray, _, _, _, _, -, -, -, failed⟩ :=
        outcome_of_even style some even
      · rw [read]
        exact iff_of_true ⟨_, rfl⟩ ⟨even, turns⟩
      · rw [failed]
        exact iff_of_false (fun ⟨_, same⟩ => nomatch same) fun both => stray both.2
    · rw [outcome_of_odd style odd]
      exact iff_of_false (fun ⟨_, same⟩ => nomatch same) (by simp [odd])

/-- **Which nodes declare pairs, and what is reported for the others.**  A node that holds
nothing declares nothing.  A sequence of anything is no mapping.  Of a mapping it is reported
that a key has no value, whatever its children are; and then what is wrong with the first child
that does not fit.  If all of them fit, they declare a pair for every two of them, and a notice
tells the number of these.  No notice is issued with a failure. -/
theorem decode_first_fault (node : Node) :
    ((∃ found, (decode node).outcome.value = .ok found) ↔ DeclaresPairs node)
      ∧ (node.children = [] → (decode node).outcome = ⟨.ok [], []⟩)
      ∧ (∀ items, node = .sequence items → items ≠ [] →
          (decode node).outcome = ⟨.error (.notMapping .sequence), []⟩)
      ∧ ∀ style content, node = .mapping style content → content ≠ [] →
        (content.length % 2 = 1 →
            (decode node).outcome = ⟨.error (.oddChildren content.length), []⟩)
          ∧ (content.length % 2 = 0 → TakeTurns content →
            (declaredBy content).length = content.length / 2
              ∧ (decode node).outcome
                = ⟨.ok (declaredBy content), [.decodedIgnoreOnly (content.length / 2)]⟩)
          ∧ (content.length % 2 = 0 → ¬ TakeTurns content →
            ∃ front child rest why, content = front ++ child :: rest ∧ TakeTurns front
              ∧ child.misfitAt? front.length = some why
              ∧ (decode node).outcome = ⟨.error (.misfit why), []⟩) := by
  refine ⟨exists_decode_iff node, decode_of_childless node, ?_, ?_⟩
  · rintro items rfl some
    exact outcome_of_sequence some
  · rintro style content rfl some
    refine ⟨outcome_of_odd style, fun even turns => ?_, fun even stray => ?_⟩
    · obtain ⟨-, read⟩ | ⟨stray, -⟩ := outcome_of_even style some even
      · exact ⟨length_declaredBy content, read⟩
      · exact absurd turns stray
    · obtain ⟨turns, -⟩ | ⟨-, first⟩ := outcome_of_even style some even
      · exact absurd turns stray
      · exact first

/-- Of an item that is no text and a key that is none the item is complained about, for it
stands in front. -/
example : (decode (.mapping .plain [.null, .sequence [.scalar "a", .mapping .plain []],
    .sequence [], .scalar "x"])).outcome = ⟨.error (.misfit (.notText .mapping)), []⟩ := rfl

end IgnoreOnly

end BreakCheck
