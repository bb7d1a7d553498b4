/-
BreakCheck/Proofs/Json/RoundTrip.lean

Reading the JSON text of data gives the tree of the data.

`Data.jsonTree` says which tree that is.  A value ends where its text ends, so
the statements speak of a text with anything behind it:

    valueTree fuel (layout style data depth ++ rest) = (data.jsonTree, rest).

Texts come first (`body?_escaped`): each character is escaped on its own, and the
reader takes one escape for one character.  Values follow by recursion on the data.
The text of every value is longer than the values in it, so twice its length is
enough fuel for all of them.

Main results: `ofText_layout`, and that data with the same text has the same tree
(`jsonTree_eq_of_layout_eq`): JSON text is unambiguous.
-/
import BreakCheck.Json.Tree
import BreakCheck.Proofs.Json.Layout

namespace BreakCheck

/-! ### The tree of data -/

namespace Data

mutual

/-- The JSON tree that says what the data says. -/
def jsonTree : Data → Json.Tree
  | null => .null
  | flag value => .flag value
  | text value => .text value
  | list items => .array (itemJsonTrees items)
  | map _ entries => .object (entryJsonTrees entries)
termination_by structural data => data

/-- The trees of items. -/
def itemJsonTrees : List Data → List Json.Tree
  | [] => []
  | item :: rest => item.jsonTree :: itemJsonTrees rest
termination_by structural items => items

/-- The trees of entries. -/
def entryJsonTrees : List (Data × Data) → List (Json.Tree × Json.Tree)
  | [] => []
  | (key, value) :: rest => (key.jsonTree, value.jsonTree) :: entryJsonTrees rest
termination_by structural entries => entries

end

/-- The tree of a list has the trees of its items. -/
theorem itemJsonTrees_eq_map (items : List Data) :
    itemJsonTrees items = items.map jsonTree := by
  induction items with
  | nil => rfl
  | cons item rest ih => rw [itemJsonTrees, ih]; rfl

/-- The tree of a map has the trees of its keys and values. -/
theorem entryJsonTrees_eq_map (entries : List (Data × Data)) :
    entryJsonTrees entries = entries.map fun (key, value) => (key.jsonTree, value.jsonTree) := by
  induction entries with
  | nil => rfl
  | cons entry rest ih => rw [entryJsonTrees, ih]; rfl

end Data

namespace Json

/-! ### Texts -/

/-- What a character is escaped to is read as that character. -/
theorem body?_escapeChar (c : Char) (text : List Char) :
    body? none (escapeChar c ++ text) = (body? none text).map (Body.cons c) := by
  -- the codes of all control characters, by inspection
  have control : ∀ n < 0x20,
      codeUnit? '0' '0' (Nat.digitChar (n / 16)) (Nat.digitChar (n % 16)) = some n := by
    decide
  unfold escapeChar
  split
  iterate 7 · rfl
  next quote backslash _ _ _ _ _ =>
    split
    next low =>
      have unit := control c.toNat low
      simp only [List.cons_append, List.nil_append]
      rw [body?, unit]
      have lead : isLead c.toNat = false := by simp [isLead]; omega
      have trail : isTrail c.toNat = false := by simp [isTrail]; omega
      simp only [lead, trail, Char.ofNat_toNat]
      rfl
    next high =>
      have high : ¬ c.toNat < 0x20 := high
      rw [List.singleton_append, body?.eq_def]
      split
      next nothing => cases nothing
      next same => exact absurd (List.cons.inj same).1 quote
      next same => exact absurd (List.cons.inj same).1 backslash
      next same => exact absurd (List.cons.inj same).1 backslash
      next same =>
        cases same
        rw [if_neg high]
        rfl

/-- **Texts**: what is escaped between quotes is read back, and reading ends at the
closing quote. -/
theorem body?_escaped (chars rest : List Char) :
    body? none (chars.flatMap escapeChar ++ '"' :: rest) = some (some chars, rest) := by
  induction chars with
  | nil => rfl
  | cons c chars ih =>
    rw [List.flatMap_cons, List.append_assoc, body?_escapeChar, ih]
    rfl

/-- Of an escaped text, up to the quote that ends it, the text itself is read. -/
theorem textTree_escaped (value : String) (rest : List Char) :
    textTree (value.toList.flatMap escapeChar ++ '"' :: rest) = (.text value, rest) := by
  rw [textTree, body?_escaped]
  simp

/-! ### Blanks -/

/-- Lines and their indentation are blanks to a reader. -/
theorem skipBlanks_line (style : Style) (depth : Nat) (text : List Char) :
    skipBlanks (style.line depth ++ text) = skipBlanks text := by
  have blank : ∀ c ∈ style.line depth,
      (c == ' ' || c == '\t' || c == '\n' || c == '\r') = true := by
    intro c held
    cases style with
    | compact => cases held
    | pretty =>
      rcases List.mem_cons.1 held with rfl | held
      · rfl
      · rw [List.eq_of_mem_replicate held]
        rfl
  rw [skipBlanks, List.dropWhile_append_of_pos blank]
  rfl

/-- Behind the colon there is at most a blank. -/
theorem skipBlanks_colon (style : Style) (text : List Char) :
    ∃ rest, style.colon ++ text = ':' :: rest ∧ skipBlanks rest = skipBlanks text := by
  cases style with
  | compact => exact ⟨text, rfl, rfl⟩
  | pretty => exact ⟨' ' :: text, rfl, rfl⟩

/-- The characters with which the text of a value can begin. -/
def opensValue (c : Char) : Bool :=
  c == '"' || c == '[' || c == '{' || c == 'n' || c == 't' || c == 'f'

/-- The text of a value begins with a character that opens a value. -/
theorem layout_eq_cons (style : Style) (data : Data) (depth : Nat) :
    ∃ c chars, layout style data depth = c :: chars ∧ opensValue c = true := by
  unfold layout
  split <;> exact ⟨_, _, rfl, rfl⟩

theorem nameChars_eq_cons {key : Data} (isText : key.isText = true) :
    ∃ chars, nameChars key = '"' :: chars := by
  cases key with
  | text name => exact ⟨_, rfl⟩
  | _ => simp [Data.isText] at isText

/-- What opens a value is no blank. -/
theorem skipBlanks_of_opensValue {c : Char} (opens : opensValue c = true) (text : List Char) :
    skipBlanks (c :: text) = c :: text := by
  refine List.dropWhile_cons_of_neg ?_
  intro blank
  simp only [opensValue, Bool.or_eq_true, beq_iff_eq] at opens blank
  rcases opens with ((((rfl | rfl) | rfl) | rfl) | rfl) | rfl <;> revert blank <;> decide

theorem skipBlanks_line_layout (style : Style) (data : Data) (outer depth : Nat)
    (rest : List Char) :
    ∃ c more, skipBlanks (style.line outer ++ (layout style data depth ++ rest)) = c :: more
      ∧ opensValue c = true := by
  obtain ⟨c, chars, starts, opens⟩ := layout_eq_cons style data depth
  refine ⟨c, chars ++ rest, ?_, opens⟩
  rw [skipBlanks_line, starts, List.cons_append, skipBlanks_of_opensValue opens]

theorem skipBlanks_line_name (style : Style) {key : Data} (isText : key.isText = true)
    (outer : Nat) (rest : List Char) :
    ∃ c more, skipBlanks (style.line outer ++ (nameChars key ++ rest)) = c :: more
      ∧ opensValue c = true := by
  obtain ⟨chars, starts⟩ := nameChars_eq_cons isText
  refine ⟨'"', chars ++ rest, ?_, by decide⟩
  rw [skipBlanks_line, starts, List.cons_append, skipBlanks_of_opensValue (by decide)]

/-- Values do not see the blanks in front of them. -/
theorem valueTree_of_skipBlanks_eq {text text' : List Char}
    (same : skipBlanks text = skipBlanks text') (fuel : Nat) :
    valueTree fuel text = valueTree fuel text' := by
  cases fuel with
  | zero => rfl
  | succ fuel => rw [valueTree, valueTree, same]

theorem itemTrees_of_skipBlanks_eq {text text' : List Char}
    (same : skipBlanks text = skipBlanks text') (fuel : Nat) :
    itemTrees fuel text = itemTrees fuel text' := by
  cases fuel with
  | zero => rfl
  | succ fuel => rw [itemTrees, itemTrees, valueTree_of_skipBlanks_eq same]

theorem memberTrees_of_skipBlanks_eq {text text' : List Char}
    (same : skipBlanks text = skipBlanks text') (fuel : Nat) :
    memberTrees fuel text = memberTrees fuel text' := by
  cases fuel with
  | zero => rfl
  | succ fuel => rw [memberTrees, memberTrees, valueTree_of_skipBlanks_eq same]

/-! ### Values -/

/-- A bracket with an item behind it opens a list of items. -/
theorem valueTree_list {text : List Char} {c : Char} {more : List Char}
    (starts : skipBlanks text = c :: more) (opens : opensValue c = true) (fuel : Nat) :
    valueTree (fuel + 1) ('[' :: text)
      = (.array (itemTrees fuel text).1, (itemTrees fuel text).2) := by
  have same : skipBlanks (c :: more) = skipBlanks text := by
    rw [skipBlanks_of_opensValue opens, starts]
  have differ : c ≠ ']' := by rintro rfl; exact absurd opens (by decide)
  rw [valueTree, skipBlanks_of_opensValue (by decide)]
  simp only [starts]
  split
  next closed => exact absurd (List.cons.inj closed).1 differ
  next => rw [itemTrees_of_skipBlanks_eq same]

/-- A brace with a name behind it opens an object of members. -/
theorem valueTree_map {text : List Char} {c : Char} {more : List Char}
    (starts : skipBlanks text = c :: more) (opens : opensValue c = true) (fuel : Nat) :
    valueTree (fuel + 1) ('{' :: text)
      = (.object (memberTrees fuel text).1, (memberTrees fuel text).2) := by
  have same : skipBlanks (c :: more) = skipBlanks text := by
    rw [skipBlanks_of_opensValue opens, starts]
  have differ : c ≠ '}' := by rintro rfl; exact absurd opens (by decide)
  rw [valueTree, skipBlanks_of_opensValue (by decide)]
  simp only [starts]
  split
  next closed => exact absurd (List.cons.inj closed).1 differ
  next => rw [memberTrees_of_skipBlanks_eq same]

/-- An item is read up to the comma or the bracket behind it. -/
theorem itemTrees_item {fuel : Nat} {text rest : List Char} {item : Tree}
    (read : valueTree fuel text = (item, rest)) :
    itemTrees (fuel + 1) text =
      match skipBlanks rest with
      | ',' :: rest => (item :: (itemTrees fuel rest).1, (itemTrees fuel rest).2)
      | ']' :: rest => ([item], rest)
      | _ => ([item, .broken], []) := by
  have step := itemTrees.eq_def (fuel + 1) text
  simp only [read] at step
  exact step

/-- A member is read up to the comma or the brace behind it. -/
theorem memberTrees_member {fuel : Nat} {text rest rest' : List Char} {name : String}
    {value : Tree} (read : valueTree fuel text = (.text name, ':' :: rest))
    (read' : valueTree fuel rest = (value, rest')) :
    memberTrees (fuel + 1) text =
      match skipBlanks rest' with
      | ',' :: rest =>
        ((.text name, value) :: (memberTrees fuel rest).1, (memberTrees fuel rest).2)
      | '}' :: rest => ([(.text name, value)], rest)
      | _ => ([(.text name, value), (.broken, .broken)], []) := by
  have skip : skipBlanks (':' :: rest) = ':' :: rest := by
    rw [skipBlanks, List.dropWhile_cons_of_neg (by decide)]
  have step := memberTrees.eq_def (fuel + 1) text
  simp only [read, Tree.isName, if_true, skip, read'] at step
  exact step

/-- A name is read as the text that it is. -/
theorem valueTree_name {key : Data} (isText : key.isText = true) (fuel : Nat)
    (rest : List Char) :
    ∃ name, key.jsonTree = .text name
      ∧ valueTree (fuel + 1) (nameChars key ++ rest) = (.text name, rest) := by
  cases key with
  | text name =>
    refine ⟨name, rfl, ?_⟩
    rw [nameChars, textChars, List.cons_append, List.append_assoc, valueTree,
      skipBlanks_of_opensValue (by decide)]
    exact textTree_escaped name rest
  | _ => simp [Data.isText] at isText

mutual

/-- **Values** are read back, whatever follows them. -/
theorem valueTree_layout (style : Style) : ∀ (data : Data) (depth fuel : Nat) (rest : List Char),
    data.bearsJson = true → 2 * (layout style data depth).length ≤ fuel →
      valueTree fuel (layout style data depth ++ rest) = (data.jsonTree, rest)
  | .null, _, fuel + 1, rest, _, _ => by
    rw [layout, List.cons_append, valueTree, skipBlanks_of_opensValue (by decide)]
    rfl
  | .flag true, _, fuel + 1, rest, _, _ => by
    rw [layout, List.cons_append, valueTree, skipBlanks_of_opensValue (by decide)]
    rfl
  | .flag false, _, fuel + 1, rest, _, _ => by
    rw [layout, List.cons_append, valueTree, skipBlanks_of_opensValue (by decide)]
    rfl
  | .text value, _, fuel + 1, rest, _, _ => by
    rw [layout, textChars, List.cons_append, List.append_assoc, valueTree,
      skipBlanks_of_opensValue (by decide)]
    exact textTree_escaped value rest
  | .list [], _, fuel + 1, rest, _, _ => by
    rw [layout, List.cons_append, valueTree, skipBlanks_of_opensValue (by decide)]
    rfl
  | .map _ [], _, fuel + 1, rest, _, _ => by
    rw [layout, List.cons_append, valueTree, skipBlanks_of_opensValue (by decide)]
    rfl
  | .list (item :: others), depth, fuel + 1, rest, bears, enough => by
    rw [Data.bearsJson, Data.itemsBearJson, Bool.and_eq_true] at bears
    simp only [layout, List.cons_append, List.append_assoc, List.nil_append, List.length_cons,
      List.length_append] at enough ⊢
    obtain ⟨c, more, starts, opens⟩ := skipBlanks_line_layout style item (depth + 1) (depth + 1)
      (itemsLayout style others (depth + 1) ++ (style.line depth ++ ']' :: rest))
    rw [valueTree_list starts opens, itemTrees_of_skipBlanks_eq (skipBlanks_line ..),
      itemTrees_layout style item others (depth + 1) depth fuel rest bears.1 bears.2 (by omega),
      Data.jsonTree, Data.itemJsonTrees]
  | .map 0 (entry :: others), _, _, _, bears, _ => absurd bears (by simp [Data.bearsJson])
  | .map (count + 1) ((key, value) :: others), depth, fuel + 1, rest, bears, enough => by
    rw [Data.bearsJson, Data.entriesBearJson, Bool.and_eq_true, Bool.and_eq_true,
      Bool.and_eq_true] at bears
    obtain ⟨-, ⟨isText, value_bears⟩, others_bear⟩ := bears
    simp only [layout, List.cons_append, List.append_assoc, List.nil_append, List.length_cons,
      List.length_append] at enough ⊢
    obtain ⟨c, more, starts, opens⟩ := skipBlanks_line_name style isText (depth + 1)
      (style.colon ++ (layout style value (depth + 1)
        ++ (entriesLayout style others (depth + 1) ++ (style.line depth ++ '}' :: rest))))
    rw [valueTree_map starts opens, memberTrees_of_skipBlanks_eq (skipBlanks_line ..),
      memberTrees_layout style key value others (depth + 1) depth fuel rest isText value_bears
        others_bear (by omega), Data.jsonTree, Data.entryJsonTrees]
  | data, depth, 0, rest, _, enough => by
    -- no text is empty, so there is fuel for it
    obtain ⟨c, chars, starts, -⟩ := layout_eq_cons style data depth
    rw [starts] at enough
    cases enough
termination_by _ _ fuel => fuel

/-- **Items are read from their text** up to the bracket behind the last one, with fuel for all
of it. -/
theorem itemTrees_layout (style : Style) : ∀ (item : Data) (others : List Data)
    (depth outer fuel : Nat) (rest : List Char),
    item.bearsJson = true → Data.itemsBearJson others = true →
      2 * (layout style item depth).length + 2 * (itemsLayout style others depth).length + 1
        ≤ fuel →
      itemTrees fuel (layout style item depth ++ (itemsLayout style others depth
          ++ (style.line outer ++ ']' :: rest)))
        = (item.jsonTree :: Data.itemJsonTrees others, rest)
  | item, [], depth, outer, fuel + 1, rest, item_bears, _, enough => by
    have read := valueTree_layout style item depth fuel (style.line outer ++ ']' :: rest)
      item_bears (by omega)
    rw [itemsLayout, List.nil_append, itemTrees_item read, skipBlanks_line, skipBlanks,
      List.dropWhile_cons_of_neg (by decide)]
    rfl
  | item, next :: others, depth, outer, fuel + 1, rest, item_bears, others_bear, enough => by
    rw [Data.itemsBearJson, Bool.and_eq_true] at others_bear
    simp only [itemsLayout, List.cons_append, List.append_assoc, List.length_cons,
      List.length_append] at enough ⊢
    have read := valueTree_layout style item depth fuel
      (',' :: (style.line depth ++ (layout style next depth ++ (itemsLayout style others depth
        ++ (style.line outer ++ ']' :: rest))))) item_bears (by omega)
    rw [itemTrees_item read, skipBlanks, List.dropWhile_cons_of_neg (by decide)]
    simp only []
    rw [itemTrees_of_skipBlanks_eq (skipBlanks_line ..),
      itemTrees_layout style next others depth outer fuel rest others_bear.1 others_bear.2
        (by omega), Data.itemJsonTrees]
termination_by _ _ _ _ fuel => fuel

/-- **Members are read from their text** up to the brace behind the last one, each name before
its value. -/
theorem memberTrees_layout (style : Style) : ∀ (key value : Data) (others : List (Data × Data))
    (depth outer fuel : Nat) (rest : List Char),
    key.isText = true → value.bearsJson = true → Data.entriesBearJson others = true →
      2 * (nameChars key).length + 2 * (layout style value depth).length
        + 2 * (entriesLayout style others depth).length + 1 ≤ fuel →
      memberTrees fuel (nameChars key ++ (style.colon ++ (layout style value depth
          ++ (entriesLayout style others depth ++ (style.line outer ++ '}' :: rest)))))
        = ((key.jsonTree, value.jsonTree) :: Data.entryJsonTrees others, rest)
  | key, value, others, depth, outer, fuel, rest, isText, value_bears, others_bear, enough => by
    obtain ⟨fuel, rfl⟩ : ∃ less, fuel = less + 2 := by
      obtain ⟨chars, starts⟩ := nameChars_eq_cons isText
      rw [starts, List.length_cons] at enough
      exact ⟨fuel - 2, by omega⟩
    obtain ⟨text, colon, skip⟩ := skipBlanks_colon style (layout style value depth
      ++ (entriesLayout style others depth ++ (style.line outer ++ '}' :: rest)))
    obtain ⟨name, named, read⟩ := valueTree_name isText fuel (':' :: text)
    have read' := valueTree_layout style value depth (fuel + 1)
      (entriesLayout style others depth ++ (style.line outer ++ '}' :: rest)) value_bears
      (by omega)
    rw [← valueTree_of_skipBlanks_eq skip] at read'
    rw [colon, memberTrees_member read read', named]
    cases others with
    | nil =>
      rw [entriesLayout, List.nil_append, skipBlanks_line, skipBlanks,
        List.dropWhile_cons_of_neg (by decide)]
      rfl
    | cons next others =>
      obtain ⟨key', value'⟩ := next
      rw [Data.entriesBearJson, Bool.and_eq_true, Bool.and_eq_true] at others_bear
      obtain ⟨⟨isText', value_bears'⟩, others_bear⟩ := others_bear
      simp only [entriesLayout, List.cons_append, List.append_assoc, List.length_cons,
        List.length_append] at enough ⊢
      rw [skipBlanks, List.dropWhile_cons_of_neg (by decide)]
      simp only []
      rw [memberTrees_of_skipBlanks_eq (skipBlanks_line ..),
        memberTrees_layout style key' value' others depth outer (fuel + 1) rest isText'
          value_bears' others_bear (by omega), Data.entryJsonTrees]
termination_by _ _ _ _ _ fuel => fuel

end

/-! ### Whole texts -/

/-- **JSON text is read back** as the tree of its data, with nothing behind it. -/
theorem ofText_layout (style : Style) {data : Data} (bears : data.bearsJson = true) :
    Tree.ofText (String.ofList (layout style data 0)) = (data.jsonTree, true) := by
  have read := valueTree_layout style data 0 (2 * (layout style data 0).length + 2) [] bears
    (by omega)
  rw [List.append_nil] at read
  rw [Tree.ofText, String.toList_ofList]
  simp only [read]
  rfl

/-- **JSON text is unambiguous**: data with the same text has the same tree. -/
theorem jsonTree_eq_of_layout_eq (style : Style) {data data' : Data}
    (bears : data.bearsJson = true) (bears' : data'.bearsJson = true)
    (same : layout style data 0 = layout style data' 0) : data.jsonTree = data'.jsonTree := by
  have read := ofText_layout style bears
  rw [same, ofText_layout style bears'] at read
  exact (congrArg Prod.fst read).symm

end Json

end BreakCheck
