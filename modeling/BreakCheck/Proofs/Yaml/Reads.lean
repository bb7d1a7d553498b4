/-
BreakCheck/Proofs/Yaml/Reads.lean

What readers make of the data that a document shows.

`Reads depth read shown value` says that a reader gives a value, without any notice
or failure, wherever the data is shown and that many levels may still be entered.
It is settled once for every kind of question that can be put to a document.

A record is read entry by entry.  `Fills` says how the entries of some fields
change a value; a field that is left out changes nothing, so what is read does not
depend on which fields are written (`Fills.texts`, `Fills.flag`).
-/
import BreakCheck.Proofs.Yaml.Shown

namespace BreakCheck.Yaml

namespace Reader

variable {α β σ : Type}

/-- **A reader makes a value of data** wherever the data is shown, so many levels
further down. -/
def Reads (depth : Nat) (read : Reader α) (shown : Data) (value : α) : Prop :=
  ∀ (context : Context) (tree : Tree), depth ≤ context.levels → tree.data? = some shown →
    read context tree = pure value

theorem Reads.mono {depth depth' : Nat} {read : Reader α} {shown : Data} {value : α}
    (reads : Reads depth read shown value) (deeper : depth ≤ depth') :
    Reads depth' read shown value :=
  fun context tree enough => reads context tree (Nat.le_trans deeper enough)

theorem Reads.map {depth : Nat} {read : Reader α} {shown : Data} {value : α}
    (reads : Reads depth read shown value) (f : α → β) :
    Reads depth (f <$> read) shown (f value) := by
  intro context tree enough same
  show f <$> read context tree = pure (f value)
  rw [reads context tree enough same, map_pure]

/-! ### Texts, flags and lists -/

/-- A scalar refers to nothing. -/
theorem follow_scalar (context : Context) (style : ScalarStyle) (tag : Option Tag)
    (text : String) : follow context (.scalar style tag text) = pure (.scalar style tag text) :=
  rfl

theorem reads_textAs (wanted text : String) : Reads 0 (textAs wanted) (.text text) text := by
  intro context tree _ same
  obtain ⟨style, tag, rfl, -⟩ := Tree.of_data?_eq_text same
  rfl

theorem reads_flag (value : Bool) : Reads 0 flag (.flag value) value := by
  intro context tree _ same
  obtain ⟨style, tag, text, rfl, can, spelled⟩ := Tree.of_data?_eq_flag same
  rw [flag, follow_scalar, pure_bind]
  simp only [can, spelled, if_true]

/-- The items of a list are read one by one. -/
theorem items_eq {depth : Nat} {read : Reader α} {shown : List Data} {values : List α}
    (reads : List.Forall₂ (Reads depth read) shown values) {context : Context}
    (enough : depth ≤ context.levels) (index : Nat) {trees : List Tree}
    (same : Tree.itemData? trees = some shown) :
    items read context index trees = pure values := by
  induction reads generalizing index trees with
  | nil => rw [Tree.eq_nil_of_itemData?_eq_nil same]; rfl
  | cons first _ ih =>
    obtain ⟨item, rest, rfl, here, there⟩ := Tree.itemData?_cons same
    rw [items, first (context.down (.item index)) item enough here, pure_bind,
      ih (index + 1) there, pure_bind]

theorem Reads.list {depth : Nat} {item : Reader α} {shown : List Data} {values : List α}
    (reads : List.Forall₂ (Reads depth item) shown values) :
    Reads (depth + 1) (list item) (.list shown) values := by
  intro context tree enough same
  obtain ⟨tag, items, rfl, found⟩ := Tree.of_data?_eq_list same
  obtain ⟨document, path, levels⟩ := context
  cases levels with
  | zero => cases enough
  | succ levels =>
    show Reader.items item ⟨document, path, levels⟩ 0 items = pure values
    exact items_eq reads (Nat.le_of_succ_le_succ enough) 0 found

theorem reads_texts (values : List String) :
    Reads 1 (Decoder.texts : Reader (List String)) (Data.texts values) values := by
  refine Reads.list ?_
  rw [List.forall₂_map_left_iff]
  exact List.forall₂_same.2 fun value _ => reads_textAs _ value

/-! ### Records -/

/-- **Entries of fields with certain names change a value**, whatever stands behind
them, as long as none of the names has been read before. -/
def Fills (fields : List (String × Reader (σ → σ))) (depth : Nat) (names : List String)
    (shown : List (String × Data)) (before after : σ) : Prop :=
  ∀ (context : Context) (front more : List (Tree × Tree)) (seen : List String),
    depth ≤ context.levels → Tree.ShowsFields front shown → List.Disjoint names seen →
    ∃ seen', seen' ⊆ names ++ seen
      ∧ entries fields context (front ++ more) seen before
        = entries fields context more seen' after

section Fills

variable {fields : List (String × Reader (σ → σ))} {depth : Nat} {names names' : List String}

/-- No entries change nothing. -/
theorem Fills.nil (value : σ) : Fills fields depth names [] value value := by
  intro context front more seen _ shows _
  rw [shows.eq_nil]
  exact ⟨seen, List.subset_append_right _ _, rfl⟩

/-- The entry of a field is read by its reader. -/
theorem Fills.one {name : String} {read : Reader (σ → σ)} {held : Data} {update : σ → σ}
    (known : fields.lookup name = some read) (reads : Reads depth read held update) (value : σ) :
    Fills fields depth [name] [(name, held)] value (update value) := by
  intro context front more seen enough shows fresh
  obtain ⟨key, tree, rest, rfl, here, there, others⟩ := shows.cons
  rw [others.eq_nil]
  refine ⟨name :: seen, List.Subset.refl _, ?_⟩
  have unseen : seen.contains name = false := by simpa using fresh (List.mem_singleton_self name)
  rw [List.singleton_append, entries,
    reads_textAs _ _ context key (Nat.zero_le _) here, pure_bind, known]
  simp only [unseen, Bool.false_eq_true, if_false]
  rw [reads (context.down (stepTo key)) tree enough there, pure_bind]

/-- The entry of an unknown field is stepped over. -/
theorem Fills.skip {name : String} (unknown : fields.lookup name = none) (held : Data)
    (value : σ) : Fills fields depth [name] [(name, held)] value value := by
  intro context front more seen _ shows _
  obtain ⟨key, tree, rest, rfl, here, there, others⟩ := shows.cons
  rw [others.eq_nil]
  refine ⟨seen, List.subset_cons_self _ _, ?_⟩
  rw [List.singleton_append, entries,
    reads_textAs _ _ context key (Nat.zero_le _) here, pure_bind, unknown]
  show (pass context tree >>= fun _ => entries fields context more seen value) = _
  rw [pass, if_pos (Tree.isWhole_of_data? there), pure_bind]

/-- **Fields one behind the other** change a value one after the other. -/
theorem Fills.append {shown shown' : List (String × Data)} {before between after : σ}
    (first : Fills fields depth names shown before between)
    (second : Fills fields depth names' shown' between after)
    (apart : ∀ name ∈ names, name ∉ names') :
    Fills fields depth (names ++ names') (shown ++ shown') before after := by
  intro context front more seen enough shows fresh
  obtain ⟨front, back, rfl, here, there⟩ := shows.append
  rw [List.disjoint_append_left] at fresh
  obtain ⟨seen', sub, same⟩ := first context front (back ++ more) seen enough here fresh.1
  have fresh' : List.Disjoint names' seen' := by
    intro name mine read
    rcases List.mem_append.1 (sub read) with read | read
    · exact apart name read mine
    · exact fresh.2 mine read
  obtain ⟨seen'', sub', same'⟩ := second context back more seen' enough there fresh'
  refine ⟨seen'', ?_, by rw [List.append_assoc, same, same']⟩
  intro name read
  rcases List.mem_append.1 (sub' read) with read | read
  · simp [read]
  · have := sub read
    grind

/-- A list of texts that is left out when empty. -/
theorem Fills.texts {key : String} (set : List String → σ → σ)
    (known : fields.lookup key = some (set <$> Decoder.texts)) (values : List String) {value : σ}
    (blank : set [] value = value) (enough : 1 ≤ depth) :
    Fills fields depth [key] (Data.textsField key values) value (set values value) := by
  unfold Data.textsField
  by_cases none : values.isEmpty = true
  · rw [if_pos none, List.isEmpty_iff.1 none, blank]
    exact Fills.nil value
  · rw [if_neg none]
    exact Fills.one known (((reads_texts values).mono enough).map set) value

/-- A flag that is left out when it is not set. -/
theorem Fills.flag {key : String} (set : Bool → σ → σ)
    (known : fields.lookup key = some (set <$> Reader.flag)) (flag : Bool) {value : σ}
    (blank : set false value = value) :
    Fills fields depth [key] (Data.flagField key flag) value (set flag value) := by
  unfold Data.flagField
  cases flag with
  | false =>
    rw [if_neg Bool.false_ne_true, blank]
    exact Fills.nil value
  | true => exact Fills.one known (((reads_flag true).mono (Nat.zero_le _)).map set) value

/-- **A record** is what its entries make of the blank value. -/
theorem Fills.reads {shown : List (String × Data)} {blank value : σ} (name : String)
    (fills : Fills fields depth names shown blank value) :
    Reads (depth + 1) (record name blank fields) (.record shown) value := by
  intro context tree enough same
  obtain ⟨tag, entries, rfl, shows⟩ := Tree.of_data?_eq_record same
  obtain ⟨document, path, levels⟩ := context
  cases levels with
  | zero => cases enough
  | succ levels =>
    show Reader.entries fields ⟨document, path, levels⟩ entries [] blank = pure value
    obtain ⟨seen, -, same⟩ := fills ⟨document, path, levels⟩ entries [] []
      (Nat.le_of_succ_le_succ enough) shows (List.disjoint_nil_right _)
    rw [List.append_nil] at same
    rw [same, Reader.entries]

end Fills

/-! ### Keys and values that may be missing -/

theorem keysOf_eq {fields : List (String × Data)} (context : Context)
    {pairs : List (Tree × Tree)} (shows : Tree.ShowsFields pairs fields) :
    keysOf context pairs = pure (fields.map Prod.fst) := by
  induction fields generalizing pairs with
  | nil => rw [shows.eq_nil]; rfl
  | cons field fields ih =>
    obtain ⟨key, tree, rest, rfl, here, there, others⟩ := shows.cons
    rw [keysOf, reads_textAs _ _ context key (Nat.zero_le _) here, pure_bind, pass,
      if_pos (Tree.isWhole_of_data? there), pure_bind, ih others, pure_bind]
    rfl

theorem reads_keys (fields : List (String × Data)) :
    Reads 1 keys (.record fields) (fields.map Prod.fst) := by
  intro context tree enough same
  obtain ⟨tag, entries, rfl, shows⟩ := Tree.of_data?_eq_record same
  obtain ⟨document, path, levels⟩ := context
  cases levels with
  | zero => cases enough
  | succ levels =>
    show keysOf ⟨document, path, levels⟩ entries = _
    exact keysOf_eq _ shows

/-- A text is no missing value, not even an empty one. -/
theorem Reads.optional_text {depth : Nat} {read : Reader α} {text : String} {value : α}
    (reads : Reads depth read (.text text) value) :
    Reads depth (optional read) (.text text) (some value) := by
  intro context tree enough same
  have given := reads context tree enough same
  obtain ⟨style, tag, rfl, means⟩ := Tree.of_data?_eq_text same
  rw [optional, follow_scalar, pure_bind]
  simp only [(meaning_eq_text means).2, given, map_pure]

theorem Reads.optional_record {depth : Nat} {read : Reader α} {fields : List (String × Data)}
    {value : α} (reads : Reads depth read (.record fields) value) :
    Reads depth (optional read) (.record fields) (some value) := by
  intro context tree enough same
  have given := reads context tree enough same
  obtain ⟨tag, entries, rfl, -⟩ := Tree.of_data?_eq_record same
  show some <$> read context (.mapping tag entries) = _
  rw [given, map_pure]

/-! ### Nodes -/

/-- Texts in a sequence stay what they are in a node. -/
theorem nodeWithin_texts (levels : Nat) (values : List String) (context : Context) {tree : Tree}
    (same : tree.data? = some (Data.texts values)) :
    nodeWithin (levels + 1) context tree = pure (.sequence (values.map Node.scalar)) := by
  obtain ⟨tag, trees, rfl, found⟩ := Tree.of_data?_eq_list same
  have reads : List.Forall₂ (Reads 0 (fun c t => Node.scalar <$> textAs "a scalar" c t))
      (values.map Data.text) (values.map Node.scalar) := by
    rw [List.forall₂_map_left_iff, List.forall₂_map_right_iff]
    exact List.forall₂_same.2 fun value _ => (reads_textAs "a scalar" value).map Node.scalar
  show Node.sequence <$> items _ context 0 trees = _
  rw [items_eq reads (Nat.zero_le _) 0 found, map_pure]

/-- The node of a mapping from texts to lists of texts. -/
def textsNode (fields : List (String × List String)) : Node :=
  .mapping .plain <| fields.flatMap fun (key, values) =>
    [.scalar key, .sequence (values.map Node.scalar)]

theorem nodeEntries_eq (levels : Nat) (fields : List (String × List String)) (context : Context)
    {pairs : List (Tree × Tree)}
    (shows : Tree.ShowsFields pairs (fields.map fun (key, values) => (key, Data.texts values))) :
    nodeEntries (nodeWithin (levels + 1)) context pairs
      = pure (textsNode fields).children := by
  induction fields generalizing pairs with
  | nil => rw [shows.eq_nil]; rfl
  | cons field fields ih =>
    obtain ⟨name, values⟩ := field
    obtain ⟨key, tree, rest, rfl, here, there, others⟩ := shows.cons
    rw [nodeEntries, reads_textAs _ _ context key (Nat.zero_le _) here, pure_bind,
      nodeWithin_texts levels values _ there, pure_bind, ih others, pure_bind]
    rfl

theorem reads_node (fields : List (String × List String)) :
    Reads 2 node (.record (fields.map fun (key, values) => (key, Data.texts values)))
      (textsNode fields) := by
  intro context tree enough same
  obtain ⟨tag, pairs, rfl, shows⟩ := Tree.of_data?_eq_record same
  obtain ⟨document, path, levels⟩ := context
  obtain ⟨levels, rfl⟩ := Nat.exists_eq_add_of_le' enough
  show Node.mapping .plain <$> nodeEntries (nodeWithin (levels + 1)) _ pairs = _
  rw [nodeEntries_eq levels fields _ shows, map_pure]
  rfl

end Reader

/-! ### Documents -/

/-- The data that a text shows, if it is one document without any fault. -/
def data? (text : String) : Option Data :=
  let document := Document.ofText text
  if document.fault.isNone && !document.continues then document.root.data? else none

/-- Data comes back from the text that is written for it. -/
def ReadsBack (data : Data) : Prop := ∀ text, write data = .ok text → data? text = some data

/-- **What a reader makes of data is what it makes of a text that shows it.** -/
theorem read_eq {α : Type} {reader : Reader α} {depth : Nat} {shown : Data} {value : α}
    (reads : Reader.Reads depth reader shown value) (shallow : depth ≤ maxDepth) {text : String}
    (same : data? text = some shown) : read reader text = pure value := by
  simp only [data?] at same
  split at same
  next good =>
    rw [Bool.and_eq_true, Option.isNone_iff_eq_none, Bool.not_eq_true'] at good
    rw [read, Document.decode, reads _ _ shallow same]
    simp only [StateT.run_pure, pure_bind, good.1, good.2, Bool.false_eq_true, if_false]
  next => cases same

end BreakCheck.Yaml
