/-
BreakCheck/Proofs/Yaml/Unstyled.lean

The style in which a text is written says nothing.

A scalar without a tag that means its text may be plain, quoted or a block.  No reader makes a
difference: whatever is asked, a tree gives the same as the tree without these styles
(`Tree.unstyled`).  Tags and the words for null, booleans and numbers are left as they are,
for there the style decides what is meant.

Main results: `texts?_unstyled`, `flag?_unstyled`, `keys?_unstyled`, `node?_unstyled` and, for
records, `record?_unstyled`.
-/
import BreakCheck.Proofs.Yaml.Given
import BreakCheck.Proofs.Yaml.Shown

namespace BreakCheck.Yaml

namespace Tree

/-! ### Trees without styles -/

/-- A scalar, quoted if it has no tag and means its text. -/
def unstyledScalar (style : ScalarStyle) (tag : Option Tag) (text : String) : Tree :=
  match tag, meaning style tag text with
  | none, .ok (.text _) => scalar .singleQuoted none text
  | tag, _ => scalar style tag text

mutual

/-- A tree in which all scalars that mean their text are quoted. -/
def unstyled : Tree → Tree
  | scalar style tag text => unstyledScalar style tag text
  | sequence tag items => sequence tag (itemsUnstyled items)
  | mapping tag entries => mapping tag (entriesUnstyled entries)
  | tree => tree

/-- Items without styles. -/
def itemsUnstyled : List Tree → List Tree
  | [] => []
  | item :: rest => item.unstyled :: itemsUnstyled rest

/-- Keys and values without styles. -/
def entriesUnstyled : List (Tree × Tree) → List (Tree × Tree)
  | [] => []
  | (key, value) :: rest => (key.unstyled, value.unstyled) :: entriesUnstyled rest

end

/-- A scalar is left as it is, or it has no tag, means its text, and is quoted. -/
theorem unstyledScalar_cases (style : ScalarStyle) (tag : Option Tag) (text : String) :
    unstyledScalar style tag text = scalar style tag text
      ∨ (tag = none ∧ meaning style none text = .ok (.text text)
        ∧ unstyledScalar style tag text = scalar .singleQuoted none text) := by
  unfold unstyledScalar
  split
  next held means =>
    obtain ⟨rfl, -⟩ := meaning_eq_text means
    exact .inr ⟨rfl, means, rfl⟩
  next => exact .inl rfl

/-- A scalar stays a scalar of the same text. -/
theorem exists_unstyled (style : ScalarStyle) (tag : Option Tag) (text : String) :
    ∃ style', (scalar style tag text).unstyled = scalar style' tag text := by
  rw [unstyled]
  rcases unstyledScalar_cases style tag text with same | ⟨rfl, -, same⟩
  · exact ⟨style, same⟩
  · exact ⟨.singleQuoted, same⟩

/-- A quoted scalar means its text. -/
theorem meaning_quoted (text : String) : meaning .singleQuoted none text = .ok (.text text) := rfl

/-! ### Scalars -/

section

variable {α : Type} {style : ScalarStyle} {text : String}

/-- A plain word that means its text is not one of the words for booleans. -/
theorem flagOf?_of_plain (means : plainMeaning text = .text text) : flagOf? text = none := by
  simp only [plainMeaning] at means
  split at means
  · cases means
  · split at means
    · cases means
    next none => exact none

/-- A scalar that means its text gives no boolean. -/
theorem flag?_of_text (means : meaning style none text = .ok (.text text)) :
    flag? (scalar style none text) = none := by
  by_cases plain : style = .plain
  · subst plain
    rw [flag?, flagOf?_of_plain (Except.ok.inj means), ite_self]
  · have never : Reader.mayBeFlag style none = false := by
      cases style <;> first | rfl | exact absurd rfl plain
    rw [flag?, never]
    rfl

/-- A scalar that means its text is not nothing. -/
theorem isNothing_of_text (means : meaning style none text = .ok (.text text)) :
    Reader.isNothing (scalar style none text) = false := by
  cases style with
  | plain =>
    have absent := (meaning_eq_text means).2
    rw [Reader.isAbsent, if_neg (not_not_intro rfl), Except.ok.injEq,
      Bool.or_eq_false_iff] at absent
    exact absent.1
  | _ => rfl

/-- A scalar that means its text is no null, so its value is asked for. -/
theorem optional?_of_text (means : meaning style none text = .ok (.text text))
    (value : Tree → Option α) :
    optional? value (scalar style none text) = (value (scalar style none text)).map some := by
  rw [optional?, (meaning_eq_text means).2]

/-- A scalar that means its text is a node with that text. -/
theorem scalarNode?_of_text (means : meaning style none text = .ok (.text text)) :
    scalarNode? style none text = some (.scalar text) := by
  rw [scalarNode?, means]
  rfl

end

/-! ### What trees give, without styles -/

section

variable {α : Type}

@[simp] theorem text?_unstyled (tree : Tree) : tree.unstyled.text? = tree.text? := by
  cases tree with
  | scalar style tag text =>
    obtain ⟨style', same⟩ := exists_unstyled style tag text
    rw [same]
    rfl
  | _ => rfl

@[simp] theorem isNothing_unstyled (tree : Tree) :
    Reader.isNothing tree.unstyled = Reader.isNothing tree := by
  cases tree with
  | scalar style tag text =>
    rw [unstyled]
    rcases unstyledScalar_cases style tag text with same | ⟨rfl, means, same⟩
    · rw [same]
    · rw [same, isNothing_of_text means, isNothing_of_text (meaning_quoted text)]
  | _ => rfl

theorem flag?_unstyled (tree : Tree) : tree.unstyled.flag? = tree.flag? := by
  cases tree with
  | scalar style tag text =>
    rw [unstyled]
    rcases unstyledScalar_cases style tag text with same | ⟨rfl, means, same⟩
    · rw [same]
    · rw [same, flag?_of_text means, flag?_of_text (meaning_quoted text)]
  | _ => rfl

/-- If a value does not hang on styles, whether it is there does not, either. -/
theorem optional?_unstyled {value : Tree → Option α}
    (same : ∀ tree : Tree, value tree.unstyled = value tree) (tree : Tree) :
    optional? value tree.unstyled = optional? value tree := by
  cases tree with
  | scalar style tag text =>
    have given := same (scalar style tag text)
    rw [unstyled] at given ⊢
    rcases unstyledScalar_cases style tag text with same | ⟨rfl, means, same⟩
    · rw [same]
    · rw [same] at given ⊢
      rw [optional?_of_text means, optional?_of_text (meaning_quoted text), given]
  | void => rfl
  | sequence tag items => exact congrArg (Option.map some) (same (sequence tag items))
  | mapping tag entries => exact congrArg (Option.map some) (same (mapping tag entries))
  | reference number => rfl
  | cut => rfl

/-- Items give the same without styles if each of them does. -/
theorem mapM_itemsUnstyled {item : Tree → Option α}
    (same : ∀ tree : Tree, item tree.unstyled = item tree) (items : List Tree) :
    (itemsUnstyled items).mapM item = items.mapM item := by
  induction items with
  | nil => rfl
  | cons first rest ih => rw [itemsUnstyled, List.mapM_cons, List.mapM_cons, same, ih]

/-- Lists give the same without styles if their items do. -/
theorem list?_unstyled {item : Tree → Option α}
    (same : ∀ tree : Tree, item tree.unstyled = item tree) (tree : Tree) :
    list? item tree.unstyled = list? item tree := by
  cases tree with
  | sequence tag items => exact mapM_itemsUnstyled same items
  | scalar style tag text =>
    have nothing := isNothing_unstyled (scalar style tag text)
    obtain ⟨style', quoted⟩ := exists_unstyled style tag text
    rw [quoted] at nothing ⊢
    exact congrArg (fun nothing : Bool => if nothing then some [] else none) nothing
  | _ => rfl

theorem texts?_unstyled (tree : Tree) : tree.unstyled.texts? = tree.texts? :=
  list?_unstyled text?_unstyled tree

/-- Named entries, their values without styles. -/
theorem named?_entriesUnstyled (entries : List (Tree × Tree)) :
    named? (entriesUnstyled entries)
      = (named? entries).map fun written =>
          written.map fun entry => (entry.1, entry.2.unstyled) := by
  induction entries with
  | nil => rfl
  | cons entry rest ih =>
    obtain ⟨key, value⟩ := entry
    rw [entriesUnstyled, named?, named?, text?_unstyled, ih]
    cases key.text? with
    | none => rfl
    | some name => cases named? rest <;> rfl

/-- The keys of a mapping are the same without styles. -/
theorem keys?_unstyled (tree : Tree) : tree.unstyled.keys? = tree.keys? := by
  cases tree with
  | mapping tag entries =>
    show (named? (entriesUnstyled entries)).map _ = (named? entries).map _
    rw [named?_entriesUnstyled, Option.map_map]
    refine congrFun (congrArg Option.map (funext fun written => ?_)) _
    rw [Function.comp_apply, List.map_map]
    rfl
  | scalar style tag text =>
    have nothing := isNothing_unstyled (scalar style tag text)
    obtain ⟨style', quoted⟩ := exists_unstyled style tag text
    rw [quoted] at nothing ⊢
    exact congrArg (fun nothing : Bool => if nothing then some [] else none) nothing
  | _ => rfl

/-! ### Nodes -/

/-- Keys and values in turns are the same without styles if the values are. -/
theorem turns?_unstyled {value : Tree → Option Node}
    (same : ∀ tree : Tree, value tree.unstyled = value tree) (entries : List (Tree × Tree)) :
    turns? value (entriesUnstyled entries) = turns? value entries := by
  induction entries with
  | nil => rfl
  | cons entry rest ih =>
    obtain ⟨key, tree⟩ := entry
    rw [entriesUnstyled, turns?, turns?, text?_unstyled, same, ih]

/-- The node of a scalar is the same without its style. -/
theorem scalarNode?_unstyled (style : ScalarStyle) (tag : Option Tag) (text : String)
    (levels : Nat) :
    node? levels (scalar style tag text).unstyled = node? levels (scalar style tag text) := by
  have given (style : ScalarStyle) (tag : Option Tag) :
      node? levels (scalar style tag text) = scalarNode? style tag text := by
    cases levels <;> rfl
  rw [unstyled]
  rcases unstyledScalar_cases style tag text with same | ⟨rfl, means, same⟩
  · rw [same]
  · rw [same, given, given, scalarNode?_of_text means, scalarNode?_of_text (meaning_quoted text)]

/-- **A node has no styles**, at any level. -/
theorem node?_unstyled (levels : Nat) (tree : Tree) :
    node? levels tree.unstyled = node? levels tree := by
  induction levels generalizing tree with
  | zero =>
    cases tree with
    | scalar style tag text => exact scalarNode?_unstyled style tag text 0
    | _ => rfl
  | succ levels ih =>
    cases tree with
    | scalar style tag text => exact scalarNode?_unstyled style tag text (levels + 1)
    | sequence tag items =>
      have each : ∀ item : Tree, item.unstyled.text?.map Node.scalar = item.text?.map Node.scalar :=
        fun item => by rw [text?_unstyled]
      exact congrArg (Option.map Node.sequence) (mapM_itemsUnstyled each items)
    | mapping tag entries =>
      exact congrArg (Option.map (Node.mapping .plain)) (turns?_unstyled ih entries)
    | _ => rfl

end

end Tree

/-! ### Records -/

namespace Reader.Table

variable {σ : Type} {table : Table σ}

/-- No field of a table makes a difference between styles. -/
def IsUnstyled (table : Table σ) : Prop :=
  ∀ slot ∈ table, ∀ tree : Tree, slot.2 tree.unstyled = slot.2 tree

/-- A record whose fields do not hang on styles is filled with the same by entries without them.
-/
theorem fill?_unstyled (unstyled : table.IsUnstyled) (written : List (String × Tree))
    (seen : List String) (value : σ) :
    fill? table (written.map fun entry => (entry.1, entry.2.unstyled)) seen value
      = fill? table written seen value := by
  induction written generalizing seen value with
  | nil => rfl
  | cons entry rest ih =>
    obtain ⟨name, tree⟩ := entry
    rw [List.map_cons, fill?, fill?]
    cases field : table.lookup name with
    | none => exact ih seen value
    | some given =>
      have same : given tree.unstyled = given tree := unstyled _ (mem_of_lookup field) tree
      simp only [same, ih]

/-- **A record has no styles**, if its fields have none. -/
theorem record?_unstyled (unstyled : table.IsUnstyled) (blank : σ) (tree : Tree) :
    table.record? blank tree.unstyled = table.record? blank tree := by
  cases tree with
  | mapping tag entries =>
    show (Tree.named? (Tree.entriesUnstyled entries)).bind _ = (Tree.named? entries).bind _
    rw [Tree.named?_entriesUnstyled, Option.bind_map]
    refine Option.bind_congr fun written _ => ?_
    exact fill?_unstyled unstyled written [] blank
  | scalar style tag text =>
    have nothing := Tree.isNothing_unstyled (.scalar style tag text)
    obtain ⟨style', quoted⟩ := Tree.exists_unstyled style tag text
    rw [quoted] at nothing ⊢
    exact congrArg (fun nothing : Bool => if nothing then some blank else none) nothing
  | _ => rfl

end Reader.Table

end BreakCheck.Yaml
