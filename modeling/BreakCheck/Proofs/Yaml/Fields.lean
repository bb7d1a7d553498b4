/-
BreakCheck/Proofs/Yaml/Fields.lean

The order of the entries of a record says nothing.

A reader takes the entries of a record as they come.  If the fields of the record do not get
into each other's way (`Table.Apart`), what it makes of them can be said field by field: it is
what the table makes of the values that stand under its names, in the order of the table
(`Table.gather?`), unless a field is repeated.

Main results: `fill?_eq`, and `fill?_perm`, that entries in another order make the same.
-/
import BreakCheck.Proofs.Yaml.Given
import Mathlib.Data.List.Nodup

namespace BreakCheck.Yaml.Reader.Table

variable {σ : Type} {table : Table σ} {name : String} {given : Tree → Option (σ → σ)}

/-! ### Fields by their names -/

/-- The names of written entries that are names of fields. -/
def known (table : Table σ) (written : List (String × Tree)) : List String :=
  (written.map Prod.fst).filter fun name => (table.lookup name).isSome

/-- Change a value by the value of a field, if that is written. -/
def put? (given : Tree → Option (σ → σ)) (found : Option Tree) (value : Option σ) : Option σ :=
  match found with
  | none => value
  | some tree => value.bind fun value => (given tree).map fun update => update value

/-- Change a value by the fields that are written, in the order of the table. -/
def gather? : Table σ → List (String × Tree) → Option σ → Option σ
  | [], _, value => value
  | (name, given) :: rest, written, value =>
    gather? rest written (put? given (written.lookup name) value)

/-- **Two fields do not get into each other's way**: they have different names, and it does
not matter which of them changes a value first. -/
structure Parts (slot slot' : String × (Tree → Option (σ → σ))) : Prop where
  names : slot.1 ≠ slot'.1
  updates : ∀ tree tree' update update', slot.2 tree = some update →
    slot'.2 tree' = some update' → ∀ value, update (update' value) = update' (update value)

/-- No two fields of a table get into each other's way. -/
def Apart (table : Table σ) : Prop := List.Pairwise Parts table

theorem Parts.put? {slot slot' : String × (Tree → Option (σ → σ))} (parts : Parts slot slot')
    (found found' : Option Tree) (value : Option σ) :
    put? slot.2 found (put? slot'.2 found' value)
      = put? slot'.2 found' (put? slot.2 found value) := by
  cases found with
  | none => rfl
  | some tree =>
    cases found' with
    | none => rfl
    | some tree' =>
      cases value with
      | none => rfl
      | some value =>
        simp only [Table.put?, Option.bind_some]
        cases same : slot.2 tree with
        | none => cases slot'.2 tree' <;> rfl
        | some update =>
          cases same' : slot'.2 tree' with
          | none => rfl
          | some update' =>
            exact congrArg some (parts.updates tree tree' update update' same same' value)

/-- Fields that are set one by one do not get into each other's way. -/
theorem Parts.of_sets {α β : Type} {name name' : String} {given : Tree → Option α}
    {given' : Tree → Option β} {set : α → σ → σ} {set' : β → σ → σ} (names : name ≠ name')
    (commute : ∀ a b value, set a (set' b value) = set' b (set a value)) :
    Parts (name, fun tree => (given tree).map set) (name', fun tree => (given' tree).map set') := by
  refine ⟨names, fun tree tree' update update' made made' value => ?_⟩
  obtain ⟨a, -, rfl⟩ := Option.map_eq_some_iff.1 made
  obtain ⟨b, -, rfl⟩ := Option.map_eq_some_iff.1 made'
  exact commute a b value

/-! ### One entry more -/

theorem gather?_none (table : Table σ) (written : List (String × Tree)) :
    gather? table written none = none := by
  induction table with
  | nil => rfl
  | cons slot rest ih =>
    have nothing : put? slot.2 (written.lookup slot.1) none = none := by
      cases written.lookup slot.1 <;> rfl
    rw [gather?, nothing, ih]

theorem gather?_nil (table : Table σ) (value : Option σ) : gather? table [] value = value := by
  induction table with
  | nil => rfl
  | cons slot rest ih => exact ih

/-- An entry that is no field's changes nothing. -/
theorem gather?_cons_unknown (unknown : table.lookup name = none) (tree : Tree)
    (rest : List (String × Tree)) (value : Option σ) :
    gather? table ((name, tree) :: rest) value = gather? table rest value := by
  induction table generalizing value with
  | nil => rfl
  | cons slot slots ih =>
    obtain ⟨key, given⟩ := slot
    rw [List.lookup_cons] at unknown
    cases other : name == key with
    | true =>
      rw [other] at unknown
      cases unknown
    | false =>
      rw [other] at unknown
      have apart : (key == name) = false := by rw [beq_eq_false_iff_ne] at other ⊢; exact other.symm
      rw [gather?, gather?, List.lookup_cons, apart, ih unknown]

/-- The entry of a field may be taken first, if the field is not written again. -/
theorem gather?_cons (apart : Apart table) (field : table.lookup name = some given) (tree : Tree)
    {rest : List (String × Tree)} (once : rest.lookup name = none) (value : Option σ) :
    gather? table ((name, tree) :: rest) value
      = gather? table rest (put? given (some tree) value) := by
  induction table generalizing value with
  | nil => cases field
  | cons slot slots ih =>
    obtain ⟨key, given'⟩ := slot
    obtain ⟨first, apart⟩ := List.pairwise_cons.1 apart
    rw [List.lookup_cons] at field
    cases same : name == key with
    | true =>
      -- none of the other fields has this name
      rw [same] at field
      obtain rfl := beq_iff_eq.1 same
      obtain rfl : given' = given := Option.some.inj field
      have others : List.lookup name slots = none := by
        rw [List.lookup_eq_none_iff]
        exact fun slot held => bne_iff_ne.2 (first slot held).names
      rw [gather?, gather?, once, List.lookup_cons_self, gather?_cons_unknown others]
      rfl
    | false =>
      rw [same] at field
      have held : (name, given) ∈ slots := mem_of_lookup field
      have other : (key == name) = false := by rw [beq_eq_false_iff_ne] at same ⊢; exact same.symm
      rw [gather?, gather?, List.lookup_cons, other, ih apart field]
      exact congrArg _ ((first _ held).put? (rest.lookup key) (some tree) value).symm

/-! ### All entries -/

/-- **Entries are taken field by field**, unless a field is repeated. -/
theorem fill?_eq (apart : Apart table) (written : List (String × Tree)) (seen : List String)
    (value : σ) :
    fill? table written seen value
      = if (known table written).Nodup ∧ ∀ name ∈ known table written, name ∉ seen
        then gather? table written (some value) else none := by
  induction written generalizing seen value with
  | nil => rw [fill?, gather?_nil, if_pos ⟨List.nodup_nil, List.forall_mem_nil _⟩]
  | cons entry rest ih =>
    obtain ⟨name, tree⟩ := entry
    cases field : table.lookup name with
    | none =>
      have same : known table ((name, tree) :: rest) = known table rest := by
        rw [known, List.map_cons, List.filter_cons_of_neg (by simp [field])]
        rfl
      rw [fill?, field, same, gather?_cons_unknown field]
      exact ih seen value
    | some given =>
      have more : known table ((name, tree) :: rest) = name :: known table rest := by
        rw [known, List.map_cons, List.filter_cons_of_pos (by simp [field])]
        rfl
      have condition : (known table ((name, tree) :: rest)).Nodup
            ∧ (∀ other ∈ known table ((name, tree) :: rest), other ∉ seen)
          ↔ name ∉ seen ∧ (known table rest).Nodup
            ∧ ∀ other ∈ known table rest, other ∉ name :: seen := by
        rw [more, List.nodup_cons, List.forall_mem_cons]
        simp only [List.mem_cons, not_or]
        grind
      rw [fill?, field]
      dsimp only
      cases taken : seen.contains name with
      | true =>
        rw [if_pos rfl, if_neg]
        rw [condition]
        exact fun fresh => fresh.1 (List.contains_iff_mem.1 taken)
      | false =>
        have fresh : name ∉ seen := fun held => by simp [held] at taken
        simp only [Bool.false_eq_true, if_false, ih]
        by_cases good : (known table rest).Nodup ∧ ∀ other ∈ known table rest, other ∉ name :: seen
        · have once : rest.lookup name = none := by
            rw [List.lookup_eq_none_iff]
            intro other held
            rw [bne_iff_ne]
            rintro rfl
            refine good.2 other.1 ?_ List.mem_cons_self
            exact List.mem_filter.2 ⟨List.mem_map_of_mem held, by simp [field]⟩
          rw [if_pos (condition.2 ⟨fresh, good⟩), gather?_cons apart field tree once, put?]
          simp only [if_pos good, Option.bind_some]
          cases given tree with
          | none => exact (gather?_none table rest).symm
          | some update => rfl
        · rw [if_neg fun all => good (condition.1 all).2]
          simp only [if_neg good]
          cases given tree <;> rfl

/-! ### Entries in another order -/

/-- What stands under a name does not depend on the order of the entries, if it is written
once. -/
theorem lookup_perm {α : Type} {written written' : List (String × α)} (perm : written.Perm written')
    {name : String} (once : (written.map Prod.fst).count name ≤ 1) :
    written.lookup name = written'.lookup name := by
  induction perm with
  | nil => rfl
  | cons entry _ ih =>
    rw [List.lookup_cons, List.lookup_cons]
    cases name == entry.1 with
    | true => rfl
    | false =>
      exact ih (Nat.le_trans (List.Sublist.count_le name (List.sublist_cons_self _ _)) once)
  | swap entry entry' rest =>
    rw [List.lookup_cons, List.lookup_cons, List.lookup_cons, List.lookup_cons]
    cases same : name == entry.1 with
    | false => rfl
    | true =>
      cases same' : name == entry'.1 with
      | false => rfl
      | true =>
        simp only [List.map_cons, List.count_cons, ← beq_iff_eq.1 same, ← beq_iff_eq.1 same',
          beq_self_eq_true, if_true] at once
        omega
  | trans first second ih ih' =>
    exact (ih once).trans (ih' ((first.map Prod.fst).count_eq name ▸ once))

theorem gather?_perm {written written' : List (String × Tree)} (perm : written.Perm written')
    (once : ∀ slot ∈ table, (written.map Prod.fst).count slot.1 ≤ 1) (value : Option σ) :
    gather? table written value = gather? table written' value := by
  induction table generalizing value with
  | nil => rfl
  | cons slot rest ih =>
    rw [List.forall_mem_cons] at once
    rw [gather?, gather?, lookup_perm perm once.1]
    exact ih once.2 _

/-- Entries in another order have the same names in another order, or not all have names. -/
theorem named?_perm {entries entries' : List (Tree × Tree)} (perm : entries.Perm entries') :
    (Tree.named? entries = none ∧ Tree.named? entries' = none)
      ∨ ∃ written written', Tree.named? entries = some written
        ∧ Tree.named? entries' = some written' ∧ written.Perm written' := by
  induction perm with
  | nil => exact .inr ⟨[], [], rfl, rfl, List.Perm.refl _⟩
  | cons entry _ ih =>
    obtain ⟨key, tree⟩ := entry
    rw [Tree.named?, Tree.named?]
    cases key.text? with
    | none => exact .inl ⟨rfl, rfl⟩
    | some name =>
      obtain ⟨none, none'⟩ | ⟨written, written', same, same', perm⟩ := ih
      · exact .inl ⟨by rw [none]; rfl, by rw [none']; rfl⟩
      · exact .inr ⟨_, _, by rw [same]; rfl, by rw [same']; rfl, perm.cons (name, tree)⟩
  | swap entry entry' rest =>
    obtain ⟨key, tree⟩ := entry
    obtain ⟨key', tree'⟩ := entry'
    simp only [Tree.named?]
    cases key.text? with
    | none => cases key'.text? <;> exact .inl ⟨rfl, rfl⟩
    | some name =>
      cases key'.text? with
      | none => exact .inl ⟨rfl, rfl⟩
      | some name' =>
        cases Tree.named? rest with
        | none => exact .inl ⟨rfl, rfl⟩
        | some written => exact .inr ⟨_, _, rfl, rfl, List.Perm.swap _ _ _⟩
  | trans _ _ ih ih' =>
    obtain ⟨none, none'⟩ | ⟨written, between, same, same', perm⟩ := ih
    · obtain ⟨-, none''⟩ | ⟨_, _, some, -⟩ := ih'
      · exact .inl ⟨none, none''⟩
      · rw [none'] at some; cases some
    · obtain ⟨none, -⟩ | ⟨_, written', some, same'', perm'⟩ := ih'
      · rw [same'] at none; cases none
      · rw [same', Option.some.injEq] at some
        subst some
        exact .inr ⟨written, written', same, same'', perm.trans perm'⟩

/-- **Entries in another order make the same**, or nothing. -/
theorem fill?_perm (apart : Apart table) {written written' : List (String × Tree)}
    (perm : written.Perm written') (value : σ) :
    fill? table written [] value = fill? table written' [] value := by
  have names : (known table written).Perm (known table written') := (perm.map Prod.fst).filter _
  rw [fill?_eq apart, fill?_eq apart]
  by_cases nodup : (known table written).Nodup
  · rw [if_pos ⟨nodup, fun _ _ => List.not_mem_nil⟩,
      if_pos ⟨names.nodup_iff.1 nodup, fun _ _ => List.not_mem_nil⟩]
    refine gather?_perm perm (fun slot held => ?_) _
    have field : (table.lookup slot.1).isSome = true :=
      List.lookup_isSome_iff.2 ⟨slot, held, beq_self_eq_true _⟩
    have once := List.nodup_iff_count_le_one.1 nodup slot.1
    rwa [known, List.count_filter (by exact field)] at once
  · rw [if_neg fun both => nodup both.1, if_neg fun both => nodup (names.nodup_iff.2 both.1)]

/-! ### Fields one by one -/

/-- **A field that is set** is set to what stands under its name, or stays blank. -/
theorem gather?_set {α : Type} (blank : α) {key : String} {given : Tree → Option α}
    {set : α → σ → σ} {value : σ} (same : set blank value = value) (rest : Table σ)
    (written : List (String × Tree)) :
    gather? ((key, fun tree => (given tree).map set) :: rest) written (some value)
      = (Tree.held? given blank (written.lookup key)).bind fun a =>
          gather? rest written (some (set a value)) := by
  rw [gather?]
  cases written.lookup key with
  | none =>
    show gather? rest written (some value) = gather? rest written (some (set blank value))
    rw [same]
  | some tree =>
    show gather? rest written (((given tree).map set).map fun update => update value)
      = (given tree).bind _
    cases given tree with
    | none => exact gather?_none rest written
    | some a => rfl

/-- A tree with fields is read as what a table makes of them. -/
theorem record?_of_fields? {tree : Tree} {written : List (String × Tree)}
    (fields : tree.fields? = some written) (table : Table σ) (blank : σ) :
    record? table blank tree = fill? table written [] blank := by
  cases tree with
  | mapping tag entries =>
    have named : Tree.named? entries = some written := fields
    rw [record?, named]
    rfl
  | _ => cases fields

/-- **A record of one field** is what stands under its name, if that is written once. -/
theorem fill?_single {α : Type} {key : String} {written : List (String × Tree)}
    (once : (written.map Prod.fst).count key ≤ 1) (given : Tree → Option (Option α)) :
    fill? [(key, fun tree => (given tree).map fun value _ => value)] written [] none
      = Tree.held? given none (written.lookup key) := by
  have nodup : (known [(key, fun tree => (given tree).map fun value (_ : Option α) => value)]
      written).Nodup := by
    rw [List.nodup_iff_count_le_one]
    intro name
    by_cases same : name = key
    · rw [same, known, List.count_filter (by simp)]
      exact once
    · rw [known, List.count_eq_zero_of_not_mem]
      · exact Nat.zero_le 1
      · simp [List.lookup_cons, beq_eq_false_iff_ne.2 same]
  rw [fill?_eq (List.pairwise_singleton _ _), if_pos ⟨nodup, fun _ _ => List.not_mem_nil⟩,
    gather?, gather?]
  cases written.lookup key with
  | none => rfl
  | some tree =>
    show ((given tree).map _).map _ = given tree
    rw [Option.map_map]
    exact Option.map_id'

end BreakCheck.Yaml.Reader.Table
