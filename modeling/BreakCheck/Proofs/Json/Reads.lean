/-
BreakCheck/Proofs/Json/Reads.lean

What readers make of the data that a JSON text shows.

`Reads depth read shown result` says that a reader comes to a result, with just its
notices, wherever the tree of the data stands and that many levels may still be entered.
It is settled once for every kind of question that can be put to a document.

A record is read member by member.  `Fills` says how the members of some fields change a
value; a field that is left out changes nothing, so what is read does not depend on which
fields are written (`Fills.unlessEmpty`).

Main result: `read_write`.  Data that JSON can say is written, and a reader that comes to
a result on the data comes to it on the text.
-/
import BreakCheck.Json.Reading
import BreakCheck.Proofs.Attempt
import BreakCheck.Proofs.Data.Fields
import Mathlib.Data.List.Basic

namespace BreakCheck

namespace Json.Reader

variable {α β σ : Type}

/-- **A reader comes to a result** wherever the data stands, so many levels further down. -/
def Reads (depth : Nat) (read : Reader α) (shown : Data) (result : Logged α) : Prop :=
  ∀ levels, depth ≤ levels → read levels shown.jsonTree = monadLift result

theorem Reads.mono {depth depth' : Nat} {read : Reader α} {shown : Data} {result : Logged α}
    (reads : Reads depth read shown result) (deeper : depth ≤ depth') :
    Reads depth' read shown result :=
  fun levels enough => reads levels (Nat.le_trans deeper enough)

theorem Reads.map {depth : Nat} {read : Reader α} {shown : Data} {result : Logged α}
    (reads : Reads depth read shown result) (f : α → β) :
    Reads depth (f <$> read) shown (f <$> result) := by
  intro levels enough
  show f <$> read levels shown.jsonTree = monadLift (f <$> result)
  rw [reads levels enough, monadLift_map]

/-- A check that is passed adds its notices. -/
theorem Reads.refine {depth : Nat} {read : Reader α} {shown : Data} {result : Logged α}
    (reads : Reads depth read shown result) {check : α → Attempt SchemaError β}
    {checked : Logged β} (passed : check result.value = monadLift checked) :
    Reads depth (Decoder.refine check read) shown (result >>= fun _ => checked) := by
  intro levels enough
  show (read levels shown.jsonTree >>= fun value =>
    (check value).mapError fun error => Error.data (.schema error)) = _
  rw [reads levels enough, monadLift_bind]
  apply Attempt.lift_bind_congr
  apply Attempt.eq_of_outcome_eq
  rw [passed, Attempt.outcome_mapError, Attempt.outcome_lift]
  exact (Attempt.outcome_lift checked).symm

/-! ### Texts, flags and lists -/

theorem reads_textAs (wanted text : String) :
    Reads 0 (textAs wanted) (.text text) (pure text) :=
  fun _ _ => rfl

theorem reads_flag (value : Bool) : Reads 0 flag (.flag value) (pure value) := fun _ _ => rfl

/-- **A list** is read item by item, each of them from data of its own. -/
theorem Reads.list {depth : Nat} {read : Reader α} {toData : α → Data}
    (reads : ∀ value, Reads depth read (toData value) (pure value)) (values : List α) :
    Reads (depth + 1) (Decoder.list read) (.list (values.map toData)) (pure values) := by
  intro levels enough
  cases levels with
  | zero => cases enough
  | succ levels =>
    show (Data.itemJsonTrees (values.map toData)).mapM (read levels) = pure values
    induction values with
    | nil => rfl
    | cons value rest ih =>
      rw [List.map_cons, Data.itemJsonTrees, List.mapM_cons,
        reads value levels (Nat.le_of_succ_le_succ enough), ih]
      rfl

theorem reads_texts (values : List String) :
    Reads 1 (Decoder.texts : Reader (List String)) (Data.texts values) (pure values) :=
  Reads.list (reads_textAs _) values

/-! ### Records -/

/-- Fields as members of an object. -/
def memberTrees (shown : List (String × Data)) : List (Tree × Tree) :=
  shown.map fun field => (.text field.1, field.2.jsonTree)

/-- **Members of fields with certain names change a value**, whatever stands behind
them, as long as none of the names has been read before. -/
def Fills (fields : List (String × Reader (σ → σ))) (depth : Nat) (names : List String)
    (shown : List (String × Data)) (before : σ) (after : Logged σ) : Prop :=
  ∀ (levels : Nat) (more : List (Tree × Tree)) (seen : List String),
    depth ≤ levels → List.Disjoint names seen →
    ∃ seen', seen' ⊆ names ++ seen
      ∧ members levels fields (memberTrees shown ++ more) seen before
        = monadLift after >>= members levels fields more seen'

section Fills

variable {fields : List (String × Reader (σ → σ))} {depth : Nat} {names names' : List String}

/-- No members change nothing. -/
theorem Fills.nil (value : σ) : Fills fields depth names [] value (pure value) := by
  intro levels more seen _ _
  exact ⟨seen, List.subset_append_right _ _, rfl⟩

/-- The member of a field is read by its reader. -/
theorem Fills.one {name : String} {read : Reader (σ → σ)} {held : Data} {update : Logged (σ → σ)}
    (known : fields.lookup name = some read) (reads : Reads depth read held update) (value : σ) :
    Fills fields depth [name] [(name, held)] value ((fun update => update value) <$> update) := by
  intro levels more seen enough fresh
  have unseen : seen.contains name = false := by simpa using fresh (List.mem_singleton_self name)
  refine ⟨name :: seen, List.Subset.refl _, ?_⟩
  show members levels fields ((.text name, held.jsonTree) :: more) seen value = _
  rw [members, known]
  simp only [unseen, Bool.false_eq_true, if_false]
  rw [reads levels enough, monadLift_map, bind_map_left]

/-- **Fields one behind the other** change a value one after the other. -/
theorem Fills.append {shown shown' : List (String × Data)} {before : σ} {between after : Logged σ}
    (first : Fills fields depth names shown before between)
    (second : Fills fields depth names' shown' between.value after)
    (apart : ∀ name ∈ names, name ∉ names') :
    Fills fields depth (names ++ names') (shown ++ shown') before
      (between >>= fun _ => after) := by
  intro levels more seen enough fresh
  rw [List.disjoint_append_left] at fresh
  obtain ⟨seen', sub, same⟩ := first levels (memberTrees shown' ++ more) seen enough fresh.1
  have fresh' : List.Disjoint names' seen' := by
    intro name mine read
    rcases List.mem_append.1 (sub read) with read | read
    · exact apart name read mine
    · exact fresh.2 mine read
  obtain ⟨seen'', sub', same'⟩ := second levels more seen' enough fresh'
  have trees : memberTrees (shown ++ shown') ++ more
      = memberTrees shown ++ (memberTrees shown' ++ more) := by
    rw [memberTrees, List.map_append, List.append_assoc]
    rfl
  refine ⟨seen'', ?_, ?_⟩
  · intro name read
    rcases List.mem_append.1 (sub' read) with read | read
    · simp [read]
    · rcases List.mem_append.1 (sub read) with read | read <;> simp [read]
  · rw [trees, same, monadLift_bind, bind_assoc]
    exact Attempt.lift_bind_congr same'

/-- A field that is left out when empty. -/
theorem Fills.unlessEmpty {key : String} {read : Reader (σ → σ)} {held : Data} {empty : Bool}
    {before : σ} {after : Logged σ} (known : fields.lookup key = some read)
    (absent : empty = true → after = pure before)
    (present : empty = false → ∃ update, Reads depth read held update
      ∧ after = (fun update => update before) <$> update) :
    Fills fields depth [key] (if empty then [] else [(key, held)]) before after := by
  cases empty with
  | true =>
    rw [absent rfl]
    exact Fills.nil before
  | false =>
    obtain ⟨update, reads, same⟩ := present rfl
    rw [same]
    exact Fills.one known reads before

theorem Fills.texts {key : String} (set : List String → σ → σ)
    (known : fields.lookup key = some (set <$> Decoder.texts)) (values : List String) {before : σ}
    (blank : set [] before = before) (enough : 1 ≤ depth) :
    Fills fields depth [key] (Data.textsField key values) before (pure (set values before)) := by
  apply Fills.unlessEmpty known
  · intro none
    rw [List.isEmpty_iff.1 none, blank]
  · intro _
    exact ⟨_, ((reads_texts values).mono enough).map set, rfl⟩

theorem Fills.text {key : String} (set : String → σ → σ)
    (known : fields.lookup key = some (set <$> Decoder.text)) (value : String) {before : σ}
    (blank : set "" before = before) :
    Fills fields depth [key] (Data.textField key value) before (pure (set value before)) := by
  apply Fills.unlessEmpty known
  · intro none
    rw [String.isEmpty_iff.1 none, blank]
  · intro _
    exact ⟨_, ((reads_textAs _ value).mono (Nat.zero_le _)).map set, rfl⟩

theorem Fills.list {key : String} (set : List α → σ → σ) {read : Reader α} {toData : α → Data}
    (known : fields.lookup key = some (set <$> Decoder.list read))
    (reads : ∀ value, Reads depth read (toData value) (pure value)) (values : List α) {before : σ}
    (blank : set [] before = before) :
    Fills fields (depth + 1) [key] (Data.listField key (values.map toData)) before
      (pure (set values before)) := by
  apply Fills.unlessEmpty known
  · intro none
    rw [List.map_eq_nil_iff.1 (List.isEmpty_iff.1 none), blank]
  · intro _
    exact ⟨_, (Reads.list reads values).map set, rfl⟩

/-- A flag that is left out when it is not set. -/
theorem Fills.flag {key : String} (set : Bool → σ → σ)
    (known : fields.lookup key = some (set <$> Decoder.flag)) (value : Bool) {before : σ}
    (blank : set false before = before) :
    Fills fields depth [key] (Data.flagField key value) before (pure (set value before)) := by
  cases value with
  | false =>
    rw [blank]
    exact Fills.nil before
  | true => exact Fills.one known (((reads_flag true).mono (Nat.zero_le _)).map set) before

/-- **A record** is what its members make of the blank value. -/
theorem Fills.reads {shown : List (String × Data)} {blank : σ} {after : Logged σ} (name : String)
    (fills : Fills fields depth names shown blank after) :
    Reads (depth + 1) (record name blank fields) (.record shown) after := by
  intro levels enough
  cases levels with
  | zero => cases enough
  | succ levels =>
    obtain ⟨seen, -, same⟩ := fills levels [] [] (Nat.le_of_succ_le_succ enough)
      (List.disjoint_nil_right _)
    rw [Data.jsonTree_record]
    show members levels fields (memberTrees shown) [] blank = _
    rw [List.append_nil] at same
    rw [same]
    exact bind_pure _

end Fills

end Json.Reader

/-! ### Texts -/

/-- **Data is read from the text that is written for it.** -/
theorem Json.read_write {α : Type} {reader : Json.Reader α} {depth : Nat} {shown : Data}
    {result : Logged α} (reads : Reader.Reads depth reader shown result)
    (shallow : depth ≤ maxDepth) (bears : shown.bearsJson = true) (style : Style) :
    ∃ text, write style shown = .ok text ∧ read reader text = monadLift result := by
  refine ⟨_, write_eq_layout style bears, ?_⟩
  rw [read, ofText_layout style bears]
  show (reader maxDepth shown.jsonTree >>= fun value => pure value) = _
  rw [reads maxDepth shallow, bind_pure]

end BreakCheck
