/-
BreakCheck/Proofs/IgnoreOnly/Kept.lean

What is kept when pairs are written.

An ID without paths leaves no trace in a text.  `kept` are the pairs that do; they
alone make up what is written (`toData_eq_record`), in their order and with their
repetitions, so writing only them changes nothing (`Section.toData_kept`).
-/
import BreakCheck.Data
import BreakCheck.Proofs.Ledger

namespace BreakCheck

/-- Whether an exemption names any path. -/
def Exemption.hasPaths (entry : Exemption) : Bool := !entry.paths.isEmpty

namespace IgnoreOnly

/-- The pairs that writing keeps. -/
def kept (declared : List Exemption) : List Exemption := declared.filter Exemption.hasPaths

/-- Pairs are vacuous if none of them is kept. -/
theorem isVacuous_iff (declared : List Exemption) :
    isVacuous declared = true ↔ kept declared = [] := by
  simp [isVacuous, kept, Exemption.hasPaths, List.filter_eq_nil_iff]

theorem kept_ne_nil {declared : List Exemption} (some : isVacuous declared = false) :
    kept declared ≠ [] := by
  intro nothing
  rw [(isVacuous_iff declared).2 nothing] at some
  cases some

@[simp] theorem kept_kept (declared : List Exemption) : kept (kept declared) = kept declared := by
  simp [kept]

/-- A pair is kept if it has paths. -/
theorem kept_cons (entry : Exemption) (rest : List Exemption) :
    kept (entry :: rest) = if entry.hasPaths then entry :: kept rest else kept rest :=
  List.filter_cons

/-- Of distinct IDs, those that are kept are distinct. -/
theorem nodup_ids_kept {ledger : Ledger} (nodup : (Ledger.ids ledger).Nodup) :
    (Ledger.ids (kept ledger)).Nodup :=
  nodup.sublist (List.filter_sublist.map _)

/-- A pair without paths has no content. -/
theorem content_eq_nil {entry : Exemption} (none : entry.hasPaths = false) :
    content entry = [] := by
  rw [Exemption.hasPaths, Bool.not_eq_false'] at none
  rw [content, if_pos none]

/-- The content of a pair with paths is its ID and the list of its paths. -/
theorem content_eq {entry : Exemption} (some : entry.hasPaths = true) :
    content entry = [.scalar entry.id, .sequence (entry.paths.map Node.scalar)] := by
  rw [Exemption.hasPaths, Bool.not_eq_true'] at some
  rw [content, if_neg (by simp [some])]

/-- The nodes that stand for pairs come in twos, one couple for each pair that is kept. -/
theorem length_flatMap_content (declared : List Exemption) :
    (declared.flatMap content).length = 2 * (kept declared).length := by
  induction declared with
  | nil => rfl
  | cons entry rest ih =>
    rw [List.flatMap_cons, List.length_append, ih, kept_cons]
    cases has : entry.hasPaths with
    | false => rw [content_eq_nil has]; simp
    | true => rw [content_eq has]; simp; omega

theorem itemData_scalars (texts : List String) :
    Node.itemData (texts.map Node.scalar) = texts.map Data.text := by
  induction texts with
  | nil => rfl
  | cons text rest ih => rw [List.map_cons, Node.itemData, ih]; rfl

/-- The entries of the node are those of the pairs that are kept. -/
theorem entryData_flatMap_content (declared : List Exemption) :
    Node.entryData (declared.flatMap content)
      = (kept declared).map fun entry => (Data.text entry.id, Data.texts entry.paths) := by
  induction declared with
  | nil => rfl
  | cons entry rest ih =>
    rw [List.flatMap_cons, kept_cons]
    cases has : entry.hasPaths with
    | false =>
      rw [content_eq_nil has, List.nil_append, ih]
      rfl
    | true =>
      rw [content_eq has, List.cons_append, List.cons_append, List.nil_append, Node.entryData, ih,
        Node.toData, Node.toData, itemData_scalars]
      rfl

/-- **Pairs as data**: a record of the pairs that are kept. -/
theorem toData_eq_record (declared : List Exemption) :
    toData declared
      = if declared.isEmpty then .null
        else .record ((kept declared).map fun entry => (entry.id, Data.texts entry.paths)) := by
  rw [toData, encode?]
  by_cases none : declared.isEmpty = true
  · rw [if_pos none, if_pos none]
  · rw [if_neg none, if_neg none]
    show Data.map _ _ = _
    rw [entryData_flatMap_content, length_flatMap_content, Data.record, List.length_map,
      List.map_map, Nat.mul_div_cancel_left _ (by decide)]
    rfl

/-- Pairs of which any is written are a record of those. -/
theorem toData_of_not_isVacuous {declared : List Exemption} (some : isVacuous declared = false) :
    toData declared
      = .record ((kept declared).map fun entry => (entry.id, Data.texts entry.paths)) := by
  have declares : declared.isEmpty = false := by
    cases declared with
    | nil => cases some
    | cons => rfl
  rw [toData_eq_record, if_neg (by simp [declares])]

end IgnoreOnly

namespace Section

/-- A section without the pairs that writing loses. -/
def kept (written : Section) : Section :=
  { written with exemptions := IgnoreOnly.kept written.exemptions }

/-- Writing a section is writing what is kept of it. -/
theorem toData_kept (written : Section) : written.kept.toData = written.toData := by
  have vacuous : IgnoreOnly.isVacuous (IgnoreOnly.kept written.exemptions)
      = IgnoreOnly.isVacuous written.exemptions := by
    rw [Bool.eq_iff_iff, IgnoreOnly.isVacuous_iff, IgnoreOnly.isVacuous_iff,
      IgnoreOnly.kept_kept]
  unfold toData kept
  simp only [vacuous]
  cases none : IgnoreOnly.isVacuous written.exemptions with
  | true => rfl
  | false =>
    rw [IgnoreOnly.toData_of_not_isVacuous none,
      IgnoreOnly.toData_of_not_isVacuous (vacuous.trans none), IgnoreOnly.kept_kept]

end Section

end BreakCheck
