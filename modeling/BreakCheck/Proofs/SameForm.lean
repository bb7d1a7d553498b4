/-
BreakCheck/Proofs/SameForm.lean

Configurations with the same canonical form stay together, whatever is done with them.

Having the same form is being the same up to order (`haveSameForm_iff`), so it is enough
to follow what is said under each ID and to leave the order alone.  Putting paths under an
ID may replace them in different places of the two, or may append in both; what is found
afterwards does not depend on it (`Exemptions.get?_put`).  Writing fails for the version
only (`ConfigFile.write_eq_error_iff`), and reading a written file leaves the IDs without
paths out of both.
-/
import BreakCheck.Proofs.CanonicalForm
import BreakCheck.Proofs.ConfigFile.JsonRoundTrip
import BreakCheck.Proofs.Conversions
import BreakCheck.Proofs.IgnoreOnly.Cleared

namespace BreakCheck

theorem beq_bytes_iff (bytes bytes' : ByteArray) : (bytes == bytes') = true ↔ bytes = bytes' := by
  obtain ⟨data⟩ := bytes
  obtain ⟨data'⟩ := bytes'
  show (data == data') = true ↔ _
  rw [beq_iff_eq, ByteArray.mk.injEq]

/-- **Having the same form** is being the same up to order. -/
theorem haveSameForm_iff (a b : Config) : haveSameForm a b = .ok true ↔ a.SameUpToOrder b := by
  rw [← canonicalText_eq_iff, ← toUTF8_ofList_inj, haveSameForm, canonicalForm_eq,
    canonicalForm_eq]
  show Except.ok (_ == _) = _ ↔ _
  rw [Except.ok.injEq, beq_bytes_iff]

/-! ### What is found of exemptions -/

namespace Exemptions

/-- **Putting** is seen under one ID only, wherever the ID stands. -/
theorem get?_put (table : Exemptions) (id name : String) (paths : List String) :
    (table.put id paths).2.get? name = if id = name then some paths else table.get? name := by
  rw [get?_eq_ledger, (table.put_agrees id paths).2, Ledger.get?_put, get?_eq_ledger]

/-- Putting returns what has been found before. -/
theorem put_fst (table : Exemptions) (id : String) (paths : List String) :
    (table.put id paths).1 = table.get? id := by
  rw [(table.put_agrees id paths).1, get?_eq_ledger, Ledger.put]
  cases Ledger.get? table.toList id with
  | none => rfl
  | some old => rfl

/-- What is kept of a table is asked for an ID: the paths are there unless they are none. -/
theorem get?_kept (table : Exemptions) (id : String) :
    table.kept.get? id = (table.get? id).filter fun paths => !paths.isEmpty := by
  rw [get?_eq_ledger, toList_kept, get?_eq_ledger]
  exact Ledger.get?_kept table.nodup_ids id

end Exemptions

/-- Of two lists of the same paths, both are empty or neither is. -/
theorem rel_filter {found found' : Option (List String)}
    (alike : Option.Rel List.Perm found found') :
    Option.Rel List.Perm (found.filter fun paths => !paths.isEmpty)
      (found'.filter fun paths => !paths.isEmpty) := by
  cases alike with
  | none => exact .none
  | @some paths paths' alike =>
    have empty : paths'.isEmpty = paths.isEmpty := by
      rw [Bool.eq_iff_iff, List.isEmpty_iff_length_eq_zero, List.isEmpty_iff_length_eq_zero,
        alike.length_eq]
    rw [Option.filter_some, Option.filter_some, empty]
    split
    next => exact .some alike
    next => exact .none

/-! ### Staying the same up to order -/

namespace Config.SameUpToOrder

variable {a b : Config}

theorem withVersion (same : a.SameUpToOrder b) (version : String) :
    ({ a with version } : Config).SameUpToOrder { b with version } :=
  { same with version := rfl }

/-- A hop takes configurations that are the same up to order to such configurations. -/
theorem hop (same : a.SameUpToOrder b) (which : Hop) :
    (a.hop which).value.SameUpToOrder (b.hop which).value := by
  rw [hop_eq, hop_eq, same.version]
  exact same.withVersion _

/-- Only what is said under the one ID changes, and it changes alike. -/
theorem put (same : a.SameUpToOrder b) (id : String) {paths paths' : List String}
    (alike : paths.Perm paths') :
    ({ a with exemptions := (a.exemptions.put id paths).2 } : Config).SameUpToOrder
      { b with exemptions := (b.exemptions.put id paths').2 } := by
  refine { same with exemptions := ?_ }
  intro name
  rw [Exemptions.get?_put, Exemptions.get?_put]
  split
  next => exact .some alike
  next => exact same.exemptions name

/-- The same IDs have no paths on both sides. -/
theorem kept (same : a.SameUpToOrder b) : a.kept.SameUpToOrder b.kept := by
  refine { same with exemptions := ?_ }
  intro id
  show Option.Rel List.Perm (a.exemptions.kept.get? id) (b.exemptions.kept.get? id)
  rw [Exemptions.get?_kept, Exemptions.get?_kept]
  exact rel_filter (same.exemptions id)

end Config.SameUpToOrder

/-! ### Files -/

namespace ConfigFile

/-- **Writing fails for the version only.** -/
theorem write_eq_error_iff (config : Config) (output : Output) (error : FileError) :
    write config output = .error error
      ↔ error = .unsupportedVersion config.version
        ∧ ∀ version : Version, version.name ≠ config.version := by
  constructor
  · intro failed
    have unknown (version : Version) : version.name ≠ config.version := by
      intro known
      cases output with
      | text => rw [write_text known] at failed; cases failed
      | json => rw [write_json known] at failed; cases failed
    rw [write_unknown output unknown] at failed
    exact ⟨(Except.error.inj failed).symm, unknown⟩
  · rintro ⟨rfl, unknown⟩
    exact write_unknown output unknown

/-- What is written of a configuration whose data comes back is read as what is kept of it. -/
theorem read_written {config : Config} {text : String} (written : write config .text = .ok text)
    (faithful : ∀ version : Version, version.name = config.version →
      Yaml.ReadsBack (toData version config)) :
    (read text).outcome.value = .ok config.kept := by
  obtain ⟨version, known⟩ := known_of_write written
  rw [write_text known, Except.ok.injEq] at written
  apply read_of_shown_toData known
  apply faithful version known
  rw [yamlWrite_toData, written]

end ConfigFile

/-! ### The congruence -/

open ConfigFile (toData)

/-- **Having the same form is a congruence.**  Configurations with the same form have the
same form after any hop, and after paths that differ in their order have been put under one
ID, where the paths that were there before agree up to their order, too.  Writing fails for
both, in the same way, or for neither; and if the YAML of both shows the data it was written
for, what is read has the same form again. -/
theorem haveSameForm_congr {a b : Config} (same : haveSameForm a b = .ok true) :
    (∀ which, haveSameForm (a.hop which).value (b.hop which).value = .ok true)
      ∧ (∀ (id : String) (paths paths' : List String), paths.Perm paths' →
        haveSameForm { a with exemptions := (a.exemptions.put id paths).2 }
            { b with exemptions := (b.exemptions.put id paths').2 } = .ok true
          ∧ Option.Rel List.Perm (a.exemptions.put id paths).1 (b.exemptions.put id paths').1)
      ∧ (∀ output error, ConfigFile.write a output = .error error
          ↔ ConfigFile.write b output = .error error)
      ∧ ((∀ version : Version, version.name = a.version →
            Yaml.ReadsBack (toData version a) ∧ Yaml.ReadsBack (toData version b)) →
        ∀ text text', ConfigFile.write a .text = .ok text →
          ConfigFile.write b .text = .ok text' →
          ∃ read read', (ConfigFile.read text).outcome.value = .ok read
            ∧ (ConfigFile.read text').outcome.value = .ok read'
            ∧ haveSameForm read read' = .ok true) := by
  have same := (haveSameForm_iff a b).1 same
  refine ⟨?_, ?_, ?_, ?_⟩
  · intro which
    exact (haveSameForm_iff _ _).2 (same.hop which)
  · intro id paths paths' alike
    refine ⟨(haveSameForm_iff _ _).2 (same.put id alike), ?_⟩
    rw [Exemptions.put_fst, Exemptions.put_fst]
    exact same.exemptions id
  · intro output error
    rw [ConfigFile.write_eq_error_iff, ConfigFile.write_eq_error_iff, same.version]
  · intro faithful text text' written written'
    refine ⟨a.kept, b.kept, ?_, ?_, (haveSameForm_iff _ _).2 same.kept⟩
    · exact ConfigFile.read_written written fun version known => (faithful version known).1
    · apply ConfigFile.read_written written'
      intro version known
      exact (faithful version (known.trans same.version.symm)).2

/-! ### Two configurations to try this on -/

/-- Two IDs in one order. -/
def straight : Config where
  included := ["A", "B"]
  exemptions := (Exemptions.ofList [⟨"A", ["x"]⟩, ⟨"B", ["y", "z"]⟩]).value
  version := "v1"

/-- The same IDs in the other order. -/
def turned : Config where
  included := ["B", "A"]
  exemptions := (Exemptions.ofList [⟨"B", ["z", "y"]⟩, ⟨"A", ["x"]⟩]).value
  version := "v1"

/-- The file of the one configuration. -/
def straightText : String :=
  "version: v1\nbreaking:\n  use:\n  - A\n  - B\n"
    ++ "  ignore_only:\n    A:\n    - x\n    B:\n    - y\n    - z\n"

/-- The file of the other one. -/
def turnedText : String :=
  "version: v1\nbreaking:\n  use:\n  - B\n  - A\n"
    ++ "  ignore_only:\n    B:\n    - z\n    - y\n    A:\n    - x\n"

theorem toList_straight :
    straight.exemptions.toList = [⟨"A", ["x"]⟩, ⟨"B", ["y", "z"]⟩] :=
  Exemptions.toList_ofList_of_nodup (by decide)

theorem toList_turned :
    turned.exemptions.toList = [⟨"B", ["z", "y"]⟩, ⟨"A", ["x"]⟩] :=
  Exemptions.toList_ofList_of_nodup (by decide)

theorem haveSameForm_turned : haveSameForm straight turned = .ok true := by
  have exemptions (id : String) : Option.Rel List.Perm (straight.exemptions.get? id)
      (turned.exemptions.get? id) := by
    rw [Exemptions.get?_eq_ledger, Exemptions.get?_eq_ledger, toList_straight, toList_turned]
    simp only [Ledger.get?_cons]
    by_cases first : "A" = id
    · subst first
      exact .some (.refl _)
    · rw [if_neg first, if_neg first]
      split
      next => exact .some (.swap _ _ _)
      next => exact .none
  exact (haveSameForm_iff _ _).2
    { included := .swap _ _ _
      excluded := .nil
      ignored := .nil
      exemptions
      ignoreUnstable := rfl
      version := rfl }

set_option maxRecDepth 10000 in
theorem write_straight : ConfigFile.write straight .text = .ok straightText := by
  have lines : Yaml.documentLines (toData .v1 straight) = straightText.toList := by decide +kernel
  exact ConfigFile.write_of_lines rfl lines

set_option maxRecDepth 10000 in
theorem write_turned : ConfigFile.write turned .text = .ok turnedText := by
  have lines : Yaml.documentLines (toData .v1 turned) = turnedText.toList := by decide +kernel
  exact ConfigFile.write_of_lines rfl lines

set_option maxRecDepth 10000 in
theorem shown_straight : Yaml.data? straightText = some (toData .v1 straight) := by
  have document : Yaml.Document.ofText straightText =
      { root := .mapping none
          [(.scalar .plain none "version", .scalar .plain none "v1"),
           (.scalar .plain none "breaking", .mapping none
            [(.scalar .plain none "use", .sequence none
                [.scalar .plain none "A", .scalar .plain none "B"]),
             (.scalar .plain none "ignore_only", .mapping none
                [(.scalar .plain none "A", .sequence none [.scalar .plain none "x"]),
                 (.scalar .plain none "B", .sequence none
                  [.scalar .plain none "y", .scalar .plain none "z"])])])]
        anchors := []
        size := 24
        fault := none
        continues := false } := by cbv
  rw [Yaml.data?, document, ConfigFile.toData_eq_fileData, Config.toSection_eq, toList_straight]
  rfl

set_option maxRecDepth 10000 in
theorem shown_turned : Yaml.data? turnedText = some (toData .v1 turned) := by
  have document : Yaml.Document.ofText turnedText =
      { root := .mapping none
          [(.scalar .plain none "version", .scalar .plain none "v1"),
           (.scalar .plain none "breaking", .mapping none
            [(.scalar .plain none "use", .sequence none
                [.scalar .plain none "B", .scalar .plain none "A"]),
             (.scalar .plain none "ignore_only", .mapping none
                [(.scalar .plain none "B", .sequence none
                  [.scalar .plain none "z", .scalar .plain none "y"]),
                 (.scalar .plain none "A", .sequence none [.scalar .plain none "x"])])])]
        anchors := []
        size := 24
        fault := none
        continues := false } := by cbv
  rw [Yaml.data?, document, ConfigFile.toData_eq_fileData, Config.toSection_eq, toList_turned]
  rfl

/-- The paths of `B` are replaced in the last place of the one and in the first of the
other; both files are read. -/
theorem haveSameForm_congr_turned :
    haveSameForm straight turned = .ok true
      ∧ haveSameForm (straight.hop (.toVersion .v1beta1)).value
          (turned.hop (.toVersion .v1beta1)).value = .ok true
      ∧ haveSameForm { straight with exemptions := (straight.exemptions.put "B" ["p", "q"]).2 }
          { turned with exemptions := (turned.exemptions.put "B" ["q", "p"]).2 } = .ok true
      ∧ Option.Rel List.Perm (straight.exemptions.put "B" ["p", "q"]).1
          (turned.exemptions.put "B" ["q", "p"]).1
      ∧ ∃ read read', (ConfigFile.read straightText).outcome.value = .ok read
        ∧ (ConfigFile.read turnedText).outcome.value = .ok read'
        ∧ haveSameForm read read' = .ok true := by
  obtain ⟨hops, puts, -, reads⟩ := haveSameForm_congr haveSameForm_turned
  have faithful (version : Version) (known : version.name = straight.version) :
      Yaml.ReadsBack (toData version straight) ∧ Yaml.ReadsBack (toData version turned) := by
    cases version with
    | v1 =>
      exact ⟨ConfigFile.readsBack_of_shown rfl write_straight shown_straight,
        ConfigFile.readsBack_of_shown rfl write_turned shown_turned⟩
    | v1beta1 => exact absurd known (by decide)
  obtain ⟨put, previous⟩ := puts "B" ["p", "q"] ["q", "p"] (.swap _ _ _)
  exact ⟨haveSameForm_turned, hops _, put, previous,
    reads faithful straightText turnedText write_straight write_turned⟩

end BreakCheck
