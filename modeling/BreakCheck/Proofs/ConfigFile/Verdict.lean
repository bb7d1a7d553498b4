/-
BreakCheck/Proofs/ConfigFile/Verdict.lean

What a file comes to: a configuration, or which error.

A file is read in three passes, each of which has its own idea of what the section is.  For a
text that is one document without any fault or reference, what each of them makes of it is
given by the trees that stand under `version` and `breaking` (`settles_field`).  So the result
can be told from these two alone (`judge`), up to the words of an error of the text format,
and the order of the judgements is the order in which errors win.

Main result: `read_verdict`, what is reported for a section with any number of defects, and
what a section without any becomes.
-/
import BreakCheck.Proofs.ByteOrder
import BreakCheck.Proofs.ConfigFile.Shown
import BreakCheck.Proofs.Exemptions.Sorted
import BreakCheck.Proofs.Yaml.Fields
import Mathlib

namespace BreakCheck

open Yaml (Reader Tree)
open Yaml.Reader (Describes Gives Table)

/-- A version knows a key: it is the key of one of its fields. -/
def Version.KnowsKey (version : Version) (name : String) : Prop :=
  ∃ field ∈ version.knownFields, field.key = name

/-- A key is accepted if it is the key of a field that the version has. -/
theorem Version.any_knows_iff (version : Version) (name : String) :
    (Field.ofKey? name).any version.knows = true ↔ version.KnowsKey name := by
  have fields : version.knownFields = Field.all := by cases version <;> rfl
  rw [KnowsKey, fields]
  cases found : Field.ofKey? name with
  | none =>
    have none := List.find?_eq_none.1 found
    refine iff_of_false Bool.false_ne_true ?_
    rintro ⟨field, held, same⟩
    exact none field held (beq_iff_eq.2 same)
  | some field =>
    refine iff_of_true (knows_eq_true version field) ⟨field, Field.mem_all field, ?_⟩
    have same := List.find?_some found
    exact beq_iff_eq.1 same

namespace ConfigFile

variable {α β : Type}

/-! ### Results as far as they can be told -/

/-- **A result is as it was told**: it is this value or this error, or some error of the text
format if none is named. -/
def Meets (result : Except FileError α) : Except (Option FileError) α → Prop
  | .ok value => result = .ok value
  | .error (some error) => result = .error error
  | .error none => ∃ error, result = .error (.yaml error)

/-- A value that is given, or an error of the text format. -/
def told : Option α → Except (Option FileError) α
  | some value => .ok value
  | none => .error none

/-- **Two steps meet two verdicts**, one after the other: a fault of the first one is the fault
of both. -/
theorem meets_bind {step : Attempt FileError α} {next : α → Attempt FileError β}
    {verdict : Except (Option FileError) α} {verdict' : α → Except (Option FileError) β}
    (first : Meets step.outcome.value verdict)
    (second : ∀ value, Meets (next value).outcome.value (verdict' value)) :
    Meets (step >>= next).outcome.value (verdict >>= verdict') := by
  rw [Attempt.value_bind]
  cases verdict with
  | ok value =>
    have done : step.outcome.value = .ok value := first
    rw [done]
    exact second value
  | error error =>
    cases error with
    | some error =>
      have failed : step.outcome.value = .error error := first
      rw [failed]
      rfl
    | none =>
      obtain ⟨error, failed⟩ := first
      exact ⟨error, by rw [failed]; rfl⟩

/-- Reading a file meets what is told of the value that is asked for. -/
theorem meets_readFile {reader : Reader α} {text : String} {given : Option α}
    (settled : Yaml.Settles (Yaml.read reader text) given) :
    Meets (readFile reader text).outcome.value (told given) := by
  rw [readFile, Attempt.outcome_mapError]
  cases given with
  | some value =>
    have done : Yaml.read reader text = pure value := settled
    rw [done]
    rfl
  | none =>
    obtain ⟨error, failed⟩ := settled
    exact ⟨error, by rw [failed]; rfl⟩

/-! ### Fields of a file -/

/-- **A text declares fields**: it is one document without any fault, and refers to nothing;
its root is a mapping of these entries, whose keys are scalars; and a version and a section are
written at most once. -/
structure Declares (text : String) (fields : List (String × Tree)) : Prop where
  whole : Yaml.isWhole text = true
  free : (Yaml.Document.ofText text).root.isFree = true
  root : (Yaml.Document.ofText text).root.fields? = some fields
  version : (fields.map Prod.fst).count "version" ≤ 1
  breaking : (fields.map Prod.fst).count "breaking" ≤ 1

/-- **A single field of a file** is what stands under its name; nothing else is looked into. -/
theorem settles_field {text : String} {fields : List (String × Tree)} {key : String}
    {read : Reader (Option α)} {given : Tree → Option (Option α)}
    (declares : Declares text fields) (once : (fields.map Prod.fst).count key ≤ 1)
    (gives : Gives 127 read given) (name : String) :
    Yaml.Settles
      (Yaml.read (Decoder.record name none [Decoder.field key read fun value _ => value]) text)
      (Tree.held? given none (fields.lookup key)) := by
  have describes : Describes 127 [(key, fun tree => (given tree).map fun value _ => value)]
      [Decoder.field key read fun value (_ : Option α) => value] :=
    .cons ⟨rfl, gives.map _⟩ .nil
  have settled := Yaml.settles_read (describes.gives name none) declares.whole declares.free
  rwa [Table.record?_of_fields? declares.root, Table.fill?_single once] at settled

/-! ### The version -/

/-- The version that a value declares, or what is wrong with it. -/
def judgeVersion (found : Option Tree) : Except (Option FileError) Version := do
  let name ← told (Tree.held? (Tree.optional? Tree.text?) none found)
  match Version.ofName? (name.getD "") with
  | some version => .ok version
  | none => .error (some (.unsupportedVersion (name.getD "")))

/-- **The version is read as it is judged.** -/
theorem meets_declaredVersion {text : String} {fields : List (String × Tree)}
    (declares : Declares text fields) :
    Meets (declaredVersion text).outcome.value (judgeVersion (fields.lookup "version")) := by
  have settled := settles_field declares declares.version
    (Yaml.Reader.gives_textAs 127 "a string").optional "VersionProbe"
  refine meets_bind (meets_readFile settled) fun name => ?_
  dsimp only
  cases Version.ofName? (name.getD "") <;> rfl

/-! ### The keys of the section -/

/-- The keys that are no field's of the version; of these the least is complained about. -/
def unknownKeys (version : Version) (keys : List String) : List String :=
  keys.filter fun key => !(Field.ofKey? key).any version.knows

theorem mem_unknownKeys {version : Version} {keys : List String} {name : String} :
    name ∈ unknownKeys version keys ↔ name ∈ keys ∧ ¬ version.KnowsKey name := by
  rw [unknownKeys, List.mem_filter, ← Version.any_knows_iff, Bool.not_eq_true', Bool.not_eq_true]

/-- What is wrong with the keys of a section. -/
def judgeKeys (version : Version) (keys : List String) : Except (Option FileError) Unit :=
  match (sortTexts (unknownKeys version keys)).head? with
  | some key => .error (some (.schema (.unknownField key version)))
  | none => .ok ()

/-- Keys are refused as they are judged. -/
theorem meets_refuseUnknown (version : Version) (keys : List String) :
    Meets (refuseUnknown version keys).outcome.value (judgeKeys version keys) := by
  rw [refuseUnknown, judgeKeys, unknownKeys]
  cases (sortTexts (keys.filter fun key => !(Field.ofKey? key).any version.knows)).head? <;> rfl

/-- Keys that are all known are accepted. -/
theorem judgeKeys_of_known {version : Version} {keys : List String}
    (known : ∀ name ∈ keys, version.KnowsKey name) : judgeKeys version keys = .ok () := by
  have nothing : unknownKeys version keys = [] :=
    List.eq_nil_iff_forall_not_mem.2 fun name held =>
      (mem_unknownKeys.1 held).2 (known name (mem_unknownKeys.1 held).1)
  rw [judgeKeys, nothing, sortTexts, List.mergeSort_nil]
  rfl

/-- **Of several unknown keys the least is complained about**, by the order of their bytes. -/
theorem judgeKeys_of_unknown {version : Version} {keys : List String}
    (unknown : ∃ name ∈ keys, ¬ version.KnowsKey name) :
    ∃ key ∈ keys, ¬ version.KnowsKey key
      ∧ (∀ other ∈ keys, ¬ version.KnowsKey other → bytes key ≤ bytes other)
      ∧ judgeKeys version keys = .error (some (.schema (.unknownField key version))) := by
  obtain ⟨name, held, stray⟩ := unknown
  have perm := sortTexts_perm (unknownKeys version keys)
  have sorted := pairwise_sortTexts (unknownKeys version keys)
  cases same : sortTexts (unknownKeys version keys) with
  | nil =>
    have gone := perm.mem_iff.2 (mem_unknownKeys.2 ⟨held, stray⟩)
    rw [same] at gone
    cases gone
  | cons key rest =>
    rw [same] at perm sorted
    obtain ⟨least, -⟩ := List.pairwise_cons.1 sorted
    obtain ⟨mine, stray'⟩ := mem_unknownKeys.1 (perm.mem_iff.1 List.mem_cons_self)
    refine ⟨key, mine, stray', fun other held' stray'' => ?_, by rw [judgeKeys, same]; rfl⟩
    rcases List.mem_cons.1 (perm.mem_iff.2 (mem_unknownKeys.2 ⟨held', stray''⟩)) with rfl | later
    · exact List.le_refl _
    · exact (textLe_iff_bytes key other).1 (least other later)

/-- The verdict on keys does not hang on their order, nor does the one that is named. -/
theorem judgeKeys_perm (version : Version) {keys keys' : List String} (perm : keys.Perm keys') :
    judgeKeys version keys = judgeKeys version keys' := by
  have same : sortTexts (unknownKeys version keys) = sortTexts (unknownKeys version keys') :=
    (sortTexts_eq_iff _ _).2 (perm.filter _)
  rw [judgeKeys, judgeKeys, same]

/-! ### The section -/

/-- The levels that a value in a section may have. -/
def fieldDepth : Nat := Yaml.maxDepth - 2

/-- The fields of a section, each by what its values give. -/
def draftTable : Table Draft :=
  [(Field.included.key, fun tree => tree.texts?.map fun included draft => { draft with included }),
   (Field.excluded.key, fun tree => tree.texts?.map fun excluded draft => { draft with excluded }),
   (Field.ignored.key, fun tree => tree.texts?.map fun ignored draft => { draft with ignored }),
   (Field.ignoredById.key, fun tree =>
     (tree.optional? (Tree.node? fieldDepth)).map fun exemptions draft => { draft with exemptions }),
   (Field.ignoreUnstable.key, fun tree =>
     tree.flag?.map fun ignoreUnstable draft => { draft with ignoreUnstable })]

/-- No two fields of a section get into each other's way. -/
theorem apart_draftTable : Table.Apart draftTable := by
  simp only [Table.Apart, draftTable, List.pairwise_cons, List.forall_mem_cons,
    List.not_mem_nil, false_implies, implies_true, List.Pairwise.nil, and_true]
  repeat' apply And.intro
  all_goals exact .of_sets (by decide) fun _ _ _ => rfl

/-- **A section is read as its table tells**, field by field. -/
theorem gives_draft : Gives 127 draftReader (draftTable.record? {}) := by
  have texts := Yaml.Reader.gives_texts 125
  have node : Gives 126 _ (Tree.optional? (Tree.node? fieldDepth)) :=
    (Yaml.Reader.gives_node 126).optional
  have flag := Yaml.Reader.gives_flag 126
  refine Describes.gives ?_ "BreakingSection" ({} : Draft)
  exact .cons ⟨rfl, texts.map _⟩ (.cons ⟨rfl, texts.map _⟩ (.cons ⟨rfl, texts.map _⟩
    (.cons ⟨rfl, node.map _⟩ (.cons ⟨rfl, flag.map _⟩ .nil))))

/-- The section with the given entries, each of its fields by its name. -/
def Draft.ofFields? (written : List (String × Tree)) : Option Draft := do
  let included ← Tree.held? Tree.texts? [] (written.lookup Field.included.key)
  let excluded ← Tree.held? Tree.texts? [] (written.lookup Field.excluded.key)
  let ignored ← Tree.held? Tree.texts? [] (written.lookup Field.ignored.key)
  let exemptions ← Tree.held? (Tree.optional? (Tree.node? fieldDepth)) none
    (written.lookup Field.ignoredById.key)
  let ignoreUnstable ← Tree.held? Tree.flag? false (written.lookup Field.ignoreUnstable.key)
  some { included, excluded, ignored, exemptions, ignoreUnstable }

/-- Gathering the fields in the order of the table makes the section of the entries. -/
theorem gather?_draftTable (written : List (String × Tree)) :
    Table.gather? draftTable written (some {}) = Draft.ofFields? written := by
  refine (Table.gather?_set [] rfl _ _).trans (Option.bind_congr fun included _ => ?_)
  refine (Table.gather?_set [] rfl _ _).trans (Option.bind_congr fun excluded _ => ?_)
  refine (Table.gather?_set [] rfl _ _).trans (Option.bind_congr fun ignored _ => ?_)
  refine (Table.gather?_set none rfl _ _).trans (Option.bind_congr fun exemptions _ => ?_)
  exact Table.gather?_set false rfl _ _

/-- A key that some version knows is a key of the table. -/
theorem known_draftTable {written : List (String × Tree)} {version : Version}
    (known : ∀ name ∈ written.map Prod.fst, version.KnowsKey name) :
    draftTable.known written = written.map Prod.fst := by
  refine List.filter_eq_self.2 fun name held => ?_
  obtain ⟨field, -, rfl⟩ := known name held
  cases field <;> rfl

/-- **A section of known keys is read** if no key is repeated and every value can be. -/
theorem fill?_draftTable {written : List (String × Tree)} {version : Version}
    (known : ∀ name ∈ written.map Prod.fst, version.KnowsKey name) :
    draftTable.fill? written [] {}
      = if (written.map Prod.fst).Nodup then Draft.ofFields? written else none := by
  rw [Table.fill?_eq apart_draftTable, gather?_draftTable, known_draftTable known]
  simp only [List.not_mem_nil, not_false_eq_true, implies_true, and_true]

/-- The keys that a section has; none if it is left out. -/
def keysOf? (found : Option Tree) : Option (List String) :=
  (Tree.held? (Tree.optional? Tree.keys?) none found).map fun keys => keys.getD []

/-- The fields that a section has; all blank if it is left out. -/
def draftOf? (found : Option Tree) : Option Draft :=
  (Tree.held? (Tree.optional? (draftTable.record? {})) none found).map fun draft => draft.getD {}

/-- The entries of a section that is left out, null, or a mapping whose keys are scalars. -/
def entriesOf? : Option Tree → Option (List (String × Tree))
  | none => some []
  | some tree => if tree.isNull then some [] else tree.fields?

/-- The keys of a section are those of its entries. -/
theorem keysOf?_of_entries {found : Option Tree} {written : List (String × Tree)}
    (entries : entriesOf? found = some written) :
    keysOf? found = some (written.map Prod.fst) := by
  cases found with
  | none => cases entries; rfl
  | some tree =>
    show (Tree.optional? Tree.keys? tree).map _ = _
    rw [entriesOf?] at entries
    split at entries
    next null => cases entries; rw [Tree.optional?_of_isNull null]; rfl
    next => rw [Tree.optional?_of_fields? entries, Tree.keys?_of_fields? entries]; rfl

/-- The fields of a section are filled from its entries. -/
theorem draftOf?_of_entries {found : Option Tree} {written : List (String × Tree)}
    (entries : entriesOf? found = some written) :
    draftOf? found = draftTable.fill? written [] {} := by
  cases found with
  | none => cases entries; rfl
  | some tree =>
    show (Tree.optional? _ tree).map _ = _
    rw [entriesOf?] at entries
    split at entries
    next null => cases entries; rw [Tree.optional?_of_isNull null]; rfl
    next =>
      rw [Tree.optional?_of_fields? entries, Table.record?_of_fields? entries, Option.map_map]
      exact Option.map_id'

/-- The pairs of a section, if its node declares any. -/
def Draft.pairs (draft : Draft) : Except SchemaError (List Exemption) :=
  match draft.exemptions with
  | some node => (IgnoreOnly.decode node).outcome.value
  | none => .ok []

/-- The configuration of a section with these pairs. -/
def Draft.config (draft : Draft) (version : Version) (declared : List Exemption) : Config where
  included := draft.included
  excluded := draft.excluded
  ignored := draft.ignored
  exemptions := (Exemptions.ofList declared).value
  ignoreUnstable := draft.ignoreUnstable
  version := version.name

/-- What the fields of a section mean, or what is wrong with its pairs. -/
def judgeDraft (version : Version) (draft : Draft) : Except (Option FileError) Config :=
  match draft.pairs with
  | .ok declared => .ok (draft.config version declared)
  | .error error => .error (some (.schema error))

/-- What a section comes to: first its keys are judged, then its values, then its pairs. -/
def judgeSection (version : Version) (found : Option Tree) : Except (Option FileError) Config := do
  let keys ← told (keysOf? found)
  judgeKeys version keys
  let draft ← told (draftOf? found)
  judgeDraft version draft

/-- What a file comes to: first its version is judged, then the section. -/
def judge (fields : List (String × Tree)) : Except (Option FileError) Config := do
  let version ← judgeVersion (fields.lookup "version")
  judgeSection version (fields.lookup "breaking")

theorem told_map_bind {γ : Type} (given : Option α) (f : α → β)
    (next : β → Except (Option FileError) γ) :
    told (given.map f) >>= next = told given >>= fun value => next (f value) := by
  cases given <;> rfl

/-- **The last step looks into `ignore_only` alone**, and takes all other fields as they are. -/
theorem value_finish (draft : Draft) :
    draft.finish.outcome.value = draft.pairs.map fun exemptions =>
      { included := draft.included
        excluded := draft.excluded
        ignored := draft.ignored
        exemptions
        ignoreUnstable := draft.ignoreUnstable } := by
  rw [Draft.finish, Draft.pairs]
  cases draft.exemptions with
  | none => rfl
  | some node =>
    dsimp only
    rw [Attempt.value_bind]
    cases (IgnoreOnly.decode node).outcome.value <;> rfl

/-- What is made of a section is what the verdict on it says. -/
theorem meets_finish (version : Version) (draft : Draft) :
    Meets
      (Attempt.outcome (draft.finish.mapError FileError.schema >>= fun written => do
        monadLift (Logged.note (.parsedDocument version))
        monadLift (Config.ofSection version written))).value
      (judgeDraft version draft) := by
  rw [Attempt.value_bind, Attempt.outcome_mapError, value_finish, judgeDraft]
  cases draft.pairs with
  | error error => rfl
  | ok declared =>
    show (Attempt.outcome (monadLift _ >>= fun _ => monadLift _)).value = _
    rw [Attempt.outcome_bind_ok (Attempt.outcome_lift _), Attempt.outcome_lift, Config.ofSection_eq]
    rfl

/-- **A file is read as it is judged.** -/
theorem meets_read {text : String} {fields : List (String × Tree)}
    (declares : Declares text fields) : Meets (read text).outcome.value (judge fields) := by
  have keys := settles_field declares declares.breaking (Yaml.Reader.gives_keys 126).optional
    "SectionKeys"
  have draft := settles_field declares declares.breaking gives_draft.optional "Sections"
  refine meets_bind (meets_declaredVersion declares) fun version => ?_
  rw [judgeSection, keysOf?, told_map_bind]
  refine meets_bind (meets_readFile keys) fun names => ?_
  refine meets_bind (meets_refuseUnknown version _) fun _ => ?_
  rw [draftOf?, told_map_bind]
  refine meets_bind (meets_readFile draft) fun draft => ?_
  exact meets_finish version (draft.getD {})

/-! ### What is reported -/

/-- What has been read is what the verdict says. -/
theorem Meets.of_ok {result : Except FileError α} {verdict : Except (Option FileError) α}
    {value : α} (meets : Meets result verdict) (done : result = .ok value) :
    verdict = .ok value := by
  subst done
  cases verdict with
  | ok other => exact congrArg _ (Except.ok.inj meets).symm
  | error error =>
    cases error with
    | some error => cases meets
    | none =>
      obtain ⟨_, failed⟩ := meets
      cases failed

/-- **What is reported for a file**, whatever is wrong with it at the same time.  First comes
what is wrong with its version; then of all keys of the section that the version does not know
the least one; then that a key is repeated or a value cannot be read; and then what is wrong
with the pairs.  If nothing is, each field of the section is what stands under its name, and
the pairs are folded in their order. -/
theorem read_verdict {text : String} {fields written : List (String × Tree)}
    (declares : Declares text fields)
    (entries : entriesOf? (fields.lookup "breaking") = some written) :
    (∀ error, (declaredVersion text).outcome.value = .error error →
        (read text).outcome.value = .error error)
      ∧ ∀ version, (declaredVersion text).outcome.value = .ok version →
        ((∃ name ∈ written.map Prod.fst, ¬ version.KnowsKey name) →
          ∃ key ∈ written.map Prod.fst, ¬ version.KnowsKey key
            ∧ (∀ other ∈ written.map Prod.fst, ¬ version.KnowsKey other → bytes key ≤ bytes other)
            ∧ (read text).outcome.value = .error (.schema (.unknownField key version)))
        ∧ ((∀ name ∈ written.map Prod.fst, version.KnowsKey name) →
          ((¬ (written.map Prod.fst).Nodup ∨ Draft.ofFields? written = none) →
            ∃ error, (read text).outcome.value = .error (.yaml error))
          ∧ ((written.map Prod.fst).Nodup → ∀ draft, Draft.ofFields? written = some draft →
            (∀ error, draft.pairs = .error error →
              (read text).outcome.value = .error (.schema error))
            ∧ ∀ declared, draft.pairs = .ok declared →
              (read text).outcome.value = .ok (draft.config version declared))) := by
  constructor
  · intro error failed
    rw [read, Attempt.value_bind, failed]
    rfl
  · intro version declared
    have judged := (meets_declaredVersion declares).of_ok declared
    have meets := meets_read declares
    rw [judge, judged] at meets
    change Meets _ (judgeSection version _) at meets
    rw [judgeSection, keysOf?_of_entries entries, draftOf?_of_entries entries] at meets
    change Meets _ (judgeKeys version _ >>= _) at meets
    refine ⟨fun unknown => ?_, fun known => ?_⟩
    · obtain ⟨key, held, stray, least, wrong⟩ := judgeKeys_of_unknown unknown
      rw [wrong] at meets
      exact ⟨key, held, stray, least, meets⟩
    · rw [judgeKeys_of_known known, fill?_draftTable known] at meets
      change Meets _ (told _ >>= judgeDraft version) at meets
      refine ⟨fun unreadable => ?_, fun nodup draft readable => ?_⟩
      · rcases unreadable with repeated | none
        · rw [if_neg repeated] at meets
          exact meets
        · rw [none, ite_self] at meets
          exact meets
      · rw [if_pos nodup, readable] at meets
        change Meets _ (judgeDraft version draft) at meets
        rw [judgeDraft] at meets
        refine ⟨fun error wrong => ?_, fun declared right => ?_⟩
        · rw [wrong] at meets
          exact meets
        · rw [right] at meets
          exact meets

/-! ### A section with every kind of defect -/

/-- A mapping whose keys are plain scalars. -/
def plainMapping (fields : List (String × Tree)) : Tree :=
  .mapping none (fields.map fun entry => (.scalar .plain none entry.1, entry.2))

/-- A mapping with plain keys has just the fields that are written. -/
theorem fields?_plainMapping (fields : List (String × Tree)) :
    (plainMapping fields).fields? = some fields := by
  show Tree.named? (fields.map _) = some fields
  induction fields with
  | nil => rfl
  | cons entry rest ih =>
    rw [List.map_cons, Tree.named?, ih]
    rfl

/-- A document without any fault declares the fields that its root shows. -/
theorem Declares.of_document {text : String} {fields : List (String × Tree)} {size : Nat}
    (document : Yaml.Document.ofText text =
      { root := plainMapping fields, anchors := [], size, fault := none, continues := false })
    (free : (plainMapping fields).isFree = true)
    (version : (fields.map Prod.fst).count "version" ≤ 1)
    (breaking : (fields.map Prod.fst).count "breaking" ≤ 1) : Declares text fields where
  whole := by
    rw [Yaml.isWhole, document]
    rfl
  free := by rw [document, free]
  root := by rw [document, fields?_plainMapping]
  version := version
  breaking := breaking

/-- The entries of a section with unknown keys, a repeated one, and values of other types than
wanted. -/
def faultyEntries : List (String × Tree) :=
  [("zeta", .sequence none []), ("use", .scalar .plain none "1"),
   ("alpha", .scalar .plain none "2"), ("use", .scalar .plain none "3")]

/-- The fields of a file with this section. -/
def faultyFields : List (String × Tree) :=
  [("version", .scalar .plain none "v1"), ("breaking", plainMapping faultyEntries)]

/-- The file. -/
def faultyText : String :=
  "version: v1\nbreaking:\n  zeta: []\n  use: 1\n  alpha: 2\n  use: 3\n"

set_option maxRecDepth 10000 in
/-- The file declares its version and its section, each once. -/
theorem declares_faulty : Declares faultyText faultyFields := by
  have document : Yaml.Document.ofText faultyText =
      { root := plainMapping faultyFields, anchors := [], size := 16, fault := none,
        continues := false } := by cbv
  exact .of_document document rfl (by decide) (by decide)

/-- The first unknown key by its bytes is reported, and nothing else. -/
theorem read_verdict_faulty :
    Declares faultyText faultyFields
      ∧ entriesOf? (faultyFields.lookup "breaking") = some faultyEntries
      ∧ (declaredVersion faultyText).outcome.value = .ok .v1
      ∧ (read faultyText).outcome.value = .error (.schema (.unknownField "alpha" .v1)) := by
  have declared : (declaredVersion faultyText).outcome.value = .ok .v1 :=
    meets_declaredVersion declares_faulty
  have stray : ¬ Version.v1.KnowsKey "alpha" := by
    rw [← Version.any_knows_iff]
    decide
  have entries : entriesOf? (faultyFields.lookup "breaking") = some faultyEntries := rfl
  obtain ⟨-, verdict⟩ := read_verdict declares_faulty entries
  obtain ⟨key, held, stray', least, reported⟩ :=
    (verdict .v1 declared).1 ⟨"alpha", by decide, stray⟩
  have first : textLe key "alpha" = true :=
    (textLe_iff_bytes key "alpha").2 (least "alpha" (by decide) stray)
  have same : key = "alpha" := by
    rw [← Version.any_knows_iff] at stray'
    have keys : ∀ key ∈ faultyEntries.map Prod.fst, textLe key "alpha" = true →
        ¬ (Field.ofKey? key).any Version.v1.knows = true → key = "alpha" := by decide
    exact keys key held first stray'
  exact ⟨declares_faulty, entries, declared, same ▸ reported⟩

end ConfigFile

end BreakCheck
