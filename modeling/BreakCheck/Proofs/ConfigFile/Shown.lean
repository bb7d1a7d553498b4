/-
BreakCheck/Proofs/ConfigFile/Shown.lean

A file that shows a version and a section means the configuration of that section.

The section is written by one table of fields and read by three readers, of the
version, of the keys and of the fields.  `read_of_shown` says that they agree, for
any section and whichever of its fields are empty: of a file that shows the
section, what is read is the configuration that the section means, less the IDs
without paths, and every written key is a known one.

`Config.kept` is a configuration without the IDs that have no paths.  It is what a
configuration becomes by way of its own section (`ofSection_kept`), and it is
written as the configuration itself is (`toData_kept`).
-/
import BreakCheck.ConfigFile
import BreakCheck.Proofs.IgnoreOnly.Codec
import BreakCheck.Proofs.Ledger
import BreakCheck.Proofs.Yaml.Reads

namespace BreakCheck

open Yaml (Reader)
open Yaml.Reader (Fills Reads)

/-! ### What is kept of a configuration -/

/-- The exemptions that name any paths. -/
def Exemptions.kept (table : Exemptions) : Exemptions :=
  (ofList (IgnoreOnly.kept table.toList)).value

/-- A configuration without the IDs that have no paths. -/
def Config.kept (config : Config) : Config := { config with exemptions := config.exemptions.kept }

/-- **Removing IDs without paths** leaves the others as they are and where they are. -/
@[simp] theorem Exemptions.toList_kept (table : Exemptions) :
    table.kept.toList = table.toList.filter Exemption.hasPaths :=
  toList_ofList_of_nodup (IgnoreOnly.nodup_ids_kept table.nodup_ids_toList)

namespace Config

/-- The configuration of a section has its fields, and the fold of its exemptions. -/
theorem ofSection_eq (version : Version) (written : Section) :
    ofSection version written
      = (fun exemptions =>
          { included := written.included
            excluded := written.excluded
            ignored := written.ignored
            exemptions
            ignoreUnstable := written.ignoreUnstable
            version := version.name }) <$> Exemptions.ofList written.exemptions := by
  have fields : version.knownFields = Field.all := by cases version <;> rfl
  rw [ofSection, fields]
  simp only [Field.all, List.foldlM_cons, List.foldlM_nil, adopt, pure_bind, bind_pure_comp,
    Functor.map_map]
  rfl

/-- The section of a configuration has its fields, and its exemptions in order. -/
theorem toSection_eq (version : Version) (config : Config) :
    config.toSection version
      = { included := config.included
          excluded := config.excluded
          ignored := config.ignored
          exemptions := config.exemptions.toList
          ignoreUnstable := config.ignoreUnstable } := by
  cases version <;> rfl

/-- Leaving out exemptions without paths can be done before or after. -/
theorem toSection_kept (version : Version) (config : Config) :
    config.kept.toSection version = (config.toSection version).kept := by
  rw [toSection_eq, toSection_eq, kept, Exemptions.toList_kept]
  rfl

/-- **By way of its own section** a configuration loses the IDs without paths, and
nothing else. -/
theorem ofSection_kept {config : Config} {version : Version}
    (same : version.name = config.version) :
    ofSection version (config.toSection version).kept = pure config.kept := by
  have silent : Exemptions.ofList (IgnoreOnly.kept config.exemptions.toList)
      = pure config.exemptions.kept :=
    Exemptions.ofList_eq_pure (IgnoreOnly.nodup_ids_kept config.exemptions.nodup_ids_toList)
  rw [ofSection_eq, toSection_eq]
  show _ <$> Exemptions.ofList (IgnoreOnly.kept config.exemptions.toList) = _
  rw [silent, map_pure, same]
  rfl

/-- A section without repeated IDs is the section of the configuration that it means. -/
theorem toSection_ofSection (version : Version) {written : Section}
    (nodup : (Ledger.ids written.exemptions).Nodup) :
    (ofSection version written).value.toSection version = written := by
  rw [ofSection_eq, toSection_eq, Logged.value_map]
  show ({ written with
    exemptions := (Exemptions.ofList written.exemptions).value.toList } : Section) = written
  rw [Exemptions.toList_ofList_of_nodup nodup]

@[simp] theorem knownVersion?_kept (config : Config) :
    config.kept.knownVersion? = config.knownVersion? := rfl

end Config

/-! ### The readers of a section -/

/-- The pairs of a section as a node, if any is written. -/
def IgnoreOnly.node? (declared : List Exemption) : Option Node :=
  if isVacuous declared then none
  else some (Reader.textsNode ((kept declared).map fun entry => (entry.id, entry.paths)))

namespace ConfigFile

/-- What is read of a section before its pairs are looked into. -/
def Draft.ofSection (written : Section) : Draft where
  included := written.included
  excluded := written.excluded
  ignored := written.ignored
  exemptions := IgnoreOnly.node? written.exemptions
  ignoreUnstable := written.ignoreUnstable

/-- The fields of a section, each with its data. -/
def sectionFields (written : Section) : List (String × Data) :=
  Data.textsField Field.included.key written.included
    ++ Data.textsField Field.excluded.key written.excluded
    ++ Data.textsField Field.ignored.key written.ignored
    ++ (if IgnoreOnly.isVacuous written.exemptions then []
        else [(Field.ignoredById.key, IgnoreOnly.toData written.exemptions)])
    ++ Data.flagField Field.ignoreUnstable.key written.ignoreUnstable

theorem toData_section (written : Section) : written.toData = .record (sectionFields written) := rfl

/-- Pairs are read as the node of what is kept of them. -/
theorem reads_exemptions {declared : List Exemption}
    (some : IgnoreOnly.isVacuous declared = false) :
    Reads 2 (Reader.optional Decoder.node) (IgnoreOnly.toData declared)
      (IgnoreOnly.node? declared) := by
  rw [IgnoreOnly.toData_of_not_isVacuous some, IgnoreOnly.node?, if_neg (by simp [some])]
  have reads := Reader.reads_node
    ((IgnoreOnly.kept declared).map fun entry => (entry.id, entry.paths))
  rw [List.map_map] at reads
  exact reads.optional_record

/-- The field for exemptions is filled with the node of those that are kept; it is left out if
there are none. -/
theorem fills_exemptions {fields : List (String × Reader (Draft → Draft))}
    (known : fields.lookup Field.ignoredById.key
      = some ((fun exemptions draft => { draft with exemptions })
          <$> Reader.optional Decoder.node))
    (declared : List Exemption) {draft : Draft} (blank : draft.exemptions = none) :
    Fills fields 2 [Field.ignoredById.key]
      (if IgnoreOnly.isVacuous declared then []
        else [(Field.ignoredById.key, IgnoreOnly.toData declared)])
      draft { draft with exemptions := IgnoreOnly.node? declared } := by
  cases vacuous : IgnoreOnly.isVacuous declared with
  | true =>
    rw [if_pos rfl, IgnoreOnly.node?, if_pos vacuous, ← blank]
    exact Fills.nil draft
  | false =>
    rw [if_neg Bool.false_ne_true]
    exact Fills.one known ((reads_exemptions vacuous).map _) draft

/-- **A section is read field by field**, whichever of them are left out. -/
theorem reads_draft (written : Section) :
    Reads 3 draftReader written.toData (Draft.ofSection written) := by
  apply Fills.reads "BreakingSection"
  -- the fields in the order in which they are written
  refine Fills.append (Fills.append (Fills.append (Fills.append
    (Fills.texts (fun included draft => { draft with included }) rfl written.included rfl
      (by decide))
    (Fills.texts (fun excluded draft => { draft with excluded }) rfl written.excluded rfl
      (by decide)) ?_)
    (Fills.texts (fun ignored draft => { draft with ignored }) rfl written.ignored rfl
      (by decide)) ?_)
    (fills_exemptions rfl written.exemptions rfl) ?_)
    (Fills.flag (fun ignoreUnstable (draft : Draft) => { draft with ignoreUnstable }) rfl
      written.ignoreUnstable rfl) ?_
  -- no name occurs twice
  all_goals decide

/-! ### The readers of a file -/

/-- The data of a file with a section. -/
def fileData (version : Version) (written : Section) : Data :=
  .record [("version", version.toData), ("breaking", written.toData)]

theorem toData_eq_fileData (version : Version) (config : Config) :
    toData version config = fileData version (config.toSection version) := rfl

/-- **The version is read** whatever else the file says. -/
theorem reads_version (version : Version) (written : Section) :
    Reads 1 versionReader (fileData version written) (some version.name) := by
  have name := (Reader.reads_textAs "a string" version.name).optional_text
  apply Fills.reads "VersionProbe"
  exact Fills.append
    (Fills.one rfl (name.map fun version (_ : Option String) => version) none)
    (Fills.skip rfl written.toData (some version.name)) (by decide)

/-- A reader of the section alone steps over the version. -/
theorem reads_breaking {α : Type} {depth : Nat} {read : Reader α} {written : Section} {value : α}
    (reads : Reads depth read written.toData value) (version : Version) (name : String) :
    Reads (depth + 1)
      (Decoder.record name none
        [Decoder.field "breaking" (Reader.optional read) fun value _ => value])
      (fileData version written) (some value) := by
  have present := reads.optional_record
  apply Fills.reads name
  exact Fills.append (Fills.skip rfl version.toData none)
    (Fills.one rfl (present.map fun value (_ : Option α) => value) none) (by decide)

theorem key_of_mem_textsField {name key : String} {values : List String}
    (held : name ∈ (Data.textsField key values).map Prod.fst) : name = key := by
  unfold Data.textsField at held
  split at held
  · cases held
  · exact List.mem_singleton.1 held

theorem key_of_mem_flagField {name key : String} {value : Bool}
    (held : name ∈ (Data.flagField key value).map Prod.fst) : name = key := by
  unfold Data.flagField at held
  split at held
  · exact List.mem_singleton.1 held
  · cases held

/-- **Every written key is the key of a field**, for any section. -/
theorem exists_field_of_mem {written : Section} {name : String}
    (held : name ∈ (sectionFields written).map Prod.fst) : ∃ field : Field, field.key = name := by
  simp only [sectionFields, List.map_append, List.mem_append] at held
  rcases held with (((held | held) | held) | held) | held
  · exact ⟨.included, (key_of_mem_textsField held).symm⟩
  · exact ⟨.excluded, (key_of_mem_textsField held).symm⟩
  · exact ⟨.ignored, (key_of_mem_textsField held).symm⟩
  · split at held
    · cases held
    · exact ⟨.ignoredById, (List.mem_singleton.1 held).symm⟩
  · exact ⟨.ignoreUnstable, (key_of_mem_flagField held).symm⟩

/-- No key of a written section is refused, in any version. -/
theorem refuseUnknown_fields (version : Version) (written : Section) :
    refuseUnknown version ((sectionFields written).map Prod.fst) = pure () := by
  have nothing : (((sectionFields written).map Prod.fst).filter fun key =>
      !(Field.ofKey? key).any version.knows) = [] := by
    rw [List.filter_eq_nil_iff]
    intro name held
    obtain ⟨field, rfl⟩ := exists_field_of_mem held
    have found : Field.ofKey? field.key = some field := by cases field <;> decide
    simp [found]
  rw [refuseUnknown, nothing, sortTexts, List.mergeSort_nil]
  rfl

/-! ### Looking into the pairs -/

/-- Pairs of texts are taken apart from their node. -/
theorem pairs_textsNode (declared : List Exemption) :
    IgnoreOnly.pairs
        (Reader.textsNode (declared.map fun entry => (entry.id, entry.paths))).children
      = .ok declared := by
  induction declared with
  | nil => rfl
  | cons entry rest ih =>
    show IgnoreOnly.pairs (.scalar entry.id :: .sequence (entry.paths.map Node.scalar)
      :: (Reader.textsNode (rest.map fun entry => (entry.id, entry.paths))).children) = _
    rw [IgnoreOnly.pairs, ih, Node.asTexts, Node.mapM_asText_scalars]
    rfl

theorem length_textsNode (declared : List Exemption) :
    (Reader.textsNode (declared.map fun entry => (entry.id, entry.paths))).children.length
      = 2 * declared.length := by
  induction declared with
  | nil => rfl
  | cons entry rest ih =>
    show List.length (_ :: _ :: (Reader.textsNode _).children) = _
    rw [List.length_cons, List.length_cons, ih, List.length_cons]
    omega

/-- **Pairs of texts are decoded from their node**, with one notice of how many they are. -/
theorem decode_textsNode {declared : List Exemption} (some : declared ≠ []) :
    (IgnoreOnly.decode
        (Reader.textsNode (declared.map fun entry => (entry.id, entry.paths)))).outcome
      = ⟨.ok declared, [.decodedIgnoreOnly declared.length]⟩ := by
  have length := length_textsNode declared
  have present : 0 < declared.length := List.length_pos_iff.2 some
  refine IgnoreOnly.decode_mapping .plain ?_ ?_ (pairs_textsNode declared)
  · exact List.ne_nil_of_length_pos (lt_of_lt_of_eq (by omega) length.symm)
  · exact (congrArg (· % 2) length).trans (Nat.mul_mod_right 2 _)

/-- The notices of looking into the pairs of a section. -/
def pairNotices (written : Section) : List Notice :=
  if IgnoreOnly.isVacuous written.exemptions then []
  else [.decodedIgnoreOnly (IgnoreOnly.kept written.exemptions).length]

/-- **Looking into the pairs** finds what is kept of them. -/
theorem finish_ofSection (written : Section) :
    (Draft.ofSection written).finish.outcome = ⟨.ok written.kept, pairNotices written⟩ := by
  unfold Draft.ofSection IgnoreOnly.node? pairNotices
  cases vacuous : IgnoreOnly.isVacuous written.exemptions with
  | true =>
    have nothing := (IgnoreOnly.isVacuous_iff _).1 vacuous
    rw [Section.kept, nothing]
    rfl
  | false => exact Attempt.outcome_bind_ok (decode_textsNode (IgnoreOnly.kept_ne_nil vacuous)) _

/-! ### Files -/

/-- **A file that shows a section is the configuration of what is kept of it**, of the
version that it declares.  There are no other notices than of having looked into the
pairs, of having come to the end, and of IDs that the section repeats. -/
theorem read_of_shown {text : String} {version : Version} {written : Section}
    (shown : Yaml.data? text = some (fileData version written)) :
    (read text).outcome =
      { value := .ok (Config.ofSection version written.kept).value
        notices := pairNotices written ++ .parsedDocument version
          :: (Config.ofSection version written.kept).notices } := by
  have first := Yaml.read_eq (reads_version version written) (by decide) shown
  have second := Yaml.read_eq
    (reads_breaking (Reader.reads_keys (sectionFields written)) version "SectionKeys") (by decide)
    shown
  have third := Yaml.read_eq (reads_breaking (reads_draft written) version "Sections") (by decide)
    shown
  have known : declaredVersion text = pure version := by
    have probed : readFile versionReader text = pure (some version.name) := by
      rw [readFile]
      exact congrArg (Attempt.mapError FileError.yaml) first
    rw [declaredVersion, probed, pure_bind]
    simp only [Option.getD_some, Version.ofName?_name]
  have keys : readFile keysReader text = pure (some ((sectionFields written).map Prod.fst)) := by
    rw [readFile]
    exact congrArg (Attempt.mapError FileError.yaml) second
  have draft : readFile sectionReader text = pure (some (Draft.ofSection written)) := by
    rw [readFile]
    exact congrArg (Attempt.mapError FileError.yaml) third
  have finished : ((Draft.ofSection written).finish.mapError FileError.schema).outcome
      = ⟨.ok written.kept, pairNotices written⟩ := by
    rw [Attempt.outcome_mapError, finish_ofSection]
    rfl
  rw [read, known, pure_bind, keys, pure_bind, Option.getD_some, refuseUnknown_fields, pure_bind,
    draft, pure_bind, Option.getD_some, Attempt.outcome_bind_ok finished,
    Attempt.outcome_bind_ok (Attempt.outcome_lift _), Attempt.outcome_lift]
  rfl

end ConfigFile

end BreakCheck
