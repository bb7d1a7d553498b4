/-
BreakCheck/Proofs/ConfigFile/JsonRoundTrip.lean

Which configuration files come back from JSON.

Files are read as YAML, whatever they were written as.  JSON is YAML only as long as
its texts have no characters that YAML lacks, its keys are no longer than a simple key
may be, and nothing is folded between quotes.  What is read of the JSON of a
configuration is therefore the configuration with every text as it comes back
(`Section.requoted`), or nothing at all.

`Config.comesBackFromJson` tells from the texts of a configuration whether nothing gets
lost; it is exact (`read_json_iff`).
-/
import BreakCheck.Proofs.ConfigFile.RoundTrip
import BreakCheck.Proofs.Yaml.JsonText

namespace BreakCheck

open Yaml (comesBack comesBack_iff isReadable keyComesBack requote)

/-! ### Sections that are written as JSON and read as YAML -/

/-- An exemption with every text as it comes back. -/
def Exemption.requoted (entry : Exemption) : Exemption :=
  ⟨requote entry.id, entry.paths.map requote⟩

/-- Whether an exemption can be read. -/
def Exemption.isReadable (entry : Exemption) : Bool :=
  keyComesBack entry.id && entry.paths.all Yaml.isReadable

@[simp] theorem Exemption.hasPaths_requoted (entry : Exemption) :
    entry.requoted.hasPaths = entry.hasPaths := by
  simp [hasPaths, requoted]

namespace IgnoreOnly

/-- Requoting texts gives no paths and takes none, so the same pairs are kept. -/
theorem kept_requoted (declared : List Exemption) :
    kept (declared.map Exemption.requoted) = (kept declared).map Exemption.requoted := by
  rw [kept, List.filter_map]
  congr 1
  exact List.filter_congr fun entry _ => entry.hasPaths_requoted

theorem isVacuous_requoted (declared : List Exemption) :
    isVacuous (declared.map Exemption.requoted) = isVacuous declared := by
  rw [Bool.eq_iff_iff, isVacuous_iff, isVacuous_iff, kept_requoted, List.map_eq_nil_iff]

theorem isFlat_toData {declared : List Exemption} (some : isVacuous declared = false) :
    (toData declared).isFlat = true := by
  rw [toData_of_not_isVacuous some, Data.isFlat_record, List.all_map, List.all_eq_true]
  exact fun entry _ => Data.isFlat_texts entry.paths

/-- Pairs are readable if those that are kept are. -/
theorem isReadable_toData {declared : List Exemption} (some : isVacuous declared = false) :
    (toData declared).isReadable = (kept declared).all Exemption.isReadable := by
  rw [toData_of_not_isVacuous some, Data.isReadable_record, List.all_map]
  congr 1
  funext entry
  show (keyComesBack entry.id && (Data.texts entry.paths).isReadable) = _
  rw [Data.isReadable_texts, Exemption.isReadable]

theorem requoted_toData {declared : List Exemption} (some : isVacuous declared = false) :
    (toData declared).requoted = toData (declared.map Exemption.requoted) := by
  have some' : isVacuous (declared.map Exemption.requoted) = false :=
    (isVacuous_requoted declared).trans some
  rw [toData_of_not_isVacuous some, toData_of_not_isVacuous some', Data.requoted_record,
    kept_requoted, List.map_map, List.map_map]
  congr 2
  funext entry
  show (requote entry.id, (Data.texts entry.paths).requoted) = _
  rw [Data.requoted_texts]
  rfl

end IgnoreOnly

namespace Section

/-- A section with every text as it comes back. -/
def requoted (written : Section) : Section where
  included := written.included.map requote
  excluded := written.excluded.map requote
  ignored := written.ignored.map requote
  exemptions := written.exemptions.map Exemption.requoted
  ignoreUnstable := written.ignoreUnstable

/-- Whether all texts that are written of a section can be read. -/
def isReadable (written : Section) : Bool :=
  written.included.all Yaml.isReadable && written.excluded.all Yaml.isReadable
    && written.ignored.all Yaml.isReadable
    && (IgnoreOnly.kept written.exemptions).all Exemption.isReadable

end Section

/-! ### What is written of them -/

namespace ConfigFile

/-- The names of a file come back, of fields and of versions alike. -/
theorem keyComesBack_parts :
    keyComesBack "version" = true ∧ keyComesBack "breaking" = true := by
  decide +kernel

theorem keyComesBack_field (field : Field) : keyComesBack field.key = true := by
  cases field <;> decide +kernel

theorem keyComesBack_version (version : Version) : keyComesBack version.name = true := by
  cases version <;> decide +kernel

end ConfigFile

namespace Section

open ConfigFile (keyComesBack_field sectionFields toData_section)

theorem isFlat_toData (written : Section) : written.toData.isFlat = true := by
  rw [toData_section, Data.isFlat_record, sectionFields]
  simp only [List.all_append, Data.flat_textsField, Data.flat_flagField, Bool.true_and,
    Bool.and_true]
  cases vacuous : IgnoreOnly.isVacuous written.exemptions with
  | true => rfl
  | false => simp [IgnoreOnly.isFlat_toData vacuous]

/-- **A section is readable as data if its texts are.** -/
theorem isReadable_toData (written : Section) : written.toData.isReadable = written.isReadable := by
  rw [toData_section, Data.isReadable_record, sectionFields, isReadable]
  simp only [List.all_append, Data.readable_textsField (keyComesBack_field _),
    Data.readable_flagField (keyComesBack_field _), Bool.and_true]
  congr 1
  cases vacuous : IgnoreOnly.isVacuous written.exemptions with
  | true => rw [(IgnoreOnly.isVacuous_iff _).1 vacuous]; rfl
  | false =>
    simp [Data.fieldReadable, keyComesBack_field, IgnoreOnly.isReadable_toData vacuous]

/-- The pairs of a section, if any are written. -/
theorem requoted_pairs (declared : List Exemption) :
    (if IgnoreOnly.isVacuous declared then []
        else [(Field.ignoredById.key, IgnoreOnly.toData declared)]).map Data.fieldRequoted
      = if IgnoreOnly.isVacuous (declared.map Exemption.requoted) then []
        else [(Field.ignoredById.key, IgnoreOnly.toData (declared.map Exemption.requoted))] := by
  have name := Yaml.requote_of_keyComesBack (keyComesBack_field Field.ignoredById)
  rw [IgnoreOnly.isVacuous_requoted]
  cases vacuous : IgnoreOnly.isVacuous declared with
  | true => rfl
  | false => simp [Data.fieldRequoted, name, IgnoreOnly.requoted_toData vacuous]

/-- **A section comes back as the section of what becomes of its texts.** -/
theorem requoted_toData (written : Section) :
    written.toData.requoted = written.requoted.toData := by
  rw [toData_section, toData_section, Data.requoted_record, sectionFields, sectionFields]
  simp only [List.map_append, Data.requoted_textsField (keyComesBack_field _),
    Data.requoted_flagField (keyComesBack_field _), requoted_pairs]
  rfl

end Section

namespace ConfigFile

theorem isFlat_fileData (version : Version) (written : Section) :
    (fileData version written).isFlat = true := by
  rw [fileData, Data.isFlat_record]
  simp [Version.toData, Data.isFlat, Section.isFlat_toData]

theorem isReadable_fileData (version : Version) (written : Section) :
    (fileData version written).isReadable = written.isReadable := by
  obtain ⟨first, second⟩ := keyComesBack_parts
  have named := ((Yaml.keyComesBack_iff _).1 (keyComesBack_version version)).1
  rw [fileData, Data.isReadable_record]
  simp [Data.fieldReadable, first, second, Version.toData, Data.isReadable, named,
    Section.isReadable_toData]

/-- Of a file only the texts of its section are requoted. -/
theorem requoted_fileData (version : Version) (written : Section) :
    (fileData version written).requoted = fileData version written.requoted := by
  obtain ⟨first, second⟩ := keyComesBack_parts
  have named := Yaml.requote_of_keyComesBack (keyComesBack_version version)
  rw [fileData, Data.requoted_record, fileData]
  simp [Data.fieldRequoted, Yaml.requote_of_keyComesBack first,
    Yaml.requote_of_keyComesBack second, Version.toData, Data.requoted, named,
    Section.requoted_toData]

/-! ### Files as JSON -/

/-- A configuration of a known version is written as the layout of its data. -/
theorem write_json {config : Config} {version : Version} (known : version.name = config.version) :
    write config .json
      = .ok (String.ofList (Json.layout .pretty (toData version config) 0) ++ "\n") := by
  rw [write, knownVersion?_eq_some_iff.2 known]
  show ((Json.write _ _).mapError _).map _ = _
  rw [Json.write_eq_layout .pretty (bearsJson_toData version config)]
  rfl

/-- **No configuration is read of a text that is not whole.** -/
theorem isWhole_of_read {text : String} {config : Config}
    (given : (read text).outcome.value = .ok config) : Yaml.isWhole text = true := by
  obtain ⟨version, declared, -⟩ := Attempt.exists_of_bind_ok given
  obtain ⟨name, probed, -⟩ := Attempt.exists_of_bind_ok declared
  rw [readFile, Attempt.outcome_mapError] at probed
  dsimp only at probed
  cases first : (Yaml.read versionReader text).outcome.value with
  | ok found => exact Yaml.isWhole_of_read first
  | error error =>
    rw [first] at probed
    cases probed

/-- **What is read of JSON**: the section with every text as it comes back, if all that
is written of it can be read, and nothing otherwise. -/
theorem read_json {config : Config} {version : Version} (known : version.name = config.version)
    {text : String} (written : write config .json = .ok text) :
    ((config.toSection version).isReadable = true → (read text).outcome.value
        = .ok (Config.ofSection version (config.toSection version).requoted.kept).value)
      ∧ ((config.toSection version).isReadable = false →
        ∀ other, (read text).outcome.value ≠ .ok other) := by
  have flat := isFlat_fileData version (config.toSection version)
  rw [write_json known, Except.ok.injEq, toData_eq_fileData] at written
  have chars : text.toList
      = Json.layout .pretty (fileData version (config.toSection version)) 0 ++ ['\n'] := by
    rw [← written, String.toList_append, String.toList_ofList]
    rfl
  have whole : Yaml.isWhole text = (fileData version (config.toSection version)).isReadable :=
    Yaml.isWhole_layout flat chars
  rw [isReadable_fileData] at whole
  constructor
  · intro good
    have shown : Yaml.data? text = some (fileData version (config.toSection version)).requoted :=
      Yaml.data?_layout flat chars (whole.trans good)
    rw [requoted_fileData] at shown
    rw [read_of_shown shown]
  · intro bad other given
    rw [isWhole_of_read given, bad] at whole
    cases whole

end ConfigFile

/-! ### Configurations that come back -/

/-- A list comes back if all that is in it does. -/
theorem all_comesBack_iff {α : Type} {back readable : α → Bool} {become : α → α}
    (each : ∀ a, back a = true ↔ readable a = true ∧ become a = a) (values : List α) :
    values.all back = true ↔ values.all readable = true ∧ values.map become = values := by
  induction values with
  | nil => simp
  | cons value rest ih =>
    rw [List.all_cons, List.all_cons, List.map_cons, Bool.and_eq_true, Bool.and_eq_true,
      List.cons.injEq, each, ih]
    tauto

/-- Whether an exemption comes back. -/
def Exemption.comesBack (entry : Exemption) : Bool :=
  keyComesBack entry.id && entry.paths.all Yaml.comesBack

/-- An exemption comes back if it is readable and no text of it is changed. -/
theorem Exemption.comesBack_iff (entry : Exemption) :
    entry.comesBack = true ↔ entry.isReadable = true ∧ entry.requoted = entry := by
  obtain ⟨id, paths⟩ := entry
  rw [comesBack, isReadable, requoted, Bool.and_eq_true, Bool.and_eq_true, Exemption.mk.injEq,
    all_comesBack_iff Yaml.comesBack_iff]
  have self : keyComesBack id = true → requote id = id := Yaml.requote_of_keyComesBack
  tauto

/-- **Whether a configuration comes back from JSON**: all of its texts come back, and all
IDs that have paths come back as keys. -/
def Config.comesBackFromJson (config : Config) : Bool :=
  config.included.all comesBack && config.excluded.all comesBack && config.ignored.all comesBack
    && (config.exemptions.toList.filter Exemption.hasPaths).all Exemption.comesBack

/-- A configuration comes back exactly if it can be read and is read as what is kept of it. -/
theorem Config.comesBackFromJson_iff (config : Config) (version : Version) :
    config.comesBackFromJson = true
      ↔ (config.toSection version).isReadable = true
        ∧ (config.toSection version).requoted.kept = (config.toSection version).kept := by
  rw [toSection_eq, comesBackFromJson, Section.isReadable, Section.kept, Section.kept,
    Section.mk.injEq]
  simp only [Section.requoted, IgnoreOnly.kept_requoted, Bool.and_eq_true,
    all_comesBack_iff Yaml.comesBack_iff, all_comesBack_iff Exemption.comesBack_iff]
  unfold IgnoreOnly.kept
  tauto

/-- IDs that can be read stay apart from one another. -/
theorem Config.nodup_ids_requoted {config : Config} {version : Version}
    (readable : (config.toSection version).isReadable = true) :
    (Ledger.ids (config.toSection version).requoted.kept.exemptions).Nodup := by
  rw [toSection_eq, Section.isReadable, Bool.and_eq_true, List.all_eq_true] at readable
  have same : (IgnoreOnly.kept config.exemptions.toList).map (fun entry => requote entry.id)
      = Ledger.ids (IgnoreOnly.kept config.exemptions.toList) := by
    refine List.map_congr_left fun entry held => ?_
    have back := readable.2 entry held
    rw [Exemption.isReadable, Bool.and_eq_true] at back
    exact Yaml.requote_of_keyComesBack back.1
  have nodup := IgnoreOnly.nodup_ids_kept config.exemptions.nodup_ids_toList
  rw [← same] at nodup
  rw [toSection_eq, Section.kept, Section.requoted]
  dsimp only
  rw [IgnoreOnly.kept_requoted, Ledger.ids, List.map_map]
  exact nodup

namespace ConfigFile

/-- **What is read of JSON is the configuration**, less its IDs without paths, exactly if
the configuration comes back. -/
theorem read_json_iff {config : Config} {version : Version} (known : version.name = config.version)
    {text : String} (written : write config .json = .ok text) :
    (read text).outcome.value = .ok config.kept ↔ config.comesBackFromJson = true := by
  obtain ⟨good, bad⟩ := read_json known written
  rw [Config.comesBackFromJson_iff config version]
  constructor
  · intro given
    cases readable : (config.toSection version).isReadable with
    | false => exact absurd given (bad readable _)
    | true =>
      refine ⟨rfl, ?_⟩
      -- the configuration that is read has the section that came back
      have nodup := Config.nodup_ids_requoted readable
      have same := Except.ok.inj ((good readable).symm.trans given)
      have := congrArg (Config.toSection version) same
      rwa [Config.toSection_ofSection version nodup, Config.toSection_kept] at this
  · rintro ⟨readable, same⟩
    rw [good readable, same, Config.ofSection_kept known]
    rfl

/-- **Which configurations come back from JSON.**  A configuration can be written exactly
if its version is a known one.  What is read of the JSON that is written is the same
configuration without the IDs that have no paths, exactly if all of its texts come back
and its IDs with paths come back as keys. -/
theorem read_write_json (config : Config) :
    ((∃ text, write config .json = .ok text)
        ↔ ∃ version : Version, version.name = config.version)
      ∧ ∀ text, write config .json = .ok text →
          ((read text).outcome.value = .ok config.kept ↔ config.comesBackFromJson = true) := by
  refine ⟨⟨fun ⟨_, written⟩ => known_of_write written, fun ⟨version, known⟩ => ?_⟩, ?_⟩
  · exact ⟨_, write_json known⟩
  · intro text written
    obtain ⟨version, known⟩ := known_of_write written
    exact read_json_iff known written

/-! ### Configurations that do not come back -/

/-- A character that YAML lacks. -/
def unreadable : Config := { included := ["\x7f"], version := "v1" }

/-- A line break that is folded. -/
def folded : Config := { ignored := ["a\u0085b"], version := "v1" }

/-- An ID that is too long for a key. -/
def longId : String := String.ofList (List.replicate 1023 'k')

/-- A key that is too long. -/
def oversized : Config :=
  { exemptions := (Exemptions.ofList [⟨longId, ["p"]⟩]).value, version := "v1" }

theorem length_longId : 1022 < longId.toList.length := by
  have length (count : Nat) : (String.ofList (List.replicate count 'k')).toList.length = count := by
    rw [String.toList_ofList, List.length_replicate]
  exact (length 1023).symm ▸ Nat.lt_succ_self 1022

theorem comesBackFromJson_oversized : oversized.comesBackFromJson = false := by
  have long : keyComesBack longId = false := by
    rw [← Bool.not_eq_true, Yaml.keyComesBack_iff, Yaml.not_isShortKey_of_length length_longId]
    exact fun both => Bool.false_ne_true both.2
  rw [Config.comesBackFromJson, oversized,
    Exemptions.toList_ofList_of_nodup (by simp [Ledger.ids])]
  simp [Exemption.hasPaths, Exemption.comesBack, long]

/-- A configuration that does not come back is written all the same, and what is read of it is
another one or an error. -/
theorem exists_lost {config : Config} {version : Version} (known : version.name = config.version)
    (lost : config.comesBackFromJson = false) :
    ∃ text, write config .json = .ok text ∧ (read text).outcome.value ≠ .ok config.kept := by
  refine ⟨_, write_json known, ?_⟩
  rw [Ne, read_json_iff known (write_json known), lost]
  exact Bool.false_ne_true

/-- There are three ways to get lost. -/
theorem read_write_lost :
    (∃ text, write unreadable .json = .ok text
        ∧ (read text).outcome.value ≠ .ok unreadable.kept)
      ∧ (∃ text, write folded .json = .ok text
        ∧ (read text).outcome.value ≠ .ok folded.kept)
      ∧ ∃ text, write oversized .json = .ok text
        ∧ (read text).outcome.value ≠ .ok oversized.kept := by
  have known : Version.v1.name = "v1" := rfl
  exact ⟨exists_lost known (by decide +kernel), exists_lost known (by decide +kernel),
    exists_lost known comesBackFromJson_oversized⟩

end ConfigFile

end BreakCheck
