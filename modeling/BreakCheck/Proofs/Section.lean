/-
BreakCheck/Proofs/Section.lean

What a section is and what it means after it has been written as JSON and read back.

Writing leaves out the pairs without paths and keeps all others, repetitions included;
reading gives just these back (`reads_section`), of a section as well as of pairs by
themselves (`read_write_pairs`).  What the section that is read means is the fold of the
pairs that are kept:

    every ID with paths once, in the order in which the IDs are first given paths,
    with the paths that it is given last.

This is what the section meant before, less the IDs without paths, exactly if its pairs
are written in full (`IgnoreOnly.WrittenInFull`).  A pair without paths behind or in
front of another one with its ID gets lost before it can take effect; `cleared` and
`reordered` are the shortest sections that lose something that way.
-/
import BreakCheck.Proofs.ConfigFile.Shown
import BreakCheck.Proofs.IgnoreOnly.Cleared
import BreakCheck.Proofs.Json.Reads
import BreakCheck.Proofs.Json.WellFormed

namespace BreakCheck

/-! ### The readers of a section -/

namespace Json.Reader

/-- Texts in an array stay what they are in a node. -/
theorem node_texts (values : List String) (levels : Nat) :
    node (Data.texts values).jsonTree (levels + 1)
      = pure (.sequence (values.map Node.scalar)) := by
  have items : (Data.itemJsonTrees (values.map Data.text)).mapM nodeItem
      = pure (values.map Node.scalar) := by
    induction values with
    | nil => rfl
    | cons value rest ih =>
      rw [List.map_cons, Data.itemJsonTrees, List.mapM_cons, ih]
      rfl
  show Node.sequence <$> (Data.itemJsonTrees (values.map Data.text)).mapM nodeItem = _
  rw [items, map_pure]

theorem nodeMembers_texts (fields : List (String × List String)) (levels : Nat) :
    nodeMembers (memberTrees (fields.map fun (key, values) => (key, Data.texts values)))
        (levels + 1)
      = pure (Yaml.Reader.textsNode fields).children := by
  induction fields with
  | nil => rfl
  | cons field rest ih =>
    obtain ⟨key, values⟩ := field
    show nodeMembers ((.text key, (Data.texts values).jsonTree)
      :: memberTrees (rest.map fun (key, values) => (key, Data.texts values))) (levels + 1) = _
    rw [nodeMembers, node_texts, pure_bind, ih, pure_bind]
    rfl

/-- **A record of lists of texts** is read as a node as it stands. -/
theorem reads_node (fields : List (String × List String)) :
    Reads 2 Decoder.node (.record (fields.map fun (key, values) => (key, Data.texts values)))
      (pure (Yaml.Reader.textsNode fields)) := by
  intro levels enough
  obtain ⟨levels, rfl⟩ := Nat.exists_eq_add_of_le' enough
  rw [Data.jsonTree_record]
  show Node.mapping .plain <$> nodeMembers (memberTrees _) (levels + 1) = _
  rw [nodeMembers_texts, map_pure]
  rfl

/-- **Pairs** are read as what is kept of them, with a notice of their number. -/
theorem reads_exemptions {declared : List Exemption}
    (some : IgnoreOnly.isVacuous declared = false) :
    Reads 2 IgnoreOnly.decoder (IgnoreOnly.toData declared)
      ⟨IgnoreOnly.kept declared, [.decodedIgnoreOnly (IgnoreOnly.kept declared).length]⟩ := by
  have passed : IgnoreOnly.decode (Yaml.Reader.textsNode
        ((IgnoreOnly.kept declared).map fun entry => (entry.id, entry.paths)))
      = monadLift (⟨IgnoreOnly.kept declared,
        [.decodedIgnoreOnly (IgnoreOnly.kept declared).length]⟩ : Logged _) :=
    Attempt.eq_of_outcome_eq (ConfigFile.decode_textsNode (IgnoreOnly.kept_ne_nil some))
  have reads := reads_node
    ((IgnoreOnly.kept declared).map fun entry => (entry.id, entry.paths))
  rw [List.map_map] at reads
  rw [IgnoreOnly.toData_of_not_isVacuous some]
  exact reads.refine passed

/-- **Pairs are read back** as what is kept of them, also where nothing is: no pairs at all are
written as null, and pairs without a path as an object without members. -/
theorem reads_pairs (declared : List Exemption) :
    Reads 2 IgnoreOnly.decoder (IgnoreOnly.toData declared)
      ⟨IgnoreOnly.kept declared, ConfigFile.pairNotices { exemptions := declared }⟩ := by
  unfold ConfigFile.pairNotices
  cases vacuous : IgnoreOnly.isVacuous declared with
  | false =>
    rw [if_neg Bool.false_ne_true]
    exact reads_exemptions vacuous
  | true =>
    rw [if_pos rfl, IgnoreOnly.toData_eq_record, (IgnoreOnly.isVacuous_iff declared).1 vacuous]
    cases declared with
    | nil => exact fun _ _ => rfl
    | cons entry rest =>
      intro levels enough
      obtain ⟨levels, rfl⟩ := Nat.exists_eq_add_of_le' enough
      rfl

theorem fills_exemptions {fields : List (String × Reader (Section → Section))}
    (known : fields.lookup Field.ignoredById.key
      = some ((fun exemptions written => { written with exemptions }) <$> IgnoreOnly.decoder))
    (written : Section) {before : Section} (blank : before.exemptions = []) :
    Fills fields 2 [Field.ignoredById.key]
      (if IgnoreOnly.isVacuous written.exemptions then []
        else [(Field.ignoredById.key, IgnoreOnly.toData written.exemptions)])
      before ⟨{ before with exemptions := IgnoreOnly.kept written.exemptions },
        ConfigFile.pairNotices written⟩ := by
  unfold ConfigFile.pairNotices
  apply Fills.unlessEmpty known
  · intro vacuous
    rw [(IgnoreOnly.isVacuous_iff _).1 vacuous, if_pos vacuous, ← blank]
    rfl
  · intro some
    refine ⟨_, (reads_exemptions some).map _, ?_⟩
    rw [if_neg (by simp [some])]
    rfl

/-- **A section is read field by field**, whichever of them are left out; its pairs are
those that were kept. -/
theorem reads_section (written : Section) :
    Reads 3 Section.decoder written.toData ⟨written.kept, ConfigFile.pairNotices written⟩ := by
  -- the flag is read behind the pairs and adds nothing to their notices
  have flagged : (⟨written.kept, ConfigFile.pairNotices written⟩ : Logged Section)
      = (⟨{ written.kept with ignoreUnstable := false }, ConfigFile.pairNotices written⟩
        >>= fun _ => pure written.kept) :=
    congrArg (Logged.mk _) (List.append_nil _).symm
  rw [flagged]
  apply Fills.reads "ExternalConfig"
  refine Fills.append (Fills.append (Fills.append (Fills.append
    (Fills.texts (fun included (written : Section) => { written with included }) rfl
      written.included rfl (by decide))
    (Fills.texts (fun excluded (written : Section) => { written with excluded }) rfl
      written.excluded rfl (by decide)) ?_)
    (Fills.texts (fun ignored (written : Section) => { written with ignored }) rfl
      written.ignored rfl (by decide)) ?_)
    (fills_exemptions rfl written rfl) ?_)
    (Fills.flag (fun ignoreUnstable (written : Section) => { written with ignoreUnstable }) rfl
      written.ignoreUnstable rfl) ?_
  all_goals decide

end Json.Reader

/-! ### What is kept of a section means -/

/-- **Folding what is kept** leaves what is kept of the fold exactly if the pairs are
written in full. -/
theorem Exemptions.ofList_kept_eq_iff (declared : List Exemption) :
    (ofList (IgnoreOnly.kept declared)).value = (ofList declared).value.kept
      ↔ IgnoreOnly.WrittenInFull declared := by
  rw [← toList_inj, toList_kept, toList_ofList, toList_ofList]
  exact IgnoreOnly.ofList_kept_eq_iff declared

namespace Config

/-- A section of which only some pairs are kept means another configuration at most in its
exemptions, and these are the fold of the pairs that are kept. -/
theorem ofSection_kept_folded (version : Version) (written : Section) :
    ∃ exemptions, (ofSection version written.kept).value
        = { (ofSection version written).value with exemptions }
      ∧ exemptions.toList = Ledger.folded (IgnoreOnly.kept written.exemptions) := by
  refine ⟨_, ?_, Exemptions.toList_ofList_eq_folded (IgnoreOnly.kept written.exemptions)⟩
  rw [ofSection_eq, ofSection_eq]
  rfl

/-- It means what is kept of the configuration exactly if the pairs are written in full. -/
theorem ofSection_kept_eq_iff (version : Version) (written : Section) :
    (ofSection version written.kept).value = (ofSection version written).value.kept
      ↔ IgnoreOnly.WrittenInFull written.exemptions := by
  rw [ofSection_eq, ofSection_eq, ← Exemptions.ofList_kept_eq_iff]
  constructor
  · intro same
    exact congrArg Config.exemptions same
  · intro same
    show Config.mk _ _ _ (Exemptions.ofList (IgnoreOnly.kept written.exemptions)).value _ _ = _
    rw [same]
    rfl

end Config

/-! ### Sections as JSON text -/

/-- **What is read of data comes back from its text**: it is written, all names in it being texts,
and of the text the same is read, with the same notices. -/
theorem Json.comes_back {α : Type} {reader : Json.Reader α} {depth : Nat} {shown : Data}
    {result : Logged α} (reads : Reader.Reads depth reader shown result)
    (shallow : depth ≤ maxDepth) (bears : shown.bearsJson = true) (style : Style) :
    shown.namesAreTexts = true
      ∧ ∃ text, write style shown = .ok text
        ∧ (read reader text).outcome = ⟨.ok result.value, result.notices⟩ := by
  obtain ⟨text, done, back⟩ := read_write reads shallow bears style
  refine ⟨namesAreTexts_of_write done, text, done, ?_⟩
  rw [back, Attempt.outcome_lift]

namespace Section

/-- **Sections and pairs come back** from their JSON text, compact or set out, as what is kept of
them.  Both are written, all names in them being texts; and what is read differs in nothing
but the pairs without paths, whichever fields are left out for being empty. -/
theorem read_write_pairs (style : Json.Style) (written : Section) (declared : List Exemption) :
    (written.toData.namesAreTexts = true
        ∧ ∃ text, Json.write style written.toData = .ok text
          ∧ (Json.read Section.decoder text).outcome
            = ⟨.ok { written with exemptions := written.exemptions.filter Exemption.hasPaths },
              ConfigFile.pairNotices written⟩)
      ∧ (IgnoreOnly.toData declared).namesAreTexts = true
        ∧ ∃ text, Json.write style (IgnoreOnly.toData declared) = .ok text
          ∧ (Json.read IgnoreOnly.decoder text).outcome
            = ⟨.ok (declared.filter Exemption.hasPaths),
              ConfigFile.pairNotices { exemptions := declared }⟩ := by
  constructor
  · exact Json.comes_back (Json.Reader.reads_section written) (by decide)
      written.bearsJson_toData style
  · exact Json.comes_back (Json.Reader.reads_pairs declared) (by decide)
      (IgnoreOnly.bearsJson_toData declared) style

/-- A section is written, and of its text the pairs that are kept are read. -/
theorem exists_text (written : Section) (style : Json.Style) :
    ∃ text, Json.write style written.toData = .ok text
      ∧ (Json.read Section.decoder text).outcome.value = .ok written.kept := by
  obtain ⟨-, text, done, back⟩ := Json.comes_back (Json.Reader.reads_section written) (by decide)
    written.bearsJson_toData style
  exact ⟨text, done, congrArg Logged.value back⟩

/-- **What a section means after writing and reading.**  Every section is written, and it
is read without the pairs that have no paths.  It then means a configuration with the same
fields, whose exemptions are the fold of the other pairs.  That is the configuration that
it meant before, less the IDs without paths, exactly if its pairs are written in full. -/
theorem ofSection_read_write (version : Version) (style : Json.Style) (written : Section) :
    ∃ text back, Json.write style written.toData = .ok text
      ∧ (Json.read Section.decoder text).outcome.value = .ok back
      ∧ (∃ exemptions, (Config.ofSection version back).value
            = { (Config.ofSection version written).value with exemptions }
          ∧ exemptions.toList = Ledger.folded (IgnoreOnly.kept written.exemptions))
      ∧ ((Config.ofSection version back).value = (Config.ofSection version written).value.kept
          ↔ IgnoreOnly.WrittenInFull written.exemptions) := by
  obtain ⟨text, done, read⟩ := written.exists_text style
  exact ⟨text, written.kept, done, read, Config.ofSection_kept_folded version written,
    Config.ofSection_kept_eq_iff version written⟩

/-! ### Sections that lose something -/

/-- An ID is declared without paths behind a declaration with some. -/
def cleared : Section := { exemptions := [⟨"A", ["x"]⟩, ⟨"A", []⟩] }

/-- An ID is declared without paths in front of another ID, and with paths behind it. -/
def reordered : Section := { exemptions := [⟨"A", []⟩, ⟨"B", ["x"]⟩, ⟨"A", ["y"]⟩] }

theorem exists_changed {written : Section} (version : Version)
    (short : ¬ IgnoreOnly.WrittenInFull written.exemptions) :
    ∃ text back, Json.write .compact written.toData = .ok text
      ∧ (Json.read Section.decoder text).outcome.value = .ok back
      ∧ (Config.ofSection version back).value
        ≠ (Config.ofSection version written).value.kept := by
  obtain ⟨text, done, read⟩ := written.exists_text .compact
  refine ⟨text, written.kept, done, read, ?_⟩
  rw [Ne, Config.ofSection_kept_eq_iff]
  exact short

/-- The paths of the one section come back; the IDs of the other one change places. -/
theorem ofSection_read_write_changed :
    (∃ text back, Json.write .compact cleared.toData = .ok text
        ∧ (Json.read Section.decoder text).outcome.value = .ok back
        ∧ (Config.ofSection .v1 back).value ≠ (Config.ofSection .v1 cleared).value.kept)
      ∧ ∃ text back, Json.write .compact reordered.toData = .ok text
        ∧ (Json.read Section.decoder text).outcome.value = .ok back
        ∧ (Config.ofSection .v1 back).value
          ≠ (Config.ofSection .v1 reordered).value.kept := by
  constructor
  · apply exists_changed
    intro full
    exact full.notCleared "A" rfl (by decide)
  · apply exists_changed
    intro full
    exact absurd full.inOrder (by decide)

end Section

end BreakCheck
