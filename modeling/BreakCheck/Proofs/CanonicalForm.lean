/-
BreakCheck/Proofs/CanonicalForm.lean

The canonical form is a complete invariant of a configuration up to order.

`Config.SameUpToOrder` says when two configurations say the same thing, whatever
the order in which it was said.  The canonical bytes are equal in just these
cases.  That order is forgotten is the work of sorting; that nothing else is
forgotten comes back through the JSON text: equal bytes are equal texts, equal
texts have equal trees, and in the tree every field is found by its name.
-/
import BreakCheck.CanonicalForm
import BreakCheck.Proofs.Data.Fields
import BreakCheck.Proofs.Exemptions.Sorted

namespace BreakCheck

/-- Two configurations agree up to the order in which things were declared.  An ID
without paths counts as declared. -/
structure Config.SameUpToOrder (a b : Config) : Prop where
  included : a.included.Perm b.included
  excluded : a.excluded.Perm b.excluded
  ignored : a.ignored.Perm b.ignored
  /-- The same IDs are declared, each with the same paths up to their order. -/
  exemptions : ∀ id, Option.Rel List.Perm (a.exemptions.get? id) (b.exemptions.get? id)
  ignoreUnstable : a.ignoreUnstable = b.ignoreUnstable
  version : a.version = b.version

/-! ### The data of a configuration -/

theorem Config.bearsJson_canonicalData (config : Config) :
    config.canonicalData.bearsJson = true := by
  rw [Config.canonicalData, Data.bearsJson_record]
  intro field held
  simp only [List.mem_append] at held
  rcases held with ((((held | held) | held) | held) | held) | held
  · exact Data.bearsJson_of_mem_textsField held
  · exact Data.bearsJson_of_mem_textsField held
  · exact Data.bearsJson_of_mem_textsField held
  · refine Data.bearsJson_of_mem_listField (fun item known => ?_) held
    obtain ⟨entry, -, rfl⟩ := List.mem_map.1 known
    exact entry.bearsJson_toData
  · exact Data.bearsJson_of_mem_flagField held
  · exact Data.bearsJson_of_mem_textField held

/-- An ID with its paths is determined by its tree, even if one of them is empty. -/
theorem Exemption.eq_of_jsonTree_eq {entry entry' : Exemption}
    (same : entry.toData.jsonTree = entry'.toData.jsonTree) : entry = entry' := by
  have found := Data.lookup_eq_of_jsonTree_eq same
  have ids := found "id"
  have paths := found "paths"
  simp only [List.lookup_append, Data.lookup_textField, Data.lookup_textsField, true_and,
    String.reduceEq, false_and, if_false, Option.or_none, Option.none_or] at ids paths
  obtain ⟨id, entry_paths⟩ := entry
  obtain ⟨id', entry_paths'⟩ := entry'
  rw [Exemption.mk.injEq]
  exact ⟨Data.textField_inj ids, Data.textsField_inj paths⟩

namespace Config

/-- **The tree of the canonical data** tells apart all but the order. -/
theorem sameUpToOrder_of_jsonTree_eq {a b : Config}
    (same : a.canonicalData.jsonTree = b.canonicalData.jsonTree) : a.SameUpToOrder b := by
  have found := Data.lookup_eq_of_jsonTree_eq same
  have included := found "use"
  have excluded := found "except"
  have ignored := found "ignore_root_paths"
  have exemptions := found "ignore_id_to_root_paths"
  have ignoreUnstable := found "ignore_unstable_packages"
  have version := found "version"
  simp only [List.lookup_append, Data.lookup_textField, Data.lookup_textsField,
    Data.lookup_listField, Data.lookup_flagField, true_and, String.reduceEq, false_and, if_false,
    Option.or_none, Option.none_or] at included excluded ignored exemptions ignoreUnstable version
  -- entries are written with their IDs, so equal lists of trees are equal lists of entries
  have entries : a.exemptions.sorted = b.exemptions.sorted := by
    have trees := Data.listField_inj exemptions
    rw [List.map_map, List.map_map] at trees
    exact (List.map_inj_right fun _ _ => Exemption.eq_of_jsonTree_eq).1 trees
  exact
    { included := (sortTexts_eq_iff _ _).1 (Data.textsField_inj included)
      excluded := (sortTexts_eq_iff _ _).1 (Data.textsField_inj excluded)
      ignored := (sortTexts_eq_iff _ _).1 (Data.textsField_inj ignored)
      exemptions := (Exemptions.sorted_eq_iff _ _).1 entries
      ignoreUnstable := Data.flagField_inj ignoreUnstable
      version := Data.textField_inj version }

/-- **The canonical data** does not see the order. -/
theorem canonicalData_eq_of_sameUpToOrder {a b : Config} (same : a.SameUpToOrder b) :
    a.canonicalData = b.canonicalData := by
  unfold canonicalData
  rw [(sortTexts_eq_iff _ _).2 same.included, (sortTexts_eq_iff _ _).2 same.excluded,
    (sortTexts_eq_iff _ _).2 same.ignored, (Exemptions.sorted_eq_iff _ _).2 same.exemptions,
    same.ignoreUnstable, same.version]

end Config

/-! ### The bytes -/

/-- The text whose bytes are the canonical form. -/
def canonicalText (config : Config) : List Char :=
  Json.layout .compact config.canonicalData 0

/-- The canonical form is the bytes of a text, and every configuration has one. -/
theorem canonicalForm_eq (config : Config) :
    canonicalForm (some config) = .ok (String.ofList (canonicalText config)).toUTF8 := by
  rw [canonicalForm, Json.write_eq_layout .compact config.bearsJson_canonicalData]
  rfl

/-- Characters can be told from their bytes. -/
theorem toUTF8_ofList_inj {chars chars' : List Char} :
    (String.ofList chars).toUTF8 = (String.ofList chars').toUTF8 ↔ chars = chars' := by
  rw [String.toUTF8, String.toUTF8, String.toByteArray_inj, String.ofList_inj]

/-- **Two configurations have the same text exactly if they are the same up to order.** -/
theorem canonicalText_eq_iff (a b : Config) :
    canonicalText a = canonicalText b ↔ a.SameUpToOrder b := by
  constructor
  · intro same
    exact Config.sameUpToOrder_of_jsonTree_eq (Json.jsonTree_eq_of_layout_eq .compact
      a.bearsJson_canonicalData b.bearsJson_canonicalData same)
  · intro same
    rw [canonicalText, Config.canonicalData_eq_of_sameUpToOrder same]
    rfl

/-- **The canonical form is a complete invariant.**  Every configuration has one; two
configurations have the same one exactly if they agree up to order; and none has that
of no configuration. -/
theorem canonicalForm_eq_iff_sameUpToOrder (a b : Config) :
    ∃ bytes bytes',
      canonicalForm (some a) = .ok bytes ∧ canonicalForm (some b) = .ok bytes'
        ∧ (bytes = bytes' ↔ a.SameUpToOrder b)
        ∧ canonicalForm (some a) ≠ canonicalForm none := by
  refine ⟨_, _, canonicalForm_eq a, canonicalForm_eq b, ?_, ?_⟩
  · rw [toUTF8_ofList_inj, canonicalText_eq_iff]
  -- the form of no configuration is empty, and no data is written as nothing
  · intro same
    rw [canonicalForm_eq, canonicalForm, Except.ok.injEq] at same
    obtain ⟨c, chars, starts, -⟩ := Json.layout_eq_cons .compact a.canonicalData 0
    have empty : canonicalText a = [] := toUTF8_ofList_inj.1 same
    rw [canonicalText, starts] at empty
    cases empty

end BreakCheck
