/-
BreakCheck/Proofs/ConfigFile/TwoSteps.lean

A section read at once, and in two steps.

A section that stands on its own is read at once (`Section.decoder`): its `ignore_only` is
looked into where it is met.  The section of a file is read as a `Draft` first, and its
`ignore_only` is kept as a node until everything else has been read (`Draft.finish`).  The
second way also asks whether a value is missing before it asks for a node.

Nevertheless both accept the same sections and make the same of them.  The argument is that
the second way puts a check off and does nothing else (`defers_section`).  That it asks for a
missing value first makes no difference, since null in all its spellings is a node without any
pairs (`defersPairs`); but this rests on references that lead to nodes and never to other
references, for the second way follows them twice.

Main result: `section_iff_draft`, for sections anywhere in a text and for whole texts.
-/
import BreakCheck.Proofs.ConfigFile.Verdict
import BreakCheck.Proofs.Yaml.Anchored
import BreakCheck.Proofs.Yaml.Deferral

namespace BreakCheck

namespace Yaml

/-! ### Missing values -/

/-- What a tag for null forces on a scalar. -/
theorem meaning_null (style : ScalarStyle) (text : String) :
    meaning style (some (.common "null")) text
      = if isNull text then .ok .null else .error (.wrongValue text "null") := by
  show taggedMeaning (.common "null") text = _
  unfold taggedMeaning
  cases isNull text <;> rfl

/-- **What counts as missing means null**, and where it is wrong to ask, it is wrong to look
for any meaning. -/
theorem isAbsent_cases (style : ScalarStyle) (tag : Option Tag) (text : String) :
    Reader.isAbsent style tag text = .ok false
      ∨ (Reader.isAbsent style tag text = .ok true ∧ meaning style tag text = .ok .null)
      ∨ ∃ complaint, Reader.isAbsent style tag text = .error complaint
        ∧ meaning style tag text = .error complaint := by
  unfold Reader.isAbsent
  by_cases plain : style = .plain
  · rw [if_neg (not_not.2 plain)]
    subst plain
    cases tag with
    | none =>
      dsimp only
      cases empty : text.isEmpty || isNull text with
      | false => exact .inl rfl
      | true =>
        refine .inr (.inl ⟨rfl, ?_⟩)
        show Except.ok (plainMeaning text) = _
        rw [plainMeaning, if_pos empty]
    | some tag =>
      dsimp only
      split
      next same =>
        rw [same, meaning_null]
        split
        · exact .inr (.inl ⟨rfl, rfl⟩)
        · exact .inr (.inr ⟨_, rfl, rfl⟩)
      · exact .inl rfl
  · exact .inl (if_pos plain)

/-! ### Nodes -/

namespace Reader

theorem nodeWithin_scalar (levels : Nat) (context : Context) (style : ScalarStyle)
    (tag : Option Tag) (text : String) :
    nodeWithin levels context (.scalar style tag text) = scalarNode context style tag text := by
  cases levels <;> rfl

theorem nodeWithin_void (levels : Nat) (context : Context) :
    nodeWithin levels context .void = pure .null := by
  cases levels <;> rfl

theorem nodeWithin_cut (levels : Nat) (context : Context) :
    ∃ error, nodeWithin levels context .cut = throw error := by
  cases levels <;> exact ⟨_, rfl⟩

end Reader

end Yaml

open Yaml (Document Path Reader Tree)
open Yaml.Reader (Defers FieldDefers)

namespace ConfigFile

/-! ### `ignore_only` -/

/-- The pairs of what stands under `ignore_only`, if anything does. -/
def pairsOf (found : Option Node) : Except SchemaError (List Exemption) :=
  Draft.pairs { exemptions := found }

/-- One step reads what stands under `ignore_only`, and the other one its pairs. -/
def DefersPairs (path : Path) (late : Yaml.Effect (Option Node))
    (early : Yaml.Effect (List Exemption)) : Prop :=
  Defers path (fun found declared => pairsOf found = .ok declared)
    (fun why found => pairsOf found = .error why) late early

section

variable (context : Yaml.Context) {tree : Tree}

/-- A node and its pairs. -/
theorem defersPairs_some (tree : Tree) :
    DefersPairs context.path.tail (some <$> Reader.node context tree)
      (IgnoreOnly.decoder (R := Reader) context tree) := by
  rw [map_eq_pure_bind]
  refine (Reader.defers_same _ _).bind ?_ fun _ _ none => none.elim
  rintro node _ rfl
  exact Reader.defers_check (fun _ right => right) (fun _ wrong => wrong)

/-- A null has no pairs. -/
theorem defersPairs_none (null : Reader.node context tree = pure .null) :
    DefersPairs context.path.tail (pure none)
      (IgnoreOnly.decoder (R := Reader) context tree) := by
  show DefersPairs _ _ (Reader.node context tree >>= _)
  rw [null, pure_bind]
  exact Reader.defers_check (fun _ right => right) (fun _ wrong => wrong)

/-- What is no node has no pairs either. -/
theorem defersPairs_throw {error : Yaml.Error} (failed : Reader.node context tree = throw error)
    (error' : Yaml.Error) :
    DefersPairs context.path.tail (throw error')
      (IgnoreOnly.decoder (R := Reader) context tree) := by
  show DefersPairs _ _ (Reader.node context tree >>= _)
  rw [failed]
  exact Reader.defers_throw _ _

end

/-- References are followed before anything else, also where pairs are read. -/
theorem follow_decoder {context : Yaml.Context} (anchored : context.document.IsAnchored)
    (tree : Tree) :
    Reader.follow context tree >>= IgnoreOnly.decoder (R := Reader) context
      = IgnoreOnly.decoder (R := Reader) context tree := by
  show Reader.follow context tree >>= (fun tree => Reader.node context tree >>= _)
    = Reader.node context tree >>= _
  rw [← bind_assoc]
  exact congrArg (· >>= _) (Reader.follow_nodeWithin anchored context.levels tree)

/-- **It does not matter that a missing value is asked for first.** -/
theorem defersPairs {context : Yaml.Context} (anchored : context.document.IsAnchored)
    (tree : Tree) :
    DefersPairs context.path.tail (Reader.optional Decoder.node context tree)
      (IgnoreOnly.decoder (R := Reader) context tree) := by
  rw [← follow_decoder anchored tree]
  refine (Reader.defers_same _ _).bind ?_ fun _ _ none => none.elim
  rintro tree _ rfl
  cases tree with
  | scalar style tag text =>
    have node : Reader.node context (.scalar style tag text)
        = Reader.scalarNode context style tag text := Reader.nodeWithin_scalar _ _ _ _ _
    dsimp only
    obtain written | ⟨absent, null⟩ | ⟨complaint, wrong, wrong'⟩ :=
      Yaml.isAbsent_cases style tag text
    · rw [written]
      exact defersPairs_some context _
    · rw [absent]
      rw [Reader.scalarNode, null] at node
      exact defersPairs_none context node
    · rw [wrong]
      rw [Reader.scalarNode, wrong'] at node
      exact defersPairs_throw context node _
  | void => exact defersPairs_none context (Reader.nodeWithin_void _ _)
  | cut =>
    obtain ⟨error, failed⟩ := Reader.nodeWithin_cut context.levels context
    exact defersPairs_throw context failed _
  | _ => exact defersPairs_some context _

/-! ### Sections -/

/-- What a draft comes to. -/
def finished (draft : Draft) : Except SchemaError Section := draft.finish.outcome.value

/-- A draft as a section with these pairs. -/
def Draft.written (draft : Draft) (declared : List Exemption) : Section where
  included := draft.included
  excluded := draft.excluded
  ignored := draft.ignored
  exemptions := declared
  ignoreUnstable := draft.ignoreUnstable

theorem finished_eq (draft : Draft) :
    finished draft = (pairsOf draft.exemptions).map draft.written := value_finish draft

/-- Whatever is put into a draft beside its pairs can be put into the section as well. -/
theorem finished_put {draft draft' : Draft} {put : Section → Section}
    (pairs : draft'.exemptions = draft.exemptions)
    (others : ∀ declared, draft'.written declared = put (draft.written declared)) :
    finished draft' = (finished draft).map put := by
  rw [finished_eq, finished_eq, pairs]
  cases pairsOf draft.exemptions with
  | error why => rfl
  | ok declared => exact congrArg Except.ok (others declared)

/-- Other pairs do not change what else there is in a section. -/
theorem finished_pairs (draft : Draft) (found : Option Node) :
    finished { draft with exemptions := found } = (pairsOf found).map draft.written :=
  finished_eq _

/-- **The field `ignore_only`** is the one whose check is put off. -/
theorem fieldDefers_pairs {document : Document} (anchored : document.IsAnchored) :
    FieldDefers document Field.ignoredById.key finished
      (Decoder.field Field.ignoredById.key (Reader.optional Decoder.node)
        fun exemptions draft => { draft with exemptions })
      (Decoder.field Field.ignoredById.key IgnoreOnly.decoder
        fun exemptions written => { written with exemptions }) := by
  apply FieldDefers.deferred
  · intro context tree same
    exact defersPairs (same ▸ anchored) tree
  · intro found declared draft written right done
    rw [finished_pairs, right]
    rw [finished_eq] at done
    cases pairs : pairsOf draft.exemptions with
    | error why =>
      rw [pairs] at done
      cases done
    | ok others =>
      rw [pairs] at done
      cases done
      rfl
  · intro why found draft wrong
    rw [finished_pairs, wrong]
    rfl

/-- **A draft puts the check of its pairs off**, and this is all that sets it apart from a
section. -/
theorem defers_section {context : Yaml.Context} (anchored : context.document.IsAnchored)
    (tree : Tree) :
    Defers context.path (fun draft written => finished draft = .ok written)
      (fun why draft => finished draft = .error why) (draftReader context tree)
      (Section.decoder (R := Reader) context tree) := by
  have pairs := fieldDefers_pairs anchored
  refine Reader.defers_record Field.ignoredById.key finished ?_ rfl _ _ rfl tree
  exact .cons (.alike fun _ _ => finished_put rfl fun _ => rfl)
    (.cons (.alike fun _ _ => finished_put rfl fun _ => rfl)
    (.cons (.alike fun _ _ => finished_put rfl fun _ => rfl)
    (.cons pairs (.cons (.alike fun _ _ => finished_put rfl fun _ => rfl) .nil))))

/-- **A whole text** is accepted as a section if it is accepted as a draft that can be finished,
and only then. -/
theorem read_section_iff (text : String) (written : Section) :
    (Yaml.read Section.decoder text).outcome.value = .ok written
      ↔ ∃ draft, (Yaml.read draftReader text).outcome.value = .ok draft
        ∧ draft.finish.outcome.value = .ok written := by
  have defers : Defers [] _ _ (draftReader ⟨Document.ofText text, [], Yaml.maxDepth⟩ _) _ :=
    defers_section (Yaml.isAnchored_ofText text) (Document.ofText text).root
  have judged := defers 0
  constructor
  · intro accepted
    obtain ⟨whole, followed, atOnce⟩ := Yaml.read_eq_ok_iff.1 accepted
    obtain ⟨draft, drafted, finished⟩ := (judged.eq_ok_iff written followed).1 atOnce
    exact ⟨draft, Yaml.read_eq_ok_iff.2 ⟨whole, followed, drafted⟩, finished⟩
  · rintro ⟨draft, accepted, finished⟩
    obtain ⟨whole, followed, drafted⟩ := Yaml.read_eq_ok_iff.1 accepted
    exact Yaml.read_eq_ok_iff.2
      ⟨whole, followed, (judged.eq_ok_iff written followed).2 ⟨draft, drafted, finished⟩⟩

/-- **A section is accepted at once if it is accepted in two steps**, and only then, wherever in
a text it stands and whatever it holds; and both make the same of it, down to its pairs.  If
something is wrong with the pairs only, the same is reported, as an error of the text format
in the one case and as one of the section in the other.  So it is with texts that hold nothing
but a section. -/
theorem section_iff_draft (text : String) :
    (∀ (path : Path) (levels : Nat) (tree : Tree) (followed : Nat),
        let context : Yaml.Context := ⟨Document.ofText text, path, levels⟩
        let atOnce := Reader.result (Section.decoder (R := Reader) context tree) followed
        let drafted := Reader.result (draftReader context tree) followed
        (∀ written followed', atOnce = .ok (written, followed') ↔
            ∃ draft, drafted = .ok (draft, followed') ∧ draft.finish.outcome.value = .ok written)
          ∧ ∀ draft followed' why, drafted = .ok (draft, followed') →
            draft.finish.outcome.value = .error why →
            atOnce = .error (.data path (.schema why)))
      ∧ ∀ written, (Yaml.read Section.decoder text).outcome.value = .ok written ↔
        ∃ draft, (Yaml.read draftReader text).outcome.value = .ok draft
          ∧ draft.finish.outcome.value = .ok written := by
  refine ⟨?_, read_section_iff text⟩
  intro path levels tree followed context atOnce drafted
  have defers : Defers path _ _ (draftReader context tree) _ :=
    defers_section (Yaml.isAnchored_ofText text) tree
  have judged := defers followed
  constructor
  · intro written followed'
    exact judged.eq_ok_iff written followed'
  · intro draft followed' why read wrong
    exact judged.eq_error read wrong

end ConfigFile

end BreakCheck
