/-
BreakCheck/Proofs/ConfigFile/Notices.lean

The notices that are issued while a file is read.

Three steps have something to tell: where the pairs are looked into, where the file has been
read up to its configuration, and where the pairs are folded together.  The first of these is
the last one that can fail, and it tells its number only if it does not.  All steps in front of
it are quiet.  So a file that is not read is never told of, whatever is wrong with it, and of
one that is read the notices say exactly what it declares.

`Reports` carries this along: behind quiet steps it holds of a row of steps if it holds of the
last one (`reports_bind`).

Main result: `read_notices`.
-/
import BreakCheck.Proofs.ConfigFile.TwoSteps
import BreakCheck.Proofs.Exemptions.Declared
import BreakCheck.Proofs.IgnoreOnly.Faults
import BreakCheck.Proofs.Yaml.Quiet
import Mathlib

namespace BreakCheck

/-! ### What a step reports -/

namespace Attempt

variable {ε α β : Type}

/-- **What a step reports**: nothing if it fails, and otherwise notices of which `told` says
what they have to do with the value. -/
def Reports (step : Attempt ε α) (told : α → List Notice → Prop) : Prop :=
  match step.outcome with
  | ⟨.ok a, notices⟩ => told a notices
  | ⟨.error _, notices⟩ => notices = []

variable {told : α → List Notice → Prop}

theorem reports_of_ok {step : Attempt ε α} {a : α} {notices : List Notice}
    (done : step.outcome = ⟨.ok a, notices⟩) (tells : told a notices) : Reports step told := by
  rw [Reports, done]
  exact tells

theorem reports_of_error {step : Attempt ε α} {error : ε}
    (failed : step.outcome = ⟨.error error, []⟩) : Reports step told := by
  rw [Reports, failed]

/-- A step that reports as told issues nothing if it fails. -/
theorem Reports.silent {step : Attempt ε α} (reports : Reports step told) {error : ε}
    (failed : step.outcome.value = .error error) : step.outcome.notices = [] := by
  rw [Reports] at reports
  generalize step.outcome = outcome at reports failed ⊢
  obtain ⟨value, notices⟩ := outcome
  cases failed
  exact reports

/-- A step that reports as told issues such notices if it has a value. -/
theorem Reports.tells {step : Attempt ε α} (reports : Reports step told) {a : α}
    (done : step.outcome.value = .ok a) : told a step.outcome.notices := by
  rw [Reports] at reports
  generalize step.outcome = outcome at reports done ⊢
  obtain ⟨value, notices⟩ := outcome
  cases done
  exact reports

/-- Less can be said of what a step reports. -/
theorem Reports.mono {step : Attempt ε α} {told' : α → List Notice → Prop}
    (reports : Reports step told) (weaker : ∀ a notices, told a notices → told' a notices) :
    Reports step told' := by
  rw [Reports] at reports ⊢
  generalize step.outcome = outcome at reports ⊢
  obtain ⟨_ | a, notices⟩ := outcome
  · exact reports
  · exact weaker a notices reports

/-- **Quiet steps in front** leave the report as it is. -/
theorem reports_bind {step : Attempt ε β} {next : β → Attempt ε α} (quiet : step.IsQuiet)
    (second : ∀ b, step.outcome.value = .ok b → Reports (next b) told) :
    Reports (step >>= next) told := by
  have outcome := quiet.outcome_eq
  cases value : step.outcome.value with
  | error error =>
    rw [value] at outcome
    exact reports_of_error (outcome_bind_error outcome next)
  | ok b =>
    rw [value] at outcome
    rw [Reports, outcome_bind_ok outcome]
    exact second b value

end Attempt

/-! ### Looking into the pairs -/

/-- **A node is refused without a notice**, or it declares its pairs and their number is told,
unless it has no children. -/
theorem IgnoreOnly.outcome_cases (node : Node) :
    (∃ why, (decode node).outcome = ⟨.error why, []⟩)
      ∨ (decode node).outcome = ⟨.ok (declaredBy node.children),
          if node.children.isEmpty then []
          else [.decodedIgnoreOnly (declaredBy node.children).length]⟩ := by
  by_cases nothing : node.children = []
  · rw [decode_of_childless node nothing, nothing]
    exact .inr rfl
  cases node with
  | null => exact absurd rfl nothing
  | scalar text => exact absurd rfl nothing
  | sequence items => exact .inl ⟨_, outcome_of_sequence nothing⟩
  | mapping style content =>
    have some : content ≠ [] := nothing
    rcases Nat.mod_two_eq_zero_or_one content.length with even | odd
    · obtain ⟨-, read⟩ | ⟨-, _, _, _, why, -, -, -, failed⟩ := outcome_of_even style some even
      · rw [read, Node.children, if_neg (by simpa using some), length_declaredBy]
        exact .inr rfl
      · exact .inl ⟨_, failed⟩
    · exact .inl ⟨_, outcome_of_odd style odd⟩

namespace ConfigFile

open Attempt (Reports reports_bind)

/-- The children of the node under `ignore_only`; there are none if there is no node. -/
def Draft.children (draft : Draft) : List Node := (draft.exemptions.map Node.children).getD []

/-- The pairs that a draft declares, one for every two children. -/
def Draft.declared (draft : Draft) : List Exemption := IgnoreOnly.declaredBy draft.children

/-- What is told of the pairs of a draft: their number, if there are any children. -/
def Draft.notices (draft : Draft) : List Notice :=
  if draft.children.isEmpty then [] else [.decodedIgnoreOnly draft.declared.length]

/-- **A draft is refused without a notice**, or it is finished with the pairs that it declares. -/
theorem outcome_finish_cases (draft : Draft) :
    (∃ why, draft.finish.outcome = ⟨.error why, []⟩)
      ∨ draft.pairs = .ok draft.declared
        ∧ draft.finish.outcome = ⟨.ok (draft.written draft.declared), draft.notices⟩ := by
  rw [Draft.finish, Draft.pairs, Draft.notices, Draft.declared, Draft.children]
  cases draft.exemptions with
  | none => exact .inr ⟨rfl, rfl⟩
  | some node =>
    obtain ⟨why, failed⟩ | read := IgnoreOnly.outcome_cases node
    · exact .inl ⟨why, Attempt.outcome_bind_error failed _⟩
    · refine .inr ⟨congrArg Logged.value read, (Attempt.outcome_bind_ok read _).trans ?_⟩
      rw [Attempt.outcome_pure, List.append_nil]
      rfl

/-! ### Quiet passes -/

theorem isQuiet_readFile {α : Type} {reader : Yaml.Reader α} (quiet : reader.IsQuiet)
    (text : String) : (readFile reader text).IsQuiet :=
  (Yaml.quiet_read quiet text).mapError _

/-- The version is read quietly. -/
theorem isQuiet_versionReader : versionReader.IsQuiet := by
  have version := (Yaml.Reader.isQuiet_textAs "a string").optional
  exact Yaml.Reader.AreQuiet.record (List.forall_mem_singleton.2 (version.map _)) _ _

theorem isQuiet_keysReader : keysReader.IsQuiet :=
  Yaml.Reader.AreQuiet.record
    (List.forall_mem_singleton.2 (Yaml.Reader.isQuiet_keys.optional.map _)) _ _

/-- The fields of a section are read quietly, the node of `ignore_only` included, for it is only
looked into later. -/
theorem isQuiet_draftReader : draftReader.IsQuiet := by
  have texts := (Yaml.Reader.isQuiet_textAs "a string").list
  have node := Yaml.Reader.isQuiet_node.optional
  apply Yaml.Reader.AreQuiet.record
  simp only [Yaml.Reader.AreQuiet, List.forall_mem_cons]
  exact ⟨texts.map _, texts.map _, texts.map _, node.map _, Yaml.Reader.isQuiet_flag.map _,
    List.forall_mem_nil _⟩

theorem isQuiet_sectionReader : sectionReader.IsQuiet :=
  Yaml.Reader.AreQuiet.record
    (List.forall_mem_singleton.2 (isQuiet_draftReader.optional.map _)) _ _

/-- A version that is not known is refused without a notice. -/
theorem isQuiet_declaredVersion (text : String) : (declaredVersion text).IsQuiet := by
  refine (isQuiet_readFile isQuiet_versionReader text).bind fun name => ?_
  dsimp only
  cases Version.ofName? (name.getD "") <;> rfl

/-- Keys that are not known are refused without a notice. -/
theorem isQuiet_refuseUnknown (version : Version) (keys : List String) :
    (refuseUnknown version keys).IsQuiet := by
  rw [refuseUnknown]
  split
  · exact Attempt.isQuiet_throw _
  · exact Attempt.isQuiet_pure _

/-! ### Reading -/

/-- Behind the pairs nothing fails: the version is told, and then the repeated IDs. -/
theorem reports_finish (version : Version) (draft : Draft) :
    Reports
      (draft.finish.mapError FileError.schema >>= fun written => do
        monadLift (Logged.note (.parsedDocument version))
        monadLift (Config.ofSection version written))
      fun config notices => draft.pairs = .ok draft.declared
        ∧ config.exemptions = (Exemptions.ofList draft.declared).value
        ∧ notices = draft.notices ++ .parsedDocument version
          :: (Ledger.repeated draft.declared).map .duplicateId := by
  have outcome := Attempt.outcome_mapError FileError.schema draft.finish
  obtain ⟨why, failed⟩ | ⟨pairs, finished⟩ := outcome_finish_cases draft
  · rw [failed] at outcome
    exact Attempt.reports_of_error (Attempt.outcome_bind_error outcome _)
  · rw [finished] at outcome
    refine Attempt.reports_of_ok (Attempt.outcome_bind_ok outcome _) ?_
    rw [Attempt.outcome_bind_ok (Attempt.outcome_lift _), Attempt.outcome_lift,
      Config.ofSection_eq, Logged.notices_map, ← Exemptions.notices_ofList]
    exact ⟨pairs, rfl, rfl⟩

/-- What a file is told of, if it is read. -/
theorem reports_read (text : String) :
    Reports (read text) fun config notices => ∃ version found,
      (declaredVersion text).outcome.value = .ok version
        ∧ (readFile sectionReader text).outcome.value = .ok found
        ∧ (found.getD {}).pairs = .ok (found.getD {}).declared
        ∧ config.exemptions = (Exemptions.ofList (found.getD {}).declared).value
        ∧ notices = (found.getD {}).notices ++ .parsedDocument version
          :: (Ledger.repeated (found.getD {}).declared).map .duplicateId := by
  refine reports_bind (isQuiet_declaredVersion text) fun version declared => ?_
  refine reports_bind (isQuiet_readFile isQuiet_keysReader text) fun keys _ => ?_
  refine reports_bind (isQuiet_refuseUnknown version _) fun _ _ => ?_
  refine reports_bind (isQuiet_readFile isQuiet_sectionReader text) fun found read => ?_
  refine (reports_finish version (found.getD {})).mono fun config notices told => ?_
  exact ⟨version, found, declared, read, told⟩

/-- **The notices tell exactly what happened.**  A file that cannot be read is not told of,
whatever is wrong with it.  For a file that is read, first the number of its pairs is told,
unless the node under `ignore_only` has no children or there is none; then its version; and then,
in the order of their declaration, the ID of each pair that has another one with the same ID in
front of it.  So IDs and notices of repeated ones together are as many as there are pairs. -/
theorem read_notices (text : String) :
    (∀ error, (read text).outcome.value = .error error → (read text).outcome.notices = [])
      ∧ ∀ config, (read text).outcome.value = .ok config → ∃ version found,
        (declaredVersion text).outcome.value = .ok version
          ∧ (readFile sectionReader text).outcome.value = .ok found
          ∧ let children := (found.getD {}).children
            let declared := IgnoreOnly.declaredBy children
            (found.getD {}).pairs = .ok declared
              ∧ declared.length = children.length / 2
              ∧ (read text).outcome.notices
                = (if children.isEmpty then [] else [.decodedIgnoreOnly declared.length])
                  ++ [.parsedDocument version]
                  ++ (Ledger.repeated declared).map .duplicateId
              ∧ config.exemptions.size + (Ledger.repeated declared).length = declared.length := by
  refine ⟨fun error failed => (reports_read text).silent failed, fun config done => ?_⟩
  obtain ⟨version, found, known, read, pairs, folded, notices⟩ := (reports_read text).tells done
  refine ⟨version, found, known, read, pairs, IgnoreOnly.length_declaredBy _, ?_, ?_⟩
  · rw [notices, List.append_assoc]
    rfl
  · have together := Exemptions.length_notices_ofList (found.getD {}).declared
    rw [← folded, Exemptions.notices_ofList, List.length_map, Exemptions.toList,
      Array.length_toList] at together
    rw [Nat.add_comm]
    exact together

set_option maxRecDepth 10000 in
/-- An ID that is declared twice. -/
example : (read "version: v1\nbreaking:\n  ignore_only:\n    A: [x]\n    A: [y]\n").outcome.notices
    = [.decodedIgnoreOnly 2, .parsedDocument .v1, .duplicateId "A"] := by cbv

end ConfigFile

end BreakCheck
