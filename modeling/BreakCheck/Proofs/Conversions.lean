/-
BreakCheck/Proofs/Conversions.lean

Configurations that are taken to another representation and back.

A *hop* goes by way of the message of a configuration, by way of its section, or to
another version.  Each of the three copies the fields by code of its own, and each builds
the exemptions anew from a list.  Since no ID occurs twice in that list, the exemptions
come out as they were and nobody is told of a repeated ID.

The step lemma is `hop_eq`: a hop changes the version at most.  The run lemma
(`travel_eq`) is the induction over hops; the version that is left is that of the last
hop that sets one (`versionAfter`).
-/
import BreakCheck.Message
import BreakCheck.Proofs.ConfigFile.Shown

namespace BreakCheck

/-- A way to another representation of a configuration and back. -/
inductive Hop
  /-- To the message and back. -/
  | byMessage
  /-- To the section of a version and back. -/
  | bySection (version : Version)
  /-- To another version. -/
  | toVersion (target : Version)

namespace Hop

/-- The version that a hop sets, if it sets any. -/
def version? : Hop → Option Version
  | byMessage => none
  | bySection version => some version
  | toVersion target => some target

/-- The version after some hops: that of the last one that sets any. -/
def versionAfter (hops : List Hop) (version : String) : String :=
  ((hops.filterMap version?).getLast?.map Version.name).getD version

theorem versionAfter_cons (first : Hop) (rest : List Hop) (version : String) :
    versionAfter (first :: rest) version
      = versionAfter rest ((first.version?.map Version.name).getD version) := by
  unfold versionAfter
  rw [List.filterMap_cons]
  cases first.version? with
  | none => rfl
  | some version' =>
    show ((version' :: rest.filterMap version?).getLast?.map Version.name).getD version = _
    rw [List.getLast?_cons]
    cases (rest.filterMap version?).getLast? with
    | none => rfl
    | some last => rfl

end Hop

namespace Config

/-- A configuration after one hop. -/
def hop (config : Config) : Hop → Logged Config
  | .byMessage => ofMessage config.toMessage
  | .bySection version => ofSection version (config.toSection version)
  | .toVersion target => config.moveTo target

/-- A configuration after some hops, one after the other. -/
def travel (config : Config) (hops : List Hop) : Logged Config := hops.foldlM hop config

/-! ### One hop -/

theorem ofMessage_toMessage (config : Config) : ofMessage config.toMessage = pure config := by
  show (Exemptions.ofList config.exemptions.toList >>= fun exemptions => _) = _
  rw [Exemptions.ofList_toList, pure_bind]
  rfl

/-- The section of one version, read as that of another one. -/
theorem ofSection_toSection (config : Config) (source target : Version) :
    ofSection target (config.toSection source) = pure { config with version := target.name } := by
  rw [ofSection_eq, toSection_eq]
  show _ <$> Exemptions.ofList config.exemptions.toList = _
  rw [Exemptions.ofList_toList, map_pure]

/-- Every version knows all fields, so none is dropped. -/
theorem forM_knownFields (source target : Version) :
    (source.knownFields.forM fun field =>
      if target.knows field then pure ()
      else Logged.note (.droppedField field source target)) = pure () := by
  induction source.knownFields with
  | nil => rfl
  | cons field rest ih =>
    show ((if target.knows field then pure () else _) >>= fun _ => _) = _
    rw [if_pos (Version.knows_eq_true target field), pure_bind]
    exact ih

theorem moveTo_eq (config : Config) (target : Version) :
    config.moveTo target = pure { config with version := target.name } := by
  rw [moveTo, forM_knownFields, pure_bind, ofSection_toSection]

/-- **A hop changes the version at most**, and issues no notice. -/
theorem hop_eq (config : Config) (which : Hop) :
    config.hop which
      = pure { config with version := (which.version?.map Version.name).getD config.version } := by
  cases which with
  | byMessage => exact config.ofMessage_toMessage
  | bySection version => exact config.ofSection_toSection version version
  | toVersion target => exact config.moveTo_eq target

/-! ### Any number of hops -/

/-- **Hops change the version at most**, to that of the last one that sets any. -/
theorem travel_eq (config : Config) (hops : List Hop) :
    config.travel hops
      = pure { config with version := Hop.versionAfter hops config.version } := by
  induction hops generalizing config with
  | nil => rfl
  | cons first rest ih =>
    show (config.hop first >>= fun next => next.travel rest) = _
    rw [hop_eq, pure_bind, ih, Hop.versionAfter_cons]

/-- **Nothing gets lost on the way.**  After any hops a configuration is what it was but
for its version, and no notice has been issued.  So a move undoes the move before it,
and a configuration comes home by moving to the version that it had, if that is a known
one, and by no other move. -/
theorem travel_lossless (config : Config) :
    (∀ hops, config.travel hops
        = pure { config with version := Hop.versionAfter hops config.version })
      ∧ (∀ version target, (config.moveTo version >>= fun moved => moved.moveTo target)
        = config.moveTo target)
      ∧ ∀ version home, (config.moveTo version >>= fun moved => moved.moveTo home) = pure config
        ↔ config.knownVersion? = some home := by
  have moves (version target : Version) :
      (config.moveTo version >>= fun moved => moved.moveTo target) = config.moveTo target := by
    rw [moveTo_eq, pure_bind, moveTo_eq, moveTo_eq]
  refine ⟨config.travel_eq, moves, ?_⟩
  intro version home
  rw [moves, moveTo_eq]
  rw [knownVersion?, Version.ofName?_eq_some_iff]
  constructor
  · intro same
    exact congrArg (fun result => Config.version (Logged.value result)) same
  · intro named
    rw [named]

end Config

end BreakCheck
