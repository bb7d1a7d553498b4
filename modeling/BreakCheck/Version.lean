/-
BreakCheck/Version.lean

The schema versions a configuration file may declare, and the fields of its
`breaking` section that each version knows.

Every conversion between a configuration and its written section goes through
the table `Version.knownFields`, so a version that gains or retires a field changes
in one place.  Both present versions know all five fields.
-/

namespace BreakCheck

/-! ### Fields -/

/-- A field of the `breaking` section that users write. -/
inductive Field
  | included
  | excluded
  | ignored
  | ignoredById
  | ignoreUnstable
  deriving DecidableEq

namespace Field

/-- The key that stands for the field in a written section. -/
def key : Field → String
  | included => "use"
  | excluded => "except"
  | ignored => "ignore"
  | ignoredById => "ignore_only"
  | ignoreUnstable => "ignore_unstable_packages"

/-- Every field, in the order in which a section is written. -/
def all : List Field := [included, excluded, ignored, ignoredById, ignoreUnstable]

/-- The field a key stands for. -/
def ofKey? (key : String) : Option Field := all.find? fun field => field.key == key

theorem mem_all (field : Field) : field ∈ all := by cases field <;> decide

end Field

/-! ### Versions -/

/-- A schema version of the configuration that users write. -/
inductive Version
  | v1beta1
  | v1
  deriving DecidableEq

namespace Version

/-- Every known version, oldest first. -/
def all : List Version := [v1beta1, v1]

/-- The text by which a document declares the version. -/
def name : Version → String
  | v1beta1 => "v1beta1"
  | v1 => "v1"

/-- The version a text declares; the text has to match exactly. -/
def ofName? (name : String) : Option Version := all.find? fun version => version.name == name

/-- The place of a version among all, counted from the oldest. -/
def index (version : Version) : Nat := all.idxOf version

/-- The fields of the `breaking` section that a version knows. -/
def knownFields : Version → List Field
  | v1beta1 => Field.all
  | v1 => Field.all

/-- Whether a version knows a field. -/
def knows (version : Version) (field : Field) : Bool := version.knownFields.contains field

@[simp] theorem ofName?_name (version : Version) : ofName? version.name = some version := by
  cases version <;> decide

/-- A name is the name of at most one version. -/
theorem ofName?_eq_some_iff {name : String} {version : Version} :
    ofName? name = some version ↔ version.name = name := by
  constructor
  · intro found
    simpa using List.find?_some found
  · rintro rfl
    exact ofName?_name version

/-- A name is unknown if it is the name of no version. -/
theorem ofName?_eq_none_iff {name : String} :
    ofName? name = none ↔ ∀ version : Version, version.name ≠ name := by
  rw [Option.eq_none_iff_forall_ne_some]
  exact forall_congr' fun version => not_congr ofName?_eq_some_iff

/-- Every version knows every field, so far. -/
@[simp] theorem knows_eq_true (version : Version) (field : Field) :
    version.knows field = true := by
  cases version <;> cases field <;> rfl

end Version

end BreakCheck
