/-
BreakCheck/Complaint.lean

What a reader of typed values says when a document holds something else.

Documents in both text formats are met by the same complaints.  The formats
differ in two words only, the name of a null and the layout of a number; they
are collected in a `Dialect`.
-/
import BreakCheck.IgnoreOnly
import BreakCheck.Numeral.Layout
import BreakCheck.Text.Quoted

namespace BreakCheck

/-- What stands where something else was wanted. -/
inductive Found
  | unit
  | flag (value : Bool)
  | integer (value : Int)
  /-- An integer beyond 64 bits; the flag tells whether its type has negative numbers. -/
  | wideInteger (value : Int) (signed : Bool)
  | number (value : Binary)
  | text (value : String)
  | bytes
  | optional
  | wrapped
  | sequence
  | map
  | tagged

/-- The words in which a text format speaks of its values. -/
structure Dialect where
  /-- The name of the value that says nothing. -/
  unit : String
  /-- How numbers with a fraction are set out. -/
  layout : Layout

/-- The name of what was found. -/
def Found.describe (dialect : Dialect) : Found → String
  | unit => dialect.unit
  | flag value => "boolean `" ++ (if value then "true" else "false") ++ "`"
  | integer value => "integer `" ++ toString value ++ "`"
  | wideInteger value signed =>
    "integer `" ++ toString value ++ (if signed then "` as i128" else "` as u128")
  | number value => "floating point `" ++ value.text dialect.layout ++ "`"
  | text value => "string " ++ quoted value
  | bytes => "byte array"
  | optional => "Option value"
  | wrapped => "newtype struct"
  | sequence => "sequence"
  | map => "map"
  | tagged => "enum"

/-- What is wrong with the data of a document. -/
inductive Complaint
  /-- A value of another type than wanted. -/
  | wrongType (found : Found) (wanted : String)
  /-- A text that does not spell what its tag says. -/
  | wrongValue (text : String) (wanted : String)
  /-- A field that has been read already. -/
  | duplicateField (key : String)
  /-- A name that is none of the choices. -/
  | unknownChoice (name : String) (choices : List String)
  /-- A value of the right type that breaks a rule of the schema. -/
  | schema (error : SchemaError)

/-- The text of a complaint. -/
def Complaint.message (dialect : Dialect) : Complaint → String
  | wrongType found wanted =>
    "invalid type: " ++ found.describe dialect ++ ", expected " ++ wanted
  | wrongValue text wanted => "invalid value: string " ++ quoted text ++ ", expected " ++ wanted
  | duplicateField key => "duplicate field `" ++ key ++ "`"
  | unknownChoice name choices =>
    "unknown variant `" ++ name ++ "`, expected "
      ++ " or ".intercalate (choices.map fun choice => "`" ++ choice ++ "`")
  | schema error => error.message

end BreakCheck
