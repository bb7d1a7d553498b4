/-
BreakCheck/Exemptions/Listing.lean

Listings of exemptions for a reader: on one line, or with every ID and every
path on a line of its own.
-/
import BreakCheck.Exemptions
import BreakCheck.Text.Quoted

namespace BreakCheck.Exemptions

/-- The paths of one ID on one line. -/
def inlinePaths (paths : List String) : String :=
  "[" ++ ", ".intercalate (paths.map quoted) ++ "]"

/-- The exemptions on one line. -/
def oneLine (table : Exemptions) : String :=
  "\x7b" ++ ", ".intercalate (table.toList.map fun entry =>
    quoted entry.id ++ ": " ++ inlinePaths entry.paths) ++ "\x7d"

/-- The paths of one ID, each on its line. -/
def indentedPaths : List String → String
  | [] => "[]"
  | paths =>
    "[\n" ++ String.join (paths.map fun path => "        " ++ quoted path ++ ",\n") ++ "    ]"

/-- The exemptions with one ID or path per line. -/
def indented (table : Exemptions) : String :=
  match table.toList with
  | [] => "\x7b\x7d"
  | entries =>
    "\x7b\n" ++ String.join (entries.map fun entry =>
      "    " ++ quoted entry.id ++ ": " ++ indentedPaths entry.paths ++ ",\n") ++ "\x7d"

end BreakCheck.Exemptions
