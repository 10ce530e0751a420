import BoxWarden.Text.Blank
import BoxWarden.Text.Case
import BoxWarden.Text.Cut

/-!
The table of containers: a row for each, its cells between bars.
-/

namespace BoxWarden

/-- A container in the table. -/
structure ListedContainer where
  id : String
  name : String
  status : String
  image : String
deriving DecidableEq, Repr

namespace Listing

/-- The cells of a line, without the white space around them. -/
def cells (line : List Char) : List String :=
  (Text.pieces '|' line).map fun cell => Text.trim (String.ofList cell)

/-- The container that a line shows. A line without a bar, with fewer than four cells or with the
heading `ID` shows none; cells after the fourth do not count. -/
def row? (line : List Char) : Option ListedContainer :=
  if '|' ∉ line then none
  else match cells line with
    | id :: name :: status :: image :: _ =>
      if Text.upper id = "ID" then none else some ⟨id, name, status, image⟩
    | _ => none

/-- The containers of a table. -/
def parse (table : String) : List ListedContainer := (Text.splitLines table.toList).filterMap row?

end Listing

end BoxWarden
