import BoxWarden.Summary

/-!
Text with colours. A tag stands in square brackets; in text that is not meant as markup every opening
bracket gets a backslash.
-/

namespace BoxWarden

namespace Markup

/-- The colours of active sections, which take turns. -/
def colours : List String := ["#F472B6", "#FBBF24", "#34D399", "#A78BFA"]

/-- The colour of inactive sections. -/
def inactiveColour : String := "#6B7280"

/-- Text that is not meant as markup. -/
def literal (s : String) : String := Text.substitute '[' "\\[" s

/-- A line in a colour. -/
def coloured (colour line : String) : String := "[" ++ colour ++ "]" ++ line ++ "[/]"

/-- The lines of the sections; `turn` active sections came before. -/
def sectionLines (turn : Nat) : List Section → List String
  | [] => []
  | s :: rest =>
    let colour :=
      if s.active then colours.getD (turn % colours.length) inactiveColour else inactiveColour
    coloured colour s.headingLine
      :: s.items.map (fun item => coloured colour (itemLine (literal item)))
      ++ sectionLines (if s.active then turn + 1 else turn) rest

end Markup

/-- The summary with colours. -/
def Compiled.colouredSummary (c : Compiled) : String :=
  "\n".intercalate (Markup.sectionLines 0 c.sections)

/-- A summary with the command below it. -/
def preview (command : List String) (summary : String) : String :=
  summary ++ "\n\n[bold]Command:[/bold]\n[dim]" ++ Markup.literal (Shell.join command) ++ "[/dim]"

end BoxWarden
