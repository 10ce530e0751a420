import BoxWarden.Session

/-!
What the program prints: status lines, boxes around errors, and the header above a command. Colours
are used only on a terminal.
-/

namespace BoxWarden.Terminal

open Session

/-- The importance of a status line. -/
inductive Severity
  | info
  | warn
  | error
deriving DecidableEq, Repr

def Severity.tag : Severity → String
  | info => "[INFO]"
  | warn => "[WARN]"
  | error => "[ERROR]"

/-- The codes that switch a terminal to a colour, and back. -/
def red : String := "\x1b[0;31m"
def green : String := "\x1b[0;32m"
def yellow : String := "\x1b[1;33m"
def plain : String := "\x1b[0m"

def Severity.colour : Severity → String
  | info => green
  | warn => yellow
  | error => red

/-- The stream of a status line for which none is named. -/
def Severity.stream : Severity → Stream
  | info => .out
  | warn => .err
  | error => .err

/-- Text in a colour, if the stream is a terminal. -/
def paint (terminal : Bool) (colour text : String) : String :=
  if terminal then colour ++ text ++ plain else text

/-- Prints a status line. -/
def sayTo (stream : Stream) (s : Severity) (message : String) : Session Unit := do
  let w ← get
  print stream (paint (w.isTerminal stream) s.colour s.tag ++ " " ++ message ++ "\n")

/-- Prints a status line to its usual stream. -/
def say (s : Severity) (message : String) : Session Unit := sayTo s.stream s message

/-- The line around boxes and headers. -/
def rule : String := String.ofList (List.replicate 60 '=')

/-- The text of an error box. -/
def errorBox (terminal : Bool) (title : String) (lines : List String) : String :=
  String.join ((rule :: paint terminal red ("Error: " ++ title) :: "" :: lines ++ [rule]).map
    (· ++ "\n"))

/-- Prints an error box. -/
def printErrorBox (title : String) (lines : List String) : Session Unit := do
  let w ← get
  print .err (errorBox w.errIsTerminal title lines)

/-- The text above a command that is about to run, or would be. -/
def header (command : List String) (summary : String) (dryRun : Bool) : String :=
  rule ++ "\n" ++ (if dryRun then "Would execute:" else "Executing:") ++ "\n"
    ++ Shell.join command ++ "\n" ++ (if summary = "" then "" else "\n" ++ summary ++ "\n")
    ++ rule ++ "\n\n"

/-- Prints the text above a command. -/
def printHeader (command : List String) (summary : String) (dryRun : Bool) : Session Unit :=
  print .out (header command summary dryRun)

end BoxWarden.Terminal
