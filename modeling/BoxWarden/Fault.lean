import BoxWarden.Disk.Access
import BoxWarden.Grant.Kind
import BoxWarden.Shell
import BoxWarden.Text.Quoted

/-!
Everything that can go wrong, by cause, and what a reader is told about it.
-/

namespace BoxWarden

/-- How a command failed: it ended with a code other than zero, or could not be started. -/
structure ToolFailure where
  command : List String
  code : Option Int
  detail : String
deriving DecidableEq, Repr

/-- The text for a reader; it names the program and what it was to do. -/
def ToolFailure.message (f : ToolFailure) : String :=
  let status := match f.code with
    | some c => "exit code " ++ toString c
    | none => "could not be started"
  let detail := if f.detail = "" then "" else ": " ++ f.detail
  Shell.join (f.command.take 2) ++ " failed (" ++ status ++ ")" ++ detail

/-- A cause of failure. -/
inductive Fault
  /-- A kind that is not known. -/
  | unknownKind (name : String)
  /-- A kind that was left out of a command line. -/
  | noKind
  /-- A container name that cannot be a key. -/
  | badName (name : String)
  /-- A value that would break a line. -/
  | lineBreak (value : String)
  /-- A value that was left out of a command line. -/
  | noValue
  /-- A line without two colons. -/
  | badLine (body : String)
  | unknownNamespace (name : String)
  | tool (f : ToolFailure)
  /-- A missing program whose command has no words to name it by. -/
  | noProgram
  | disk (e : DiskError)
  | home (e : Path.HomeError)
  | split (e : Shell.SplitError)
  /-- A view could not be renewed in the background. -/
  | background (cause : Fault)
deriving DecidableEq, Repr

namespace Fault

/-- The refusal of a kind, which is shown as given. -/
def unknownKindMessage (shown : String) : String :=
  "Invalid permission kind: " ++ shown ++ " (expected one of: " ++ ", ".intercalate Kind.names
    ++ ")"

/-- The text for a reader, where there is one. -/
def message : Fault → String
  | unknownKind name => unknownKindMessage (Text.quoted name)
  | noKind => unknownKindMessage "[]"
  | badName name =>
    "Invalid container name: " ++ Text.quoted name ++ " (letters, digits, '_', '.' and '-' only; "
      ++ "must start with a letter or digit)"
  | lineBreak value => "Permission value cannot contain line breaks: " ++ Text.quoted value
  | badLine body => "Expected container:kind:value, got " ++ Text.quoted body
  | unknownNamespace name => Text.quoted name
  | tool f => f.message
  | disk .nulInPath => "embedded null byte"
  | home .unknown => "Could not determine home directory."
  | home .nul => "embedded null byte"
  | split e => e.message
  | disk _ | noValue | noProgram | background _ => ""

/-- A grant that is refused as such: nothing has been changed, and the reader is told why. -/
def isRefusal : Fault → Bool
  | unknownKind _ | noKind | badName _ | lineBreak _ => true
  | _ => false

end Fault

end BoxWarden
