import BoxWarden.Fault
import BoxWarden.Text.Blank
import BoxWarden.Text.Cut

/-!
A grant as one line of text: the container, the kind and the value, with a colon between them. The
value is all that follows the second colon, so it may hold colons of its own.
-/

namespace BoxWarden

/-- A character of a container name. -/
def isNameChar (c : Char) : Bool := c.isAlphanum || c == '_' || c == '.' || c == '-'

/-- A container name: a letter or digit, then letters, digits, underscores, dots and hyphens. -/
def isContainerName (s : String) : Bool :=
  match s.toList with
  | [] => false
  | c :: r => c.isAlphanum && r.all isNameChar

/-- A container name, or the refusal of one. -/
def checkName (s : String) : Except Fault String :=
  if isContainerName s then .ok s else .error (.badName s)

/-- The kind of a name, or the refusal of the name. -/
def Kind.parse (s : String) : Except Fault Kind :=
  match Kind.ofName? s with
  | some k => .ok k
  | none => .error (.unknownKind s)

/-- One grant. -/
structure Record where
  container : String
  kind : Kind
  value : String
deriving DecidableEq, Repr

namespace Record

/-- The line of a grant, without its newline. -/
def line (r : Record) : String := r.container ++ ":" ++ r.kind.name ++ ":" ++ r.value

/-- The line without its ending and the white space in front. -/
def body (line : String) : List Char :=
  (Text.dropEndWhile (fun c => c == '\r' || c == '\n') line.toList).dropWhile Text.isBlank

/-- What a line says: nothing if it is blank or a comment, else a grant. -/
def parse (line : String) : Except Fault (Option Record) :=
  let b := body line
  if b = [] ∨ b.head? = some '#' then .ok none
  else
    let fields := do
      let (container, rest) ← Text.cut? ':' b
      let (kind, value) ← Text.cut? ':' rest
      some (String.ofList container, String.ofList kind, String.ofList value)
    match fields with
    | none => .error (.badLine (String.ofList b))
    | some (container, kind, value) =>
      (Kind.parse kind).map fun k => some ⟨container, k, value⟩

end Record

end BoxWarden
