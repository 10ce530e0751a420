import BoxWarden.Text.Blank
import BoxWarden.Text.Cut

/-!
Paths as their named parts below a root. Parsing drops empty parts and `.`, and keeps `..`, since
what it means depends on the tree.
-/

namespace BoxWarden

/-- What a path starts from. Exactly two slashes are a root of their own; any other number of them
is one slash. -/
inductive Root
  | here
  | slash
  | doubleSlash
deriving DecidableEq, Repr

/-- The text of a root. -/
def Root.text : Root → String
  | .here => ""
  | .slash => "/"
  | .doubleSlash => "//"

/-- A path: its root and its parts in order. -/
structure Path where
  root : Root
  parts : List String
deriving DecidableEq, Repr

namespace Path

/-- The root that a number of leading slashes stands for. -/
def rootOfSlashes : Nat → Root
  | 0 => .here
  | 2 => .doubleSlash
  | _ => .slash

/-- A part that names something. -/
def isName (part : List Char) : Bool := part ≠ [] && part ≠ ['.']

/-- The path a text stands for. -/
def parse (s : String) : Path where
  root := rootOfSlashes (s.toList.takeWhile (· == '/')).length
  parts := ((Text.pieces '/' s.toList).filter isName).map String.ofList

/-- The text of a path; the empty path is `.`. -/
def text (p : Path) : String :=
  if p.root = .here ∧ p.parts = [] then "." else p.root.text ++ "/".intercalate p.parts

/-- A path below another. An absolute one replaces it. -/
def append (p q : Path) : Path :=
  if q.root = .here then { p with parts := p.parts ++ q.parts } else q

instance : Append Path := ⟨append⟩

/-- The path that a text leads to from another path. -/
def join (p : Path) (s : String) : Path := p ++ parse s

/-- A path with one more part. -/
def child (p : Path) (part : String) : Path := { p with parts := p.parts ++ [part] }

/-- The path without its last part; a root and the empty path are their own parents. -/
def parent (p : Path) : Path := { p with parts := p.parts.dropLast }

/-- The last part, or nothing. -/
def name (p : Path) : String := p.parts.getLast?.getD ""

def isAbsolute (p : Path) : Bool := p.root ≠ .here

/-- A path that no file system accepts. -/
def hasNul (p : Path) : Bool := p.parts.any fun part => part.toList.contains '\x00'

/-- What the leading `~` of a path stands for cannot be found. -/
inductive HomeError
  | unknown
  | nul
deriving DecidableEq, Repr

/-- The text of a home directory: trailing slashes do not count, and no text is the root. A home
that itself starts with `~` is none. -/
def homeText (home : String) : Except HomeError String :=
  let h := Text.dropEndWhile (· == '/') home.toList
  if h.head? = some '~' then .error .unknown
  else .ok (if h = [] then "/" else String.ofList h)

/-- The home directory of a user by name. A name with a NUL cannot be looked up. -/
def userHomeText (users : String → Option String) (name : String) : Except HomeError String :=
  if '\x00' ∈ name.toList then .error .nul
  else match users name with
    | some home => homeText home
    | none => .error .unknown

/-- The home directory that a path starts from, if its first part stands for one: `~` stands for the
own home, and `~name` for that of a user. -/
def homeOf? (home : String) (users : String → Option String) (first : String) :
    Option (Except HomeError String) :=
  if first = "~" then some (homeText home)
  else if first.toList.head? = some '~' then
    some (userHomeText users (String.ofList first.toList.tail))
  else none

/-- A path with a home in the place of the first part that stands for it. -/
def expandHome (home : String) (users : String → Option String) (p : Path) :
    Except HomeError Path :=
  match p.root, p.parts with
  | .here, first :: rest =>
    match homeOf? home users first with
    | some found => found.map fun h => parse h ++ ⟨.here, rest⟩
    | none => .ok p
  | _, _ => .ok p

example : (parse "//a/./b/../c/").text = "//a/b/../c" := by decide
example : (parse "").text = "." ∧ ((parse "/a").join "b//c").text = "/a/b/c" := by decide
example : (parse "~you/a").expandHome "/home/me" (fun _ => some "/home/you/") =
    .ok (parse "/home/you/a") := by rfl

end Path

end BoxWarden
