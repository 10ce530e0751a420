/-!
Words of a shell command line: `join` writes a list of words as one text, `split` reads the words
of a text. Quoting is chosen so that `split` gives back what `join` was given.
-/

namespace BoxWarden.Shell

/-- A character that needs no quotes. -/
def isPlain (c : Char) : Bool :=
  c.isAlphanum || ['_', '@', '%', '+', '=', ':', ',', '.', '/', '-'].contains c

/-- White space between words. -/
def isSpace (c : Char) : Bool := c == ' ' || c == '\t' || c == '\r' || c == '\n'

/-- One character between single quotes. A single quote ends the quotes, stands in double quotes
and opens them again. -/
def inQuotes (c : Char) : List Char :=
  if c = '\'' then ['\'', '"', '\'', '"', '\''] else [c]

/-- One word: as it is if every character is plain, else in single quotes. -/
def quote (w : List Char) : List Char :=
  if w ≠ [] ∧ w.all isPlain then w else '\'' :: w.flatMap inQuotes ++ ['\'']

/-- The words with one space between them. -/
def joinChars : List (List Char) → List Char
  | [] => []
  | [w] => quote w
  | w :: ws => quote w ++ ' ' :: joinChars ws

/-- A list of words as one text. -/
def join (ws : List String) : String := String.ofList (joinChars (ws.map String.toList))

/-- Why a text has no words. -/
inductive SplitError
  | openQuote
  | openEscape
deriving DecidableEq, Repr

/-- The text for a reader. -/
def SplitError.message : SplitError → String
  | .openQuote => "No closing quotation"
  | .openEscape => "No escaped character"

/-- Where a reader stands: between words, or in a word it has read some of. A backslash in double
quotes escapes only itself and the double quote. -/
inductive Reading
  | between
  | plain (w : List Char)
  | single (w : List Char)
  | double (w : List Char)
  | escaped (w : List Char)
  | escapedInDouble (w : List Char)
deriving DecidableEq, Repr

/-- One character of a word outside quotes. -/
def Reading.next (w : List Char) (c : Char) : Reading :=
  if c = '\\' then .escaped w
  else if c = '\'' then .single w
  else if c = '"' then .double w
  else .plain (w ++ [c])

/-- The words of the rest of a text. -/
def read : Reading → List Char → Except SplitError (List (List Char))
  | .between, [] => .ok []
  | .plain w, [] => .ok [w]
  | .single _, [] => .error .openQuote
  | .double _, [] => .error .openQuote
  | .escaped _, [] => .error .openEscape
  | .escapedInDouble _, [] => .error .openEscape
  | .between, c :: r => if isSpace c then read .between r else read (Reading.next [] c) r
  | .plain w, c :: r =>
    if isSpace c then (read .between r).map (w :: ·) else read (Reading.next w c) r
  | .single w, c :: r => if c = '\'' then read (.plain w) r else read (.single (w ++ [c])) r
  | .double w, c :: r =>
    if c = '"' then read (.plain w) r
    else if c = '\\' then read (.escapedInDouble w) r
    else read (.double (w ++ [c])) r
  | .escaped w, c :: r => read (.plain (w ++ [c])) r
  | .escapedInDouble w, c :: r =>
    if c = '"' ∨ c = '\\' then read (.double (w ++ [c])) r
    else read (.double (w ++ ['\\', c])) r

/-- The words of a text. -/
def split (s : String) : Except SplitError (List String) :=
  (read .between s.toList).map fun ws => ws.map String.ofList

example : join ["a", "", "b c", "it's"] = "a '' 'b c' 'it'\"'\"'s'" := by decide
example : split "a\\ b \"c\\d\" ''" = .ok ["a b", "c\\d", ""] := rfl

end BoxWarden.Shell
