import BoxWarden.Text.Printable

/-!
Texts in quotation marks, as messages show them: what cannot be shown is written as an escape, so
that a reader sees every character.
-/

namespace BoxWarden.Text

/-- A number in hexadecimal, filled up with zeros to a width. -/
def hex (width n : Nat) : List Char :=
  let ds := Nat.toDigits 16 n
  List.replicate (width - ds.length) '0' ++ ds

/-- One character of a quoted text. -/
def escape (mark : Char) (c : Char) : List Char :=
  if c = mark ∨ c = '\\' then ['\\', c]
  else if c = '\n' then ['\\', 'n']
  else if c = '\r' then ['\\', 'r']
  else if c = '\t' then ['\\', 't']
  else if isPrintable c then [c]
  else if c.toNat < 0x100 then '\\' :: 'x' :: hex 2 c.toNat
  else if c.toNat < 0x10000 then '\\' :: 'u' :: hex 4 c.toNat
  else '\\' :: 'U' :: hex 8 c.toNat

/-- Single marks, unless the text holds one and no double mark. -/
def quoteMark (s : List Char) : Char :=
  if s.contains '\'' && !s.contains '"' then '"' else '\''

/-- A text in quotation marks. -/
def quoted (s : String) : String :=
  let m := quoteMark s.toList
  String.ofList (m :: s.toList.flatMap (escape m) ++ [m])

set_option maxRecDepth 20000 in
example : quoted "it's \u200b\n" = "\"it's \\u200b\\n\"" := by decide

end BoxWarden.Text
