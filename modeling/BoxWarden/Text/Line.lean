/-!
Two ways to cut a text into lines. `lines` cuts after each newline and loses nothing; `splitLines`
cuts at every line boundary that Unicode knows and drops the boundaries.
-/

namespace BoxWarden.Text

/-- A character at which a text breaks into lines. -/
def isBoundary (c : Char) : Bool :=
  c == '\n' || c == '\r' || c == '\x0b' || c == '\x0c' || c == '\x1c' || c == '\x1d' || c == '\x1e'
    || c == '\x85' || c == '\u2028' || c == '\u2029'

/-- Puts a character in front of the first line. -/
def onFirst (c : Char) : List (List Char) → List (List Char)
  | [] => [[c]]
  | l :: ls => (c :: l) :: ls

@[simp] theorem flatten_onFirst (c : Char) (ls : List (List Char)) :
    (onFirst c ls).flatten = c :: ls.flatten := by
  cases ls <;> simp [onFirst]

/-- The lines of a text, each but perhaps the last ended by its newline. -/
def lines : List Char → List (List Char)
  | [] => []
  | c :: r => if c = '\n' then ['\n'] :: lines r else onFirst c (lines r)

@[simp] theorem lines_nil : lines [] = [] := rfl

/-- Cutting into lines loses nothing. -/
@[simp] theorem flatten_lines (s : List Char) : (lines s).flatten = s := by
  induction s with
  | nil => rfl
  | cons c r ih => by_cases h : c = '\n' <;> simp [lines, h, ih]

/-- The lines between the line boundaries; a carriage return and a newline are one boundary. -/
def splitLines : List Char → List (List Char)
  | [] => []
  | '\r' :: '\n' :: r => [] :: splitLines r
  | c :: r => if isBoundary c then [] :: splitLines r else onFirst c (splitLines r)

/-- A boundary ends a line, together with the newline behind it if it is a carriage return. -/
theorem splitLines_cons (c : Char) (s : List Char) :
    splitLines (c :: s) =
      if isBoundary c then [] :: splitLines (if c = '\r' ∧ s.head? = some '\n' then s.tail else s)
      else onFirst c (splitLines s) := by
  rw [splitLines.eq_def]
  split
  · next h => cases h
  · next r h =>
    obtain ⟨rfl, rfl⟩ := List.cons_eq_cons.mp h
    rfl
  · next c' r hcrlf h =>
    obtain ⟨rfl, rfl⟩ := List.cons_eq_cons.mp h
    have hsingle : ¬(c = '\r' ∧ s.head? = some '\n') := by
      rintro ⟨rfl, hs⟩
      obtain ⟨r, rfl⟩ := List.head?_eq_some_iff.mp hs
      exact hcrlf r rfl rfl
    rw [if_neg hsingle]

example : lines "a\r\n\nb".toList = ["a\r\n".toList, "\n".toList, "b".toList] := by decide
example : splitLines "a\r\n\u2028b\n".toList = ["a".toList, "".toList, "b".toList] := by decide

end BoxWarden.Text
