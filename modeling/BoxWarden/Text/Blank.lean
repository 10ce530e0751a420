import BoxWarden.Text.Span

/-!
White space and trimming. White space is the set of the Unicode standard together with the four
information separators below the space.
-/

namespace BoxWarden.Text

/-- The spans of white space. -/
def blankSpans : List Span := [
  (0x9, 0xD), (0x1C, 0x20), (0x85, 0x85), (0xA0, 0xA0), (0x1680, 0x1680), (0x2000, 0x200A),
  (0x2028, 0x2029), (0x202F, 0x202F), (0x205F, 0x205F), (0x3000, 0x3000)]

/-- White space. -/
def isBlank (c : Char) : Bool := covers blankSpans c

/-- A list without its longest final part that satisfies `p`. -/
def dropEndWhile (p : α → Bool) (l : List α) : List α := (l.reverse.dropWhile p).reverse

@[simp] theorem dropEndWhile_nil (p : α → Bool) : dropEndWhile p [] = [] := rfl

/-- What is dropped stands at the end. -/
theorem dropEndWhile_append_takeWhile (p : α → Bool) (l : List α) :
    dropEndWhile p l ++ (l.reverse.takeWhile p).reverse = l := by
  rw [dropEndWhile, ← List.reverse_append, List.takeWhile_append_dropWhile, List.reverse_reverse]

/-- Text without the white space at either end. -/
def trim (s : String) : String := String.ofList (dropEndWhile isBlank (s.toList.dropWhile isBlank))

example : trim "\t a b\u3000\n" = "a b" := by decide

end BoxWarden.Text
