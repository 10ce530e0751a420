import BoxWarden.Text.CaseTable
import BoxWarden.Text.Sigma

/-!
Lower and upper case of whole texts, over all of Unicode. All characters but one have the same image
wherever they stand: the lower case of a capital sigma is another one at the end of a word.
-/

namespace BoxWarden.Text

/-- The image of a character under one case: a run of the table, a longer image, or itself. -/
def caseImage (runs : List CaseRun) (long : List (Nat × List Nat)) (c : Char) : List Char :=
  match runs.findSome? (·.image? c.toNat) with
  | some n => [Char.ofNat n]
  | none => match long.lookup c.toNat with
    | some ns => ns.map Char.ofNat
    | none => [c]

/-- Whether the first character that is not passed over has a case. -/
def startsCased (s : List Char) : Bool :=
  (s.find? fun c => !covers ignorableSpans c).any (covers casedSpans)

/-- The lower case of a capital sigma, with the text before it, from its end on, and the text after
it: the final sigma behind the last letter of a word. -/
def lowerSigma (before after : List Char) : Char :=
  if startsCased before && !startsCased after then 'ς' else 'σ'

/-- The lower case of a text behind another one, which is given from its end on. -/
def lowerFrom (before : List Char) : List Char → List Char
  | [] => []
  | c :: after =>
    (if c = 'Σ' then [lowerSigma before after] else caseImage lowerRuns lowerLong c)
      ++ lowerFrom (c :: before) after

/-- Text in lower case. -/
def lower (s : String) : String := String.ofList (lowerFrom [] s.toList)

/-- Text in upper case. -/
def upper (s : String) : String := String.ofList (s.toList.flatMap (caseImage upperRuns upperLong))

example : lower "EnABLE É" = "enable é" := by decide
set_option maxRecDepth 2000 in
example : lower "ΟΣΟΣ Σ" = "οσος σ" := by decide
example : upper "ıd ß" = "ID SS" := by decide

end BoxWarden.Text
