/-!
Sets of characters as lists of spans of code points.
-/

namespace BoxWarden.Text

/-- The code points from the first to the second, both included. -/
abbrev Span := Nat × Nat

/-- A character that lies in one of the spans. -/
def covers (spans : List Span) (c : Char) : Bool :=
  spans.any fun s => s.1 ≤ c.toNat && c.toNat ≤ s.2

theorem covers_eq_true_iff {spans : List Span} {c : Char} :
    covers spans c = true ↔ ∃ s ∈ spans, s.1 ≤ c.toNat ∧ c.toNat ≤ s.2 := by
  simp [covers]

end BoxWarden.Text
