import BoxWarden.Text.Line

/-!
Cutting a text at a separator: once, or at every place where it stands.
-/

namespace BoxWarden.Text

/-- The parts before and after the first separator. -/
def cut? (sep : Char) : List Char → Option (List Char × List Char)
  | [] => none
  | c :: r => if c = sep then some ([], r) else (cut? sep r).map fun p => (c :: p.1, p.2)

/-- Where there is a cut, the parts and the separator make up the text, and the first part is free
of it. -/
theorem eq_of_cut? {sep : Char} {s a b : List Char} (h : cut? sep s = some (a, b)) :
    s = a ++ sep :: b ∧ sep ∉ a := by
  induction s generalizing a with
  | nil => simp [cut?] at h
  | cons c r ih =>
    by_cases hc : c = sep
    · simp only [cut?, hc, if_true, Option.some.injEq, Prod.mk.injEq] at h
      obtain ⟨rfl, rfl⟩ := h
      simp [hc]
    · simp only [cut?, hc, if_false, Option.map_eq_some_iff, Prod.mk.injEq] at h
      obtain ⟨⟨p, q⟩, hp, rfl, rfl⟩ := h
      have := ih hp
      simp [this.1, this.2, Ne.symm hc]

theorem cut?_append {sep : Char} {a : List Char} (h : sep ∉ a) (b : List Char) :
    cut? sep (a ++ sep :: b) = some (a, b) := by
  induction a with
  | nil => simp [cut?]
  | cons c r ih =>
    simp only [List.mem_cons, not_or] at h
    simp [cut?, Ne.symm h.1, ih h.2]

/-- The parts between the separators: one more than there are separators. -/
def pieces (sep : Char) : List Char → List (List Char)
  | [] => [[]]
  | c :: r => if c = sep then [] :: pieces sep r else onFirst c (pieces sep r)

@[simp] theorem pieces_nil (sep : Char) : pieces sep [] = [[]] := rfl

/-- Nothing stands in a piece that does not stand in the text. -/
theorem subset_of_mem_pieces {sep : Char} {s p : List Char} (h : p ∈ pieces sep s) : p ⊆ s := by
  induction s generalizing p with
  | nil => simp_all
  | cons c r ih =>
    by_cases hc : c = sep
    · simp only [pieces, hc, if_true, List.mem_cons] at h
      obtain rfl | h := h
      · exact List.nil_subset _
      · exact List.subset_cons_of_subset _ (ih h)
    · simp only [pieces, hc, if_false] at h
      cases hp : pieces sep r with
      | nil => simp_all [onFirst]
      | cons l ls =>
        rw [hp] at h ih
        simp only [onFirst, List.mem_cons] at h
        obtain rfl | h := h
        · exact List.cons_subset_cons _ (ih List.mem_cons_self)
        · exact List.subset_cons_of_subset _ (ih (List.mem_cons_of_mem _ h))

/-- No separator is left in a piece. -/
theorem not_mem_of_mem_pieces {sep : Char} {s p : List Char} (h : p ∈ pieces sep s) : sep ∉ p := by
  induction s generalizing p with
  | nil => simp_all
  | cons c r ih =>
    by_cases hc : c = sep
    · simp only [pieces, hc, if_true, List.mem_cons] at h
      obtain rfl | h := h
      · exact List.not_mem_nil
      · exact ih h
    · simp only [pieces, hc, if_false] at h
      cases hp : pieces sep r with
      | nil => simp_all [onFirst, Ne.symm hc]
      | cons l ls =>
        rw [hp] at h ih
        simp only [onFirst, List.mem_cons] at h
        obtain rfl | h := h
        · simp [Ne.symm hc, ih List.mem_cons_self]
        · exact ih (List.mem_cons_of_mem _ h)

theorem pieces_of_not_mem {sep : Char} {s : List Char} (h : sep ∉ s) : pieces sep s = [s] := by
  induction s with
  | nil => rfl
  | cons c r ih =>
    simp only [List.mem_cons, not_or] at h
    simp [pieces, Ne.symm h.1, ih h.2, onFirst]

theorem pieces_append {sep : Char} {a : List Char} (h : sep ∉ a) (b : List Char) :
    pieces sep (a ++ sep :: b) = a :: pieces sep b := by
  induction a with
  | nil => simp [pieces]
  | cons c r ih =>
    simp only [List.mem_cons, not_or] at h
    simp [pieces, Ne.symm h.1, ih h.2, onFirst]

/-- Parts without separators are found again. -/
theorem pieces_intercalate {sep : Char} {ls : List (List Char)} (hne : ls ≠ [])
    (h : ∀ l ∈ ls, sep ∉ l) : pieces sep ([sep].intercalate ls) = ls := by
  induction ls with
  | nil => exact absurd rfl hne
  | cons l ls ih =>
    obtain ⟨hl, hls⟩ := List.forall_mem_cons.mp h
    cases ls with
    | nil => rw [List.intercalate_singleton, pieces_of_not_mem hl]
    | cons k ls =>
      rw [List.intercalate_cons_cons, List.append_assoc, List.singleton_append, pieces_append hl,
        ih (by simp) hls]

/-- A text with `t` in the place of each `c`. -/
def substitute (c : Char) (t : String) (s : String) : String :=
  String.ofList (s.toList.flatMap fun d => if d = c then t.toList else [d])

example : pieces '|' "a||b".toList = ["a".toList, [], "b".toList] := by decide

end BoxWarden.Text
