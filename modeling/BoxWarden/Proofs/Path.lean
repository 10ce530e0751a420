import BoxWarden.Path

/-!
Paths and their texts. Every path that a text stands for is made of parts that name something and
hold no slash; of such a path the text says all, so it is read back as the same path.
-/

namespace BoxWarden.Path

/-- A part that a path can have: it names something and holds no slash. -/
def IsPart (part : List Char) : Prop := isName part = true ∧ '/' ∉ part

instance : DecidablePred IsPart := fun part =>
  inferInstanceAs (Decidable (isName part = true ∧ '/' ∉ part))

/-- A path that some text stands for. -/
def IsProper (p : Path) : Prop := ∀ part ∈ p.parts, IsPart part.toList

theorem IsPart.ne_nil {part : List Char} (h : IsPart part) : part ≠ [] := by
  rintro rfl
  exact absurd h.1 (by decide)

theorem isProper_parse (s : String) : (parse s).IsProper := by
  intro part hpart
  obtain ⟨piece, hpiece, rfl⟩ := List.mem_map.mp hpart
  obtain ⟨hmem, hname⟩ := List.mem_filter.mp hpiece
  rw [String.toList_ofList]
  exact ⟨hname, Text.not_mem_of_mem_pieces hmem⟩

theorem IsProper.child {p : Path} (h : p.IsProper) {part : String} (hpart : IsPart part.toList) :
    (p.child part).IsProper :=
  List.forall_mem_append.mpr ⟨h, List.forall_mem_singleton.mpr hpart⟩

theorem IsProper.append {p q : Path} (hp : p.IsProper) (hq : q.IsProper) : (p ++ q).IsProper := by
  change (Path.append p q).IsProper
  unfold Path.append
  split
  · exact List.forall_mem_append.mpr ⟨hp, hq⟩
  · exact hq

/-- Parts with slashes between them start with no slash. -/
theorem takeWhile_intercalate {parts : List (List Char)} (h : ∀ part ∈ parts, IsPart part) :
    (['/'].intercalate parts).takeWhile (· == '/') = [] := by
  cases parts with
  | nil => rfl
  | cons part parts =>
    have hpart := h part List.mem_cons_self
    obtain ⟨c, r, rfl⟩ := List.exists_cons_of_ne_nil hpart.ne_nil
    have hc : c ≠ '/' := by
      rintro rfl
      exact hpart.2 List.mem_cons_self
    cases parts <;> simp [hc]

/-- Parts with slashes between them are found again. -/
theorem filter_pieces_intercalate {parts : List (List Char)} (h : ∀ part ∈ parts, IsPart part) :
    (Text.pieces '/' (['/'].intercalate parts)).filter isName = parts := by
  by_cases hne : parts = []
  · subst hne
    rfl
  · rw [Text.pieces_intercalate hne fun part hpart => (h part hpart).2, List.filter_eq_self]
    exact fun part hpart => (h part hpart).1

theorem toList_text {p : Path} (h : ¬(p.root = .here ∧ p.parts = [])) :
    p.text.toList = p.root.text.toList ++ ['/'].intercalate (p.parts.map String.toList) := by
  rw [text, if_neg h, String.toList_append, String.toList_intercalate]
  rfl

/-- The slashes of a root are counted, and leave no part behind. -/
theorem slashes_of_root (root : Root) {s : List Char} (hs : s.takeWhile (· == '/') = []) :
    rootOfSlashes ((root.text.toList ++ s).takeWhile (· == '/')).length = root ∧
      (Text.pieces '/' (root.text.toList ++ s)).filter isName =
        (Text.pieces '/' s).filter isName := by
  cases root <;> simp [Root.text, hs, rootOfSlashes, Text.pieces, isName]

/-- The text of a path stands for the path. -/
theorem parse_text {p : Path} (h : p.IsProper) : parse p.text = p := by
  obtain ⟨root, parts⟩ := p
  by_cases hempty : root = .here ∧ parts = []
  · -- the text of the empty path is a dot, which is no part
    obtain ⟨rfl, rfl⟩ := hempty
    decide
  · have hparts : ∀ part ∈ parts.map String.toList, IsPart part := by
      intro part hpart
      obtain ⟨x, hx, rfl⟩ := List.mem_map.mp hpart
      exact h x hx
    obtain ⟨hroot, hpieces⟩ := slashes_of_root root (takeWhile_intercalate hparts)
    rw [parse, toList_text hempty, hroot, hpieces, filter_pieces_intercalate hparts, List.map_map]
    simp

/-- A single part, read as a path, goes one step down. -/
theorem join_of_isPart (p : Path) {part : String} (hpart : IsPart part.toList) :
    p.join part = p.child part := by
  have hproper : IsProper ⟨.here, [part]⟩ := List.forall_mem_singleton.mpr hpart
  have htext : (⟨.here, [part]⟩ : Path).text = part := by simp [text, Root.text]
  have hparse := parse_text hproper
  rw [htext] at hparse
  rw [join, hparse]
  rfl

theorem text_child {p : Path} (hparts : p.parts ≠ []) (part : String) :
    (p.child part).text = p.text ++ "/" ++ part := by
  have hchild : p.parts ++ [part] ≠ [] := by simp
  simp only [text, child, hparts, hchild, and_false, if_false]
  rw [String.intercalate_append_of_ne_nil hparts (by simp), String.intercalate_singleton]
  simp only [String.append_assoc]

@[simp] theorem parent_child (p : Path) (part : String) : (p.child part).parent = p := by
  simp [parent, child]

@[simp] theorem name_child (p : Path) (part : String) : (p.child part).name = part := by
  simp [name, child]

theorem rootOfSlashes_eq_here_iff {n : Nat} : rootOfSlashes n = .here ↔ n = 0 := by
  unfold rootOfSlashes
  split <;> simp_all

/-- A text stands for an absolute path exactly if it starts with a slash. -/
theorem isAbsolute_parse_iff {s : String} :
    (parse s).isAbsolute = true ↔ s.toList.head? = some '/' := by
  have hroot : (parse s).isAbsolute = true ↔ (s.toList.takeWhile (· == '/')).length ≠ 0 := by
    rw [isAbsolute, decide_eq_true_iff, parse, ne_eq, rootOfSlashes_eq_here_iff]
  rw [hroot]
  cases s.toList with
  | nil => simp
  | cons c cs => by_cases hc : c = '/' <;> simp [hc]

end BoxWarden.Path
