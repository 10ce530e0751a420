import BoxWarden.Proofs.Text.Lines
import BoxWarden.Store

/-!
Grants on lines. Whatever is granted can be read back from its line, with any line ending behind
it; and a value that fits on a line holds no line boundary.
-/

namespace BoxWarden

namespace Text

theorem dropEndWhile_append_of_all (p : Char → Bool) (l : List Char) {e : List Char}
    (he : ∀ c ∈ e, p c = true) : dropEndWhile p (l ++ e) = dropEndWhile p l := by
  rw [dropEndWhile, dropEndWhile, List.reverse_append,
    List.dropWhile_append_of_pos (by simpa using he)]

theorem dropEndWhile_of_none {p : Char → Bool} {l : List Char} (h : ∀ c ∈ l, p c = false) :
    dropEndWhile p l = l := by
  cases hr : l.reverse with
  | nil => simp_all
  | cons c r =>
    have hc : p c = false := h c (by rw [← List.mem_reverse, hr]; simp)
    rw [dropEndWhile, hr, List.dropWhile_cons_of_neg (by simp [hc]), ← hr, List.reverse_reverse]

/-- The lines between boundaries hold no boundary. -/
theorem isBoundary_eq_false_of_mem_splitLines {s l : List Char} (hl : l ∈ splitLines s) :
    ∀ c ∈ l, isBoundary c = false := by
  fun_induction splitLines s generalizing l with
  | case1 => simp at hl
  | case2 r ih =>
    rcases List.mem_cons.mp hl with rfl | hl
    · simp
    · exact ih hl
  | case3 c r hcr hc ih =>
    rcases List.mem_cons.mp hl with rfl | hl
    · simp
    · exact ih hl
  | case4 c r hcr hc ih =>
    cases hs : splitLines r with
    | nil =>
      rw [hs] at hl
      simp_all [onFirst]
    | cons k ks =>
      rw [hs] at hl ih
      rcases List.mem_cons.mp hl with rfl | hl
      · intro d hd
        rcases List.mem_cons.mp hd with rfl | hd
        · simpa using hc
        · exact ih List.mem_cons_self d hd
      · exact ih (List.mem_cons_of_mem _ hl)

theorem splitLines_of_none {l : List Char} (hne : l ≠ []) (h : ∀ c ∈ l, isBoundary c = false) :
    splitLines l = [l] := by
  fun_induction splitLines l with
  | case1 => exact absurd rfl hne
  | case2 r ih =>
    have hr : isBoundary '\r' = false := h '\r' (by simp)
    exact absurd hr (by decide)
  | case3 c r hcr hc ih =>
    have hn : isBoundary c = false := h c (by simp)
    rw [hn] at hc
    exact absurd hc (by decide)
  | case4 c r hcr hc ih =>
    cases r with
    | nil => rfl
    | cons d r =>
      rw [ih (by simp) fun x hx => h x (List.mem_cons_of_mem _ hx)]
      rfl

theorem eq_nil_of_splitLines {s : List Char} : splitLines s = [] → s = [] := by
  fun_cases splitLines s with
  | case1 => simp
  | case2 r => simp
  | case3 c r hcr hc => simp
  | case4 c r hcr hc => cases splitLines r <;> simp [onFirst]

theorem dropEndWhile_cons_of_neg {p : Char → Bool} {c : Char} (h : p c = false) (l : List Char) :
    dropEndWhile p (c :: l) = c :: dropEndWhile p l := by
  have hc : [c].dropWhile p = [c] := List.dropWhile_cons_of_neg (by simp [h])
  rw [dropEndWhile, dropEndWhile, List.reverse_cons, List.dropWhile_append, hc]
  cases l.reverse.dropWhile p <;> simp

/-- What may not be dropped stands at the start before and after. -/
theorem head?_dropEndWhile_eq_some_iff {p : Char → Bool} {c : Char} (h : p c = false)
    {l : List Char} : (dropEndWhile p l).head? = some c ↔ l.head? = some c := by
  constructor
  · intro hhead
    rw [← dropEndWhile_append_takeWhile p l, List.head?_append, hhead, Option.some_or]
  · intro hhead
    obtain ⟨r, rfl⟩ := List.head?_eq_some_iff.mp hhead
    rw [dropEndWhile_cons_of_neg h, List.head?_cons]

end Text

/-- A value fits on a line exactly if it holds no line boundary. -/
theorem Store.fitsLine_eq_true_iff (v : String) :
    Store.fitsLine v = true ↔ ∀ c ∈ v.toList, Text.isBoundary c = false := by
  simp only [Store.fitsLine, decide_eq_true_eq]
  constructor
  · rintro (h | h)
    · simp [Text.eq_nil_of_splitLines h]
    · exact Text.isBoundary_eq_false_of_mem_splitLines (by rw [h]; simp)
  · intro h
    by_cases hv : v.toList = []
    · exact .inl (by rw [hv]; rfl)
    · exact .inr (Text.splitLines_of_none hv h)

/-- A character of a line ending. -/
def isEnding (c : Char) : Bool := c == '\r' || c == '\n'

theorem isBoundary_of_isEnding {c : Char} (h : isEnding c = true) : Text.isBoundary c = true := by
  simp only [isEnding, Bool.or_eq_true, beq_iff_eq] at h
  rcases h with rfl | rfl <;> decide

theorem Kind.parse_name (k : Kind) : parse k.name = .ok k := by rw [parse, ofName?_name]

namespace Record

theorem body_eq (l : String) :
    body l = (Text.dropEndWhile isEnding l.toList).dropWhile Text.isBlank := rfl

/-- A comment says nothing. -/
theorem parse_comment {l : String} (h : l.toList.head? = some '#') : parse l = .ok none := by
  obtain ⟨s, hs⟩ : ∃ s, l.toList = '#' :: s := by
    cases hl : l.toList with
    | nil => simp [hl] at h
    | cons c s => exact ⟨s, by simpa [hl] using h⟩
  have hbody : body l = '#' :: Text.dropEndWhile isEnding s := by
    rw [body_eq, hs, Text.dropEndWhile_cons_of_neg (by decide),
      List.dropWhile_cons_of_neg (by decide)]
  rw [parse, hbody, if_pos (.inr rfl)]

/-- Line endings say nothing. -/
theorem parse_append_ending (l : String) {e : String} (he : e.toList.all isEnding = true) :
    parse (l ++ e) = parse l := by
  rw [List.all_eq_true] at he
  have hbody : body (l ++ e) = body l := by
    rw [body_eq, body_eq, String.toList_append, Text.dropEndWhile_append_of_all _ _ he]
  rw [parse, hbody]
  rfl

theorem colon_not_mem_name (k : Kind) : ':' ∉ k.name.toList := by
  cases k with
  | unshare n => cases n <;> decide
  | _ => decide

theorem isEnding_eq_false_of_mem_name (k : Kind) : ∀ c ∈ k.name.toList, isEnding c = false := by
  have hall : (k.name.toList.all fun c => !isEnding c) = true := by
    cases k with
    | unshare n => cases n <;> decide
    | _ => decide
  intro c hc
  simpa using List.all_eq_true.mp hall c hc

/-- A container name starts with a letter or digit, and all its characters are plain. -/
theorem exists_cons_of_isContainerName {s : String} (h : isContainerName s = true) :
    ∃ c r, s.toList = c :: r ∧ c.isAlphanum = true ∧ ∀ d ∈ c :: r, isNameChar d = true := by
  unfold isContainerName at h
  split at h
  · simp at h
  · next c r hs =>
    simp only [Bool.and_eq_true, List.all_eq_true] at h
    refine ⟨c, r, hs, h.1, ?_⟩
    intro d hd
    rcases List.mem_cons.mp hd with rfl | hd
    · simp [isNameChar, h.1]
    · exact h.2 d hd

theorem toNat_of_isAlphanum {c : Char} (h : c.isAlphanum = true) :
    48 ≤ c.toNat ∧ c.toNat ≤ 122 ∧ c.toNat ≠ 58 := by
  have hranges : ((decide (c.val ≥ 65 ∧ c.val ≤ 90) || (decide (c.val ≥ 97) && decide (c.val ≤ 122)))
      || (decide (c.val ≥ 48) && decide (c.val ≤ 57))) = true := h
  simp only [Bool.or_eq_true, Bool.and_eq_true, decide_eq_true_eq, ge_iff_le,
    UInt32.le_iff_toNat_le, UInt32.reduceToNat] at hranges
  simp only [Char.toNat]
  omega

theorem isBlank_eq_false_of_isAlphanum {c : Char} (h : c.isAlphanum = true) :
    Text.isBlank c = false := by
  have hc := toNat_of_isAlphanum h
  rw [Bool.eq_false_iff]
  intro hb
  obtain ⟨s, hs, hle⟩ := Text.covers_eq_true_iff.mp hb
  simp only [Text.blankSpans, List.mem_cons, List.not_mem_nil, or_false] at hs
  rcases hs with rfl | rfl | rfl | rfl | rfl | rfl | rfl | rfl | rfl | rfl <;>
    simp only at hle <;> omega

theorem ne_of_isNameChar {c d : Char} (h : isNameChar c = true) (hd : isNameChar d = false) :
    c ≠ d := by
  rintro rfl
  simp [h] at hd

theorem isEnding_eq_false_of_isNameChar {c : Char} (h : isNameChar c = true) :
    isEnding c = false := by
  have hr : c ≠ '\r' := ne_of_isNameChar h (by decide)
  have hn : c ≠ '\n' := ne_of_isNameChar h (by decide)
  simp [isEnding, hr, hn]

theorem toList_line (r : Record) :
    r.line.toList = r.container.toList ++ ':' :: (r.kind.name.toList ++ ':' :: r.value.toList) := by
  simp [line]

theorem isEnding_eq_false_of_mem_line {r : Record} (hname : isContainerName r.container = true)
    (hv : ∀ c ∈ r.value.toList, isEnding c = false) : ∀ c ∈ r.line.toList, isEnding c = false := by
  obtain ⟨c, s, hs, hc, hall⟩ := exists_cons_of_isContainerName hname
  intro d hd
  rw [toList_line] at hd
  simp only [List.mem_append, List.mem_cons] at hd
  rcases hd with hd | rfl | hd | rfl | hd
  · rw [hs] at hd
    exact isEnding_eq_false_of_isNameChar (hall d hd)
  · decide
  · exact isEnding_eq_false_of_mem_name r.kind d hd
  · decide
  · exact hv d hd

/-- A container, a kind and a value that are put on a line with colons are found there again. -/
theorem parse_line {r : Record} (hname : isContainerName r.container = true)
    (hv : ∀ c ∈ r.value.toList, isEnding c = false) : parse r.line = .ok (some r) := by
  obtain ⟨c, s, hs, hc, hall⟩ := exists_cons_of_isContainerName hname
  have hcolon : ':' ∉ r.container.toList := by
    intro h
    rw [hs] at h
    exact ne_of_isNameChar (hall _ h) (by decide) rfl
  have hbody : body r.line = r.line.toList := by
    rw [body_eq, Text.dropEndWhile_of_none (isEnding_eq_false_of_mem_line hname hv), toList_line, hs,
      List.cons_append, List.dropWhile_cons_of_neg (by simp [isBlank_eq_false_of_isAlphanum hc])]
  have hhash : ¬(r.line.toList = [] ∨ r.line.toList.head? = some '#') := by
    rw [toList_line, hs]
    simpa using ne_of_isNameChar (hall c List.mem_cons_self) (show isNameChar '#' = false by decide)
  rw [parse, hbody, if_neg hhash, toList_line]
  simp only [Text.cut?_append hcolon, Text.cut?_append (colon_not_mem_name r.kind),
    Option.bind_eq_bind, Option.bind_some, String.ofList_toList]
  simp [Kind.parse_name, Except.map]

end Record

theorem Store.isEnding_eq_false_of_fitsLine {v : String} (hv : Store.fitsLine v = true) :
    ∀ c ∈ v.toList, isEnding c = false := by
  intro c hc
  have hb := (Store.fitsLine_eq_true_iff v).mp hv c hc
  rw [Bool.eq_false_iff]
  intro h
  rw [isBoundary_of_isEnding h] at hb
  exact absurd hb (by decide)

end BoxWarden
