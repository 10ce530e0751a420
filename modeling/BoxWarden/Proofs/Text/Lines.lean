import BoxWarden.Text.Line

/-!
Texts and their lines determine each other. A list is the lines of some text exactly if every line
but the last one is ended by its newline; such lists are closed under leaving lines out, and what is
put behind an ended text has lines of its own.
-/

namespace BoxWarden.Text

/-- Each line ends with its only newline; the last one may lack it, but is not empty. -/
inductive AreLines : List (List Char) → Prop
  | nil : AreLines []
  | last {l : List Char} (hne : l ≠ []) (hl : '\n' ∉ l) : AreLines [l]
  | cons {b : List Char} {ls : List (List Char)} (hb : '\n' ∉ b) (hs : AreLines ls) :
      AreLines ((b ++ ['\n']) :: ls)

/-- A text with its last line ended. -/
def ended (s : List Char) : List Char :=
  if s = [] ∨ s.getLast? = some '\n' then s else s ++ ['\n']

theorem lines_cons_newline (r : List Char) : lines ('\n' :: r) = ['\n'] :: lines r := by
  simp [lines]

theorem lines_cons_of_ne {c : Char} (h : c ≠ '\n') (r : List Char) :
    lines (c :: r) = onFirst c (lines r) := by
  simp [lines, h]

theorem areLines_lines (s : List Char) : AreLines (lines s) := by
  induction s with
  | nil => exact .nil
  | cons c r ih =>
    by_cases hc : c = '\n'
    · rw [hc, lines_cons_newline]
      exact .cons (b := []) (by simp) ih
    · rw [lines_cons_of_ne hc]
      cases hls : lines r with
      | nil => exact .last (by simp) (by simpa using Ne.symm hc)
      | cons l ls =>
        rw [hls] at ih
        cases ih with
        | last hne hl => exact .last (by simp) (by simp [hl, Ne.symm hc])
        | cons hb hs => exact .cons (b := c :: _) (by simp [hb, Ne.symm hc]) hs

theorem lines_append_newline {b : List Char} (hb : '\n' ∉ b) (r : List Char) :
    lines (b ++ '\n' :: r) = (b ++ ['\n']) :: lines r := by
  induction b with
  | nil => exact lines_cons_newline r
  | cons c b ih =>
    simp only [List.mem_cons, not_or] at hb
    rw [List.cons_append, lines_cons_of_ne (Ne.symm hb.1), ih hb.2]
    rfl

theorem lines_of_not_mem {l : List Char} (hne : l ≠ []) (hl : '\n' ∉ l) : lines l = [l] := by
  induction l with
  | nil => exact absurd rfl hne
  | cons c l ih =>
    simp only [List.mem_cons, not_or] at hl
    rw [lines_cons_of_ne (Ne.symm hl.1)]
    cases l with
    | nil => rfl
    | cons d l => rw [ih (by simp) hl.2]; rfl

/-- Lines that are put together are found again. -/
theorem lines_flatten {ls : List (List Char)} (h : AreLines ls) : lines ls.flatten = ls := by
  induction h with
  | nil => rfl
  | last hne hl => simpa using lines_of_not_mem hne hl
  | cons hb hs ih =>
    rw [List.flatten_cons, List.append_assoc, List.singleton_append, lines_append_newline hb, ih]

theorem AreLines.filter {ls : List (List Char)} (h : AreLines ls) (p : List Char → Bool) :
    AreLines (ls.filter p) := by
  induction h with
  | nil => exact .nil
  | @last l hne hl =>
    cases hp : p l with
    | true => simpa [hp] using AreLines.last hne hl
    | false => simpa [hp] using AreLines.nil
  | @cons b ls hb hs ih =>
    cases hp : p (b ++ ['\n']) with
    | true => simpa [hp] using AreLines.cons hb ih
    | false => simpa [hp] using ih

/-- What is left of a text when lines are left out has just the other lines. -/
theorem lines_flatten_filter (p : List Char → Bool) (s : List Char) :
    lines ((lines s).filter p).flatten = (lines s).filter p :=
  lines_flatten ((areLines_lines s).filter p)

@[simp] theorem ended_nil : ended [] = [] := by simp [ended]

@[simp] theorem ended_append_newline (b : List Char) : ended (b ++ ['\n']) = b ++ ['\n'] := by
  simp [ended]

theorem ended_of_not_mem {l : List Char} (hne : l ≠ []) (hl : '\n' ∉ l) :
    ended l = l ++ ['\n'] := by
  have hlast : l.getLast? ≠ some '\n' := fun h => hl (List.mem_of_getLast? h)
  simp [ended, hne, hlast]

theorem ended_append {t : List Char} (ht : t ≠ []) (s : List Char) :
    ended (s ++ t) = s ++ ended t := by
  have hlast : (s ++ t).getLast? = t.getLast? := by
    rw [List.getLast?_append, List.getLast?_eq_some_getLast ht, Option.some_or]
  by_cases h : t.getLast? = some '\n' <;> simp [ended, ht, hlast, h]

/-- What stands behind an ended text has its own lines, and ending the text ends its last line. -/
theorem lines_ended_append_text (s r : List Char) :
    lines (ended s ++ r) = (lines s).map ended ++ lines r := by
  have key {ls : List (List Char)} (h : AreLines ls) :
      lines (ended ls.flatten ++ r) = ls.map ended ++ lines r := by
    induction h with
    | nil => rfl
    | @last l hne hl =>
      simp only [List.flatten_cons, List.flatten_nil, List.append_nil, List.map_cons, List.map_nil]
      rw [ended_of_not_mem hne hl, List.append_assoc, List.singleton_append,
        lines_append_newline hl]
      rfl
    | @cons b ls hb hs ih =>
      by_cases hf : ls.flatten = []
      · have hls : ls = [] := by simpa [hf] using (lines_flatten hs).symm
        subst hls
        simpa using lines_append_newline hb r
      · rw [List.flatten_cons, ended_append hf, List.append_assoc, List.append_assoc,
          List.singleton_append, lines_append_newline hb, ih, List.map_cons, ended_append_newline,
          List.cons_append]
  simpa using key (areLines_lines s)

/-- The last byte of a character is a newline only if the character is one. -/
theorem getLast?_utf8EncodeChar (c : Char) :
    (String.utf8EncodeChar c).getLast? = some 10 ↔ c = '\n' := by
  have hc : c = '\n' ↔ c.val.toNat = 10 := by
    rw [← Char.toNat_inj]
    rfl
  have hbyte (n : Nat) : UInt8.ofNat n = 10 ↔ n % 256 = 10 := by
    rw [← UInt8.toNat_inj, UInt8.toNat_ofNat']
    rfl
  rw [hc]
  fun_cases String.utf8EncodeChar <;>
    simp only [List.getLast?_cons_cons, List.getLast?_singleton, Option.some.injEq, hbyte] <;>
    omega

/-- The last byte of a text is a newline exactly if its last character is one. -/
theorem back?_toUTF8 (s : String) :
    s.toUTF8.data.back? = some 10 ↔ s.toList.getLast? = some '\n' := by
  have hback : s.toUTF8.data.back? = (s.toList.flatMap String.utf8EncodeChar).getLast? := by
    rw [String.toUTF8_eq_toByteArray, ← String.utf8Encode_toList, List.utf8Encode,
      List.data_toByteArray, List.back?_toArray]
  rw [hback]
  rcases List.eq_nil_or_concat s.toList with hs | ⟨r, c, hs⟩
  · simp [hs]
  · have hne : String.utf8EncodeChar c ≠ [] := String.utf8EncodeChar_ne_nil
    rw [hs, List.concat_eq_append, List.flatMap_append, List.flatMap_singleton, List.getLast?_append,
      List.getLast?_eq_some_getLast hne, Option.some_or, ← List.getLast?_eq_some_getLast hne,
      getLast?_utf8EncodeChar]
    simp

end BoxWarden.Text
