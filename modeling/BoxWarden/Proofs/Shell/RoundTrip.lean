import BoxWarden.Shell

/-!
Quoted words are read back as they were. The reader is followed through one word, whatever comes
after it, and from there through a whole line.
-/

namespace BoxWarden.Shell

/-- A plain character is neither a space nor a mark. -/
theorem ne_of_isPlain {c : Char} (h : isPlain c = true) :
    isSpace c = false ∧ c ≠ '\\' ∧ c ≠ '\'' ∧ c ≠ '"' := by
  have hne {d : Char} (hd : isPlain d = false) : c ≠ d := by
    rintro rfl
    rw [hd] at h
    cases h
  have hspace := hne (d := ' ') (by decide)
  have htab := hne (d := '\t') (by decide)
  have hreturn := hne (d := '\r') (by decide)
  have hnewline := hne (d := '\n') (by decide)
  refine ⟨?_, hne (by decide), hne (by decide), hne (by decide)⟩
  simp [isSpace, hspace, htab, hreturn, hnewline]

theorem next_of_isPlain {c : Char} (h : isPlain c = true) (acc : List Char) :
    Reading.next acc c = .plain (acc ++ [c]) := by
  obtain ⟨-, hescape, hsingle, hdouble⟩ := ne_of_isPlain h
  simp [Reading.next, hescape, hsingle, hdouble]

/-- Plain characters outside quotes are taken as they are. -/
theorem read_plain {w : List Char} (hw : w.all isPlain = true) (acc rest : List Char) :
    read (.plain acc) (w ++ rest) = read (.plain (acc ++ w)) rest := by
  induction w generalizing acc with
  | nil => simp
  | cons c w ih =>
    rw [List.all_cons, Bool.and_eq_true] at hw
    have hspace := (ne_of_isPlain hw.1).1
    rw [List.cons_append, read, hspace, if_neg Bool.false_ne_true, next_of_isPlain hw.1, ih hw.2,
      List.append_assoc, List.singleton_append]

/-- A word in quotes is taken character by character, the single quote by leaving the quotes. -/
theorem read_single (w acc rest : List Char) :
    read (.single acc) (w.flatMap inQuotes ++ '\'' :: rest) = read (.plain (acc ++ w)) rest := by
  induction w generalizing acc with
  | nil => simp [read]
  | cons c w ih =>
    rw [List.flatMap_cons, List.append_assoc]
    by_cases hc : c = '\''
    · have hquote : read (.single acc) (inQuotes c ++ (w.flatMap inQuotes ++ '\'' :: rest)) =
          read (.single (acc ++ [c])) (w.flatMap inQuotes ++ '\'' :: rest) := by
        subst hc
        simp [inQuotes, read, Reading.next, isSpace]
      rw [hquote, ih, List.append_assoc, List.singleton_append]
    · rw [inQuotes, if_neg hc, List.singleton_append, read, if_neg hc, ih, List.append_assoc,
        List.singleton_append]

/-- A quoted word is read back, whatever comes after it. -/
theorem read_quote (w rest : List Char) :
    read .between (quote w ++ rest) = read (.plain w) rest := by
  unfold quote
  by_cases h : w ≠ [] ∧ w.all isPlain = true
  · rw [if_pos h]
    obtain ⟨hne, hall⟩ := h
    cases w with
    | nil => exact absurd rfl hne
    | cons c w =>
      have hw := hall
      rw [List.all_cons, Bool.and_eq_true] at hw
      have hspace := (ne_of_isPlain hw.1).1
      rw [List.cons_append, read, hspace, if_neg Bool.false_ne_true, next_of_isPlain hw.1,
        List.nil_append, read_plain hw.2, List.singleton_append]
  · have hquote : isSpace '\'' = false := by decide
    have hnext : Reading.next [] '\'' = .single [] := by decide
    rw [if_neg h, List.append_assoc, List.cons_append, List.singleton_append, read, hquote,
      if_neg Bool.false_ne_true, hnext, read_single, List.nil_append]

/-- The induction is on the words: each is read up to the space behind it. -/
theorem read_joinChars (ws : List (List Char)) : read .between (joinChars ws) = .ok ws := by
  induction ws with
  | nil => rfl
  | cons w ws ih =>
    cases ws with
    | nil =>
      have hread := read_quote w []
      rw [List.append_nil] at hread
      rw [joinChars, hread, read]
    | cons v ws =>
      have hspace : isSpace ' ' = true := by decide
      rw [joinChars, read_quote, read, hspace, if_pos rfl, ih]
      · rfl
      · simp

/-- Splitting a line that was joined gives its words. -/
theorem split_join (ws : List String) : split (join ws) = .ok ws := by
  rw [split, join, String.toList_ofList, read_joinChars]
  simp [Except.map]

end BoxWarden.Shell
