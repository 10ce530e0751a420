import BoxWarden.Proofs.Shell.RoundTrip

/-!
A line of words ends where its words end. A newline among the words stands in quotes, so the first
one outside quotes is the end of the line, and what comes behind it does not matter.
-/

namespace BoxWarden.Shell

/-- A quoted word does not begin with a space. -/
theorem exists_quote_eq_cons (w : List Char) : ∃ c r, quote w = c :: r ∧ isSpace c = false := by
  unfold quote
  by_cases h : w ≠ [] ∧ w.all isPlain = true
  · rw [if_pos h]
    obtain ⟨hne, hall⟩ := h
    cases w with
    | nil => exact absurd rfl hne
    | cons c w =>
      rw [List.all_cons, Bool.and_eq_true] at hall
      exact ⟨c, w, rfl, (ne_of_isPlain hall.1).1⟩
  · rw [if_neg h]
    exact ⟨'\'', _, rfl, by decide⟩

theorem joinChars_cons (w : List Char) {ws : List (List Char)} (h : ws ≠ []) :
    joinChars (w :: ws) = quote w ++ ' ' :: joinChars ws := by
  cases ws with
  | nil => exact absurd rfl h
  | cons v ws => rfl

theorem exists_joinChars_eq_cons {ws : List (List Char)} (h : ws ≠ []) :
    ∃ c r, joinChars ws = c :: r ∧ isSpace c = false := by
  cases ws with
  | nil => exact absurd rfl h
  | cons w ws =>
    obtain ⟨c, r, hquote, hspace⟩ := exists_quote_eq_cons w
    by_cases hws : ws = []
    · subst hws
      exact ⟨c, r, hquote, hspace⟩
    · rw [joinChars_cons w hws, hquote, List.cons_append]
      exact ⟨c, _, rfl, hspace⟩

theorem joinChars_append {ws vs : List (List Char)} (hws : ws ≠ []) (hvs : vs ≠ []) :
    joinChars (ws ++ vs) = joinChars ws ++ ' ' :: joinChars vs := by
  induction ws with
  | nil => exact absurd rfl hws
  | cons w ws ih =>
    by_cases hnil : ws = []
    · subst hnil
      exact joinChars_cons w hvs
    · rw [List.cons_append, joinChars_cons w (List.append_ne_nil_of_left_ne_nil hnil vs), ih hnil,
        joinChars_cons w hnil, List.append_assoc, List.cons_append]

/-- The words of a line are read, and behind them those of the lines that follow. -/
theorem read_joinChars_append (ws : List (List Char)) (rest : List Char) :
    read .between (joinChars ws ++ '\n' :: rest) = (read .between rest).map (ws ++ ·) := by
  have hnewline : isSpace '\n' = true := by decide
  have hspace : isSpace ' ' = true := by decide
  induction ws with
  | nil =>
    rw [joinChars, List.nil_append, read, hnewline, if_pos rfl]
    cases read .between rest <;> rfl
  | cons w ws ih =>
    by_cases hnil : ws = []
    · subst hnil
      rw [joinChars, read_quote, read, hnewline, if_pos rfl]
      rfl
    · rw [joinChars_cons w hnil, List.append_assoc, List.cons_append, read_quote, read, hspace,
        if_pos rfl, ih]
      cases read .between rest <;> rfl

/-- A line that begins another one, newline included, is that line: if the other had more words, it
would have a space where the first one has its newline. -/
theorem eq_of_line_begins {ws vs : List (List Char)} {rest : List Char}
    (h : joinChars ws ++ '\n' :: rest = joinChars vs ++ ['\n']) : ws = vs := by
  have hread := congrArg (read .between) h
  rw [read_joinChars_append, read_joinChars_append] at hread
  have hvs : (read .between []).map (vs ++ ·) = .ok vs := by
    rw [read, Except.map, List.append_nil]
  rw [hvs] at hread
  cases hrest : read .between rest with
  | error e =>
    rw [hrest] at hread
    cases hread
  | ok us =>
    rw [hrest] at hread
    obtain rfl : ws ++ us = vs := Except.ok.inj hread
    by_cases hus : us = []
    · rw [hus, List.append_nil]
    · exfalso
      by_cases hws : ws = []
      · subst hws
        obtain ⟨c, r, hjoin, hspace⟩ := exists_joinChars_eq_cons hus
        rw [List.nil_append, hjoin, joinChars, List.nil_append, List.cons_append] at h
        rw [← (List.cons_eq_cons.mp h).1] at hspace
        exact absurd hspace (by decide)
      · rw [joinChars_append hws hus, List.append_assoc, List.append_cancel_left_eq] at h
        exact absurd (List.cons_eq_cons.mp h).1 (by decide)

/-- What begins with a line of words tells the words and what is behind them. -/
theorem joinChars_append_inj {ws vs : List (List Char)} {rest rest' : List Char}
    (h : joinChars ws ++ '\n' :: rest = joinChars vs ++ '\n' :: rest') :
    ws = vs ∧ rest = rest' := by
  have hpre (us : List (List Char)) (r : List Char) :
      joinChars us ++ ['\n'] <+: joinChars us ++ '\n' :: r := ⟨r, by simp⟩
  have heq : ws = vs := by
    obtain ⟨r, hr⟩ | ⟨r, hr⟩ := List.prefix_or_prefix_of_prefix (hpre ws rest) (h ▸ hpre vs rest')
    · rw [List.append_assoc] at hr
      exact eq_of_line_begins hr
    · rw [List.append_assoc] at hr
      exact (eq_of_line_begins hr).symm
  subst heq
  exact ⟨rfl, (List.cons_eq_cons.mp (List.append_cancel_left h)).2⟩

/-- Two texts that begin with a line of words are the same if the words are, and what is behind
them. -/
theorem join_append_inj {ws vs : List String} {rest rest' : String} :
    join ws ++ "\n" ++ rest = join vs ++ "\n" ++ rest' ↔ ws = vs ∧ rest = rest' := by
  have htoList (us : List String) (r : String) :
      (join us ++ "\n" ++ r).toList = joinChars (us.map String.toList) ++ '\n' :: r.toList := by
    simp [join]
  constructor
  · intro h
    have hchars := congrArg String.toList h
    rw [htoList, htoList] at hchars
    obtain ⟨hwords, hrest⟩ := joinChars_append_inj hchars
    exact ⟨(List.map_inj_right fun _ _ => String.toList_inj.mp).mp hwords,
      String.toList_inj.mp hrest⟩
  · rintro ⟨rfl, rfl⟩
    rfl

end BoxWarden.Shell
