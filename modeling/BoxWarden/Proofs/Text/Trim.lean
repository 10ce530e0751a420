import BoxWarden.Proofs.Grant.Reading
import BoxWarden.Proofs.Text.LetterCase

/-!
Text without the white space around it. Trimming takes away all white space at either end and nothing
else, so neither more white space nor the case of ASCII letters makes a difference to what is left.
-/

namespace BoxWarden.Text

/-- White space around a text that does not start or end with any is trimmed. -/
theorem trim_padded {before text after : List Char}
    (hpadding : ∀ c ∈ before ++ after, isBlank c = true)
    (hhead : ∀ c ∈ text.head?, isBlank c = false) (hlast : ∀ c ∈ text.getLast?, isBlank c = false) :
    trim (String.ofList (before ++ text ++ after)) = String.ofList text := by
  obtain ⟨hbefore, hafter⟩ := List.forall_mem_append.mp hpadding
  rw [trim, String.toList_ofList, List.append_assoc, List.dropWhile_append_of_pos hbefore]
  cases text with
  | nil => simp [List.dropWhile_eq_nil_iff.mpr hafter]
  | cons c text =>
    have hstart : ∀ d ∈ (c :: text ++ after).head?, isBlank d = false := by simpa using hhead
    rw [dropWhile_of_head? hstart, dropEndWhile_append_of_all _ _ hafter,
      dropEndWhile_of_getLast? hlast]

/-- What is trimmed is white space, and none is left at either end. -/
theorem exists_padding (s : String) : ∃ before after : List Char,
    s.toList = before ++ (trim s).toList ++ after ∧ (∀ c ∈ before ++ after, isBlank c = true) ∧
      (∀ c ∈ (trim s).toList.head?, isBlank c = false) ∧
        ∀ c ∈ (trim s).toList.getLast?, isBlank c = false := by
  have hrest := List.takeWhile_append_dropWhile (p := isBlank) (l := s.toList)
  have hend := dropEndWhile_append_takeWhile isBlank (s.toList.dropWhile isBlank)
  have htrim : (trim s).toList = dropEndWhile isBlank (s.toList.dropWhile isBlank) :=
    String.toList_ofList
  refine ⟨_, _, by rw [htrim, List.append_assoc, hend, hrest], ?_, ?_, ?_⟩
  · refine List.forall_mem_append.mpr ⟨fun c hc => ?_, fun c hc => ?_⟩
    · exact List.all_eq_true.mp List.all_takeWhile c hc
    · exact List.all_eq_true.mp List.all_takeWhile c (List.mem_reverse.mp hc)
  · intro c hc
    rw [htrim] at hc
    refine head?_dropWhile isBlank s.toList c ?_
    rw [← hend, List.head?_append]
    exact Option.mem_def.mpr (by rw [Option.mem_def.mp hc, Option.some_or])
  · rw [htrim]
    exact getLast?_dropEndWhile isBlank _

/-- White space that is put around a text makes no difference. -/
theorem trim_append {before after : String} (hbefore : ∀ c ∈ before.toList, isBlank c = true)
    (hafter : ∀ c ∈ after.toList, isBlank c = true) (s : String) :
    trim (before ++ s ++ after) = trim s := by
  obtain ⟨b, a, hs, hpadding, hhead, hlast⟩ := exists_padding s
  obtain ⟨hb, ha⟩ := List.forall_mem_append.mp hpadding
  have htext : before ++ s ++ after =
      String.ofList ((before.toList ++ b) ++ (trim s).toList ++ (a ++ after.toList)) := by
    rw [← String.toList_inj, String.toList_ofList, String.toList_append, String.toList_append, hs]
    simp only [List.append_assoc]
  rw [htext, trim_padded _ hhead hlast, String.ofList_toList]
  simp only [List.forall_mem_append]
  exact ⟨⟨hbefore, hb⟩, ha, hafter⟩

/-- No letter is white space. -/
theorem isBlank_toLower (c : Char) : isBlank c.toLower = isBlank c := by
  cases hc : isAscii c with
  | true => exact forall_ascii (p := fun c => isBlank c.toLower = isBlank c) (by decide +kernel) hc
  | false => rw [toLower_of_not_isAscii hc]

theorem map_toLower_trim (s : String) : (trim s).toList.map Char.toLower =
    dropEndWhile isBlank ((s.toList.map Char.toLower).dropWhile isBlank) := by
  have hblank : isBlank ∘ Char.toLower = isBlank := funext isBlank_toLower
  rw [trim, String.toList_ofList, dropEndWhile, dropEndWhile, List.dropWhile_map, hblank,
    ← List.map_reverse, List.dropWhile_map, hblank, List.map_reverse]

/-- Spellings of a text stay spellings when they are trimmed. -/
theorem IsCaseVariant.trim {s t : String} (h : IsCaseVariant s t) :
    IsCaseVariant (Text.trim s) (Text.trim t) := by
  rw [IsCaseVariant, map_toLower_trim, map_toLower_trim, h]

end BoxWarden.Text
