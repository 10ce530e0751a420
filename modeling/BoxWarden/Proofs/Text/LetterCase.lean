import BoxWarden.Text.Case

/-!
Words in lower case. A word of ASCII letters is the lower case of its own spellings and of no other
text: what is not ASCII stays so in lower case, but for the Kelvin sign, which becomes a `k`.
-/

namespace BoxWarden.Text

/-- A character of ASCII. -/
def isAscii (c : Char) : Bool := c.toNat < 128

/-- Two texts that are the same but for the case of ASCII letters, the only ones that
`Char.toLower` changes. -/
def IsCaseVariant (s t : String) : Prop := s.toList.map Char.toLower = t.toList.map Char.toLower

theorem IsCaseVariant.symm {s t : String} (h : IsCaseVariant s t) : IsCaseVariant t s := Eq.symm h

theorem IsCaseVariant.trans {s t u : String} (h : IsCaseVariant s t) (h' : IsCaseVariant t u) :
    IsCaseVariant s u := Eq.trans h h'

/-- What holds of the characters of ASCII can be tried one by one. -/
theorem forall_ascii {p : Char → Prop} (h : ∀ n ∈ List.range 128, p (Char.ofNat n)) {c : Char}
    (hc : isAscii c = true) : p c := by
  have hn := h c.toNat (List.mem_range.mpr (of_decide_eq_true hc))
  rwa [Char.ofNat_toNat] at hn

theorem toLower_of_not_isAscii {c : Char} (h : isAscii c = false) : c.toLower = c := by
  refine dif_neg ?_
  rintro ⟨-, hle⟩
  have hlt : c.toNat ≤ 90 := hle
  exact of_decide_eq_false h (by omega)

/-- The run of the ASCII letters. -/
def latinRun : CaseRun := ⟨0x41, 0x5A, 1, 0x61⟩

theorem lowerRuns_eq : lowerRuns = latinRun :: lowerRuns.tail := rfl

/-- The other runs are of characters that are not ASCII, and so are their images, but for the one of
the Kelvin sign. -/
theorem foreign_of_mem_tail : ∀ r ∈ lowerRuns.tail, 0x80 ≤ r.first ∧
    (r.first = r.last ∧ r.image = 0x6B ∨ 0x80 ≤ r.image ∧
      (r.last - r.first + r.image < 0xD800 ∨
        0xDFFF < r.image ∧ r.last - r.first + r.image < 0x110000)) := by
  decide +kernel

theorem CaseRun.image?_eq_some {r : CaseRun} {n m : Nat} (h : r.image? n = some m) :
    r.first ≤ n ∧ n ≤ r.last ∧ m = n - r.first + r.image := by
  rw [image?, Option.ite_none_right_eq_some, Option.some.injEq] at h
  exact ⟨h.1.1, h.1.2.1, h.2.symm⟩

/-- In ASCII, lower case is what it is for ASCII alone. -/
theorem caseImage_of_isAscii {c : Char} (h : isAscii c = true) :
    caseImage lowerRuns lowerLong c = [c.toLower] := by
  have hlt : c.toNat < 128 := of_decide_eq_true h
  have htail : lowerRuns.tail.findSome? (·.image? c.toNat) = none := by
    rw [List.findSome?_eq_none_iff]
    intro r hr
    have hfirst := (foreign_of_mem_tail r hr).1
    exact if_neg fun hin => by omega
  have hlong : lowerLong.lookup c.toNat = none := by
    have hne : (c.toNat == 0x130) = false := by
      rw [beq_eq_false_iff_ne]
      omega
    rw [lowerLong, List.lookup_cons, hne]
    rfl
  have hlatin : [(latinRun.image? c.toNat).elim c Char.ofNat] = [c.toLower] :=
    forall_ascii (p := fun c => [(latinRun.image? c.toNat).elim c Char.ofNat] = [c.toLower])
      (by decide +kernel) h
  rw [← hlatin, caseImage, hlong, lowerRuns_eq, List.findSome?_cons, htail]
  cases latinRun.image? c.toNat <;> rfl

/-- A character that no accepted word holds: it is not ASCII, or it is a `k`. -/
def isStrange (c : Char) : Bool := !isAscii c || c == 'k'

theorem isStrange_of_isAscii {c : Char} (h : isAscii c = false) : isStrange c = true := by
  simp [isStrange, h]

/-- A number of a character that is not ASCII. -/
theorem isAscii_ofNat {n : Nat} (h : 0x80 ≤ n) (hvalid : n.isValidChar) :
    isAscii (Char.ofNat n) = false := by
  have htoNat : (Char.ofNat n).toNat = n := by
    rw [Char.ofNat, dif_pos hvalid]
    rfl
  exact decide_eq_false (by omega)

/-- The lower case of a character that is not ASCII is never a part of an accepted word. -/
theorem exists_isStrange_caseImage {c : Char} (h : isAscii c = false) :
    ∃ d ∈ caseImage lowerRuns lowerLong c, isStrange d = true := by
  have hge : 0x80 ≤ c.toNat := by
    have hnot := of_decide_eq_false h
    omega
  unfold caseImage
  split
  · next n hn =>
    refine ⟨_, List.mem_singleton_self _, ?_⟩
    obtain ⟨r, hr, himage⟩ := List.exists_of_findSome?_eq_some hn
    obtain ⟨hfirst, hlast, rfl⟩ := CaseRun.image?_eq_some himage
    rw [lowerRuns_eq, List.mem_cons] at hr
    obtain rfl | hr := hr
    · exact absurd hlast (by simp only [latinRun]; omega)
    obtain ⟨-, ⟨hone, hkelvin⟩ | ⟨hforeign, hvalid⟩⟩ := foreign_of_mem_tail r hr
    · rw [show c.toNat - r.first + r.image = 0x6B by omega]
      rfl
    · refine isStrange_of_isAscii (isAscii_ofNat (by omega) ?_)
      unfold Nat.isValidChar
      omega
  · split
    · next ns hns =>
      have hdotted : ns = [0x69, 0x307] := by
        rw [lowerLong, List.lookup_cons] at hns
        split at hns
        · exact (Option.some.inj hns).symm
        · cases hns
      subst hdotted
      exact ⟨Char.ofNat 0x307, by simp, rfl⟩
    · exact ⟨c, List.mem_singleton_self c, isStrange_of_isAscii h⟩

theorem lowerFrom_of_isAscii {s : List Char} (h : ∀ c ∈ s, isAscii c = true) (before : List Char) :
    lowerFrom before s = s.map Char.toLower := by
  induction s generalizing before with
  | nil => rfl
  | cons c s ih =>
    obtain ⟨hc, hs⟩ := List.forall_mem_cons.mp h
    have hsigma : c ≠ 'Σ' := by
      rintro rfl
      exact absurd hc (by decide)
    rw [lowerFrom, if_neg hsigma, caseImage_of_isAscii hc, ih hs]
    rfl

/-- Neither form of the small sigma is in ASCII, so it does not matter which one is taken. -/
theorem exists_isStrange_lowerFrom {s : List Char} {c : Char} (hc : c ∈ s)
    (h : isAscii c = false) (before : List Char) :
    ∃ d ∈ lowerFrom before s, isStrange d = true := by
  induction s generalizing before with
  | nil => cases hc
  | cons b s ih =>
    rw [lowerFrom]
    obtain rfl | hc := List.mem_cons.mp hc
    · have hfirst : ∃ d ∈ if c = 'Σ' then [lowerSigma before s] else caseImage lowerRuns lowerLong c,
          isStrange d = true := by
        by_cases hsigma : c = 'Σ'
        · rw [if_pos hsigma]
          refine ⟨_, List.mem_singleton_self _, ?_⟩
          unfold lowerSigma
          split <;> decide
        · rw [if_neg hsigma]
          exact exists_isStrange_caseImage h
      obtain ⟨d, hd, hstrange⟩ := hfirst
      exact ⟨d, List.mem_append_left _ hd, hstrange⟩
    · obtain ⟨d, hd, hstrange⟩ := ih hc (b :: before)
      exact ⟨d, List.mem_append_right _ hd, hstrange⟩

/-- A word in lower case that holds nothing strange. -/
def isPlainWord (w : String) : Bool := w.toList.all fun c => !isStrange c && c.toLower == c

theorem of_isPlainWord {w : String} (hw : isPlainWord w = true) {c : Char} (hc : c ∈ w.toList) :
    isStrange c = false ∧ c.toLower = c := by
  simpa using List.all_eq_true.mp hw c hc

theorem map_toLower_of_isPlainWord {w : String} (hw : isPlainWord w = true) :
    w.toList.map Char.toLower = w.toList :=
  (List.map_congr_left fun _ hc => (of_isPlainWord hw hc).2).trans (List.map_id _)

/-- A spelling of a plain word is in ASCII. -/
theorem not_isCaseVariant {s w : String} {c : Char} (hc : c ∈ s.toList) (h : isAscii c = false)
    (hw : isPlainWord w = true) : ¬ IsCaseVariant s w := by
  intro hvariant
  have hmem : c.toLower ∈ w.toList := by
    rw [← map_toLower_of_isPlainWord hw, ← hvariant]
    exact List.mem_map_of_mem hc
  have hstrange := (of_isPlainWord hw hmem).1
  rw [toLower_of_not_isAscii h, isStrange_of_isAscii h] at hstrange
  cases hstrange

/-- The texts that have a plain word for their lower case are its spellings in ASCII. -/
theorem lower_eq_iff {w : String} (hw : isPlainWord w = true) {s : String} :
    lower s = w ↔ IsCaseVariant s w := by
  by_cases hs : ∀ c ∈ s.toList, isAscii c = true
  · rw [lower, lowerFrom_of_isAscii hs, IsCaseVariant, map_toLower_of_isPlainWord hw,
      ← String.toList_inj, String.toList_ofList]
  · obtain ⟨c, hc, hnot⟩ : ∃ c ∈ s.toList, isAscii c = false := by simpa using hs
    refine iff_of_false ?_ (not_isCaseVariant hc hnot hw)
    rintro rfl
    obtain ⟨d, hd, hstrange⟩ := exists_isStrange_lowerFrom hc hnot []
    rw [(of_isPlainWord hw (by rwa [lower, String.toList_ofList])).1] at hstrange
    cases hstrange

end BoxWarden.Text
