import BoxWarden.Proofs.Grant.Codec

/-!
The text of the file of grants, as its lines and as the grants on them. Adding a line ends the last
one and puts a new one behind it; taking grants back leaves their lines out; and neither does
anything to another line.
-/

namespace BoxWarden.Store

/-- A line with its newline, whether or not it had one. -/
def endLine (l : String) : String := String.ofList (Text.ended l.toList)

/-- A text with one line more. -/
def added (text line : String) : String :=
  String.ofList (Text.ended text.toList ++ (line.toList ++ ['\n']))

/-- A grant of a kind to a container. -/
def grants (container : String) (kind : Kind) (r : Record) : Bool :=
  r.container = container ∧ r.kind = kind

/-- A line that grants a kind to a container. -/
def grantsOn (container : String) (kind : Kind) (line : String) : Bool :=
  (grantOn? line).any (grants container kind)

@[simp] theorem textLines_empty : textLines "" = [] := rfl

theorem join_textLines (text : String) : String.join (textLines text) = text := by
  apply String.toList_injective
  rw [String.toList_join, textLines, List.flatMap_map]
  simp [List.flatMap_id']

theorem textLines_join_filter (p : String → Bool) (text : String) :
    textLines (String.join ((textLines text).filter p)) = (textLines text).filter p := by
  have htext : (String.join ((textLines text).filter p)).toList =
      ((Text.lines text.toList).filter fun l => p (String.ofList l)).flatten := by
    rw [String.toList_join, textLines, List.filter_map, List.flatMap_map]
    simp [Function.comp_def, List.flatMap_id']
  rw [textLines, htext, Text.lines_flatten_filter, textLines, List.filter_map]
  rfl

/-- A line is ended by a newline, unless it is ended already. -/
theorem endLine_cases (l : String) :
    endLine l = l ∨ endLine l = l ++ "\n" ∧ l.toList.getLast? ≠ some '\n' := by
  by_cases h : l.toList = [] ∨ l.toList.getLast? = some '\n'
  · exact .inl (by rw [endLine, Text.ended, if_pos h, String.ofList_toList])
  · refine .inr ⟨?_, fun hlast => h (.inr hlast)⟩
    rw [endLine, Text.ended, if_neg h]
    apply String.toList_injective
    simp

/-- Only the last line of a text can lack its newline. -/
theorem endLine_of_mem_dropLast {text l : String} (hl : l ∈ (textLines text).dropLast) :
    endLine l = l := by
  have key {ls : List (List Char)} (h : Text.AreLines ls) : ∀ k ∈ ls.dropLast, Text.ended k = k := by
    induction h with
    | nil => simp
    | last hne hl => simp
    | @cons b ls hb hs ih =>
      intro k hk
      cases ls with
      | nil => simp at hk
      | cons l' ls' =>
        rw [List.dropLast_cons_cons, List.mem_cons] at hk
        rcases hk with rfl | hk
        · exact Text.ended_append_newline b
        · exact ih k hk
  rw [textLines, ← List.map_dropLast] at hl
  obtain ⟨k, hk, rfl⟩ := List.mem_map.mp hl
  rw [endLine, String.toList_ofList, key (Text.areLines_lines text.toList) k hk]

/-- A text with another one behind it, which starts on a line of its own. -/
def behind (text rest : String) : String :=
  String.ofList (Text.ended text.toList ++ rest.toList)

theorem added_eq_behind (text line : String) : added text line = behind text (line ++ "\n") := by
  simp [added, behind]

/-- What goes behind a text does nothing to its lines but end the last one. -/
theorem textLines_behind (text rest : String) :
    textLines (behind text rest) = (textLines text).map endLine ++ textLines rest := by
  rw [textLines, behind, String.toList_ofList, Text.lines_ended_append_text, List.map_append,
    List.map_map, textLines, textLines, List.map_map]
  simp [Function.comp_def, endLine]

theorem textLines_line {line : String} (hl : '\n' ∉ line.toList) :
    textLines (line ++ "\n") = [line ++ "\n"] := by
  have hline : (line ++ "\n").toList = line.toList ++ ['\n'] := by simp
  rw [textLines, hline, Text.lines_append_newline hl, Text.lines_nil, List.map_singleton, ← hline,
    String.ofList_toList]

/-- A new line stands behind all the others, of which it ends the last one. -/
theorem textLines_added (text : String) {line : String} (hl : '\n' ∉ line.toList) :
    textLines (added text line) = (textLines text).map endLine ++ [line ++ "\n"] := by
  rw [added_eq_behind, textLines_behind, textLines_line hl]

theorem without_eq (container : String) (kind : Kind) (text : String) :
    without container kind text =
      String.join ((textLines text).filter fun l => !grantsOn container kind l) := by
  have hp (l : String) : without.revoked container kind (grantOn? l) = grantsOn container kind l := by
    cases h : grantOn? l <;> simp [without.revoked, grantsOn, grants, h]
  simp [without, hp]

/-- Taking grants back leaves out their lines and no others. -/
theorem textLines_without (container : String) (kind : Kind) (text : String) :
    textLines (without container kind text) =
      (textLines text).filter fun l => !grantsOn container kind l := by
  rw [without_eq, textLines_join_filter]

/-- Ending a line changes nothing of what it says. -/
@[simp] theorem grantOn?_endLine (l : String) : grantOn? (endLine l) = grantOn? l := by
  obtain h | ⟨h, -⟩ := endLine_cases l
  · rw [h]
  · rw [h, grantOn?, Record.parse_append_ending l (by decide)]
    rfl

theorem grantOn?_line {r : Record} (hname : isContainerName r.container = true)
    (hv : fitsLine r.value = true) : grantOn? (r.line ++ "\n") = some r := by
  rw [grantOn?, Record.parse_append_ending _ (by decide),
    Record.parse_line hname (isEnding_eq_false_of_fitsLine hv)]

/-- The line of a grant that fits is one line. -/
theorem newline_not_mem_line {r : Record} (hname : isContainerName r.container = true)
    (hv : fitsLine r.value = true) : '\n' ∉ r.line.toList := by
  intro h
  have hn := Record.isEnding_eq_false_of_mem_line hname (isEnding_eq_false_of_fitsLine hv) _ h
  exact absurd hn (by decide)

/-- What goes behind a text adds its own grants. -/
theorem grantsIn_behind (text rest : String) :
    grantsIn (behind text rest) = grantsIn text ++ grantsIn rest := by
  have hend : grantOn? ∘ endLine = grantOn? := by
    funext l
    rw [Function.comp_apply, grantOn?_endLine]
  rw [grantsIn, textLines_behind, List.filterMap_append, List.filterMap_map, hend, grantsIn,
    grantsIn]

/-- A line for a grant adds just that grant. -/
theorem grantsIn_added (text : String) {r : Record} (hname : isContainerName r.container = true)
    (hv : fitsLine r.value = true) : grantsIn (added text r.line) = grantsIn text ++ [r] := by
  have hline : grantsIn (r.line ++ "\n") = [r] := by
    rw [grantsIn, textLines_line (newline_not_mem_line hname hv),
      List.filterMap_cons_some (grantOn?_line hname hv), List.filterMap_nil]
  rw [added_eq_behind, grantsIn_behind, hline]

/-- Taking grants back takes them and leaves the others in order. -/
theorem grantsIn_without (container : String) (kind : Kind) (text : String) :
    grantsIn (without container kind text) =
      (grantsIn text).filter fun r => !grants container kind r := by
  rw [grantsIn, textLines_without, grantsIn]
  induction textLines text with
  | nil => rfl
  | cons l ls ih =>
    cases hl : grantOn? l with
    | none =>
      have hg : grantsOn container kind l = false := by simp [grantsOn, hl]
      simpa [hg, hl] using ih
    | some r =>
      have hg : grantsOn container kind l = grants container kind r := by simp [grantsOn, hl]
      cases hr : grants container kind r <;> simpa [hg, hl, hr] using ih

theorem countIn_eq (container : String) (kind : Kind) (text : String) :
    countIn container kind text = ((grantsIn text).filter (grants container kind)).length := by
  rw [countIn, List.countP_eq_length_filter]
  rfl

/-- Lines that are put together each with its newline are found again. -/
theorem textLines_join {ls : List String} (h : ∀ l ∈ ls, '\n' ∉ l.toList) :
    textLines (String.join (ls.map (· ++ "\n"))) = ls.map (· ++ "\n") := by
  have hlines : Text.AreLines (ls.map fun l => l.toList ++ ['\n']) := by
    induction ls with
    | nil => exact .nil
    | cons l ls ih => exact .cons (h l (by simp)) (ih fun k hk => h k (by simp [hk]))
  have htext : (String.join (ls.map (· ++ "\n"))).toList =
      (ls.map fun l => l.toList ++ ['\n']).flatten := by
    simp [List.flatMap_def, Function.comp_def]
  rw [textLines, htext, Text.lines_flatten hlines, List.map_map]
  refine List.map_congr_left fun l _ => String.toList_injective ?_
  simp

theorem heading_lines : ∃ ls : List String, textLines heading = ls.map (· ++ "\n") ∧
    ∀ l ∈ ls, l.toList.head? = some '#' := by
  have hls : ∃ ls : List String, heading = String.join (ls.map (· ++ "\n")) ∧
      ∀ l ∈ ls, '\n' ∉ l.toList ∧ l.toList.head? = some '#' := by
    unfold heading
    refine ⟨_, rfl, ?_⟩
    simp
  obtain ⟨ls, hheading, hls⟩ := hls
  refine ⟨ls, ?_, fun l hl => (hls l hl).2⟩
  rw [hheading, textLines_join fun l hl => (hls l hl).1]

/-- The heading is comments only. -/
theorem grantsIn_heading : grantsIn heading = [] := by
  obtain ⟨ls, hheading, hls⟩ := heading_lines
  rw [grantsIn, hheading, List.filterMap_eq_nil_iff]
  intro l' hl'
  obtain ⟨l, hl, rfl⟩ := List.mem_map.mp hl'
  rw [grantOn?, Record.parse_append_ending l (by decide), Record.parse_comment (hls l hl)]

end BoxWarden.Store
