import BoxWarden.Proofs.Markup.Reading

/-!
What is seen of a coloured summary, and of a preview. The words of the program are safe; so it is the
summary itself exactly if the flags that were granted and the records that were set aside are safe.
-/

namespace BoxWarden

namespace Markup

theorem literal_of_not_mem {s : String} (h : '[' ∉ s.toList) : literal s = s := by
  apply String.toList_injective
  rw [toList_literal, escaped_of_not_mem h]

theorem itemLine_literal (item : String) : itemLine (literal item) = literal (itemLine item) := by
  apply String.toList_injective
  have hindent : escaped "  - ".toList = "  - ".toList := escaped_of_not_mem (by decide)
  simp only [itemLine, toList_literal, String.toList_append, escaped_append, hindent]

theorem isSafe_itemLine (item : String) : IsSafe (itemLine item) ↔ IsSafe item :=
  isSafe_append (by decide) item

theorem isPlain_colour (turn : Nat) (active : Bool) :
    IsPlain (if active then colours.getD (turn % colours.length) inactiveColour
      else inactiveColour).toList := by
  have hall : ∀ colour ∈ inactiveColour :: colours, IsPlain colour.toList := by decide
  refine hall _ ?_
  cases active with
  | false => exact List.mem_cons_self
  | true =>
    have hturn : turn % colours.length < colours.length := Nat.mod_lt _ (by decide)
    rw [if_pos rfl, List.getD_eq_getElem?_getD, List.getElem?_eq_getElem hturn, Option.getD_some]
    exact List.mem_cons_of_mem _ (List.getElem_mem hturn)

/-- A line with markup, and how it is seen. -/
def LineRenders (marked line : String) : Prop := Renders marked.toList line.toList (IsSafe line)

/-- Lines that are joined are seen as the lines joined, if all of them are safe. -/
theorem renders_intercalate {marked lines : List String} (h : List.Forall₂ LineRenders marked lines) :
    Renders ("\n".intercalate marked).toList ("\n".intercalate lines).toList
      (∀ line ∈ lines, IsSafe line) := by
  induction h with
  | nil =>
    have hempty : Renders "".toList "".toList True := Renders.of_isPlain (by decide)
    exact hempty.congr (by simp)
  | @cons marked line markeds lines h hs ih =>
    cases hs with
    | nil =>
      rw [String.intercalate_singleton, String.intercalate_singleton]
      exact Renders.congr h (by simp)
    | cons h' hs =>
      have hbreak : Renders "\n".toList "\n".toList True := Renders.of_isPlain (by decide)
      rw [String.intercalate_cons_cons, String.intercalate_cons_cons]
      simp only [String.toList_append]
      exact ((h.append hbreak).append ih).congr (by simp)

end Markup

open Markup

/-- The lines of a section. -/
def Section.lines (s : Section) : List String := s.headingLine :: s.items.map itemLine

/-- A section whose heading is the same as markup and as text. -/
def Section.HeadingIsPlain (s : Section) : Prop := '[' ∉ s.heading.toList ∧ '\\' ∉ s.heading.toList

/-- Each line is seen as it is without its colour. The colours take turns from section to section. -/
theorem renders_sectionLines {ss : List Section} (h : ∀ s ∈ ss, s.HeadingIsPlain) (turn : Nat) :
    List.Forall₂ LineRenders (sectionLines turn ss) (ss.flatMap Section.lines) := by
  induction ss generalizing turn with
  | nil => exact .nil
  | cons s ss ih =>
    have hcolour := isPlain_colour turn s.active
    have hheading : literal s.headingLine = s.headingLine := by
      refine literal_of_not_mem ?_
      have hs := (h s List.mem_cons_self).1
      simpa [Section.headingLine] using hs
    have hitems (items : List String) (colour : String) (hcolour : IsPlain colour.toList) :
        List.Forall₂ LineRenders (items.map fun item => coloured colour (itemLine (literal item)))
          (items.map itemLine) := by
      induction items with
      | nil => exact .nil
      | cons item items ih =>
        rw [List.map_cons, List.map_cons, itemLine_literal]
        exact .cons (renders_coloured hcolour _) ih
    rw [List.flatMap_cons, sectionLines]
    refine List.rel_append ?_ (ih (fun s' hs' => h s' (List.mem_cons_of_mem s hs')) _)
    refine .cons ?_ (hitems s.items _ hcolour)
    have hline := renders_coloured hcolour s.headingLine
    rwa [hheading] at hline

/-- The lines of sections are safe if their items are. -/
theorem isSafe_lines {ss : List Section} (h : ∀ s ∈ ss, s.HeadingIsPlain) :
    (∀ line ∈ ss.flatMap Section.lines, IsSafe line) ↔
      ∀ s ∈ ss, ∀ item ∈ s.items, IsSafe item := by
  have hlines (s : Section) (hs : s ∈ ss) :
      (∀ line ∈ s.lines, IsSafe line) ↔ ∀ item ∈ s.items, IsSafe item := by
    have hheading : IsSafe s.headingLine :=
      isSafe_of_not_mem (by simpa [Section.headingLine] using (h s hs).2)
    simp [Section.lines, hheading, isSafe_itemLine]
  rw [List.forall_mem_flatMap]
  exact forall₂_congr hlines

theorem Section.mem_unlessEmpty {s s' : Section} :
    s' ∈ s.unlessEmpty ↔ s.items ≠ [] ∧ s' = s := by
  unfold unlessEmpty
  split <;> simp_all

theorem forall_mem_unlessEmpty {s : Section} {p : String → Prop} :
    (∀ s' ∈ s.unlessEmpty, ∀ item ∈ s'.items, p item) ↔ ∀ item ∈ s.items, p item := by
  rw [Section.unlessEmpty]
  split
  · rename_i hitems
    simp [hitems]
  · rw [List.forall_mem_singleton]

namespace Compiled

theorem headingIsPlain_granted (n : Nat) (items : List String) (active : Bool) :
    Section.HeadingIsPlain ⟨"Granted (" ++ toString n ++ "):", items, active⟩ := by
  have hdigit {c : Char} (hc : c.isDigit = false) : c ∉ Nat.toDigits 10 n := fun hmem => by
    rw [Nat.isDigit_of_mem_toDigits (by decide) (by decide) hmem] at hc
    cases hc
  have hbracket := hdigit (c := '[') rfl
  have hslash := hdigit (c := '\\') rfl
  constructor <;> simp [hbracket, hslash]

theorem headingIsPlain_sections (c : Compiled) : ∀ s ∈ c.sections, s.HeadingIsPlain := by
  have hmem {s s' : Section} (h : s.HeadingIsPlain) (hs : s' ∈ s.unlessEmpty) :
      s'.HeadingIsPlain := by
    rwa [(Section.mem_unlessEmpty.mp hs).2]
  intro s hs
  simp only [sections, List.mem_append, List.mem_singleton] at hs
  obtain (((hs | hs) | hs) | rfl) | hs := hs
  · refine hmem ?_ hs
    constructor <;> simp
  · refine hmem ?_ hs
    constructor <;> simp
  · exact hmem (headingIsPlain_granted _ _ _) hs
  · constructor <;> simp
  · refine hmem ?_ hs
    constructor <;> simp

/-- The words of the program are safe; what is granted and what is ignored may not be. -/
theorem isSafe_sections (c : Compiled) :
    (∀ line ∈ c.sections.flatMap Section.lines, IsSafe line) ↔
      (∀ f ∈ c.flags, IsSafe f.text) ∧ ∀ r ∈ c.ignored, IsSafe r.line := by
  have hnamespaces : ∀ item ∈ Namespace.all.map Namespace.description, IsSafe item := by decide +kernel
  have hdescription (n : Namespace) : IsSafe n.description :=
    hnamespaces _ (List.mem_map_of_mem (Namespace.mem_all n))
  have hhardening : ∀ item ∈ hardening.map Hardening.description, IsSafe item := by decide +kernel
  have hlabels : ∀ k ∈ Kind.all, '\\' ∉ (k.label ++ ": ").toList := by decide +kernel
  have hgranted (f : Flag) : IsSafe (f.kind.label ++ ": " ++ f.text) ↔ IsSafe f.text :=
    isSafe_append (hlabels _ (Kind.mem_all f.kind)) f.text
  have hrest : IsSafe "Everything else distrobox can unshare (--unshare-all)" := by decide +kernel
  have hisolated : ∀ item ∈ c.isolatedItems, IsSafe item := by
    intro item hitem
    rw [isolatedItems, List.mem_append, List.mem_map] at hitem
    obtain ⟨n, -, rfl⟩ | hitem := hitem
    · exact hdescription n
    · split at hitem
      · rwa [List.mem_singleton.mp hitem]
      · cases hitem
  have hshared : ∀ item ∈ c.isolation.shared.map Namespace.description, IsSafe item :=
    List.forall_mem_map.mpr fun n _ => hdescription n
  have hitems : (∀ item ∈ c.grantedItems, IsSafe item) ↔ ∀ f ∈ c.flags, IsSafe f.text := by
    rw [grantedItems, List.forall_mem_map]
    exact forall₂_congr fun f _ => hgranted f
  rw [isSafe_lines c.headingIsPlain_sections, sections]
  simp only [List.forall_mem_append, forall_mem_unlessEmpty, List.forall_mem_singleton]
  rw [hitems, List.forall_mem_map (f := Record.line)]
  constructor
  · rintro ⟨⟨⟨-, hflags⟩, -⟩, hignored⟩
    exact ⟨hflags, hignored⟩
  · rintro ⟨hflags, hignored⟩
    exact ⟨⟨⟨⟨hisolated, hshared⟩, hflags⟩, hhardening⟩, hignored⟩

/-- A coloured summary is seen as the summary, if what is granted and what is ignored is safe. -/
theorem renders_colouredSummary (c : Compiled) :
    Renders c.colouredSummary.toList c.summary.toList
      ((∀ f ∈ c.flags, IsSafe f.text) ∧ ∀ r ∈ c.ignored, IsSafe r.line) :=
  (renders_intercalate (renders_sectionLines c.headingIsPlain_sections 0)).congr c.isSafe_sections

/-- The command below a summary is seen as it is, if it is safe. -/
theorem renders_preview {safe : Prop} {marked plain : String}
    (h : Renders marked.toList plain.toList safe) (command : List String) :
    Renders (preview command marked).toList
      (plain ++ "\n\nCommand:\n" ++ Shell.join command).toList
      (safe ∧ IsSafe (Shell.join command)) := by
  have hcommand : Renders (escaped (Shell.join command).toList ++ tag "/dim".toList)
      (Shell.join command).toList (IsSafe (Shell.join command)) := Renders.of_escaped (by decide) _
  have hmarked : (preview command marked).toList =
      marked.toList ++ ("\n\n".toList ++ (tag "bold".toList ++ ("Command:".toList ++
        (tag "/bold".toList ++ ("\n".toList ++ (tag "dim".toList ++
          (escaped (Shell.join command).toList ++ tag "/dim".toList))))))) := by
    simp [preview, toList_literal, tag]
  have hplain : (plain ++ "\n\nCommand:\n" ++ Shell.join command).toList =
      plain.toList ++ ("\n\n".toList ++ ("Command:".toList ++ ("\n".toList ++
        (Shell.join command).toList))) := by
    simp
  rw [hmarked, hplain]
  exact h.append ((((((hcommand.tagged (by decide)).behind (by decide)).tagged (by decide)).behind
    (by decide)).tagged (by decide)).behind (by decide))

theorem shown_eq_iff {marked plain : String} {safe : Prop}
    (h : Renders marked.toList plain.toList safe) : shown marked = plain ↔ safe := by
  rw [← h.read_eq_iff, shown, ← String.toList_inj, String.toList_ofList]

/-- What is seen of the coloured summary of some grants, and of a preview, is the summary and the
command, as long as every flag that is granted, every record that is ignored, and the command are
safe; otherwise it is not. -/
theorem shown_colouredSummary_iff (host : Host) (records : List Record) (command : List String) :
    let c := compile host records
    (shown c.colouredSummary = c.summary ↔
      (∀ f ∈ c.flags, IsSafe f.text) ∧ ∀ r ∈ c.ignored, IsSafe r.line) ∧
    (shown (preview command c.colouredSummary) =
        c.summary ++ "\n\nCommand:\n" ++ Shell.join command ↔
      ((∀ f ∈ c.flags, IsSafe f.text) ∧ ∀ r ∈ c.ignored, IsSafe r.line) ∧
        IsSafe (Shell.join command)) := by
  intro c
  have hsummary := c.renders_colouredSummary
  exact ⟨shown_eq_iff hsummary, shown_eq_iff (renders_preview hsummary command)⟩

/-- A backslash before a bracket in a value is not doubled: the bracket is read as a tag. -/
theorem not_shown_of_slash :
    ¬ ∀ (host : Host) (records : List Record) (command : List String),
      let c := compile host records
      shown c.colouredSummary = c.summary ∧
      shown (preview command c.colouredSummary) =
        c.summary ++ "\n\nCommand:\n" ++ Shell.join command := by
  intro h
  have hignored : (compile {} [⟨"dev", .gpu, "\\[red]"⟩]).ignored = [⟨"dev", .gpu, "\\[red]"⟩] := rfl
  have hshown := (h {} [⟨"dev", .gpu, "\\[red]"⟩] []).1
  rw [shown_eq_iff (renders_colouredSummary _), hignored] at hshown
  have hsafe : ¬ IsSafe (Record.line ⟨"dev", .gpu, "\\[red]"⟩) := by decide
  exact hsafe (hshown.2 _ List.mem_cons_self)

end Compiled

end BoxWarden
