import BoxWarden.Proofs.Compile.OneLine
import BoxWarden.Proofs.Markup.Summary

/-!
A summary read back from its text. The text is cut at its newlines; a line with a bullet opens a
section, and the indented lines below it are its items. Sections of one-line texts are found again
as they were, whatever they say, so their text tells them apart from all others.
-/

namespace BoxWarden

/-- What is seen of a section. -/
def Section.content (s : Section) : String × List String := (s.heading, s.items)

/-- A section whose texts are of one line. -/
structure Section.IsOneLine (s : Section) : Prop where
  heading : OneLine s.heading
  items : ∀ item ∈ s.items, OneLine item

namespace Summary

/-- The text of some sections, a line for each heading and each item. -/
def textOf (ss : List Section) : String := "\n".intercalate (ss.flatMap Section.lines)

/-- The sections that lines show, with the items before the first heading apart. -/
def readLines : List (List Char) → List String × List (String × List String)
  | [] => ([], [])
  | ('•' :: ' ' :: heading) :: ls =>
    ([], (String.ofList heading, (readLines ls).1) :: (readLines ls).2)
  | (' ' :: ' ' :: '-' :: ' ' :: item) :: ls =>
    (String.ofList item :: (readLines ls).1, (readLines ls).2)
  | _ :: ls => readLines ls

/-- The sections that a text shows: their headings and items. -/
def read (text : String) : List (String × List String) :=
  (readLines (Text.pieces '\n' text.toList)).2

theorem pieces_intercalate {ls : List String} (hne : ls ≠ []) (h : ∀ l ∈ ls, OneLine l) :
    Text.pieces '\n' ("\n".intercalate ls).toList = ls.map String.toList := by
  rw [String.toList_intercalate]
  exact Text.pieces_intercalate (by simpa using hne) (List.forall_mem_map.mpr h)

@[simp] theorem readLines_headingLine (s : Section) (ls : List (List Char)) :
    readLines (s.headingLine.toList :: ls) =
      ([], (s.heading, (readLines ls).1) :: (readLines ls).2) := by
  simp [Section.headingLine, readLines]

@[simp] theorem readLines_itemLine (item : String) (ls : List (List Char)) :
    readLines ((itemLine item).toList :: ls) = (item :: (readLines ls).1, (readLines ls).2) := by
  simp [itemLine, readLines]

theorem readLines_items (items : List String) (ls : List (List Char)) :
    readLines ((items.map itemLine).map String.toList ++ ls) =
      (items ++ (readLines ls).1, (readLines ls).2) := by
  induction items with
  | nil => rfl
  | cons item items ih => simp only [List.map_cons, List.cons_append, readLines_itemLine, ih]

/-- The induction is on the sections: the lines below the last of them open no section. -/
theorem readLines_sections (ss : List Section) :
    readLines ((ss.flatMap Section.lines).map String.toList) = ([], ss.map Section.content) := by
  induction ss with
  | nil => rfl
  | cons s ss ih =>
    rw [List.flatMap_cons, Section.lines, List.map_append, List.map_cons, List.cons_append,
      readLines_headingLine, readLines_items, ih, List.append_nil, List.map_cons, Section.content]

theorem oneLine_lines {s : Section} (hs : s.IsOneLine) : ∀ line ∈ s.lines, OneLine line := by
  have hbullet : OneLine "• " := by decide
  have hindent : OneLine "  - " := by decide
  intro line hline
  obtain rfl | hline := List.mem_cons.mp hline
  · exact oneLine_append.mpr ⟨hbullet, hs.heading⟩
  · obtain ⟨item, hitem, rfl⟩ := List.mem_map.mp hline
    exact oneLine_append.mpr ⟨hindent, hs.items item hitem⟩

theorem pieces_textOf {ss : List Section} (hne : ss ≠ []) (h : ∀ s ∈ ss, s.IsOneLine) :
    Text.pieces '\n' (textOf ss).toList = (ss.flatMap Section.lines).map String.toList := by
  refine pieces_intercalate ?_ (List.forall_mem_flatMap.mpr fun s hs => oneLine_lines (h s hs))
  obtain ⟨s, ss, rfl⟩ := List.exists_cons_of_ne_nil hne
  simp [Section.lines]

/-- Sections of one-line texts are found again in their text. -/
theorem read_textOf {ss : List Section} (h : ∀ s ∈ ss, s.IsOneLine) :
    read (textOf ss) = ss.map Section.content := by
  by_cases hne : ss = []
  · subst hne
    decide
  · rw [read, pieces_textOf hne h, readLines_sections]

end Summary

namespace Compiled

theorem summary_eq_textOf (c : Compiled) : c.summary = Summary.textOf c.sections := rfl

theorem oneLine_description (n : Namespace) : OneLine n.description := by
  have hall : ∀ n ∈ Namespace.all, OneLine n.description := by decide +kernel
  exact hall n (Namespace.mem_all n)

theorem oneLine_label (k : Kind) : OneLine (k.label ++ ": ") := by
  have hall : ∀ k ∈ Kind.all, OneLine (k.label ++ ": ") := by decide +kernel
  exact hall k (Kind.mem_all k)

theorem oneLine_granted (n : Nat) : OneLine ("Granted (" ++ toString n ++ "):") := by
  have hnumber : '\n' ∉ Nat.toDigits 10 n := by
    intro hmem
    have hdigit := Nat.isDigit_of_mem_toDigits (by decide) (by decide) hmem
    exact absurd hdigit (by decide)
  simp [OneLine, hnumber]

/-- The sections of a summary are of one line if the flags and the records set aside are. -/
theorem isOneLine_sections {c : Compiled} (hflags : ∀ f ∈ c.flags, f.IsOneLine)
    (hignored : ∀ r ∈ c.ignored, r.IsOneLine) : ∀ s ∈ c.sections, s.IsOneLine := by
  have hunless {s : Section} (hs : s.IsOneLine) : ∀ s' ∈ s.unlessEmpty, s'.IsOneLine := by
    intro s' hs'
    rwa [(Section.mem_unlessEmpty.mp hs').2]
  have hnamespaces (ns : List Namespace) :
      ∀ item ∈ ns.map Namespace.description, OneLine item :=
    List.forall_mem_map.mpr fun n _ => oneLine_description n
  have hrest : ∀ item ∈ if c.isolation.rest then
      ["Everything else distrobox can unshare (--unshare-all)"] else [], OneLine item := by
    cases c.isolation.rest <;> decide +kernel
  rw [sections]
  simp only [List.forall_mem_append, List.forall_mem_singleton]
  have hflags' : ∀ item ∈ c.grantedItems, OneLine item := List.forall_mem_map.mpr fun f hf =>
    oneLine_append.mpr ⟨oneLine_label f.kind, (hflags f hf).text⟩
  have hignored' : ∀ item ∈ c.ignored.map Record.line, OneLine item :=
    List.forall_mem_map.mpr fun r hr => (hignored r hr).line
  have hheadings : OneLine "Isolated from host:" ∧ OneLine "Shared with host:" ∧
      OneLine "Always enforced:" ∧ OneLine "Ignored (value not understood):" := by decide +kernel
  obtain ⟨hisolated, hshared, henforced, hset⟩ := hheadings
  exact ⟨⟨⟨⟨hunless ⟨hisolated, List.forall_mem_append.mpr ⟨hnamespaces _, hrest⟩⟩,
    hunless ⟨hshared, hnamespaces _⟩⟩, hunless ⟨oneLine_granted _, hflags'⟩⟩,
    ⟨henforced, by decide +kernel⟩⟩, hunless ⟨hset, hignored'⟩⟩

end Compiled

end BoxWarden
