import BoxWarden.Proofs.Compile.Isolation
import BoxWarden.Proofs.Shell.RoundTrip
import BoxWarden.Proofs.Summary.Reading
import Mathlib.Data.List.Count

/-!
A summary against the command. Both are made from what the grants were compiled to, the one from the
state of the isolation and the text of each flag, the other from the flags for the isolation and the
arguments of each flag. What is read in the text of the summary is what the command says.
-/

namespace BoxWarden

namespace Namespace

theorem flag_injective {n m : Namespace} (h : n.flag = m.flag) : n = m := by
  cases n <;> cases m <;> simp_all [flag]

theorem description_injective : Function.Injective description := by
  intro n m h
  cases n <;> cases m <;> simp_all [description]

end Namespace

namespace Isolation

/-- The flag of a namespace is there exactly if the namespace is isolated. -/
theorem flag_mem_flags (s : Isolation) (n : Namespace) : n.flag ∈ s.flags ↔ s.has n = true := by
  have hall : n.flag ≠ "--unshare-all" := by cases n <;> decide
  have hrest : n.flag ∉ if s.rest then ["--unshare-all"] else [] := by
    cases s.rest <;> simp [hall]
  rw [flags, List.mem_append, or_iff_left hrest, List.mem_map, isolated]
  constructor
  · rintro ⟨m, hm, hflag⟩
    rw [← Namespace.flag_injective hflag]
    exact (List.mem_filter.mp hm).2
  · intro hn
    exact ⟨n, List.mem_filter.mpr ⟨Namespace.mem_all n, hn⟩, rfl⟩

theorem unshareAll_mem_flags (s : Isolation) : "--unshare-all" ∈ s.flags ↔ s.rest = true := by
  have hnone : "--unshare-all" ∉ s.isolated.map Namespace.flag := by
    rw [List.mem_map]
    rintro ⟨n, -, hn⟩
    cases n <;> exact absurd hn (by decide)
  rw [flags, List.mem_append, or_iff_right hnone]
  cases s.rest <;> simp

/-- Each namespace is told of once, by its description, where a choice of namespaces has it. -/
theorem count_description (p : Namespace → Bool) (n : Namespace) :
    ((Namespace.all.filter p).map Namespace.description).count n.description =
      if p n then 1 else 0 := by
  rw [List.count_map_of_injective _ _ Namespace.description_injective]
  split
  · rename_i hn
    rw [List.count_filter hn]
    cases n <;> rfl
  · rename_i hn
    exact List.count_eq_zero.mpr fun hmem => hn (List.mem_filter.mp hmem).2

end Isolation

namespace Summary

/-- The item on all that has no item of its own. -/
def restItem : String := "Everything else distrobox can unshare (--unshare-all)"

/-- The items below a heading. -/
def itemsUnder (heading : String) (parts : List (String × List String)) : List String :=
  (parts.filter (·.1 = heading)).flatMap Prod.snd

theorem itemsUnder_append (heading : String) (a b : List (String × List String)) :
    itemsUnder heading (a ++ b) = itemsUnder heading a ++ itemsUnder heading b := by
  simp [itemsUnder]

/-- A section that is left out is one without items. -/
theorem itemsUnder_unlessEmpty (heading : String) (s : Section) :
    itemsUnder heading (s.unlessEmpty.map Section.content) =
      if s.heading = heading then s.items else [] := by
  unfold Section.unlessEmpty
  split
  · rename_i hitems
    simp [itemsUnder, hitems]
  · by_cases hs : s.heading = heading <;> simp [itemsUnder, Section.content, hs]

theorem itemsUnder_singleton (heading : String) (s : Section) :
    itemsUnder heading [s.content] = if s.heading = heading then s.items else [] := by
  by_cases hs : s.heading = heading <;> simp [itemsUnder, Section.content, hs]

end Summary

open Summary

namespace Compiled

/-- The heading of what is granted. -/
def grantedHeading (c : Compiled) : String := "Granted (" ++ toString c.flags.length ++ "):"

theorem granted_eq_iff {c : Compiled} {suffix : String} :
    "Granted (" ++ suffix = c.grantedHeading ↔ suffix = toString c.flags.length ++ "):" := by
  rw [grantedHeading, String.append_assoc, String.append_right_inj]

/-- No other heading begins as the one on what is granted. -/
theorem granted_ne {suffix heading : String} (h : heading.toList.head? ≠ some 'G') :
    "Granted (" ++ suffix ≠ heading := by
  rintro rfl
  simp at h

theorem grantedHeading_ne {c : Compiled} {heading : String} (h : heading.toList.head? ≠ some 'G') :
    c.grantedHeading ≠ heading := by
  rw [grantedHeading, String.append_assoc]
  exact granted_ne h

/-- What a summary shows: five sections at most, of which those without items are left out. -/
def parts (c : Compiled) : List (String × List String) := c.sections.map Section.content

theorem parts_eq (c : Compiled) : c.parts =
    (Section.unlessEmpty ⟨"Isolated from host:", c.isolatedItems, true⟩).map Section.content ++
      ((Section.unlessEmpty ⟨"Shared with host:",
          c.isolation.shared.map Namespace.description, false⟩).map Section.content ++
        ((Section.unlessEmpty ⟨c.grantedHeading, c.grantedItems, true⟩).map Section.content ++
          ([Section.content ⟨"Always enforced:", hardening.map Hardening.description, true⟩] ++
            (Section.unlessEmpty ⟨"Ignored (value not understood):",
              c.ignored.map Record.line, false⟩).map Section.content))) := by
  simp [parts, sections, grantedHeading]

theorem itemsUnder_parts (c : Compiled) (heading : String) : itemsUnder heading c.parts =
    (if "Isolated from host:" = heading then c.isolatedItems else []) ++
      ((if "Shared with host:" = heading then c.isolation.shared.map Namespace.description
          else []) ++
        ((if c.grantedHeading = heading then c.grantedItems else []) ++
          ((if "Always enforced:" = heading then hardening.map Hardening.description else []) ++
            if "Ignored (value not understood):" = heading then c.ignored.map Record.line
            else []))) := by
  rw [parts_eq, itemsUnder_append, itemsUnder_append, itemsUnder_append, itemsUnder_append,
    itemsUnder_unlessEmpty, itemsUnder_unlessEmpty, itemsUnder_unlessEmpty, itemsUnder_singleton,
    itemsUnder_unlessEmpty]

theorem itemsUnder_isolated (c : Compiled) :
    itemsUnder "Isolated from host:" c.parts = c.isolatedItems := by
  rw [itemsUnder_parts, if_neg (grantedHeading_ne (by decide))]
  simp

theorem itemsUnder_shared (c : Compiled) :
    itemsUnder "Shared with host:" c.parts = c.isolation.shared.map Namespace.description := by
  rw [itemsUnder_parts, if_neg (grantedHeading_ne (by decide))]
  simp

theorem itemsUnder_granted (c : Compiled) :
    itemsUnder c.grantedHeading c.parts = c.grantedItems := by
  rw [itemsUnder_parts, if_neg (grantedHeading_ne (by decide)).symm, if_pos rfl,
    if_neg (grantedHeading_ne (by decide)).symm, if_neg (grantedHeading_ne (by decide)).symm,
    if_neg (grantedHeading_ne (by decide)).symm]
  simp

theorem itemsUnder_enforced (c : Compiled) :
    itemsUnder "Always enforced:" c.parts = hardening.map Hardening.description := by
  rw [itemsUnder_parts, if_neg (grantedHeading_ne (by decide))]
  simp

theorem itemsUnder_ignored (c : Compiled) :
    itemsUnder "Ignored (value not understood):" c.parts = c.ignored.map Record.line := by
  rw [itemsUnder_parts, if_neg (grantedHeading_ne (by decide))]
  simp

theorem mem_headings_iff (c : Compiled) (heading : String) : heading ∈ c.parts.map Prod.fst ↔
    (c.isolatedItems ≠ [] ∧ heading = "Isolated from host:") ∨
      (c.isolation.shared ≠ [] ∧ heading = "Shared with host:") ∨
        (c.flags ≠ [] ∧ heading = c.grantedHeading) ∨ heading = "Always enforced:" ∨
          (c.ignored ≠ [] ∧ heading = "Ignored (value not understood):") := by
  have hunless (s : Section) :
      heading ∈ (s.unlessEmpty.map Section.content).map Prod.fst ↔
        s.items ≠ [] ∧ heading = s.heading := by
    simp [Section.mem_unlessEmpty, Section.content, eq_comm]
  rw [parts_eq]
  simp only [List.map_append, List.mem_append, hunless]
  simp [Section.content, grantedItems]

theorem granted_mem_headings_iff (c : Compiled) (suffix : String) :
    "Granted (" ++ suffix ∈ c.parts.map Prod.fst ↔
      0 < c.flags.length ∧ suffix = toString c.flags.length ++ "):" := by
  have hne {heading : String} (h : heading.toList.head? ≠ some 'G') :
      ("Granted (" ++ suffix = heading) = False := eq_false (granted_ne h)
  rw [mem_headings_iff, granted_eq_iff, hne (by decide), hne (by decide), hne (by decide),
    hne (by decide), List.length_pos_iff]
  simp only [and_false, false_or, or_false]

theorem ignored_mem_headings_iff (c : Compiled) :
    "Ignored (value not understood):" ∈ c.parts.map Prod.fst ↔ c.ignored ≠ [] := by
  have hgranted := (grantedHeading_ne (c := c)
    (by decide : "Ignored (value not understood):".toList.head? ≠ some 'G')).symm
  rw [mem_headings_iff]
  simp [hgranted]

/-- No heading stands twice. -/
theorem nodup_headings (c : Compiled) : (c.parts.map Prod.fst).Nodup := by
  have hunless (s : Section) :
      ((s.unlessEmpty.map Section.content).map Prod.fst).Sublist [s.heading] := by
    unfold Section.unlessEmpty
    split <;> simp [Section.content]
  have hall : ["Isolated from host:", "Shared with host:", c.grantedHeading, "Always enforced:",
      "Ignored (value not understood):"].Nodup := by
    simp only [List.nodup_cons, List.mem_cons, List.not_mem_nil, or_false, not_or]
    refine ⟨⟨by decide, ?_, by decide, by decide⟩, ⟨?_, by decide, by decide⟩, ⟨?_, ?_⟩,
      by decide, id, .nil⟩
    · exact (grantedHeading_ne (by decide)).symm
    · exact (grantedHeading_ne (by decide)).symm
    · exact grantedHeading_ne (by decide)
    · exact grantedHeading_ne (by decide)
  refine List.Nodup.sublist ?_ hall
  rw [parts_eq]
  simp only [List.map_append]
  exact (hunless _).append ((hunless _).append ((hunless _).append
    ((List.Sublist.refl _).append (hunless _))))

/-- All items of a summary, section by section. -/
theorem items_parts (c : Compiled) : c.parts.flatMap Prod.snd =
    c.isolatedItems ++ (c.isolation.shared.map Namespace.description ++ (c.grantedItems ++
      (hardening.map Hardening.description ++ c.ignored.map Record.line))) := by
  have hunless (s : Section) : (s.unlessEmpty.map Section.content).flatMap Prod.snd = s.items := by
    unfold Section.unlessEmpty
    split <;> simp_all [Section.content]
  rw [parts_eq]
  simp only [List.flatMap_append, hunless]
  simp [Section.content]

/-- The item on the rest stands for the rest: nothing that is granted or ignored looks like it. -/
theorem restItem_mem_iff (c : Compiled) :
    restItem ∈ c.parts.flatMap Prod.snd ↔ "--unshare-all" ∈ c.unshare := by
  have hcolon : ':' ∉ restItem.toList := by decide
  have hnamespaces (ns : List Namespace) : restItem ∉ ns.map Namespace.description := by
    rw [List.mem_map]
    rintro ⟨n, -, hn⟩
    cases n <;> exact absurd hn (by decide)
  have hgranted : restItem ∉ c.grantedItems := by
    rw [grantedItems, List.mem_map]
    rintro ⟨f, -, hf⟩
    rw [← hf] at hcolon
    simp at hcolon
  have hhardening : restItem ∉ hardening.map Hardening.description := by decide
  have hignored : restItem ∉ c.ignored.map Record.line := by
    rw [List.mem_map]
    rintro ⟨r, -, hr⟩
    rw [← hr] at hcolon
    simp [Record.line] at hcolon
  rw [unshare, Isolation.unshareAll_mem_flags, items_parts, isolatedItems]
  simp only [List.mem_append, hnamespaces, hgranted, hhardening, hignored, or_false, false_or]
  cases c.isolation.rest <;> simp [restItem]

/-- Each namespace is told of once: among what is isolated if it is, and among what is shared if
not. -/
theorem count_description (c : Compiled) (n : Namespace) :
    (itemsUnder "Isolated from host:" c.parts).count n.description =
        (if n.flag ∈ c.unshare then 1 else 0) ∧
      (itemsUnder "Shared with host:" c.parts).count n.description =
        (if n.flag ∈ c.unshare then 0 else 1) := by
  have hrest : (if c.isolation.rest then [restItem] else []).count n.description = 0 := by
    rw [List.count_eq_zero]
    cases c.isolation.rest with
    | false => simp
    | true => cases n <;> decide
  rw [itemsUnder_isolated, itemsUnder_shared, isolatedItems, List.count_append]
  rw [Isolation.isolated, Isolation.shared, Isolation.count_description,
    Isolation.count_description, ← restItem, hrest]
  simp only [unshare, Isolation.flag_mem_flags]
  cases c.isolation.has n <;> simp

end Compiled

/-- What the summary of one-line records for a one-line host shows, and what the command for them
says, are the same. The text is read back as its sections, and no others have that text. Each of the
five namespaces is told of once, among what is isolated if the command has its flag and among what is
shared if not; the item on the rest is there if the command has the flag for it. There is a section
on what is granted, with the number of the flags, if there are flags; its items are in their order,
each with the text that the command hands on to the engine, or that is read as what it takes itself.
There is a section on what is ignored if some record is set aside, with the lines of just these. -/
theorem summary_tells_command {h : Host} (hh : h.IsOneLine) {records : List Record}
    (hr : ∀ r ∈ records, r.IsOneLine) :
    let c := compile h records
    let shown := Summary.read c.summary
    let heading := "Granted (" ++ toString c.flags.length ++ "):"
    shown = c.sections.map Section.content ∧ (shown.map Prod.fst).Nodup ∧
    (∀ ss, (∀ s ∈ ss, s.IsOneLine) → Summary.textOf ss = c.summary →
      ss.map Section.content = shown) ∧
    (∀ n : Namespace,
      (itemsUnder "Isolated from host:" shown).count n.description =
          (if n.flag ∈ c.unshare then 1 else 0) ∧
        (itemsUnder "Shared with host:" shown).count n.description =
          (if n.flag ∈ c.unshare then 0 else 1)) ∧
    ("Everything else distrobox can unshare (--unshare-all)" ∈ shown.flatMap Prod.snd ↔
      "--unshare-all" ∈ c.unshare) ∧
    (∀ suffix, "Granted (" ++ suffix ∈ shown.map Prod.fst ↔
      0 < c.flags.length ∧ suffix = toString c.flags.length ++ "):") ∧
    (itemsUnder heading shown).length = c.flags.length ∧
    (∀ (i : Nat) (f : Flag), c.flags[i]? = some f →
      (itemsUnder heading shown)[i]? = some (f.kind.label ++ ": " ++ f.text) ∧
      (c.flags.map Flag.arguments)[i]? =
        some (if f.native then f.tokens else ["--additional-flags", f.text]) ∧
      f.text = Shell.join f.tokens ∧ Shell.split f.text = .ok f.tokens) ∧
    (∀ name image home, createCommand name image home c.unshare c.flags =
      [program, "create", "--name", name, "--image", image, "--home", home, "--no-entry"] ++
        c.unshare ++ (c.flags.map Flag.arguments).flatten ++
          hardening.flatMap fun x => wrap x.tokens) ∧
    itemsUnder "Always enforced:" shown = hardening.map Hardening.description ∧
    ("Ignored (value not understood):" ∈ shown.map Prod.fst ↔ ∃ r ∈ records, r.isIgnored h) ∧
    itemsUnder "Ignored (value not understood):" shown =
      (records.filter (·.isIgnored h)).map Record.line := by
  intro c shown heading
  have hignored : c.ignored = records.filter (·.isIgnored h) := by
    rw [show c = compile h records from rfl, compile_eq]
  have hsections : ∀ s ∈ c.sections, s.IsOneLine := by
    refine Compiled.isOneLine_sections (isOneLine_flags_compile hh hr) ?_
    rw [hignored]
    exact fun r hmem => hr r (List.mem_filter.mp hmem).1
  have hshown : shown = c.parts := by
    rw [show shown = Summary.read c.summary from rfl, Compiled.summary_eq_textOf,
      Summary.read_textOf hsections, Compiled.parts]
  have hitems : itemsUnder heading shown = c.grantedItems := by
    rw [hshown]
    exact c.itemsUnder_granted
  refine ⟨hshown, ?_, ?_, ?_, ?_, ?_, ?_, ?_, ?_, ?_, ?_, ?_⟩
  · rw [hshown]
    exact c.nodup_headings
  · intro ss hss htext
    rw [← Summary.read_textOf hss, htext]
  · rw [hshown]
    exact c.count_description
  · rw [hshown]
    exact c.restItem_mem_iff
  · intro suffix
    rw [hshown]
    exact c.granted_mem_headings_iff suffix
  · rw [hitems, Compiled.grantedItems, List.length_map]
  · intro i f hf
    refine ⟨?_, ?_, rfl, Shell.split_join f.tokens⟩
    · rw [hitems, Compiled.grantedItems, List.getElem?_map, hf]
      rfl
    · rw [List.getElem?_map, hf, Option.map_some, Flag.arguments, wrap, Flag.text]
  · intro name image home
    rw [createCommand, List.flatMap_def]
  · rw [hshown]
    exact c.itemsUnder_enforced
  · rw [hshown, Compiled.ignored_mem_headings_iff, hignored, ne_eq, List.filter_eq_nil_iff]
    simp
  · rw [hshown, Compiled.itemsUnder_ignored, hignored]

/-- A grant that is ignored, one that the command takes itself, a mount whose path needs quotes, and
a network of the host. -/
theorem summary_tells_command_desk :
    let host : Host := {}
    let records : List Record := [⟨"dev", .root, "yes"⟩, ⟨"dev", .gpu, "maybe"⟩,
      ⟨"dev", .mount, "/my files:/files"⟩, ⟨"dev", .network, "host"⟩]
    let c := compile host records
    let shown := Summary.read c.summary
    host.IsOneLine ∧ (∀ r ∈ records, r.IsOneLine) ∧
      (itemsUnder "Shared with host:" shown).count Namespace.netns.description = 1 ∧
      (itemsUnder "Isolated from host:" shown).count Namespace.ipc.description = 1 ∧
      (itemsUnder "Granted (3):" shown)[0]? = some "Rootful container: --root" ∧
      (itemsUnder "Granted (3):" shown)[1]? =
        some "Mount (read-write): --volume '/my files:/files:rw'" ∧
      itemsUnder "Ignored (value not understood):" shown = ["dev:gpu:maybe"] := by
  intro host records c shown
  have hh : host.IsOneLine := by decide
  have hr : ∀ r ∈ records, r.IsOneLine := by decide
  obtain ⟨-, -, -, hnamespaces, -, -, -, hgranted, -, -, -, hignored⟩ :=
    summary_tells_command hh hr
  have hheading : "Granted (" ++ toString (compile host records).flags.length ++ "):" =
      "Granted (3):" := by decide
  rw [hheading] at hgranted
  refine ⟨hh, hr, (hnamespaces .netns).2.trans ?_, (hnamespaces .ipc).1.trans ?_,
    (hgranted 0 ⟨.root, ["--root"], true⟩ ?_).1.trans ?_,
    (hgranted 1 ⟨.mount, ["--volume", "/my files:/files:rw"], false⟩ ?_).1.trans ?_,
    hignored.trans ?_⟩ <;> decide

end BoxWarden
