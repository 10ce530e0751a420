import BoxWarden.CreateCommand
import BoxWarden.Proofs.Compile.Effect

/-!
Records that do nothing. A record that is set aside can stand anywhere, or nowhere, without any
difference to the flags and the isolation; a record that is not set aside makes a difference already
when it is the only one.
-/

namespace BoxWarden

section
variable {h : Host}

/-- A record that is set aside makes no difference to the flags and the isolation, whatever stands
before and behind it. -/
theorem compile_insert {r : Record} (hr : r.isIgnored h = true) (before after : List Record) :
    (compile h (before ++ [r] ++ after)).flags = (compile h (before ++ after)).flags ∧
      (compile h (before ++ [r] ++ after)).isolation = (compile h (before ++ after)).isolation := by
  obtain ⟨hflags, hchange⟩ := Record.of_isIgnored hr
  simp only [compile_eq, List.flatMap_append, List.flatMap_singleton, List.foldl_append,
    List.foldl_cons, List.foldl_nil]
  constructor
  · rw [hflags, List.append_nil]
  · rw [hchange]
    rfl

/-- A record that makes no difference to an empty list is set aside. -/
theorem isIgnored_of_compile_singleton {r : Record}
    (hflags : (compile h [r]).flags = (compile h []).flags)
    (hisolation : (compile h [r]).isolation = (compile h []).isolation) :
    r.isIgnored h = true := by
  rw [compile_singleton] at hflags hisolation
  exact Record.isIgnored_iff.mpr ⟨hflags, hisolation⟩

/-- What has been collected and carried out is the same without the records that are set aside. The
induction is on the records, with what came before them. -/
theorem foldl_add_filter (records : List Record) (c : Compiled) :
    (records.filter fun r => !r.isIgnored h).foldl (Compiled.add h) c =
      { records.foldl (Compiled.add h) c with ignored := c.ignored } := by
  induction records generalizing c with
  | nil => rfl
  | cons r records ih =>
    cases hr : r.isIgnored h with
    | true =>
      -- such a record is only put to those set aside, and these are not compared
      obtain ⟨hflags, hchange⟩ := Record.of_isIgnored hr
      have hadd : c.add h r = { c with ignored := c.ignored ++ [r] } := by
        simp [Compiled.add_eq, hflags, hchange, hr, Change.apply]
      rw [List.filter_cons_of_neg (by simp [hr]), List.foldl_cons, hadd, ih, foldl_add, foldl_add]
    | false =>
      have hadd : (c.add h r).ignored = c.ignored := by
        simp [Compiled.add_eq, hr]
      rw [List.filter_cons_of_pos (by simp [hr]), List.foldl_cons, List.foldl_cons, ih, hadd]

theorem compile_filter (records : List Record) :
    compile h (records.filter fun r => !r.isIgnored h) =
      { compile h records with ignored := [] } :=
  foldl_add_filter records {}

/-- To leave out what has been set aside is to leave out the records that are set aside. -/
theorem filter_not_mem_ignored (records : List Record) :
    records.filter (· ∉ (compile h records).ignored) =
      records.filter fun r => !r.isIgnored h := by
  apply List.filter_congr
  intro r hr
  cases hi : r.isIgnored h <;> simp [mem_ignored_compile, hr, hi]

end

/-- The records that are set aside are those that never make a difference: one that is set aside can
be put anywhere into any list of records, and one that can is set aside. So a list without the
records that have been set aside comes to the same flags, isolation and command, and nothing in it
is set aside. -/
theorem ignored_iff_inert (h : Host) :
    (∀ r, (compile h [r]).ignored = [r] ↔ ∀ before after : List Record,
      (compile h (before ++ [r] ++ after)).unshare = (compile h (before ++ after)).unshare ∧
      (compile h (before ++ [r] ++ after)).flags = (compile h (before ++ after)).flags ∧
      (compile h (before ++ [r] ++ after)).isolation = (compile h (before ++ after)).isolation) ∧
    ∀ records,
      let kept := records.filter (· ∉ (compile h records).ignored)
      (compile h kept).unshare = (compile h records).unshare ∧
      (compile h kept).flags = (compile h records).flags ∧
      (compile h kept).isolation = (compile h records).isolation ∧
      (∀ name image home,
        createCommand name image home (compile h kept).unshare (compile h kept).flags =
          createCommand name image home (compile h records).unshare (compile h records).flags) ∧
      (compile h kept).ignored = [] := by
  constructor
  · intro r
    rw [ignored_singleton_iff]
    constructor
    · intro hr before after
      obtain ⟨hflags, hisolation⟩ := compile_insert hr before after
      exact ⟨congrArg Isolation.flags hisolation, hflags, hisolation⟩
    · intro hinert
      -- the empty list on either side is enough to tell the record
      obtain ⟨-, hflags, hisolation⟩ := hinert [] []
      exact isIgnored_of_compile_singleton hflags hisolation
  · intro records kept
    have hkept : compile h kept = { compile h records with ignored := [] } := by
      rw [← compile_filter, ← filter_not_mem_ignored]
    rw [hkept]
    exact ⟨rfl, rfl, rfl, fun _ _ _ => rfl, rfl⟩

end BoxWarden
