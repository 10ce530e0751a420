import BoxWarden.Proofs.Command.Plan
import BoxWarden.Proofs.Compile.Effect

/-!
Compiling record by record. The flags of a list are those of its records one after another, and so
are the records set aside; what a record adds to them is the same wherever it stands and whatever
has been compiled before it.
-/

namespace BoxWarden

/-- One of three holds, and neither of the other two. -/
def OnlyOne (p q r : Prop) : Prop := (p ∧ ¬q ∧ ¬r) ∨ (¬p ∧ q ∧ ¬r) ∨ (¬p ∧ ¬q ∧ r)

/-- The names of namespaces that kinds have are known, so sharing by name does not fail for them. -/
theorem Isolation.shareNamed_name (s : Isolation) (n : Namespace) :
    s.shareNamed n.name = .ok (s.share n) := by
  rw [shareNamed, Namespace.ofName?_name]

/-- A record leads to flags, or turns the isolation without any, or is set aside. -/
theorem Record.onlyOne_role (h : Host) (r : Record) :
    OnlyOne (r.flags h ≠ [])
      (r.kind.isUnshare = true ∧ (r.change h).apply {} ≠ {} ∧ r.flags h = [])
      (r.isIgnored h = true) := by
  by_cases hflags : r.flags h = []
  · cases hr : r.isIgnored h with
    | true =>
      refine .inr (.inr ⟨not_not_intro hflags, ?_, rfl⟩)
      rintro ⟨-, hturns, -⟩
      exact hturns (isIgnored_iff.mp hr).2
    | false =>
      have hturns : (r.change h).apply {} ≠ {} := by
        intro hkeeps
        rw [isIgnored_iff.mpr ⟨hflags, hkeeps⟩] at hr
        cases hr
      exact .inr (.inl ⟨not_not_intro hflags, ⟨isUnshare_of_flags hflags hr, hturns, hflags⟩,
        Bool.false_ne_true⟩)
  · refine .inl ⟨hflags, ?_, ?_⟩
    · rintro ⟨-, -, hnone⟩
      exact hflags hnone
    · intro hr
      exact hflags (isIgnored_iff.mp hr).1

/-- Compiling lists one behind the other puts their flags, and the records set aside, one behind the
other. What a record adds to the flags does not depend on what has been compiled before it, nor on
its container, and is all of its kind. Each record leads to flags, or turns the isolation without
any, or is set aside, and no two of these. Compiling gives a result for all records: what is noted
on the way always can be, and no namespace is shared by a name that is not known. -/
theorem compile_record_by_record (h : Host) :
    (∀ a b, (compile h (a ++ b)).flags = (compile h a).flags ++ (compile h b).flags ∧
      (compile h (a ++ b)).ignored = (compile h a).ignored ++ (compile h b).ignored) ∧
    (∀ (c : Compiled) (r : Record), (c.add h r).flags = c.flags ++ (compile h [r]).flags) ∧
    (∀ name name' kind value,
      (compile h [⟨name, kind, value⟩]).flags = (compile h [⟨name', kind, value⟩]).flags) ∧
    (∀ r, ∀ f ∈ (compile h [r]).flags, f.kind = r.kind) ∧
    (∀ before r after, OnlyOne ((compile h [r]).flags ≠ [])
      (r.kind.isUnshare = true ∧ (compile h [r]).isolation ≠ {} ∧ (compile h [r]).flags = [])
      (r ∈ (compile h (before ++ r :: after)).ignored)) ∧
    (∀ records w, ∃ w', w'.disk = w.disk ∧
      (Plan.compileNoted h records).run w = (.ok (compile h records), w')) ∧
    ∀ (s : Isolation) (n : Namespace), s.shareNamed n.name = .ok (s.share n) := by
  refine ⟨?_, ?_, ?_, ?_, ?_, Plan.run_compileNoted h, Isolation.shareNamed_name⟩
  · intro a b
    simp only [compile_eq, List.flatMap_append, List.filter_append, and_self]
  · intro c r
    rw [Compiled.add_eq, compile_singleton]
  · intro name name' kind value
    rw [compile_singleton, compile_singleton]
    rfl
  · intro r f hf
    rw [compile_singleton] at hf
    exact (Record.isOf_of_mem_flags hf).1
  · intro before r after
    have hmem : r ∈ (compile h (before ++ r :: after)).ignored ↔ r.isIgnored h = true := by
      rw [mem_ignored_compile]
      simp
    rw [compile_singleton, hmem]
    exact r.onlyOne_role h

end BoxWarden
