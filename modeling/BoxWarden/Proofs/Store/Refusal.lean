import BoxWarden.Proofs.Store.Call

/-!
What the store refuses. A grant is refused for its kind, for its container or for its value, looked
at in this order and before anything is touched; it is refused for nothing else.
-/

namespace BoxWarden

/-- A letter or digit of the English alphabet. -/
def IsPlainLetterOrDigit (c : Char) : Prop :=
  ('A' ≤ c ∧ c ≤ 'Z') ∨ ('a' ≤ c ∧ c ≤ 'z') ∨ ('0' ≤ c ∧ c ≤ '9')

/-- A name that a container can be filed under: the whole of it is a letter or digit, and then
letters, digits and three more characters. -/
def IsKey (name : String) : Prop :=
  ∃ c r, name.toList = c :: r ∧ IsPlainLetterOrDigit c ∧
    ∀ d ∈ r, IsPlainLetterOrDigit d ∨ d = '_' ∨ d = '.' ∨ d = '-'

/-- The characters at which a text breaks into lines. -/
def lineBreaks : List Char :=
  ['\n', '\r', '\x0b', '\x0c', '\x1c', '\x1d', '\x1e', '\x85', '\u2028', '\u2029']

theorem isAlphanum_iff {c : Char} : c.isAlphanum = true ↔ IsPlainLetterOrDigit c := by
  change ((decide (c.val ≥ 65 ∧ c.val ≤ 90) || (decide (c.val ≥ 97) && decide (c.val ≤ 122)))
    || (decide (c.val ≥ 48) && decide (c.val ≤ 57))) = true ↔ _
  simp only [Bool.or_eq_true, Bool.and_eq_true, decide_eq_true_eq, ge_iff_le, or_assoc]
  rfl

theorem isNameChar_iff {c : Char} :
    isNameChar c = true ↔ IsPlainLetterOrDigit c ∨ c = '_' ∨ c = '.' ∨ c = '-' := by
  simp only [isNameChar, Bool.or_eq_true, beq_iff_eq, isAlphanum_iff, or_assoc]

theorem isContainerName_iff {name : String} : isContainerName name = true ↔ IsKey name := by
  unfold isContainerName IsKey
  cases name.toList with
  | nil => simp
  | cons c r =>
    simp only [Bool.and_eq_true, List.all_eq_true, isAlphanum_iff, isNameChar_iff]
    constructor
    · rintro ⟨hc, hr⟩
      exact ⟨c, r, rfl, hc, hr⟩
    · rintro ⟨c', r', hcons, hc, hr⟩
      obtain ⟨rfl, rfl⟩ := List.cons_eq_cons.mp hcons
      exact ⟨hc, hr⟩

theorem Text.isBoundary_iff {c : Char} : isBoundary c = true ↔ c ∈ lineBreaks := by
  simp only [isBoundary, lineBreaks, Bool.or_eq_true, beq_iff_eq, List.mem_cons, List.not_mem_nil,
    or_false, or_assoc]

theorem Kind.parse_eq_error_iff {name : String} {f : Fault} :
    Kind.parse name = .error f ↔ f = .unknownKind name ∧ name ∉ Kind.names := by
  rw [← Kind.ofName?_eq_none_iff, Kind.parse]
  cases Kind.ofName? name with
  | none => simp [eq_comm]
  | some k => simp

namespace Store

/-- A value does not fit on a line if there is a break anywhere in it. -/
theorem fitsLine_eq_false_iff {value : String} :
    fitsLine value = false ↔ ∃ c ∈ value.toList, c ∈ lineBreaks := by
  rw [← Bool.not_eq_true, fitsLine_eq_true_iff]
  simp [← Text.isBoundary_iff]

/-- The three ways in which a grant is refused, each only where the ones before it do not apply. -/
theorem grantOf_eq_error_iff {container kind value : String} {f : Fault} :
    grantOf container kind value = .error f ↔
      (f = .unknownKind kind ∧ kind ∉ Kind.names) ∨
      (f = .badName container ∧ kind ∈ Kind.names ∧ ¬ IsKey container) ∨
      (f = .lineBreak value ∧ kind ∈ Kind.names ∧ IsKey container ∧
        ∃ c ∈ value.toList, c ∈ lineBreaks) := by
  rw [grantOf, checkName]
  cases hk : Kind.parse kind with
  | error e =>
    obtain ⟨rfl, hnames⟩ := Kind.parse_eq_error_iff.mp hk
    simp [bind, Except.bind, hnames, eq_comm]
  | ok k =>
    have hnames : kind ∈ Kind.names := by
      apply Decidable.not_not.mp
      intro hunknown
      rw [Kind.parse_eq_error_iff.mpr ⟨rfl, hunknown⟩] at hk
      cases hk
    by_cases hc : IsKey container
    · rw [if_pos (isContainerName_iff.mpr hc)]
      cases hv : fitsLine value with
      | true =>
        have hno : ¬ ∃ c ∈ value.toList, c ∈ lineBreaks := by
          rw [← fitsLine_eq_false_iff, hv]
          exact Bool.noConfusion
        simp [bind, Except.bind, hnames, hc, hno]
      | false =>
        have hbreak := fitsLine_eq_false_iff.mp hv
        simp [bind, Except.bind, hnames, hc, hbreak, eq_comm]
    · rw [if_neg (fun hname => hc (isContainerName_iff.mp hname))]
      simp [bind, Except.bind, hnames, hc, eq_comm]

/-- A grant that is refused before anything is touched is refused as such. -/
theorem isRefusal_of_grantOf {container kind value : String} {f : Fault}
    (h : grantOf container kind value = .error f) : f.isRefusal = true := by
  rcases grantOf_eq_error_iff.mp h with ⟨rfl, -⟩ | ⟨rfl, -⟩ | ⟨rfl, -⟩ <;> rfl

variable (s : Store) (w : World)

/-- A grant that is refused leaves the world as it is. -/
theorem run_grant_of_refused {container kind value : String} {f : Fault}
    (h : grantOf container kind value = .error f) :
    (s.grant container kind value).run w = (.error f, w) := by
  rw [run_grant, h]

/-- Only the tree keeps a file from being made to exist. -/
theorem fault_of_ensureExists {f : Fault} (h : (s.ensureExists.run w).1 = .error f) :
    ∃ e, f = .disk e := by
  rw [run_ensureExists] at h
  generalize (DiskM.makeDirs s.path.parent 0o777 true).run w.disk = x at h
  obtain ⟨e | u, d⟩ := x
  · exact ⟨e, (Except.error.inj h).symm⟩
  · simp only at h
    generalize (DiskM.writeNew s.path heading 0o644).run d = y at h
    obtain ⟨e | u, d'⟩ := y
    · cases e <;> first | exact ⟨_, (Except.error.inj h).symm⟩ | cases h
    · cases h

/-- A grant fails in one of the ways in which it is refused, or because of the tree. -/
theorem fault_of_grant {container kind value : String} {f : Fault}
    (h : ((s.grant container kind value).run w).1 = .error f) :
    grantOf container kind value = .error f ∨ ∃ e, f = .disk e := by
  rw [run_grant] at h
  cases hr : grantOf container kind value with
  | error e =>
    rw [hr] at h
    exact .inl h
  | ok r =>
    simp only [hr] at h
    generalize (DiskM.makeDirs s.path.parent 0o777 true).run w.disk = x at h
    obtain ⟨e | u, d⟩ := x
    · exact .inr ⟨e, (Except.error.inj h).symm⟩
    · simp only at h
      generalize (DiskM.appendLine s.path r.line).run d = y at h
      obtain ⟨e | u, d'⟩ := y
      · exact .inr ⟨e, (Except.error.inj h).symm⟩
      · cases h

/-- The tree of files can make a grant fail, but not in one of the ways in which it is refused. -/
theorem run_grant_refused_iff {container kind value : String} {f : Fault}
    (hf : f.isRefusal = true) :
    ((s.grant container kind value).run w).1 = .error f ↔
      grantOf container kind value = .error f := by
  constructor
  · intro h
    obtain hof | ⟨e, rfl⟩ := s.fault_of_grant w h
    · exact hof
    · cases hf
  · intro h
    rw [run_grant_of_refused s w h]

/-- To revoke a kind that is not known leaves the world as it is. -/
theorem run_revoke_of_unknown (container : String) {kind : String} (hkind : kind ∉ Kind.names) :
    (s.revoke container kind).run w = (.error (.unknownKind kind), w) := by
  rw [run_revoke, Kind.parse_eq_error_iff.mpr ⟨rfl, hkind⟩]

/-- A revocation fails for its kind, or because of the tree. -/
theorem fault_of_revoke {container kind : String} {f : Fault}
    (h : ((s.revoke container kind).run w).1 = .error f) :
    (f = .unknownKind kind ∧ kind ∉ Kind.names) ∨ ∃ e, f = .disk e := by
  rw [run_revoke] at h
  cases hk : Kind.parse kind with
  | error e =>
    rw [hk] at h
    obtain rfl := Except.error.inj h
    exact .inl (Kind.parse_eq_error_iff.mp hk)
  | ok k =>
    simp only [hk] at h
    cases ht : w.disk.textAt s.path with
    | error e =>
      rw [ht] at h
      exact .inr ⟨e, (Except.error.inj h).symm⟩
    | ok t =>
      simp only [ht] at h
      split at h
      · cases h
      · generalize (DiskM.replace s.path (without container k t)).run w.disk = x at h
        obtain ⟨e | u, d⟩ := x
        · exact .inr ⟨e, (Except.error.inj h).symm⟩
        · cases h

/-- Revoking is refused for its kind alone. -/
theorem unknown_of_revoke_refused {container kind : String} {f : Fault} (hf : f.isRefusal = true)
    (h : ((s.revoke container kind).run w).1 = .error f) :
    f = .unknownKind kind ∧ kind ∉ Kind.names := by
  obtain hunknown | ⟨e, rfl⟩ := s.fault_of_revoke w h
  · exact hunknown
  · cases hf

/-- A grant is refused for its kind if no kind has the name; else for its container if this is no
key; else for its value if there is a break anywhere in it. So long as it is refused, or revoking
is, nothing at all happens: the tree of files, directories included, is as it was. -/
theorem grant_refusals (s : Store) (w : World) (container kind value : String) :
    (∀ x, ((s.grant container kind value).run w).1 = .error (.unknownKind x) ↔
      x = kind ∧ kind ∉ Kind.names) ∧
    (∀ x, ((s.grant container kind value).run w).1 = .error (.badName x) ↔
      x = container ∧ kind ∈ Kind.names ∧ ¬ IsKey container) ∧
    (∀ x, ((s.grant container kind value).run w).1 = .error (.lineBreak x) ↔
      x = value ∧ kind ∈ Kind.names ∧ IsKey container ∧ ∃ c ∈ value.toList, c ∈ lineBreaks) ∧
    (∀ f, f.isRefusal = true → ((s.grant container kind value).run w).1 = .error f →
      ((s.grant container kind value).run w).2 = w) ∧
    (∀ x, ((s.revoke container kind).run w).1 = .error (.unknownKind x) ↔
      x = kind ∧ kind ∉ Kind.names) ∧
    (∀ f, f.isRefusal = true → ((s.revoke container kind).run w).1 = .error f →
      ((s.revoke container kind).run w).2 = w) := by
  refine ⟨?_, ?_, ?_, ?_, ?_, ?_⟩
  · intro x
    rw [run_grant_refused_iff s w rfl, grantOf_eq_error_iff]
    simp
  · intro x
    rw [run_grant_refused_iff s w rfl, grantOf_eq_error_iff]
    simp
  · intro x
    rw [run_grant_refused_iff s w rfl, grantOf_eq_error_iff]
    simp
  · intro f hf h
    exact congrArg Prod.snd (run_grant_of_refused s w ((run_grant_refused_iff s w hf).mp h))
  · intro x
    constructor
    · intro h
      obtain ⟨hx, hnames⟩ := unknown_of_revoke_refused s w rfl h
      exact ⟨Fault.unknownKind.inj hx, hnames⟩
    · rintro ⟨rfl, hnames⟩
      exact congrArg Prod.fst (run_revoke_of_unknown s w container hnames)
  · intro f hf h
    obtain ⟨-, hnames⟩ := unknown_of_revoke_refused s w hf h
    exact congrArg Prod.snd (run_revoke_of_unknown s w container hnames)

end Store

end BoxWarden
