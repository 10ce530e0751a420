import BoxWarden.Proofs.Compile.Fold

/-!
What one record comes to. A record that is not set aside either leads to flags of its own kind or,
if it is about namespaces alone, leads to none and turns the isolation of a new container.
-/

namespace BoxWarden

/-- A kind that is about namespaces alone. -/
def Kind.isUnshare : Kind → Bool
  | .unshare _ | .unshareAll => true
  | _ => false

/-- What is known of a flag that a kind of grant leads to: it is of the kind, and one that the create
command takes itself is one of three options. -/
def Flag.IsOf (k : Kind) (f : Flag) : Prop :=
  f.kind = k ∧ (f.native = true →
    f.tokens = ["--root"] ∨ f.tokens = ["--init"] ∨ ∃ value, f.tokens = ["--hostname", value])

/-- The two forms of an effect: it has flags, all of the kind that asks for them, or it has none and
turns the isolation that a new container starts with. -/
theorem Kind.effect?_cases {h : Host} {k : Kind} {value : String} {e : Effect}
    (he : k.effect? h value = some e) :
    (k.isUnshare = false ∧ e.flags ≠ [] ∧ ∀ f ∈ e.flags, f.IsOf k) ∨
      (k.isUnshare = true ∧ e.flags = [] ∧ e.change.apply {} ≠ {}) := by
  cases k with
  | unshare n =>
    simp only [effect?, Option.ite_none_right_eq_some, Option.some.injEq] at he
    obtain ⟨-, rfl⟩ := he
    refine .inr ⟨rfl, rfl, ?_⟩
    cases n <;> decide
  | unshareAll =>
    simp only [effect?] at he
    split at he
    · obtain rfl := Option.some.inj he
      exact .inr ⟨rfl, rfl, by decide⟩
    · simp only [Option.ite_none_right_eq_some, Option.some.injEq] at he
      obtain ⟨-, rfl⟩ := he
      exact .inr ⟨rfl, rfl, by decide⟩
  | mount =>
    obtain ⟨m, -, rfl⟩ := Option.map_eq_some_iff.mp he
    exact .inl ⟨rfl, by simp [Flag.IsOf]⟩
  | homeFolder | hostname | capAdd | securityOpt =>
    simp only [effect?, effect?.withValue, Option.ite_none_left_eq_some, Option.some.injEq] at he
    obtain ⟨-, rfl⟩ := he
    exact .inl ⟨rfl, by simp [Flag.IsOf]⟩
  | _ =>
    -- the kinds that a value turns on, the network with its words included
    simp only [effect?, effect?.enabled, effect?.enabledNative, Option.ite_none_right_eq_some,
      Option.some.injEq] at he
    obtain ⟨-, rfl⟩ := he
    exact .inl ⟨rfl, by simp [Flag.IsOf]⟩

namespace Record

variable {h : Host} {r : Record}

theorem flags_of_effect? {e : Effect} (he : r.kind.effect? h r.value = some e) :
    r.flags h = e.flags := by
  rw [flags, he]
  rfl

theorem change_of_effect? {e : Effect} (he : r.kind.effect? h r.value = some e) :
    r.change h = e.change := by
  rw [change, he]
  rfl

/-- A record that is set aside asks for nothing. -/
theorem of_isIgnored (hr : r.isIgnored h = true) : r.flags h = [] ∧ r.change h = .keep := by
  rw [isIgnored, Option.isNone_iff_eq_none] at hr
  constructor
  · rw [flags, hr]
    rfl
  · rw [change, hr]
    rfl

theorem isOf_of_mem_flags {f : Flag} (hf : f ∈ r.flags h) : f.IsOf r.kind := by
  cases he : r.kind.effect? h r.value with
  | none => simp [flags, he] at hf
  | some e =>
    rw [flags_of_effect? he] at hf
    obtain ⟨-, -, hall⟩ | ⟨-, hnone, -⟩ := Kind.effect?_cases he
    · exact hall f hf
    · simp [hnone] at hf

/-- The records that are set aside are those without flags that leave a new container as isolated
as it is. -/
theorem isIgnored_iff : r.isIgnored h = true ↔ r.flags h = [] ∧ (r.change h).apply {} = {} := by
  constructor
  · intro hr
    obtain ⟨hflags, hchange⟩ := of_isIgnored hr
    exact ⟨hflags, by rw [hchange]; rfl⟩
  · rintro ⟨hflags, hchange⟩
    rw [isIgnored, Option.isNone_iff_eq_none]
    cases he : r.kind.effect? h r.value with
    | none => rfl
    | some e =>
      rw [flags_of_effect? he] at hflags
      rw [change_of_effect? he] at hchange
      obtain ⟨-, hne, -⟩ | ⟨-, -, hturns⟩ := Kind.effect?_cases he
      · exact absurd hflags hne
      · exact absurd hchange hturns

/-- A record without flags that is not set aside is about namespaces. -/
theorem isUnshare_of_flags (hflags : r.flags h = []) (hr : r.isIgnored h = false) :
    r.kind.isUnshare = true := by
  cases he : r.kind.effect? h r.value with
  | none => simp [isIgnored, he] at hr
  | some e =>
    rw [flags_of_effect? he] at hflags
    obtain ⟨-, hne, -⟩ | ⟨hk, -⟩ := Kind.effect?_cases he
    · exact absurd hflags hne
    · exact hk

end Record

theorem compile_singleton (h : Host) (r : Record) :
    compile h [r] =
      ⟨r.flags h, (r.change h).apply {}, if r.isIgnored h then [r] else []⟩ := by
  rw [compile, List.foldl_cons, List.foldl_nil, Compiled.add_eq]
  rfl

/-- A record is found among those set aside where it stands and is set aside. -/
theorem mem_ignored_compile {h : Host} {records : List Record} {r : Record} :
    r ∈ (compile h records).ignored ↔ r ∈ records ∧ r.isIgnored h = true := by
  rw [compile_eq, List.mem_filter]

theorem ignored_singleton_iff {h : Host} {r : Record} :
    (compile h [r]).ignored = [r] ↔ r.isIgnored h = true := by
  rw [compile_singleton]
  cases r.isIgnored h <;> simp

end BoxWarden
