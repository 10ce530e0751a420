import BoxWarden.Proofs.Compile.Fold

/-!
The isolation that a list of records comes to. Each of the five namespaces is shared as soon as one
record shares it, in whatever order they come; the switch for all the rest is as the last record
leaves it that turns it.
-/

namespace BoxWarden

/-- A value that turns something on does not turn it off. -/
theorem isDisable_of_isEnable {value : String} (h : isEnable value = true) :
    isDisable value = false := by
  have hwords : ∀ v ∈ enableWords, v ∉ disableWords := by decide
  rw [isEnable, List.contains_iff_mem] at h
  rw [isDisable, ← Bool.not_eq_true, List.contains_iff_mem]
  exact hwords _ h

namespace Record

variable (h : Host) (r : Record)

/-- A record that shares everything with the host. -/
def SharesAll : Prop := r.kind = .unshareAll ∧ isDisable r.value = true

/-- A record that isolates all the rest. -/
def IsolatesRest : Prop := r.kind = .unshareAll ∧ isEnable r.value = true

/-- A record that shares a namespace with the host. A network that the host or a bridge provides
needs the network of the host, and devices on the bus need its devices. -/
def Shares : Namespace → Prop
  | .netns => (r.kind = .network ∧ (word r.value = "host" ∨ word r.value = "bridge")) ∨
      (r.kind = .unshare .netns ∧ isDisable r.value = true) ∨ r.SharesAll
  | .devsys => (r.kind = .usb ∧ isEnable r.value = true) ∨
      (r.kind = .unshare .devsys ∧ isDisable r.value = true) ∨ r.SharesAll
  | n => (r.kind = .unshare n ∧ isDisable r.value = true) ∨ r.SharesAll

/-- Only nine kinds change the isolation at all. -/
theorem change_eq : r.change h =
    match r.kind with
    | .network => if networkModes.contains (word r.value) then .share .netns else .keep
    | .usb => if isEnable r.value then .share .devsys else .keep
    | .unshare n => if isDisable r.value then .share n else .keep
    | .unshareAll =>
      if isDisable r.value then .shareAll
      else if isEnable r.value then .isolateRest
      else .keep
    | _ => .keep := by
  unfold change
  cases r.kind with
  | homeFolder =>
    simp only [Kind.effect?]
    split <;> rfl
  | mount =>
    simp only [Kind.effect?]
    cases splitMount? r.value <;> rfl
  | network =>
    simp only [Kind.effect?]
    split <;> rfl
  | usb =>
    simp only [Kind.effect?]
    split <;> rfl
  | unshare n =>
    simp only [Kind.effect?]
    split <;> rfl
  | unshareAll =>
    simp only [Kind.effect?]
    split
    · rfl
    · split <;> rfl
  | hostname | capAdd | securityOpt =>
    simp only [Kind.effect?, Kind.effect?.withValue]
    split <;> rfl
  | root | init =>
    simp only [Kind.effect?, Kind.effect?.enabledNative]
    split <;> rfl
  | x11 | wayland | audio | gpu | webcam | privileged =>
    simp only [Kind.effect?, Kind.effect?.enabled]
    split <;> rfl

end Record

namespace Change

/-- Whether a change shares a namespace with the host. -/
def shares : Change → Namespace → Bool
  | .share m, n => n == m
  | .shareAll, _ => true
  | _, _ => false

theorem has_apply (c : Change) (s : Isolation) (n : Namespace) :
    (c.apply s).has n = (s.has n && !c.shares n) := by
  cases c with
  | share m => exact Isolation.has_share s m n
  | _ => simp [apply, shares]

theorem rest_apply (c : Change) (s : Isolation) :
    (c.apply s).rest = true ↔ c = .isolateRest ∨ c ≠ .shareAll ∧ s.rest = true := by
  cases c <;> simp [apply]

end Change

namespace Record

variable (h : Host) (r : Record)

theorem shares_change (n : Namespace) : (r.change h).shares n = true ↔ r.Shares n := by
  rw [change_eq]
  cases hk : r.kind with
  | network =>
    have hmode : networkModes.contains (word r.value) = true ↔
        word r.value = "host" ∨ word r.value = "bridge" := by simp [networkModes]
    by_cases hv : networkModes.contains (word r.value) = true
    · have hword := hmode.mp hv
      simp only [if_pos hv]
      cases n <;> simp [hword, hk, Change.shares, Shares, SharesAll]
    · have hword := fun hw => hv (hmode.mpr hw)
      simp only [if_neg hv]
      cases n <;> simp [hk, Change.shares, Shares, SharesAll]
      exact not_or.mp hword
  | usb =>
    cases hv : isEnable r.value <;> cases n <;> simp [hv, hk, Change.shares, Shares, SharesAll]
  | unshare m =>
    cases hv : isDisable r.value <;> cases n <;> cases m <;>
      simp [hv, hk, Change.shares, Shares, SharesAll]
  | unshareAll =>
    cases hv : isDisable r.value <;> cases he : isEnable r.value <;> cases n <;>
      simp [hv, he, hk, Change.shares, Shares, SharesAll]
  | _ => cases n <;> simp [hk, Change.shares, Shares, SharesAll]

theorem change_eq_shareAll : r.change h = .shareAll ↔ r.SharesAll := by
  rw [change_eq]
  cases hk : r.kind with
  | unshareAll =>
    cases hv : isDisable r.value with
    | true => simp [hv, hk, SharesAll]
    | false => cases he : isEnable r.value <;> simp [hv, hk, SharesAll]
  | network | usb | unshare n =>
    dsimp only
    split <;> simp [hk, SharesAll]
  | _ => simp [hk, SharesAll]

theorem change_eq_isolateRest : r.change h = .isolateRest ↔ r.IsolatesRest := by
  rw [change_eq]
  cases hk : r.kind with
  | unshareAll =>
    cases he : isEnable r.value with
    | false => cases hv : isDisable r.value <;> simp [he, hk, IsolatesRest]
    | true => simp [isDisable_of_isEnable he, he, hk, IsolatesRest]
  | network | usb | unshare n =>
    dsimp only
    split <;> simp [hk, IsolatesRest]
  | _ => simp [hk, IsolatesRest]

end Record

section
variable (h : Host)

/-- The five do not depend on what comes after what: one record that shares a namespace is enough.
The induction is on the records, with the state before them. -/
theorem has_foldl_change (records : List Record) (s : Isolation) (n : Namespace) :
    (records.foldl (fun s r => (r.change h).apply s) s).has n = false ↔
      s.has n = false ∨ ∃ r ∈ records, r.Shares n := by
  induction records generalizing s with
  | nil => simp
  | cons r records ih =>
    rw [List.foldl_cons, ih, Change.has_apply, Bool.and_eq_false_iff, Bool.not_eq_false',
      Record.shares_change, or_assoc]
    simp

/-- The rest is as the last record leaves it that turns it. -/
theorem rest_foldl_change (records : List Record) (s : Isolation) :
    (records.foldl (fun s r => (r.change h).apply s) s).rest = true ↔
      (s.rest = true ∧ ∀ r ∈ records, ¬ r.SharesAll) ∨
        ∃ before r after, records = before ++ r :: after ∧ r.IsolatesRest ∧
          ∀ x ∈ after, ¬ x.SharesAll := by
  induction records generalizing s with
  | nil => simp
  | cons r records ih =>
    rw [List.foldl_cons, ih, Change.rest_apply, Record.change_eq_isolateRest, ne_eq,
      Record.change_eq_shareAll]
    constructor
    · rintro (⟨hr | ⟨hr, hs⟩, hrest⟩ | ⟨before, x, after, hsplit, hx, hafter⟩)
      · exact .inr ⟨[], r, records, rfl, hr, hrest⟩
      · exact .inl ⟨hs, List.forall_mem_cons.mpr ⟨hr, hrest⟩⟩
      · exact .inr ⟨r :: before, x, after, by rw [hsplit]; rfl, hx, hafter⟩
    · rintro (⟨hs, hrest⟩ | ⟨before, x, after, hsplit, hx, hafter⟩)
      · obtain ⟨hr, hrest⟩ := List.forall_mem_cons.mp hrest
        exact .inl ⟨.inr ⟨hr, hs⟩, hrest⟩
      · cases before with
        | nil =>
          obtain ⟨rfl, rfl⟩ := List.cons_eq_cons.mp hsplit
          exact .inl ⟨.inl hx, hafter⟩
        | cons y before =>
          rw [List.cons_append] at hsplit
          obtain ⟨rfl, htail⟩ := List.cons_eq_cons.mp hsplit
          exact .inr ⟨before, x, after, htail, hx, hafter⟩

/-- A namespace is shared if some record shares it. -/
theorem has_compile (records : List Record) (n : Namespace) :
    (compile h records).isolation.has n = false ↔ ∃ r ∈ records, r.Shares n := by
  have hnew : ({} : Isolation).has n = true := by cases n <;> rfl
  rw [compile_eq, has_foldl_change, hnew]
  simp

theorem rest_compile (records : List Record) :
    (compile h records).isolation.rest = true ↔
      ∃ before r after, records = before ++ r :: after ∧ r.IsolatesRest ∧
        ∀ x ∈ after, ¬ x.SharesAll := by
  rw [compile_eq, rest_foldl_change]
  simp

/-- The flag of a namespace, where it is isolated. -/
def flagIf (isolated : Bool) (flag : String) : List String := if isolated then [flag] else []

theorem flags_eq (s : Isolation) :
    s.flags = flagIf s.netns "--unshare-netns" ++ flagIf s.devsys "--unshare-devsys" ++
      flagIf s.groups "--unshare-groups" ++ flagIf s.ipc "--unshare-ipc" ++
        flagIf s.process "--unshare-process" ++ flagIf s.rest "--unshare-all" := by
  obtain ⟨netns, devsys, groups, ipc, process, rest⟩ := s
  cases netns <;> cases devsys <;> cases groups <;> cases ipc <;> cases process <;> rfl

theorem nodup_flags (s : Isolation) : s.flags.Nodup := by
  obtain ⟨netns, devsys, groups, ipc, process, rest⟩ := s
  cases netns <;> cases devsys <;> cases groups <;> cases ipc <;> cases process <;> cases rest <;>
    decide

/-- The whole of the isolation that a list of records comes to, and the flags for it. The five
namespaces do not depend on the order of the records, and no record more isolates one of them
again. -/
theorem isolation_compile (h : Host) (records : List Record) :
    let s := (compile h records).isolation
    (s.netns = false ↔ ∃ r ∈ records,
      (r.kind = .network ∧ (word r.value = "host" ∨ word r.value = "bridge")) ∨
        (r.kind = .unshare .netns ∧ isDisable r.value = true) ∨
          (r.kind = .unshareAll ∧ isDisable r.value = true)) ∧
    (s.devsys = false ↔ ∃ r ∈ records,
      (r.kind = .usb ∧ isEnable r.value = true) ∨
        (r.kind = .unshare .devsys ∧ isDisable r.value = true) ∨
          (r.kind = .unshareAll ∧ isDisable r.value = true)) ∧
    (s.groups = false ↔ ∃ r ∈ records,
      (r.kind = .unshare .groups ∧ isDisable r.value = true) ∨
        (r.kind = .unshareAll ∧ isDisable r.value = true)) ∧
    (s.ipc = false ↔ ∃ r ∈ records,
      (r.kind = .unshare .ipc ∧ isDisable r.value = true) ∨
        (r.kind = .unshareAll ∧ isDisable r.value = true)) ∧
    (s.process = false ↔ ∃ r ∈ records,
      (r.kind = .unshare .process ∧ isDisable r.value = true) ∨
        (r.kind = .unshareAll ∧ isDisable r.value = true)) ∧
    (s.rest = true ↔ ∃ before r after,
      records = before ++ r :: after ∧ (r.kind = .unshareAll ∧ isEnable r.value = true) ∧
        ∀ x ∈ after, ¬ (x.kind = .unshareAll ∧ isDisable x.value = true)) ∧
    (compile h records).unshare =
      flagIf s.netns "--unshare-netns" ++ flagIf s.devsys "--unshare-devsys" ++
        flagIf s.groups "--unshare-groups" ++ flagIf s.ipc "--unshare-ipc" ++
          flagIf s.process "--unshare-process" ++ flagIf s.rest "--unshare-all" ∧
    (compile h records).unshare.Nodup ∧
    (∀ others, records.Perm others →
      ∀ n, (compile h others).isolation.has n = s.has n) ∧
    (∀ before after r, records = before ++ after →
      ∀ n, s.has n = false → (compile h (before ++ r :: after)).isolation.has n = false) := by
  intro s
  refine ⟨has_compile h records .netns, has_compile h records .devsys, has_compile h records .groups,
    has_compile h records .ipc, has_compile h records .process, rest_compile h records,
    flags_eq _, nodup_flags _, ?_, ?_⟩
  · intro others hperm n
    have hiff : (compile h others).isolation.has n = false ↔
        (compile h records).isolation.has n = false := by
      rw [has_compile, has_compile]
      simp only [hperm.mem_iff]
    cases hn : (compile h records).isolation.has n with
    | false => exact hiff.mpr hn
    | true => simpa [hn] using hiff
  · rintro before after r rfl n hn
    rw [has_compile] at hn ⊢
    obtain ⟨x, hx, hshares⟩ := hn
    refine ⟨x, ?_, hshares⟩
    rw [List.mem_append] at hx
    rw [List.mem_append, List.mem_cons]
    exact hx.imp_right .inr

end

end BoxWarden
