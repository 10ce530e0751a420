import BoxWarden.Proofs.Compile.Effect

/-!
Host paths and the flags that bind them. Which host path a grant exposes is read off its value once
to check it and once more to compile it, in two places that do not know of each other. Both come to
the same: a folder of the home or a mount has a host path exactly if it is not set aside, and its
only flag binds that path. What the other kinds bind is fixed, or up to the host.
-/

namespace BoxWarden

/-- A flag that binds a path of the host. -/
def Flag.isVolume (f : Flag) : Bool := f.tokens.head? = some "--volume"

/-- A mount splits at its first colon, and only into parts that are not empty. -/
theorem splitMount?_eq_some_iff {value source target : String} :
    splitMount? value = some (source, target) ↔
      value = source ++ ":" ++ target ∧ ':' ∉ source.toList ∧ source ≠ "" ∧ target ≠ "" := by
  unfold splitMount?
  constructor
  · intro h
    cases hcut : Text.cut? ':' value.toList with
    | none => simp [hcut] at h
    | some parts =>
      obtain ⟨a, b⟩ := parts
      simp only [hcut, Option.ite_none_left_eq_some, not_or, Option.some.injEq,
        Prod.mk.injEq] at h
      obtain ⟨⟨ha, hb⟩, rfl, rfl⟩ := h
      obtain ⟨hvalue, hfree⟩ := Text.eq_of_cut? hcut
      refine ⟨?_, by simpa using hfree, by simpa using ha, by simpa using hb⟩
      apply String.toList_injective
      simp [hvalue]
  · rintro ⟨rfl, hfree, hsource, htarget⟩
    have hlist : (source ++ ":" ++ target).toList = source.toList ++ ':' :: target.toList := by simp
    rw [hlist, Text.cut?_append hfree]
    simp [hsource, htarget]

namespace Kind

variable {h : Host} {k : Kind} {value path : String}

theorem hostPath?_homeFolder_eq_some_iff :
    homeFolder.hostPath? value = some path ↔ path = Text.trim value ∧ path ≠ "" := by
  simp only [hostPath?, hostPath?.nonEmptyText?, Option.ite_none_left_eq_some, Option.some.injEq]
  constructor
  · rintro ⟨hne, rfl⟩
    exact ⟨rfl, hne⟩
  · rintro ⟨rfl, hne⟩
    exact ⟨hne, rfl⟩

theorem hostPath?_mount_eq_some_iff :
    mount.hostPath? value = some path ↔ ∃ target,
      value = path ++ ":" ++ target ∧ ':' ∉ path.toList ∧ path ≠ "" ∧ target ≠ "" := by
  simp [hostPath?, splitMount?_eq_some_iff]

/-- Only folders of the home and mounts expose a host path. -/
theorem hostPath?_eq_none (hfolder : k ≠ .homeFolder) (hmount : k ≠ .mount) :
    k.hostPath? value = none := by
  cases k with
  | homeFolder => exact absurd rfl hfolder
  | mount => exact absurd rfl hmount
  | _ => rfl

/-- A host path is bound by the one flag that the grant asks for: a folder of the home to itself,
the source of a mount to what follows it in the value. -/
theorem binds_of_hostPath? (h : Host) (hpath : k.hostPath? value = some path) :
    ∃ target, k.effect? h value = some ⟨[⟨k, volume path target, false⟩], .keep⟩ ∧
      (k = .homeFolder → target = path) ∧
      (k = .mount → value = path ++ ":" ++ target ∧ ':' ∉ path.toList ∧ path ≠ "" ∧
        target ≠ "") := by
  cases k with
  | homeFolder =>
    obtain ⟨rfl, hne⟩ := hostPath?_homeFolder_eq_some_iff.mp hpath
    exact ⟨_, if_neg hne, fun _ => rfl, nofun⟩
  | mount =>
    obtain ⟨target, hparts⟩ := hostPath?_mount_eq_some_iff.mp hpath
    have hsplit : splitMount? value = some (path, target) := splitMount?_eq_some_iff.mpr hparts
    exact ⟨target, by rw [effect?, hsplit]; rfl, nofun, fun _ => hparts⟩
  | _ => cases hpath

/-- Of the kinds that expose a host path, the values without one are those that make no sense. -/
theorem effect?_eq_none_iff (hk : k = .homeFolder ∨ k = .mount) :
    k.effect? h value = none ↔ k.hostPath? value = none := by
  obtain rfl | rfl := hk
  · simp [effect?, hostPath?, hostPath?.nonEmptyText?]
  · simp [effect?, hostPath?]

/-- What the other kinds ask for either depends on no more of the value than whether it turns
something on, or binds nothing. -/
theorem effect?_congr_or_no_volume (hfolder : k ≠ .homeFolder) (hmount : k ≠ .mount) (h : Host) :
    (∀ value value', isEnable value' = isEnable value →
      k.effect? h value' = k.effect? h value) ∨
    (∀ value e, k.effect? h value = some e → ∀ f ∈ e.flags, f.isVolume = false) := by
  cases k with
  | homeFolder => exact absurd rfl hfolder
  | mount => exact absurd rfl hmount
  | x11 | wayland | audio | gpu | usb | webcam | privileged | root | init =>
    refine .inl fun value value' henable => ?_
    simp only [effect?, effect?.enabled, effect?.enabledNative, henable]
  | network | hostname | capAdd | securityOpt =>
    -- more of the value gets into these flags, but as what follows an option of their own
    refine .inr fun value e he => ?_
    simp only [effect?, effect?.withValue, Option.ite_none_left_eq_some,
      Option.ite_none_right_eq_some, Option.some.injEq] at he
    obtain ⟨-, rfl⟩ := he
    simp [Flag.isVolume]
  | unshare | unshareAll =>
    refine .inr fun value e he => ?_
    obtain ⟨hk, -⟩ | ⟨-, hnone, -⟩ := effect?_cases he
    · cases hk
    · simp [hnone]

end Kind

theorem Record.no_volume_of_effect? {h : Host} {r : Record}
    (hall : ∀ e, r.kind.effect? h r.value = some e → ∀ f ∈ e.flags, f.isVolume = false) :
    (r.flags h).filter Flag.isVolume = [] := by
  rw [List.filter_eq_nil_iff]
  intro f hf
  cases he : r.kind.effect? h r.value with
  | none => simp [flags, he] at hf
  | some e =>
    rw [flags_of_effect? he] at hf
    simp [hall e he f hf]

/-- A grant of a folder of the home or of a mount has no host path exactly if it is set aside. Its
host path, if it has one, is bound by the one flag that it leads to: a folder of the home to the
same path in the container, the source of a mount, which is free of colons, to what follows it.
A grant of any other kind has no host path, and what it binds depends on its value only as far as
the value turns it on. -/
theorem hostPath_agrees_with_flags (h : Host) (r : Record) :
    (r.kind = .homeFolder ∨ r.kind = .mount →
      (r.kind.hostPath? r.value = none ↔ (compile h [r]).ignored = [r]) ∧
      ∀ path, r.kind.hostPath? r.value = some path → ∃ target,
        compile h [r] = {
          flags := [⟨r.kind, ["--volume", path ++ ":" ++ target ++ ":rw"], false⟩] } ∧
        (r.kind = .homeFolder → target = path) ∧
        (r.kind = .mount → r.value = path ++ ":" ++ target ∧ ':' ∉ path.toList ∧ path ≠ "" ∧
          target ≠ "")) ∧
    (r.kind ≠ .homeFolder → r.kind ≠ .mount →
      r.kind.hostPath? r.value = none ∧
      ∀ value, isEnable value = isEnable r.value →
        (compile h [{ r with value := value }]).flags.filter Flag.isVolume =
          (compile h [r]).flags.filter Flag.isVolume) := by
  refine ⟨fun hk => ⟨?_, fun path hpath => ?_⟩, fun hfolder hmount => ⟨?_, fun value henable => ?_⟩⟩
  · rw [ignored_singleton_iff, Record.isIgnored, Option.isNone_iff_eq_none,
      Kind.effect?_eq_none_iff hk]
  · obtain ⟨target, heffect, hself, hparts⟩ := Kind.binds_of_hostPath? h hpath
    refine ⟨target, ?_, hself, hparts⟩
    rw [compile_singleton, Record.flags_of_effect? heffect, Record.change_of_effect? heffect,
      Record.isIgnored, heffect]
    rfl
  · exact Kind.hostPath?_eq_none hfolder hmount
  · rw [compile_singleton, compile_singleton]
    obtain hcongr | hnone := Kind.effect?_congr_or_no_volume hfolder hmount h
    · simp only [Record.flags, hcongr _ _ henable]
    · have hbinds : ∀ v, (Record.flags h { r with value := v }).filter Flag.isVolume = [] :=
        fun v => Record.no_volume_of_effect? (hnone v)
      exact (hbinds value).trans (hbinds r.value).symm

example : Kind.mount.hostPath? "/a::/b" = some "/a" ∧
    (compile {} [⟨"dev", .mount, "/a::/b"⟩]).flags =
      [⟨.mount, ["--volume", "/a::/b:rw"], false⟩] := by decide

end BoxWarden
