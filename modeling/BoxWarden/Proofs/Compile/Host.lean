import BoxWarden.CreateCommand
import BoxWarden.Markup
import BoxWarden.Proofs.Compile.Fold
import Mathlib.Data.List.Basic

/-!
What a container can learn of its host. Three kinds of grant hand something of the host on, and they
do so only where their value turns them on: two hosts lead to the same result exactly if they agree
on what such grants hand on.
-/

namespace BoxWarden

/-- What a grant of a kind hands on of the host, where it is turned on. -/
def Kind.handsOn (h : Host) : Kind → List String
  | .x11 => [h.display, h.xauthority]
  | .wayland => [h.waylandSocket, h.waylandDisplay]
  | .audio => [h.pulseSocket]
  | _ => []

/-- A path that is bound to itself can be told from the flag for it. -/
theorem volume_self_eq_iff {s t : String} : volume s s = volume t t ↔ s = t := by
  constructor
  · intro h
    simp only [volume, List.cons.injEq, true_and, and_true] at h
    have hlist := congrArg String.toList h
    simp only [String.toList_append, List.append_assoc] at hlist
    have hlength := congrArg List.length hlist
    simp only [List.length_append] at hlength
    exact String.toList_inj.mp (List.append_inj hlist (by omega)).1
  · rintro rfl
    rfl

section
variable {h₁ h₂ : Host}

theorem Kind.effect?_congr {k : Kind} {value : String}
    (hagree : isEnable value = true → k.handsOn h₁ = k.handsOn h₂) :
    k.effect? h₁ value = k.effect? h₂ value := by
  cases k with
  | x11 | wayland | audio =>
    simp only [effect?, effect?.enabled]
    cases hv : isEnable value with
    -- the two sides name different flags, but neither gets to them
    | false => simp only [Bool.false_eq_true, if_false]
    | true =>
      have hsame := hagree hv
      simp only [handsOn, List.cons.injEq, and_true] at hsame
      simp only [hsame]
  | _ => simp only [effect?, effect?.enabled, effect?.enabledNative, effect?.withValue]

theorem Compiled.add_congr {r : Record}
    (hagree : isEnable r.value = true → r.kind.handsOn h₁ = r.kind.handsOn h₂) (c : Compiled) :
    c.add h₁ r = c.add h₂ r := by
  rw [add, add, Kind.effect?_congr hagree]

theorem Record.flags_congr {r : Record}
    (hagree : isEnable r.value = true → r.kind.handsOn h₁ = r.kind.handsOn h₂) :
    r.flags h₁ = r.flags h₂ := by
  rw [flags, flags, Kind.effect?_congr hagree]

/-- How many flags a record leads to does not depend on the host. -/
theorem Record.length_flags (r : Record) : (r.flags h₁).length = (r.flags h₂).length := by
  obtain ⟨container, kind, value⟩ := r
  cases kind with
  | x11 | wayland | audio =>
    simp only [flags, Kind.effect?, Kind.effect?.enabled]
    cases isEnable value <;> simp
  | _ => exact congrArg List.length (flags_congr fun _ => rfl)

/-- What a record hands on of the host can be told from its flags. -/
theorem Record.handsOn_of_flags {r : Record} (hflags : r.flags h₁ = r.flags h₂)
    (hv : isEnable r.value = true) : r.kind.handsOn h₁ = r.kind.handsOn h₂ := by
  obtain ⟨container, kind, value⟩ := r
  simp only at hv
  cases kind with
  | x11 | wayland | audio =>
    simp only [flags, Kind.effect?, Kind.effect?.enabled, hv] at hflags
    simpa [Kind.handsOn, volume_self_eq_iff] using hflags
  | _ => rfl

/-- The flags of a list agree only if those of each record do. The induction is on the records; how
many flags the first one has is the same on both sides. -/
theorem flags_eq_of_flatMap {records : List Record}
    (hflags : records.flatMap (·.flags h₁) = records.flatMap (·.flags h₂)) :
    ∀ r ∈ records, r.flags h₁ = r.flags h₂ := by
  induction records with
  | nil => simp
  | cons x records ih =>
    rw [List.flatMap_cons, List.flatMap_cons] at hflags
    obtain ⟨hx, hrest⟩ := List.append_inj hflags x.length_flags
    intro r hr
    rcases List.mem_cons.mp hr with rfl | hr
    · exact hx
    · exact ih hrest r hr

/-- Two hosts lead to the same result exactly if they agree on what the grants hand on that are
turned on. -/
theorem compile_eq_compile_iff {records : List Record} :
    compile h₁ records = compile h₂ records ↔
      ∀ r ∈ records, isEnable r.value = true → r.kind.handsOn h₁ = r.kind.handsOn h₂ := by
  constructor
  · intro hsame r hr
    rw [compile_eq, compile_eq] at hsame
    exact Record.handsOn_of_flags (flags_eq_of_flatMap (congrArg Compiled.flags hsame) r hr)
  · intro hagree
    apply List.foldl_ext
    intro c r hr
    exact Compiled.add_congr (hagree r hr) c

end

/-- Whether a kind of grant is turned on in a list of records. -/
def TurnsOn (k : Kind) (records : List Record) : Prop :=
  ∃ r ∈ records, r.kind = k ∧ isEnable r.value = true

instance (k : Kind) (records : List Record) : Decidable (TurnsOn k records) :=
  inferInstanceAs (Decidable (∃ r ∈ records, r.kind = k ∧ isEnable r.value = true))

/-- Hosts that agree on the fields that the grants need that are turned on agree on what these hand
on. -/
theorem handsOn_of_agree {h₁ h₂ : Host} {records : List Record}
    (hx11 : TurnsOn .x11 records → h₁.display = h₂.display ∧ h₁.xauthority = h₂.xauthority)
    (hwayland : TurnsOn .wayland records →
      h₁.waylandDisplay = h₂.waylandDisplay ∧ h₁.runtimeDir = h₂.runtimeDir)
    (haudio : TurnsOn .audio records → h₁.runtimeDir = h₂.runtimeDir) :
    ∀ r ∈ records, isEnable r.value = true → r.kind.handsOn h₁ = r.kind.handsOn h₂ := by
  intro r hr hv
  cases hk : r.kind with
  | x11 =>
    obtain ⟨hdisplay, hauthority⟩ := hx11 ⟨r, hr, hk, hv⟩
    rw [Kind.handsOn, Kind.handsOn, hdisplay, hauthority]
  | wayland =>
    obtain ⟨hdisplay, hdir⟩ := hwayland ⟨r, hr, hk, hv⟩
    rw [Kind.handsOn, Kind.handsOn, Host.waylandSocket, Host.waylandSocket, hdisplay, hdir]
  | audio =>
    rw [Kind.handsOn, Kind.handsOn, Host.pulseSocket, Host.pulseSocket, haudio ⟨r, hr, hk, hv⟩]
  | _ => rfl

/-- Nothing of the host reaches a container but through a grant that needs it. Hosts that agree on
the fields that such grants need lead to the same flags, isolation and records set aside, hence to
the same command and summaries; and where no use of the display is granted, the display and its
authority file make no difference at all. -/
theorem compile_of_hosts_agree {h₁ h₂ : Host} {records : List Record}
    (hx11 : TurnsOn .x11 records → h₁.display = h₂.display ∧ h₁.xauthority = h₂.xauthority)
    (hwayland : TurnsOn .wayland records →
      h₁.waylandDisplay = h₂.waylandDisplay ∧ h₁.runtimeDir = h₂.runtimeDir)
    (haudio : TurnsOn .audio records → h₁.runtimeDir = h₂.runtimeDir) :
    let c₁ := compile h₁ records
    let c₂ := compile h₂ records
    c₁.unshare = c₂.unshare ∧ c₁.flags = c₂.flags ∧ c₁.isolation = c₂.isolation ∧
      c₁.ignored = c₂.ignored ∧
      (∀ name image home, createCommand name image home c₁.unshare c₁.flags =
        createCommand name image home c₂.unshare c₂.flags) ∧
      c₁.summary = c₂.summary ∧ c₁.colouredSummary = c₂.colouredSummary ∧
      (¬ TurnsOn .x11 records → ∀ display xauthority name image home,
        let c := compile { h₁ with display := display, xauthority := xauthority } records
        createCommand name image home c.unshare c.flags =
          createCommand name image home c₁.unshare c₁.flags) := by
  intro c₁ c₂
  have hsame : c₁ = c₂ := compile_eq_compile_iff.mpr (handsOn_of_agree hx11 hwayland haudio)
  refine ⟨by rw [hsame], by rw [hsame], by rw [hsame], by rw [hsame], fun _ _ _ => by rw [hsame],
    by rw [hsame], by rw [hsame], ?_⟩
  intro hoff display xauthority name image home c
  have hdisplay : c = c₁ := compile_eq_compile_iff.mpr
    (handsOn_of_agree (fun hon => absurd hon hoff) (fun _ => ⟨rfl, rfl⟩) (fun _ => rfl))
  rw [hdisplay]

/-- Two hosts with displays of their own, and grants that use sound and Wayland but not the display:
a word that turns nothing on does not count. -/
theorem compile_of_hosts_agree_desk :
    let h₁ : Host := { display := ":7", xauthority := "/run/auth", runtimeDir := "/run/user/7" }
    let h₂ : Host := { runtimeDir := "/run/user/7" }
    let records : List Record :=
      [⟨"dev", .wayland, " Yes"⟩, ⟨"dev", .audio, "1"⟩, ⟨"dev", .x11, "maybe"⟩]
    ¬ TurnsOn .x11 records ∧ TurnsOn .wayland records ∧ TurnsOn .audio records ∧
      h₁.display ≠ h₂.display ∧ h₁.xauthority ≠ h₂.xauthority ∧
      h₁.waylandDisplay = h₂.waylandDisplay ∧ h₁.runtimeDir = h₂.runtimeDir ∧
      (compile h₁ records).flags = (compile h₂ records).flags ∧
      (compile h₁ records).flags.length = 4 := by
  intro h₁ h₂ records
  have hoff : ¬ TurnsOn .x11 records := by decide
  obtain ⟨-, hflags, -⟩ := @compile_of_hosts_agree h₁ h₂ records (fun hon => absurd hon hoff)
    (fun _ => ⟨rfl, rfl⟩) (fun _ => rfl)
  exact ⟨hoff, by decide, by decide, by decide, by decide, rfl, rfl, hflags, by decide⟩

end BoxWarden
