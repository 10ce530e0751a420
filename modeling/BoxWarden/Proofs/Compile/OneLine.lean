import BoxWarden.Proofs.Compile.Fold

/-!
Records that are one line. What a record comes to is put together from the words of the program, the
value of the record and the fields of the host: where these hold no newline, no token of a flag
holds one.
-/

namespace BoxWarden

/-- A text without newlines. -/
def OneLine (s : String) : Prop := '\n' ∉ s.toList

instance (s : String) : Decidable (OneLine s) := inferInstanceAs (Decidable ('\n' ∉ s.toList))

@[simp] theorem oneLine_append {s t : String} : OneLine (s ++ t) ↔ OneLine s ∧ OneLine t := by
  simp [OneLine, not_or]

/-- A text with characters of another one only. -/
theorem OneLine.of_subset {s : String} (h : OneLine s) {l : List Char} (hl : l ⊆ s.toList) :
    OneLine (String.ofList l) := by
  rw [OneLine, String.toList_ofList]
  exact fun hmem => h (hl hmem)

theorem Text.trim_subset (s : String) :
    dropEndWhile isBlank (s.toList.dropWhile isBlank) ⊆ s.toList := by
  rw [dropEndWhile, List.reverse_subset]
  refine List.Subset.trans (List.dropWhile_subset _) (List.reverse_subset.mpr ?_)
  exact List.dropWhile_subset _

theorem OneLine.trim {s : String} (h : OneLine s) : OneLine (Text.trim s) :=
  h.of_subset (Text.trim_subset s)

theorem OneLine.intercalate {sep : String} (hsep : OneLine sep) {ss : List String}
    (h : ∀ s ∈ ss, OneLine s) : OneLine (sep.intercalate ss) := by
  induction ss with
  | nil => simp [OneLine]
  | cons s ss ih =>
    obtain ⟨hs, hss⟩ := List.forall_mem_cons.mp h
    cases ss with
    | nil => rwa [String.intercalate_singleton]
    | cons t ss =>
      rw [String.intercalate_cons_cons, oneLine_append, oneLine_append]
      exact ⟨⟨hs, hsep⟩, ih hss⟩

namespace Path

/-- A path whose parts are texts of one line. -/
def IsOneLine (p : Path) : Prop := ∀ part ∈ p.parts, OneLine part

theorem isOneLine_parse {s : String} (h : OneLine s) : (parse s).IsOneLine := by
  intro part hpart
  obtain ⟨piece, hpiece, rfl⟩ := List.mem_map.mp hpart
  exact h.of_subset (Text.subset_of_mem_pieces (List.mem_filter.mp hpiece).1)

theorem IsOneLine.child {p : Path} (h : p.IsOneLine) {part : String} (hpart : OneLine part) :
    (p.child part).IsOneLine :=
  List.forall_mem_append.mpr ⟨h, List.forall_mem_singleton.mpr hpart⟩

theorem IsOneLine.join {p : Path} (h : p.IsOneLine) {s : String} (hs : OneLine s) :
    (p.join s).IsOneLine := by
  rw [Path.join]
  change (Path.append p (parse s)).IsOneLine
  unfold Path.append
  split
  · exact List.forall_mem_append.mpr ⟨h, isOneLine_parse hs⟩
  · exact isOneLine_parse hs

theorem IsOneLine.text {p : Path} (h : p.IsOneLine) : OneLine p.text := by
  have hroot : OneLine p.root.text := by cases p.root <;> decide
  unfold Path.text
  split
  · decide
  · exact oneLine_append.mpr ⟨hroot, OneLine.intercalate (by decide) h⟩

end Path

namespace Shell

theorem newline_not_mem_quote {w : List Char} (h : '\n' ∉ w) : '\n' ∉ quote w := by
  unfold quote
  split
  · exact h
  · have hquoted : '\n' ∉ w.flatMap inQuotes := by
      rw [List.mem_flatMap]
      rintro ⟨c, hc, hmem⟩
      unfold inQuotes at hmem
      split at hmem
      · simp at hmem
      · exact h (List.mem_singleton.mp hmem ▸ hc)
    simpa using hquoted

/-- Quoting and joining brings no newline in. -/
theorem oneLine_join {ws : List String} (h : ∀ w ∈ ws, OneLine w) : OneLine (join ws) := by
  rw [join, OneLine, String.toList_ofList]
  induction ws with
  | nil => simp [joinChars]
  | cons w ws ih =>
    obtain ⟨hw, hws⟩ := List.forall_mem_cons.mp h
    have hquote := newline_not_mem_quote hw
    cases ws with
    | nil => simpa [joinChars] using hquote
    | cons v ws =>
      have hrest := ih hws
      rw [List.map_cons] at hrest
      simp [joinChars, hquote, hrest]

end Shell

/-- A host whose fields are texts of one line. -/
structure Host.IsOneLine (h : Host) : Prop where
  display : OneLine h.display
  xauthority : OneLine h.xauthority
  waylandDisplay : OneLine h.waylandDisplay
  runtimeDir : OneLine h.runtimeDir

instance (h : Host) : Decidable h.IsOneLine :=
  decidable_of_iff
    (OneLine h.display ∧ OneLine h.xauthority ∧ OneLine h.waylandDisplay ∧ OneLine h.runtimeDir)
    ⟨fun ⟨hd, hx, hw, hr⟩ => ⟨hd, hx, hw, hr⟩, fun ⟨hd, hx, hw, hr⟩ => ⟨hd, hx, hw, hr⟩⟩

namespace Host.IsOneLine

variable {h : Host}

theorem waylandSocket (hh : h.IsOneLine) : OneLine h.waylandSocket :=
  ((Path.isOneLine_parse hh.runtimeDir).join hh.waylandDisplay).text

theorem pulseSocket (hh : h.IsOneLine) : OneLine h.pulseSocket :=
  (((Path.isOneLine_parse hh.runtimeDir).child (by decide)).child (by decide)).text

end Host.IsOneLine

/-- A record whose texts are of one line. -/
structure Record.IsOneLine (r : Record) : Prop where
  container : OneLine r.container
  value : OneLine r.value

instance (r : Record) : Decidable r.IsOneLine :=
  decidable_of_iff (OneLine r.container ∧ OneLine r.value)
    ⟨fun ⟨hc, hv⟩ => ⟨hc, hv⟩, fun ⟨hc, hv⟩ => ⟨hc, hv⟩⟩

theorem Kind.oneLine_name (k : Kind) : OneLine k.name := by
  have hall : ∀ k ∈ Kind.all, OneLine k.name := by decide
  exact hall k (mem_all k)

theorem Record.IsOneLine.line {r : Record} (hr : r.IsOneLine) : OneLine r.line := by
  simp [Record.line, hr.container, hr.value, Kind.oneLine_name]
  decide

/-- The parts of a mount stand in its value. -/
theorem oneLine_of_splitMount? {value : String} {m : String × String}
    (h : splitMount? value = some m) (hv : OneLine value) : OneLine m.1 ∧ OneLine m.2 := by
  unfold splitMount? at h
  cases hcut : Text.cut? ':' value.toList with
  | none => simp [hcut] at h
  | some p =>
    obtain ⟨source, target⟩ := p
    rw [hcut] at h
    simp only [Option.ite_none_left_eq_some, Option.some.injEq] at h
    obtain ⟨-, rfl⟩ := h
    have hvalue := (Text.eq_of_cut? hcut).1
    constructor
    · refine hv.of_subset ?_
      rw [hvalue]
      exact List.subset_append_left _ _
    · refine hv.of_subset ?_
      rw [hvalue]
      exact List.subset_append_of_subset_right _ (List.subset_cons_self _ _)

/-- A flag whose tokens are texts of one line. -/
def Flag.IsOneLine (f : Flag) : Prop := ∀ token ∈ f.tokens, OneLine token

theorem Flag.IsOneLine.text {f : Flag} (h : f.IsOneLine) : OneLine f.text := Shell.oneLine_join h

theorem oneLine_volume {source target : String} (hs : OneLine source) (ht : OneLine target) :
    ∀ token ∈ volume source target, OneLine token := by
  have hcolon : OneLine ":" := by decide
  have hmode : OneLine ":rw" := by decide
  have hflag : OneLine "--volume" := by decide
  simp [volume, hs, ht, hcolon, hmode, hflag]

theorem oneLine_env {name value : String} (hname : OneLine name) (hv : OneLine value) :
    ∀ token ∈ ["--env", name ++ value], OneLine token := by
  have henv : OneLine "--env" := by decide
  simp [henv, hname, hv]

/-- A kind that a value turns on has flags of one line if its tokens are. -/
theorem Kind.isOneLine_of_enabled {k : Kind} {value : String} {flags : List (List String)}
    {e : Effect} (he : effect?.enabled k value flags = some e)
    (hflags : ∀ tokens ∈ flags, ∀ token ∈ tokens, OneLine token) : ∀ f ∈ e.flags, f.IsOneLine := by
  simp only [effect?.enabled, Option.ite_none_right_eq_some, Option.some.injEq] at he
  obtain ⟨-, rfl⟩ := he
  exact List.forall_mem_map.mpr hflags

/-- The flags that a grant leads to have tokens of one line, if its value and the host have. -/
theorem Kind.isOneLine_of_effect? {h : Host} (hh : h.IsOneLine) {k : Kind} {value : String}
    (hv : OneLine value) {e : Effect} (he : k.effect? h value = some e) :
    ∀ f ∈ e.flags, f.IsOneLine := by
  cases k with
  | homeFolder =>
    simp only [effect?, Option.ite_none_left_eq_some, Option.some.injEq] at he
    obtain ⟨-, rfl⟩ := he
    exact List.forall_mem_singleton.mpr (oneLine_volume hv.trim hv.trim)
  | mount =>
    obtain ⟨m, hm, rfl⟩ := Option.map_eq_some_iff.mp he
    obtain ⟨hsource, htarget⟩ := oneLine_of_splitMount? hm hv
    exact List.forall_mem_singleton.mpr (oneLine_volume hsource htarget)
  | network =>
    have hmodes : ∀ mode ∈ networkModes, ∀ token ∈ ["--network", mode], OneLine token := by decide
    simp only [effect?, Option.ite_none_right_eq_some, Option.some.injEq] at he
    obtain ⟨hmode, rfl⟩ := he
    exact List.forall_mem_singleton.mpr (hmodes _ (List.contains_iff_mem.mp hmode))
  | hostname | capAdd | securityOpt =>
    simp only [effect?, effect?.withValue, Option.ite_none_left_eq_some, Option.some.injEq] at he
    obtain ⟨-, rfl⟩ := he
    refine List.forall_mem_singleton.mpr (List.forall_mem_cons.mpr ⟨by decide, ?_⟩)
    exact List.forall_mem_singleton.mpr hv.trim
  | unshare n =>
    simp only [effect?, Option.ite_none_right_eq_some, Option.some.injEq] at he
    obtain ⟨-, rfl⟩ := he
    exact List.forall_mem_nil _
  | unshareAll =>
    simp only [effect?] at he
    split at he
    · obtain rfl := Option.some.inj he
      exact List.forall_mem_nil _
    · simp only [Option.ite_none_right_eq_some, Option.some.injEq] at he
      obtain ⟨-, rfl⟩ := he
      exact List.forall_mem_nil _
  | usb =>
    simp only [effect?, Option.ite_none_right_eq_some, Option.some.injEq] at he
    obtain ⟨-, rfl⟩ := he
    exact List.forall_mem_singleton.mpr (oneLine_volume (by decide) (by decide))
  | x11 =>
    refine isOneLine_of_enabled he ?_
    refine List.forall_mem_cons.mpr ⟨?_, List.forall_mem_cons.mpr ⟨?_, ?_⟩⟩
    · exact oneLine_volume (by decide) (by decide)
    · exact oneLine_env (by decide) hh.display
    · exact List.forall_mem_singleton.mpr (oneLine_env (by decide) hh.xauthority)
  | wayland =>
    refine isOneLine_of_enabled he (List.forall_mem_cons.mpr ⟨?_, ?_⟩)
    · exact oneLine_volume hh.waylandSocket hh.waylandSocket
    · exact List.forall_mem_singleton.mpr (oneLine_env (by decide) hh.waylandDisplay)
  | audio =>
    refine isOneLine_of_enabled he (List.forall_mem_cons.mpr ⟨?_, ?_⟩)
    · exact oneLine_volume hh.pulseSocket hh.pulseSocket
    · exact List.forall_mem_singleton.mpr (by decide)
  | gpu | webcam | privileged => exact isOneLine_of_enabled he (by decide)
  | root | init =>
    simp only [effect?, effect?.enabledNative, Option.ite_none_right_eq_some,
      Option.some.injEq] at he
    obtain ⟨-, rfl⟩ := he
    exact List.forall_mem_singleton.mpr (List.forall_mem_singleton.mpr (by decide))

/-- The flags of one-line records are of one line. -/
theorem isOneLine_flags_compile {h : Host} (hh : h.IsOneLine) {records : List Record}
    (hr : ∀ r ∈ records, r.IsOneLine) : ∀ f ∈ (compile h records).flags, f.IsOneLine := by
  rw [compile_eq, List.forall_mem_flatMap]
  intro r hmem f hf
  cases he : r.kind.effect? h r.value with
  | none => simp [Record.flags, he] at hf
  | some e =>
    rw [Record.flags, he] at hf
    exact Kind.isOneLine_of_effect? hh (hr r hmem).value he f hf

end BoxWarden
