import BoxWarden.Proofs.Compile.Effect
import BoxWarden.Proofs.Text.Trim

/-!
Values that are words. Such a value counts in all its spellings, which differ in the case of ASCII
letters and in the white space around the word, and in no other form: there is no text that looks
like an accepted word and counts as one.
-/

namespace BoxWarden

open Text (IsCaseVariant)

section
variable {ws : List String} {v v' : String}

theorem contains_word_iff (hws : ∀ w ∈ ws, Text.isPlainWord w = true) :
    ws.contains (word v) = true ↔ ∃ w ∈ ws, IsCaseVariant (Text.trim v) w := by
  rw [List.contains_iff_mem]
  constructor
  · exact fun hmem => ⟨_, hmem, (Text.lower_eq_iff (hws _ hmem)).mp rfl⟩
  · rintro ⟨w, hmem, hvariant⟩
    have hword : word v = w := (Text.lower_eq_iff (hws w hmem)).mpr hvariant
    rwa [hword]

/-- Spellings of a value are the same word, as far as the word is accepted at all. -/
theorem contains_word_congr (hws : ∀ w ∈ ws, Text.isPlainWord w = true)
    (h : IsCaseVariant (Text.trim v) (Text.trim v')) :
    ws.contains (word v) = ws.contains (word v') := by
  rw [Bool.eq_iff_iff, contains_word_iff hws, contains_word_iff hws]
  constructor
  · rintro ⟨w, hmem, hvariant⟩
    exact ⟨w, hmem, h.symm.trans hvariant⟩
  · rintro ⟨w, hmem, hvariant⟩
    exact ⟨w, hmem, h.trans hvariant⟩

end

theorem isPlainWord_enable : ∀ w ∈ enableWords, Text.isPlainWord w = true := by decide

theorem isPlainWord_disable : ∀ w ∈ disableWords, Text.isPlainWord w = true := by decide

theorem isPlainWord_mode : ∀ w ∈ networkModes, Text.isPlainWord w = true := by decide

/-- A kind whose value is a word. The value of any other kind is passed on. -/
def Kind.readsWord : Kind → Bool
  | .network | .x11 | .wayland | .audio | .gpu | .usb | .webcam | .unshare _ | .unshareAll
  | .privileged | .root | .init => true
  | .homeFolder | .mount | .hostname | .capAdd | .securityOpt => false

/-- The network mode of a value. -/
theorem effect?_network {h : Host} {v mode : String} (hmode : mode ∈ networkModes)
    (hv : IsCaseVariant (Text.trim v) mode) : Kind.network.effect? h v =
      some ⟨[⟨.network, ["--network", mode], false⟩], .share .netns⟩ := by
  have hword : word v = mode := (Text.lower_eq_iff (isPlainWord_mode mode hmode)).mpr hv
  rw [Kind.effect?, hword]
  exact if_pos (List.contains_iff_mem.mpr hmode)

theorem effect?_network_eq_none {h : Host} {v : String}
    (hv : networkModes.contains (word v) = false) : Kind.network.effect? h v = none := by
  rw [Kind.effect?, hv, if_neg Bool.false_ne_true]

/-- A value that is a word asks for the same in all its spellings. -/
theorem Kind.effect?_of_isCaseVariant {h : Host} {k : Kind} {v v' : String}
    (hk : k.readsWord = true) (hv : IsCaseVariant (Text.trim v) (Text.trim v')) :
    k.effect? h v = k.effect? h v' := by
  have henable : isEnable v = isEnable v' := by
    rw [isEnable, isEnable, contains_word_congr isPlainWord_enable hv]
  have hdisable : isDisable v = isDisable v' := by
    rw [isDisable, isDisable, contains_word_congr isPlainWord_disable hv]
  cases k with
  | network =>
    have hmode := contains_word_congr isPlainWord_mode hv
    cases hv' : networkModes.contains (word v') with
    | false => rw [effect?_network_eq_none hv', effect?_network_eq_none (hmode.trans hv')]
    | true =>
      obtain ⟨mode, hmem, hvariant⟩ := (contains_word_iff isPlainWord_mode).mp hv'
      rw [effect?_network hmem hvariant, effect?_network hmem (hv.trans hvariant)]
  | homeFolder | mount | hostname | capAdd | securityOpt => cases hk
  | _ => simp only [effect?, effect?.enabled, effect?.enabledNative, henable, hdisable]

/-- Another spelling of a value makes no difference to the flags and the isolation, whatever stands
before and behind the record. -/
theorem compile_respelled {h : Host} {r : Record} {v : String} (hr : r.kind.readsWord = true)
    (hv : IsCaseVariant (Text.trim v) (Text.trim r.value)) (before after : List Record) :
    (compile h (before ++ { r with value := v } :: after)).flags =
        (compile h (before ++ r :: after)).flags ∧
      (compile h (before ++ { r with value := v } :: after)).isolation =
        (compile h (before ++ r :: after)).isolation := by
  have heffect : r.kind.effect? h v = r.kind.effect? h r.value := Kind.effect?_of_isCaseVariant hr hv
  have hflags : Record.flags h { r with value := v } = r.flags h := by
    rw [Record.flags, heffect, Record.flags]
  have hchange : Record.change h { r with value := v } = r.change h := by
    rw [Record.change, heffect, Record.change]
  simp only [compile_eq, List.flatMap_append, List.flatMap_cons, List.foldl_append, List.foldl_cons,
    hflags, hchange, and_self]

/-- A record of a network is set aside exactly if its value is no mode in any spelling. -/
theorem isIgnored_network (h : Host) (name v : String) :
    Record.isIgnored h ⟨name, .network, v⟩ = !networkModes.contains (word v) := by
  rw [Record.isIgnored]
  cases hv : networkModes.contains (word v) with
  | false =>
    rw [effect?_network_eq_none hv]
    rfl
  | true =>
    obtain ⟨mode, hmode, hvariant⟩ := (contains_word_iff isPlainWord_mode).mp hv
    rw [effect?_network hmode hvariant]
    rfl

theorem ignored_network_iff {h : Host} {name v : String} :
    (compile h [⟨name, .network, v⟩]).ignored = [] ↔
      ∃ mode ∈ networkModes, IsCaseVariant (Text.trim v) mode := by
  rw [← contains_word_iff isPlainWord_mode, compile_singleton, isIgnored_network]
  cases networkModes.contains (word v) <;> simp

theorem flags_network {h : Host} {v mode : String} (hmode : mode ∈ networkModes)
    (hv : IsCaseVariant (Text.trim v) mode) (name : String) :
    (compile h [⟨name, .network, v⟩]).flags = [⟨.network, ["--network", mode], false⟩] := by
  rw [compile_singleton, Record.flags, effect?_network hmode hv]
  rfl

/-- A value that holds a character outside ASCII, but for the white space around it, is no accepted
word. -/
theorem contains_word_of_not_isAscii {ws : List String} {v : String}
    (hws : ∀ w ∈ ws, Text.isPlainWord w = true)
    (hv : ∃ c ∈ (Text.trim v).toList, Text.isAscii c = false) :
    ws.contains (word v) = false := by
  obtain ⟨c, hc, hnot⟩ := hv
  rw [← Bool.not_eq_true, contains_word_iff hws]
  rintro ⟨w, hmem, hvariant⟩
  exact Text.not_isCaseVariant hc hnot (hws w hmem) hvariant

/-- What is accepted as a word. Trimming takes away the white space at either end, and no more. A
value turns something on or off, or is a network mode, exactly if trimming leaves one of the accepted
words up to the case of ASCII letters, and the mode that is handed on is the word itself. So a value
with a character outside ASCII, except in the white space around it, is never accepted. And another
spelling of a value, in case or in the white space around it, comes to the same flags and the same
isolation in any list of records. -/
theorem accepted_in_any_spelling (h : Host) :
    (∀ v : String, ∃ before after : List Char, v.toList = before ++ (Text.trim v).toList ++ after ∧
      (∀ c ∈ before ++ after, Text.isBlank c = true) ∧
      (∀ c ∈ (Text.trim v).toList.head?, Text.isBlank c = false) ∧
      ∀ c ∈ (Text.trim v).toList.getLast?, Text.isBlank c = false) ∧
    (∀ v, isEnable v = true ↔ ∃ w ∈ ["enable", "enabled", "true", "yes", "1"],
      IsCaseVariant (Text.trim v) w) ∧
    (∀ v, isDisable v = true ↔ ∃ w ∈ ["false", "no", "0", "disable", "disabled"],
      IsCaseVariant (Text.trim v) w) ∧
    (∀ name v, ((compile h [⟨name, .network, v⟩]).ignored = [] ↔
        ∃ mode ∈ ["host", "bridge"], IsCaseVariant (Text.trim v) mode) ∧
      ∀ mode ∈ ["host", "bridge"], IsCaseVariant (Text.trim v) mode →
        (compile h [⟨name, .network, v⟩]).flags = [⟨.network, ["--network", mode], false⟩]) ∧
    (∀ v, (∃ c ∈ (Text.trim v).toList, 128 ≤ c.toNat) → isEnable v = false ∧ isDisable v = false ∧
      ∀ name, (compile h [⟨name, .network, v⟩]).ignored = [⟨name, .network, v⟩]) ∧
    (∀ v u before after : String, IsCaseVariant u v →
      (∀ c ∈ before.toList, Text.isBlank c = true) → (∀ c ∈ after.toList, Text.isBlank c = true) →
        IsCaseVariant (Text.trim (before ++ u ++ after)) (Text.trim v)) ∧
    ∀ (before after : List Record) (r : Record) (v : String), r.kind.readsWord = true →
      IsCaseVariant (Text.trim v) (Text.trim r.value) →
        (compile h (before ++ { r with value := v } :: after)).flags =
            (compile h (before ++ r :: after)).flags ∧
          (compile h (before ++ { r with value := v } :: after)).isolation =
            (compile h (before ++ r :: after)).isolation := by
  refine ⟨Text.exists_padding, fun v => contains_word_iff isPlainWord_enable,
    fun v => contains_word_iff isPlainWord_disable,
    fun name v => ⟨ignored_network_iff, fun mode hmode hv => flags_network hmode hv name⟩,
    fun v hv => ?_, fun v u before after hu hbefore hafter => ?_,
    fun before after r v hr hv => compile_respelled hr hv before after⟩
  · have hstrange : ∃ c ∈ (Text.trim v).toList, Text.isAscii c = false := by
      obtain ⟨c, hc, hge⟩ := hv
      exact ⟨c, hc, decide_eq_false (by omega)⟩
    refine ⟨contains_word_of_not_isAscii isPlainWord_enable hstrange,
      contains_word_of_not_isAscii isPlainWord_disable hstrange, fun name => ?_⟩
    rw [ignored_singleton_iff, isIgnored_network,
      contains_word_of_not_isAscii isPlainWord_mode hstrange, Bool.not_false]
  · rw [Text.trim_append hbefore hafter]
    exact hu.trim

end BoxWarden
