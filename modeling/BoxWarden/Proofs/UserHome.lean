import BoxWarden.Environment
import BoxWarden.Proofs.Grant.Codec
import BoxWarden.Proofs.Path

/-!
Paths that start from the home of a user. The own home is given, and the homes of the users are
found by name; a path can be expanded unless it starts from a home that is not known.
-/

namespace BoxWarden

namespace Path

variable {home : String} {users : String → Option String} {p q : Path}

/-- What stands behind a `~` is the name of a user, if it is anything. -/
theorem homeOf?_append {name : String} (hname : name ≠ "") :
    homeOf? home users ("~" ++ name) = some (userHomeText users name) := by
  have hother : "~" ++ name ≠ "~" := by simpa using hname
  rw [homeOf?, if_neg hother, if_pos (by simp)]
  simp

theorem homeOf?_cases (home : String) (users : String → Option String) (first : String) :
    first = "~" ∨ (∃ name, name ≠ "" ∧ first = "~" ++ name) ∨ homeOf? home users first = none := by
  by_cases hown : first = "~"
  · exact .inl hown
  by_cases hhead : first.toList.head? = some '~'
  · obtain ⟨r, hr⟩ := List.head?_eq_some_iff.mp hhead
    have hfirst : first = "~" ++ String.ofList r := String.toList_injective (by simp [hr])
    refine .inr (.inl ⟨String.ofList r, ?_, hfirst⟩)
    intro hempty
    rw [hempty] at hfirst
    exact hown hfirst
  · exact .inr (.inr (by rw [homeOf?, if_neg hown, if_neg hhead]))

/-- A path with a home in place is one that a text stands for, too. -/
theorem IsProper.of_expandHome (hp : p.IsProper) (hq : p.expandHome home users = .ok q) :
    q.IsProper := by
  obtain ⟨root, parts⟩ := p
  unfold expandHome at hq
  split at hq
  · next first rest hroot hparts =>
    obtain rfl : parts = first :: rest := hparts
    split at hq
    · next found hfound =>
      cases found with
      | error e => cases hq
      | ok h =>
        obtain rfl := Except.ok.inj hq
        exact (isProper_parse h).append fun part hpart => hp part (List.mem_cons_of_mem _ hpart)
    · obtain rfl := Except.ok.inj hq
      exact hp
  · obtain rfl := Except.ok.inj hq
    exact hp

/-- Only a path that starts at no root can start with a home. -/
theorem expandHome_of_isAbsolute (h : p.isAbsolute = true) : p.expandHome home users = .ok p := by
  obtain ⟨root, parts⟩ := p
  cases root with
  | here => simp [isAbsolute] at h
  | slash => rfl
  | doubleSlash => rfl

/-- A text without a `~` names no home. -/
theorem expandHome_of_not_mem {text : String} (h : '~' ∉ text.toList) (home : String)
    (users : String → Option String) :
    (parse text).expandHome home users = .ok (parse text) := by
  have hpart (part : String) (hpart : part ∈ (parse text).parts) : '~' ∉ part.toList := by
    obtain ⟨piece, hpiece, rfl⟩ := List.mem_map.mp hpart
    rw [String.toList_ofList]
    exact fun hmem => h (Text.subset_of_mem_pieces (List.mem_filter.mp hpiece).1 hmem)
  unfold expandHome
  split
  · next first rest hroot hparts =>
    have hfirst := hpart first (hparts ▸ List.mem_cons_self)
    obtain rfl | ⟨name, -, rfl⟩ | hnone := homeOf?_cases home users first
    · exact absurd (by simp) hfirst
    · exact absurd (by simp) hfirst
    · rw [hnone]
  · rfl

/-- What is given as a home directory is none exactly if it starts with a `~` itself. -/
theorem homeText_eq_error_iff :
    (∃ e, homeText home = .error e) ↔ home.toList.head? = some '~' := by
  have hslash : ('~' == '/') = false := by decide
  rw [← Text.head?_dropEndWhile_eq_some_iff (p := (· == '/')) hslash, homeText]
  split
  · next htilde => exact iff_of_true ⟨_, rfl⟩ htilde
  · next htilde => exact iff_of_false (by simp) htilde

/-- A name that leads to no home: it cannot be looked up, there is no such user, or what is on
record as the home is none. -/
def IsUnknownUser (users : String → Option String) (name : String) : Prop :=
  '\x00' ∈ name.toList ∨ ∀ home, users name = some home → home.toList.head? = some '~'

/-- A path that starts from the home of a named user, which is not known. -/
def FromUnknownHome (users : String → Option String) (p : Path) : Prop :=
  ∃ name rest, p = ⟨.here, ("~" ++ name) :: rest⟩ ∧ name ≠ "" ∧ IsUnknownUser users name

theorem userHomeText_eq_error_iff {name : String} :
    (∃ e, userHomeText users name = .error e) ↔ IsUnknownUser users name := by
  unfold userHomeText IsUnknownUser
  by_cases hnul : '\x00' ∈ name.toList
  · simp [hnul]
  · cases hname : users name with
    | none => simp [hnul]
    | some home => simp [hnul, homeText_eq_error_iff]

/-- If the own home is known, the homes of named users are the only ones that may not be. -/
theorem expandHome_eq_error_iff {h : String} (hhome : homeText home = .ok h) :
    (∃ e, p.expandHome home users = .error e) ↔ p.FromUnknownHome users := by
  have hother (name : String) (rest : List String) (hname : name ≠ "") :
      (∃ e, expandHome home users ⟨.here, ("~" ++ name) :: rest⟩ = .error e) ↔
        IsUnknownUser users name := by
    rw [← userHomeText_eq_error_iff]
    simp only [expandHome, homeOf?_append hname]
    cases userHomeText users name <;> simp [Except.map]
  constructor
  · obtain ⟨root, parts⟩ := p
    rintro ⟨e, he⟩
    cases root with
    | slash => cases he
    | doubleSlash => cases he
    | here =>
      cases parts with
      | nil => cases he
      | cons first rest =>
        obtain rfl | ⟨name, hname, rfl⟩ | hnone := homeOf?_cases home users first
        · simp [expandHome, homeOf?, hhome, Except.map] at he
        · exact ⟨name, rest, rfl, hname, (hother name rest hname).mp ⟨e, he⟩⟩
        · simp [expandHome, hnone] at he
  · rintro ⟨name, rest, rfl, hname, hunknown⟩
    exact (hother name rest hname).mpr hunknown

end Path

namespace Environment

variable {env : Environment} {p : Path}

theorem expand_of_ok {q : Path} (h : p.expandHome env.home env.users = .ok q) :
    env.expand p = .ok q := by
  rw [expand, h]
  rfl

theorem expand_of_error {e : Path.HomeError} (h : p.expandHome env.home env.users = .error e) :
    env.expand p = .error (.home e) := by
  rw [expand, h]
  rfl

end Environment

end BoxWarden
