import BoxWarden.Proofs.Grant.Codec
import Mathlib.Data.List.Basic
import Mathlib.Data.List.TakeWhile

/-!
What a line says, exactly. A grant is read back from its line whatever line ending stands behind it.
Every other line is told by its body alone: it says nothing, it has too few colons, it names no kind,
or it is a grant, and then the line of that grant is the body again.
-/

namespace BoxWarden

namespace Text

theorem cut?_eq_none_iff {sep : Char} {s : List Char} : cut? sep s = none ↔ sep ∉ s := by
  induction s with
  | nil => simp [cut?]
  | cons c r ih =>
    by_cases hc : c = sep
    · simp [cut?, hc]
    · simp [cut?, hc, ih, Ne.symm hc]

theorem head?_dropWhile (p : Char → Bool) (l : List Char) :
    ∀ c ∈ (l.dropWhile p).head?, p c = false := by
  intro c hc
  have h := List.head?_dropWhile_not p l
  rw [hc] at h
  simpa using h

theorem getLast?_dropEndWhile (p : Char → Bool) (l : List Char) :
    ∀ c ∈ (dropEndWhile p l).getLast?, p c = false := by
  intro c hc
  rw [dropEndWhile, List.getLast?_reverse] at hc
  exact head?_dropWhile p l.reverse c hc

theorem dropWhile_of_head? {p : Char → Bool} {l : List Char} (h : ∀ c ∈ l.head?, p c = false) :
    l.dropWhile p = l := by
  cases l with
  | nil => rfl
  | cons c r => rw [List.dropWhile_cons_of_neg (by simp [h c rfl])]

theorem dropEndWhile_of_getLast? {p : Char → Bool} {l : List Char}
    (h : ∀ c ∈ l.getLast?, p c = false) : dropEndWhile p l = l := by
  rw [dropEndWhile, dropWhile_of_head? (by simpa using h), List.reverse_reverse]

end Text

namespace Record

/-- The body of a line: what is left without white space in front and without the line ending. -/
def IsBody (line : String) (b : List Char) : Prop :=
  ∃ front ending, line.toList = front ++ b ++ ending ∧ (∀ c ∈ front, Text.isBlank c = true) ∧
    (∀ c ∈ ending, c = '\r' ∨ c = '\n') ∧ (∀ c ∈ b.head?, Text.isBlank c = false) ∧
    ∀ c ∈ b.getLast?, ¬(c = '\r' ∨ c = '\n')

/-- A body that grants nothing: there is none, or it is a comment. -/
def SaysNothing (b : List Char) : Prop := b = [] ∨ b.head? = some '#'

/-- A body with the fields that its first two colons part. -/
structure Fields (b container kind value : List Char) : Prop where
  text : b = container ++ ':' :: (kind ++ ':' :: value)
  container : ':' ∉ container
  kind : ':' ∉ kind

theorem isEnding_iff {c : Char} : isEnding c = true ↔ c = '\r' ∨ c = '\n' := by simp [isEnding]

theorem isBody_body (line : String) : IsBody line (body line) := by
  have hline := Text.dropEndWhile_append_takeWhile isEnding line.toList
  have hrest := List.takeWhile_append_dropWhile
    (p := Text.isBlank) (l := Text.dropEndWhile isEnding line.toList)
  -- white space in front, the body and the ending make up the line
  refine ⟨_, _, by rw [body_eq, hrest, hline], ?_, ?_, ?_, ?_⟩
  · intro c hc
    exact List.all_eq_true.mp List.all_takeWhile c hc
  · intro c hc
    exact isEnding_iff.mp (List.all_eq_true.mp List.all_takeWhile c (List.mem_reverse.mp hc))
  · exact Text.head?_dropWhile Text.isBlank _
  · intro c hc
    have hlast : c ∈ (Text.dropEndWhile isEnding line.toList).getLast? := by
      rw [← hrest, List.getLast?_append]
      exact Option.mem_def.mpr (by rw [← body_eq, Option.mem_def.mp hc, Option.some_or])
    rw [← isEnding_iff, Text.getLast?_dropEndWhile isEnding _ c hlast]
    simp

/-- A line has one body, and this is the one that is looked at. -/
theorem isBody_iff {line : String} {b : List Char} : IsBody line b ↔ b = body line := by
  constructor
  · rintro ⟨front, ending, hline, hfront, hending, hhead, hlast⟩
    have hending' : ∀ c ∈ ending, isEnding c = true := fun c hc => isEnding_iff.mpr (hending c hc)
    rw [body_eq, hline, Text.dropEndWhile_append_of_all _ _ hending']
    by_cases hb : b = []
    · -- nothing but white space is left, however much of it belongs to the ending
      have hblank : ∀ c ∈ Text.dropEndWhile isEnding front, Text.isBlank c = true := by
        intro c hc
        refine hfront c ?_
        rw [← Text.dropEndWhile_append_takeWhile isEnding front]
        exact List.mem_append_left _ hc
      rw [hb, List.append_nil]
      exact (List.dropWhile_eq_nil_iff.mpr hblank).symm
    · have hends : ∀ c ∈ (front ++ b).getLast?, isEnding c = false := by
        intro c hc
        rw [List.getLast?_append_of_ne_nil _ hb] at hc
        rw [← Bool.not_eq_true, isEnding_iff]
        exact hlast c hc
      rw [Text.dropEndWhile_of_getLast? hends, List.dropWhile_append_of_pos hfront,
        Text.dropWhile_of_head? hhead]
  · rintro rfl
    exact isBody_body line

/-- Two colons are enough for the three fields. -/
theorem exists_fields_iff {b : List Char} :
    (∃ container kind value, Fields b container kind value) ↔ 2 ≤ b.count ':' := by
  constructor
  · rintro ⟨container, kind, value, rfl, -, -⟩
    simp only [List.count_append, List.count_cons_self]
    omega
  · intro hcount
    cases hfirst : Text.cut? ':' b with
    | none =>
      have hnone := List.count_eq_zero_of_not_mem (Text.cut?_eq_none_iff.mp hfirst)
      omega
    | some p =>
      obtain ⟨container, rest⟩ := p
      obtain ⟨rfl, hcontainer⟩ := Text.eq_of_cut? hfirst
      cases hsecond : Text.cut? ':' rest with
      | none =>
        have hnone := List.count_eq_zero_of_not_mem (Text.cut?_eq_none_iff.mp hsecond)
        rw [List.count_append, List.count_cons_self, hnone,
          List.count_eq_zero_of_not_mem hcontainer] at hcount
        omega
      | some q =>
        obtain ⟨kind, value⟩ := q
        obtain ⟨rfl, hkind⟩ := Text.eq_of_cut? hsecond
        exact ⟨container, kind, value, rfl, hcontainer, hkind⟩

/-- The fields of a body are determined by it. -/
theorem Fields.cut {b container kind value : List Char} (h : Fields b container kind value) :
    Text.cut? ':' b = some (container, kind ++ ':' :: value) ∧
      Text.cut? ':' (kind ++ ':' :: value) = some (kind, value) := by
  rw [h.text]
  exact ⟨Text.cut?_append h.container _, Text.cut?_append h.kind _⟩

variable {line : String}

theorem parse_of_nothing (h : SaysNothing (body line)) : parse line = .ok none := if_pos h

theorem parse_of_few (h : ¬ SaysNothing (body line)) (hcount : (body line).count ':' < 2) :
    parse line = .error (.badLine (String.ofList (body line))) := by
  have hnone : ¬ ∃ container kind value, Fields (body line) container kind value := by
    rw [exists_fields_iff]
    omega
  unfold SaysNothing at h
  rw [parse, if_neg h]
  cases hfirst : Text.cut? ':' (body line) with
  | none => rfl
  | some p =>
    obtain ⟨container, rest⟩ := p
    cases hsecond : Text.cut? ':' rest with
    | none => simp [hsecond]
    | some q =>
      obtain ⟨kind, value⟩ := q
      obtain ⟨hb, hcontainer⟩ := Text.eq_of_cut? hfirst
      obtain ⟨rfl, hkind⟩ := Text.eq_of_cut? hsecond
      exact absurd ⟨container, kind, value, hb, hcontainer, hkind⟩ hnone

theorem parse_of_fields {container kind value : List Char} (h : ¬ SaysNothing (body line))
    (hf : Fields (body line) container kind value) :
    parse line = (Kind.parse (String.ofList kind)).map fun k =>
      some ⟨String.ofList container, k, String.ofList value⟩ := by
  unfold SaysNothing at h
  rw [parse, if_neg h]
  simp only [hf.cut.1, hf.cut.2, Option.bind_eq_bind, Option.bind_some]

/-- Every line falls into one of four classes. -/
theorem parse_cases (line : String) :
    (SaysNothing (body line) ∧ parse line = .ok none) ∨
    (¬ SaysNothing (body line) ∧ (body line).count ':' < 2 ∧
      parse line = .error (.badLine (String.ofList (body line)))) ∨
    (∃ container kind value, ¬ SaysNothing (body line) ∧
      Fields (body line) container kind value ∧ String.ofList kind ∉ Kind.names ∧
      parse line = .error (.unknownKind (String.ofList kind))) ∨
    ∃ r : Record, ¬ SaysNothing (body line) ∧
      Fields (body line) r.container.toList r.kind.name.toList r.value.toList ∧
      parse line = .ok (some r) := by
  by_cases h : SaysNothing (body line)
  · exact .inl ⟨h, parse_of_nothing h⟩
  by_cases hcount : (body line).count ':' < 2
  · exact .inr (.inl ⟨h, hcount, parse_of_few h hcount⟩)
  obtain ⟨container, kind, value, hf⟩ := exists_fields_iff.mpr (Nat.le_of_not_lt hcount)
  have hparse := parse_of_fields h hf
  cases hk : Kind.ofName? (String.ofList kind) with
  | none =>
    have hnames := Kind.ofName?_eq_none_iff.mp hk
    rw [Kind.parse, hk] at hparse
    exact .inr (.inr (.inl ⟨container, kind, value, h, hf, hnames, hparse⟩))
  | some k =>
    have hname : k.name.toList = kind := by rw [Kind.name_of_ofName? hk, String.toList_ofList]
    rw [Kind.parse, hk] at hparse
    refine .inr (.inr (.inr ⟨_, h, ?_, hparse⟩))
    rwa [String.toList_ofList, String.toList_ofList, hname]

theorem parse_eq_none_iff : parse line = .ok none ↔ SaysNothing (body line) := by
  obtain ⟨h, hparse⟩ | ⟨h, -, hparse⟩ | ⟨_, _, _, h, -, -, hparse⟩ | ⟨_, h, -, hparse⟩ :=
    parse_cases line <;> simp [hparse, h]

theorem parse_eq_badLine_iff {x : String} : parse line = .error (.badLine x) ↔
    x = String.ofList (body line) ∧ ¬ SaysNothing (body line) ∧ (body line).count ':' < 2 := by
  obtain ⟨h, hparse⟩ | ⟨h, hcount, hparse⟩ | ⟨_, _, _, h, hf, -, hparse⟩ | ⟨_, h, hf, hparse⟩ :=
    parse_cases line
  · simp [hparse, h]
  · simp [hparse, h, hcount, eq_comm]
  · simp [hparse, Nat.not_lt.mpr (exists_fields_iff.mp ⟨_, _, _, hf⟩)]
  · simp [hparse, Nat.not_lt.mpr (exists_fields_iff.mp ⟨_, _, _, hf⟩)]

theorem parse_eq_unknownKind_iff {x : String} : parse line = .error (.unknownKind x) ↔
    ¬ SaysNothing (body line) ∧ x ∉ Kind.names ∧
      ∃ container kind value, Fields (body line) container kind value ∧ x = String.ofList kind := by
  constructor
  · intro hx
    obtain ⟨h, hparse⟩ | ⟨h, -, hparse⟩ | ⟨container, kind, value, h, hf, hnames, hparse⟩ |
      ⟨_, h, hf, hparse⟩ := parse_cases line <;> rw [hparse] at hx <;> cases hx
    exact ⟨h, hnames, container, kind, value, hf, rfl⟩
  · rintro ⟨h, hnames, container, kind, value, hf, rfl⟩
    rw [parse_of_fields h hf, Kind.parse, Kind.ofName?_eq_none_iff.mpr hnames]
    rfl

/-- The grant on a line has the fields of its body. -/
theorem fields_of_parse {r : Record} (hr : parse line = .ok (some r)) :
    ¬ SaysNothing (body line) ∧
      Fields (body line) r.container.toList r.kind.name.toList r.value.toList := by
  obtain ⟨h, hparse⟩ | ⟨h, -, hparse⟩ | ⟨_, _, _, h, -, -, hparse⟩ | ⟨_, h, hf, hparse⟩ :=
    parse_cases line <;> rw [hparse] at hr <;> cases hr
  exact ⟨h, hf⟩

theorem exists_parse_iff : (∃ r, parse line = .ok (some r)) ↔ ¬ SaysNothing (body line) ∧
    ∃ container kind value, Fields (body line) container kind value ∧
      String.ofList kind ∈ Kind.names := by
  constructor
  · rintro ⟨r, hr⟩
    obtain ⟨h, hf⟩ := fields_of_parse hr
    refine ⟨h, _, _, _, hf, ?_⟩
    rw [String.ofList_toList]
    exact List.mem_map_of_mem (Kind.mem_all r.kind)
  · rintro ⟨h, container, kind, value, hf, hnames⟩
    obtain ⟨k, hk⟩ : ∃ k, Kind.ofName? (String.ofList kind) = some k := by
      rw [← Option.ne_none_iff_exists']
      exact fun hnone => Kind.ofName?_eq_none_iff.mp hnone hnames
    rw [parse_of_fields h hf, Kind.parse, hk]
    exact ⟨_, rfl⟩

/-- Lines and grants correspond. What is written is read back, with any line ending behind it. And a
line is read by its body: it says nothing exactly if the body is empty or a comment; else it is
refused for its colons exactly if there are fewer than two, and for its kind exactly if what stands
between the first two is no name of a kind; else it is a grant, whose own line is the body again and
whose value is all that follows the second colon. -/
theorem lines_read_exactly :
    (∀ (r : Record) (e : String), isContainerName r.container = true →
      (∀ c ∈ r.value.toList, c ≠ '\n' ∧ c ≠ '\r') → (∀ c ∈ e.toList, c = '\r' ∨ c = '\n') →
        parse (r.line ++ e) = .ok (some r)) ∧
    ∀ line : String, (∀ b, IsBody line b ↔ b = body line) ∧
      (parse line = .ok none ↔ SaysNothing (body line)) ∧
      (∀ x, parse line = .error (.badLine x) ↔ x = String.ofList (body line) ∧
        ¬ SaysNothing (body line) ∧ (body line).count ':' < 2) ∧
      (∀ x, parse line = .error (.unknownKind x) ↔ ¬ SaysNothing (body line) ∧ x ∉ Kind.names ∧
        ∃ container kind value, Fields (body line) container kind value ∧ x = String.ofList kind) ∧
      ((∃ r, parse line = .ok (some r)) ↔ ¬ SaysNothing (body line) ∧
        ∃ container kind value, Fields (body line) container kind value ∧
          String.ofList kind ∈ Kind.names) ∧
      ∀ r, parse line = .ok (some r) → r.line.toList = body line ∧
        Fields (body line) r.container.toList r.kind.name.toList r.value.toList := by
  refine ⟨fun r e hname hvalue he => ?_, fun line => ⟨fun b => isBody_iff, parse_eq_none_iff,
    fun x => parse_eq_badLine_iff, fun x => parse_eq_unknownKind_iff, exists_parse_iff,
    fun r hr => ?_⟩⟩
  · have hending : e.toList.all isEnding = true :=
      List.all_eq_true.mpr fun c hc => isEnding_iff.mpr (he c hc)
    rw [parse_append_ending _ hending]
    refine parse_line hname fun c hc => ?_
    rw [← Bool.not_eq_true, isEnding_iff, not_or]
    exact (hvalue c hc).symm
  · have hf := (fields_of_parse hr).2
    exact ⟨(toList_line r).trans hf.text.symm, hf⟩

theorem lines_read_exactly_mount :
    isContainerName "dev" = true ∧
      parse ("dev:mount:#a:/b \u2028" ++ "\r\n\r") = .ok (some ⟨"dev", .mount, "#a:/b \u2028"⟩) ∧
      IsBody " dev:Mount:/a\n" "dev:Mount:/a".toList ∧
      parse " dev:Mount:/a\n" = .error (.unknownKind "Mount") := by
  obtain ⟨hwritten, hread⟩ := lines_read_exactly
  obtain ⟨hbody, -, -, hkind, -, -⟩ := hread " dev:Mount:/a\n"
  have hb : body " dev:Mount:/a\n" = "dev:Mount:/a".toList := by decide
  refine ⟨by decide, ?_, (hbody _).mpr hb.symm, (hkind "Mount").mpr ⟨?_, by decide, ?_⟩⟩
  · exact hwritten ⟨"dev", .mount, "#a:/b \u2028"⟩ "\r\n\r" (by decide) (by simp) (by simp)
  · rw [hb]
    simp [SaysNothing]
  · rw [hb]
    exact ⟨"dev".toList, "Mount".toList, "/a".toList, ⟨by decide, by decide, by decide⟩, by simp⟩

end Record

end BoxWarden
