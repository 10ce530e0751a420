import BoxWarden.Markup
import Mathlib.Data.List.Forall2

/-!
Markup, read back. A backslash before an opening bracket takes its meaning away, and two backslashes
there stand for one. Text that was made literal is therefore shown as it was exactly if no backslash
of its own stands before an opening bracket or at its end, where the closing tag follows.
-/

namespace BoxWarden.Markup

/-- Where a reader stands: in text, behind a number of backslashes, or in a tag. -/
inductive Spot
  | text (slashes : Nat)
  | tag
deriving DecidableEq, Repr

/-- Where a character leads. An opening bracket starts a tag unless an odd number of backslashes
stands before it; the next closing bracket ends the tag. -/
def Spot.next : Spot → Char → Spot
  | text n, c =>
    if c = '\\' then text (n + 1)
    else if c = '[' then (if n % 2 = 1 then text 0 else tag)
    else text 0
  | tag, c => if c = ']' then text 0 else tag

/-- What a character shows. Backslashes are held back until it is known what they stand before: half
of them are shown before an opening bracket, and all of them before anything else. -/
def Spot.shows : Spot → Char → List Char
  | text n, c =>
    if c = '\\' then []
    else if c = '[' then List.replicate (n / 2) '\\' ++ (if n % 2 = 1 then ['['] else [])
    else List.replicate n '\\' ++ [c]
  | tag, _ => []

/-- What is shown of the rest of a text. -/
def read : Spot → List Char → List Char
  | .text n, [] => List.replicate n '\\'
  | .tag, [] => []
  | s, c :: r => s.shows c ++ read (s.next c) r

@[simp] theorem read_slash (n : Nat) (r : List Char) :
    read (.text n) ('\\' :: r) = read (.text (n + 1)) r := rfl

theorem read_bracket (n : Nat) (r : List Char) :
    read (.text n) ('[' :: r) = List.replicate (n / 2) '\\' ++
      if n % 2 = 1 then '[' :: read (.text 0) r else read .tag r := by
  have hs : '[' ≠ '\\' := by decide
  rw [read, Spot.next, Spot.shows, if_neg hs, if_pos rfl, if_neg hs, if_pos rfl]
  split <;> simp

theorem read_other {c : Char} (hs : c ≠ '\\') (hb : c ≠ '[') (n : Nat) (r : List Char) :
    read (.text n) (c :: r) = List.replicate n '\\' ++ c :: read (.text 0) r := by
  simp [read, Spot.next, Spot.shows, hs, hb]

theorem read_tag_cons (c : Char) (r : List Char) :
    read .tag (c :: r) = read (if c = ']' then .text 0 else .tag) r := rfl

/-- What a reader sees of a text with markup. -/
def shown (s : String) : String := String.ofList (read (.text 0) s.toList)

example : shown "[bold]a[/bold] \\[b] \\\\[i]c[/i]\\" = "a [b] \\c\\" := by decide

/-- A text that says the same when it is made literal: no backslash in it stands right before an
opening bracket, or at its end. -/
def IsSafe (s : String) : Prop := ¬ ['\\', '['] <:+: s.toList ∧ s.toList.getLast? ≠ some '\\'

/-- Whether a text is unsafe; `slash` says that a backslash stands before it. -/
def misread : Bool → List Char → Bool
  | slash, [] => slash
  | slash, c :: r => (slash && c == '[') || misread (c == '\\') r

@[simp] theorem misread_slash (slash : Bool) (t : List Char) :
    misread slash ('\\' :: t) = misread true t := by
  simp [misread]

@[simp] theorem misread_bracket (slash : Bool) (t : List Char) :
    misread slash ('[' :: t) = (slash || misread false t) := by
  simp [misread]

theorem misread_other {c : Char} (hs : c ≠ '\\') (hb : c ≠ '[') (slash : Bool) (t : List Char) :
    misread slash (c :: t) = misread false t := by
  rw [misread, beq_false_of_ne hs, beq_false_of_ne hb, Bool.and_false, Bool.false_or]

theorem misread_eq_true_iff (slash : Bool) (t : List Char) :
    misread slash t = true ↔
      slash = true ∧ (t = [] ∨ t.head? = some '[') ∨ ['\\', '['] <:+: t ∨ t.getLast? = some '\\' := by
  induction t generalizing slash with
  | nil => simp [misread]
  | cons c r ih =>
    have hhead : ['['] <+: r ↔ r.head? = some '[' := by
      cases r <;> simp [eq_comm]
    have hlast : (c :: r).getLast? = some '\\' ↔ (c = '\\' ∧ r = []) ∨ r.getLast? = some '\\' := by
      cases r <;> simp
    rw [misread, Bool.or_eq_true, ih, List.infix_cons_iff, List.cons_prefix_cons, hhead, hlast]
    simp only [Bool.and_eq_true, beq_iff_eq, reduceCtorEq, false_or, List.head?_cons,
      Option.some.injEq, eq_comm (a := '\\')]
    grind

theorem isSafe_iff (s : String) : IsSafe s ↔ misread false s.toList = false := by
  rw [← Bool.not_eq_true, misread_eq_true_iff, IsSafe]
  simp

instance (s : String) : Decidable (IsSafe s) := decidable_of_iff _ (isSafe_iff s).symm

/-- What stands before the last backslash makes no text safe or unsafe. -/
theorem isSafe_append {s : String} (hs : '\\' ∉ s.toList) (t : String) :
    IsSafe (s ++ t) ↔ IsSafe t := by
  have key (l : List Char) (hl : '\\' ∉ l) :
      misread false (l ++ t.toList) = misread false t.toList := by
    induction l with
    | nil => rfl
    | cons c r ih =>
      simp only [List.mem_cons, not_or] at hl
      have hc : (c == '\\') = false := by simpa using Ne.symm hl.1
      rw [List.cons_append, misread, hc, ih hl.2, Bool.false_and, Bool.false_or]
  rw [isSafe_iff, isSafe_iff, String.toList_append, key _ hs]

theorem isSafe_of_not_mem {s : String} (hs : '\\' ∉ s.toList) : IsSafe s := by
  have h := isSafe_append hs ""
  rw [String.append_empty] at h
  exact h.mpr (by decide)

/-- Text in which every opening bracket has a backslash. -/
def escaped (t : List Char) : List Char := t.flatMap fun c => if c = '[' then ['\\', '['] else [c]

theorem toList_literal (s : String) : (literal s).toList = escaped s.toList := by
  simp [literal, Text.substitute, escaped]

theorem escaped_cons_of_ne {c : Char} (h : c ≠ '[') (t : List Char) :
    escaped (c :: t) = c :: escaped t := by
  simp [escaped, h]

theorem escaped_cons_bracket (t : List Char) : escaped ('[' :: t) = '\\' :: '[' :: escaped t := by
  simp [escaped]

theorem escaped_append (s t : List Char) : escaped (s ++ t) = escaped s ++ escaped t := by
  simp [escaped]

theorem escaped_of_not_mem {t : List Char} (h : '[' ∉ t) : escaped t = t := by
  induction t with
  | nil => rfl
  | cons c t ih =>
    simp only [List.mem_cons, not_or] at h
    rw [escaped_cons_of_ne (Ne.symm h.1), ih h.2]

/-- A reader who has left all tags, and all backslashes, behind starts afresh. -/
theorem read_append {s : Spot} {a : List Char} (h : a.foldl Spot.next s = .text 0) (b : List Char) :
    read s (a ++ b) = read s a ++ read (.text 0) b := by
  induction a generalizing s with
  | nil =>
    obtain rfl : s = .text 0 := h
    simp [read]
  | cons c r ih =>
    rw [List.foldl_cons] at h
    rw [List.cons_append, read, read, ih h, List.append_assoc]

/-- A measure of the characters that reading can lose. -/
def weight (l : List Char) : Nat := 2 * l.count '\\' + l.count '['

@[simp] theorem weight_nil : weight [] = 0 := rfl

@[simp] theorem weight_append (a b : List Char) : weight (a ++ b) = weight a + weight b := by
  simp only [weight, List.count_append]
  omega

@[simp] theorem weight_replicate (n : Nat) : weight (List.replicate n '\\') = 2 * n := by
  simp [weight, List.count_replicate]

@[simp] theorem weight_slash (l : List Char) : weight ('\\' :: l) = weight l + 2 := by
  simp only [weight, List.count_cons]
  simp
  omega

@[simp] theorem weight_bracket (l : List Char) : weight ('[' :: l) = weight l + 1 := by
  simp only [weight, List.count_cons]
  simp
  omega

theorem weight_cons_of_ne {c : Char} (hslash : c ≠ '\\') (hbracket : c ≠ '[') (l : List Char) :
    weight (c :: l) = weight l := by
  simp [weight, hslash, hbracket]

/-- A word without brackets and backslashes. -/
def IsPlain (w : List Char) : Prop := ∀ c ∈ w, c ≠ '[' ∧ c ≠ ']' ∧ c ≠ '\\'

instance (w : List Char) : Decidable (IsPlain w) :=
  decidable_of_iff (w.all fun c => c != '[' && c != ']' && c != '\\') (by simp [IsPlain, and_assoc])

theorem weight_of_isPlain {w : List Char} (hw : IsPlain w) : weight w = 0 := by
  induction w with
  | nil => rfl
  | cons c w ih =>
    obtain ⟨hc, -, hs⟩ := hw c List.mem_cons_self
    rw [weight_cons_of_ne hs hc, ih fun d hd => hw d (List.mem_cons_of_mem c hd)]

theorem foldl_next_tag {w : List Char} (hw : IsPlain w) : w.foldl Spot.next .tag = .tag := by
  induction w with
  | nil => rfl
  | cons c w ih =>
    obtain ⟨-, hc, -⟩ := hw c List.mem_cons_self
    rw [List.foldl_cons, Spot.next, if_neg hc, ih fun d hd => hw d (List.mem_cons_of_mem c hd)]

theorem read_tag_append {w : List Char} (hw : IsPlain w) (r : List Char) :
    read .tag (w ++ r) = read .tag r := by
  induction w with
  | nil => rfl
  | cons c w ih =>
    obtain ⟨-, hc, -⟩ := hw c List.mem_cons_self
    rw [List.cons_append, read_tag_cons, if_neg hc, ih fun d hd => hw d (List.mem_cons_of_mem c hd)]

/-- Plain words are shown as they are. -/
theorem read_isPlain {w : List Char} (hw : IsPlain w) (r : List Char) :
    read (.text 0) (w ++ r) = w ++ read (.text 0) r := by
  induction w with
  | nil => rfl
  | cons c w ih =>
    obtain ⟨hc, -, hs⟩ := hw c List.mem_cons_self
    rw [List.cons_append, read_other hs hc, ih fun d hd => hw d (List.mem_cons_of_mem c hd)]
    rfl

theorem foldl_next_isPlain {w : List Char} (hw : IsPlain w) :
    w.foldl Spot.next (.text 0) = .text 0 := by
  induction w with
  | nil => rfl
  | cons c w ih =>
    obtain ⟨hc, -, hs⟩ := hw c List.mem_cons_self
    rw [List.foldl_cons, Spot.next, if_neg hs, if_neg hc,
      ih fun d hd => hw d (List.mem_cons_of_mem c hd)]

/-- A tag with a name. -/
def tag (name : List Char) : List Char := '[' :: name ++ [']']

/-- Behind a tag a reader starts afresh, wherever it stood before. -/
theorem foldl_next_tagNamed {name : List Char} (hname : IsPlain name) (s : Spot) :
    (tag name).foldl Spot.next s = .text 0 := by
  rw [tag, List.cons_append, List.foldl_cons, List.foldl_append]
  cases s with
  | tag =>
    have hopen : Spot.next .tag '[' = .tag := rfl
    rw [hopen, foldl_next_tag hname]
    rfl
  | text n =>
    have hopen : Spot.next (.text n) '[' = if n % 2 = 1 then .text 0 else .tag := rfl
    rw [hopen]
    split
    · rw [foldl_next_isPlain hname]
      rfl
    · rw [foldl_next_tag hname]
      rfl

/-- A tag shows nothing, unless backslashes before it take its meaning away. -/
theorem read_text_tag {name : List Char} (hname : IsPlain name) (n : Nat) :
    read (.text n) (tag name) =
      List.replicate (n / 2) '\\' ++ if n % 2 = 1 then tag name else [] := by
  rw [tag, List.cons_append, read_bracket, read_isPlain hname, read_tag_append hname]
  rfl

theorem read_tag_tag {name : List Char} (hname : IsPlain name) : read .tag (tag name) = [] := by
  rw [tag, List.cons_append, read_tag_cons, if_neg (by decide), read_tag_append hname]
  rfl

/-- Safe text that was made literal is shown as it was, up to the tag that follows it. The induction
is on the text, with the backslashes that are held back. -/
theorem read_escaped {name : List Char} (hname : IsPlain name) {n : Nat} {t : List Char}
    (h : misread (n != 0) t = false) :
    read (.text n) (escaped t ++ tag name) = List.replicate n '\\' ++ t := by
  induction t generalizing n with
  | nil =>
    obtain rfl : n = 0 := by simpa [misread] using h
    rw [escaped, List.flatMap_nil, List.nil_append, read_text_tag hname]
    rfl
  | cons c t ih =>
    by_cases hs : c = '\\'
    · subst hs
      rw [misread_slash] at h
      rw [escaped_cons_of_ne (by decide), List.cons_append, read_slash,
        ih (n := n + 1) (by simpa using h), List.replicate_succ', List.append_assoc,
        List.singleton_append]
    · by_cases hb : c = '['
      · subst hb
        rw [misread_bracket, Bool.or_eq_false_iff] at h
        obtain ⟨hn, hrest⟩ := h
        obtain rfl : n = 0 := by simpa using hn
        rw [escaped_cons_bracket, List.cons_append, List.cons_append, read_slash, read_bracket,
          if_pos rfl, ih (n := 0) hrest]
        rfl
      · rw [misread_other hs hb] at h
        rw [escaped_cons_of_ne hb, List.cons_append, read_other hs hb, ih (n := 0) h]
        rfl

/-- Reading adds no weight to text that was made literal, and takes some from it if it is unsafe.
The bounds for a reader in text and for one in a tag need each other. -/
theorem weight_read_escaped {name : List Char} (hname : IsPlain name) (t : List Char) :
    (∀ n, weight (read (.text n) (escaped t ++ tag name)) + (misread (n != 0) t).toNat ≤
      2 * n + weight t) ∧ weight (read .tag (escaped t ++ tag name)) ≤ weight t := by
  induction t with
  | nil =>
    have htag : weight (tag name) = 1 := by
      rw [tag, List.cons_append, weight_bracket, weight_append, weight_of_isPlain hname]
      rfl
    rw [escaped, List.flatMap_nil, List.nil_append, read_tag_tag hname]
    refine ⟨fun n => ?_, Nat.le_refl _⟩
    rw [read_text_tag hname, weight_append, weight_replicate, misread]
    rcases Nat.eq_zero_or_pos n with rfl | hn
    · simp
    · have hslash : (n != 0) = true := by simpa using Nat.ne_of_gt hn
      rw [hslash, Bool.toNat_true]
      split
      · rw [htag, weight_nil]
        omega
      · rw [weight_nil]
        omega
  | cons c t ih =>
    obtain ⟨htext, htag⟩ := ih
    by_cases hs : c = '\\'
    · subst hs
      rw [escaped_cons_of_ne (by decide), List.cons_append, weight_slash, read_tag_cons,
        if_neg (by decide)]
      refine ⟨fun n => ?_, by omega⟩
      have hnext := htext (n + 1)
      have hslash : ((n + 1 : Nat) != 0) = true := by simp
      rw [hslash] at hnext
      rw [read_slash, misread_slash]
      omega
    · by_cases hb : c = '['
      · subst hb
        rw [escaped_cons_bracket, List.cons_append, List.cons_append, weight_bracket, read_tag_cons,
          if_neg (by decide), read_tag_cons, if_neg (by decide)]
        refine ⟨fun n => ?_, by omega⟩
        have hzero : weight (read (.text 0) (escaped t ++ tag name)) + (misread false t).toNat ≤
            2 * 0 + weight t := htext 0
        rw [read_slash, read_bracket, weight_append, weight_replicate, misread_bracket]
        rcases Nat.eq_zero_or_pos n with rfl | hn
        · have hslash : ((0 : Nat) != 0) = false := rfl
          rw [if_pos rfl, weight_bracket, hslash, Bool.false_or]
          omega
        · have hslash : (n != 0) = true := by simpa using Nat.ne_of_gt hn
          rw [hslash, Bool.true_or, Bool.toNat_true]
          split
          · rw [weight_bracket]
            omega
          · omega
      · have hzero : weight (read (.text 0) (escaped t ++ tag name)) + (misread false t).toNat ≤
            2 * 0 + weight t := htext 0
        rw [escaped_cons_of_ne hb, List.cons_append, weight_cons_of_ne hs hb, read_tag_cons]
        refine ⟨fun n => ?_, ?_⟩
        · rw [read_other hs hb, weight_append, weight_replicate, weight_cons_of_ne hs hb,
            misread_other hs hb]
          omega
        · split
          · omega
          · exact htag

/-- Markup that a reader sees as a text, exactly if `safe`; a reader who has read it starts afresh. -/
structure Renders (marked plain : List Char) (safe : Prop) : Prop where
  ends : marked.foldl Spot.next (.text 0) = .text 0
  same : safe → read (.text 0) marked = plain
  bound : weight (read (.text 0) marked) ≤ weight plain
  lost : ¬ safe → weight (read (.text 0) marked) < weight plain

namespace Renders

variable {marked marked' plain plain' : List Char} {safe safe' : Prop}

theorem of_isPlain {w : List Char} (hw : IsPlain w) : Renders w w True := by
  have hread : read (.text 0) w = w := by simpa [read] using read_isPlain hw []
  exact ⟨foldl_next_isPlain hw, fun _ => hread, Nat.le_of_eq (congrArg weight hread),
    fun h => absurd trivial h⟩

theorem of_tag {name : List Char} (hname : IsPlain name) : Renders (tag name) [] True := by
  have hread : read (.text 0) (tag name) = [] := read_text_tag hname 0
  exact ⟨foldl_next_tagNamed hname _, fun _ => hread, Nat.le_of_eq (congrArg weight hread),
    fun h => absurd trivial h⟩

/-- Text that was made literal, with the tag that follows it. -/
theorem of_escaped {name : List Char} (hname : IsPlain name) (s : String) :
    Renders (escaped s.toList ++ tag name) s.toList (IsSafe s) := by
  have hweight : weight (read (.text 0) (escaped s.toList ++ tag name)) +
      (misread false s.toList).toNat ≤ 2 * 0 + weight s.toList :=
    (weight_read_escaped hname s.toList).1 0
  refine ⟨?_, fun hs => ?_, by omega, fun hs => ?_⟩
  · rw [List.foldl_append, foldl_next_tagNamed hname]
  · have hread := read_escaped hname (n := 0) ((isSafe_iff s).mp hs)
    simpa using hread
  · rw [isSafe_iff, Bool.not_eq_false] at hs
    rw [hs, Bool.toNat_true] at hweight
    omega

theorem append (h : Renders marked plain safe) (h' : Renders marked' plain' safe') :
    Renders (marked ++ marked') (plain ++ plain') (safe ∧ safe') := by
  have hread := read_append h.ends marked'
  have hbound := h.bound
  have hbound' := h'.bound
  refine ⟨?_, fun hs => ?_, ?_, fun hs => ?_⟩
  · rw [List.foldl_append, h.ends, h'.ends]
  · rw [hread, h.same hs.1, h'.same hs.2]
  · rw [hread, weight_append, weight_append]
    omega
  · rw [hread, weight_append, weight_append]
    by_cases hsafe : safe
    · have hlost := h'.lost fun hsafe' => hs ⟨hsafe, hsafe'⟩
      omega
    · have hlost := h.lost hsafe
      omega

theorem congr (h : Renders marked plain safe) (hs : safe ↔ safe') : Renders marked plain safe' :=
  ⟨h.ends, fun hsafe => h.same (hs.mpr hsafe), h.bound, fun hsafe => h.lost (mt hs.mp hsafe)⟩

/-- Plain words and tags in front change nothing about what may be unsafe. -/
theorem behind (h : Renders marked plain safe) {w : List Char} (hw : IsPlain w) :
    Renders (w ++ marked) (w ++ plain) safe := ((of_isPlain hw).append h).congr (by simp)

theorem tagged (h : Renders marked plain safe) {name : List Char} (hname : IsPlain name) :
    Renders (tag name ++ marked) plain safe := ((of_tag hname).append h).congr (by simp)

/-- What is unsafe is seen as something else, since reading it loses weight. -/
theorem read_eq_iff (h : Renders marked plain safe) : read (.text 0) marked = plain ↔ safe := by
  refine ⟨fun heq => ?_, h.same⟩
  by_contra hs
  have hlost := h.lost hs
  rw [heq] at hlost
  exact Nat.lt_irrefl _ hlost

end Renders

/-- A line in a colour is seen as the line. -/
theorem renders_coloured {colour : String} (hcolour : IsPlain colour.toList) (line : String) :
    Renders (coloured colour (literal line)).toList line.toList (IsSafe line) := by
  have hslash : IsPlain ['/'] := by decide
  have htext : (coloured colour (literal line)).toList =
      tag colour.toList ++ (escaped line.toList ++ tag ['/']) := by
    simp [coloured, toList_literal, tag]
  rw [htext]
  exact (Renders.of_escaped hslash line).tagged hcolour

end BoxWarden.Markup
