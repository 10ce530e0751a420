import BoxWarden.CommandLine.Request

/-!
Command lines in their usual order: options of the application, the name of a command, and words
that no hyphen starts. Every word is taken for what it is, and as it was written.
-/

namespace BoxWarden.CommandLine

/-- A word that is never taken for an option. -/
def IsPlain (word : String) : Prop := word.toList.head? ≠ some '-'

instance : DecidablePred IsPlain := fun word =>
  inferInstanceAs (Decidable (word.toList.head? ≠ some '-'))

/-- An option in front of the command, as it is written: the file of grants as a word of its own or
behind an equals sign, and the others by their names. -/
inductive Setting
  | config (file : String)
  | configIs (file : String)
  | dryRun
  | verbose
  | v
deriving DecidableEq, Repr

namespace Setting

def words : Setting → List String
  | config file => ["--config", file]
  | configIs file => ["--config=" ++ file]
  | dryRun => ["--dry-run"]
  | verbose => ["--verbose"]
  | v => ["-v"]

/-- A file that is a word of its own is a plain one. -/
def Fits : Setting → Prop
  | config file => IsPlain file
  | _ => True

/-- What is found of an option. -/
def found : Setting → Found Tag
  | config file | configIs file => .option .config (some file)
  | dryRun => .option .dryRun none
  | verbose | v => .option .verbose none

/-- What an option makes of an invocation. -/
def set (i : Invocation) : Setting → Invocation
  | config file | configIs file => { i with config := some file }
  | dryRun => { i with dryRun := true }
  | verbose | v => { i with verbose := true }

end Setting

section
variable {α : Type} {g : Grammar α} {a : String} {args : List String}

theorem IsPlain.ne_divider (h : IsPlain a) : a ≠ "--" := by
  rintro rfl
  exact h rfl

theorem markOf_plain (h : IsPlain a) : g.markOf a = .ok .plain := if_pos h

theorem marks_cons (ha : a ≠ "--") {m : Mark α} (hm : g.markOf a = .ok m) (rest : List String) :
    g.marks (a :: rest) = (g.marks rest).map (⟨a, m⟩ :: ·) := by
  rw [Grammar.marks, if_neg ha, hm]
  cases g.marks rest <;> rfl

/-- Plain words as items. -/
def plainItems (args : List String) : List (Item α) := args.map fun a => ⟨a, .plain⟩

theorem marks_plain (h : ∀ a ∈ args, IsPlain a) : g.marks args = .ok (plainItems args) := by
  induction args with
  | nil => rfl
  | cons a args ih =>
    have ha := h a List.mem_cons_self
    rw [marks_cons ha.ne_divider (markOf_plain ha),
      ih fun b hb => h b (List.mem_cons_of_mem a hb)]
    rfl

end

/-- Words that come to one finding, whatever follows them. -/
def Finds (words : List String) (f : Found Tag) : Prop :=
  ∃ text w, ∃ items : List (Item Tag),
    (∀ rest, topGrammar.marks (words ++ rest) =
      (topGrammar.marks rest).map fun l => ⟨text, .option w⟩ :: (items ++ l)) ∧
    ∀ rest, useOption topGrammar text w (items ++ rest) = .ok ([f], [], items.length)

/-- The option of the file of grants. -/
def configOption : OptionSpec Tag := { names := ["--config"], tag := .config, takesValue := true }

/-- No spelling of an option holds an equals sign. -/
theorem optionOf?_of_equals {a : String} (h : '=' ∈ a.toList) : topGrammar.optionOf? a = none := by
  have hnames : ∀ x ∈ topGrammar.spellings, '=' ∉ x.1.toList := by decide
  rw [Grammar.optionOf?, List.lookup_eq_none_iff]
  intro x hx
  have hne : a ≠ x.1 := by
    rintro rfl
    exact hnames x hx h
  simpa using hne

theorem markOf_configIs (file : String) :
    topGrammar.markOf ("--config=" ++ file) =
      .ok (.option ⟨some configOption, "--config", true, some file⟩) := by
  have htext : ("--config=" ++ file).toList = "--config".toList ++ '=' :: file.toList := by simp
  have hnone : topGrammar.optionOf? ("--config=" ++ file) = none :=
    optionOf?_of_equals (by simp [htext])
  have hcut : Text.cut? '=' ("--config=" ++ file).toList = some ("--config".toList, file.toList) := by
    rw [htext]
    exact Text.cut?_append (by decide) _
  have hname : topGrammar.optionOf? "--config" = some configOption := rfl
  rw [Grammar.markOf, if_neg (by simp [htext])]
  simp only [hnone, hcut, Option.bind_eq_bind, Option.bind_some, String.ofList_toList, hname]
  rw [if_neg (by simp [htext])]

/-- A value behind an equals sign goes to its option, even an empty one. -/
theorem useOption_configIs (text file : String) (rest : List (Item Tag)) :
    useOption topGrammar text ⟨some configOption, "--config", true, some file⟩ rest =
      .ok ([.option .config (some file)], [], 0) := by
  cases h : file.toList with
  | nil =>
    obtain rfl := String.toList_eq_nil_iff.mp h
    rfl
  | cons c cs =>
    obtain rfl : file = String.ofList (c :: cs) := by rw [← h, String.ofList_toList]
    simp [useOption, cluster, configOption, bind, Except.bind]

theorem finds_setting (s : Setting) (h : s.Fits) : Finds s.words s.found := by
  cases s with
  | config file =>
    have hname : topGrammar.markOf "--config" =
        .ok (.option ⟨some configOption, "--config", false, none⟩) := rfl
    have hfile : IsPlain file := h
    refine ⟨"--config", ⟨some configOption, "--config", false, none⟩, plainItems [file],
      fun rest => ?_, fun rest => rfl⟩
    change topGrammar.marks ("--config" :: file :: rest) = _
    rw [marks_cons (by decide) hname, marks_cons hfile.ne_divider (markOf_plain hfile)]
    cases topGrammar.marks rest <;> rfl
  | configIs file =>
    have hdivider : "--config=" ++ file ≠ "--" := by
      intro heq
      have hlist := congrArg String.toList heq
      simp at hlist
    exact ⟨_, _, [], marks_cons hdivider (markOf_configIs file), useOption_configIs _ file⟩
  | dryRun => exact ⟨_, _, [], marks_cons (by decide) rfl, fun rest => rfl⟩
  | verbose => exact ⟨_, _, [], marks_cons (by decide) rfl, fun rest => rfl⟩
  | v => exact ⟨_, _, [], marks_cons (by decide) rfl, fun rest => rfl⟩

/-- Reading goes through the options one after another. The induction is on the options; what it
carries is the reading of all that follows. -/
theorem read_settings {args : List String} {items : List (Item Tag)}
    (hargs : topGrammar.marks args = .ok items) {settings : List Setting}
    (hfits : ∀ s ∈ settings, s.Fits) : ∃ all,
      topGrammar.marks (settings.flatMap Setting.words ++ args) = .ok all ∧
      readItems topGrammar topGrammar.operands all =
        (readItems topGrammar topGrammar.operands items).after (settings.map Setting.found) [] := by
  induction settings with
  | nil => exact ⟨items, hargs, rfl⟩
  | cons s settings ih =>
    obtain ⟨all, hall, hread⟩ := ih fun s' hs' => hfits s' (List.mem_cons_of_mem s hs')
    obtain ⟨text, w, mine, hmarks, huse⟩ := finds_setting s (hfits s List.mem_cons_self)
    refine ⟨⟨text, .option w⟩ :: (mine ++ all), ?_, ?_⟩
    · rw [List.flatMap_cons, List.append_assoc, hmarks, hall]
      rfl
    · rw [readItems]
      simp only [huse, List.drop_left, hread]
      rfl

/-- Plain words go to operands that take all of them. -/
theorem readItems_plain {g : Grammar Tag} {operands : List OperandSpec} {a : String}
    {args : List String} {counts : List Nat} {fs : List (Found Tag)}
    (hcounts : takeMost (plainItems (α := Tag) (a :: args)) operands = counts)
    (hlength : counts.length = operands.length) (htotal : counts.foldl (· + ·) 0 = args.length + 1)
    (hfill : fill operands counts (a :: args) = (fs, none)) :
    readItems g operands (plainItems (a :: args)) = { found := fs } := by
  have htexts : (plainItems (α := Tag) (a :: args)).map Item.text = a :: args := by
    rw [plainItems, List.map_map]
    exact List.map_id _
  have hplain : (plainItems (α := Tag) args).any (·.mark.isOption) = false := by
    simp [plainItems, Mark.isOption]
  rw [readItems.eq_def]
  simp only [hcounts, htexts, hfill, htotal]
  change (if (plainItems (α := Tag) args).any (·.mark.isOption) = true then _ else _) = _
  rw [if_neg (by simp [hplain])]
  simp [hlength]

/-- The operand for the command takes a command with all that follows it. -/
theorem readItems_command (c : Command) (args : List String) :
    readItems topGrammar topGrammar.operands (plainItems (c.name :: args)) =
      { found := [.operand commandOperand.name (c.name :: args)] } := by
  have hcounts : takeMost (plainItems (α := Tag) (c.name :: args)) topGrammar.operands =
      [args.length + 1] := by
    simp [takeMost, topGrammar, commandOperand, plainItems, takeAll?, Arity.take?, List.range_succ,
      Nat.add_comm]
  have hchoice : c.name ∈ Command.all.map Command.name := by cases c <;> decide
  have hcheck : commandOperand.check (c.name :: args) =
      .ok (.operand (α := Tag) commandOperand.name (c.name :: args)) := if_pos (.inr hchoice)
  have htake : (c.name :: args).take (args.length + 1) = c.name :: args := by simp
  refine readItems_plain hcounts rfl (by simp) ?_
  rw [topGrammar, fill, htake, hcheck]
  rfl

theorem apply_settings (i : Invocation) (settings : List Setting) (found : List (Found Tag)) :
    i.apply (settings.map Setting.found ++ found) = (settings.foldl Setting.set i).apply found := by
  induction settings generalizing i with
  | nil => rfl
  | cons s settings ih =>
    rw [List.foldl_cons, ← ih]
    cases s <;> rfl

theorem isPlain_name (c : Command) : IsPlain c.name := by
  cases c <;> decide

/-- Options that fit, a command and plain words are the request that the command makes of them. -/
theorem parse_settings {c : Command} {args : List String} {request : Request}
    {settings : List Setting} (hfits : ∀ s ∈ settings, s.Fits) (hargs : ∀ a ∈ args, IsPlain a)
    (hread : c.read args = .ok (request, [])) :
    parse (settings.flatMap Setting.words ++ c.name :: args) =
      .invocation { settings.foldl Setting.set {} with request } := by
  have hplain : ∀ a ∈ c.name :: args, IsPlain a := by
    intro a ha
    rcases List.mem_cons.mp ha with rfl | ha
    · exact isPlain_name c
    · exact hargs a ha
  obtain ⟨all, hall, hitems⟩ := read_settings (marks_plain hplain) hfits
  have hcommand : Command.ofName? c.name = some c := by cases c <;> rfl
  have htop : topGrammar.read (settings.flatMap Setting.words ++ c.name :: args) =
      { found := settings.map Setting.found ++ [.operand commandOperand.name (c.name :: args)] } := by
    rw [Grammar.read, hall]
    simp only [hitems, readItems_command, Reading.after, List.append_nil]
  rw [parse, htop]
  simp only [apply_settings, Invocation.apply, hcommand, hread]
  rfl

/-- An operand for one argument takes a plain word as it is. -/
theorem check_plain (o : OperandSpec) (ho : o.arity = .one) (hchoices : o.choices = []) {a : String}
    (ha : IsPlain a) : o.check [a] = .ok (.operand (α := Tag) o.name [a]) := by
  have hvalues : o.values [a] = [a] := by
    rw [OperandSpec.values, ho, if_neg (by simp), List.erase_of_not_mem]
    simpa using ha.ne_divider.symm
  rw [OperandSpec.check, hvalues]
  exact if_pos (.inl hchoices)

/-- The words of a grant are its container, its kind and its value. -/
theorem read_grant {name kind value : String} (hname : IsPlain name) (hkind : IsPlain kind)
    (hvalue : IsPlain value) :
    Command.grant.read [name, kind, value] = .ok (.grant name (some kind) (some value), []) := by
  have hread : Command.grant.grammar.read [name, kind, value] =
      { found := [.operand "name" [name], .operand "kind" [kind], .operand "value" [value]] } := by
    have hcounts : takeMost (plainItems (α := Tag) [name, kind, value])
        Command.grant.grammar.operands = [1, 1, 1] := rfl
    rw [Grammar.read, marks_plain (by simp [hname, hkind, hvalue])]
    refine readItems_plain hcounts rfl rfl ?_
    simp [Command.grammar, fill, check_plain, hname, hkind, hvalue]
  rw [Command.read, hread]
  rfl

/-- The words of a revocation are its container and its kind. -/
theorem read_revoke {name kind : String} (hname : IsPlain name) (hkind : IsPlain kind) :
    Command.revoke.read [name, kind] = .ok (.revoke name (some kind), []) := by
  have hread : Command.revoke.grammar.read [name, kind] =
      { found := [.operand "name" [name], .operand "kind" [kind]] } := by
    have hcounts : takeMost (plainItems (α := Tag) [name, kind])
        Command.revoke.grammar.operands = [1, 1] := rfl
    rw [Grammar.read, marks_plain (by simp [hname, hkind])]
    refine readItems_plain hcounts rfl rfl ?_
    simp [Command.grammar, fill, check_plain, hname, hkind]
  rw [Command.read, hread]
  rfl

end BoxWarden.CommandLine
