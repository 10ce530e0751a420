import BoxWarden.Text.Cut
import BoxWarden.Text.Digit
import BoxWarden.Text.Quoted

/-!
Command lines of options and operands. Options may stand anywhere before a lone `--` and may be
shortened to any beginning that fits only one of them; one-letter options may share a hyphen. Operands
take the other arguments in order. What is found is listed in the order in which it takes effect, up
to the first mistake.
-/

namespace BoxWarden.CommandLine

/-- An option. The tag says what it means. -/
structure OptionSpec (α : Type) where
  names : List String
  tag : α
  takesValue : Bool := false
  help : String := ""

/-- How many arguments an operand takes. -/
inductive Arity
  | one
  | optional
  /-- One argument and everything after it, options included. -/
  | rest
deriving DecidableEq, Repr

/-- An operand. -/
structure OperandSpec where
  name : String
  arity : Arity := .one
  choices : List String := []
deriving DecidableEq, Repr

/-- The options and operands of a command line. -/
structure Grammar (α : Type) where
  options : List (OptionSpec α)
  operands : List OperandSpec

/-- Something found on a command line. -/
inductive Found (α : Type)
  | option (tag : α) (value : Option String)
  | operand (name : String) (values : List String)
deriving DecidableEq, Repr

/-- An argument that names an option: the option, if it is known, how it was written, and a value
written with it. -/
structure Written (α : Type) where
  spec : Option (OptionSpec α)
  used : String
  equals : Bool := false
  value : Option String := none

/-- What an argument is. -/
inductive Mark (α : Type)
  | divider
  | plain
  | option (w : Written α)

def Mark.isOption : Mark α → Bool
  | .option _ => true
  | _ => false

/-- An argument with what it is. -/
structure Item (α : Type) where
  text : String
  mark : Mark α

/-- The name of an option in messages. -/
def OptionSpec.title (o : OptionSpec α) : String := "/".intercalate o.names

/-- A mistake in the use of an option or operand. -/
def argumentError (title message : String) : String := "argument " ++ title ++ ": " ++ message

namespace Grammar

/-- The spellings of the options, with the options. -/
def spellings (g : Grammar α) : List (String × OptionSpec α) :=
  g.options.flatMap fun o => o.names.map fun n => (n, o)

/-- The option of a spelling. -/
def optionOf? (g : Grammar α) (name : String) : Option (OptionSpec α) := g.spellings.lookup name

/-- Whether a text begins with another. -/
def begins (start s : String) : Bool := start.toList.isPrefixOf s.toList

/-- The options that a long argument may be short for; it may bring its value after an equals
sign. -/
def longMatches (g : Grammar α) (arg : String) : List (Written α) :=
  let (start, value) := match Text.cut? '=' arg.toList with
    | some (a, b) => (String.ofList a, some (String.ofList b))
    | none => (arg, none)
  g.spellings.filterMap fun (name, o) =>
    if begins start name then some ⟨some o, name, value.isSome, value⟩ else none

/-- The options that an argument with one hyphen may mean: the option of its first letter, with the
rest as its value, or one that it is short for. -/
def shortMatches (g : Grammar α) (arg : String) : List (Written α) :=
  let first := String.ofList (arg.toList.take 2)
  g.spellings.filterMap fun (name, o) =>
    if name = first then some ⟨some o, name, false, some (String.ofList (arg.toList.drop 2))⟩
    else if begins arg name then some ⟨some o, name, false, none⟩
    else none

/-- A negative number, whole or with a point; a newline may follow it. -/
def isNegativeNumber (arg : List Char) : Bool :=
  match arg with
  | '-' :: r =>
    let digits := r.takeWhile Text.isDigit
    let rest := r.dropWhile Text.isDigit
    let atEnd (s : List Char) : Bool := s = [] ∨ s = ['\n']
    (digits ≠ [] && atEnd rest) ||
      match rest with
      | '.' :: f => f.takeWhile Text.isDigit ≠ [] && atEnd (f.dropWhile Text.isDigit)
      | _ => false
  | _ => false

/-- What an argument before the divider is. A number, or a text with a space, is an option only if
it matches one. -/
def markOf (g : Grammar α) (arg : String) : Except String (Mark α) :=
  let chars := arg.toList
  if chars.head? ≠ some '-' then .ok .plain
  else match g.optionOf? arg with
    | some o => .ok (.option ⟨some o, arg, false, none⟩)
    | none =>
      if chars = ['-'] then .ok .plain
      else
        let direct := do
          let (name, value) ← Text.cut? '=' chars
          let o ← g.optionOf? (String.ofList name)
          some (⟨some o, String.ofList name, true, some (String.ofList value)⟩ : Written α)
        match direct with
        | some w => .ok (.option w)
        | none =>
          let found := if chars.take 2 = ['-', '-'] then g.longMatches arg else g.shortMatches arg
          match found with
          | [w] => .ok (.option w)
          | [] =>
            if isNegativeNumber chars || chars.contains ' ' then .ok .plain
            else .ok (.option ⟨none, arg, false, none⟩)
          | _ => .error ("ambiguous option: " ++ arg ++ " could match "
              ++ ", ".intercalate (found.map Written.used))

/-- What each argument is. All after the divider are plain. -/
def marks (g : Grammar α) : List String → Except String (List (Item α))
  | [] => .ok []
  | a :: r =>
    if a = "--" then .ok (⟨a, .divider⟩ :: r.map fun b => ⟨b, .plain⟩)
    else do
      let m ← g.markOf a
      let rest ← g.marks r
      .ok (⟨a, m⟩ :: rest)

end Grammar

/-- How many arguments an operand takes, if it can: a divider before or after its argument goes with
it. -/
def Arity.take? (a : Arity) (items : List (Item α)) : Option Nat :=
  let dividers (l : List (Item α)) : Nat :=
    (l.takeWhile fun i => match i.mark with | .divider => true | _ => false).length
  let before := dividers items
  match items.drop before, a with
  | ⟨_, .plain⟩ :: r, .rest => some (before + 1 + r.length)
  | ⟨_, .plain⟩ :: r, _ => some (before + 1 + dividers r)
  | _, .optional => some before
  | _, _ => none

/-- How many arguments each of the operands takes, if they all can. -/
def takeAll? (items : List (Item α)) : List OperandSpec → Option (List Nat)
  | [] => some []
  | o :: os => do
    let n ← o.arity.take? items
    let ns ← takeAll? (items.drop n) os
    some (n :: ns)

/-- How many arguments the operands take, for as many of them as can. -/
def takeMost (items : List (Item α)) (os : List OperandSpec) : List Nat :=
  ((List.range (os.length + 1)).reverse.findSome? fun i => takeAll? items (os.take i)).getD []

/-- The values of an operand: the first divider among its arguments does not count, unless it takes
all the rest. -/
def OperandSpec.values (o : OperandSpec) (args : List String) : List String :=
  if o.arity = .rest then args else args.erase "--"

/-- An operand with its values. A single value has to be among the choices, if there are any, as has
the first of all the rest. -/
def OperandSpec.check (o : OperandSpec) (args : List String) : Except String (Found α) :=
  let values := o.values args
  match values.head? with
  | some v =>
    if o.choices = [] ∨ v ∈ o.choices then .ok (.operand o.name values)
    else .error (argumentError o.name ("invalid choice: " ++ Text.quoted v ++ " (choose from "
      ++ ", ".intercalate (o.choices.map Text.quoted) ++ ")"))
  | none => .ok (.operand o.name values)

/-- What a command line comes to: what was found in order, arguments that nothing takes, operands
that got none, and a mistake that ended the search. -/
structure Reading (α : Type) where
  found : List (Found α) := []
  extras : List String := []
  missing : List OperandSpec := []
  mistake : Option String := none

/-- A reading with more in front. -/
def Reading.after (found : List (Found α)) (extras : List String) (r : Reading α) : Reading α :=
  { r with found := found ++ r.found, extras := extras ++ r.extras }

/-- Gives operands their arguments, up to the first mistake. -/
def fill : List OperandSpec → List Nat → List String → List (Found α) × Option String
  | o :: os, n :: ns, args =>
    match o.check (args.take n) with
    | .error e => ([], some e)
    | .ok f =>
      let (fs, e) := fill os ns (args.drop n)
      (f :: fs, e)
  | _, _, _ => ([], none)

/-- What an option makes of the text written with it. A one-letter option without a value lets the
letters after it be options too; the last of them is left to look at what follows. -/
def cluster (g : Grammar α) (o : OptionSpec α) (short equals : Bool) :
    List Char → Except String (List (Found α) × List String × Option (OptionSpec α))
  | [] =>
    if o.takesValue then .ok ([.option o.tag (some "")], [], none)
    else .error (argumentError o.title "ignored explicit argument ''")
  | c :: r =>
    if o.takesValue then .ok ([.option o.tag (some (String.ofList (c :: r)))], [], none)
    else if !short || equals || c == '-' then
      .error (argumentError o.title ("ignored explicit argument "
        ++ Text.quoted (String.ofList (c :: r))))
    else match g.optionOf? (String.ofList ['-', c]) with
      | none => .ok ([.option o.tag none], [String.ofList ('-' :: c :: r)], none)
      | some o' =>
        match r with
        | [] => .ok ([.option o.tag none], [], some o')
        | '=' :: r' => (cluster g o' true true r').map fun x => (.option o.tag none :: x.1, x.2)
        | d :: r' => (cluster g o' true false (d :: r')).map fun x => (.option o.tag none :: x.1, x.2)

/-- An option that looks at what follows: it takes the next argument if it needs a value. -/
def follow (o : OptionSpec α) (rest : List (Item α)) : Except String (Found α × Nat) :=
  if o.takesValue then
    match rest with
    | ⟨text, .plain⟩ :: _ => .ok (.option o.tag (some text), 1)
    | _ => .error (argumentError o.title "expected one argument")
  else .ok (.option o.tag none, 0)

/-- What an option comes to: what is found, what is left over, and how many of the following
arguments it takes. -/
def useOption (g : Grammar α) (text : String) (w : Written α) (rest : List (Item α)) :
    Except String (List (Found α) × List String × Nat) :=
  match w.spec, w.value with
  | none, _ => .ok ([], [text], 0)
  | some o, none => (follow o rest).map fun x => ([x.1], [], x.2)
  | some o, some value => do
    let short := (w.used.toList.drop 1).head? ≠ some '-'
    let (found, extras, last) ← cluster g o short w.equals value.toList
    match last with
    | none => .ok (found, extras, 0)
    | some o' => (follow o' rest).map fun x => (found ++ [x.1], extras, x.2)

/-- Reads arguments that have been marked. As long as there are options ahead, operands in front of
the next one get what they can; what they cannot take is left over. -/
def readItems (g : Grammar α) (operands : List OperandSpec) (items : List (Item α)) : Reading α :=
  let counts := takeMost items operands
  let total := counts.foldl (· + ·) 0
  let filled : List (Found α) × Option String := fill operands counts (items.map Item.text)
  let left := operands.drop counts.length
  match items with
  | [] =>
    match filled.2 with
    | some e => { found := filled.1, mistake := some e }
    | none => { found := filled.1, missing := left.filter (·.arity ≠ .optional) }
  | ⟨text, .option w⟩ :: rest =>
    match useOption g text w rest with
    | .error e => { mistake := some e }
    | .ok (found, extras, n) => (readItems g operands (rest.drop n)).after found extras
  | item :: rest =>
    match filled.2 with
    | some e => { found := filled.1, mistake := some e }
    | none =>
      if rest.any (·.mark.isOption) then
        if total = 0 then
          let skipped := (item :: rest).takeWhile fun i => !i.mark.isOption
          (readItems g left (rest.dropWhile fun i => !i.mark.isOption)).after filled.1
            (skipped.map Item.text)
        else (readItems g left (rest.drop (total - 1))).after filled.1 []
      else
        { found := filled.1
          extras := ((item :: rest).drop total).map Item.text
          missing := left.filter (·.arity ≠ .optional) }
termination_by items.length
decreasing_by
  · simp only [List.length_cons, List.length_drop]; omega
  · exact Nat.lt_succ_of_le (List.dropWhile_sublist _).length_le
  · simp only [List.length_cons, List.length_drop]; omega

/-- Reads a command line. -/
def Grammar.read (g : Grammar α) (args : List String) : Reading α :=
  match g.marks args with
  | .error e => { mistake := some e }
  | .ok items => readItems g g.operands items

end BoxWarden.CommandLine
