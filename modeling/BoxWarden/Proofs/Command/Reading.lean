import BoxWarden.CreateCommand
import BoxWarden.Proofs.Compile.Effect
import BoxWarden.Proofs.Shell.RoundTrip

/-!
The create command, read back. A reader that knows the options of the command takes it apart into
the flags that it was put together from, whatever the values in it are.
-/

namespace BoxWarden

/-- A flag as it is read: an option of the command itself, or a flag for the container engine. -/
inductive Item
  | own (tokens : List String)
  | engine (tokens : List String)
deriving DecidableEq, Repr

/-- The tokens of a flag, with nothing wrapped. -/
def Item.tokens : Item → List String
  | own tokens => tokens
  | engine tokens => tokens

@[simp] theorem Item.tokens_own (tokens : List String) : (own tokens).tokens = tokens := rfl

@[simp] theorem Item.tokens_engine (tokens : List String) : (engine tokens).tokens = tokens := rfl

/-- The flag as it should be read. -/
def Flag.item (f : Flag) : Item := if f.native then .own f.tokens else .engine f.tokens

@[simp] theorem Flag.tokens_item (f : Flag) : f.item.tokens = f.tokens := by
  rw [item]
  split <;> rfl

/-- An option that takes no value. -/
def standsAlone (word : String) : Bool :=
  word == "--root" || word == "--init" || "--unshare-".toList.isPrefixOf word.toList

/-- Reads arguments from left to right. What follows an option that takes a value is its value,
whatever it looks like. -/
def readArguments : List String → Option (List Item)
  | [] => some []
  | [word] => if standsAlone word then some [.own [word]] else none
  | word :: operand :: rest =>
    if word = "--additional-flags" then
      match Shell.split operand with
      | .ok tokens => (readArguments rest).map (.engine tokens :: ·)
      | .error _ => none
    else if word = "--hostname" then (readArguments rest).map (.own [word, operand] :: ·)
    else if standsAlone word then (readArguments (operand :: rest)).map (.own [word] :: ·)
    else none

/-- A wrapped flag is read back with all its tokens. -/
theorem readArguments_wrap (tokens rest : List String) :
    readArguments (wrap tokens ++ rest) = (readArguments rest).map (.engine tokens :: ·) := by
  have hwrap : wrap tokens ++ rest = "--additional-flags" :: Shell.join tokens :: rest := rfl
  rw [hwrap, readArguments, if_pos rfl, Shell.split_join]

theorem readArguments_hostname (value : String) (rest : List String) :
    readArguments ("--hostname" :: value :: rest) =
      (readArguments rest).map (.own ["--hostname", value] :: ·) := by
  rw [readArguments, if_neg (by decide), if_pos rfl]

theorem readArguments_alone {word : String} (h : standsAlone word = true) (rest : List String) :
    readArguments (word :: rest) = (readArguments rest).map (.own [word] :: ·) := by
  have hne {other : String} (ho : standsAlone other = false) : word ≠ other := by
    rintro rfl
    rw [ho] at h
    cases h
  have hengine : word ≠ "--additional-flags" := hne (by decide)
  have hhostname : word ≠ "--hostname" := hne (by decide)
  cases rest with
  | nil => simp [readArguments, h]
  | cons operand rest => rw [readArguments, if_neg hengine, if_neg hhostname, if_pos h]

/-- What the options of the command itself look like. -/
def IsOption (tokens : List String) : Prop :=
  tokens = ["--root"] ∨ tokens = ["--init"] ∨ ∃ value, tokens = ["--hostname", value]

/-- A grant never leads to another option. -/
theorem isOption_of_native {h : Host} {r : Record} {f : Flag} (hf : f ∈ r.flags h)
    (hn : f.native = true) : IsOption f.tokens :=
  (Record.isOf_of_mem_flags hf).2 hn

/-- The arguments of a flag are read back as the flag. -/
theorem readArguments_flag {f : Flag} (hf : f.native = true → IsOption f.tokens)
    (rest : List String) :
    readArguments (f.arguments ++ rest) = (readArguments rest).map (f.item :: ·) := by
  cases hn : f.native with
  | false =>
    rw [Flag.arguments, Flag.item, hn]
    exact readArguments_wrap f.tokens rest
  | true =>
    rw [Flag.arguments, Flag.item, hn, if_pos rfl, if_pos rfl]
    rcases hf hn with h | h | ⟨value, h⟩
    · rw [h]
      exact readArguments_alone (by decide) rest
    · rw [h]
      exact readArguments_alone (by decide) rest
    · rw [h]
      exact readArguments_hostname value rest

/-- Arguments that are read one group after another are read as a whole. -/
theorem readArguments_flatMap {α : Type} (arguments : α → List String) (item : α → Item)
    {xs : List α}
    (h : ∀ x ∈ xs, ∀ rest, readArguments (arguments x ++ rest) =
      (readArguments rest).map (item x :: ·)) (rest : List String) :
    readArguments (xs.flatMap arguments ++ rest) =
      (readArguments rest).map (xs.map item ++ ·) := by
  induction xs with
  | nil => simp
  | cons x xs ih =>
    have hxs := ih fun y hy => h y (List.mem_cons_of_mem x hy)
    rw [List.flatMap_cons, List.append_assoc, h x List.mem_cons_self, hxs, Option.map_map]
    rfl

/-- Every flag that isolates something stands alone. -/
theorem standsAlone_of_mem_flags {s : Isolation} {flag : String} (h : flag ∈ s.flags) :
    standsAlone flag = true := by
  rw [Isolation.flags, List.mem_append, List.mem_map] at h
  rcases h with ⟨n, -, rfl⟩ | hrest
  · cases n <;> decide
  · split at hrest
    · obtain rfl := List.mem_singleton.mp hrest
      decide
    · cases hrest

/-- The flags that the arguments of a compiled list are read as. -/
def Compiled.items (c : Compiled) : List Item :=
  c.unshare.map (fun flag => .own [flag]) ++ c.flags.map Flag.item ++
    hardening.map fun x => .engine x.tokens

/-- All arguments that grants lead to, and the hardening behind them, are read back. -/
theorem readArguments_compile (h : Host) (records : List Record) :
    readArguments ((compile h records).unshare ++ (compile h records).flags.flatMap Flag.arguments ++
      hardening.flatMap fun x => wrap x.tokens) = some (compile h records).items := by
  have hunshare (rest : List String) : readArguments ((compile h records).unshare ++ rest) =
      (readArguments rest).map
        ((compile h records).unshare.map (fun flag => .own [flag]) ++ ·) := by
    have halone : ∀ flag ∈ (compile h records).unshare, ∀ rest,
        readArguments ([flag] ++ rest) = (readArguments rest).map (Item.own [flag] :: ·) :=
      fun flag hflag rest => readArguments_alone (standsAlone_of_mem_flags hflag) rest
    have hread := readArguments_flatMap (fun flag => [flag]) (fun flag => .own [flag]) halone rest
    rwa [List.flatMap_singleton'] at hread
  have hflags : ∀ f ∈ (compile h records).flags, ∀ rest,
      readArguments (f.arguments ++ rest) = (readArguments rest).map (f.item :: ·) := by
    intro f hf rest
    rw [compile_eq, List.mem_flatMap] at hf
    obtain ⟨r, -, hf⟩ := hf
    exact readArguments_flag (isOption_of_native hf) rest
  have hhardening := readArguments_flatMap (fun x : Hardening => wrap x.tokens)
    (fun x => .engine x.tokens) (fun x (_ : x ∈ hardening) rest => readArguments_wrap x.tokens rest) []
  rw [List.append_nil, readArguments] at hhardening
  rw [List.append_assoc, hunshare, readArguments_flatMap Flag.arguments Flag.item hflags, hhardening,
    Compiled.items]
  simp

/-- Without the wrapping they are the tokens of the grants and of the hardening. -/
theorem tokens_items (c : Compiled) :
    c.items.flatMap Item.tokens = c.tokens ++ hardening.flatMap Hardening.tokens := by
  rw [Compiled.items, Compiled.tokens, List.flatMap_append, List.flatMap_append, List.flatMap_map,
    List.flatMap_map, List.flatMap_map]
  simp

end BoxWarden
