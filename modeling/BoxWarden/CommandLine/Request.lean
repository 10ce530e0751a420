import BoxWarden.CommandLine.Grammar
import BoxWarden.Text.Blank

/-!
The command line of the application: its commands with their options and operands, the help that it
shows, and the request that a command line makes.
-/

namespace BoxWarden.CommandLine

/-- What the application can be told to do. -/
inductive Command
  | create
  | grant
  | revoke
  | list
  | recreate
  | edit
  | completion
  | help
deriving DecidableEq, Repr

/-- The meaning of an option. -/
inductive Tag
  | help
  | version
  | config
  | dryRun
  | verbose
  | names
  | raw
deriving DecidableEq, Repr

namespace Command

def all : List Command := [create, grant, revoke, list, recreate, edit, completion, help]

def name : Command → String
  | create => "create"
  | grant => "grant"
  | revoke => "revoke"
  | list => "list"
  | recreate => "recreate"
  | edit => "edit"
  | completion => "completion"
  | help => "help"

def ofName? (s : String) : Option Command := all.find? (·.name = s)

/-- The option that every command has. -/
def helpOption : OptionSpec Tag :=
  { names := ["-h", "--help"], tag := .help, help := "show this help message and exit" }

/-- The options and operands of a command. -/
def grammar : Command → Grammar Tag
  | create | recreate => ⟨[helpOption], [⟨"name", .one, []⟩, ⟨"image", .optional, []⟩]⟩
  | grant => ⟨[helpOption], [⟨"name", .one, []⟩, ⟨"kind", .one, []⟩, ⟨"value", .one, []⟩]⟩
  | revoke => ⟨[helpOption], [⟨"name", .one, []⟩, ⟨"kind", .one, []⟩]⟩
  | list =>
    ⟨[helpOption, { names := ["--names"], tag := .names, help := "Print container names only" }],
      [⟨"name", .optional, []⟩]⟩
  | edit =>
    ⟨[helpOption,
        { names := ["--raw"], tag := .raw, help := "Open the permissions file in $EDITOR" }],
      [⟨"name", .optional, []⟩]⟩
  | completion => ⟨[helpOption], [⟨"shell", .one, ["bash"]⟩]⟩
  | help => ⟨[helpOption], []⟩

end Command

/-- The operand that names the command, and takes the command's own arguments with it. -/
def commandOperand : OperandSpec := ⟨"COMMAND", .rest, Command.all.map Command.name⟩

/-- The options and operands of the application. -/
def topGrammar : Grammar Tag where
  options := [
    Command.helpOption,
    { names := ["--config"], tag := .config, takesValue := true },
    { names := ["--dry-run"], tag := .dryRun },
    { names := ["--verbose", "-v"], tag := .verbose },
    { names := ["--version"], tag := .version }]
  operands := [commandOperand]

/-- The help of the application. It also stands where a usage line or the version would. -/
def helpText : String :=
  String.join ([
    "distrobox-secure - secure-by-default distrobox containers.",
    "Version: 1.0.0",
    "",
    "Containers start with every namespace isolated and no host access.",
    "Each grant opts into one capability.",
    "",
    "Containers:",
    "  distrobox-secure create <name> [image]        Create a container from its grants",
    "  distrobox-secure recreate <name> [image]      Remove and rebuild with current grants",
    "",
    "Permissions:",
    "  distrobox-secure grant <name> <kind> <value>  Add a grant",
    "  distrobox-secure revoke <name> <kind>         Remove all grants of a kind",
    "  distrobox-secure list [name]                  Show grants (or all containers)",
    "  distrobox-secure edit [name] [--raw]          Edit grants (TUI, or $EDITOR with --raw)",
    "",
    "Other:",
    "  distrobox-secure completion bash              Print bash completion script",
    "  distrobox-secure help                         Show this help",
    "",
    "Global options:",
    "  --config <path>                               Permissions file to use",
    "  --dry-run                                     Print distrobox commands, don't run them",
    "  --verbose                                     Also log to stderr",
    "",
    "Permission kinds:",
    "  home_folder <path>       Bind a host folder at the same path (read-write)",
    "  mount <src>:<dst>        Bind src at dst (read-write)",
    "  network host|bridge      Network access (shares the network namespace)",
    "  x11|wayland enable       Display access",
    "  audio|gpu|webcam enable  Hardware passthrough",
    "  usb enable               USB bus (shares /dev and /sys)",
    "  unshare_netns|unshare_devsys|unshare_groups|unshare_ipc|unshare_process false",
    "                           Stop isolating one namespace",
    "  unshare_all false|true   Share everything, or add --unshare-all",
    "  privileged|root|init enable",
    "  hostname <name>  cap_add <CAP>  security_opt <opt>",
    "",
    "Examples:",
    "  distrobox-secure grant dev home_folder ~/projects",
    "  distrobox-secure grant dev network host",
    "  distrobox-secure create dev"].map (· ++ "\n"))

/-- How a command is called in its usage line: by the whole help and its name. -/
def Command.title (c : Command) : String := Text.trim helpText ++ " " ++ c.name

/-- An operand in a usage line, without the brackets of one that may be left out. -/
def OperandSpec.shown (o : OperandSpec) : String :=
  if o.choices = [] then o.name else "\x7b" ++ ",".intercalate o.choices ++ "\x7d"

/-- The usage line of a command. -/
def Command.usage (c : Command) : String :=
  let options := c.grammar.options.map fun o => "[" ++ o.names.headD "" ++ "]"
  let operands := c.grammar.operands.map fun o =>
    if o.arity = .optional then "[" ++ o.shown ++ "]" else o.shown
  "usage: " ++ c.title ++ "\n       " ++ " ".intercalate (options ++ operands) ++ "\n"

/-- The help of a command. -/
def Command.helpText (c : Command) : String :=
  let operands := c.grammar.operands.map fun o => "  " ++ o.shown ++ "\n"
  let options := c.grammar.options.map fun o =>
    let title := ", ".intercalate o.names
    "  " ++ title ++ String.ofList (List.replicate (12 - title.length) ' ') ++ o.help ++ "\n"
  c.usage ++ (if operands = [] then "" else "\npositional arguments:\n" ++ String.join operands)
    ++ "\noptions:\n" ++ String.join options

/-- What the application is asked for. A kind or a value that is given as a second divider is left
out. -/
inductive Request
  | help
  | create (name : String) (image : Option String)
  | recreate (name : String) (image : Option String)
  | grant (name : String) (kind value : Option String)
  | revoke (name : String) (kind : Option String)
  | list (name : Option String) (namesOnly : Bool)
  | edit (name : Option String) (raw : Bool)
  | completion
deriving DecidableEq, Repr

/-- A request with the options that go with every one. -/
structure Invocation where
  config : Option String := none
  dryRun : Bool := false
  verbose : Bool := false
  request : Request := .help
deriving DecidableEq, Repr

/-- What a command line leads to: a request, or output and an exit code. -/
inductive Parsed
  | invocation (i : Invocation)
  | shown (text : String)
  | refused (text : String)
deriving DecidableEq, Repr

/-- The refusal of a command line for the application. -/
def refuse (message : String) : Parsed :=
  .refused (helpText ++ "distrobox-secure: error: " ++ message ++ "\n")

/-- The refusal of the arguments of a command. -/
def Command.refuse (c : Command) (message : String) : Parsed :=
  .refused (c.usage ++ c.title ++ ": error: " ++ message ++ "\n")

/-- The message on operands that got no argument. -/
def missingMessage (missing : List OperandSpec) : String :=
  "the following arguments are required: " ++ ", ".intercalate (missing.map OperandSpec.name)

/-- The value of an operand, if it has one. -/
def operand? (found : List (Found Tag)) (name : String) : Option String :=
  (found.findSome? fun
    | .operand n values => if n = name then some values.head? else none
    | _ => none).join

/-- Whether an option was given. -/
def given (found : List (Found Tag)) (tag : Tag) : Bool :=
  found.any fun
    | .option t _ => t = tag
    | _ => false

/-- The request that the arguments of a command make. -/
def Command.request (c : Command) (found : List (Found Tag)) : Request :=
  let name := operand? found "name"
  match c with
  | create => .create (name.getD "") (operand? found "image")
  | recreate => .recreate (name.getD "") (operand? found "image")
  | grant => .grant (name.getD "") (operand? found "kind") (operand? found "value")
  | revoke => .revoke (name.getD "") (operand? found "kind")
  | list => .list name (given found .names)
  | edit => .edit name (given found .raw)
  | completion => .completion
  | help => .help

/-- What the arguments of a command lead to, with the arguments that nothing takes. -/
def Command.read (c : Command) (args : List String) : Except Parsed (Request × List String) :=
  let r := c.grammar.read args
  if given r.found .help then .error (.shown c.helpText)
  else match r.mistake with
    | some m => .error (c.refuse m)
    | none =>
      if r.missing = [] then .ok (c.request r.found, r.extras)
      else .error (c.refuse (missingMessage r.missing))

/-- Carries out what was found on a command line, in order. -/
def Invocation.apply (i : Invocation) : List (Found Tag) → Except Parsed (Invocation × List String)
  | [] => .ok (i, [])
  | .option .help _ :: _ | .option .version _ :: _ => .error (.shown helpText)
  | .option .config value :: r => { i with config := value }.apply r
  | .option .dryRun _ :: r => { i with dryRun := true }.apply r
  | .option .verbose _ :: r => { i with verbose := true }.apply r
  | .operand _ (command :: args) :: r =>
    match Command.ofName? command with
    | none => i.apply r
    | some c => do
      let (request, extras) ← c.read args
      let (j, more) ← { i with request := request }.apply r
      .ok (j, extras ++ more)
  | _ :: r => i.apply r

/-- What a command line leads to. -/
def parse (args : List String) : Parsed :=
  let r := topGrammar.read args
  match Invocation.apply {} r.found with
  | .error p => p
  | .ok (i, extras) =>
    match r.mistake, r.extras ++ extras with
    | some m, _ => refuse m
    | none, [] => .invocation i
    | none, unknown => refuse ("unrecognized arguments: " ++ " ".intercalate unknown)

end BoxWarden.CommandLine
