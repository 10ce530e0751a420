import BoxWarden.Disk.Change
import BoxWarden.Environment

/-!
A run of the program as a function on a world: the tree of files, the answers that outside commands
will give, and the events so far in the order in which they happened. A run that fails keeps the
world it has come to.
-/

namespace BoxWarden

/-- The two streams of output. -/
inductive Stream
  | out
  | err
deriving DecidableEq, Repr

inductive LogLevel
  | debug
  | info
  | warning
  | error
deriving DecidableEq, Repr

def LogLevel.name : LogLevel → String
  | debug => "DEBUG"
  | info => "INFO"
  | warning => "WARNING"
  | error => "ERROR"

/-- An entry of the log. -/
structure LogEntry where
  level : LogLevel
  source : String
  message : String
deriving DecidableEq, Repr

/-- The entry on one line, without a time. -/
def LogEntry.line (e : LogEntry) : String := e.level.name ++ " " ++ e.source ++ ": " ++ e.message

/-- What an editor for grants is opened on. -/
structure EditorInput where
  config : Path
  container : Option String
  image : String
  host : Host
deriving DecidableEq, Repr

/-- Something that an onlooker can notice. -/
inductive Event
  | printed (stream : Stream) (text : String)
  | logged (entry : LogEntry)
  | started (command : List String) (captured : Bool)
  | edited (input : EditorInput)
deriving DecidableEq, Repr

/-- What the call that starts an outside command and waits for it comes to: the command has ended,
or the call itself has failed. It fails if the program is missing or may not be run, and as well if
a word of the command holds a NUL or if output that is to be read is not text. -/
inductive Reply
  | ended (code : Int) (out err : String)
  | refused (e : DiskError)
deriving DecidableEq, Repr

/-- The world of a run. Commands use up the replies in order and succeed silently after that. With
`echo`, log entries are printed too. -/
structure World where
  disk : Disk
  replies : List Reply := []
  events : List Event := []
  outIsTerminal : Bool := false
  errIsTerminal : Bool := false
  echo : Bool := false

namespace World

def emit (w : World) (e : Event) : World := { w with events := w.events ++ [e] }

def isTerminal (w : World) : Stream → Bool
  | .out => w.outIsTerminal
  | .err => w.errIsTerminal

/-- All that was printed to a stream. -/
def printed (w : World) (s : Stream) : String :=
  String.join (w.events.filterMap fun
    | .printed t text => if t = s then some text else none
    | _ => none)

/-- The commands that were started. -/
def started (w : World) : List (List String × Bool) :=
  w.events.filterMap fun
    | .started command captured => some (command, captured)
    | _ => none

/-- The entries of the log. -/
def log (w : World) : List LogEntry :=
  w.events.filterMap fun
    | .logged entry => some entry
    | _ => none

end World

/-- A run that may fail. -/
abbrev Session (α : Type) := ExceptT Fault (StateM World) α

namespace Session

/-- A pure result as a run. -/
def require (r : Except Fault α) : Session α :=
  match r with
  | .ok a => pure a
  | .error e => throw e

/-- An operation on the tree of files. -/
def onDisk (m : DiskM α) : Session α := do
  let w ← get
  let (r, d) := m.run w.disk
  set { w with disk := d }
  require (r.mapError Fault.disk)

/-- A question to the tree of files. -/
def ask (f : Disk → Except DiskError α) : Session α := do
  require ((f (← get).disk).mapError Fault.disk)

def print (s : Stream) (text : String) : Session Unit := modify (·.emit (.printed s text))

/-- Prints a line to the output. -/
def printLine (line : String) : Session Unit := print .out (line ++ "\n")

/-- Adds an entry to the log. -/
def log (level : LogLevel) (source message : String) : Session Unit := do
  let entry : LogEntry := ⟨level, source, message⟩
  modify (·.emit (.logged entry))
  if (← get).echo then print .err (entry.line ++ "\n")

/-- Starts a command and waits for its end; `captured` says that its output is read and not shown.
The reply is to this call as a whole, so it is a refused one for a command with a NUL among its
words, and for one whose captured output is no text. -/
def start (command : List String) (captured : Bool) : Session Reply := do
  modify (·.emit (.started command captured))
  match (← get).replies with
  | [] => pure (.ended 0 "" "")
  | r :: rest => do
    modify fun w => { w with replies := rest }
    pure r

/-- Goes on after the failure of a command; no other failure is forgiven. -/
def orElseTool (m : Session α) (go : ToolFailure → Session α) : Session α :=
  tryCatch m fun
    | .tool f => go f
    | e => throw e

end Session

end BoxWarden
