import BoxWarden.Proofs.CommandLine.ExitCode
import BoxWarden.Proofs.Shell.Line

/-!
Commands as texts. A flag that is handed on, the header above a command and the notes on it in the
log hold words as one text; the words are read back from it, whatever characters they hold.
-/

namespace BoxWarden

open Session

theorem World.events_noted (w : World) (e : LogEntry) :
    (w.noted e).events = w.events ++ (Deed.noted e).events w.echo := by
  unfold noted
  cases h : w.echo <;> simp [emit, Deed.events]

theorem wrap_eq_wrap_iff {tokens tokens' : List String} :
    wrap tokens = wrap tokens' ↔ tokens = tokens' := by
  refine ⟨fun h => ?_, congrArg wrap⟩
  have hjoin : Shell.join tokens = Shell.join tokens' := by simpa [wrap] using h
  have hread := congrArg Shell.split hjoin
  rw [Shell.split_join, Shell.split_join] at hread
  exact Except.ok.inj hread

namespace Terminal

/-- The line that says whether a command will be run. -/
def announcement (dryRun : Bool) : String := if dryRun then "Would execute:" else "Executing:"

/-- What stands in a header behind the command. -/
def ending (summary : String) : String :=
  (if summary = "" then "" else "\n" ++ summary ++ "\n") ++ rule ++ "\n\n"

theorem header_eq (command : List String) (summary : String) (dryRun : Bool) :
    header command summary dryRun = rule ++ "\n" ++ announcement dryRun ++ "\n" ++
      (Shell.join command ++ "\n" ++ ending summary) := by
  simp only [header, announcement, ending, String.append_assoc]

/-- The endings differ in their first character where only one of them has a summary. -/
theorem ending_inj {summary summary' : String} (h : ending summary = ending summary') :
    summary = summary' := by
  have hempty : (ending "").toList.head? = some '=' := by
    simp only [ending, if_true, String.empty_append, String.toList_append, List.head?_append,
      head_rule, Option.some_or]
  have hsome {s : String} (hs : s ≠ "") : (ending s).toList.head? = some '\n' := by
    simp [ending, hs]
  have hchars := congrArg (fun s => s.toList.head?) h
  by_cases hs : summary = "" <;> by_cases hs' : summary' = ""
  · rw [hs, hs']
  · subst hs
    rw [hempty, hsome hs'] at hchars
    exact absurd hchars (by decide)
  · subst hs'
    rw [hempty, hsome hs] at hchars
    exact absurd hchars (by decide)
  · simpa only [ending, if_neg hs, if_neg hs', String.append_left_inj, String.append_right_inj]
      using h

/-- A header tells its command, its summary and whether the command will be run. -/
theorem header_inj {command command' : List String} {summary summary' : String}
    {dryRun dryRun' : Bool} :
    header command summary dryRun = header command' summary' dryRun' ↔
      command = command' ∧ summary = summary' ∧ dryRun = dryRun' := by
  constructor
  · intro h
    rw [header_eq, header_eq] at h
    obtain rfl : dryRun = dryRun' := by
      simp only [String.append_assoc, String.append_right_inj] at h
      have hchars := congrArg (fun s => s.toList.head?) h
      cases dryRun <;> cases dryRun' <;> simp [announcement] at hchars ⊢
    obtain ⟨rfl, hending⟩ := Shell.join_append_inj.mp ((String.append_right_inj _).mp h)
    exact ⟨rfl, ending_inj hending, rfl⟩
  · rintro ⟨rfl, rfl, rfl⟩
    rfl

end Terminal

namespace Tool

/-- The note on a command that is started. -/
def startNote (command : List String) : LogEntry :=
  ⟨.debug, source, "Running: " ++ Shell.join command⟩

/-- The note on a create command that has succeeded. -/
def createdNote (command : List String) : LogEntry :=
  ⟨.info, source, "Created container via: " ++ Shell.join command⟩

/-- A command is noted, and then it is started. -/
theorem run_run (command : List String) (captured : Bool) (w : World) :
    (run command captured).run w =
      (outcome command w.next, (w.noted (startNote command)).afterStart command captured) := by
  have hlog : (log .debug source ("Running: " ++ Shell.join command)).run w =
      (.ok (), w.noted (startNote command)) := run_log _ _ _ w
  have hnext : (w.noted (startNote command)).next = w.next := (ran_noted w _).next
  unfold run
  rw [run_bind_ok hlog, run_bind_ok (run_start _ _ _), hnext]
  cases w.next with
  | ended code out err => rfl
  | refused e =>
    cases e with
    | notFound => cases command <;> rfl
    | _ => rfl

theorem events_afterStart (command : List String) (captured : Bool) (w : World) :
    ((w.noted (startNote command)).afterStart command captured).events = w.events ++
      (Deed.noted (startNote command)).events w.echo ++ [.started command captured] := by
  rw [← World.events_noted]
  rfl

theorem succeeded_of_outcome {command : List String} {r : Reply} {o : Outcome}
    (h : outcome command r = .ok o) : r.succeeded = decide (o.code = 0) := by
  cases r with
  | ended code out err =>
    obtain rfl := Except.ok.inj h
    rfl
  | refused e =>
    cases e with
    | notFound => cases command <;> cases h
    | _ => cases h

theorem not_succeeded_of_outcome {command : List String} {r : Reply} {f : Fault}
    (h : outcome command r = .error f) : r.succeeded = false := by
  cases r with
  | ended code out err => cases h
  | refused e => rfl

/-- A create command that has succeeded is noted once more. -/
theorem events_create (command : List String) (w : World) :
    ((create command).run w).2.events = w.events ++
      (Deed.noted (startNote command)).events w.echo ++ [.started command false] ++
        if w.next.succeeded then (Deed.noted (createdNote command)).events w.echo else [] := by
  rw [create, run_bind, run_run, ← events_afterStart command false w]
  have hecho : ((w.noted (startNote command)).afterStart command false).echo = w.echo :=
    (ran_noted w _).echo
  generalize (w.noted (startNote command)).afterStart command false = w₁ at hecho ⊢
  cases houtcome : outcome command w.next with
  | error f =>
    rw [not_succeeded_of_outcome houtcome, if_neg Bool.false_ne_true, List.append_nil]
  | ok o =>
    rw [succeeded_of_outcome houtcome]
    by_cases hcode : o.code = 0
    · rw [if_pos (decide_eq_true hcode), ← hecho, ← World.events_noted]
      simp only [hcode, ne_eq, not_true_eq_false, if_false]
      exact congrArg (·.2.events) (run_log _ _ _ w₁)
    · rw [if_neg (by simpa using hcode), List.append_nil]
      simp only [hcode, ne_eq, not_false_eq_true, if_true]
      rfl

end Tool

/-- A flag that is handed on, and a command that is shown or noted, is one text that is read back as
its words, whatever they are: so flags of different words are handed on as different texts. The
header above a command holds the text of the command behind the line that announces it, and differs
from the header of any other command, even where words or summaries run over several lines. A
command is noted with its text before it is started, and once more when a container has been
created with it. -/
theorem commands_are_shown_exactly :
    (∀ tokens, ∃ text, wrap tokens = ["--additional-flags", text] ∧
      Shell.split text = .ok tokens) ∧
    (∀ tokens tokens', wrap tokens = wrap tokens' ↔ tokens = tokens') ∧
    (∀ command summary dryRun w, ∃ text ending, Shell.split text = .ok command ∧
      (Terminal.printHeader command summary dryRun).run w = (.ok (), w.emit (.printed .out
        (Terminal.rule ++ "\n" ++ (if dryRun then "Would execute:" else "Executing:") ++ "\n" ++
          (text ++ "\n" ++ ending))))) ∧
    (∀ command command' summary summary' dryRun dryRun',
      Terminal.header command summary dryRun = Terminal.header command' summary' dryRun' ↔
        command = command' ∧ summary = summary' ∧ dryRun = dryRun') ∧
    (∀ command captured w, ∃ text, Shell.split text = .ok command ∧
      ((Tool.run command captured).run w).2.events = w.events ++
        (Deed.noted ⟨.debug, "distrobox", "Running: " ++ text⟩).events w.echo ++
          [.started command captured]) ∧
    ∀ command w, ∃ text, Shell.split text = .ok command ∧
      ((Tool.create command).run w).2.events = w.events ++
        (Deed.noted ⟨.debug, "distrobox", "Running: " ++ text⟩).events w.echo ++
          [.started command false] ++
            if w.next.succeeded then
              (Deed.noted ⟨.info, "distrobox", "Created container via: " ++ text⟩).events w.echo
            else [] := by
  refine ⟨fun tokens => ⟨_, rfl, Shell.split_join tokens⟩, fun _ _ => wrap_eq_wrap_iff,
    fun command summary dryRun w => ?_, fun _ _ _ _ _ _ => Terminal.header_inj,
    fun command captured w => ⟨_, Shell.split_join command, ?_⟩,
    fun command w => ⟨_, Shell.split_join command, Tool.events_create command w⟩⟩
  · refine ⟨_, Terminal.ending summary, Shell.split_join command, ?_⟩
    rw [Terminal.printHeader, run_print, Terminal.header_eq]
    rfl
  · rw [Tool.run_run]
    exact Tool.events_afterStart command captured w

end BoxWarden
