import BoxWarden.Grant.Kind
import BoxWarden.Text.Cut

/-!
The script that completes command lines in a shell.
-/

namespace BoxWarden.Completion

/-- The words that can stand first. -/
def commands : List String :=
  ["create", "grant", "revoke", "list", "recreate", "edit", "completion", "help"]

/-- The lines of the script for a program. -/
def scriptLines (prog : String) : List String :=
  let func := "_" ++ Text.substitute '-' "_" prog ++ "_completions"
  ["# Bash completion for " ++ prog,
   "# Install: " ++ prog ++ " completion bash > ~/.local/share/bash-completion/completions/"
     ++ prog,
   "",
   func ++ "() \x7b",
   "    local cur prev cword",
   "    COMPREPLY=()",
   "    cur=\"$\x7bCOMP_WORDS[COMP_CWORD]\x7d\"",
   "    prev=\"$\x7bCOMP_WORDS[COMP_CWORD-1]\x7d\"",
   "    cword=$COMP_CWORD",
   "",
   "    local commands=\"" ++ " ".intercalate commands ++ "\"",
   "    local perm_types=\"" ++ " ".intercalate Kind.names ++ "\"",
   "",
   "    if [[ $cword -eq 1 ]]; then",
   "        COMPREPLY=($(compgen -W \"$commands\" -- \"$cur\"))",
   "        return 0",
   "    fi",
   "",
   "    local command=\"$\x7bCOMP_WORDS[1]\x7d\"",
   "    case \"$command\" in",
   "        grant|revoke|list|recreate|edit)",
   "            if [[ $cword -eq 2 ]]; then",
   "                local containers",
   "                containers=$(" ++ prog ++ " list --names 2>/dev/null)",
   "                COMPREPLY=($(compgen -W \"$containers\" -- \"$cur\"))",
   "            elif [[ $cword -eq 3 ]] && [[ \"$command\" == \"grant\" || \"$command\" == \"revoke\" ]]; then",
   "                COMPREPLY=($(compgen -W \"$perm_types\" -- \"$cur\"))",
   "            fi",
   "            ;;",
   "        completion)",
   "            if [[ $cword -eq 2 ]]; then",
   "                COMPREPLY=($(compgen -W \"bash\" -- \"$cur\"))",
   "            fi",
   "            ;;",
   "    esac",
   "    return 0",
   "\x7d",
   "",
   "complete -o bashdefault -o default -F " ++ func ++ " " ++ prog]

/-- The script for a program. -/
def script (prog : String) : String := "\n".intercalate (scriptLines prog) ++ "\n"

end BoxWarden.Completion
