import CallBasic.Cli.Runner
import CallBasic.Text.Similarity
/-!
# Commands

The commands of the program and how each reads its own options. A command knows only
`--help`; the first `--` ends its options. An unknown option is an error, reported with the
command's usage and status 2, unless the command keeps unknown options as arguments. A command
that takes a fixed number of arguments refuses extra ones the same way. A value given to
`--help` is reported without the usage.
-/

namespace CallBasic.Cli

/-- The commands. -/
def commands : List String := ["run-file", "run-dev", "run-repl", "list-builtins"]

/-- The usage line of a command. -/
def usage (cmd : String) : String :=
  "Usage: basicfl " ++ cmd ++ " [OPTIONS]" ++
    (if cmd == "run-file" then " SCRIPT" else if cmd == "run-dev" then " [TOKENS]..." else "")

/-- Reports a usage error of a command and ends with status 2. -/
def usageError {α : Type} (cmd : String) (message : CodeString) : CliM α := do
  say .diag (usage cmd ++ "\nTry 'basicfl " ++ cmd ++ " --help' for help.\n\n")
  say .diag ("Error: " ++ message ++ "\n")
  throw (.exit 2)

/-- Reports a misused option, which names no command, and ends with status 2: only the
error line is shown. -/
def optionError {α : Type} (message : String) : CliM α := do
  say .diag ("Error: " ++ message ++ "\n")
  throw (.exit 2)

/-- Shows the help of a command and ends with status 0. -/
def help {α : Type} (cmd : String) : CliM α := do
  say .out (usage cmd ++ "\n\nOptions:\n  --help  Show this message and exit.\n")
  throw (.exit 0)

/-- The error for an option a command does not know. A long option close to `--help` is
answered with it; of a short option only its first two code points are named. -/
def unknownOption (arg : CodeString) : CodeString :=
  let name : CodeString := ⟨arg.points.takeWhile (· ≠ .char '=')⟩
  if arg.startsWith "--" then
    "No such option: " ++ name ++
      (if Text.isCloseTo name.lossy "--help" then CodeString.ofString " Did you mean --help?" else "")
  else "No such option: " ++ arg.take 2

/-- Reads the options of a command: gives its arguments and whether help was asked for. The
first `--` ends the options; `--help` takes no value; another option is an error, unless the
command keeps unknown options as arguments. -/
def readCommandArgs (cmd : String) (keepUnknown : Bool) :
    List CodeString → CliM (List CodeString × Bool)
  | [] => pure ([], false)
  | t :: rest => do
    if t == CodeString.ofString "--" then pure (rest, false)
    else if t.startsWith "-" && t.length > 1 then
      if t == CodeString.ofString "--help" then
        let (args, _) ← readCommandArgs cmd keepUnknown rest
        pure (args, true)
      else if t.startsWith "--help=" then
        optionError "Option '--help' does not take a value."
      else if keepUnknown then
        let (args, help) ← readCommandArgs cmd keepUnknown rest
        pure (t :: args, help)
      else usageError cmd (unknownOption t)
    else
      let (args, help) ← readCommandArgs cmd keepUnknown rest
      pure (t :: args, help)

/-- The arguments of a command; when help was asked for, the help is shown instead. -/
def commandArgs (cmd : String) (keepUnknown : Bool) (tokens : List CodeString) :
    CliM (List CodeString) := do
  let (args, wantsHelp) ← readCommandArgs cmd keepUnknown tokens
  if wantsHelp then help cmd
  pure args

/-- Refuses extra arguments of a command. -/
def noExtra (cmd : String) : List CodeString → CliM Unit
  | [] => pure ()
  | [a] => usageError cmd ("Got unexpected extra argument (" ++ a ++ ")")
  | as => usageError cmd ("Got unexpected extra arguments (" ++
      CodeString.join (as.intersperse (CodeString.ofString " ")) ++ ")")

end CallBasic.Cli
