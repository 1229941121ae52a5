import CallBasic.Cli.Runner
import CallBasic.Text.Case
/-!
# The interactive loop

The loop shows a prompt and reads a line until the input ends or the line, without the blanks
around it, is `BYE`, `QUIT` or `EXIT` in any case. Each other line that is not empty is run and
its value shown; a failure is reported and the loop goes on.
-/

namespace CallBasic.Cli

/-- The prompt of the interactive loop. -/
def prompt : String := "\x1b[36mREADY \x1b[0m"

/-- Takes the next line of input, if there is one. -/
def nextLine : CliM (Option String) := do
  let r ← get
  match r.input with
  | l :: ls => set { r with input := ls }; pure (some l)
  | [] => pure none

/-- The interactive loop, for at most `fuel` lines. -/
def loopLines : Nat → CliM Unit
  | 0 => pure ()
  | fuel + 1 => do
    say .out prompt
    match ← nextLine with
    | none => sayLine .out ""
    | some l =>
      let line := Text.trim l
      let word := Text.upper line
      if word == "BYE" || word == "QUIT" || word == "EXIT" then pure ()
      else
        if !line.isEmpty then execute line "<REPL>" true true
        loopLines fuel

/-- Sets the host's stack that the session converts sources on. -/
def setStack (stack : Stack) : CliM Unit :=
  modify fun r => { r with session := { r.session with stack := stack } }

/-- The interactive loop. The loop itself takes a level of the host's stack, so the lines it
runs are converted one level deeper than sources given otherwise. -/
def repl : CliM Unit := do
  sayLine .out "basicfl - BASIC builtin REPL; type BYE or Ctrl+D to exit."
  let outer := (← get).session.stack
  setStack { outer with base := outer.base + 1 }
  loopLines ((← get).input.length + 1)
  setStack outer

end CallBasic.Cli
