import CallBasic.Cli.Options
import CallBasic.Cli.Repl
import CallBasic.Cli.Surroundings
import CallBasic.Cli.Command
/-!
# Running the command line

The whole command line as a function of its arguments, its standard input, the files it may
read, the environment variables and the extension modules it may load, to its exit status
and what it wrote on standard output and standard error.

The global options are set apart first. Without other arguments the program runs its
standard input as a file; an argument that names a command runs that command; a single `-`
or a single existing file runs that file; anything else goes to the development command.
The runner starts after the command has read its options, and plain mode holds from then on.
-/

namespace CallBasic.Cli

/-- Starts a runner: plain mode from here on, then the extensions. -/
def startRunner (config : Config) (extensions : List CodeString) : CliM Unit := do
  modify fun r => { r with term := { r.term with plain := config.plain } }
  loadExtensions extensions

/-- Runs the actions of the development command in order. -/
def runActions (sur : Surroundings) : Nat → List Action → CliM Unit
  | _, [] => pure ()
  | i, a :: rest => do
    match a with
    | .file p => execute (readText (sur.readFile p)) p false false
    | .command e => execute e ("<INPUT_" ++ toString i ++ ">") false true
    | .repl => repl
    runActions sur (i + 1) rest

/-- Runs a command with its arguments. -/
def runCommand (sur : Surroundings) (config : Config) (extensions : List CodeString) (stats : Bool)
    (cmd : String) (tail : List CodeString) : CliM Nat := do
  if cmd == "run-file" then
    let args ← commandArgs cmd false tail
    match args with
    | [] => usageError cmd "Missing argument 'SCRIPT'."
    | script :: extra =>
      let stdinNamed := script == CodeString.ofString "-"
      if let some m := script.escapeError? then throw (encodingStop m)
      let (source, name) ← if stdinNamed then pure (readText sur.stdin, "<stdin>")
        else match script.toString? with
          | some path =>
            match sur.open path with
            | .ok text => pure (readText text, path)
            | .error why => usageError cmd ("Invalid value for 'SCRIPT': '" ++ path ++ "': " ++ why)
          | none => usageError cmd ("Invalid value for 'SCRIPT': '" ++ script.lossy ++
            "': No such file or directory")
      noExtra cmd extra
      if stdinNamed then modify fun r => { r with input := [] }
      startRunner config extensions
      execute source name false false
      finish stats
  else if cmd == "run-dev" then
    let tokens ← commandArgs cmd true tail
    startRunner config extensions
    match readActions sur.isFile tokens with
    | .error m => usageError cmd ("Invalid value: " ++ m)
    | .ok actions =>
      runActions sur 1 actions
      if actions.isEmpty then repl
      finish stats
  else do
    let args ← commandArgs cmd false tail
    noExtra cmd args
    startRunner config extensions
    if cmd == "run-repl" then repl
    else
      for (n, a) in (← get).session.listBuiltins do
        let pad := String.ofList (List.replicate (10 - n.length) ' ')
        say .out (n ++ CodeString.ofString (pad ++ " " ++ (if a < 0 then "*" else toString a) ++ "\n"))
    finish stats

/-- How a run of the command line ends: with an exit status or an error that nothing
caught, and what it wrote. -/
structure Ending where
  exit : Option Nat
  escaped : Option Failure
  stdout : String
  stderr : String

/-- The command that the arguments left after the global options ask for, with the arguments
it gets: without arguments, standard input run as a file; a command named first, with the
arguments after its name; a single `-` or a single existing file, run as a file; anything
else, the development command with all of them. -/
def chooseCommand (isFile : String → Bool) (r : List CodeString) : String × List CodeString :=
  match r with
  | [] => ("run-file", [CodeString.ofString "-"])
  | c :: rest =>
    match commands.find? (fun k => c == CodeString.ofString k) with
    | some k => (k, rest)
    | none =>
      if r == [CodeString.ofString "-"] ||
          (rest.isEmpty && !c.startsWith "-" && (c.toString?.map isFile).getD false) then
        ("run-file", r)
      else ("run-dev", r)

/-- Runs the command line with arguments in its surroundings. -/
def commandLine (sur : Surroundings) (argv : List CodeString) : Ending :=
  let (g, r) := splitGlobal argv
  let config := readConfig ⟨0, false, false, false, none, []⟩ g
  let env (k : String) : Option CodeString :=
    match (sur.environ.find? (fun p => p.1 == CodeString.ofString k)).map Prod.snd with
    | some v => if v.isEmpty then none else some v
    | none => none
  let lineEnding := decodeLineEnding
    ((config.lineEnding.orElse (fun _ => env "BASIC_LINE_ENDING")).getD (CodeString.ofString "\\n"))
  let extensions := if config.extensions.isEmpty then ((env "BASIC_EXT").map words).getD []
    else config.extensions
  let verbosity : Verbosity :=
    if config.verbose ≥ 2 || (env "BASIC_DEBUG").isSome then .debug
    else if config.verbose == 1 then .info else .quiet
  let (cmd, tail) := chooseCommand sur.isFile r
  let created := Session.create standardRegistry lineEnding sur.environ sur.library sur.stack
  let session := { created with verbosity := verbosity, world := { created.world with encodesOutput := true } }
  let start : Runner := ⟨session, ⟨"", "", false⟩, inputLines sur.stdin, config.ignore, 0, 0, false⟩
  match (runCommand sur config extensions config.stats cmd tail).run start with
  | .ok code r => ⟨some code, none, r.term.stdout, r.term.stderr⟩
  | .error (.exit code) r => ⟨some code, none, r.term.stdout, r.term.stderr⟩
  | .error (.escape f) r => ⟨none, some f, r.term.stdout, r.term.stderr⟩

end CallBasic.Cli
