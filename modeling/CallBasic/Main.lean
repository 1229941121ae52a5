import CallBasic.Cli.Run
import CallBasic.Extension.Packaged
/-!
# The program

The command line run on the real process: the arguments, the whole standard input, the
files the arguments name and the variables of the environment that the program reads are
gathered first, `Cli.commandLine` computes what the program writes and its exit status, and
the writes are then passed to the process's streams. Only the packaged extension modules
can be loaded here: a module found on the search path is host code this program cannot run.
-/

open CallBasic

/-- Reads the standard input to its end. -/
partial def readInput (stdin : IO.FS.Stream) (acc : String) : IO String := do
  let line ← stdin.getLine
  if line.isEmpty then pure acc else readInput stdin (acc ++ line)

/-- The texts of the files the arguments name, by absolute path from a working directory; an
argument that names no readable file is skipped. -/
def readNamedFiles (workDir : String) (args : List String) :
    IO (List (String × Cli.FileContent)) :=
  args.filterMapM fun (a : String) => do
    try
      let text ← IO.FS.readFile a
      let path := if a.startsWith "/" then a else workDir ++ "/" ++ a
      pure (some (path, .regular text))
    catch _ => pure none

/-- The variables of the environment that the program reads. -/
def readEnviron : IO (List (String × String)) :=
  ["BASIC_PATH", "BASIC_DEBUG", "BASIC_LINE_ENDING", "BASIC_EXT"].filterMapM fun k => do
    pure ((← IO.getEnv k).map fun v => (k, v))

/-- The host's stack when the command line converts a source: the outermost expressions of a
source are converted thirteen levels deep, under the usual limit. -/
def commandStack : Stack := ⟨13, 1000⟩

/-- Runs the command line on the process. An error that nothing caught is shown as its class
and text, with status 1. -/
def main (args : List String) : IO UInt32 := do
  let input ← readInput (← IO.getStdin) ""
  let workDir := (← IO.currentDir).toString
  let files ← readNamedFiles workDir args
  let environ ← readEnviron
  let e := Cli.commandLine ⟨input, ⟨workDir, files⟩, environ.map (fun (k, v) => (↑k, ↑v)),
    ⟨"/", ⟨workDir, packagedFiles "/"⟩⟩, commandStack⟩ (args.map CodeString.ofString)
  let out ← IO.getStdout
  let err ← IO.getStderr
  out.putStr e.stdout
  err.putStr e.stderr
  out.flush
  err.flush
  match e.escaped with
  | some f =>
    err.putStrLn (f.cls.name ++ ": " ++ f.message.lossy)
    pure 1
  | none => pure (e.exit.getD 0).toUInt32
