import CallBasic.Text.CodeString
import CallBasic.Path
/-!
# Command-line options

The command line has global options, which may stand anywhere in it, and a command with its
own arguments. The global options are the flags `--ignore` (`-i`), `--stats`, `--plain`
(`-p`) and `--verbose` (`-v`, repeatable as `-vv`, …), and `--line-ending` and `--ext`,
which take a value after `=` or as the next argument. Setting the global options apart keeps
the order of both parts.

A line ending is given with the escapes `\n`, `\r`, `\t` and `\\`; any other backslash stands
for itself.

The development command reads a list of actions: `-c EXPR` (or `--command`, or `-c=EXPR`)
runs an expression, `-r` (or `--repl`) starts the interactive loop, `--` is skipped, and any
other argument names a file to run, which must exist; an unknown option is an error.
-/

namespace CallBasic.Cli

/-- The global flags. -/
def globalFlags : List String := ["--ignore", "--stats", "--plain", "-i", "-p"]

/-- The global options that take a value. -/
def valueOptions : List String := ["--line-ending", "--ext"]

/-- Whether an argument is one of some options. -/
def isOneOf (t : CodeString) (options : List String) : Bool :=
  options.any (fun o => t == CodeString.ofString o)

/-- Whether an argument is a repeated verbosity flag: `-v`, `-vv`, … -/
def isVerbosity (t : CodeString) : Bool :=
  match t.points with
  | .char '-' :: .char 'v' :: rest => rest.all (· = .char 'v')
  | _ => false

/-- Whether an argument is a global flag. -/
def isGlobalFlag (t : CodeString) : Bool :=
  isOneOf t globalFlags || isVerbosity t || isOneOf t ["--verbose"]

/-- Whether an argument is a value option with its value after `=`. -/
def isJoinedValue (t : CodeString) : Bool :=
  valueOptions.any (fun o => t.startsWith (o ++ "="))

/-- Sets the global options apart from the other arguments, keeping the order of both. -/
def splitGlobal : List CodeString → List CodeString × List CodeString
  | [] => ([], [])
  | t :: rest =>
    if isGlobalFlag t then
      let (g, r) := splitGlobal rest
      (t :: g, r)
    else if isOneOf t valueOptions && !rest.isEmpty then
      match rest with
      | v :: rest' =>
        let (g, r) := splitGlobal rest'
        (t :: v :: g, r)
      | [] => ([], [t])
    else if isJoinedValue t then
      let (g, r) := splitGlobal rest
      (t :: g, r)
    else
      let (g, r) := splitGlobal rest
      (g, t :: r)

/-- Decodes the escapes of a line ending. -/
def decodeEscapes : List CodePoint → List CodePoint
  | .char '\\' :: c :: rest =>
    if c = .char 'n' then .char '\n' :: decodeEscapes rest
    else if c = .char 'r' then .char '\r' :: decodeEscapes rest
    else if c = .char 't' then .char '\t' :: decodeEscapes rest
    else if c = .char '\\' then .char '\\' :: decodeEscapes rest
    else .char '\\' :: decodeEscapes (c :: rest)
  | c :: rest => c :: decodeEscapes rest
  | [] => []

/-- A line ending with its escapes decoded. -/
def decodeLineEnding (s : CodeString) : CodeString :=
  ⟨decodeEscapes s.points⟩

/-- The global options. -/
structure Config where
  verbose : Nat
  ignore : Bool
  stats : Bool
  plain : Bool
  lineEnding : Option CodeString
  extensions : List CodeString

/-- The text after the first `=` of an argument. -/
def afterEquals (t : CodeString) : CodeString :=
  ⟨(t.points.dropWhile (· ≠ .char '=')).drop 1⟩

/-- Reads the global options set apart by `splitGlobal`; a later value replaces an earlier
one, and extensions accumulate. -/
def readConfig (c : Config) : List CodeString → Config
  | [] => c
  | t :: rest =>
    if isOneOf t ["--ignore", "-i"] then readConfig { c with ignore := true } rest
    else if isOneOf t ["--stats"] then readConfig { c with stats := true } rest
    else if isOneOf t ["--plain", "-p"] then readConfig { c with plain := true } rest
    else if isOneOf t ["--verbose"] then readConfig { c with verbose := c.verbose + 1 } rest
    else if isVerbosity t then readConfig { c with verbose := c.verbose + (t.length - 1) } rest
    else if isOneOf t ["--line-ending"] then
      match rest with
      | v :: rest' => readConfig { c with lineEnding := some v } rest'
      | [] => c
    else if isOneOf t ["--ext"] then
      match rest with
      | v :: rest' => readConfig { c with extensions := c.extensions ++ [v] } rest'
      | [] => c
    else if t.startsWith "--line-ending=" then readConfig { c with lineEnding := some (afterEquals t) } rest
    else if t.startsWith "--ext=" then readConfig { c with extensions := c.extensions ++ [afterEquals t] } rest
    else readConfig c rest

/-- The words of a text separated by blanks. -/
def words (s : CodeString) : List CodeString :=
  s.words

/-- An action of the development command. -/
inductive Action where
  | command (expr : CodeString)
  | repl
  | file (path : String)
  deriving DecidableEq, Repr

/-- Reads the actions of the development command; `isFile` says which paths are files, and a
path with a lone surrogate names none. -/
def readActions (isFile : String → Bool) : List CodeString → Except CodeString (List Action)
  | [] => .ok []
  | t :: rest =>
    if isOneOf t ["-c", "--command"] then
      match rest with
      | e :: rest' => (Action.command e :: ·) <$> readActions isFile rest'
      | [] => .error ("Missing expression after `" ++ t ++ "`.")
    else if t.startsWith "-c=" || t.startsWith "--command=" then
      (Action.command (afterEquals t) :: ·) <$> readActions isFile rest
    else if isOneOf t ["-r", "--repl"] then (Action.repl :: ·) <$> readActions isFile rest
    else if isOneOf t ["--"] then readActions isFile rest
    else if t.startsWith "-" then .error ("Unknown option `" ++ t ++ "`.")
    else
      match t.toString? with
      | some path =>
        if isFile path then (Action.file (Path.normal path) :: ·) <$> readActions isFile rest
        else .error ("File `" ++ t ++ "` not found.")
      | none => .error ("File `" ++ t ++ "` not found.")

end CallBasic.Cli
