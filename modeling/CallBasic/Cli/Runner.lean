import CallBasic.Session
import CallBasic.Cli.Report
import CallBasic.Text.Ansi
/-!
# Runners

A runner runs sources for the command line in one session and keeps what the program wrote.
It first loads the extensions; a module that cannot be loaded is reported. Then it runs
sources: every failure is reported, marks the run as failed and, unless failures are
ignored, ends the program with status 1. At the end the statistics are shown if asked for
and something ran, and the status is 1 after a failure and 0 otherwise. In plain mode all
output goes to standard output without colour codes.
-/

namespace CallBasic.Cli

/-- What the program has written. In plain mode every write goes to standard output, its
colour codes removed. Both streams encode their texts as UTF-8 strictly. -/
structure Terminal where
  stdout : String
  stderr : String
  plain : Bool

/-- Writes to a stream of the terminal; a text that cannot be encoded is not written, and the
failure is given instead. -/
def Terminal.put (t : Terminal) (s : Stream) (text : CodeString) : Except String Terminal := do
  if t.plain then
    let str ← (Text.stripAnsi text).encode
    pure { t with stdout := t.stdout ++ str }
  else
    let str ← text.encode
    match s with
    | .out => pure { t with stdout := t.stdout ++ str }
    | .diag => pure { t with stderr := t.stderr ++ str }

/-- The state of a run of the command line. -/
structure Runner where
  session : Session
  term : Terminal
  input : List String
  ignore : Bool
  expressions : Nat
  executed : Nat
  failed : Bool

/-- How a run of the command line stops early: with an exit status, or with a host error
that nothing caught. -/
inductive Stop where
  | exit (code : Nat)
  | escape (e : Failure)

/-- A step of the command line. -/
abbrev CliM := EStateM Stop Runner

/-- The failure of a write that the terminal cannot encode, which nothing catches. -/
def encodingStop (message : String) : Stop :=
  .escape (.host ⟨.unicodeEncodeError, message⟩)

/-- Writes a text. -/
def say (s : Stream) (text : CodeString) : CliM Unit := do
  match (← get).term.put s text with
  | .ok term => modify fun r => { r with term := term }
  | .error m => throw (encodingStop m)

/-- Writes a line: the text, then a line feed, as two writes. -/
def sayLine (s : Stream) (text : CodeString) : CliM Unit := do
  say s text
  say s "\n"

/-- Runs a session operation, passing what it wrote on to the terminal. -/
def inSession {α : Type} (m : SessionM α) : CliM (Except Failure α) := fun r =>
  let (res, s) := match m.run r.session with
    | .ok a s => (Except.ok a, s)
    | .error e s => (Except.error e, s)
  let r := { r with session := { s with world := { s.world with writes := [] } } }
  match s.world.writes.foldlM (fun t w => t.put w.stream w.text) r.term with
  | .ok term => .ok res { r with term := term }
  | .error m => .error (encodingStop m) r

/-- Reports a failure in a file with its source. Outside the interactive loop the run is
then failed and, unless failures are ignored, ends with status 1. -/
def report (f : Failure) (file source : CodeString) (interactive : Bool) : CliM Unit := do
  sayLine .diag (bannerLine f file source)
  if f.cls.isLibrary then sayLine .diag (failureContext f file source)
  else
    match f with
    | .host e => for l in traceText e do say .diag l
    | _ => pure ()
  if interactive then return
  modify fun r => { r with failed := true }
  if !(← get).ignore then throw (.exit 1)

/-- Runs a source from a file and shows its value when asked. -/
def execute (source : CodeString) (file : String) (interactive display : Bool) : CliM Unit := do
  match ← inSession (Session.runForDisplay source (some file)) with
  | .error f => report f file source interactive
  | .ok o =>
    modify fun r => { r with executed := r.executed + 1, expressions := r.expressions + o.expressions }
    if display then
      match o.value with
      | some v => sayLine .out (v.render true)
      | none => pure ()

/-- A count with its thousands separated by commas. -/
def groupThousands (n : Nat) : String :=
  let ds := (Nat.toDigits 10 n).reverse
  let rec go : List Char → List Char
    | a :: b :: c :: d :: rest => a :: b :: c :: ',' :: go (d :: rest)
    | rest => rest
  String.ofList (go ds).reverse

/-- Shows the statistics if asked for and something ran, and gives the exit status. -/
def finish (stats : Bool) : CliM Nat := do
  let r ← get
  if stats && r.executed > 0 then
    sayLine .out "\n\x1b[97m\x1b[48;5;30m STATISTICS. \x1b[0m"
    sayLine .out ("expr\t\x1b[97m" ++ groupThousands r.expressions ++ "\x1b[0m")
    sayLine .out "time\t\x1b[97m0.000s\x1b[0m"
  pure (if r.failed then 1 else 0)

/-- Loads the extensions of a run. A module that cannot be loaded is reported; any other
error of loading ends the program. -/
def loadExtensions (names : List CodeString) : CliM Unit := do
  for ns in names do
    match ← inSession (Session.loadExtension ns) with
    | .ok registered =>
      if (← get).session.verbosity.showsInfo then
        sayLine .diag ("INFO basicfl: Extension `" ++ ns ++ "` registered " ++
          CodeString.join (registered.intersperse (CodeString.ofString ", ")) ++ ".")
    | .error f =>
      match f with
      | .module .. => report f ("<EXT:" ++ ns ++ ">") "" false
      | _ => throw (.escape f)

end CallBasic.Cli
