import CallBasic.Eval
import CallBasic.Extension.Packaged
import CallBasic.Host.Stack
/-!
# Sessions

A session owns a registry of signatures, the text that ends printed lines, a world (output,
memory, environment variables, random generator), the names of the extension modules it has
loaded, the library of modules it can load, and the host's stack its programs are converted
and evaluated on. It is also the environment its builtins are called in: what stands behind
that environment is the session itself.

A source is read by parsing it and then converting it on the host's stack, so a program
nested too deeply for the stack fails with the host's recursion error (`readProgram`); one that
is read may still be too deep for its evaluation, which fails with the same error.

Every operation of a session keeps what it did before it failed: output written, memory
changed, and builtins registered by a module that failed part way.
-/

namespace CallBasic

/-- How much a session logs on the diagnostic stream: nothing, the modules it loads, or also
every call of a builtin and every builtin replaced. -/
inductive Verbosity where
  | quiet
  | info
  | debug
  deriving DecidableEq, Repr

/-- Whether a verbosity shows the modules loaded. -/
def Verbosity.showsInfo : Verbosity → Bool
  | .quiet => false
  | _ => true

/-- Whether a verbosity shows every call and replacement. -/
def Verbosity.showsDebug : Verbosity → Bool
  | .debug => true
  | _ => false

/-- A session. `loaded` holds the modules executed so far by name: a module is executed once,
and loading it again takes it from there, without looking for its file again, and registers its
exports again. -/
structure Session where
  registry : Registry Signature
  lineEnding : CodeString
  world : World
  extensions : List CodeString
  library : ModuleLibrary
  verbosity : Verbosity
  loaded : List (CodeString × FoundModule)
  stack : Stack

/-- An operation of a session: it changes the session and gives a result or a failure. -/
abbrev SessionM := EStateM Failure Session

/-- A new session with a registry, a line ending, environment variables, a module library and
the host's stack; its random generator is seeded with zero. -/
def Session.create (registry : Registry Signature) (lineEnding : CodeString)
    (environ : List (CodeString × CodeString)) (library : ModuleLibrary) (stack : Stack) : Session :=
  ⟨registry, lineEnding, ⟨[], Memory.empty, environ, Twister.ofKey [0], false⟩, [], library, .quiet,
    [], stack⟩

/-- Reads a program from a source: parses it, then converts it on the host's stack. -/
def readProgram (stack : Stack) (source : CodeString) (file : Option CodeString) :
    Except Failure (List Expr) :=
  match parse source file with
  | .error e => .error (.parse file e)
  | .ok prog =>
    match stack.conversionError? (scan source).tokens with
    | some e => .error (.host e)
    | none => .ok prog

namespace Session

/-- Writes a line to the diagnostic stream. -/
def log (line : CodeString) : SessionM Unit :=
  modify fun s => { s with world := { s.world with writes := s.world.writes ++ [⟨.diag, line ++ "\n"⟩] } }

/-- The session as the environment of its builtins. -/
def env (s : Session) : Env := ⟨s.lineEnding, .session⟩

/-- Runs an evaluation in an environment, on the session's registry, world and stack. -/
def evalIn {α : Type} (env : Env) (m : EvalM α) : SessionM α := fun s =>
  match (m.run ⟨s.registry, env, s.verbosity.showsDebug, s.stack⟩).run s.world with
  | .ok a w => .ok a { s with world := w }
  | .error e w => .error e { s with world := w }

/-- Reads a source on the session's stack. -/
def parseIn (source : CodeString) (file : Option CodeString) : SessionM (List Expr) := do
  match readProgram (← get).stack source file with
  | .ok p => pure p
  | .error f => throw f

/-- What running a source gives: the value of its last expression, and the number of its
expressions. -/
structure Outcome where
  value : Option Value
  expressions : Nat

/-- Parses and runs a source. -/
def run (source : CodeString) (file : Option CodeString) : SessionM Outcome := do
  let prog ← parseIn source file
  let s ← get
  let v ← evalIn s.env (interpret prog)
  pure ⟨v, prog.length⟩

/-- The metadata of a name's implementation, if it has one. -/
def signature (s : Session) (name : CodeString) : Option SignatureMeta :=
  match s.registry.get name with
  | (arity, some f) => some (f.metadata arity)
  | (_, none) => none

/-- Whether a call of a name gives a value worth showing: every name does, except one whose
implementation declares that it returns nothing. -/
def returnsValue (s : Session) (name : CodeString) : Bool :=
  match s.signature name with
  | some m => m.returnsValue
  | none => true

/-- Parses and runs a source for showing its value: the value is dropped when the last
expression calls a builtin that returns nothing. -/
def runForDisplay (source : CodeString) (file : Option CodeString) : SessionM Outcome := do
  let prog ← parseIn source file
  let s ← get
  let v ← evalIn s.env (interpret prog)
  let s ← get
  let shown := match prog.getLast? with
    | some (.call name _ _) => if s.returnsValue name then v else none
    | _ => v
  pure ⟨shown, prog.length⟩

/-- Lifts a conversion into a session operation. -/
def liftHostExcept {α : Type} : Except HostError α → SessionM α
  | .ok a => pure a
  | .error e => throw (.host e)

/-- Calls a builtin by name with plain values, each first made a runtime value. -/
def call (name : CodeString) (args : List HostValue) : SessionM Value := do
  let vs ← args.mapM (fun a => liftHostExcept a.toValue)
  let s ← get
  evalIn s.env (callBuiltin s.stack.callDepth name vs none)

/-- Invokes a name's implementation directly in an environment, without the checks of a
call; gives nothing when the name has no implementation. -/
def invoke (name : CodeString) (args : List HostValue) (env : Env) : SessionM (Option Value) := do
  let s ← get
  match (s.registry.get name).2 with
  | none => pure none
  | some f => some <$> evalIn env (liftHost (f.invoke args))

/-- Registers an implementation, or none, under a name with an arity. -/
def register (name : CodeString) (arity : Int) (fn : Option Signature) : SessionM Unit := do
  let s ← get
  if s.verbosity.showsDebug then
    match s.registry.find? name with
    | some e =>
      log ("DEBUG basicfl.registry: Replaced builtin `" ++ name ++
        CodeString.ofString ("` (arity " ++ toString e.arity ++ " -> " ++ toString arity ++ ")."))
    | none => pure ()
  modify fun s => { s with registry := s.registry.register name arity fn }

/-- Adapts a host function under a name and registers it, giving its call shape. -/
def registerFunction (name : CodeString) (f : HostFunction) : SessionM CallShape := do
  let b ← liftHostExcept (Builtin.adapt f name)
  register name b.shape.arity (some (.adapted b))
  pure b.shape

/-- The value of an environment variable of the session's process. -/
def environ? (s : Session) (name : CodeString) : Option CodeString :=
  (s.world.environ.find? (fun p => p.1 == name)).map Prod.snd

/-- The value of an environment variable as a path: a lone surrogate in it stands for a
character that no file name holds. -/
def environPath? (s : Session) (name : String) : Option String :=
  (s.environ? name).map CodeString.lossy

/-- Registers the exports of a module in order, giving their builtin names. -/
def registerExports : List Export → SessionM (List CodeString)
  | [] => pure []
  | .other :: rest => registerExports rest
  | .function f :: rest => do
    if f.name.isEmpty then registerExports rest
    else
      match basicName? f.name with
      | none => throw (.module f.name (missingPrefixMessage f.name) none)
      | some n => do
        let _ ← registerFunction n f
        let ns ← registerExports rest
        pure (n :: ns)

/-- Inserts a name into a list in increasing order without repeats. -/
def insertName (n : CodeString) : List CodeString → List CodeString
  | [] => [n]
  | m :: ms => if n < m then n :: m :: ms else if n = m then m :: ms else m :: insertName n ms

/-- Finds and executes a module, or takes it from the modules executed before. A module whose
execution fails is not kept. No file is named with a lone surrogate, so a name holding one
finds no module. -/
def loadModule (ns : CodeString) : SessionM ModuleCode := do
  let s ← get
  match s.loaded.find? (·.1 == ns) with
  | some (_, m) => pure m.code
  | none =>
    match ns.toString?.bind (s.library.find? s.environPath?) with
    | none => throw (.module ns ("Module `" ++ ns ++ "` not found.") none)
    | some ⟨_, file, .raises e⟩ => throw (.module ns e.text (some ⟨file, e.cls⟩))
    | some m =>
      if let .defines _ notes := m.code then
        if s.verbosity.showsDebug then
          notes.forM fun n => log ("DEBUG " ++ m.name ++ ": " ++ n)
      if s.verbosity.showsInfo then
        log ("INFO basicfl.loader: Loaded extension module `" ++ ns ++
          CodeString.ofString ("` from " ++ m.file ++ "."))
      modify fun s => { s with loaded := (ns, m) :: s.loaded }
      pure m.code

/-- Loads an extension module by name and registers its exports, giving their builtin
names; the module is then among the session's extensions. -/
def loadExtension (ns : CodeString) : SessionM (List CodeString) := do
  match ← loadModule ns with
  | .defines (some exports) _ =>
    let names ← registerExports exports
    modify fun s => { s with extensions := insertName ns s.extensions }
    pure names
  | _ => throw (.module ns ("Module `" ++ ns ++ "` is missing function registry `__functions__`.") none)

/-- The arity of every registered name, in increasing order of names. -/
def listBuiltins (s : Session) : List (CodeString × Int) :=
  s.registry.arities

/-- The text written to program output so far. -/
def output (s : Session) : CodeString :=
  s.world.streamText .out

end Session

end CallBasic
