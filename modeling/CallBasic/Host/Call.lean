import CallBasic.Host.Value
import CallBasic.Memory
import CallBasic.Random
/-!
# Calling host functions

A host function runs in an environment and acts on a world. The environment gives the text
that ends a printed line and what the function may reach behind it: nothing, the session
that calls it, or some foreign object. The world holds everything a call can change or
observe: the writes made so far, the session's memory, the environment variables of the
process and the random generator. Program output goes either to a stream that keeps texts as
they are, or to one that encodes them as UTF-8 strictly: there a write of a text holding a
lone surrogate fails with `UnicodeEncodeError`, and nothing of it is written.

A call either returns a value or raises a host error; what it wrote and changed before it
raised stays in the world (`EStateM` keeps the state of a failure).
-/

namespace CallBasic

/-- The two output streams: program output, and diagnostics. -/
inductive Stream where
  | out
  | diag
  deriving DecidableEq, Repr

/-- One write to an output stream. Writes are kept one by one, because an output filter may
treat each write on its own. -/
structure Write where
  stream : Stream
  text : CodeString

/-- What stands behind an environment: nothing, the calling session, or a foreign object: one
that is no session, known by the name of its class (which may be named `Runtime` too). -/
inductive Backing where
  | absent
  | session
  | foreign (cls : String)
  deriving DecidableEq, Repr

/-- The class name of what backs an environment. -/
def Backing.className : Backing → String
  | .absent => "NoneType"
  | .session => "Runtime"
  | .foreign c => c

/-- A class that what backs an environment is checked against: the class of sessions, or
another class, known by its name. -/
inductive HostClass where
  | session
  | named (name : String)
  deriving DecidableEq, Repr

/-- The name of a class. -/
def HostClass.name : HostClass → String
  | .session => "Runtime"
  | .named n => n

/-- Whether what backs an environment is an instance of a class. A session is an instance of
the class of sessions; a foreign object is an instance of the class it is known by, and never of
the class of sessions, whatever its own class is named. -/
def Backing.isInstance : Backing → HostClass → Bool
  | .session, .session => true
  | .foreign c, .named n => c == n
  | _, _ => false

/-- The environment a host function is called in. -/
structure Env where
  lineEnding : CodeString
  backing : Backing

/-- Everything a host function can change or observe. -/
structure World where
  writes : List Write
  memory : Memory
  environ : List (CodeString × CodeString)
  random : Twister
  /-- Whether program output is encoded as UTF-8 strictly. -/
  encodesOutput : Bool
  deriving Inhabited

/-- A computation on the host side: it reads its environment, changes the world, and returns
a result or raises a host error. -/
abbrev HostM := ReaderT Env (EStateM HostError World)

/-- Raises a host error. -/
def raise {α : Type} (cls : ErrorClass) (message : CodeString) : HostM α :=
  throw ⟨cls, message⟩

/-- Appends a write to a stream; a text that program output cannot encode is refused. -/
def emit (stream : Stream) (text : CodeString) : HostM Unit := do
  if stream == .out && (← get).encodesOutput then
    if let some m := text.encodeError? then raise .unicodeEncodeError m
  modify fun w => { w with writes := w.writes ++ [⟨stream, text⟩] }

/-- The text written to a stream, in order. -/
def World.streamText (w : World) (s : Stream) : CodeString :=
  CodeString.join ((w.writes.filter (fun x => x.stream == s)).map Write.text)

/-- What backs an environment, checked against an expected class: an absent backing is an
error, and so is a backing that is no instance of the expected class. -/
def Backing.expect (b : Backing) (expected : Option HostClass) : Except HostError Backing :=
  match b with
  | .absent => .error ⟨.basicTypeError, "Environment does not expose any interpreter state."⟩
  | _ =>
    match expected with
    | some e =>
      if b.isInstance e then .ok b
      else .error ⟨.basicTypeError,
        "Interpreter state is " ++ b.className ++ ", expected " ++ e.name ++ "."⟩
    | none => .ok b

/-- The memory of the calling session, reached through the environment; an environment not
backed by a session has none. -/
def sessionMemory : HostM Memory := do
  let env ← read
  match env.backing.expect (some .session) with
  | .error e => throw e
  | .ok _ => return (← get).memory

/-- Writes a double into the calling session's memory. -/
def writeMemory (a : Int) (v : Float) : HostM Unit := do
  let _ ← sessionMemory
  modify fun w => { w with memory := w.memory.write a v }

/-- An environment variable of the process, if it is set. -/
def lookupEnviron (name : CodeString) : HostM (Option CodeString) := do
  return ((← get).environ.find? (fun p => p.1 == name)).map Prod.snd

/-- Sets environment variables in order: each name to a text, or, for none, removes it. The
system stores names and values with the surrogates from `0xDC80` to `0xDCFF` standing for
bytes; a name or value with another lone surrogate cannot be stored, and setting it fails with
the encoding error, the name being encoded before the value. -/
def updateEnviron : List (CodeString × CodeString) → List (CodeString × Option CodeString) →
    Except HostError (List (CodeString × CodeString))
  | env, [] => .ok env
  | env, (k, v) :: rest =>
    match k.escapeError? with
    | some m => .error ⟨.unicodeEncodeError, m⟩
    | none =>
      let env := env.filter (·.1 != k)
      match v with
      | none => updateEnviron env rest
      | some t =>
        match t.escapeError? with
        | some m => .error ⟨.unicodeEncodeError, m⟩
        | none => updateEnviron (env ++ [(k, t)]) rest

/-- A random number below a positive bound. -/
def drawBelow (n : Nat) : HostM Nat := do
  let w ← get
  let (r, t) := w.random.below n
  set { w with random := t }
  return r

end CallBasic
