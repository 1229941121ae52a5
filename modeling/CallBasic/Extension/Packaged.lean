import CallBasic.Extension.Module
import CallBasic.Builtin.Standard
/-!
# Packaged extension modules

Two extension modules come with the library. `mem` gives `PEEK` and `POKE`, which read and
write doubles at integer addresses of the calling session's memory; a negative address is an
error, checked before the memory is reached. `env` gives `GETENV$`, the value of an
environment variable of the process, or the empty text when it is not set; a name is encoded
as names of the environment are (`CodeString.escapeError?`), and fails when it cannot be.
Each notes at debug level that it was loaded.
-/

namespace CallBasic

/-- `PEEK`: the double at an address of the session's memory. -/
def peekFunction : HostFunction :=
  ⟨"fn_peek", [param "env" .environment, param "address" .int], some .float, fun
    | [.int a] => do
      if a < 0 then raise .basicValueError ("PEEK of negative address " ++ toString a ++ ".")
      let m ← sessionMemory
      pure (.float (m.read a))
    | _ => raise .typeError "fn_peek() takes exactly two arguments"⟩

/-- `POKE`: writes a double at an address of the session's memory and returns it. -/
def pokeFunction : HostFunction :=
  ⟨"fn_poke", [param "env" .environment, param "address" .int, param "value" .float], some .float, fun
    | [.int a, .float v] => do
      if a < 0 then raise .basicValueError ("POKE of negative address " ++ toString a ++ ".")
      writeMemory a v
      pure (.float v)
    | _ => raise .typeError "fn_poke() takes exactly three arguments"⟩

/-- `GETENV$`: an environment variable of the process, or the empty text. -/
def getenvFunction : HostFunction :=
  ⟨"fn_getenv_s", [param "name" .str], some .str, fun
    | [.str n] => do
      if let some m := n.escapeError? then raise .unicodeEncodeError m
      pure (.str ((← lookupEnviron n).getD ""))
    | _ => raise .typeError "fn_getenv_s() takes exactly one argument"⟩

/-- The packaged modules, by name. -/
def packagedModules : List (String × ModuleCode) :=
  [("mem", .defines (some [.function peekFunction, .function pokeFunction]) ["LOADED libs/_mem.py"]),
   ("env", .defines (some [.function getenvFunction]) ["LOADED libs/_env.py"])]

/-- The files of the packaged modules under a directory: `libs/_NAME.py`. -/
def packagedFiles (dir : String) : List (String × ModuleCode) :=
  packagedModules.map fun (n, c) => (Path.join dir ("libs/_" ++ n ++ ".py"), c)

end CallBasic
