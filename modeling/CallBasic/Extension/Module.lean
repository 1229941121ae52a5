import CallBasic.Host.Function
import CallBasic.Path
import CallBasic.FileSystem
/-!
# Extension modules

An extension module is host code that, when executed, either fails or defines a list of the
host functions it exports as builtins. Entries of that list without a name (values that are
not functions, or functions with an empty name) are skipped when registering. A module that
defines no such list, or defines it as another kind of container, exports nothing and cannot
be registered.

Modules are found by name among files: first `libs/_NAME.py` in the directory of the
library's own package, in its parent and in its grandparent, then `NAME.py` in each directory
of the search path, a list of directories separated by colons in which empty entries are
skipped and each entry is expanded (`Path.expand`); a relative directory is taken from the
working directory. The first file that exists is the module. A module is named by where it
was found: `basicfl.libs._NAME` for a packaged one and `basicfl.ext.NAME` for one on the
search path; what it logs while executing is logged under that name.
-/

namespace CallBasic

/-- An entry of a module's export list. -/
inductive Export where
  | function (f : HostFunction)
  /-- A value that is not a function. -/
  | other

/-- What executing a module gives. -/
inductive ModuleCode where
  /-- The module defines an export list, or (with `none`) no list, after logging the notes at
  debug level. -/
  | defines (exports : Option (List Export)) (notes : List String)
  /-- Executing the module raises an error. -/
  | raises (e : HostError)

/-- The files a session can load modules from: the directory of the library's own package,
and the module files of the file system. -/
structure ModuleLibrary where
  packageDir : String
  files : FileSystem ModuleCode

/-- A module that was found: its name, the file it is read from and what executing it
gives. -/
structure FoundModule where
  name : String
  file : String
  code : ModuleCode

/-- The directories of a search path. -/
def searchDirs (path : String) : List String :=
  (path.splitOn ":").filter (fun d => !d.isEmpty)

/-- The file of a module in a directory. -/
def moduleFile (dir ns : String) : String :=
  Path.join dir (ns ++ ".py")

/-- The files where a module is looked for, in order, each with the name the module gets
when found there. -/
def ModuleLibrary.candidates (lib : ModuleLibrary) (env : String → Option String) (ns : String) :
    List (String × String) :=
  let packaged := lib.packageDir :: (Path.parents lib.packageDir).take 2
  packaged.map (fun d => (Path.join d ("libs/_" ++ ns ++ ".py"), "basicfl.libs._" ++ ns)) ++
    (searchDirs ((env "BASIC_PATH").getD "")).map fun d =>
      (moduleFile (Path.expand env d) ns, "basicfl.ext." ++ ns)

/-- Finds a module by name: the first candidate file that exists. -/
def ModuleLibrary.find? (lib : ModuleLibrary) (env : String → Option String) (ns : String) :
    Option FoundModule :=
  (lib.candidates env ns).findSome? fun (f, name) => (lib.files.read f).toOption.map fun c => ⟨name, f, c⟩

end CallBasic
