import CallBasic.Path
/-!
# File systems

A file system is a working directory and entries by absolute path. Its directories are the
root, the working directory with the directories above it, and every directory that holds an
entry; the file system has nothing else.

A path is followed as the system follows it: part by part, from the root for an absolute path
and from the working directory otherwise. Every part is looked up in the directory reached so
far, so going on from a file fails with "Not a directory" and from a missing name with "No
such file or directory". An empty or `.` part stays where it is, and `..` goes to the parent
directory, the root being its own parent. Since `..` is taken after the part before it has
been reached, `sub/..` is the working directory only when `sub` is a directory of it.

Opening a path follows it; what is reached is an entry, a directory ("Is a directory") or
nothing ("No such file or directory").
-/

namespace CallBasic

/-- A file system: the working directory, an absolute path, and the entries by absolute
path. -/
structure FileSystem (α : Type) where
  workDir : String
  entries : List (String × α)

/-- Why a path cannot be opened. -/
inductive Refusal where
  | notDirectory
  | noEntry
  | isDirectory
  deriving DecidableEq, Repr

/-- The system's message for a refusal. -/
def Refusal.message : Refusal → String
  | .notDirectory => "Not a directory"
  | .noEntry => "No such file or directory"
  | .isDirectory => "Is a directory"

namespace FileSystem

variable {α : Type}

/-- The absolute path of a place given by its names from the root, innermost first. -/
def pathOf (names : List String) : String :=
  "/" ++ "/".intercalate names.reverse

/-- The entry at an absolute path. -/
def entry? (fs : FileSystem α) (abs : String) : Option α :=
  (fs.entries.find? (fun e => Path.key e.1 == Path.key abs)).map Prod.snd

/-- Whether an absolute path lies strictly inside the directory at another. -/
def within (dir abs : String) : Bool :=
  let d := Path.key dir
  (Path.key abs).startsWith (if d == "/" then "/" else d ++ "/") && Path.key abs != d

/-- Whether an absolute path names a directory: the root, the working directory or one above
it, or a directory holding an entry. -/
def isDir (fs : FileSystem α) (abs : String) : Bool :=
  Path.key abs == "/" || Path.key abs == Path.key fs.workDir || within abs fs.workDir ||
    fs.entries.any (fun e => within abs e.1)

/-- The place a part leads to from a directory. -/
def step (here : List String) : String → List String
  | "" => here
  | "." => here
  | ".." => here.tail
  | name => name :: here

/-- Follows parts of a path from a place, each looked up in the directory reached so far. -/
def follow (fs : FileSystem α) (here : List String) : List String → Except Refusal (List String)
  | [] => .ok here
  | part :: rest =>
    if fs.isDir (pathOf here) then follow fs (step here part) rest
    else .error (if (fs.entry? (pathOf here)).isSome then .notDirectory else .noEntry)

/-- The absolute path a path leads to, found part by part. -/
def locate (fs : FileSystem α) (path : String) : Except Refusal String :=
  if path.isEmpty then .error .noEntry
  else if path.startsWith "/" then
    pathOf <$> fs.follow [] ((path.splitOn "/").dropWhile String.isEmpty)
  else pathOf <$> fs.follow (Path.parts fs.workDir).reverse (path.splitOn "/")

/-- Opens a path for reading: the entry it leads to, or why there is none. -/
def read (fs : FileSystem α) (path : String) : Except Refusal α := do
  let abs ← fs.locate path
  match fs.entry? abs with
  | some a => .ok a
  | none => .error (if fs.isDir abs then .isDirectory else .noEntry)

end FileSystem

end CallBasic
