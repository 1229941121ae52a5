import CallBasic.Extension.Module
import CallBasic.Path
import CallBasic.FileSystem
import CallBasic.Host.Stack
/-!
# What the command line reads

The command line reads its standard input, the files named by its arguments, the environment
variables and the extension modules it may load. A file argument is opened by the path as
given (`FileSystem.read`); a script file named among the tokens of the default command is
first put in normal form (`Path.normal`), which keeps `..` parts, and is taken only when it
is a regular file, so a device such as the null device, which reads as empty, is not. A text
read from a file or the standard input has its line breaks read as line feeds.
-/

namespace CallBasic.Cli

/-- What a file of the surroundings holds: the text of a regular file, or nothing, for a
device that reads as empty. -/
inductive FileContent where
  | regular (text : String)
  | device

/-- The text a file reads as. -/
def FileContent.text : FileContent → String
  | .regular t => t
  | .device => ""

/-- What the command line reads from its surroundings, and the host's stack it converts
sources on. -/
structure Surroundings where
  stdin : String
  files : FileSystem FileContent
  environ : List (CodeString × CodeString)
  library : ModuleLibrary
  stack : Stack

/-- Opens a file by its path as given: its text, or the system's message for why it cannot
be read. -/
def Surroundings.open (sur : Surroundings) (path : String) : Except String String :=
  match sur.files.read path with
  | .ok c => .ok c.text
  | .error r => .error r.message

/-- Whether a path in normal form names a regular file. -/
def Surroundings.isFile (sur : Surroundings) (path : String) : Bool :=
  match sur.files.read (Path.normal path) with
  | .ok (.regular _) => true
  | _ => false

/-- The text of the file a path in normal form names, or the empty text. -/
def Surroundings.readFile (sur : Surroundings) (path : String) : String :=
  match sur.files.read (Path.normal path) with
  | .ok c => c.text
  | .error _ => ""

/-- A text with its line breaks read as line feeds: a carriage return with or without a
line feed after it is one line feed. -/
def readNewlines : List Char → List Char
  | '\r' :: '\n' :: rest => '\n' :: readNewlines rest
  | '\r' :: rest => '\n' :: readNewlines rest
  | c :: rest => c :: readNewlines rest
  | [] => []

/-- A text as read from a file or the standard input. -/
def readText (s : String) : String :=
  String.ofList (readNewlines s.toList)

/-- The lines of the standard input as the interactive loop reads them. -/
def inputLines (s : String) : List String :=
  let ls := (readText s).splitOn "\n"
  if ls.getLast? == some "" then ls.dropLast else ls

end CallBasic.Cli
