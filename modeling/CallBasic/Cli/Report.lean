import CallBasic.Failure
import CallBasic.Syntax.Context
/-!
# Reporting failures

A failure is reported as a banner naming its kind and a line that says what failed, then,
for the library's own failures, the context of the source where it happened, and for any
other error the trace of the host error. Names and files in the line are highlighted.
-/

namespace CallBasic.Cli

/-- A builtin or module name as the report highlights it. -/
def tokenText (t : CodeString) : CodeString :=
  "`\x1b[1;97m" ++ t ++ "\x1b[0m`"

/-- A file name as the report highlights it. -/
def fileText (file : CodeString) : CodeString :=
  "`\x1b[97m" ++ file ++ "\x1b[0m`"

/-- The banner and the line of a failure, in a file with a source; a parse error is told in
the parser's words, its blanks squeezed. -/
def describe (f : Failure) (file source : CodeString) : String × CodeString :=
  match f with
  | .parse _ e => ("SYNTAX ERROR.", "Parsing " ++ fileText file ++ " failed: " ++ (e.describe source).squeeze)
  | .unknown n _ => ("UNKNOWN BUILTIN.", "Builtin " ++ tokenText n ++ " from " ++ fileText file ++
      " is not registered!")
  | .arity n e s _ => ("ARITY ERROR.", "Builtin " ++ tokenText n ++ " expects " ++ toString e ++
      " argument(s), got " ++ toString s ++ ".")
  | .fault n t _ => ("RUNTIME ERROR.", "Builtin " ++ tokenText n ++ " returned an error: " ++ t)
  | .module t m _ => ("IMPORT ERROR.", "Extension " ++ tokenText t ++ " could not be loaded: " ++ m)
  | .host e =>
    ("INTERNAL ERROR.", "Evaluating " ++ fileText file ++ " failed! (Exception: \x1b[33m" ++
      e.cls.name ++ "\x1b[0m)")

/-- The banner line of a failure. -/
def bannerLine (f : Failure) (file source : CodeString) : CodeString :=
  let (banner, detail) := describe f file source
  "\x1b[30;43m " ++ banner ++ " \x1b[0m " ++ detail

/-- The source context of a library failure: where a parse error is, or where the failing
call stands; nothing for a failure without position or without source. -/
def failureContext (f : Failure) (file source : CodeString) : CodeString :=
  match f with
  | .parse _ e => errorContext file (some e.line) (some e.column) (some e.token) source
  | _ =>
    match f.pos? with
    | some p =>
      if source.isEmpty then ""
      else errorContext file (some p.line) (some p.column) f.token? source
    | none => ""

/-- The trace of a host error: the header, the frame of the builtin call, and the error's
class and text. -/
def traceText (e : HostError) : List CodeString :=
  ["Traceback (most recent call last):\n", "  File \"<builtin>\", line 1, in <module>\n",
    e.cls.name ++ (if e.text.isEmpty then CodeString.ofString "" else ": " ++ e.text) ++ "\n"]

end CallBasic.Cli
