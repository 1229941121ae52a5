import CallBasic.Host.Error
/-!
# Annotations of host functions

The annotations a host function declares on its parameters and its result: classes of the
host (numbers, texts, truth values, containers), the classes of runtime values, the
environment classes, the "anything" and "nothing" annotations, a few composite forms, and
annotations written as text. A text annotation is evaluated when the function is inspected:
it names a class, or is a quoted text that stays a text, or names nothing, which is an
error.
-/

namespace CallBasic

/-- An annotation as declared. -/
inductive Annotation where
  | float | int | str | bool | list | dict | complex
  | object | numberObject | stringObject | errorObject
  | any | none
  | environment | streamEnvironment | session
  | optional (a : Annotation)
  | listOf (a : Annotation)
  | union (a b : Annotation)
  /-- A text annotation, evaluated when the function is inspected. -/
  | text (src : String)
  /-- A text that evaluation left a text. -/
  | literal (s : String)
  /-- A name that names no class. -/
  | unknown (name : String)
  deriving DecidableEq, Repr, Inhabited

namespace Annotation

/-- The annotations known by a single name, with their names. -/
def named : List (String × Annotation) :=
  [("float", float), ("int", int), ("str", str), ("bool", bool), ("list", list),
    ("dict", dict), ("complex", complex), ("Object", object), ("NumberObject", numberObject),
    ("StringObject", stringObject), ("ErrorObject", errorObject), ("Any", any),
    ("None", none), ("NoneType", none), ("Environment", environment),
    ("StreamEnvironment", streamEnvironment), ("Runtime", session)]

/-- Whether a text stands between a pair of equal quote characters. -/
def isQuoted (s : String) : Bool :=
  let cs := s.toList
  cs.length ≥ 2 && (cs.head? == some '\'' || cs.head? == some '"') && cs.head? == cs.getLast?

/-- A text without its first and last character. -/
def unquote (s : String) : String :=
  String.ofList (s.toList.drop 1).dropLast

/-- A text without spaces at its ends. -/
def trimSpaces (s : String) : String :=
  String.ofList ((s.toList.dropWhile (· == ' ')).reverse.dropWhile (· == ' ')).reverse

/-- Reads the written form of an annotation: a name, `Optional[A]`, `list[A]`, `A|B`, or a
quoted text. The depth bounds the nesting of composite forms. -/
def parseAt : Nat → String → Annotation
  | 0, s => unknown s
  | depth + 1, s =>
    let s := trimSpaces s
    if isQuoted s then text (unquote s)
    else
      match s.splitOn "|" with
      | [a, b] => union (parseAt depth a) (parseAt depth b)
      | _ =>
        if s.startsWith "Optional[" && s.endsWith "]" then
          optional (parseAt depth (String.ofList ((s.toList.drop 9).dropLast)))
        else if s.startsWith "list[" && s.endsWith "]" then
          listOf (parseAt depth (String.ofList ((s.toList.drop 5).dropLast)))
        else
          match named.find? (fun p => p.1 == s) with
          | some p => p.2
          | Option.none => unknown s

/-- Reads the written form of an annotation. -/
def parse (s : String) : Annotation :=
  parseAt 8 s

/-- Evaluates a text annotation once: a quoted text stays a text, a name gives its class,
and a name of nothing is a name error. Other annotations are already evaluated. -/
def resolve : Annotation → Except HostError Annotation
  | text src =>
    match parse src with
    | text s => .ok (literal s)
    | unknown n => .error ⟨.nameError, "name " ++ Text.quote n ++ " is not defined"⟩
    | a => .ok a
  | unknown n => .error ⟨.nameError, "name " ++ Text.quote n ++ " is not defined"⟩
  | a => .ok a

/-- The qualified name of a class annotation, as composite forms show their parts. -/
def qualName : Annotation → String
  | float => "float" | int => "int" | str => "str" | bool => "bool" | list => "list"
  | dict => "dict" | complex => "complex"
  | object => "basicfl.objects.Object" | numberObject => "basicfl.objects.NumberObject"
  | stringObject => "basicfl.objects.StringObject" | errorObject => "basicfl.objects.ErrorObject"
  | any => "typing.Any" | none => "None"
  | environment => "basicfl.environment.Environment"
  | streamEnvironment => "basicfl.environment.StreamEnvironment"
  | session => "basicfl.runtime.Runtime"
  | optional a => "typing.Optional[" ++ qualName a ++ "]"
  | listOf a => "list[" ++ qualName a ++ "]"
  | union a b => qualName a ++ " | " ++ qualName b
  | text s => Text.quote s
  | literal s => Text.quote s
  | unknown n => n

/-- Whether an annotation is a class (as opposed to `None`, `Any`, a composite form or a
text). -/
def isClass : Annotation → Bool
  | float | int | str | bool | list | dict | complex | object | numberObject | stringObject
  | errorObject | environment | streamEnvironment | session => true
  | _ => false

/-- How an annotation shows itself in messages: a class as `<class 'name'>`, any other form
by its qualified name. -/
def shown (a : Annotation) : String :=
  if a.isClass then "<class '" ++ a.qualName ++ "'>" else a.qualName

/-- Whether an annotation is an environment class: a class that has everything an
environment offers. -/
def isEnvironment : Annotation → Bool
  | environment | streamEnvironment | session => true
  | _ => false

end Annotation

end CallBasic
