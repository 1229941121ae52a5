import CallBasic.Text.CodeString
/-!
# Host errors

The errors that host functions raise, by class. The classes form the usual hierarchy of the
host language, and one family of this library (the classes whose names start with `Basic`).
The adapter of builtins turns the errors of some families into fault values and lets all
others pass; `ErrorClass.isConverted` is that rule.
-/

namespace CallBasic

/-- A class of host errors. -/
inductive ErrorClass where
  | exception
  | arithmeticError | zeroDivisionError | overflowError | floatingPointError
  | lookupError | indexError | keyError
  | valueError | unicodeEncodeError | typeError | runtimeError | notImplementedError | recursionError
  | attributeError | nameError | osError | fileNotFoundError | permissionError
  | importError | moduleNotFoundError | syntaxError | assertionError
  | basicError | basicParseError | basicIncompleteParse | basicNameError | basicArityError
  | basicRuntimeError | basicValueError | basicTypeMissing | basicTypeError
  | basicImportError | basicModuleError
  deriving DecidableEq, Repr, Inhabited

namespace ErrorClass

/-- Every class, in the order of the declaration. -/
def all : List ErrorClass :=
  [exception, arithmeticError, zeroDivisionError, overflowError, floatingPointError,
    lookupError, indexError, keyError, valueError, unicodeEncodeError, typeError, runtimeError,
    notImplementedError, recursionError, attributeError, nameError, osError,
    fileNotFoundError, permissionError, importError, moduleNotFoundError, syntaxError,
    assertionError, basicError, basicParseError, basicIncompleteParse, basicNameError,
    basicArityError, basicRuntimeError, basicValueError, basicTypeMissing, basicTypeError,
    basicImportError, basicModuleError]

/-- The class name. -/
def name : ErrorClass → String
  | exception => "Exception"
  | arithmeticError => "ArithmeticError"
  | zeroDivisionError => "ZeroDivisionError"
  | overflowError => "OverflowError"
  | floatingPointError => "FloatingPointError"
  | lookupError => "LookupError"
  | indexError => "IndexError"
  | keyError => "KeyError"
  | valueError => "ValueError"
  | unicodeEncodeError => "UnicodeEncodeError"
  | typeError => "TypeError"
  | runtimeError => "RuntimeError"
  | notImplementedError => "NotImplementedError"
  | recursionError => "RecursionError"
  | attributeError => "AttributeError"
  | nameError => "NameError"
  | osError => "OSError"
  | fileNotFoundError => "FileNotFoundError"
  | permissionError => "PermissionError"
  | importError => "ImportError"
  | moduleNotFoundError => "ModuleNotFoundError"
  | syntaxError => "SyntaxError"
  | assertionError => "AssertionError"
  | basicError => "BasicError"
  | basicParseError => "BasicParseError"
  | basicIncompleteParse => "BasicIncompleteParse"
  | basicNameError => "BasicNameError"
  | basicArityError => "BasicArityError"
  | basicRuntimeError => "BasicRuntimeError"
  | basicValueError => "BasicValueError"
  | basicTypeMissing => "BasicTypeMissing"
  | basicTypeError => "BasicTypeError"
  | basicImportError => "BasicImportError"
  | basicModuleError => "BasicModuleError"

/-- The class of a name, if it names one. -/
def ofName? (s : String) : Option ErrorClass :=
  all.find? (fun c => c.name == s)

/-- The classes of the library family: the root class `BasicError` and all below it. -/
def isLibrary : ErrorClass → Bool
  | basicError | basicParseError | basicIncompleteParse | basicNameError | basicArityError
  | basicRuntimeError | basicValueError | basicTypeMissing | basicTypeError
  | basicImportError | basicModuleError => true
  | _ => false

/-- The error classes that a builtin's adapter turns into a fault value: the library family,
type and value errors, arithmetic errors, index errors and system errors, with all classes
below them. Every library class whose name also says "type", "name" or "runtime" counts by
the library family. -/
def isConverted (c : ErrorClass) : Bool :=
  c.isLibrary ||
  match c with
  | typeError | valueError | unicodeEncodeError | arithmeticError | zeroDivisionError | overflowError
  | floatingPointError | indexError | osError | fileNotFoundError | permissionError => true
  | _ => false

end ErrorClass

/-- An error raised on the host side: its class and the message it was raised with. -/
structure HostError where
  cls : ErrorClass
  message : CodeString
  deriving Inhabited

/-- The text of an error: its message, except that a key error shows its key quoted. -/
def HostError.text (e : HostError) : CodeString :=
  if e.cls = .keyError then e.message.quote else e.message

end CallBasic
