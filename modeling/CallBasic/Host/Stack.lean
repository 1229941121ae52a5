import CallBasic.Syntax.Token
import CallBasic.Host.Error
/-!
# The host's stack

The host turns a parsed program into expressions by recursion on its calls, and evaluates them
by recursion again; its stack holds at most `limit` levels at once (a thousand). A level past the limit raises a recursion
error, whose message says what was to take the level: a frame of host code, a call of a host
object, or a check of a class's instances.

The expressions of a program are converted in the order of their tokens. Converting an
expression at depth `d` takes its own frame at `d` and then, beyond it:

* a call written with parentheses: a call at `d + 1`, where its arguments are unpacked, and a
  frame at `d + 2`, that of its first argument (converted at `d + 2`, like all its arguments)
  or that of the call's constructor when it has none;
* a bare name: frames at `d + 1` and `d + 2`;
* a number: a call at `d + 1`, a frame at `d + 2` and a call at `d + 3`;
* a text: frames at `d + 1`, `d + 2` and `d + 3`, a check of instances at `d + 4` and a call
  at `d + 5`.

Every other level the conversion takes is no deeper than one of these and is taken after it,
so the first level past the limit is found among these (`Stack.overflow?`). Outermost
expressions are converted at the depth `Stack.base`, which counts the levels the host was
using when the conversion started.
-/

namespace CallBasic

/-- What takes a level of the host's stack. -/
inductive StackUse where
  /-- A frame of host code. -/
  | frame
  /-- A call of a host object. -/
  | call
  /-- A check of a class's instances. -/
  | instanceCheck
  deriving DecidableEq, Repr

/-- The message of the recursion error raised when a level past the limit is taken. -/
def StackUse.message : StackUse → String
  | .frame => "maximum recursion depth exceeded"
  | .call => "maximum recursion depth exceeded while calling a Python object"
  | .instanceCheck => "maximum recursion depth exceeded in __instancecheck__"

/-- The host's stack when a program is converted: the depth of the outermost expressions and
the greatest depth allowed. -/
structure Stack where
  base : Nat
  limit : Nat := 1000
  deriving DecidableEq, Repr

namespace Stack

/-- The levels that converting an expression takes, from its own frame on, one per depth. The
token starts the expression; `opens` says whether a parenthesis follows it. -/
def uses (kind : TokenKind) (opens : Bool) : List StackUse :=
  match kind with
  | .name => if opens then [.frame, .call, .frame] else [.frame, .frame, .frame]
  | .number => [.frame, .call, .frame, .call]
  | .text => [.frame, .frame, .frame, .frame, .instanceCheck, .call]
  | _ => []

/-- The first level past the limit that converting an expression at depth `d` takes, if any. -/
def exceeds (s : Stack) (d : Nat) (us : List StackUse) : Option StackUse :=
  us[s.limit + 1 - d]?

/-- The first level past the limit, going through the tokens of a program from a place
where `level` parentheses are open. -/
def overflowFrom (s : Stack) : Nat → List Token → Option StackUse
  | _, [] => none
  | level, t :: rest =>
    let opens := match rest with
      | u :: _ => u.kind == .lparen
      | [] => false
    let here := s.exceeds (s.base + 2 * level) (uses t.kind opens)
    match here with
    | some u => some u
    | none =>
      match t.kind with
      | .lparen => overflowFrom s (level + 1) rest
      | .rparen => overflowFrom s (level - 1) rest
      | _ => overflowFrom s level rest

/-- The first level past the limit that converting a program with these tokens takes. -/
def overflow? (s : Stack) (tokens : List Token) : Option StackUse :=
  s.overflowFrom 0 tokens

/-- The recursion error of converting a program with these tokens, if it has one. -/
def conversionError? (s : Stack) (tokens : List Token) : Option HostError :=
  (s.overflow? tokens).map fun u => ⟨.recursionError, u.message⟩

/-! ## Evaluation

A program is evaluated by recursion on its calls as well. Evaluating an expression at depth `d`
takes its own frame at `d`; a call also takes a frame at `d + 1`, where its arguments are
evaluated at `d + 2`, and the call itself is then made from a frame at `d + 1`. Making a call
from a frame at depth `c` takes levels from `c + 1` on: those of looking its name up (a frame,
and a call of the registry's lock one deeper), then those of its end (`unknownUses`,
`arityUses`, `invokeUses`).

The levels counted for an invoked builtin are those of its adapter when it calls a function and
makes a number of the result; what the builtin's own function and the adapter's other paths take
beyond them is not counted, and all are taken before the builtin acts. A run calls the reading of
its program and the evaluation from one frame, so its outermost expressions are evaluated a level
above the depth they are converted at (`runDepth`).
-/

/-- The levels beyond its frame that a call of a name without implementation takes: the lookup
and the making of the error. -/
def unknownUses : List StackUse := [.frame, .call, .call]

/-- The levels beyond its frame that a call with a refused count of arguments takes: the lookup,
then the check of the count, which makes the error. -/
def arityUses : List StackUse := [.frame, .call, .frame, .frame, .call]

/-- The levels beyond its frame that a call of a builtin takes: the lookup, then the adapter's,
up to making a number of the result. -/
def invokeUses : List StackUse := [.frame, .call, .call, .frame, .call]

/-- The depth at which the outermost expressions of a program are evaluated. -/
def runDepth (s : Stack) : Nat := s.base - 1

/-- The depth of the frame that makes a call through the session, one level below the session's
own frame, which stands where a run's frame does. -/
def callDepth (s : Stack) : Nat := s.base - 2

end Stack

end CallBasic
