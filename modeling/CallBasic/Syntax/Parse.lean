import CallBasic.Syntax.Expr
import CallBasic.Syntax.Token
import CallBasic.Decimal.Read
/-!
# Parsing programs

A program is an optional separator, then optionally expressions separated by separators
with an optional separator at the end. An expression is a name followed by a parenthesised
list of argument expressions separated by commas, a bare name, a number or a text.
Separators never stand inside parentheses.

The parser reads the tokens from left to right and keeps, for the calls opened and not yet
closed, what it has read of them. It stops at the first token that cannot continue a
program: that token is the error, whatever follows. If every token continues a program, the
scan itself may have stopped at a character that starts no token: that character is the
error. If the source ends inside the parentheses of a call, the program is incomplete, at
the position of the last token.

A number literal is the double nearest to its digits. A text literal is its characters
between the quotes, where a backslash and the character after it stand for that character,
except that `\n` is a line feed and `\t` a tab.
-/

namespace CallBasic

/-- Why a source is not a program. -/
inductive ParseError where
  /-- A character that starts no token. -/
  | unexpectedChar (c : CodePoint) (line column : Nat)
  /-- A token that cannot continue the program. -/
  | unexpectedToken (lexeme : CodeString) (line column : Nat)
  /-- The source ends inside a call, after its last token. -/
  | incomplete (line column : Nat)
  deriving DecidableEq, Repr

namespace ParseError

/-- The line of a parse error. -/
def line : ParseError → Nat
  | unexpectedChar _ l _ | unexpectedToken _ l _ | incomplete l _ => l

/-- The column of a parse error. -/
def column : ParseError → Nat
  | unexpectedChar _ _ k | unexpectedToken _ _ k | incomplete _ k => k

/-- The characters a parse error points at: the character, the token, or nothing at the
end of the source. -/
def token : ParseError → CodeString
  | unexpectedChar c _ _ => ⟨[c]⟩
  | unexpectedToken t _ _ => t
  | incomplete _ _ => ""

end ParseError

/-- The code points of a text literal's body with its escapes replaced. -/
def unescape : List CodePoint → List CodePoint
  | .char '\\' :: c :: rest =>
    (if c = .char 'n' then .char '\n' else if c = .char 't' then .char '\t' else c) :: unescape rest
  | c :: rest => c :: unescape rest
  | [] => []

/-- How far the parser has read into a call whose parentheses are open. -/
inductive Stage where
  /-- Right after the opening parenthesis. -/
  | opened
  /-- After an argument. -/
  | argument
  /-- After a comma. -/
  | comma
  deriving DecidableEq

/-- A call whose parentheses are open: its name and position, its arguments so far (last
first), and how far it has been read. -/
structure Frame where
  name : CodeString
  pos : Pos
  args : List Expr
  stage : Stage

/-- Where the parser stands outside all parentheses. -/
inductive Outer where
  /-- At the start of the source. -/
  | start
  /-- After a separator: an expression or the end may follow. -/
  | ready
  /-- After an expression: a separator or the end may follow. -/
  | afterExpr
  deriving DecidableEq

/-- The state of the parser: the expressions finished at the outer level (last first),
where it stands there, the open calls (innermost first), and a name just read whose call
may or may not have parentheses. -/
structure ParseState where
  done : List Expr
  outer : Outer
  frames : List Frame
  pending : Option (CodeString × Pos)

/-- The state at the start of a source. -/
def ParseState.initial : ParseState := ⟨[], .start, [], none⟩

/-- Hands a finished expression to the innermost open call, or to the outer level. -/
def ParseState.deliver (st : ParseState) (e : Expr) : ParseState :=
  match st.frames with
  | f :: fs => { st with frames := { f with args := e :: f.args, stage := .argument } :: fs }
  | [] => { st with done := e :: st.done, outer := .afterExpr }

/-- Whether an expression may start here. -/
def ParseState.expectsExpr (st : ParseState) : Bool :=
  match st.frames with
  | f :: _ => f.stage != .argument
  | [] => st.outer != .afterExpr

/-- The literal of a number or text token. -/
def literalOf (t : Token) (pos : Pos) : Expr :=
  match t.kind with
  | .number => .lit (.num ((Decimal.readFloat? t.lexeme.lossy).getD 0)) pos
  | _ => .lit (.str ⟨unescape ((t.lexeme.points.drop 1).dropLast)⟩) pos

/-- Reads one token in a state without a pending name, or refuses it. -/
def ParseState.accept (st : ParseState) (file : Option CodeString) (t : Token) : Option ParseState :=
  let pos : Pos := ⟨file, t.line, t.column⟩
  match t.kind with
  | .name => if st.expectsExpr then some { st with pending := some (t.lexeme, pos) } else none
  | .number | .text => if st.expectsExpr then some (st.deliver (literalOf t pos)) else none
  | .sep =>
    match st.frames, st.outer with
    | [], .start | [], .afterExpr => some { st with outer := .ready }
    | _, _ => none
  | .comma =>
    match st.frames with
    | f :: fs => if f.stage = .argument then some { st with frames := { f with stage := .comma } :: fs }
      else none
    | [] => none
  | .rparen =>
    match st.frames with
    | f :: fs =>
      if f.stage = .comma then none
      else some ({ st with frames := fs }.deliver (.call f.name f.args.reverse f.pos))
    | [] => none
  | .lparen => none

/-- Finishes a pending name as a call without arguments. -/
def ParseState.settle (st : ParseState) : ParseState :=
  match st.pending with
  | some (n, p) => { st with pending := none }.deliver (.call n [] p)
  | none => st

/-- Reads one token, or refuses it. -/
def ParseState.step (st : ParseState) (file : Option CodeString) (t : Token) : Option ParseState :=
  match st.pending, t.kind with
  | some (n, p), .lparen => some { st with pending := none, frames := ⟨n, p, [], .opened⟩ :: st.frames }
  | _, _ => st.settle.accept file t

/-- Reads tokens in order; gives the state after all of them, or the first refused token. -/
def ParseState.run (file : Option CodeString) : ParseState → List Token → Except Token ParseState
  | st, [] => .ok st
  | st, t :: ts =>
    match st.step file t with
    | some st' => ParseState.run file st' ts
    | none => .error t

/-- Parses a source into a program. -/
def parse (source : CodeString) (file : Option CodeString) : Except ParseError (List Expr) :=
  let s := scan source
  match ParseState.run file .initial s.tokens with
  | .error t => .error (.unexpectedToken t.lexeme t.line t.column)
  | .ok st =>
    match s.stop with
    | some (c, l, k) => .error (.unexpectedChar c l k)
    | none =>
      let st := st.settle
      if st.frames.isEmpty then .ok st.done.reverse
      else
        match s.tokens.getLast? with
        | some t => .error (.incomplete t.line t.column)
        | none => .error (.incomplete 1 1)

end CallBasic
