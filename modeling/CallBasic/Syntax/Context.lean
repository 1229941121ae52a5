import CallBasic.Text.Lines
import CallBasic.Syntax.Parse
/-!
# Showing where an error is

The context of an error shows the file name and line, then the lines of the source around
the error line, numbered: up to two before it and two after it. The error line is bright
and the others dim; on the error line the characters from the error's column on, as many as
the error's token has (at least one), are highlighted. A line outside the source shows the
file name alone.

The parser describes a character that starts no token by the character, its line and column,
and the source around it: up to 40 code points on each side, within its line, with a caret
under it (`ParseError.describe`).
-/

namespace CallBasic

/-- The decimal digits of `n`, right-aligned in `width` characters. -/
def padLeft (width : Nat) (s : String) : String :=
  String.ofList (List.replicate (width - s.length) ' ') ++ s

/-- A source line with the characters from a 1-based column on, `width` of them,
highlighted; a column outside the line highlights nothing. -/
def highlight (content : CodeString) (column : Option Int) (width : Nat) : CodeString :=
  match column with
  | some c =>
    if 0 < c && c ≤ content.length then
      let k := (c - 1).toNat
      content.take k ++ "\x1b[48;5;30m\x1b[1;97m" ++ (content.drop k).take width ++ "\x1b[0m" ++
        content.drop (k + width)
    else content
  | none => content

/-- The context of an error at a line and column, pointing at a token, in a source. -/
def errorContext (file : CodeString) (line column : Option Int) (token : Option CodeString)
    (source : CodeString) : CodeString :=
  let lines := Text.splitLines source
  match line with
  | some l =>
    if l < 1 || l > lines.length then "\x1b[97m  File \"" ++ file ++ "\"\x1b[0m\n"
    else
      let first := (max 0 (l - 3)).toNat
      let last := (min lines.length (l + 2).toNat)
      let width := max ((token.map CodeString.length).getD 0) 1
      let shown : List CodeString := (List.range (last - first)).map fun k =>
        let i := first + k
        let content := lines.getD i ""
        if (i + 1 : Int) = l then
          CodeString.ofString ("\x1b[97m" ++ padLeft 5 (toString (i + 1)) ++ " |\x1b[0m ") ++
            highlight content column width
        else
          CodeString.ofString ("\x1b[90m" ++ padLeft 5 (toString (i + 1)) ++ " |\x1b[0m ") ++ content
      let head := "\x1b[97m  File \"" ++ file ++ CodeString.ofString ("\", line " ++ toString l ++ "\x1b[0m")
      "\n" ++ CodeString.join ((head :: shown).intersperse (CodeString.ofString "\n")) ++ "\n"
  | none => "\x1b[97m  File \"" ++ file ++ "\"\x1b[0m\n"

/-- The offset of the start of a line, `n` lines after the first, in a list of code points
whose lines end at line feeds, counting from `acc`. -/
def lineStart : List CodePoint → Nat → Nat → Nat
  | _, 0, acc => acc
  | [], _, acc => acc
  | p :: ps, n + 1, acc =>
    if p = .char '\n' then lineStart ps n (acc + 1) else lineStart ps (n + 1) (acc + 1)

/-- The source around an offset within its line: up to `span` code points before it and up to
`span` from it on, neither side crossing a line feed. -/
def surroundings (source : CodeString) (pos span : Nat) : CodeString × CodeString :=
  let before := (source.points.take pos).drop (pos - span)
  let after := (source.points.drop pos).take span
  (⟨(before.reverse.takeWhile (· ≠ .char '\n')).reverse⟩, ⟨after.takeWhile (· ≠ .char '\n')⟩)

/-- How the parser words a parse error in a source: a character that starts no token with
its line, column and surroundings; any other error by its position. -/
def ParseError.describe (source : CodeString) : ParseError → CodeString
  | .unexpectedChar c l k =>
    let (before, after) := surroundings source (lineStart source.points (l - 1) 0 + (k - 1)) 40
    "No terminal matches '" ++ CodeString.mk [c] ++
      CodeString.ofString ("' in the current parser context, at line " ++ toString l ++ " col " ++
        toString k ++ "\n\n") ++ before ++ after ++
      CodeString.ofString ("\n" ++ String.ofList (List.replicate before.length ' ') ++ "^\n")
  | e => CodeString.ofString ("Unexpected input at line " ++ toString e.line ++ ", column " ++
      toString e.column ++ ".")

end CallBasic
