import CallBasic.Text.Blank
import CallBasic.Text.Quoted
/-!
# Texts of code points

The texts of programs are sequences of code points, and a code point may be a surrogate code
(`0xD800` to `0xDFFF`) standing alone, as `CHR$` of such a number makes one. A text with a
lone surrogate is measured, cut, compared and shown quoted like any other, but it has no
encoding as UTF-8: a stream that encodes its texts strictly refuses it. `CodeString` is this
kind of text; a `String` is the case without lone surrogates, and `CodeString.toString?`
gives it back exactly when the text has none (`toString?_ofString`).

Strict encoding fails at the first lone surrogate and names the run of consecutive surrogates
that starts there, by positions that count code points from zero: one surrogate as
"character '\udXXX' in position N", a longer run as "characters in position M-N" with both
ends included (`encodeError?`). Names of the environment are encoded with the surrogates from
`0xDC80` to `0xDCFF` standing for single bytes, and fail only at a run of surrogates that
holds another one, named from the start of the run (`escapeError?`).
-/

namespace CallBasic

/-- A code point of a text: a character, or a lone surrogate code, kept as its offset from
`0xD800`. -/
inductive CodePoint where
  | char (c : Char)
  | surrogate (offset : Fin 0x800)
  deriving DecidableEq, Repr, Inhabited

namespace CodePoint

/-- The number of a code point. -/
def toNat : CodePoint → Nat
  | .char c => c.toNat
  | .surrogate o => 0xD800 + o.val

/-- The code point of a number: a surrogate code from `0xD800` to `0xDFFF`, the character of
that number otherwise (the null character when there is none). -/
def ofNat (n : Nat) : CodePoint :=
  if h : 0xD800 ≤ n ∧ n < 0xE000 then .surrogate ⟨n - 0xD800, by omega⟩ else .char (Char.ofNat n)

/-- The character of a code point, if it is one. -/
def char? : CodePoint → Option Char
  | .char c => some c
  | .surrogate _ => none

/-- Whether a code point is blank: a blank character (`Text.isBlank`). -/
def isBlank : CodePoint → Bool
  | .char c => Text.isBlank c
  | .surrogate _ => false

/-- How a code point is written between the quote characters `q`: a character as
`Text.quoteChar` writes it, a lone surrogate as an escape of four hexadecimal digits (it is
not printable). -/
def quoted (q : Char) : CodePoint → List Char
  | .char c => Text.quoteChar q c
  | .surrogate o => '\\' :: 'u' :: Text.hexDigits 4 (0xD800 + o.val)

/-- Code points are ordered by their numbers. -/
instance : LT CodePoint := ⟨fun a b => a.toNat < b.toNat⟩

instance (a b : CodePoint) : Decidable (a < b) :=
  inferInstanceAs (Decidable (a.toNat < b.toNat))

theorem toNat_ofNat_surrogate (n : Nat) (h : 0xD800 ≤ n ∧ n < 0xE000) : (ofNat n).toNat = n := by
  simp only [ofNat, dif_pos h, toNat]
  omega

end CodePoint

/-- A text: a sequence of code points. -/
structure CodeString where
  points : List CodePoint
  deriving DecidableEq, Repr, Inhabited

namespace CodeString

/-- The text of the characters of a string. -/
def ofString (s : String) : CodeString :=
  ⟨s.toList.map .char⟩

instance : Coe String CodeString := ⟨ofString⟩

instance : Append CodeString := ⟨fun a b => ⟨a.points ++ b.points⟩⟩

/-- Whether a list of code points comes before another: at the first place where they
differ it has the smaller code point, or it is a proper prefix of the other. -/
def pointsLt : List CodePoint → List CodePoint → Bool
  | [], [] => false
  | [], _ :: _ => true
  | _ :: _, [] => false
  | a :: as, b :: bs => decide (a < b) || (decide (a = b) && pointsLt as bs)

/-- Texts are ordered code point by code point, a proper prefix first. -/
instance : LT CodeString := ⟨fun a b => pointsLt a.points b.points = true⟩

instance (a b : CodeString) : Decidable (a < b) :=
  inferInstanceAs (Decidable (pointsLt a.points b.points = true))

/-- Whether a text has no code points. -/
def isEmpty (s : CodeString) : Bool :=
  s.points.isEmpty

/-- Whether a text starts with the characters of a string. -/
def startsWith (s : CodeString) (p : String) : Bool :=
  (p.toList.map CodePoint.char).isPrefixOf s.points

/-- The number of code points. -/
def length (s : CodeString) : Nat :=
  s.points.length

/-- The first `n` code points. -/
def take (s : CodeString) (n : Nat) : CodeString :=
  ⟨s.points.take n⟩

/-- The code points after the first `n`. -/
def drop (s : CodeString) (n : Nat) : CodeString :=
  ⟨s.points.drop n⟩

/-- Texts joined in order. -/
def join (ts : List CodeString) : CodeString :=
  ⟨ts.flatMap points⟩

/-- The characters of a list of code points, if all of them are characters. -/
def charsOf : List CodePoint → Option (List Char)
  | [] => some []
  | p :: ps => do
    let c ← p.char?
    let cs ← charsOf ps
    pure (c :: cs)

/-- The string of a text, if the text holds no lone surrogate. -/
def toString? (s : CodeString) : Option String :=
  (charsOf s.points).map String.ofList

/-- The characters of a text, each lone surrogate replaced by the replacement character
U+FFFD; for a text without lone surrogates, its string. -/
def lossy (s : CodeString) : String :=
  String.ofList (s.points.map fun | .char c => c | .surrogate _ => '\uFFFD')

/-- The text without the blank code points at both of its ends. -/
def trim (s : CodeString) : CodeString :=
  ⟨((s.points.dropWhile CodePoint.isBlank).reverse.dropWhile CodePoint.isBlank).reverse⟩

/-- The quoted form of a text, as `Text.quote` writes a string, lone surrogates written as
escapes. -/
def quote (s : CodeString) : String :=
  let q := if s.points.contains (.char '\'') && !s.points.contains (.char '"') then '"' else '\''
  String.ofList (q :: s.points.flatMap (CodePoint.quoted q) ++ [q])

/-- The lone surrogates at the front of a list of code points. -/
def leadingSurrogates : List CodePoint → List (Fin 0x800)
  | .surrogate o :: ps => o :: leadingSurrogates ps
  | _ => []

/-- Where encoding a list of code points as UTF-8 fails, counting positions from the given
one, when the surrogates that `escapes` accepts stand for bytes. Surrogates are encoded a
run of consecutive ones at a time, so the failure is at the start of the first run that holds
a surrogate not accepted, and names the whole run. Every part of a run that is accepted is
accepted from any place in it, which lets the walk go one code point at a time. -/
def encodingFailure? (escapes : Fin 0x800 → Bool) :
    Nat → List CodePoint → Option (Nat × List (Fin 0x800))
  | _, [] => none
  | pos, .char _ :: ps => encodingFailure? escapes (pos + 1) ps
  | pos, .surrogate o :: ps =>
    if (o :: leadingSurrogates ps).all escapes then encodingFailure? escapes (pos + 1) ps
    else some (pos, o :: leadingSurrogates ps)

/-- The message of an encoding failure at a position, naming the surrogates it fails on. -/
def failureMessage (pos : Nat) (run : List (Fin 0x800)) : String :=
  let place := match run with
    | [o] => "character '\\u" ++ String.ofList (Text.hexDigits 4 (0xD800 + o.val)) ++
        "' in position " ++ toString pos
    | _ => "characters in position " ++ toString pos ++ "-" ++ toString (pos + run.length - 1)
  "'utf-8' codec can't encode " ++ place ++ ": surrogates not allowed"

/-- Why a text cannot be encoded as UTF-8 strictly, if it cannot: the failure at its first
run of lone surrogates. -/
def encodeError? (s : CodeString) : Option String :=
  (encodingFailure? (fun _ => false) 0 s.points).map fun (pos, run) => failureMessage pos run

/-- Why a text cannot be encoded as UTF-8 when the surrogates from `0xDC80` to `0xDCFF` stand
for the bytes `0x80` to `0xFF`, as names of the environment are encoded, if it cannot. -/
def escapeError? (s : CodeString) : Option String :=
  (encodingFailure? (fun o => 0x480 ≤ o.val && o.val < 0x500) 0 s.points).map fun (pos, run) =>
    failureMessage pos run

/-- The string a text encodes to as UTF-8 strictly, or the failure. -/
def encode (s : CodeString) : Except String String :=
  match s.toString? with
  | some str => .ok str
  | none => .error (s.encodeError?.getD "")

/-- The words of a list of code points separated by blanks, with `cur` the reversed code
points of the word being read. -/
def wordsFrom (cur : List CodePoint) : List CodePoint → List CodeString
  | [] => if cur.isEmpty then [] else [⟨cur.reverse⟩]
  | p :: rest =>
    if p.isBlank then
      if cur.isEmpty then wordsFrom [] rest else ⟨cur.reverse⟩ :: wordsFrom [] rest
    else wordsFrom (p :: cur) rest

/-- The words of a text: its longest runs of code points that are not blank. -/
def words (s : CodeString) : List CodeString :=
  wordsFrom [] s.points

/-- A text with its blanks squeezed: its words separated by single spaces. -/
def squeeze (s : CodeString) : CodeString :=
  join (s.words.intersperse (ofString " "))

theorem charsOf_map_char (cs : List Char) : charsOf (cs.map .char) = some cs := by
  induction cs with
  | nil => rfl
  | cons c cs ih => simp [charsOf, CodePoint.char?, ih]

/-- A string is given back by its text. -/
theorem toString?_ofString (s : String) : (ofString s).toString? = some s := by
  simp [toString?, ofString, charsOf_map_char]

/-- A text of characters is encoded without failure. -/
theorem encodingFailure?_map_char (escapes : Fin 0x800 → Bool) (start : Nat) (cs : List Char) :
    encodingFailure? escapes start (cs.map .char) = none := by
  induction cs generalizing start with
  | nil => simp [encodingFailure?]
  | cons c cs ih => simp [encodingFailure?, ih]

end CodeString

end CallBasic
