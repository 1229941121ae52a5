import Mathlib.Data.List.Forall2
import CallBasic.Proofs.Tokens
import CallBasic.Syntax.Parse
/-!
# The grammar of programs

A source is a program when it is cut into tokens (`Tokenizes`, see `CallBasic.Proofs.Tokens`)
that derive from

    program := sep? (expr (sep expr)* sep?)?
    expr    := name "(" [expr ("," expr)*] ")" | name | number | text

(`Derives`, `Separated`, `DerivesProgram`). A derivation also says what each expression stands
for, as a tree without positions (`Node`): a call of its name with its arguments in order, a
number with the double its characters read as, and a text with its body, where a backslash
and the character after it stand for that character, except that `\n` is a line feed and
`\t` a tab (`TextLiteral`). `Sentence source prog` says that the source is a sentence of the
grammar whose expressions are `prog`.

The tokens of a scan are of their classes (`Tokenizes.matches`), and for such tokens the
parser's literals are the grammar's (`derives_literal`).
-/

namespace CallBasic

open CallBasic.Text

/-! ## Programs without positions -/

/-- An expression as a tree, without the positions of its tokens. -/
inductive Node where
  | literal (v : Value)
  | call (name : CodeString) (args : List Node)

mutual
/-- An expression without its positions. -/
def Expr.node : Expr → Node
  | .lit v _ => .literal v
  | .call n args _ => .call n (Expr.nodes args)
/-- Expressions without their positions. -/
def Expr.nodes : List Expr → List Node
  | [] => []
  | e :: es => e.node :: Expr.nodes es
end

@[simp] theorem Expr.nodes_nil : Expr.nodes [] = [] := by simp [Expr.nodes]

@[simp] theorem Expr.nodes_cons (e : Expr) (es : List Expr) :
    Expr.nodes (e :: es) = e.node :: Expr.nodes es := by simp [Expr.nodes]

@[simp] theorem Expr.nodes_append (es es' : List Expr) :
    Expr.nodes (es ++ es') = Expr.nodes es ++ Expr.nodes es' := by
  induction es with
  | nil => simp
  | cons e es ih => simp [ih]

/-! ## Text literals -/

/-- The code point a backslash before `p` stands for. -/
def escaped (p : CodePoint) : CodePoint :=
  if p = .char 'n' then .char '\n' else if p = .char 't' then .char '\t' else p

/-- One item of a text literal's body and the code point it stands for: a code point other
than a quote or a backslash, or a backslash and any code point but a line feed. -/
inductive TextItem : List CodePoint → CodePoint → Prop
  | plain {p : CodePoint} (quote : p.classChar ≠ '"') (backslash : p.classChar ≠ '\\') :
      TextItem [p] p
  | escape {p : CodePoint} (lineFeed : p.classChar ≠ '\n') :
      TextItem [.char '\\', p] (escaped p)

/-- `w` is a text literal whose body stands for `body`. -/
def TextLiteral (w body : List CodePoint) : Prop :=
  ∃ items, List.Forall₂ TextItem items body ∧ w = .char '"' :: items.flatten ++ [.char '"']

theorem classChar_eq_char {p : CodePoint} {c : Char} (hc : c ≠ '�')
    (h : p.classChar = c) : p = .char c := by
  cases p with
  | char d => rw [show d = c from h]
  | surrogate o => exact absurd h.symm hc

theorem unescape_cons_of_ne {p : CodePoint} (hp : p ≠ .char '\\') (rest : List CodePoint) :
    unescape (p :: rest) = p :: unescape rest := by
  cases rest <;> simp [unescape, hp]

theorem unescape_plain {p : CodePoint} (h : p.classChar ≠ '\\') (rest : List CodePoint) :
    unescape (p :: rest) = p :: unescape rest :=
  unescape_cons_of_ne (fun e => h (by rw [e]; rfl)) rest

theorem unescape_items {items : List (List CodePoint)} {body : List CodePoint}
    (h : List.Forall₂ TextItem items body) : unescape items.flatten = body := by
  induction h with
  | nil => rfl
  | cons hi _ ih =>
    cases hi with
    | plain _ backslash =>
      rw [List.flatten_cons, List.singleton_append, unescape_plain backslash, ih]
    | escape _ =>
      rw [List.flatten_cons, List.cons_append, List.cons_append, List.nil_append, unescape, ih]
      rfl

/-- The code points of a text body, read item by item as its characters are. -/
theorem textItems_of_chars {items : List (List Char)} (h : ∀ i ∈ items, IsTextItem i) :
    ∀ ps : List CodePoint, ps.map CodePoint.classChar = items.flatten →
      ∃ pitems, List.Forall₂ TextItem pitems (unescape ps) ∧ ps = pitems.flatten := by
  induction items with
  | nil =>
    intro ps hps
    rw [List.flatten_nil, List.map_eq_nil_iff] at hps
    subst hps
    exact ⟨[], .nil, rfl⟩
  | cons i is ih =>
    intro ps hps
    have ih := ih (fun j hj => h j (List.mem_cons_of_mem i hj))
    rcases h i List.mem_cons_self with ⟨c, rfl, hq, hb⟩ | ⟨c, rfl, hn⟩
    · obtain ⟨p, ps', rfl, hp, hps'⟩ := List.map_eq_cons_iff.mp hps
      obtain ⟨pitems, hitems, rfl⟩ := ih ps' hps'
      refine ⟨[p] :: pitems, ?_, rfl⟩
      rw [unescape_plain (by rw [hp]; exact hb)]
      exact .cons (.plain (by rw [hp]; exact hq) (by rw [hp]; exact hb)) hitems
    · -- a backslash is a code point of its own, never a surrogate
      obtain ⟨p1, ps1, rfl, hp1, hps1⟩ := List.map_eq_cons_iff.mp hps
      obtain ⟨p2, ps', rfl, hp2, hps'⟩ := List.map_eq_cons_iff.mp hps1
      obtain ⟨pitems, hitems, rfl⟩ := ih ps' hps'
      rw [classChar_eq_char (by decide) hp1]
      refine ⟨[.char '\\', p2] :: pitems, ?_, rfl⟩
      exact .cons (.escape (by rw [hp2]; exact hn)) hitems

theorem textLiteral_of_isText {w : List CodePoint} (h : IsText (w.map CodePoint.classChar)) :
    TextLiteral w (unescape ((w.drop 1).dropLast)) := by
  obtain ⟨items, hitems, hw⟩ := h
  obtain ⟨q, rest, rfl, hq, hrest⟩ := List.map_eq_cons_iff.mp hw
  obtain ⟨mid, last, rfl, hmid, hlast⟩ := List.map_eq_append_iff.mp hrest
  obtain ⟨q', rfl⟩ : ∃ q', last = [q'] := by
    rcases List.map_eq_singleton_iff.mp hlast with ⟨q', rfl, -⟩
    exact ⟨q', rfl⟩
  have hq' : q'.classChar = '"' := by simpa using hlast
  obtain ⟨pitems, hp, rfl⟩ := textItems_of_chars hitems mid hmid
  refine ⟨pitems, ?_, ?_⟩
  · simpa using hp
  · rw [classChar_eq_char (by decide) hq, classChar_eq_char (by decide) hq']
    rfl

/-- A text literal's body is what the parser makes of the literal. -/
theorem TextLiteral.unescape_eq {w body : List CodePoint} (h : TextLiteral w body) :
    unescape ((w.drop 1).dropLast) = body := by
  obtain ⟨items, hitems, rfl⟩ := h
  rw [List.drop_one, List.cons_append, List.tail_cons, List.dropLast_concat]
  exact unescape_items hitems

/-! ## The grammar -/

/-- A token as the grammar sees it: its class and its code points. -/
abbrev Lexeme := TokenKind × List CodePoint

mutual
/-- `Derives ts e`: the lexemes `ts` are an expression that stands for `e`. -/
inductive Derives : List Lexeme → Node → Prop
  | bare {n : List CodePoint} : Derives [(.name, n)] (.call ⟨n⟩ [])
  | callEmpty {n l r : List CodePoint} :
      Derives [(.name, n), (.lparen, l), (.rparen, r)] (.call ⟨n⟩ [])
  | call {n l r : List CodePoint} {ts : List Lexeme} {args : List Node}
      (inner : Separated .comma ts args) :
      Derives ((.name, n) :: (.lparen, l) :: ts ++ [(.rparen, r)]) (.call ⟨n⟩ args)
  | number {w : List CodePoint} {x : Float}
      (value : Decimal.readFloat? (CodeString.lossy ⟨w⟩) = some x) :
      Derives [(.number, w)] (.literal (.num x))
  | text {w body : List CodePoint} (value : TextLiteral w body) :
      Derives [(.text, w)] (.literal (.str ⟨body⟩))
/-- `Separated d ts es`: the lexemes `ts` are expressions standing for `es`, one or more,
with a lexeme of class `d` between each two. -/
inductive Separated : TokenKind → List Lexeme → List Node → Prop
  | one {d : TokenKind} {ts : List Lexeme} {e : Node} (head : Derives ts e) :
      Separated d ts [e]
  | snoc {d : TokenKind} {ts ts' : List Lexeme} {s : List CodePoint} {es : List Node}
      {e : Node} (init : Separated d ts es) (last : Derives ts' e) :
      Separated d (ts ++ (d, s) :: ts') (es ++ [e])
end

/-- No lexeme, or one separator. -/
def OptSep (ts : List Lexeme) : Prop := ts = [] ∨ ∃ s, ts = [(.sep, s)]

/-- The lexemes are a program whose expressions stand for `prog`. -/
def DerivesProgram (ts : List Lexeme) (prog : List Node) : Prop :=
  (OptSep ts ∧ prog = []) ∨
    ∃ lead body trail, ts = lead ++ body ++ trail ∧ OptSep lead ∧ Separated .sep body prog ∧
      OptSep trail

/-- The source is a sentence of the grammar whose expressions stand for `prog`. -/
def Sentence (source : CodeString) (prog : List Node) : Prop :=
  ∃ ts, Tokenizes source.points ts ∧ DerivesProgram ts prog

/-! ## Well-formed tokens -/

/-- A token whose code points are of its class. -/
def Token.WellFormed (t : Token) : Prop :=
  t.kind.Matches (t.lexeme.points.map CodePoint.classChar)

/-- Every lexeme of a tokenization is of its class. -/
theorem Tokenizes.matches {ps : List CodePoint} {ts : List Lexeme} (h : Tokenizes ps ts) :
    ∀ x ∈ ts, x.1.Matches (x.2.map CodePoint.classChar) := by
  induction h with
  | nil => simp
  | skip _ _ ih => exact ih
  | token longest _ ih =>
    intro x hx
    rcases List.mem_cons.mp hx with rfl | hx
    · exact longest.1
    · exact ih x hx

theorem lossy_eq_ofList (s : CodeString) :
    s.lossy = String.ofList (s.points.map CodePoint.classChar) := by
  unfold CodeString.lossy
  congr 1

/-- A well-formed number or text token derives the literal the parser makes of it. -/
theorem derives_literal {t : Token} (pos : Pos) (hk : t.kind = .number ∨ t.kind = .text)
    (ht : t.WellFormed) : Derives [t.view] (literalOf t pos).node := by
  rcases hk with hk | hk
  · -- every number lexeme reads as a double
    have hn : IsNumber (t.lexeme.points.map CodePoint.classChar) := by
      simpa [Token.WellFormed, hk, TokenKind.Matches] using ht
    obtain ⟨x, hx⟩ := readFloat_of_number hn
    rw [← lossy_eq_ofList] at hx
    simp only [Token.view, hk, literalOf, hx, Option.getD_some, Expr.node]
    exact .number hx
  · have hn : IsText (t.lexeme.points.map CodePoint.classChar) := by
      simpa [Token.WellFormed, hk, TokenKind.Matches] using ht
    simp only [Token.view, hk, literalOf, Expr.node]
    exact .text (textLiteral_of_isText hn)

end CallBasic
