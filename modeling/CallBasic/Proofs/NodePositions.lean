import CallBasic.Proofs.ParseErrors
/-!
# Where every node and every parse error stands

A parsed program's nodes, read in preorder (a node, then the nodes of its arguments in order),
are headed one for one by the name, number and text tokens of the source in the order they are
read (`parse_heads`): the node of a call by its name token, a literal by its own token, each at
its token's position in the source's file. The tokens stand where their positions say
(`Lexes.split_located`): the code points before a token read as exactly the tokens before it,
and its line and column are counted from them (`positionAfter`: one more than the line feeds
among them, and one more than the code points after the last line feed). A parse error is
placed the same way, at the code point where no token starts, at the refused token, or at the
last token when the source ends inside a call (`parse_positions`).

The parser keeps the invariant that the heads of the nodes it holds, finished, open or pending,
are those of the tokens it has read (`ParseState.heads_step`, then `ParseState.heads_run`).
-/

namespace CallBasic

/-! ## The nodes of a program in reading order -/

mutual
/-- The nodes of an expression in the order their tokens are read: the expression, then the
nodes of its arguments in order. -/
def Expr.preorder : Expr → List Expr
  | .lit v p => [.lit v p]
  | .call n args p => .call n args p :: Expr.preorderAll args
/-- The nodes of expressions in the order their tokens are read. -/
def Expr.preorderAll : List Expr → List Expr
  | [] => []
  | e :: es => e.preorder ++ Expr.preorderAll es
end

@[simp] theorem Expr.preorderAll_nil : Expr.preorderAll [] = [] := by simp [Expr.preorderAll]

@[simp] theorem Expr.preorderAll_cons (e : Expr) (es : List Expr) :
    Expr.preorderAll (e :: es) = e.preorder ++ Expr.preorderAll es := by simp [Expr.preorderAll]

@[simp] theorem Expr.preorderAll_append (es es' : List Expr) :
    Expr.preorderAll (es ++ es') = Expr.preorderAll es ++ Expr.preorderAll es' := by
  induction es with
  | nil => simp
  | cons e es ih => simp [ih]

/-- A node without its arguments: what its own token stands for, at its position. -/
def Expr.head : Expr → Expr
  | .lit v p => .lit v p
  | .call n _ p => .call n [] p

@[simp] theorem Expr.head_pos (e : Expr) : e.head.pos = e.pos := by
  cases e <;> rfl

theorem Expr.heads_lit (v : Value) (p : Pos) :
    (Expr.lit v p).preorder.map Expr.head = [.lit v p] := by
  simp [Expr.preorder, Expr.head]

theorem Expr.heads_call (n : CodeString) (args : List Expr) (p : Pos) :
    (Expr.call n args p).preorder.map Expr.head =
      .call n [] p :: (Expr.preorderAll args).map Expr.head := by
  simp [Expr.preorder, Expr.head]

/-- The node a token of a source in `file` heads: a name heads a call of its name, a number or
a text its literal, each at the token's position; punctuation and separators head none. -/
def Token.head (file : Option CodeString) (t : Token) : Option Expr :=
  match t.kind with
  | .name => some (.call t.lexeme [] ⟨file, t.line, t.column⟩)
  | .number | .text => some (literalOf t ⟨file, t.line, t.column⟩)
  | _ => none

theorem Token.head_pos {file : Option CodeString} {t : Token} {e : Expr}
    (h : Token.head file t = some e) : e.pos = ⟨file, t.line, t.column⟩ := by
  unfold Token.head at h
  unfold literalOf at h
  split at h <;> (try split at h) <;> cases h <;> rfl

theorem literalOf_heads (t : Token) (pos : Pos) :
    (literalOf t pos).preorder.map Expr.head = [literalOf t pos] := by
  unfold literalOf
  split <;> exact Expr.heads_lit _ _

/-! ## The heads the parser holds -/

/-- The heads of an open call's nodes read so far: its own, then its arguments' in order. -/
def Frame.heads (f : Frame) : List Expr :=
  .call f.name [] f.pos :: (Expr.preorderAll f.args.reverse).map Expr.head

/-- The heads of the nodes the parser holds, in reading order: the finished expressions, the
open calls from the outermost in, and the pending name. -/
def ParseState.heads (st : ParseState) : List Expr :=
  (Expr.preorderAll st.done.reverse).map Expr.head ++ st.frames.reverse.flatMap Frame.heads ++
    (st.pending.map fun np => Expr.call np.1 [] np.2).toList

namespace ParseState

variable {file : Option CodeString}

theorem heads_deliver {st : ParseState} (hp : st.pending = none) (e : Expr) :
    (st.deliver e).heads = st.heads ++ e.preorder.map Expr.head := by
  rcases hfr : st.frames with _ | ⟨f, fs⟩
  · rw [deliver_of_no_frames hfr]
    simp [heads, hfr, hp]
  · -- the expression's heads close the innermost call's
    rw [deliver_of_frames hfr]
    simp [heads, hfr, hp, Frame.heads]

theorem heads_settle (st : ParseState) : st.settle.heads = st.heads := by
  rcases hp : st.pending with _ | ⟨n, p⟩
  · rw [settle_of_none hp]
  · simp only [settle, hp]
    rw [heads_deliver rfl, Expr.heads_call]
    simp [heads, hp]

theorem heads_accept {st st' : ParseState} {t : Token} (hp : st.pending = none)
    (hacc : st.accept file t = some st') : st'.heads = st.heads ++ (Token.head file t).toList := by
  unfold ParseState.accept at hacc
  rcases hk : t.kind with _ | _ | _ | _ | _ | _ | _ <;>
    simp only [hk, Token.head, Option.toList] at hacc ⊢
  case name =>
    split at hacc
    · cases hacc
      simp [heads, hp]
    · cases hacc
  case number | text =>
    split at hacc
    · cases hacc
      rw [heads_deliver hp, literalOf_heads]
    · cases hacc
  case sep =>
    rcases hfr : st.frames with _ | ⟨f, fs⟩ <;> rcases ho : st.outer with _ | _ | _ <;>
      simp [hfr, ho] at hacc <;> subst hacc <;> simp [heads, hfr]
  case comma =>
    rcases hfr : st.frames with _ | ⟨f, fs⟩ <;> simp only [hfr, reduceCtorEq] at hacc
    split at hacc
    · cases hacc
      simp [heads, hfr, Frame.heads]
    · cases hacc
  case rparen =>
    rcases hfr : st.frames with _ | ⟨f, fs⟩ <;> simp only [hfr, reduceCtorEq] at hacc
    split at hacc
    · cases hacc
    · cases hacc
      -- the closed call's heads are those of its frame
      have hp' : ({ st with frames := fs } : ParseState).pending = none := hp
      rw [heads_deliver hp', Expr.heads_call]
      simp [heads, hfr, hp, Frame.heads]
  case lparen => cases hacc

/-- The step lemma: a token read adds the head it stands for, if any, to those held. -/
theorem heads_step {st st' : ParseState} {t : Token} (hs : st.step file t = some st') :
    st'.heads = st.heads ++ (Token.head file t).toList := by
  rcases hp : st.pending with _ | ⟨n, p⟩
  · rw [step_of_none hp] at hs
    exact heads_accept hp hs
  by_cases hk : t.kind = .lparen
  · -- the pending name opens a call, which keeps its head
    simp only [step, hp, hk] at hs
    cases hs
    simp [heads, hp, hk, Token.head, Frame.heads]
  · rw [step_of_not_lparen st hk] at hs
    rw [heads_accept (settle_pending st) hs, heads_settle]

/-- The run lemma: the heads held after reading tokens are those held before, then the heads
the tokens stand for. -/
theorem heads_run {st st' : ParseState} {ts : List Token} (hr : run file st ts = .ok st') :
    st'.heads = st.heads ++ ts.filterMap (Token.head file) := by
  induction ts generalizing st with
  | nil =>
    cases hr
    simp
  | cons t ts ih =>
    rw [run_cons] at hr
    rcases hs : st.step file t with _ | s <;> rw [hs] at hr
    · cases hr
    · rw [ih hr, heads_step hs, List.filterMap_cons]
      cases Token.head file t <;> simp

end ParseState

/-- The nodes of a parsed program, in preorder, are headed one for one by the name, number and
text tokens of its source, in order. -/
theorem parse_heads {source : CodeString} {file : Option CodeString} {prog : List Expr}
    (h : parse source file = .ok prog) :
    (Expr.preorderAll prog).map Expr.head = (scan source).tokens.filterMap (Token.head file) := by
  unfold parse at h
  rcases hr : ParseState.run file .initial (scan source).tokens with t | st <;>
    simp only [hr] at h
  · cases h
  rcases hstop : (scan source).stop with _ | ⟨c, l, k⟩ <;> simp only [hstop] at h
  · split at h
    · rename_i hf
      cases h
      have hs := ParseState.heads_run hr
      rw [← ParseState.heads_settle] at hs
      simpa [ParseState.heads, List.isEmpty_iff.mp hf, ParseState.initial] using hs
    · split at h <;> cases h
  · cases h

/-! ## Where a token stands -/

/-- A longest match stays one when less follows it. -/
theorem LongestMatch.of_append {k : TokenKind} {w rest more : List Char}
    (h : LongestMatch k w (rest ++ more)) : LongestMatch k w rest :=
  ⟨h.1, fun u v huv hu => h.2 u (v ++ more) (by rw [← List.append_assoc, huv, List.append_assoc]) hu⟩

namespace Lexes

/-- A token read stands right after code points that read as exactly the tokens before it, at
the position they end on. -/
theorem split_located {before ps : List CodePoint} {ts : List Token}
    {stop : Option (CodePoint × Nat × Nat)} (h : Lexes before ps ts stop) :
    ∀ pre t post, ts = pre ++ t :: post →
      ∃ mid rest, ps = mid ++ t.lexeme.points ++ rest ∧ Lexes before mid pre none ∧
        (t.line, t.column) = positionAfter (before ++ mid) := by
  induction h with
  | done => simp
  | stuck => simp
  | @skip before p ps ts stop blank _ ih =>
    intro pre t post hts
    obtain ⟨mid, rest, hps, hmid, hpos⟩ := ih pre t post hts
    exact ⟨p :: mid, rest, by rw [hps]; rfl, .skip blank hmid, by rw [hpos]; simp⟩
  | @token before k w rest ts stop longest _ ih =>
    intro pre t post hts
    rcases pre with _ | ⟨u, pre⟩
    · -- the token is the first one read
      cases hts
      exact ⟨[], rest, by simp, .done, by rw [List.append_nil]⟩
    · -- the token is further on: the first token read still is a longest match before it
      rw [List.cons_append, List.cons.injEq] at hts
      obtain ⟨rfl, hts⟩ := hts
      obtain ⟨mid, rest', hps, hmid, hpos⟩ := ih pre t post hts
      have hlong : LongestMatch k (w.map CodePoint.classChar) (mid.map CodePoint.classChar) := by
        rw [hps, List.append_assoc, List.map_append] at longest
        exact longest.of_append
      exact ⟨w ++ mid, rest', by rw [hps]; simp, .token hlong hmid, by rw [hpos]; simp⟩

/-- The code point where the reading stops stands right after code points that read as
exactly all the tokens, at the position they end on. -/
theorem stop_split {before ps : List CodePoint} {ts : List Token}
    {stop : Option (CodePoint × Nat × Nat)} (h : Lexes before ps ts stop) {c : CodePoint}
    {line column : Nat} :
    stop = some (c, line, column) →
      ∃ mid rest, ps = mid ++ c :: rest ∧ Lexes before mid ts none ∧
        (line, column) = positionAfter (before ++ mid) := by
  induction h with
  | done => simp
  | stuck =>
    intro hs
    cases hs
    exact ⟨[], _, rfl, .done, by rw [List.append_nil]; rfl⟩
  | @skip before p ps ts stop blank _ ih =>
    intro hs
    obtain ⟨mid, rest, hps, hmid, hpos⟩ := ih hs
    exact ⟨p :: mid, rest, by rw [hps]; rfl, .skip blank hmid, by rw [hpos]; simp⟩
  | @token before k w rest ts stop longest _ ih =>
    intro hs
    obtain ⟨mid, rest', hps, hmid, hpos⟩ := ih hs
    have hlong : LongestMatch k (w.map CodePoint.classChar) (mid.map CodePoint.classChar) := by
      rw [hps, List.map_append] at longest
      exact longest.of_append
    exact ⟨w ++ mid, rest', by rw [hps]; simp, .token hlong hmid, by rw [hpos]; simp⟩

end Lexes

/-- The `i`-th element kept by a `filterMap` comes from an element after exactly `i` kept
ones. -/
theorem exists_split_of_filterMap {α β : Type} {g : α → Option β} {x : β} :
    ∀ (ts : List α) (i : Nat), (ts.filterMap g)[i]? = some x →
      ∃ pre t post, ts = pre ++ t :: post ∧ (pre.filterMap g).length = i ∧ g t = some x
  | [], i, h => by simp at h
  | t :: ts, i, h => by
    rcases ht : g t with _ | y
    · rw [List.filterMap_cons_none ht] at h
      obtain ⟨pre, u, post, hts, hlen, hu⟩ := exists_split_of_filterMap ts i h
      exact ⟨t :: pre, u, post, by rw [hts]; rfl, by rw [List.filterMap_cons_none ht, hlen], hu⟩
    · rw [List.filterMap_cons_some ht] at h
      rcases i with _ | i
      · -- the element itself is the first kept
        cases h
        exact ⟨[], t, ts, rfl, rfl, ht⟩
      · obtain ⟨pre, u, post, hts, hlen, hu⟩ := exists_split_of_filterMap ts i h
        refine ⟨t :: pre, u, post, by rw [hts]; rfl, ?_, hu⟩
        rw [List.filterMap_cons_some ht, List.length_cons, hlen]

/-- The column after code points counts those after the last line feed among them, or all of
them when there is none, from one: an offset `o` in a line starting at offset `p` is in column
`o - p + 1`, whatever the code points (a tab or a carriage return among them) are. -/
theorem positionAfter_column {pre post : List CodePoint}
    (hpre : pre = [] ∨ pre.getLast? = some (.char '\n')) (hpost : CodePoint.char '\n' ∉ post) :
    (positionAfter (pre ++ post)).2 = post.length + 1 := by
  have hfeed : ∀ c : CodePoint, c.classChar = '\n' → c = .char '\n' := by
    intro c hc
    cases c with
    | char d => rw [show d = '\n' from hc]
    | surrogate _ => cases hc
  -- nothing after the line start is a line feed, and the line start follows one or nothing
  have hkeep : ∀ a ∈ (post.map CodePoint.classChar).reverse, (a != '\n') = true := by
    intro a ha
    obtain ⟨c, hc, rfl⟩ := List.mem_map.mp (List.mem_reverse.mp ha)
    simpa using fun h => hpost (hfeed c h ▸ hc)
  have hstop : (pre.map CodePoint.classChar).reverse.takeWhile (· != '\n') = [] := by
    rcases hpre with rfl | hlast
    · rfl
    · obtain ⟨ys, rfl⟩ := List.getLast?_eq_some_iff.mp hlast
      simp [CodePoint.classChar]
  simp only [positionAfter, List.map_append, List.reverse_append]
  rw [List.takeWhile_append_of_pos hkeep, hstop]
  simp

/-! ## Nodes and errors in the source -/

/-- `Offends ts err pre w`: the parse error `err` points at the code points `w`, read right
after the tokens `pre` among `ts`: a code point where no token starts, after all the tokens; a
refused token; or the last token, when the source ends inside a call. -/
inductive Offends (ts : List Token) : ParseError → List Token → List CodePoint → Prop
  | char {c : CodePoint} {line column : Nat} : Offends ts (.unexpectedChar c line column) ts [c]
  | token {pre : List Token} {t : Token} {post : List Token} (split : ts = pre ++ t :: post) :
      Offends ts (.unexpectedToken t.lexeme t.line t.column) pre t.lexeme.points
  | last {pre : List Token} {t : Token} (split : ts = pre ++ [t]) :
      Offends ts (.incomplete t.line t.column) pre t.lexeme.points

section

variable {source : CodeString} {file : Option CodeString} {ts : List Token}
  {stop : Option (CodePoint × Nat × Nat)}

/-- The `i`-th node of a parsed program in preorder is headed by the `i`-th name, number or
text token, at the position of the code points before that token. -/
theorem parse_node_located (hl : Lexes [] source.points ts stop) {prog : List Expr}
    (h : parse source file = .ok prog) {i : Nat} {e : Expr}
    (he : (Expr.preorderAll prog)[i]? = some e) :
    ∃ pre t post before rest, ts = pre ++ t :: post ∧
      (pre.filterMap (Token.head file)).length = i ∧ Token.head file t = some e.head ∧
      source.points = before ++ t.lexeme.points ++ rest ∧ Lexes [] before pre none ∧
      e.pos = ⟨file, (positionAfter before).1, (positionAfter before).2⟩ := by
  have hts := ((lexes_iff_scan source ts stop).mp hl).1
  have hhead : (ts.filterMap (Token.head file))[i]? = some e.head := by
    rw [← hts, ← parse_heads h, List.getElem?_map, he]
    rfl
  obtain ⟨pre, t, post, hsplit, hlen, ht⟩ := exists_split_of_filterMap ts i hhead
  obtain ⟨mid, rest, hps, hmid, hpos⟩ := hl.split_located pre t post hsplit
  rw [List.nil_append] at hpos
  refine ⟨pre, t, post, mid, rest, hsplit, hlen, ht, hps, hmid, ?_⟩
  rw [← Expr.head_pos, Token.head_pos ht, ← hpos]

/-- A parse error stands at the code points it points at, after code points that read as
exactly the tokens before them. -/
theorem parse_error_located (hl : Lexes [] source.points ts stop) {err : ParseError}
    (h : parse source file = .error err) :
    ∃ pre w before rest, Offends ts err pre w ∧ source.points = before ++ w ++ rest ∧
      Lexes [] before pre none ∧ (err.line, err.column) = positionAfter before := by
  cases rejected_of_parse_error hl h with
  | @token _ pre t post split _ _ =>
    obtain ⟨mid, rest, hps, hmid, hpos⟩ := hl.split_located pre t post split
    rw [List.nil_append] at hpos
    exact ⟨pre, _, mid, rest, .token split, hps, hmid, hpos⟩
  | @char c line column _ =>
    obtain ⟨mid, rest, hps, hmid, hpos⟩ := hl.stop_split rfl
    rw [List.nil_append] at hpos
    exact ⟨ts, [c], mid, rest, .char, by rw [hps]; simp, hmid, hpos⟩
  | @incomplete t _ _ last =>
    -- the end of the source is placed at the last token read
    obtain ⟨pre, hsplit⟩ := List.getLast?_eq_some_iff.mp last
    obtain ⟨mid, rest, hps, hmid, hpos⟩ := hl.split_located pre t [] hsplit
    rw [List.nil_append] at hpos
    exact ⟨pre, _, mid, rest, .last hsplit, hps, hmid, hpos⟩

end

/-- Every node of a parsed program, at any depth, stands at its own token: the `i`-th node in
preorder is headed by the `i`-th name, number or text token, and has the source's file and the
line and column of the code points before that token, which read as exactly the tokens before
it. Every parse error stands at what it points at the same way: the code point where no token
starts, the refused token, or the last token when the source ends inside a call. -/
theorem parse_positions (source : CodeString) (file : Option CodeString) :
    (∀ prog, parse source file = .ok prog → ∀ i e, (Expr.preorderAll prog)[i]? = some e →
      ∃ pre t post before rest, (scan source).tokens = pre ++ t :: post ∧
        (pre.filterMap (Token.head file)).length = i ∧ Token.head file t = some e.head ∧
        source.points = before ++ t.lexeme.points ++ rest ∧ Lexes [] before pre none ∧
        e.pos = ⟨file, (positionAfter before).1, (positionAfter before).2⟩) ∧
    (∀ err, parse source file = .error err →
      ∃ pre w before rest, Offends (scan source).tokens err pre w ∧
        source.points = before ++ w ++ rest ∧ Lexes [] before pre none ∧
        (err.line, err.column) = positionAfter before) :=
  ⟨fun _ h _ _ he => parse_node_located (lexes_scan source) h he,
    fun _ h => parse_error_located (lexes_scan source) h⟩

/-- The call on the second line of `SIN(X)\n  COS(Y)` is its third node, headed by its name
token, two blanks into the line. -/
theorem indented_call_position :
    ∃ pre t post before rest, (scan "SIN(X)\n  COS(Y)").tokens = pre ++ t :: post ∧
      (pre.filterMap (Token.head (some "<t>"))).length = 2 ∧
      Token.head (some "<t>") t = some (.call "COS" [] ⟨some "<t>", 2, 3⟩) ∧
      (CodeString.points "SIN(X)\n  COS(Y)") = before ++ t.lexeme.points ++ rest ∧
      Lexes [] before pre none ∧
      (⟨some "<t>", 2, 3⟩ : Pos) = ⟨some "<t>", (positionAfter before).1, (positionAfter before).2⟩ := by
  have hparse : parse "SIN(X)\n  COS(Y)" (some "<t>") =
      .ok [.call "SIN" [.call "X" [] ⟨some "<t>", 1, 5⟩] ⟨some "<t>", 1, 1⟩,
        .call "COS" [.call "Y" [] ⟨some "<t>", 2, 7⟩] ⟨some "<t>", 2, 3⟩] := by
    rfl
  exact (parse_positions "SIN(X)\n  COS(Y)" (some "<t>")).1 _ hparse 2
    (.call "COS" [.call "Y" [] ⟨some "<t>", 2, 7⟩] ⟨some "<t>", 2, 3⟩) (by simp [Expr.preorder])

end CallBasic
