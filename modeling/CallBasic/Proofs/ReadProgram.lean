import CallBasic.Proofs.ParseSound
import CallBasic.Session
/-!
# Reading a program

The parser is complete for the grammar: the tokens of a derivation, read where an expression
may start, hand on the expression it stands for (`run_derives`, `run_separated`, by mutual
recursion on the derivation, with any continuation that does not open with a parenthesis), so
every sentence is parsed as its program (`parse_complete`). With soundness this characterises
the parser (`parse_ok_iff`).

Reading a program (`readProgram`) also converts its expressions on the host's stack, which
fails with a recursion error when calls are nested too deeply. A source is read as a program
exactly when it is a sentence of the grammar whose conversion stays within the stack
(`readProgram_ok_iff`); a sentence whose conversion does not fails with the recursion error
(`readProgram_of_overflow`). Calls nested a thousand deep are such a sentence under a stack
of a thousand levels (`nested_sentence_overflows`).
-/

namespace CallBasic

/-! ## The parser's steps on a derivation -/

/-- The tokens do not start with an opening parenthesis: a name before them is a call
without arguments. -/
def NoOpenParen (rest : List Token) : Prop :=
  ∀ t, rest.head? = some t → t.kind ≠ .lparen

/-- The separator of a list fits the state: commas inside a call, separators outside all
calls. -/
def SeparatorFits : TokenKind → ParseState → Prop
  | .comma, st => st.frames ≠ []
  | .sep, st => st.frames = []
  | _, _ => False

theorem noOpenParen_cons {t : Token} (h : t.kind ≠ .lparen) (rest : List Token) :
    NoOpenParen (t :: rest) := by
  intro t' ht'
  cases ht'
  exact h

namespace ParseState

variable {file : Option CodeString}

/-- Before a token other than an opening parenthesis, settling a pending name changes
nothing. -/
theorem run_settle (s : ParseState) {rest : List Token} (hr : NoOpenParen rest) :
    (run file s rest).map settle = (run file s.settle rest).map settle := by
  cases rest with
  | nil =>
    show Except.ok s.settle = Except.ok s.settle.settle
    rw [settle_of_none (settle_pending s)]
  | cons t r =>
    have hk : t.kind ≠ .lparen := hr t rfl
    rw [run_cons, run_cons, step_of_not_lparen s hk, step_of_none (settle_pending s)]

theorem deliver_all_of_frames {S : ParseState} {f : Frame} {fs : List Frame}
    (h : S.frames = f :: fs) (es : List Expr) (e : Expr) :
    (es.foldl deliver S).deliver e = { S with frames :=
      { f with args := (es ++ [e]).reverse ++ f.args, stage := .argument } :: fs } := by
  induction es generalizing S f with
  | nil => simp [deliver_of_frames h]
  | cons e₁ es ih =>
    have h1 : (S.deliver e₁).frames =
        { f with args := e₁ :: f.args, stage := .argument } :: fs := by
      rw [deliver_of_frames h]
    rw [List.foldl_cons, ih h1, deliver_of_frames h]
    simp

theorem deliver_all_of_no_frames {S : ParseState} (h : S.frames = []) (es : List Expr)
    (e : Expr) :
    (es.foldl deliver S).deliver e =
      { S with done := (es ++ [e]).reverse ++ S.done, outer := .afterExpr } := by
  induction es generalizing S with
  | nil => simp [deliver_of_no_frames h]
  | cons e₁ es ih =>
    have h1 : (S.deliver e₁).frames = [] := by
      rw [deliver_of_no_frames h]
      exact h
    rw [List.foldl_cons, ih h1, deliver_of_no_frames h]
    simp

variable (file) in
/-- After an expression, a separator that fits is read, and the state it leaves hands the
next expression on as if the separator had not been there. -/
theorem step_separator {T : ParseState} {t : Token} (hp : T.pending = none)
    (hfit : SeparatorFits t.kind T) (e : Expr) :
    ∃ S, (T.deliver e).step file t = some S ∧ S.pending = none ∧ S.expectsExpr = true ∧
      SeparatorFits t.kind S ∧ ∀ y, S.deliver y = (T.deliver e).deliver y := by
  have hp' : (T.deliver e).pending = none := by rw [deliver_pending, hp]
  rw [step_of_none hp']
  rcases hk : t.kind with _ | _ | _ | _ | _ | _ | _ <;> rw [hk] at hfit <;>
    simp only [SeparatorFits] at hfit
  case sep =>
    refine ⟨{ T.deliver e with outer := .ready }, ?_, hp', ?_, ?_, fun y => ?_⟩
    · simp [accept, hk, deliver_of_no_frames hfit, hfit]
    · simp [expectsExpr, deliver_of_no_frames hfit, hfit]
    · simp [SeparatorFits, deliver_of_no_frames hfit, hfit]
    · simp [deliver, hfit]
  case comma =>
    obtain ⟨f, fs, hfr⟩ := List.exists_cons_of_ne_nil hfit
    refine ⟨{ T.deliver e with frames :=
        { f with args := e :: f.args, stage := .comma } :: fs }, ?_, hp', ?_, ?_, fun y => ?_⟩
    · simp [accept, hk, deliver_of_frames hfr]
    · simp [expectsExpr]
    · simp [SeparatorFits]
    · simp [deliver, hfr]

theorem with_pending_none {st : ParseState} (hp : st.pending = none) :
    ({ st with pending := none } : ParseState) = st := by
  cases st with
  | mk done outer frames pending =>
    simp only at hp
    rw [hp]

@[simp] theorem foldl_deliver_pending (st : ParseState) (es : List Expr) :
    (es.foldl deliver st).pending = st.pending := by
  induction es generalizing st with
  | nil => rfl
  | cons e es ih => rw [List.foldl_cons, ih, deliver_pending]

theorem separatorFits_deliver {d : TokenKind} {st : ParseState} (h : SeparatorFits d st)
    (e : Expr) : SeparatorFits d (st.deliver e) := by
  cases d <;> simp only [SeparatorFits] at h ⊢
  case comma =>
    obtain ⟨f, fs, hfr⟩ := List.exists_cons_of_ne_nil h
    simp [deliver_of_frames hfr]
  case sep =>
    rw [deliver_of_no_frames h]
    exact h

theorem separatorFits_foldl {d : TokenKind} {st : ParseState} (h : SeparatorFits d st)
    (es : List Expr) : SeparatorFits d (es.foldl deliver st) := by
  induction es generalizing st with
  | nil => exact h
  | cons e es ih => exact ih (separatorFits_deliver h e)

/-- A name where an expression may start waits for what follows it. -/
theorem step_name {st : ParseState} {t : Token} (hp : st.pending = none)
    (he : st.expectsExpr = true) (hk : t.kind = .name) :
    st.step file t = some { st with pending := some (t.lexeme, ⟨file, t.line, t.column⟩) } := by
  simp [step_of_none hp, accept, hk, he]

/-- A number or a text where an expression may start is handed on as a literal. -/
theorem step_literal {st : ParseState} {t : Token} (hp : st.pending = none)
    (he : st.expectsExpr = true) (hk : t.kind = .number ∨ t.kind = .text) :
    st.step file t = some (st.deliver (literalOf t ⟨file, t.line, t.column⟩)) := by
  rcases hk with hk | hk <;> simp [step_of_none hp, accept, hk, he]

/-- An opening parenthesis after a pending name opens its call. -/
theorem step_open (st : ParseState) (n : CodeString) (p : Pos) {t : Token}
    (hk : t.kind = .lparen) :
    ({ st with pending := some (n, p) } : ParseState).step file t =
      some { st with pending := none, frames := ⟨n, p, [], .opened⟩ :: st.frames } := by
  simp [step, hk]

/-- A closing parenthesis closes the innermost call unless a comma was just read. -/
theorem step_close (st : ParseState) {f : Frame} {fs : List Frame} {t : Token}
    (hp : st.pending = none) (hfr : st.frames = f :: fs) (hs : f.stage ≠ .comma)
    (hk : t.kind = .rparen) :
    st.step file t =
      some ({ st with frames := fs }.deliver (.call f.name f.args.reverse f.pos)) := by
  simp [step_of_none hp, accept, hk, hfr, hs]

/-- Closing a call opened where the parser stood before its name hands the call on from
there. -/
theorem step_close_call {st : ParseState} (hp : st.pending = none) (n : CodeString) (p : Pos)
    (args : List Expr) {stage : Stage} (hs : stage ≠ .comma) {t : Token}
    (hk : t.kind = .rparen) :
    ({ st with pending := none, frames := ⟨n, p, args, stage⟩ :: st.frames } : ParseState).step
      file t = some (st.deliver (.call n args.reverse p)) := by
  rw [step_close _ rfl rfl hs hk]
  simp [with_pending_none hp]

/-- A name where an expression may start, followed by an opening parenthesis, opens its
call. -/
theorem run_name_open {st : ParseState} {tn tl : Token} (hp : st.pending = none)
    (he : st.expectsExpr = true) (hkn : tn.kind = .name) (hkl : tl.kind = .lparen)
    (rest : List Token) :
    run file st (tn :: tl :: rest) =
      run file { st with
        pending := none
        frames := ⟨tn.lexeme, ⟨file, tn.line, tn.column⟩, [], .opened⟩ :: st.frames } rest := by
  rw [run_cons_of_step (step_name hp he hkn), run_cons_of_step (step_open st _ _ hkl)]

end ParseState

/-! ## Tokens of a derivation -/

theorem map_view_eq_cons {toks : List Token} {k : TokenKind} {w : List CodePoint}
    {xs : List Lexeme} (h : toks.map Token.view = (k, w) :: xs) :
    ∃ t rest, toks = t :: rest ∧ t.kind = k ∧ t.lexeme = ⟨w⟩ ∧
      rest.map Token.view = xs := by
  obtain ⟨t, rest, rfl, ht, hrest⟩ := List.map_eq_cons_iff.mp h
  simp only [Token.view, Prod.mk.injEq] at ht
  exact ⟨t, rest, rfl, ht.1, by rw [← ht.2], hrest⟩

theorem map_view_eq_singleton {toks : List Token} {k : TokenKind} {w : List CodePoint}
    (h : toks.map Token.view = [(k, w)]) :
    ∃ t, toks = [t] ∧ t.kind = k ∧ t.lexeme = ⟨w⟩ := by
  obtain ⟨t, rest, rfl, hk, hw, hrest⟩ := map_view_eq_cons h
  rw [List.map_eq_nil_iff] at hrest
  exact ⟨t, by rw [hrest], hk, hw⟩

mutual

/-- The tokens of an expression's derivation, read where an expression may start, hand on
that expression; a bare name is handed on once the next token shows no parenthesis. -/
theorem run_derives (file : Option CodeString) {us : List Lexeme} {x : Node}
    (hd : Derives us x) :
    ∀ toks : List Token, toks.map Token.view = us → ∀ st : ParseState, st.pending = none →
      st.expectsExpr = true → ∀ rest : List Token, NoOpenParen rest →
      ∃ e : Expr, e.node = x ∧ (ParseState.run file st (toks ++ rest)).map ParseState.settle =
        (ParseState.run file (st.deliver e) rest).map ParseState.settle :=
  match hd with
  | .bare => by
    intro toks hv st hp he rest hr
    obtain ⟨t, rfl, hk, hn⟩ := map_view_eq_singleton hv
    refine ⟨.call t.lexeme [] ⟨file, t.line, t.column⟩, by simp [Expr.node, hn], ?_⟩
    -- the name is still pending after its token; the next token settles it
    rw [List.singleton_append, ParseState.run_cons_of_step (ParseState.step_name hp he hk),
      ParseState.run_settle _ hr]
    simp [ParseState.settle, ParseState.with_pending_none hp]
  | .callEmpty => by
    intro toks hv st hp he rest hr
    obtain ⟨tn, toks, rfl, hkn, hn, hv⟩ := map_view_eq_cons hv
    obtain ⟨tl, toks, rfl, hkl, -, hv⟩ := map_view_eq_cons hv
    obtain ⟨tr, rfl, hkr, -⟩ := map_view_eq_singleton hv
    refine ⟨.call tn.lexeme [] ⟨file, tn.line, tn.column⟩, by simp [Expr.node, hn], ?_⟩
    simp only [List.cons_append, List.nil_append]
    rw [ParseState.run_name_open hp he hkn hkl,
      ParseState.run_cons_of_step (ParseState.step_close_call hp _ _ [] (by decide) hkr)]
    rfl
  | .call inner => by
    intro toks hv st hp he rest hr
    obtain ⟨tn, toks, rfl, hkn, hn, hv⟩ := map_view_eq_cons hv
    obtain ⟨tl, toks, rfl, hkl, -, hv⟩ := map_view_eq_cons hv
    obtain ⟨mid, last, rfl, hmid, hlast⟩ := List.map_eq_append_iff.mp hv
    obtain ⟨tr, rfl, hkr, -⟩ := map_view_eq_singleton hlast
    -- the arguments are read inside the call opened by the name and its parenthesis, and
    -- the closing parenthesis after them is no opening one
    obtain ⟨es, e, hx, hrun⟩ := run_separated file inner mid hmid
      { st with
        pending := none
        frames := ⟨tn.lexeme, ⟨file, tn.line, tn.column⟩, [], .opened⟩ :: st.frames }
      rfl rfl (by simp [SeparatorFits]) (tr :: rest)
      (noOpenParen_cons (by rw [hkr]; decide) rest)
    refine ⟨.call tn.lexeme (es ++ [e]) ⟨file, tn.line, tn.column⟩,
      by simp [Expr.node, hn, hx], ?_⟩
    rw [ParseState.deliver_all_of_frames rfl] at hrun
    simp only [List.append_nil] at hrun
    calc (ParseState.run file st ((tn :: tl :: (mid ++ [tr])) ++ rest)).map ParseState.settle
        = (ParseState.run file { st with pending := none, frames :=
            ⟨tn.lexeme, ⟨file, tn.line, tn.column⟩, [], .opened⟩ :: st.frames }
            (mid ++ tr :: rest)).map ParseState.settle := by
          rw [List.cons_append, List.cons_append, ParseState.run_name_open hp he hkn hkl,
            List.append_assoc, List.singleton_append]
      _ = _ := hrun
      _ = (ParseState.run file
            (st.deliver (.call tn.lexeme (es ++ [e]) ⟨file, tn.line, tn.column⟩))
            rest).map ParseState.settle := by
          rw [ParseState.run_cons_of_step
            (ParseState.step_close_call hp _ _ _ (by decide) hkr), List.reverse_reverse]
  | .number value => by
    intro toks hv st hp he rest hr
    obtain ⟨t, rfl, hk, hw⟩ := map_view_eq_singleton hv
    refine ⟨literalOf t ⟨file, t.line, t.column⟩, ?_, ?_⟩
    · simp [literalOf, hk, hw, value, Expr.node]
    · rw [List.singleton_append,
        ParseState.run_cons_of_step (ParseState.step_literal hp he (Or.inl hk))]
  | .text value => by
    intro toks hv st hp he rest hr
    obtain ⟨t, rfl, hk, hw⟩ := map_view_eq_singleton hv
    refine ⟨literalOf t ⟨file, t.line, t.column⟩, ?_, ?_⟩
    · rw [← value.unescape_eq]
      simp [literalOf, hk, hw, Expr.node]
    · rw [List.singleton_append,
        ParseState.run_cons_of_step (ParseState.step_literal hp he (Or.inr hk))]

/-- The tokens of a separated list's derivation hand on its expressions one by one. -/
theorem run_separated (file : Option CodeString) {d : TokenKind} {us : List Lexeme}
    {xs : List Node} (hs : Separated d us xs) :
    ∀ toks : List Token, toks.map Token.view = us → ∀ st : ParseState, st.pending = none →
      st.expectsExpr = true → SeparatorFits d st → ∀ rest : List Token, NoOpenParen rest →
      ∃ es e, Expr.nodes (es ++ [e]) = xs ∧
        (ParseState.run file st (toks ++ rest)).map ParseState.settle =
          (ParseState.run file ((es.foldl ParseState.deliver st).deliver e) rest).map
            ParseState.settle :=
  match hs with
  | .one h => by
    intro toks hv st hp he _ rest hr
    obtain ⟨e, hx, hrun⟩ := run_derives file h toks hv st hp he rest hr
    exact ⟨[], e, by simp [hx], hrun⟩
  | .snoc init last => by
    intro toks hv st hp he hfit rest hr
    obtain ⟨a, b, rfl, ha, hb⟩ := List.map_eq_append_iff.mp hv
    obtain ⟨td, b, rfl, hkd, -, hb⟩ := map_view_eq_cons hb
    have hd : td.kind ≠ .lparen := by
      rintro hl
      rw [← hkd, hl] at hfit
      exact hfit
    obtain ⟨es, e, hx, hrun⟩ := run_separated file init a ha st hp he hfit (td :: (b ++ rest))
      (noOpenParen_cons hd _)
    -- the separator is read after the list so far, then the last expression
    obtain ⟨S, hstep, hSp, hSe, -, hSd⟩ := ParseState.step_separator file
      (T := es.foldl ParseState.deliver st) (by rw [ParseState.foldl_deliver_pending, hp])
      (by rw [hkd]; exact ParseState.separatorFits_foldl hfit es) e
    obtain ⟨e', hx', hrun'⟩ := run_derives file last b hb S hSp hSe rest hr
    refine ⟨es ++ [e], e',
      by rw [Expr.nodes_append, hx, Expr.nodes_cons, Expr.nodes_nil, hx'], ?_⟩
    calc (ParseState.run file st ((a ++ td :: b) ++ rest)).map ParseState.settle
        = (ParseState.run file st (a ++ td :: (b ++ rest))).map ParseState.settle := by simp
      _ = _ := hrun
      _ = (ParseState.run file S (b ++ rest)).map ParseState.settle := by
          rw [ParseState.run_cons_of_step hstep]
      _ = _ := hrun'
      _ = _ := by
          rw [hSd, List.foldl_append]
          rfl

end

/-! ## Completeness -/

/-- The separator that may open or close a program is read from the start, or after the
program's last expression. -/
theorem run_optSep_lead (file : Option CodeString) {lead : List Lexeme} (hl : OptSep lead)
    {toks : List Token} (hv : toks.map Token.view = lead) :
    ∃ S : ParseState,
      (∀ rest, ParseState.run file .initial (toks ++ rest) = ParseState.run file S rest) ∧
      S.pending = none ∧ S.expectsExpr = true ∧ S.frames = [] ∧ S.done = [] := by
  rcases hl with rfl | ⟨s, rfl⟩
  · rw [List.map_eq_nil_iff] at hv
    subst hv
    exact ⟨.initial, fun _ => rfl, rfl, rfl, rfl, rfl⟩
  · obtain ⟨t, rfl, hk, -⟩ := map_view_eq_singleton hv
    refine ⟨{ ParseState.initial with outer := .ready }, fun rest => ?_, rfl, rfl, rfl, rfl⟩
    rw [List.singleton_append, ParseState.run_cons_of_step]
    simp [ParseState.step_of_none, ParseState.accept, hk, ParseState.initial]

/-- A separator that closes a program is no parenthesis. -/
theorem noOpenParen_of_optSep {trail : List Lexeme} (hl : OptSep trail) {toks : List Token}
    (hv : toks.map Token.view = trail) : NoOpenParen toks := by
  rcases hl with rfl | ⟨s, rfl⟩
  · rw [List.map_eq_nil_iff] at hv
    subst hv
    intro t ht
    cases ht
  · obtain ⟨t, rfl, hk, -⟩ := map_view_eq_singleton hv
    exact noOpenParen_cons (by rw [hk]; decide) _

/-- The separator that may close a program is read after its last expression. -/
theorem run_optSep_trail (file : Option CodeString) {trail : List Lexeme} (hl : OptSep trail)
    {toks : List Token} (hv : toks.map Token.view = trail) {S : ParseState}
    (hp : S.pending = none) (hf : S.frames = []) (ho : S.outer = .afterExpr) :
    ∃ S' : ParseState, (ParseState.run file S toks).map ParseState.settle = .ok S' ∧
      S'.frames = [] ∧ S'.done = S.done := by
  rcases hl with rfl | ⟨s, rfl⟩
  · rw [List.map_eq_nil_iff] at hv
    subst hv
    exact ⟨S, by simp [Except.map, ParseState.settle, hp], hf, rfl⟩
  · obtain ⟨t, rfl, hk, -⟩ := map_view_eq_singleton hv
    have hstep : S.step file t = some { S with outer := .ready } := by
      simp [ParseState.step_of_none hp, ParseState.accept, hk, hf, ho]
    refine ⟨{ S with outer := .ready }, ?_, hf, rfl⟩
    rw [ParseState.run_cons_of_step hstep, ParseState.run_nil]
    simp [Except.map, ParseState.settle, hp]

/-- The tokens of a derivation of a program, read from the start, leave the program's
expressions at the outer level and no call open. -/
theorem run_program (file : Option CodeString) {ts : List Lexeme} {prog : List Node}
    (h : DerivesProgram ts prog) {toks : List Token} (hv : toks.map Token.view = ts) :
    ∃ S : ParseState, (ParseState.run file .initial toks).map ParseState.settle = .ok S ∧
      S.frames = [] ∧ Expr.nodes S.done.reverse = prog := by
  rcases h with ⟨hl, rfl⟩ | ⟨lead, body, trail, rfl, hl, hb, htr⟩
  · obtain ⟨S, hrun, hp, -, hf, hd⟩ := run_optSep_lead file hl hv
    refine ⟨S, ?_, hf, by simp [hd]⟩
    rw [← List.append_nil toks, hrun [], ParseState.run_nil]
    simp [Except.map, ParseState.settle_of_none hp]
  · obtain ⟨a, c, rfl, hac, hc⟩ := List.map_eq_append_iff.mp hv
    obtain ⟨a, b, rfl, ha, hb'⟩ := List.map_eq_append_iff.mp hac
    obtain ⟨S0, hrun0, hp, he, hf, hd⟩ := run_optSep_lead file hl ha
    obtain ⟨es, e, hx, hrun⟩ :=
      run_separated file hb b hb' S0 hp he hf c (noOpenParen_of_optSep htr hc)
    rw [ParseState.deliver_all_of_no_frames hf, hd, List.append_nil] at hrun
    -- after the last expression only the closing separator is left
    obtain ⟨S, hrun', hf', hd'⟩ := run_optSep_trail file htr hc
      (S := { S0 with done := (es ++ [e]).reverse, outer := .afterExpr }) hp hf rfl
    refine ⟨S, ?_, hf', by rw [hd', List.reverse_reverse, hx]⟩
    rw [List.append_assoc, hrun0, hrun, hrun']

/-- Completeness: the parser reads every sentence of the grammar, as its program. -/
theorem parse_complete {source : CodeString} {prog : List Node} (h : Sentence source prog)
    (file : Option CodeString) : ∃ p, parse source file = .ok p ∧ Expr.nodes p = prog := by
  obtain ⟨ts, htok, hprog⟩ := h
  obtain ⟨hstop, hv⟩ := (scan_iff source ts).mp htok
  obtain ⟨S, hrun, hf, hnodes⟩ := run_program file hprog hv
  rcases hr : ParseState.run file .initial (scan source).tokens with t | st
  · rw [hr] at hrun
    cases hrun
  · rw [hr] at hrun
    cases hrun
    refine ⟨st.settle.done.reverse, ?_, hnodes⟩
    simp [parse, hr, hstop, hf]

/-- The parser reads exactly the sentences of the grammar, each as its program. -/
theorem parse_ok_iff (source : CodeString) (file : Option CodeString) (prog : List Node) :
    (∃ p, parse source file = .ok p ∧ Expr.nodes p = prog) ↔ Sentence source prog :=
  ⟨fun ⟨_, hp, hnodes⟩ => hnodes ▸ parse_sound hp, fun h => parse_complete h file⟩

/-! ## Reading a program -/

/-- A source is read as a program exactly when it is a sentence of the grammar and converting
its expressions stays within the host's stack. -/
theorem readProgram_ok_iff (stack : Stack) (source : CodeString) (file : Option CodeString)
    (prog : List Node) :
    (∃ p, readProgram stack source file = .ok p ∧ Expr.nodes p = prog) ↔
      Sentence source prog ∧ stack.overflow? (scan source).tokens = none := by
  constructor
  · rintro ⟨p, hp, rfl⟩
    unfold readProgram at hp
    rcases hparse : parse source file with e | q <;> rw [hparse] at hp
    · cases hp
    rcases hconv : stack.conversionError? (scan source).tokens with _ | e <;>
      rw [hconv] at hp
    · cases hp
      refine ⟨parse_sound hparse, ?_⟩
      simpa [Stack.conversionError?] using hconv
    · cases hp
  · rintro ⟨hs, hover⟩
    obtain ⟨p, hp, rfl⟩ := parse_complete hs file
    exact ⟨p, by simp [readProgram, hp, Stack.conversionError?, hover], rfl⟩

/-- A sentence whose conversion takes a level past the host's stack fails with the host's
recursion error. -/
theorem readProgram_of_overflow {stack : Stack} {source : CodeString} {prog : List Node}
    (hs : Sentence source prog) {u : StackUse}
    (hu : stack.overflow? (scan source).tokens = some u) (file : Option CodeString) :
    readProgram stack source file = .error (.host ⟨.recursionError, u.message⟩) := by
  obtain ⟨p, hp, -⟩ := parse_complete hs file
  simp [readProgram, hp, Stack.conversionError?, hu]

/-! ## Programs nested past the stack -/

/-- The calls "A(A(…A()…))", `n` deep. -/
def nested : Nat → List CodePoint
  | 0 => []
  | n + 1 => .char 'A' :: .char '(' :: nested n ++ [.char ')']

/-- The tokens of the nested calls. -/
def nestedLexemes : Nat → List Lexeme
  | 0 => []
  | n + 1 => (.name, [.char 'A']) :: (.lparen, [.char '(']) :: nestedLexemes n ++
      [(.rparen, [.char ')'])]

/-- The nested calls as a tree, `n + 1` deep. -/
def nestedNode : Nat → Node
  | 0 => .call ⟨[.char 'A']⟩ []
  | n + 1 => .call ⟨[.char 'A']⟩ [nestedNode n]

theorem tokenizes_nested (n : Nat) {rest : List CodePoint} {ts : List Lexeme}
    (h : Tokenizes rest ts) : Tokenizes (nested n ++ rest) (nestedLexemes n ++ ts) := by
  induction n generalizing rest ts with
  | zero => exact h
  | succ n ih =>
    have hr : Tokenizes (.char ')' :: rest) ((.rparen, [.char ')']) :: ts) :=
      (tokenizes_token_iff (n := 1) rfl _).mpr ⟨ts, rfl, h⟩
    have hm := ih hr
    have hl : Tokenizes (.char '(' :: (nested n ++ .char ')' :: rest))
        ((.lparen, [.char '(']) :: (nestedLexemes n ++ (.rparen, [.char ')']) :: ts)) :=
      (tokenizes_token_iff (n := 1) rfl _).mpr ⟨_, rfl, hm⟩
    have ha : Tokenizes (.char 'A' :: .char '(' :: (nested n ++ .char ')' :: rest))
        ((.name, [.char 'A']) :: (.lparen, [.char '(']) ::
          (nestedLexemes n ++ (.rparen, [.char ')']) :: ts)) :=
      (tokenizes_token_iff (n := 1) rfl _).mpr ⟨_, rfl, hl⟩
    simpa [nested, nestedLexemes] using ha

theorem derives_nested (n : Nat) : Derives (nestedLexemes (n + 1)) (nestedNode n) := by
  induction n with
  | zero => exact .callEmpty
  | succ n ih => exact .call (.one ih)

@[simp] theorem Stack.exceeds_nil (s : Stack) (d : Nat) : s.exceeds d [] = none := rfl

@[simp] theorem Stack.uses_lparen (opens : Bool) : Stack.uses .lparen opens = [] := rfl

@[simp] theorem Stack.uses_sep (opens : Bool) : Stack.uses .sep opens = [] := rfl

/-- A name followed by a parenthesis, read within two levels of the limit, takes a level
past it. -/
theorem exceeds_call_isSome {s : Stack} {d : Nat} (h : s.limit < d + 2) :
    (s.exceeds d (Stack.uses .name true)).isSome := by
  rw [Option.isSome_iff_ne_none, Ne, Stack.exceeds, List.getElem?_eq_none_iff]
  simp only [Stack.uses, if_true, List.length_cons, List.length_nil]
  omega

/-- Converting a call first takes the levels of its name, then those inside its
parentheses, one level deeper. -/
theorem overflowFrom_call (s : Stack) (level : Nat) {ta tl : Token} (toks : List Token)
    (hka : ta.kind = .name) (hkl : tl.kind = .lparen) :
    s.overflowFrom level (ta :: tl :: toks) =
      (s.exceeds (s.base + 2 * level) (Stack.uses .name true)).or
        (s.overflowFrom (level + 1) toks) := by
  rcases hx : s.exceeds (s.base + 2 * level) (Stack.uses .name true) with _ | u <;>
    simp [Stack.overflowFrom, hka, hkl, hx]

/-- Calls nested `n + 1` deep from `level` take a level past the limit when the deepest is
read within two levels of it. -/
theorem overflowFrom_nested (s : Stack) (n : Nat) :
    ∀ (level : Nat) (toks : List Token) (more : List Lexeme),
      toks.map Token.view = nestedLexemes (n + 1) ++ more →
      s.limit < s.base + 2 * (level + n) + 2 → (s.overflowFrom level toks).isSome := by
  induction n with
  | zero =>
    intro level toks more hv hlim
    rw [nestedLexemes, List.cons_append, List.cons_append] at hv
    obtain ⟨ta, toks, rfl, hka, -, hv⟩ := map_view_eq_cons hv
    obtain ⟨tl, toks, rfl, hkl, -, -⟩ := map_view_eq_cons hv
    rw [overflowFrom_call s level toks hka hkl, Option.isSome_or,
      exceeds_call_isSome (by omega), Bool.true_or]
  | succ n ih =>
    intro level toks more hv hlim
    rw [nestedLexemes, List.cons_append, List.cons_append] at hv
    obtain ⟨ta, toks, rfl, hka, -, hv⟩ := map_view_eq_cons hv
    obtain ⟨tl, toks, rfl, hkl, -, hv⟩ := map_view_eq_cons hv
    -- the calls inside the parentheses are one level deeper
    have hin := ih (level + 1) toks ((.rparen, [.char ')']) :: more) (by simpa using hv)
      (by omega)
    rw [overflowFrom_call s level toks hka hkl, Option.isSome_or, hin, Bool.or_true]

/-- A bare name, a separator, and calls nested `n + 1` deep. -/
def nestedProgram (n : Nat) : CodeString :=
  ⟨[.char 'N', .char 'O', .char 'P', .char 'E', .char ':'] ++ nested (n + 1)⟩

theorem tokenizes_nestedProgram (n : Nat) :
    Tokenizes (nestedProgram n).points
      ((.name, [.char 'N', .char 'O', .char 'P', .char 'E']) :: (.sep, [.char ':']) ::
        nestedLexemes (n + 1)) := by
  have hnest : Tokenizes (nested (n + 1)) (nestedLexemes (n + 1)) := by
    simpa using tokenizes_nested (n + 1) Tokenizes.nil
  have hsep : Tokenizes (.char ':' :: nested (n + 1))
      ((.sep, [.char ':']) :: nestedLexemes (n + 1)) :=
    (tokenizes_token_iff (n := 1) rfl _).mpr ⟨_, rfl, hnest⟩
  exact (tokenizes_token_iff (n := 4) rfl _).mpr ⟨_, rfl, hsep⟩

theorem nestedProgram_sentence (n : Nat) :
    Sentence (nestedProgram n)
      [.call ⟨[.char 'N', .char 'O', .char 'P', .char 'E']⟩ [], nestedNode n] :=
  ⟨_, tokenizes_nestedProgram n, Or.inr ⟨[], _, [], by simp, Or.inl rfl,
    Separated.snoc (s := [.char ':']) (.one .bare) (derives_nested n), Or.inl rfl⟩⟩

/-- Calls nested deeper than half the stack take a level past its limit. -/
theorem nestedProgram_overflows (s : Stack) (n : Nat) (h : s.limit < s.base + 2 * n + 2) :
    (s.overflow? (scan (nestedProgram n)).tokens).isSome := by
  obtain ⟨-, hv⟩ := (scan_iff _ _).mp (tokenizes_nestedProgram n)
  obtain ⟨tn, toks, htoks, hkn, -, hv⟩ := map_view_eq_cons hv
  obtain ⟨tc, toks, rfl, hkc, -, hv⟩ := map_view_eq_cons hv
  have hin := overflowFrom_nested s n 0 toks [] (by simpa using hv) (by omega)
  have hopen : (TokenKind.sep == TokenKind.lparen) = false := rfl
  rw [Stack.overflow?, htoks]
  -- the bare name keeps within the stack or already takes a level past it
  rcases hx : s.exceeds s.base (Stack.uses .name false) with _ | u
  · simp [Stack.overflowFrom, hkn, hkc, hopen, hx, hin]
  · simp [Stack.overflowFrom, hkn, hkc, hopen, hx]

/-- A bare name before calls nested a thousand deep is a sentence of the grammar, yet under a
stack of a thousand levels it is not read as a program but fails with the host's recursion
error, wherever the conversion starts. -/
theorem nested_sentence_overflows :
    Sentence (nestedProgram 999)
        [.call ⟨[.char 'N', .char 'O', .char 'P', .char 'E']⟩ [], nestedNode 999] ∧
      ∀ (base : Nat) (file : Option CodeString), ∃ u : StackUse,
        readProgram ⟨base, 1000⟩ (nestedProgram 999) file =
          .error (.host ⟨.recursionError, u.message⟩) := by
  refine ⟨nestedProgram_sentence 999, fun base file => ?_⟩
  have hover := nestedProgram_overflows ⟨base, 1000⟩ 999 (by simp only; omega)
  obtain ⟨u, hu⟩ := Option.isSome_iff_exists.mp hover
  exact ⟨u, readProgram_of_overflow (nestedProgram_sentence 999) hu file⟩

end CallBasic
