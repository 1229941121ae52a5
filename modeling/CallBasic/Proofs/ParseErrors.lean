import CallBasic.Proofs.Lexing
import CallBasic.Proofs.ReadProgram
/-!
# Why a source is not a program

A source the parser rejects is rejected for one of three reasons, in this order. Some token
may make what has been read no viable prefix of the grammar, no longer the start of any
program (`Viable`): the first such token is the error, whatever follows. Otherwise the scan
may have stopped at a code point where no token starts: that code point is the error.
Otherwise the source ends inside the parentheses of a call still open (`Unclosed`): the error
is the end of the source, at the position of its last token. `Rejected` says this of the
tokens read up to the stop (`Lexes`), and the parser rejects a source exactly as it says
(`parse_error_iff`), with the file it was given (`readProgram_parse_failure`).

The proof rests on two facts about the parser. What it has read without refusing a token is a
viable prefix (`ParseState.Reads.viable`): settle a pending name, give the innermost call an
argument if it waits after a comma, close it, and so on outwards, and the invariant of
soundness makes the result a program. Conversely the parser reads every viable prefix, since
it reads the whole program the prefix starts (`run_ok_of_viable`). So the token it refuses is
the first after which no program can follow. Its open calls are the opening parentheses read
less the closing ones (`ParseState.run_frames_length`), so a source read to its end without a
refused token is a sentence exactly when it leaves no call open (`sentence_iff_closed`).
-/

namespace CallBasic

/-! ## Viable prefixes -/

/-- Lexemes that some lexemes after them make a program. -/
def Viable (ts : List Lexeme) : Prop :=
  ∃ rest prog, DerivesProgram (ts ++ rest) prog

theorem Viable.of_append {ts us : List Lexeme} (h : Viable (ts ++ us)) : Viable ts := by
  obtain ⟨rest, prog, hd⟩ := h
  exact ⟨us ++ rest, prog, by rwa [← List.append_assoc]⟩

/-- More calls are opened than closed: the tokens end inside the parentheses of a call. -/
def Unclosed (ts : List Token) : Prop :=
  ts.countP (fun t => t.kind == .rparen) < ts.countP (fun t => t.kind == .lparen)

/-! ## Open calls -/

namespace ParseState

variable {file : Option CodeString}

@[simp] theorem deliver_frames_length (st : ParseState) (e : Expr) :
    (st.deliver e).frames.length = st.frames.length := by
  unfold deliver
  split <;> simp_all

@[simp] theorem settle_frames_length (st : ParseState) :
    st.settle.frames.length = st.frames.length := by
  unfold settle
  split <;> simp

/-- Accepting a token closes a call at a closing parenthesis and keeps the open calls at any
other token. -/
theorem accept_frames_length {st st' : ParseState} {t : Token} (h : st.accept file t = some st') :
    st'.frames.length + (if t.kind = .rparen then 1 else 0) = st.frames.length := by
  unfold accept at h
  rcases hk : t.kind with _ | _ | _ | _ | _ | _ | _ <;> simp only [hk] at h
  case rparen =>
    rcases hfr : st.frames with _ | ⟨f, fs⟩ <;> simp only [hfr, reduceCtorEq] at h
    split at h
    · cases h
    · cases h
      simp
  case sep =>
    rcases hfr : st.frames with _ | ⟨f, fs⟩ <;> rcases ho : st.outer with _ | _ | _ <;>
      simp [hfr, ho] at h <;> subst h <;> simp
  case comma =>
    rcases hfr : st.frames with _ | ⟨f, fs⟩ <;> simp only [hfr, reduceCtorEq] at h
    split at h
    · cases h
      simp
    · cases h
  case lparen => cases h
  all_goals
    split at h
    · cases h
      simp
    · cases h

/-- The step lemma: a step opens a call at an opening parenthesis, closes one at a closing
parenthesis, and keeps the open calls at any other token. -/
theorem step_frames_length {st st' : ParseState} {t : Token} (h : st.step file t = some st') :
    st'.frames.length + (if t.kind = .rparen then 1 else 0) =
      st.frames.length + (if t.kind = .lparen then 1 else 0) := by
  by_cases hk : t.kind = .lparen
  · rcases hp : st.pending with _ | ⟨n, p⟩
    · rw [step_of_none hp] at h
      simp [accept, hk] at h
    · simp only [step, hp, hk] at h
      cases h
      simp [hk]
  · rw [step_of_not_lparen st hk] at h
    rw [accept_frames_length h, settle_frames_length, if_neg hk, Nat.add_zero]

/-- The run lemma: over a run the open calls grow by the opening parentheses read and shrink by
the closing ones. -/
theorem run_frames_length {st st' : ParseState} {toks : List Token}
    (h : run file st toks = .ok st') :
    st'.frames.length + toks.countP (fun t => t.kind == .rparen) =
      st.frames.length + toks.countP (fun t => t.kind == .lparen) := by
  induction toks generalizing st with
  | nil =>
    cases h
    simp
  | cons t toks ih =>
    rw [run_cons] at h
    rcases hs : st.step file t with _ | s <;> rw [hs] at h
    · cases h
    · have hstep := step_frames_length hs
      have hrun := ih h
      simp only [List.countP_cons, beq_iff_eq] at hrun ⊢
      omega

/-! ## Runs that stop -/

theorem run_append (st : ParseState) (a b : List Token) :
    run file st (a ++ b) = (run file st a).bind fun st' => run file st' b := by
  induction a generalizing st with
  | nil => rfl
  | cons t a ih =>
    rw [List.cons_append, run_cons, run_cons]
    cases st.step file t with
    | none => rfl
    | some st' => exact ih st'

/-- A run stops at a token that the state reached before it refuses. -/
theorem run_error {st : ParseState} {toks : List Token} {t : Token}
    (h : run file st toks = .error t) :
    ∃ pre post st', toks = pre ++ t :: post ∧ run file st pre = .ok st' ∧
      st'.step file t = none := by
  induction toks generalizing st with
  | nil => cases h
  | cons u toks ih =>
    rw [run_cons] at h
    rcases hs : st.step file u with _ | s <;> rw [hs] at h
    · cases h
      exact ⟨[], toks, st, rfl, rfl, hs⟩
    · obtain ⟨pre, post, st', rfl, hpre, hstep⟩ := ih h
      exact ⟨u :: pre, post, st', rfl, by rw [run_cons_of_step hs, hpre], hstep⟩

end ParseState

/-! ## What the parser reads is viable -/

namespace ParseState.Reads

/-- With no name pending, what has been read is finished as a program by closing the open
calls from the innermost out, each after an argument if it waits after a comma. -/
theorem viable_of_settled {st : ParseState} {ts : List Lexeme} (h : st.Reads ts)
    (hp : st.pending = none) : Viable ts := by
  -- induction on the number of open calls
  induction hn : st.frames.length generalizing st ts with
  | zero =>
    exact ⟨[], _, by rw [List.append_nil]; exact h.program hp (List.eq_nil_of_length_eq_zero hn)⟩
  | succ n ih =>
    obtain ⟨f, fs, hfr⟩ : ∃ f fs, st.frames = f :: fs := by
      cases hfr : st.frames with
      | nil => simp [hfr] at hn
      | cons f fs => exact ⟨f, fs, rfl⟩
    -- the innermost call first gets an argument when it waits after a comma
    obtain ⟨S, us, g, hS, hSp, hSfr, hSs⟩ : ∃ (S : ParseState) (us : List Lexeme) (g : Frame),
        S.Reads (ts ++ us) ∧ S.pending = none ∧ S.frames = g :: fs ∧ g.stage ≠ .comma := by
      by_cases hs : f.stage = .comma
      · have he : st.expectsExpr = true := by simp [ParseState.expectsExpr, hfr, hs]
        have hd : (st.deliver (.call ⟨[]⟩ [] ⟨none, 0, 0⟩)).Reads (ts ++ [(.name, [])]) :=
          h.deliver hp he Derives.bare
        exact ⟨_, _, { f with args := .call ⟨[]⟩ [] ⟨none, 0, 0⟩ :: f.args, stage := .argument },
          hd, by simp [hp], by rw [ParseState.deliver_of_frames hfr], by simp⟩
      · exact ⟨st, [], f, by simpa using h, hp, hfr, hs⟩
    -- then it is closed, which leaves one call fewer open
    have hc := hS.close hSp hSfr hSs []
    have hv := ih hc (by simp [hSp]) (by simp; simp [hfr] at hn; omega)
    exact (hv.of_append).of_append

/-- What the parser has read can always be finished as a program. -/
theorem viable {st : ParseState} {ts : List Lexeme} (h : st.Reads ts) : Viable ts :=
  h.settle.viable_of_settled (ParseState.settle_pending st)

end ParseState.Reads

section

variable (file : Option CodeString)

/-- The well-formed tokens the parser reads from the start without refusing one are a viable
prefix. -/
theorem viable_of_run {toks : List Token} (hw : ∀ t ∈ toks, t.WellFormed) {st : ParseState}
    (hr : ParseState.run file .initial toks = .ok st) : Viable (toks.map Token.view) := by
  simpa using (ParseState.Reads.initial.run hw hr).viable

/-- The parser reads a viable prefix without refusing a token: it reads the whole program that
the prefix starts. -/
theorem run_ok_of_viable {toks : List Token} (h : Viable (toks.map Token.view)) :
    ∃ st, ParseState.run file .initial toks = .ok st := by
  obtain ⟨rest, prog, hd⟩ := h
  -- the lexemes after the prefix, as tokens at any position
  have hv : (toks ++ rest.map fun x => (⟨x.1, ⟨x.2⟩, 0, 0⟩ : Token)).map Token.view =
      toks.map Token.view ++ rest := by
    simp [Function.comp_def, Token.view]
  obtain ⟨S, hrun, -, -⟩ := run_program file hd hv
  rw [ParseState.run_append] at hrun
  rcases hr : ParseState.run file .initial toks with t | st
  · rw [hr] at hrun
    cases hrun
  · exact ⟨st, rfl⟩

/-- A run from the start leaves open the calls whose parentheses are not closed. -/
theorem frames_length_of_run {toks : List Token} {st : ParseState}
    (hr : ParseState.run file .initial toks = .ok st) :
    st.frames.length + toks.countP (fun t => t.kind == .rparen) =
      toks.countP (fun t => t.kind == .lparen) := by
  simpa [ParseState.initial] using ParseState.run_frames_length hr

end

/-! ## The three reasons -/

/-- Why tokens read up to `stop` are no program, as the grammar says. A token after which what
has been read is no viable prefix, the first such, is refused; if there is none, the code point
where the reading stopped is; if the reading reached the end, the end is, when a call is still
open there, at the position of the last token. -/
inductive Rejected (ts : List Token) : Option (CodePoint × Nat × Nat) → ParseError → Prop
  | token {stop : Option (CodePoint × Nat × Nat)} {pre : List Token} {t : Token}
      {post : List Token} (split : ts = pre ++ t :: post) (viable : Viable (pre.map Token.view))
      (stuck : ¬Viable ((pre ++ [t]).map Token.view)) :
      Rejected ts stop (.unexpectedToken t.lexeme t.line t.column)
  | char {c : CodePoint} {line column : Nat} (viable : Viable (ts.map Token.view)) :
      Rejected ts (some (c, line, column)) (.unexpectedChar c line column)
  | incomplete {t : Token} (viable : Viable (ts.map Token.view)) (unclosed : Unclosed ts)
      (last : ts.getLast? = some t) : Rejected ts none (.incomplete t.line t.column)

/-- A state reached by a viable prefix refuses the next token exactly when the prefix with it
is not viable. -/
theorem step_none_iff {file : Option CodeString} {pre : List Token} {t : Token}
    (hw : ∀ u ∈ pre ++ [t], u.WellFormed) {st : ParseState}
    (hr : ParseState.run file .initial pre = .ok st) :
    st.step file t = none ↔ ¬Viable ((pre ++ [t]).map Token.view) := by
  constructor
  · intro hs hv
    obtain ⟨st', hr'⟩ := run_ok_of_viable file hv
    rw [ParseState.run_append, hr] at hr'
    simp [Except.bind, ParseState.run_cons, hs] at hr'
  · intro hv
    rcases hs : st.step file t with _ | s
    · rfl
    · have hrun : ParseState.run file .initial (pre ++ [t]) = .ok s := by
        rw [ParseState.run_append, hr]
        simp [Except.bind, ParseState.run_cons, hs]
      exact absurd (viable_of_run file hw hrun) hv

/-- After a run from the start, no call is open once a pending name is settled exactly when
the tokens leave no call open. -/
theorem settle_frames_eq_nil_iff (file : Option CodeString) {toks : List Token}
    {st : ParseState} (hr : ParseState.run file .initial toks = .ok st) :
    st.settle.frames = [] ↔ ¬Unclosed toks := by
  have hcount := frames_length_of_run file hr
  rw [← List.length_eq_zero_iff, ParseState.settle_frames_length]
  unfold Unclosed
  omega

/-- Tokens that leave a call open have a last token. -/
theorem Unclosed.exists_last {ts : List Token} (h : Unclosed ts) : ∃ t, ts.getLast? = some t := by
  cases hlast : ts.getLast? with
  | none =>
    rw [List.getLast?_eq_none_iff] at hlast
    subst hlast
    simp [Unclosed] at h
  | some t => exact ⟨t, rfl⟩

/-- A token and what stands before it are among the tokens. -/
theorem split_prefix_subset {pre post : List Token} {t : Token} : pre ++ [t] ⊆ pre ++ t :: post := by
  intro u hu
  rcases List.mem_append.mp hu with h | h
  · exact List.mem_append_left _ h
  · exact List.mem_append_right _ (List.mem_cons.mpr (Or.inl (List.mem_singleton.mp h)))

section

variable {source : CodeString} {ts : List Token} {stop : Option (CodePoint × Nat × Nat)}

/-- Every way the parser rejects a source is one of the three reasons. -/
theorem rejected_of_parse_error (hl : Lexes [] source.points ts stop) {file : Option CodeString}
    {e : ParseError} (h : parse source file = .error e) : Rejected ts stop e := by
  obtain ⟨hts, hstop⟩ := (lexes_iff_scan source ts stop).mp hl
  have hw := hl.wellFormed
  simp only [parse, hts, hstop] at h
  rcases hr : ParseState.run file .initial ts with t | st <;> rw [hr] at h
  · -- a refused token: the first after which no program can follow
    cases h
    obtain ⟨pre, post, st', rfl, hpre, hstep⟩ := ParseState.run_error hr
    have hwp : ∀ u ∈ pre ++ [t], u.WellFormed := fun u hu => hw u (split_prefix_subset hu)
    exact .token rfl (viable_of_run file (fun u hu => hwp u (by simp [hu])) hpre)
      ((step_none_iff hwp hpre).mp hstep)
  · have hv := viable_of_run file hw hr
    rcases stop with _ | ⟨c, l, k⟩
    · simp only at h
      split at h
      · cases h
      · rename_i hne
        -- the end of the source, inside a call still open
        have hu : Unclosed ts := by
          by_contra hc
          have hf := (settle_frames_eq_nil_iff file hr).mpr hc
          simp [hf] at hne
        obtain ⟨t, hlast⟩ := hu.exists_last
        rw [hlast] at h
        cases h
        exact .incomplete hv hu hlast
    · cases h
      exact .char hv

/-- Each of the three reasons is how the parser rejects the source. -/
theorem parse_error_of_rejected (hl : Lexes [] source.points ts stop) (file : Option CodeString)
    {e : ParseError} (h : Rejected ts stop e) : parse source file = .error e := by
  obtain ⟨hts, hstop⟩ := (lexes_iff_scan source ts stop).mp hl
  have hw := hl.wellFormed
  simp only [parse, hts, hstop]
  cases h with
  | @token _ pre t post split viable stuck =>
    subst split
    obtain ⟨st, hr⟩ := run_ok_of_viable file viable
    have hwp : ∀ u ∈ pre ++ [t], u.WellFormed := fun u hu => hw u (split_prefix_subset hu)
    have hstep := (step_none_iff hwp hr).mpr stuck
    rw [ParseState.run_append, hr]
    simp [Except.bind, ParseState.run_cons, hstep]
  | char viable =>
    obtain ⟨st, hr⟩ := run_ok_of_viable file viable
    rw [hr]
  | incomplete viable unclosed last =>
    obtain ⟨st, hr⟩ := run_ok_of_viable file viable
    have hne : st.settle.frames ≠ [] := fun hf => (settle_frames_eq_nil_iff file hr).mp hf unclosed
    simp [hr, hne, last]

/-- The parser rejects a source exactly as `Rejected` says of the tokens read up to where the
scan stops. -/
theorem parse_error_iff (hl : Lexes [] source.points ts stop) (file : Option CodeString)
    (e : ParseError) : parse source file = .error e ↔ Rejected ts stop e :=
  ⟨rejected_of_parse_error hl, parse_error_of_rejected hl file⟩

/-- A source read to its end as a viable prefix is a sentence exactly when it leaves no call
open. -/
theorem sentence_iff_closed (hl : Lexes [] source.points ts none)
    (hv : Viable (ts.map Token.view)) : (∃ prog, Sentence source prog) ↔ ¬Unclosed ts := by
  constructor
  · rintro ⟨prog, hs⟩ hu
    obtain ⟨p, hp, -⟩ := parse_complete hs none
    -- an open call would make the end of the source the error
    obtain ⟨t, ht⟩ := hu.exists_last
    have he := parse_error_of_rejected hl none (.incomplete hv hu ht)
    rw [hp] at he
    cases he
  · intro hc
    obtain ⟨st, hr⟩ := run_ok_of_viable none hv
    obtain ⟨hts, hstop⟩ := (lexes_iff_scan source ts none).mp hl
    have hf := (settle_frames_eq_nil_iff none hr).mpr hc
    have hp : parse source none = .ok st.settle.done.reverse := by
      simp [parse, hts, hstop, hr, hf]
    exact ⟨_, parse_sound hp⟩

end

/-! ## Reading a program -/

/-- Reading a source fails with a parse error exactly when the parser rejects it, and the
error names the file it was given. -/
theorem readProgram_parse_error_iff (stack : Stack) (source : CodeString)
    (file file' : Option CodeString) (e : ParseError) :
    readProgram stack source file = .error (.parse file' e) ↔
      file' = file ∧ parse source file = .error e := by
  unfold readProgram
  rcases hp : parse source file with e' | prog
  · simp only [Except.error.injEq, Failure.parse.injEq]
    constructor
    · rintro ⟨rfl, rfl⟩
      exact ⟨rfl, rfl⟩
    · rintro ⟨rfl, rfl⟩
      exact ⟨rfl, rfl⟩
  · simp only [reduceCtorEq, and_false, iff_false]
    split <;> simp

/-- A program read from a source is what the parser makes of it. -/
theorem parse_of_readProgram_ok {stack : Stack} {source : CodeString} {file : Option CodeString}
    {prog : List Expr} (h : readProgram stack source file = .ok prog) :
    parse source file = .ok prog := by
  unfold readProgram at h
  rcases hp : parse source file with e | prog' <;> rw [hp] at h
  · cases h
  · cases hc : stack.conversionError? (scan source).tokens <;> rw [hc] at h <;> cases h
    rfl

/-- Reading a source fails as the parser rejects it, with the file it was given: the error is
the first token after which no program can follow, else the code point where the scan stopped,
else the end of the source inside a call still open, at the last token. -/
theorem readProgram_parse_failure (stack : Stack) {source : CodeString} (file : Option CodeString)
    {ts : List Token} {stop : Option (CodePoint × Nat × Nat)}
    (hl : Lexes [] source.points ts stop) (file' : Option CodeString) (e : ParseError) :
    readProgram stack source file = .error (.parse file' e) ↔ file' = file ∧ Rejected ts stop e := by
  rw [readProgram_parse_error_iff, parse_error_iff hl file e]

/-- A call left open by the end of the source is rejected there, at its last token. -/
theorem unclosed_call_rejected :
    Rejected (scan "F(G,").tokens (scan "F(G,").stop (.incomplete 1 4) :=
  ((readProgram_parse_failure ⟨0, 1000⟩ none (lexes_scan "F(G,") none (.incomplete 1 4)).mp
    rfl).2

end CallBasic
