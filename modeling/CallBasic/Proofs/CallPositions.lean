import CallBasic.Proofs.ParseSound
/-!
# Where the calls of a program stand

Every call of a parsed program, at any depth, has the code points and the position of a
name token of its source (`parse_calls_at_names`): the position a runtime error of that call
reports is where its name is written.

The parser keeps the invariant `ParseState.Located`: the expressions it has finished, the
calls it holds open with their arguments so far, and a pending name all stand at name tokens
read so far. A name token becomes the pending name, which a parenthesis turns into an open
call or any other token into a call without arguments; a closing parenthesis hands the
innermost open call on as an expression. Each step keeps the invariant
(`ParseState.Located.step`), and so does every run (`ParseState.Located.run`).
-/

namespace CallBasic

/-- Every call of an expression, at any depth, satisfies `P` of its name and position. -/
inductive Expr.Every (P : CodeString → Pos → Prop) : Expr → Prop
  | lit {v : Value} {pos : Pos} : Expr.Every P (.lit v pos)
  | call {name : CodeString} {args : List Expr} {pos : Pos} (here : P name pos)
      (inner : ∀ a ∈ args, Expr.Every P a) : Expr.Every P (.call name args pos)

theorem Expr.Every.mono {P Q : CodeString → Pos → Prop} (hPQ : ∀ n p, P n p → Q n p)
    {e : Expr} (h : e.Every P) : e.Every Q := by
  induction h with
  | lit => exact .lit
  | call here _ ih => exact .call (hPQ _ _ here) ih

/-- A name token among `toks` has the code points `n` and stands at `pos` in `file`. -/
def NameAt (file : Option CodeString) (toks : List Token) (n : CodeString) (pos : Pos) : Prop :=
  ∃ t ∈ toks, t.kind = .name ∧ t.lexeme = n ∧ pos = ⟨file, t.line, t.column⟩

theorem NameAt.mono {file : Option CodeString} {toks toks' : List Token} (hs : toks ⊆ toks')
    {n : CodeString} {pos : Pos} (h : NameAt file toks n pos) : NameAt file toks' n pos := by
  obtain ⟨t, ht, hk, hn, hp⟩ := h
  exact ⟨t, hs ht, hk, hn, hp⟩

theorem literalOf_every (P : CodeString → Pos → Prop) (t : Token) (pos : Pos) :
    (literalOf t pos).Every P := by
  unfold literalOf
  split <;> exact .lit

/-- Every call the parser holds stands at a name token read so far: the finished expressions,
the open calls with their arguments, and the pending name. -/
structure ParseState.Located (file : Option CodeString) (toks : List Token) (st : ParseState) :
    Prop where
  done : ∀ e ∈ st.done, e.Every (NameAt file toks)
  frames : ∀ f ∈ st.frames, NameAt file toks f.name f.pos ∧ ∀ e ∈ f.args, e.Every (NameAt file toks)
  pending : ∀ n p, st.pending = some (n, p) → NameAt file toks n p

namespace ParseState.Located

variable {file : Option CodeString} {toks : List Token}

theorem initial : ParseState.initial.Located file toks :=
  ⟨by simp [ParseState.initial], by simp [ParseState.initial], by simp [ParseState.initial]⟩

/-- Reading more tokens keeps every call where it stands. -/
theorem mono {toks' : List Token} (hs : toks ⊆ toks') {st : ParseState}
    (h : st.Located file toks) : st.Located file toks' where
  done e he := (h.done e he).mono fun _ _ => NameAt.mono hs
  frames f hf := ⟨(h.frames f hf).1.mono hs,
    fun e he => ((h.frames f hf).2 e he).mono fun _ _ => NameAt.mono hs⟩
  pending n p hp := (h.pending n p hp).mono hs

theorem deliver {st : ParseState} (h : st.Located file toks) {e : Expr}
    (he : e.Every (NameAt file toks)) : (st.deliver e).Located file toks := by
  rcases hfr : st.frames with _ | ⟨f, fs⟩
  · rw [ParseState.deliver_of_no_frames hfr]
    refine ⟨?_, by simp [hfr], h.pending⟩
    intro e' he'
    rcases List.mem_cons.mp he' with rfl | he'
    · exact he
    · exact h.done e' he'
  · -- the expression becomes the innermost call's next argument
    rw [ParseState.deliver_of_frames hfr]
    refine ⟨h.done, ?_, h.pending⟩
    have hf := h.frames f (by simp [hfr])
    intro g hg
    rcases List.mem_cons.mp hg with rfl | hg
    · refine ⟨hf.1, fun e' he' => ?_⟩
      rcases List.mem_cons.mp he' with rfl | he'
      · exact he
      · exact hf.2 e' he'
    · exact h.frames g (by simp [hfr, hg])

theorem settle {st : ParseState} (h : st.Located file toks) : st.settle.Located file toks := by
  rcases hp : st.pending with _ | ⟨n, p⟩
  · rw [ParseState.settle_of_none hp]
    exact h
  · -- the pending name is finished as a call without arguments
    have h' : ({ st with pending := none } : ParseState).Located file toks :=
      ⟨h.done, h.frames, by simp⟩
    simp only [ParseState.settle, hp]
    exact h'.deliver (.call (h.pending n p hp) (by simp))

theorem accept {st st' : ParseState} {t : Token} (h : st.Located file toks)
    (hacc : st.accept file t = some st') : st'.Located file (toks ++ [t]) := by
  have h' := h.mono (List.subset_append_left toks [t])
  unfold ParseState.accept at hacc
  rcases hk : t.kind with _ | _ | _ | _ | _ | _ | _ <;> simp only [hk] at hacc
  case name =>
    split at hacc
    · cases hacc
      exact ⟨h'.done, h'.frames, fun n p hp => by
        cases hp
        exact ⟨t, by simp, hk, rfl, rfl⟩⟩
    · cases hacc
  case number =>
    split at hacc
    · cases hacc
      exact h'.deliver (literalOf_every _ t _)
    · cases hacc
  case text =>
    split at hacc
    · cases hacc
      exact h'.deliver (literalOf_every _ t _)
    · cases hacc
  case sep =>
    rcases hfr : st.frames with _ | ⟨f, fs⟩ <;> rcases ho : st.outer with _ | _ | _ <;>
      simp [hfr, ho] at hacc <;> subst hacc <;> exact ⟨h'.done, by simp, h'.pending⟩
  case comma =>
    rcases hfr : st.frames with _ | ⟨f, fs⟩ <;> simp only [hfr, reduceCtorEq] at hacc
    split at hacc
    · cases hacc
      refine ⟨h'.done, ?_, h'.pending⟩
      intro g hg
      rcases List.mem_cons.mp hg with rfl | hg
      · exact h'.frames f (by simp [hfr])
      · exact h'.frames g (by simp [hfr, hg])
    · cases hacc
  case rparen =>
    rcases hfr : st.frames with _ | ⟨f, fs⟩ <;> simp only [hfr, reduceCtorEq] at hacc
    split at hacc
    · cases hacc
    · cases hacc
      -- the innermost call is closed and handed on with its arguments
      have hf := h'.frames f (by simp [hfr])
      have hs : ({ st with frames := fs } : ParseState).Located file (toks ++ [t]) :=
        ⟨h'.done, fun g hg => h'.frames g (by simp [hfr, hg]), h'.pending⟩
      exact hs.deliver (.call hf.1 (fun a ha => hf.2 a (List.mem_reverse.mp ha)))
  case lparen => cases hacc

/-- The step lemma: reading a token keeps every call at a name token read. -/
theorem step {st st' : ParseState} {t : Token} (h : st.Located file toks)
    (hs : st.step file t = some st') : st'.Located file (toks ++ [t]) := by
  rcases hp : st.pending with _ | ⟨n, p⟩
  · rw [ParseState.step_of_none hp] at hs
    exact h.accept hs
  by_cases hk : t.kind = .lparen
  · -- the pending name opens a call
    simp only [ParseState.step, hp, hk] at hs
    cases hs
    have h' := h.mono (List.subset_append_left toks [t])
    refine ⟨h'.done, ?_, by simp⟩
    intro g hg
    rcases List.mem_cons.mp hg with rfl | hg
    · exact ⟨h'.pending n p hp, by simp⟩
    · exact h'.frames g hg
  · rw [ParseState.step_of_not_lparen st hk] at hs
    exact h.settle.accept hs

/-- The run lemma: reading tokens keeps every call at a name token read. -/
theorem run {st st' : ParseState} {ts : List Token} (h : st.Located file toks)
    (hr : ParseState.run file st ts = .ok st') : st'.Located file (toks ++ ts) := by
  induction ts generalizing st toks with
  | nil =>
    cases hr
    simpa using h
  | cons t ts ih =>
    rw [ParseState.run_cons] at hr
    rcases hs : st.step file t with _ | s <;> rw [hs] at hr
    · cases hr
    · simpa using ih (h.step hs) hr

end ParseState.Located

/-- Every call of a parsed program, at any depth, has the code points and the position of a
name token of the source. -/
theorem parse_calls_at_names {source : CodeString} {file : Option CodeString} {prog : List Expr}
    (h : parse source file = .ok prog) :
    ∀ e ∈ prog, e.Every (NameAt file (scan source).tokens) := by
  unfold parse at h
  rcases hr : ParseState.run file .initial (scan source).tokens with t | st <;>
    simp only [hr] at h
  · cases h
  rcases hstop : (scan source).stop with _ | ⟨c, l, k⟩ <;> simp only [hstop] at h
  · split at h
    · cases h
      have hl : st.settle.Located file ([] ++ (scan source).tokens) :=
        (ParseState.Located.initial.run hr).settle
      intro e he
      exact hl.done e (List.mem_reverse.mp he)
    · split at h <;> cases h
  · cases h

end CallBasic
