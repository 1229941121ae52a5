import CallBasic.Proofs.Grammar
/-!
# Soundness of the parser

The parser reads the tokens one at a time into a state (`ParseState`). `ParseState.Reads st ts`
says what the state holds of the lexemes `ts` read so far: the expressions finished at the
outer level derive from its part of `ts`, separated by separators; each open call has read its
name, its parenthesis and its arguments separated by commas; a pending name is the last lexeme.
The invariant holds at the start (`Reads.initial`) and each kind of token keeps it
(`Reads.name`, `Reads.deliver` for a literal, `Reads.separator`, `Reads.comma`, `Reads.close`,
and `Reads.settle` for a name that turns out to be bare), so a step does (`Reads.step`) and so
does every run (`Reads.run`); once no call is open and no name pending it makes the lexemes a
program (`Reads.program`). Every program the parser returns is therefore a sentence of the
grammar (`parse_sound`).
-/

namespace CallBasic

/-! ## The parser, step by step -/

namespace ParseState

variable {file : Option CodeString}

@[simp] theorem run_nil (st : ParseState) : run file st [] = .ok st := rfl

theorem run_cons (st : ParseState) (t : Token) (ts : List Token) :
    run file st (t :: ts) = match st.step file t with
      | some st' => run file st' ts
      | none => .error t := rfl

theorem run_cons_of_step {st st' : ParseState} {t : Token} (h : st.step file t = some st')
    (ts : List Token) : run file st (t :: ts) = run file st' ts := by
  rw [run_cons, h]

@[simp] theorem settle_of_none {st : ParseState} (h : st.pending = none) : st.settle = st := by
  simp [settle, h]

theorem step_of_none {st : ParseState} (h : st.pending = none) (t : Token) :
    st.step file t = st.accept file t := by
  simp [step, h]

theorem step_of_not_lparen (st : ParseState) {t : Token} (h : t.kind ≠ .lparen) :
    st.step file t = st.settle.accept file t := by
  unfold step
  split
  · rename_i hk
    exact absurd hk h
  · rfl

@[simp] theorem deliver_pending (st : ParseState) (e : Expr) :
    (st.deliver e).pending = st.pending := by
  unfold deliver
  split <;> rfl

@[simp] theorem settle_pending (st : ParseState) : st.settle.pending = none := by
  unfold settle
  split
  · simp
  · assumption

theorem deliver_of_frames {st : ParseState} {f : Frame} {fs : List Frame}
    (h : st.frames = f :: fs) (e : Expr) :
    st.deliver e =
      { st with frames := { f with args := e :: f.args, stage := .argument } :: fs } := by
  simp [deliver, h]

theorem deliver_of_no_frames {st : ParseState} (h : st.frames = []) (e : Expr) :
    st.deliver e = { st with done := e :: st.done, outer := .afterExpr } := by
  simp [deliver, h]

end ParseState

/-! ## What the parser has read -/

/-- An open call has read its name, its parenthesis, and its arguments so far separated by
commas, the last comma included if it was just read. -/
def Frame.Reads (f : Frame) (ts : List Lexeme) : Prop :=
  ∃ l body, ts = (.name, f.name.points) :: (.lparen, l) :: body ∧
    match f.stage with
    | .opened => f.args = [] ∧ body = []
    | .argument => Separated .comma body (Expr.nodes f.args.reverse)
    | .comma => ∃ inner c, body = inner ++ [(.comma, c)] ∧
        Separated .comma inner (Expr.nodes f.args.reverse)

/-- The open calls, outermost first, have read consecutive parts of the lexemes. -/
def FramesRead : List Frame → List Lexeme → Prop
  | [], ts => ts = []
  | f :: fs, ts => ∃ us vs, ts = us ++ vs ∧ FramesRead fs us ∧ f.Reads vs

/-- The outer level has read its finished expressions separated by separators, with an
optional separator in front, and the separator just read when it stands after one. -/
def OuterReads (done : List Expr) : Outer → List Lexeme → Prop
  | .start, ts => done = [] ∧ ts = []
  | .ready, ts => ∃ pre s, ts = pre ++ [(.sep, s)] ∧ ((done = [] ∧ pre = []) ∨
      ∃ lead body, pre = lead ++ body ∧ OptSep lead ∧
        Separated .sep body (Expr.nodes done.reverse))
  | .afterExpr, ts => ∃ lead body, ts = lead ++ body ∧ OptSep lead ∧
      Separated .sep body (Expr.nodes done.reverse)

/-- A pending name is the last lexeme read. -/
def PendingReads : Option (CodeString × Pos) → List Lexeme → Prop
  | none, ts => ts = []
  | some (n, _), ts => ts = [(.name, n.points)]

/-- The invariant of the parser: the lexemes read so far are the outer level's, then the open
calls', then the pending name's; an open call stands only where an expression may start, and
so does a pending name. -/
structure ParseState.Reads (st : ParseState) (ts : List Lexeme) : Prop where
  parts : ∃ a b c, ts = a ++ b ++ c ∧ OuterReads st.done st.outer a ∧
    FramesRead st.frames b ∧ PendingReads st.pending c
  outerWaits : st.frames ≠ [] → st.outer ≠ .afterExpr
  framesWait : ∀ f ∈ st.frames.drop 1, f.stage ≠ .argument
  pendingWaits : st.pending ≠ none → st.expectsExpr = true

/-- An expression handed to the outer level where one may start extends what it has read. -/
theorem OuterReads.deliver {done : List Expr} {outer : Outer} {a us : List Lexeme} {x : Expr}
    (ho : OuterReads done outer a) (hout : outer ≠ .afterExpr) (hx : Derives us x.node) :
    OuterReads (x :: done) .afterExpr (a ++ us) := by
  simp only [OuterReads, List.reverse_cons, Expr.nodes_append, Expr.nodes_cons, Expr.nodes_nil]
  cases outer with
  | start =>
    obtain ⟨rfl, rfl⟩ := ho
    exact ⟨[], us, rfl, Or.inl rfl, .one hx⟩
  | ready =>
    obtain ⟨pre, s, rfl, ⟨rfl, rfl⟩ | ⟨lead, body, rfl, hlead, hbody⟩⟩ := ho
    · exact ⟨[(.sep, s)], us, rfl, Or.inr ⟨s, rfl⟩, .one hx⟩
    · exact ⟨lead, body ++ (.sep, s) :: us, by simp, hlead, .snoc hbody hx⟩
  | afterExpr => exact absurd rfl hout

/-- A separator read at the start or after an expression leaves the outer level ready for
the next one. -/
theorem OuterReads.sep {done : List Expr} {outer : Outer} {a : List Lexeme}
    (ho : OuterReads done outer a) (hout : outer ≠ .ready) (s : List CodePoint) :
    OuterReads done .ready (a ++ [(.sep, s)]) := by
  cases outer with
  | start =>
    obtain ⟨hd, rfl⟩ := ho
    exact ⟨[], s, rfl, Or.inl ⟨hd, rfl⟩⟩
  | ready => exact absurd rfl hout
  | afterExpr =>
    obtain ⟨lead, body, rfl, hlead, hbody⟩ := ho
    exact ⟨lead ++ body, s, rfl, Or.inr ⟨lead, body, rfl, hlead, hbody⟩⟩

/-- An expression handed to an open call that waits for one extends what the call has read. -/
theorem Frame.Reads.deliver {f : Frame} {vs us : List Lexeme} {x : Expr} (h : f.Reads vs)
    (hs : f.stage ≠ .argument) (hx : Derives us x.node) :
    ({ f with args := x :: f.args, stage := .argument } : Frame).Reads (vs ++ us) := by
  obtain ⟨l, body, rfl, hbody⟩ := h
  refine ⟨l, body ++ us, by simp, ?_⟩
  simp only [List.reverse_cons, Expr.nodes_append, Expr.nodes_cons, Expr.nodes_nil]
  rcases hst : f.stage with _ | _ | _
  · rw [hst] at hbody
    obtain ⟨hargs, rfl⟩ := hbody
    rw [hargs]
    exact .one hx
  · exact absurd hst hs
  · rw [hst] at hbody
    obtain ⟨inner, c, rfl, hinner⟩ := hbody
    simpa using Separated.snoc (s := c) hinner hx

namespace ParseState.Reads

theorem initial : ParseState.initial.Reads [] :=
  ⟨⟨[], [], [], rfl, ⟨rfl, rfl⟩, rfl, rfl⟩, fun h => absurd rfl h,
    by simp [ParseState.initial], fun h => absurd rfl h⟩

/-- With no name pending, the lexemes read are the outer level's, then the open calls'. -/
theorem parts_of_none {st : ParseState} {ts : List Lexeme} (h : st.Reads ts)
    (hp : st.pending = none) :
    ∃ a b, ts = a ++ b ∧ OuterReads st.done st.outer a ∧ FramesRead st.frames b := by
  obtain ⟨a, b, c, rfl, ho, hf, hc⟩ := h.parts
  rw [hp] at hc
  simp only [PendingReads] at hc
  subst hc
  exact ⟨a, b, by simp, ho, hf⟩

/-- With a name pending, the lexemes read are the outer level's, the open calls', then the
name. -/
theorem parts_of_some {st : ParseState} {ts : List Lexeme} (h : st.Reads ts) {n : CodeString}
    {p : Pos} (hp : st.pending = some (n, p)) :
    ∃ a b, ts = a ++ b ++ [(.name, n.points)] ∧ OuterReads st.done st.outer a ∧
      FramesRead st.frames b := by
  obtain ⟨a, b, c, rfl, ho, hf, hc⟩ := h.parts
  rw [hp] at hc
  simp only [PendingReads] at hc
  subst hc
  exact ⟨a, b, rfl, ho, hf⟩

theorem deliver {st : ParseState} {ts us : List Lexeme} {x : Expr} (h : st.Reads ts)
    (hp : st.pending = none) (he : st.expectsExpr = true) (hx : Derives us x.node) :
    (st.deliver x).Reads (ts ++ us) := by
  obtain ⟨a, b, rfl, ho, hf⟩ := h.parts_of_none hp
  rcases hfr : st.frames with _ | ⟨f, fs⟩
  · -- at the outer level the expression follows the finished ones
    rw [hfr] at hf
    simp only [FramesRead] at hf
    subst hf
    have hout : st.outer ≠ .afterExpr := by simpa [ParseState.expectsExpr, hfr] using he
    rw [ParseState.deliver_of_no_frames hfr]
    exact ⟨⟨a ++ us, [], [], by simp, ho.deliver hout hx, by simp [hfr, FramesRead],
      by simp [hp, PendingReads]⟩, fun h' => absurd hfr h', by simp [hfr], by simp [hp]⟩
  · -- inside a call it is the call's next argument
    rw [hfr] at hf
    obtain ⟨us', vs, rfl, hfs, hfv⟩ := hf
    have hstage : f.stage ≠ .argument := by simpa [ParseState.expectsExpr, hfr] using he
    rw [ParseState.deliver_of_frames hfr]
    exact ⟨⟨a, us' ++ (vs ++ us), [], by simp, ho,
      ⟨us', vs ++ us, rfl, hfs, hfv.deliver hstage hx⟩, by simp [hp, PendingReads]⟩,
      fun _ => h.outerWaits (by simp [hfr]), by simpa [hfr] using h.framesWait, by simp [hp]⟩

theorem settle {st : ParseState} {ts : List Lexeme} (h : st.Reads ts) :
    st.settle.Reads ts := by
  rcases hp : st.pending with _ | ⟨n, p⟩
  · rw [ParseState.settle_of_none hp]
    exact h
  · obtain ⟨a, b, rfl, ho, hf⟩ := h.parts_of_some hp
    -- the pending name is finished as a call without arguments
    have h' : ({ st with pending := none } : ParseState).Reads (a ++ b) :=
      ⟨⟨a, b, [], by simp, ho, hf, rfl⟩, h.outerWaits, h.framesWait,
        fun h' => absurd rfl h'⟩
    have he : ({ st with pending := none } : ParseState).expectsExpr = true :=
      h.pendingWaits (by simp [hp])
    have hd : (({ st with pending := none } : ParseState).deliver (.call n [] p)).Reads
        (a ++ b ++ [(.name, n.points)]) := h'.deliver rfl he Derives.bare
    simp only [ParseState.settle, hp]
    simpa using hd

/-- Closing the innermost call leaves a state that waits for an expression's end. -/
theorem expectsExpr_pop {st : ParseState} {ts : List Lexeme} (h : st.Reads ts) {f : Frame}
    {fs : List Frame} (hfr : st.frames = f :: fs) :
    ({ st with frames := fs } : ParseState).expectsExpr = true := by
  cases fs with
  | nil =>
    have ho := h.outerWaits (by simp [hfr])
    simpa [ParseState.expectsExpr] using ho
  | cons g gs =>
    have hg := h.framesWait g (by simp [hfr])
    simpa [ParseState.expectsExpr] using hg

end ParseState.Reads

/-- A call read up to an argument, or up to its opening parenthesis, is closed by a right
parenthesis. -/
theorem Frame.Reads.close {f : Frame} {vs : List Lexeme} (h : f.Reads vs)
    (hs : f.stage ≠ .comma) (r : List CodePoint) :
    Derives (vs ++ [(.rparen, r)]) (Expr.call f.name f.args.reverse f.pos).node := by
  obtain ⟨l, body, rfl, hbody⟩ := h
  simp only [Expr.node]
  rcases hst : f.stage with _ | _ | _
  · rw [hst] at hbody
    obtain ⟨hargs, rfl⟩ := hbody
    rw [hargs]
    exact .callEmpty
  · rw [hst] at hbody
    exact .call hbody
  · exact absurd hst hs

namespace ParseState.Reads

variable {file : Option CodeString}

/-- A name where an expression may start becomes the pending name. -/
theorem name {st : ParseState} {ts : List Lexeme} (h : st.Reads ts) (hp : st.pending = none)
    (he : st.expectsExpr = true) (n : CodeString) (pos : Pos) :
    ({ st with pending := some (n, pos) } : ParseState).Reads (ts ++ [(.name, n.points)]) := by
  obtain ⟨a, b, rfl, ho, hf⟩ := h.parts_of_none hp
  exact ⟨⟨a, b, [(.name, n.points)], rfl, ho, hf, rfl⟩, h.outerWaits, h.framesWait,
    fun _ => he⟩

/-- Outside calls, a separator at the start or after an expression keeps the invariant. -/
theorem separator {st : ParseState} {ts : List Lexeme} (h : st.Reads ts)
    (hp : st.pending = none) (hfr : st.frames = []) (hout : st.outer ≠ .ready)
    (s : List CodePoint) :
    ({ st with outer := .ready, frames := [] } : ParseState).Reads (ts ++ [(.sep, s)]) := by
  obtain ⟨a, b, rfl, ho, hf⟩ := h.parts_of_none hp
  rw [hfr] at hf
  simp only [FramesRead] at hf
  subst hf
  exact ⟨⟨a ++ [(.sep, s)], [], [], by simp, ho.sep hout s, rfl, by simp [hp, PendingReads]⟩,
    fun h' => absurd rfl h', by simp, by simp [hp]⟩

/-- A comma after an argument of the innermost call keeps the invariant. -/
theorem comma {st : ParseState} {ts : List Lexeme} (h : st.Reads ts) (hp : st.pending = none)
    {f : Frame} {fs : List Frame} (hfr : st.frames = f :: fs) (hs : f.stage = .argument)
    (c : List CodePoint) :
    ({ st with frames := { f with stage := .comma } :: fs } : ParseState).Reads
      (ts ++ [(.comma, c)]) := by
  obtain ⟨a, b, rfl, ho, hf⟩ := h.parts_of_none hp
  rw [hfr] at hf
  obtain ⟨us, vs, rfl, hfs, hfv⟩ := hf
  -- the innermost call has read its arguments and now the comma
  have hcomma : ({ f with stage := .comma } : Frame).Reads (vs ++ [(.comma, c)]) := by
    obtain ⟨l, body, rfl, hbody⟩ := hfv
    rw [hs] at hbody
    exact ⟨l, body ++ [(.comma, c)], by simp, body, c, rfl, hbody⟩
  exact ⟨⟨a, us ++ (vs ++ [(.comma, c)]), [], by simp, ho, ⟨us, _, rfl, hfs, hcomma⟩,
    by simp [hp, PendingReads]⟩, fun _ => h.outerWaits (by simp [hfr]),
    by simpa [hfr] using h.framesWait, by simp [hp]⟩

/-- A closing parenthesis after the innermost call's last argument, or right after its
opening one, hands the call to what is around it and keeps the invariant. -/
theorem close {st : ParseState} {ts : List Lexeme} (h : st.Reads ts) (hp : st.pending = none)
    {f : Frame} {fs : List Frame} (hfr : st.frames = f :: fs) (hs : f.stage ≠ .comma)
    (r : List CodePoint) :
    (({ st with frames := fs } : ParseState).deliver (.call f.name f.args.reverse f.pos)).Reads
      (ts ++ [(.rparen, r)]) := by
  obtain ⟨a, b, rfl, ho, hf⟩ := h.parts_of_none hp
  rw [hfr] at hf
  obtain ⟨us, vs, rfl, hfs, hfv⟩ := hf
  have h' : ({ st with frames := fs } : ParseState).Reads (a ++ us) :=
    ⟨⟨a, us, [], by simp, ho, hfs, by simp [hp, PendingReads]⟩,
      fun _ => h.outerWaits (by simp [hfr]),
      fun g hg => h.framesWait g (by simpa [hfr] using List.mem_of_mem_drop hg), by simp [hp]⟩
  simpa using h'.deliver hp (h.expectsExpr_pop hfr) (hfv.close hs r)

/-- Reading a well-formed token in a state without a pending name keeps the invariant. -/
theorem accept {st st' : ParseState} {ts : List Lexeme} {t : Token} (h : st.Reads ts)
    (hp : st.pending = none) (ht : t.WellFormed) (hacc : st.accept file t = some st') :
    st'.Reads (ts ++ [t.view]) := by
  unfold ParseState.accept at hacc
  rcases hk : t.kind with _ | _ | _ | _ | _ | _ | _ <;> simp only [hk] at hacc
  case name =>
    split at hacc
    · rename_i he
      cases hacc
      simpa [Token.view, hk] using h.name hp he t.lexeme ⟨file, t.line, t.column⟩
    · simp at hacc
  case number =>
    split at hacc
    · rename_i he
      cases hacc
      exact h.deliver hp he (derives_literal _ (Or.inl hk) ht)
    · simp at hacc
  case text =>
    split at hacc
    · rename_i he
      cases hacc
      exact h.deliver hp he (derives_literal _ (Or.inr hk) ht)
    · simp at hacc
  case sep =>
    rcases hfr : st.frames with _ | ⟨f, fs⟩
    · -- outside calls a separator is read at the start or after an expression
      have hout : st.outer ≠ .ready := by
        intro hst
        simp [hfr, hst] at hacc
      have hst' : st' = { st with outer := .ready, frames := [] } := by
        rcases hst : st.outer with _ | _ | _ <;> simp [hfr, hst] at hacc hout <;>
          exact hacc.symm
      subst hst'
      simpa [Token.view, hk] using h.separator hp hfr hout t.lexeme.points
    · simp [hfr] at hacc
  case comma =>
    rcases hfr : st.frames with _ | ⟨f, fs⟩ <;> simp only [hfr, reduceCtorEq] at hacc
    split at hacc
    · rename_i hs
      cases hacc
      simpa [Token.view, hk] using h.comma hp hfr hs t.lexeme.points
    · simp at hacc
  case rparen =>
    rcases hfr : st.frames with _ | ⟨f, fs⟩ <;> simp only [hfr, reduceCtorEq] at hacc
    split at hacc
    · simp at hacc
    · rename_i hs
      cases hacc
      simpa [Token.view, hk] using h.close hp hfr hs t.lexeme.points
  case lparen => simp at hacc

/-- Where an expression may start, no open call has just read an argument. -/
theorem frames_wait_of_expects {st : ParseState} {ts : List Lexeme} (h : st.Reads ts)
    (he : st.expectsExpr = true) : ∀ g ∈ st.frames, g.stage ≠ .argument := by
  intro g hg
  rcases hfr : st.frames with _ | ⟨f, fs⟩
  · simp [hfr] at hg
  · rw [hfr] at hg
    rcases List.mem_cons.mp hg with rfl | hg
    · simpa [ParseState.expectsExpr, hfr] using he
    · exact h.framesWait g (by simp [hfr, hg])

/-- The step lemma: reading a well-formed token keeps the invariant. -/
theorem step {st st' : ParseState} {ts : List Lexeme} {t : Token} (h : st.Reads ts)
    (ht : t.WellFormed) (hs : st.step file t = some st') : st'.Reads (ts ++ [t.view]) := by
  rcases hp : st.pending with _ | ⟨n, p⟩
  · rw [ParseState.step_of_none hp] at hs
    exact h.accept hp ht hs
  by_cases hk : t.kind = .lparen
  · -- the pending name opens a call
    simp only [ParseState.step, hp, hk] at hs
    cases hs
    obtain ⟨a, b, rfl, ho, hf⟩ := h.parts_of_some hp
    have he := h.pendingWaits (by simp [hp])
    refine ⟨⟨a, b ++ [(.name, n.points), t.view], [], by simp, ho,
      ⟨b, _, rfl, hf, t.lexeme.points, [], ?_, rfl, rfl⟩, rfl⟩, ?_, ?_, by simp⟩
    · simp [Token.view, hk]
    · intro _
      rcases hfr : st.frames with _ | ⟨f, fs⟩
      · simpa [ParseState.expectsExpr, hfr] using he
      · exact h.outerWaits (by simp [hfr])
    · simpa using h.frames_wait_of_expects he
  · rw [ParseState.step_of_not_lparen st hk] at hs
    exact h.settle.accept (ParseState.settle_pending st) ht hs

/-- The run lemma: reading well-formed tokens keeps the invariant. -/
theorem run {st st' : ParseState} {ts : List Lexeme} {toks : List Token} (h : st.Reads ts)
    (hw : ∀ t ∈ toks, t.WellFormed) (hr : ParseState.run file st toks = .ok st') :
    st'.Reads (ts ++ toks.map Token.view) := by
  induction toks generalizing st ts with
  | nil =>
    rw [ParseState.run_nil] at hr
    cases hr
    simpa using h
  | cons t toks ih =>
    rw [ParseState.run_cons] at hr
    rcases hs : st.step file t with _ | s
    · rw [hs] at hr
      cases hr
    · rw [hs] at hr
      have h' := ih (h.step (hw t List.mem_cons_self) hs)
        (fun u hu => hw u (List.mem_cons_of_mem t hu)) hr
      simpa using h'

/-- With no call open and no name pending, what has been read is a program. -/
theorem program {st : ParseState} {ts : List Lexeme} (h : st.Reads ts)
    (hp : st.pending = none) (hf : st.frames = []) :
    DerivesProgram ts (Expr.nodes st.done.reverse) := by
  obtain ⟨a, b, rfl, ho, hb⟩ := h.parts_of_none hp
  rw [hf] at hb
  simp only [FramesRead] at hb
  subst hb
  rw [List.append_nil]
  rcases hst : st.outer with _ | _ | _ <;> rw [hst] at ho
  · obtain ⟨hd, rfl⟩ := ho
    exact Or.inl ⟨Or.inl rfl, by simp [hd]⟩
  · obtain ⟨pre, s, rfl, ⟨hd, rfl⟩ | ⟨lead, body, rfl, hlead, hbody⟩⟩ := ho
    · exact Or.inl ⟨Or.inr ⟨s, rfl⟩, by simp [hd]⟩
    · exact Or.inr ⟨lead, body, [(.sep, s)], rfl, hlead, hbody, Or.inr ⟨s, rfl⟩⟩
  · obtain ⟨lead, body, rfl, hlead, hbody⟩ := ho
    exact Or.inr ⟨lead, body, [], by simp, hlead, hbody, Or.inl rfl⟩

end ParseState.Reads

/-! ## Soundness -/

/-- Soundness: a program the parser reads is a sentence of the grammar. -/
theorem parse_sound {source : CodeString} {file : Option CodeString} {prog : List Expr}
    (h : parse source file = .ok prog) : Sentence source (Expr.nodes prog) := by
  unfold parse at h
  rcases hr : ParseState.run file .initial (scan source).tokens with t | st <;>
    simp only [hr] at h
  · cases h
  rcases hstop : (scan source).stop with _ | ⟨c, l, k⟩ <;> simp only [hstop] at h
  · split at h
    · rename_i hfr
      cases h
      have htok : Tokenizes source.points ((scan source).tokens.map Token.view) :=
        (scan_iff source _).mpr ⟨hstop, rfl⟩
      have hw : ∀ t ∈ (scan source).tokens, t.WellFormed := fun t ht =>
        htok.matches t.view (List.mem_map_of_mem ht)
      have hst := (ParseState.Reads.initial.run hw hr).settle
      refine ⟨_, htok, ?_⟩
      simpa using hst.program (ParseState.settle_pending st) (List.isEmpty_iff.mp hfr)
    · split at h <;> cases h
  · cases h

end CallBasic
