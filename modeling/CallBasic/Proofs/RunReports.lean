import Mathlib
import CallBasic.Cli.Run
/-!
# How a run of the development command ends

The development command loads the extensions and then runs its items, `-c` expressions and
files, in order: these are its jobs. Each job is an operation of the session, done on the
session the jobs before it left (`chain`); what the session wrote is handed on to the
terminal as one block, and the runner then writes its reply one text at a time
(`Step.reply`): the report of a failure, the value of an expression, or the names an
extension registered.

`devEnding` states the rules of a run from the steps of its jobs alone. The run attempts the
jobs up to the first step that stops it (`attempted`): a failure of loading that is not a
module that cannot be loaded escapes, and, unless failures are ignored, every failure stops
the run. Every other failure is reported with its banner on the diagnostic stream (standard
output in plain mode) and marks the run as failed. A run that reaches its end writes the
statistics when asked, if a source ran: the number of top-level expressions of the sources
that ran. The run escapes with the failure nothing caught, or with the first text the
terminal cannot encode, which stops the writing; otherwise its status is 1 if a job failed
and 0 if none did.

`runDev_ending` proves that the command follows these rules, for any extensions and any
items that are read without error and hold no interactive loop (with no item at all the
interactive loop starts instead). The proof follows the runner: `Step.apply_spec` says what one
step does, and `ending_applyThen` carries the invariant `Runner.Follows` over a whole run.
-/

namespace CallBasic.Cli

/-! ## Writing on the terminal -/

/-- Writes texts one after the other on a terminal, or gives why the first that cannot be
encoded cannot. -/
def Terminal.putAll (t : Terminal) (ws : List Write) : Except String Terminal :=
  ws.foldlM (fun t w => t.put w.stream w.text) t

/-- Writes blocks of texts one after the other, each block whole or not at all, until a text
cannot be encoded: the terminal after the blocks written, and why the writing stopped, if it
did. -/
def Terminal.putBlocks (t : Terminal) : List (List Write) → Terminal × Option String
  | [] => (t, none)
  | b :: bs =>
    match t.putAll b with
    | .ok t' => t'.putBlocks bs
    | .error m => (t, some m)

/-- A text and a line feed, as two writes. -/
def lineWrites (s : Stream) (text : CodeString) : List Write :=
  [⟨s, text⟩, ⟨s, "\n"⟩]

/-- What the report of a failure writes: its banner line, then the source context of a
library failure or the trace of a host error. -/
def reportWrites (f : Failure) (file source : CodeString) : List Write :=
  lineWrites .diag (bannerLine f file source) ++
    if f.cls.isLibrary then lineWrites .diag (failureContext f file source)
    else
      match f with
      | .host e => (traceText e).map (⟨.diag, ·⟩)
      | _ => []

/-- The statistics of a run: the number of its expressions, and its time. -/
def statsWrites (expressions : Nat) : List Write :=
  lineWrites .out "\n\x1b[97m\x1b[48;5;30m STATISTICS. \x1b[0m" ++
    lineWrites .out ("expr\t\x1b[97m" ++ groupThousands expressions ++ "\x1b[0m") ++
    lineWrites .out "time\t\x1b[97m0.000s\x1b[0m"

/-- How a run that stopped shows, with what the terminal holds. -/
def Ending.stopped (s : Stop) (t : Terminal) : Ending :=
  match s with
  | .exit code => ⟨some code, none, t.stdout, t.stderr⟩
  | .escape f => ⟨none, some f, t.stdout, t.stderr⟩

/-- How a run of a command shows: its exit status or the failure that escaped, and what it
wrote. -/
def Ending.of : EStateM.Result Stop Runner Nat → Ending
  | .ok code r => .stopped (.exit code) r.term
  | .error s r => .stopped s r.term

/-! ## The jobs of a run and their steps -/

/-- A job of the development command: loading an extension, or running a source from a file
and showing its value when asked. -/
inductive Job where
  | load (name : CodeString)
  | source (text : CodeString) (file : String) (display : Bool)

/-- A job as it went: what its operation gave, and the session it left, before what the
session wrote is handed on to the terminal. -/
inductive Step where
  | load (name : CodeString) (result : Except Failure (List CodeString)) (after : Session)
  | source (text : CodeString) (file : String) (display : Bool)
      (result : Except Failure Session.Outcome) (after : Session)

/-- The session a step left. -/
def Step.after : Step → Session
  | .load _ _ s | .source _ _ _ _ s => s

/-- Runs a session operation: what it gives, and the session it leaves. -/
def outcome {α : Type} (m : SessionM α) (s : Session) : Except Failure α × Session :=
  match m.run s with
  | .ok a s' => (.ok a, s')
  | .error e s' => (.error e, s')

/-- A session with what it wrote handed on. -/
def handOn (s : Session) : Session :=
  { s with world := { s.world with writes := [] } }

/-- A job done on a session. -/
def Job.attempt : Job → Session → Step
  | .load ns, s =>
    .load ns (outcome (Session.loadExtension ns) s).1 (outcome (Session.loadExtension ns) s).2
  | .source text file display, s =>
    .source text file display (outcome (Session.runForDisplay text (some file)) s).1
      (outcome (Session.runForDisplay text (some file)) s).2

/-- Jobs done one after the other from a session, each on the session the jobs before it
left. -/
def chain : List Job → Session → List Step
  | [], _ => []
  | j :: js, s => j.attempt s :: chain js (handOn (j.attempt s).after)

namespace Step

/-- The failure of a step, if it failed. -/
def failure? : Step → Option Failure
  | .load _ (.error f) _ | .source _ _ _ (.error f) _ => some f
  | _ => none

/-- The failure of a step that nothing catches: a failure of loading an extension other than
a module that cannot be loaded. -/
def escape? : Step → Option Failure
  | .load _ (.error (.module ..)) _ => none
  | .load _ (.error f) _ => some f
  | _ => none

/-- The number of top-level expressions of a source that ran. -/
def ran? : Step → Option Nat
  | .source _ _ _ (.ok o) _ => some o.expressions
  | _ => none

/-- Whether a step ends the run: a failure that nothing catches, or, unless failures are
ignored, any failure. -/
def stops (ignore : Bool) (st : Step) : Bool :=
  st.escape?.isSome || (!ignore && st.failure?.isSome)

/-- What the runner writes for a step after what the session wrote: the extension's names at
verbosity info, the report of a failure that is caught, the value of an expression shown. -/
def reply : Step → List Write
  | .load ns (.ok names) s =>
    if s.verbosity.showsInfo then
      lineWrites .diag ("INFO basicfl: Extension `" ++ ns ++ "` registered " ++
        CodeString.join (names.intersperse (CodeString.ofString ", ")) ++ ".")
    else []
  | .load ns (.error (.module t m c)) _ => reportWrites (.module t m c) ("<EXT:" ++ ns ++ ">") ""
  | .load _ (.error _) _ => []
  | .source _ _ display (.ok o) _ =>
    if display then
      match o.value with
      | some v => lineWrites .out (v.render true)
      | none => []
    else []
  | .source text file _ (.error f) _ => reportWrites f file text

/-- Everything written for a step: what the session wrote, as one block, then the runner's
writes one by one. -/
def blocks (st : Step) : List (List Write) :=
  st.after.world.writes :: st.reply.map ([·])

end Step

/-- The steps a run attempts: every step up to the first that stops the run. -/
def attempted (ignore : Bool) (steps : List Step) : List Step :=
  steps.take (steps.findIdx (Step.stops ignore) + 1)

/-- How a run of the development command ends by its rules, from the terminal it starts with
and the steps of its jobs: the attempted steps write their blocks, and a run that reaches its
end writes the statistics when asked, if a source ran. A text that cannot be encoded stops
the run; otherwise a failure nothing caught escapes, and the status is 1 if a job failed and
0 if none did. -/
def devEnding (ignore stats : Bool) (term : Terminal) (steps : List Step) : Ending :=
  let done := attempted ignore steps
  let counts := done.filterMap Step.ran?
  let closing :=
    if stats && !done.any (Step.stops ignore) && !counts.isEmpty then statsWrites counts.sum
    else []
  match term.putBlocks (done.flatMap Step.blocks ++ closing.map ([·])) with
  | (t, some m) => .stopped (encodingStop m) t
  | (t, none) =>
    match done.findSome? Step.escape? with
    | some f => .stopped (.escape f) t
    | none => .stopped (.exit (if done.any (·.failure?.isSome) then 1 else 0)) t

/-- The jobs of the development command's actions, the expressions numbered from `i`; the
interactive loop is no job. -/
def actionJobs (sur : Surroundings) : Nat → List Action → List Job
  | _, [] => []
  | i, .file p :: rest => .source (readText (sur.readFile p)) p false :: actionJobs sur (i + 1) rest
  | i, .command e :: rest =>
    .source e ("<INPUT_" ++ toString i ++ ">") true :: actionJobs sur (i + 1) rest
  | i, .repl :: rest => actionJobs sur (i + 1) rest

/-! ## What the runner writes -/

theorem Terminal.putAll_cons (t : Terminal) (w : Write) (ws : List Write) :
    t.putAll (w :: ws) =
      match t.put w.stream w.text with
      | .ok t' => t'.putAll ws
      | .error m => .error m := by
  unfold Terminal.putAll
  rw [List.foldlM_cons]
  cases t.put w.stream w.text <;> rfl

theorem Terminal.putBlocks_append (t : Terminal) (bs bs' : List (List Write)) :
    t.putBlocks (bs ++ bs') =
      match t.putBlocks bs with
      | (t', none) => t'.putBlocks bs'
      | (t', some m) => (t', some m) := by
  induction bs generalizing t with
  | nil => rfl
  | cons b bs ih =>
    simp only [List.cons_append, Terminal.putBlocks]
    cases t.putAll b with
    | ok t' => exact ih t'
    | error m => rfl

namespace Runner

/-- Writes texts one by one on the runner's terminal and goes on with `k`; a text that cannot
be encoded stops the run, the texts before it written. -/
def writing {α : Type} (r : Runner) (ws : List Write) (k : Runner → EStateM.Result Stop Runner α) :
    EStateM.Result Stop Runner α :=
  match r.term.putBlocks (ws.map ([·])) with
  | (t, none) => k { r with term := t }
  | (t, some m) => .error (encodingStop m) { r with term := t }

theorem writing_nil {α : Type} (r : Runner) (k : Runner → EStateM.Result Stop Runner α) :
    r.writing [] k = k r := rfl

theorem writing_cons {α : Type} (r : Runner) (w : Write) (ws : List Write)
    (k : Runner → EStateM.Result Stop Runner α) :
    r.writing (w :: ws) k =
      match r.term.put w.stream w.text with
      | .ok t => { r with term := t }.writing ws k
      | .error m => .error (encodingStop m) r := by
  simp only [writing, List.map_cons, Terminal.putBlocks, Terminal.putAll_cons]
  cases r.term.put w.stream w.text with
  | ok t => rfl
  | error m => rfl

theorem writing_append {α : Type} (r : Runner) (ws ws' : List Write)
    (k : Runner → EStateM.Result Stop Runner α) :
    r.writing (ws ++ ws') k = r.writing ws fun r' => r'.writing ws' k := by
  induction ws generalizing r with
  | nil => rfl
  | cons w ws ih =>
    rw [List.cons_append, writing_cons, writing_cons]
    cases r.term.put w.stream w.text with
    | ok t => exact ih _
    | error m => rfl

end Runner

/-- A step of the command line that writes texts one by one and does nothing else. -/
def Writes (m : CliM Unit) (ws : List Write) : Prop :=
  ∀ r, m.run r = r.writing ws (.ok ())

theorem Writes.bind {m : CliM Unit} {ws : List Write} (h : Writes m ws) {α : Type}
    (f : Unit → CliM α) (r : Runner) :
    (m >>= f).run r = r.writing ws fun r' => (f ()).run r' := by
  rw [EStateM.run_bind, h r]
  unfold Runner.writing
  rcases r.term.putBlocks (ws.map ([·])) with ⟨t, _ | m⟩ <;> rfl

theorem Writes.seq {m m' : CliM Unit} {ws ws' : List Write} (h : Writes m ws)
    (h' : Writes m' ws') : Writes (m >>= fun _ => m') (ws ++ ws') := by
  intro r
  rw [h.bind, Runner.writing_append]
  congr
  funext r'
  exact h' r'

theorem modify_bind_run {α : Type} (f : Runner → Runner) (g : Unit → CliM α) (r : Runner) :
    (modify f >>= g).run r = (g ()).run (f r) := rfl

theorem get_bind_run {α : Type} (g : Runner → CliM α) (r : Runner) :
    (get >>= g).run r = (g r).run r := rfl

theorem say_writes (s : Stream) (text : CodeString) : Writes (say s text) [⟨s, text⟩] := by
  intro r
  rw [Runner.writing_cons]
  unfold say
  rw [get_bind_run]
  cases r.term.put s text <;> rfl

theorem sayLine_writes (s : Stream) (text : CodeString) :
    Writes (sayLine s text) (lineWrites s text) :=
  (say_writes s text).seq (say_writes s "\n")

theorem forIn_say_writes (s : Stream) (ls : List CodeString) :
    Writes (forIn ls PUnit.unit fun l _ => do say s l; pure (ForInStep.yield PUnit.unit))
      (ls.map (⟨s, ·⟩)) := by
  induction ls with
  | nil => exact fun r => rfl
  | cons l ls ih =>
    intro r
    rw [List.forIn_cons, bind_assoc, (say_writes s l).bind, List.map_cons, Runner.writing_cons,
      Runner.writing_cons]
    cases r.term.put s l with
    | ok t => exact ih _
    | error m => rfl

/-- Marks a runner failed once a failure is reported: unless failures are ignored, the run
then ends with status 1. -/
def Runner.fail (r : Runner) : EStateM.Result Stop Runner Unit :=
  if r.ignore then .ok () { r with failed := true } else .error (.exit 1) { r with failed := true }

/-- A failure is reported by its writes, and then marks the run failed. -/
theorem report_run (f : Failure) (file source : CodeString) (r : Runner) :
    (report f file source false).run r = r.writing (reportWrites f file source) Runner.fail := by
  unfold report reportWrites
  rw [(sayLine_writes _ _).bind, Runner.writing_append]
  congr
  funext r'
  by_cases hl : f.cls.isLibrary
  · simp only [hl, if_true]
    rw [(sayLine_writes _ _).bind]
    congr
    funext r''
    rcases r'' with ⟨_, _, _, _ | _, _, _, _⟩ <;> rfl
  · cases f with
    | host e =>
      simp only [hl, Bool.false_eq_true, if_false]
      rw [(forIn_say_writes .diag _).bind]
      congr
      funext r''
      rcases r'' with ⟨_, _, _, _ | _, _, _, _⟩ <;> rfl
    | parse _ e => cases e <;> simp [Failure.cls, ErrorClass.isLibrary] at hl
    | _ => simp [Failure.cls, ErrorClass.isLibrary] at hl

/-- A session operation run by the runner: what the session wrote is handed on to the terminal
as one block, or stops the run if a text of it cannot be encoded. -/
theorem inSession_bind {α β : Type} {m : SessionM α} {r : Runner} {res : Except Failure α}
    {s : Session} (hm : outcome m r.session = (res, s)) (g : Except Failure α → CliM β) :
    (inSession m >>= g).run r =
      match r.term.putAll s.world.writes with
      | .ok t => (g res).run { r with session := handOn s, term := t }
      | .error msg => .error (encodingStop msg) { r with session := handOn s } := by
  rw [EStateM.run_bind]
  unfold outcome at hm
  unfold inSession handOn Terminal.putAll
  dsimp only [EStateM.run] at hm ⊢
  rcases h : m r.session with ⟨a, s'⟩ | ⟨e, s'⟩ <;> rw [h] at hm <;> cases hm <;> dsimp only <;>
    generalize List.foldlM (fun t w => t.put w.stream w.text) r.term s.world.writes = w <;>
    cases w <;> rfl

/-- Counts a source that ran. -/
def Runner.count (r : Runner) (st : Step) : Runner :=
  match st.ran? with
  | some n => { r with executed := r.executed + 1, expressions := r.expressions + n }
  | none => r

theorem Runner.count_session (r : Runner) (st : Step) : (r.count st).session = r.session := by
  unfold Runner.count
  split <;> rfl

@[simp] theorem Runner.count_ignore (r : Runner) (st : Step) : (r.count st).ignore = r.ignore := by
  unfold Runner.count
  split <;> rfl

@[simp] theorem Runner.count_executed (r : Runner) (st : Step) :
    (r.count st).executed = r.executed + st.ran?.toList.length := by
  unfold Runner.count
  split <;> simp [*]

@[simp] theorem Runner.count_expressions (r : Runner) (st : Step) :
    (r.count st).expressions = r.expressions + st.ran?.toList.sum := by
  unfold Runner.count
  split <;> simp [*]

/-- One step on a runner, as the runner makes it: the session's block is written first; a
failure that nothing catches then escapes; a source that ran is counted; the reply is written;
and a failure reported marks the run failed. -/
def Step.apply (st : Step) (r : Runner) : EStateM.Result Stop Runner Unit :=
  match r.term.putAll st.after.world.writes with
  | .error m => .error (encodingStop m) { r with session := handOn st.after }
  | .ok t =>
    match st.escape? with
    | some f => .error (.escape f) { r with session := handOn st.after, term := t }
    | none =>
      ({ r with session := handOn st.after, term := t }.count st).writing st.reply fun r' =>
        if st.failure?.isSome then r'.fail else .ok () r'

theorem execute_run (text : CodeString) (file : String) (display : Bool) (r : Runner) :
    (execute text file false display).run r =
      ((Job.source text file display).attempt r.session).apply r := by
  obtain ⟨res, s, h⟩ : ∃ res s, outcome (Session.runForDisplay text (some file)) r.session = (res, s) :=
    ⟨_, _, rfl⟩
  unfold execute
  rw [inSession_bind h]
  simp only [Job.attempt, Step.apply, Step.after, h]
  rcases res with f | o <;> rcases r.term.putAll s.world.writes with m | t
  · rfl
  · simp only [Step.escape?, Step.failure?, Step.reply, Runner.count, Step.ran?]
    rw [report_run]
    rfl
  · rfl
  · simp only [Step.escape?, Step.failure?, Step.reply, Runner.count, Step.ran?, Option.isSome_none,
      Bool.false_eq_true, if_false]
    rw [EStateM.run_bind]
    cases display with
    | false => rfl
    | true =>
      simp only [if_true]
      cases o.value with
      | none => rfl
      | some v => exact sayLine_writes _ _ _

/-- Steps one after the other on a runner, then `k`; a step that stops the run ends it
there. -/
def Step.applyThen {α : Type} : List Step → Runner → (Runner → EStateM.Result Stop Runner α) →
    EStateM.Result Stop Runner α
  | [], r, k => k r
  | st :: sts, r, k =>
    match st.apply r with
    | .ok () r' => applyThen sts r' k
    | .error e r' => .error e r'

/-- The loading loop: each extension is a step on the session the ones before it left. -/
theorem loadExtensions_bind {α : Type} (names : List CodeString) (f : Unit → CliM α) (r : Runner) :
    (loadExtensions names >>= f).run r =
      Step.applyThen (chain (names.map .load) r.session) r fun r' => (f ()).run r' := by
  unfold loadExtensions
  rw [bind_assoc]
  induction names generalizing r with
  | nil => rfl
  | cons ns names ih =>
    obtain ⟨res, s, h⟩ : ∃ res s, outcome (Session.loadExtension ns) r.session = (res, s) :=
      ⟨_, _, rfl⟩
    rw [List.forIn_cons]
    simp only [bind_assoc]
    rw [inSession_bind h]
    simp only [List.map_cons, chain, Job.attempt, h, Step.applyThen, Step.apply, Step.after]
    rcases r.term.putAll s.world.writes with m | t
    · rfl
    rcases res with f | names
    · cases f with
      | module tok msg cause =>
        -- a module that cannot be loaded is reported, and the loop goes on unless that ends it
        simp only [bind_assoc, pure_bind, Step.escape?, Step.reply, Step.failure?, Runner.count,
          Step.ran?, Option.isSome_some, if_true]
        rw [EStateM.run_bind, report_run]
        unfold Runner.writing Runner.fail
        dsimp only
        rcases t.putBlocks (List.map (fun x => [x]) (reportWrites (.module tok msg cause)
          ("<EXT:" ++ ns ++ ">") "")) with ⟨t', _ | m⟩
        · cases r.ignore with
          | true => exact ih _
          | false => rfl
        · rfl
      | _ => rfl
    · -- the names registered are shown at verbosity info
      simp only [bind_assoc, pure_bind, Step.escape?, Step.reply, Step.failure?, Runner.count,
        Step.ran?, Option.isSome_none, Bool.false_eq_true, if_false]
      rw [get_bind_run]
      have hv : (handOn s).verbosity = s.verbosity := rfl
      dsimp only
      rw [hv]
      cases s.verbosity.showsInfo with
      | false => exact ih _
      | true =>
        simp only [if_true, bind_assoc, pure_bind]
        rw [(sayLine_writes _ _).bind]
        unfold Runner.writing
        dsimp only
        rcases t.putBlocks (List.map (fun x => [x]) (lineWrites .diag ("INFO basicfl: Extension `" ++
          ns ++ "` registered " ++ CodeString.join (names.intersperse (CodeString.ofString ", ")) ++
          "."))) with ⟨t', _ | m⟩
        · exact ih _
        · rfl

/-- How a step that stops the run stops it: with the failure that nothing catches, or with
status 1. -/
def Step.stop (st : Step) : Stop :=
  match st.escape? with
  | some f => .escape f
  | none => .exit 1

/-- The runner after a step that goes on, with the terminal its writes left: on the session
the step left, failed if the step failed, and counting a source that ran. -/
def Runner.record (r : Runner) (st : Step) (t : Terminal) : Runner :=
  { r.count st with session := handOn st.after, term := t, failed := r.failed || st.failure?.isSome }

theorem Step.reply_of_escape {st : Step} {f : Failure} (h : st.escape? = some f) : st.reply = [] := by
  unfold escape? at h
  split at h
  · cases h
  · rename_i ns f' s hm
    cases f' with
    | module => exact (hm _ _ _ rfl).elim
    | _ => rfl
  · cases h

/-- The step lemma: a step writes its blocks until a text cannot be encoded; if all are
written, it stops the run or goes on with the step recorded. -/
theorem Step.apply_cases (st : Step) (r : Runner) :
    (∃ t m, r.term.putBlocks st.blocks = (t, some m) ∧
      ∃ r', st.apply r = .error (encodingStop m) r' ∧ r'.term = t) ∨
    (∃ t, r.term.putBlocks st.blocks = (t, none) ∧ st.stops r.ignore = true ∧
      ∃ r', st.apply r = .error st.stop r' ∧ r'.term = t) ∨
    (∃ t, r.term.putBlocks st.blocks = (t, none) ∧ st.stops r.ignore = false ∧
      st.apply r = .ok () (r.record st t)) := by
  unfold Step.apply Step.blocks
  rw [Terminal.putBlocks]
  rcases r.term.putAll st.after.world.writes with m | t
  · exact .inl ⟨_, _, rfl, _, rfl, rfl⟩
  dsimp only
  rcases he : st.escape? with _ | f
  · unfold Runner.writing Runner.record Runner.count
    rcases st.ran? with _ | n <;> dsimp only <;>
      rcases t.putBlocks (st.reply.map ([·])) with ⟨t', _ | m⟩
    all_goals first
      | exact .inl ⟨_, _, rfl, _, rfl, rfl⟩
      | rcases hf : st.failure? with _ | f <;> cases r.ignore <;>
          simp [Step.stops, he, hf, Runner.fail, Step.stop]
  · -- a failure that nothing catches writes no reply
    rw [Step.reply_of_escape he]
    refine .inr (.inl ⟨t, rfl, by simp [Step.stops, he],
      { r with session := handOn st.after, term := t }, ?_, rfl⟩)
    simp [Step.stop, he]

theorem Step.session_of_apply {st : Step} {r r' : Runner} (h : st.apply r = .ok () r') :
    r'.session = handOn st.after := by
  rcases st.apply_cases r with ⟨_, _, -, _, happ, -⟩ | ⟨_, -, -, _, happ, -⟩ | ⟨t, -, -, happ⟩ <;>
    rw [happ] at h <;> cases h
  rfl

/-- The actions loop: each item is a step on the session the ones before it left. -/
theorem runActions_bind {α : Type} (sur : Surroundings) (i : Nat) (actions : List Action)
    (hrepl : Action.repl ∉ actions) (f : Unit → CliM α) (r : Runner) :
    (runActions sur i actions >>= f).run r =
      Step.applyThen (chain (actionJobs sur i actions) r.session) r fun r' => (f ()).run r' := by
  induction actions generalizing i r with
  | nil => rfl
  | cons a rest ih =>
    have hrest : Action.repl ∉ rest := fun h => hrepl (List.mem_cons_of_mem a h)
    cases a with
    | repl => exact absurd (List.mem_cons_self) hrepl
    | file _ | command _ =>
      -- the item is one step, and the loop goes on from the runner it leaves
      rw [runActions]
      simp only [bind_assoc]
      rw [EStateM.run_bind, execute_run]
      simp only [actionJobs, chain, Step.applyThen]
      split
      · rename_i r' h
        simp only [h]
        rw [ih (i + 1) hrest r', Step.session_of_apply h]
      · rename_i e r' h
        simp only [h]

theorem Step.applyThen_chain_append {α : Type} (js js' : List Job) (r : Runner)
    (k : Runner → EStateM.Result Stop Runner α) :
    Step.applyThen (chain js r.session) r (fun r' => Step.applyThen (chain js' r'.session) r' k) =
      Step.applyThen (chain (js ++ js') r.session) r k := by
  induction js generalizing r with
  | nil => rfl
  | cons j js ih =>
    simp only [List.cons_append, chain, Step.applyThen]
    split
    · rename_i r' h
      rw [← Step.session_of_apply h, ih]
    · rfl

/-! ## The rules of a run -/

theorem attempted_cons (ignore : Bool) (st : Step) (sts : List Step) :
    attempted ignore (st :: sts) = if st.stops ignore then [st] else st :: attempted ignore sts := by
  unfold attempted
  by_cases h : st.stops ignore <;> simp [List.findIdx_cons, h]

/-- Steps that do not stop the run are all attempted, and the rest as their own run. -/
theorem attempted_append {ignore : Bool} {P : List Step} (hP : ∀ st ∈ P, st.stops ignore = false)
    (L : List Step) : attempted ignore (P ++ L) = P ++ attempted ignore L := by
  induction P with
  | nil => rfl
  | cons st P ih =>
    rw [List.cons_append, attempted_cons, if_neg (by simp [hP st List.mem_cons_self]),
      ih fun s hs => hP s (List.mem_cons_of_mem st hs)]
    rfl

theorem Step.escape?_of_stops_false {ignore : Bool} {st : Step} (h : st.stops ignore = false) :
    st.escape? = none := by
  unfold stops at h
  simp only [Bool.or_eq_false_iff, Option.isSome_eq_false_iff, Option.isNone_iff_eq_none] at h
  exact h.1

theorem findSome?_escape_of_stops_false {ignore : Bool} {P : List Step}
    (hP : ∀ st ∈ P, st.stops ignore = false) : P.findSome? Step.escape? = none :=
  List.findSome?_eq_none_iff.mpr fun st hst => Step.escape?_of_stops_false (hP st hst)

/-- A run whose writing stops at a text of a step cannot encode stops there. -/
theorem devEnding_of_putBlocks_error {ignore stats : Bool} {term₀ t t' : Terminal} {m : String}
    {P : List Step} (hP : ∀ st ∈ P, st.stops ignore = false)
    (hterm : term₀.putBlocks (P.flatMap Step.blocks) = (t, none)) {st : Step}
    (hst : t.putBlocks st.blocks = (t', some m)) (sts : List Step) :
    devEnding ignore stats term₀ (P ++ st :: sts) = .stopped (encodingStop m) t' := by
  obtain ⟨X, hX⟩ : ∃ X, attempted ignore (st :: sts) = st :: X := by
    rw [attempted_cons]
    split
    · exact ⟨[], rfl⟩
    · exact ⟨_, rfl⟩
  simp only [devEnding, attempted_append hP, hX, List.flatMap_append, List.flatMap_cons,
    List.append_assoc, Terminal.putBlocks_append, hterm, hst]

/-- A step that stops the run is the last it attempts: its failure escapes, or the status is
1. -/
theorem devEnding_of_stops {ignore stats : Bool} {term₀ t t' : Terminal} {P : List Step}
    (hP : ∀ st ∈ P, st.stops ignore = false)
    (hterm : term₀.putBlocks (P.flatMap Step.blocks) = (t, none)) {st : Step}
    (hst : t.putBlocks st.blocks = (t', none)) (hs : st.stops ignore = true) (sts : List Step) :
    devEnding ignore stats term₀ (P ++ st :: sts) = .stopped st.stop t' := by
  have hdone : attempted ignore (P ++ st :: sts) = P ++ [st] := by
    rw [attempted_append hP, attempted_cons, if_pos hs]
  have hany : (P ++ [st]).any (Step.stops ignore) = true := by simp [hs]
  simp only [devEnding, hdone, hany, Bool.not_true, Bool.and_false, Bool.false_and,
    List.append_nil, List.flatMap_append, List.flatMap_cons, List.flatMap_nil,
    Terminal.putBlocks_append, hterm, hst, List.findSome?_append,
    findSome?_escape_of_stops_false hP, Option.none_or, List.findSome?_cons, List.findSome?_nil]
  unfold Step.stop
  rcases he : st.escape? with _ | f
  · -- a stop that does not escape is a failure reported
    have hf : st.failure?.isSome = true := by
      unfold Step.stops at hs
      simp [he] at hs
      exact hs.2
    simp [hf, Terminal.putBlocks]
  · rfl

/-- A run that reaches its end writes the statistics when asked, if a source ran; its status
is 1 if a step failed. -/
theorem devEnding_of_end {ignore stats : Bool} {term₀ t : Terminal} {P : List Step}
    (hP : ∀ st ∈ P, st.stops ignore = false)
    (hterm : term₀.putBlocks (P.flatMap Step.blocks) = (t, none)) :
    devEnding ignore stats term₀ P =
      match t.putBlocks ((if stats && !(P.filterMap Step.ran?).isEmpty then
          statsWrites (P.filterMap Step.ran?).sum else []).map ([·])) with
      | (t', some m) => .stopped (encodingStop m) t'
      | (t', none) => .stopped (.exit (if P.any (·.failure?.isSome) then 1 else 0)) t' := by
  have hdone : attempted ignore P = P := by
    have h := attempted_append hP []
    rwa [List.append_nil, show attempted ignore [] = [] from rfl, List.append_nil] at h
  have hany : P.any (Step.stops ignore) = false := by
    simpa using hP
  simp only [devEnding, hdone, hany, Bool.not_false, Bool.and_true, Terminal.putBlocks_append,
    hterm, findSome?_escape_of_stops_false hP]

/-- The statistics are shown if asked for and a source ran; the status is 1 after a failure. -/
theorem finish_run (stats : Bool) (r : Runner) :
    (finish stats).run r =
      r.writing (if stats && decide (r.executed > 0) then statsWrites r.expressions else [])
        fun r' => .ok (if r.failed then 1 else 0) r' := by
  unfold finish
  rw [get_bind_run]
  by_cases h : (stats && decide (r.executed > 0)) = true
  · simp only [h, if_true, statsWrites, Runner.writing_append]
    rw [(sayLine_writes _ _).bind]
    congr
    funext r'
    rw [(sayLine_writes _ _).bind]
    congr
    funext r''
    rw [(sayLine_writes _ _).bind]
    rfl
  · simp only [h, Bool.false_eq_true, if_false]
    rfl

theorem Ending.of_writing (r : Runner) (ws : List Write) (code : Nat) :
    Ending.of (r.writing ws fun r' => .ok code r') =
      match r.term.putBlocks (ws.map ([·])) with
      | (t, some m) => .stopped (encodingStop m) t
      | (t, none) => .stopped (.exit code) t := by
  unfold Runner.writing
  rcases r.term.putBlocks (ws.map ([·])) with ⟨t, _ | m⟩ <;> rfl

/-- A runner that has made the steps `P` from a terminal, none of which stopped the run: it
holds the terminal their blocks left, it is failed if one of them failed, and it counts the
sources that ran and their expressions. -/
structure Runner.Follows (ignore : Bool) (term₀ : Terminal) (P : List Step) (r : Runner) :
    Prop where
  ignores : r.ignore = ignore
  going : ∀ st ∈ P, st.stops ignore = false
  written : term₀.putBlocks (P.flatMap Step.blocks) = (r.term, none)
  failed : r.failed = P.any (·.failure?.isSome)
  executed : r.executed = (P.filterMap Step.ran?).length
  expressions : r.expressions = (P.filterMap Step.ran?).sum

theorem Runner.Follows.initial {r : Runner} (hf : r.failed = false) (he : r.executed = 0)
    (hx : r.expressions = 0) : r.Follows r.ignore r.term [] :=
  ⟨rfl, by simp, rfl, hf, he, hx⟩

/-- A step that goes on is recorded. -/
theorem Runner.Follows.record {ignore : Bool} {term₀ t : Terminal} {P : List Step} {r : Runner}
    (h : r.Follows ignore term₀ P) {st : Step} (hs : st.stops ignore = false)
    (hst : r.term.putBlocks st.blocks = (t, none)) : (r.record st t).Follows ignore term₀ (P ++ [st]) where
  ignores := by simp [Runner.record, h.ignores]
  going s hmem := by
    rcases List.mem_append.mp hmem with hmem | hmem
    · exact h.going s hmem
    · rw [List.mem_singleton.mp hmem]
      exact hs
  written := by
    rw [List.flatMap_append, Terminal.putBlocks_append, h.written, List.flatMap_singleton]
    exact hst
  failed := by simp [Runner.record, h.failed]
  executed := by
    rcases hr : st.ran? with _ | n <;> simp [Runner.record, h.executed, hr]
  expressions := by
    rcases hr : st.ran? with _ | n <;> simp [Runner.record, h.expressions, hr]

/-- The run lemma: steps made one after the other from a runner that follows the rules, then
the end of the run, end the run as the rules say. -/
theorem ending_applyThen (stats : Bool) {ignore : Bool} {term₀ : Terminal} :
    ∀ (steps P : List Step) (r : Runner), r.Follows ignore term₀ P →
      Ending.of (Step.applyThen steps r fun r' => (finish stats).run r') =
        devEnding ignore stats term₀ (P ++ steps)
  | [], P, r, h => by
    have hc : decide ((P.filterMap Step.ran?).length > 0) = !(P.filterMap Step.ran?).isEmpty := by
      cases P.filterMap Step.ran? <;> simp
    rw [Step.applyThen, finish_run, Ending.of_writing, List.append_nil,
      devEnding_of_end h.going h.written, h.executed, h.expressions, h.failed, hc]
  | st :: sts, P, r, h => by
    rw [← h.ignores]
    rcases st.apply_cases r with ⟨t, m, hb, r', happ, ht⟩ | ⟨t, hb, hs, r', happ, ht⟩ | ⟨t, hb, hs, happ⟩
    · -- the writing stops at a text of the step
      simp only [Step.applyThen, happ, Ending.of, ht]
      exact (devEnding_of_putBlocks_error (h.ignores ▸ h.going) h.written hb sts).symm
    · -- the step stops the run
      simp only [Step.applyThen, happ, Ending.of, ht]
      exact (devEnding_of_stops (h.ignores ▸ h.going) h.written hb hs sts).symm
    · -- the step goes on, and the run goes on from the runner that recorded it
      simp only [Step.applyThen, happ]
      rw [ending_applyThen stats sts (P ++ [st]) _ (h.record (h.ignores ▸ hs) hb), List.append_assoc,
        h.ignores]
      rfl

/-- The development command reads its actions, loads the extensions, then runs the items and
ends the run. -/
theorem runCommand_dev {tail tokens : List CodeString} {actions : List Action} (sur : Surroundings)
    (config : Config) (exts : List CodeString) (stats : Bool)
    (htok : commandArgs "run-dev" true tail = pure tokens)
    (hact : readActions sur.isFile tokens = .ok actions) (hne : actions ≠ [])
    (hrepl : Action.repl ∉ actions) (r : Runner) :
    (runCommand sur config exts stats "run-dev" tail).run r =
      Step.applyThen (chain (exts.map .load ++ actionJobs sur 1 actions) r.session)
        { r with term := { r.term with plain := config.plain } } fun r' => (finish stats).run r' := by
  have hfile : ("run-dev" == "run-file") = false := by decide
  have hdev : ("run-dev" == "run-dev") = true := by decide
  have hemp : actions.isEmpty = false := List.isEmpty_eq_false_iff.mpr hne
  unfold runCommand startRunner
  simp only [hfile, hdev, Bool.false_eq_true, if_false, if_true, htok, pure_bind, bind_assoc]
  rw [modify_bind_run, loadExtensions_bind]
  simp only [hact, hemp, Bool.false_eq_true, if_false, runActions_bind sur 1 actions hrepl]
  exact Step.applyThen_chain_append (exts.map .load) (actionJobs sur 1 actions)
    { r with term := { r.term with plain := config.plain } } _

/-- The development command follows the rules of a run: for any extensions and any items
read without error that hold no interactive loop, from a new runner on a session, the run
attempts the loads and then the items, each on the session the ones before it left, and ends
as `devEnding` says. -/
theorem runDev_ending {tail tokens : List CodeString} {actions : List Action} (sur : Surroundings)
    (config : Config) (exts : List CodeString) (stats : Bool)
    (htok : commandArgs "run-dev" true tail = pure tokens)
    (hact : readActions sur.isFile tokens = .ok actions) (hne : actions ≠ [])
    (hrepl : Action.repl ∉ actions) (s : Session) (term : Terminal) (input : List String)
    (ignore : Bool) :
    Ending.of ((runCommand sur config exts stats "run-dev" tail).run
        ⟨s, term, input, ignore, 0, 0, false⟩) =
      devEnding ignore stats { term with plain := config.plain }
        (chain (exts.map .load ++ actionJobs sur 1 actions) s) := by
  rw [runCommand_dev sur config exts stats htok hact hne hrepl]
  exact ending_applyThen stats _ [] ⟨s, { term with plain := config.plain }, input, ignore, 0, 0, false⟩
    (Runner.Follows.initial (r := ⟨s, { term with plain := config.plain }, input, ignore, 0, 0, false⟩)
      rfl rfl rfl)

/-- `run-dev --ext mem -c 1` in empty surroundings ends by the rules. -/
theorem runDev_ending_expression :
    commandArgs "run-dev" true ["-c", "1"] = pure (["-c", "1"] : List CodeString) ∧
      readActions (⟨"", ⟨"/", []⟩, [], ⟨"/", ⟨"/", []⟩⟩, ⟨13, 1000⟩⟩ : Surroundings).isFile
        ["-c", "1"] = .ok [.command "1"] ∧
      [Action.command "1"] ≠ [] ∧ Action.repl ∉ [Action.command "1"] ∧
      Ending.of ((runCommand ⟨"", ⟨"/", []⟩, [], ⟨"/", ⟨"/", []⟩⟩, ⟨13, 1000⟩⟩
          ⟨0, false, false, false, none, ["mem"]⟩ ["mem"] false "run-dev" ["-c", "1"]).run
          ⟨Session.create standardRegistry "\n" [] ⟨"/", ⟨"/", []⟩⟩ ⟨13, 1000⟩, ⟨"", "", false⟩, [],
            false, 0, 0, false⟩) =
        devEnding false false ⟨"", "", false⟩
          (chain ([.load "mem"] ++ actionJobs ⟨"", ⟨"/", []⟩, [], ⟨"/", ⟨"/", []⟩⟩, ⟨13, 1000⟩⟩ 1
            [.command "1"]) (Session.create standardRegistry "\n" [] ⟨"/", ⟨"/", []⟩⟩ ⟨13, 1000⟩)) :=
  have htok : commandArgs "run-dev" true ["-c", "1"] = pure (["-c", "1"] : List CodeString) := rfl
  have hact : readActions (⟨"", ⟨"/", []⟩, [], ⟨"/", ⟨"/", []⟩⟩, ⟨13, 1000⟩⟩ : Surroundings).isFile
      ["-c", "1"] = .ok [.command "1"] := rfl
  have hne : [Action.command "1"] ≠ [] := List.cons_ne_nil _ _
  have hrepl : Action.repl ∉ [Action.command "1"] := by decide
  ⟨htok, hact, hne, hrepl, runDev_ending _ _ ["mem"] false htok hact hne hrepl _ _ _ false⟩

end CallBasic.Cli
