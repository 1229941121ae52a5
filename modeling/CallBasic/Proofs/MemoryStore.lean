import CallBasic.Proofs.ModuleDiscovery
/-!
# PEEK and POKE: the memory of a session as a store

The `mem` extension gives two builtins over the memory of the session that calls them:
`POKE(a, v)` writes the number `v` at the address `a` rounds to toward zero and answers `v`,
and `PEEK(a)` answers what that address holds, zero for an address never written. An address
is refused when it is negative after rounding, when it is not a finite number, and when no
session stands behind the environment of the call: nothing, or a foreign object, whatever its
class is named. A refused call is a fault and leaves the memory as it was. The negative address
is refused before the environment is looked at.

`CellCall.answer` says this without the adapter's code: which calls reach the memory
(`CellCall.reads?`, `CellCall.writes?`), what they answer and what memory they leave. Every
call of the two builtins, in an environment of any backing, is answered so (`cell_answered`).
Over any sequence of calls the memory is a store (`CellCall.read_replay`): an address holds the
number of the last call that wrote it, or what it held before.

The store law is then a machine of its own (`lawCall`, `lawExec`, `CellRequest.law`): it
notes the calls made so far and answers each by the law alone, PEEK with the number of the last
POKE before it at its address. A session agrees with it on every request made of it: a run of a
source whose calls are PEEK and POKE, with the calls of its program made in post-order and the
levels of the host's stack taken as evaluation takes them (`exec_agrees`); a call through the
session; and a direct invocation in an environment of any backing (`perform_agrees`). Loading a
module that exports the two functions, as the packaged `mem` does, registers both
(`loadExtension_cells`); the main statement is `peek_poke_store`.

The memory is part of the world of one session, and every operation of a session changes that
session alone: the memories of two sessions never meet.
-/

namespace CallBasic

/-! ## The memory is a store -/

namespace Memory

theorem find?_insertCell (a : Int) (v : Float) (b : Int) : ∀ l : List (Int × Float),
    (insertCell a v l).find? (fun c => c.1 == b) =
      if a = b then some (a, v) else l.find? (fun c => c.1 == b)
  | [] => by by_cases h : a = b <;> simp [insertCell, h]
  | (c, w) :: rest => by
    unfold insertCell
    by_cases hac : a < c
    · rw [if_pos hac]
      by_cases h : a = b <;> simp [List.find?_cons, h]
    · rw [if_neg hac]
      by_cases hce : a = c
      · rw [if_pos hce]
        subst hce
        by_cases h : a = b <;> simp [h]
      · -- the cell stays in front of the written one
        rw [if_neg hce, List.find?_cons, List.find?_cons, find?_insertCell a v b rest]
        by_cases hcb : c = b
        · subst hcb
          simp [hce]
        · simp only [beq_false_of_ne hcb]

/-- A read sees the last write at its address, and only there. -/
theorem read_write (m : Memory) (a : Int) (v : Float) (b : Int) :
    (m.write a v).read b = if a = b then v else m.read b := by
  unfold read write
  rw [find?_insertCell]
  by_cases h : a = b <;> simp [h]

theorem read_empty (a : Int) : empty.read a = 0 := rfl

end Memory

/-! ## The two builtins -/

theorem read_run (env : Env) : (read : HostM Env).run env = pure env := rfl

theorem sessionMemory_run (env : Env) (w : World) :
    (sessionMemory.run env).run w =
      match env.backing.expect (some .session) with
      | .error e => .error e w
      | .ok _ => .ok w.memory w := by
  unfold sessionMemory
  rcases h : env.backing.expect (some .session) with e | b
  · simp only [ReaderT.run_bind, read_run, pure_bind, h]
    rfl
  · simp only [ReaderT.run_bind, read_run, pure_bind, h]
    rfl

theorem peek_call (i : Int) (env : Env) (w : World) :
    ((peekFunction.call [.int i]).run env).run w =
      if i < 0 then .error ⟨.basicValueError, "PEEK of negative address " ++ toString i ++ "."⟩ w
      else
        match env.backing.expect (some .session) with
        | .error e => .error e w
        | .ok _ => .ok (.float (w.memory.read i)) w := by
  have hm : peekFunction.missingKeywords = [] := rfl
  unfold HostFunction.call
  rw [hm]
  by_cases hi : i < 0
  · simp only [peekFunction, if_pos hi]
    rfl
  · simp only [peekFunction, if_neg hi]
    simp only [ReaderT.run_bind, EStateM.run_bind, sessionMemory_run]
    cases env.backing.expect (some .session) <;> rfl

theorem poke_call (i : Int) (v : Float) (env : Env) (w : World) :
    ((pokeFunction.call [.int i, .float v]).run env).run w =
      if i < 0 then .error ⟨.basicValueError, "POKE of negative address " ++ toString i ++ "."⟩ w
      else
        match env.backing.expect (some .session) with
        | .error e => .error e w
        | .ok _ => .ok (.float v) { w with memory := w.memory.write i v } := by
  have hm : pokeFunction.missingKeywords = [] := rfl
  unfold HostFunction.call
  rw [hm]
  by_cases hi : i < 0
  · simp only [pokeFunction, if_pos hi]
    rfl
  · simp only [pokeFunction, if_neg hi, writeMemory]
    simp only [ReaderT.run_bind, EStateM.run_bind, sessionMemory_run]
    cases env.backing.expect (some .session) <;> rfl

/-- `PEEK` as the `mem` extension registers it. -/
def peekBuiltin : Builtin := ⟨peekFunction, "PEEK", ⟨1, [.int], .float, true⟩⟩

/-- `POKE` as the `mem` extension registers it. -/
def pokeBuiltin : Builtin := ⟨pokeFunction, "POKE", ⟨2, [.int, .float], .float, true⟩⟩

theorem adapt_peek : Builtin.adapt peekFunction "PEEK" = .ok peekBuiltin := rfl

theorem adapt_poke : Builtin.adapt pokeFunction "POKE" = .ok pokeBuiltin := rfl

/-- The name of PEEK (`false`) or POKE (`true`). -/
def cellName (poke : Bool) : CodeString := if poke then "POKE" else "PEEK"

/-- The arity of PEEK or POKE. -/
def cellArity (poke : Bool) : Int := if poke then 2 else 1

/-- The builtin PEEK or POKE. -/
def cellBuiltin (poke : Bool) : Builtin := if poke then pokeBuiltin else peekBuiltin

/-- A registry holds PEEK and POKE as the `mem` extension registers them. -/
def HasCells (r : Registry Signature) : Prop :=
  ∀ poke, r.get (cellName poke) = (cellArity poke, some (.adapted (cellBuiltin poke)))

/-- Registering PEEK and then POKE gives a registry that holds them, whatever it held before. -/
theorem hasCells_registerAdapted (r : Registry Signature) :
    HasCells (registerAdapted r [("PEEK", peekBuiltin), ("POKE", pokeBuiltin)]) := by
  intro poke
  cases poke <;>
    simp only [cellName, cellArity, cellBuiltin, registerAdapted_cons, registerAdapted_nil,
      Registry.get_register] <;> rfl

theorem basicName_peekFunction : basicName? peekFunction.name = some ("PEEK" : CodeString) := by
  decide +kernel

theorem basicName_pokeFunction : basicName? pokeFunction.name = some ("POKE" : CodeString) := by
  decide +kernel

/-- The functions of PEEK and POKE are both registered, under these names. -/
theorem mapM_adaptExport_cells :
    (namedExports [.function peekFunction, .function pokeFunction]).mapM adaptExport =
      .ok [("PEEK", peekBuiltin), ("POKE", pokeBuiltin)] := by
  have hpe : peekFunction.name.isEmpty = false := rfl
  have hpo : pokeFunction.name.isEmpty = false := rfl
  have hape : adaptExport peekFunction = .ok ("PEEK", peekBuiltin) :=
    adaptExport_eq_ok.mpr ⟨basicName_peekFunction, adapt_peek⟩
  have hapo : adaptExport pokeFunction = .ok ("POKE", pokeBuiltin) :=
    adaptExport_eq_ok.mpr ⟨basicName_pokeFunction, adapt_poke⟩
  rw [namedExports_function, if_neg (by simp [hpe]), namedExports_function,
    if_neg (by simp [hpo]), List.mapM_cons, hape, List.mapM_cons, hapo]
  rfl

/-- Loading a module that exports the functions of PEEK and POKE, as the packaged `mem` does,
registers both under these names and leaves a registry that holds them. -/
theorem loadExtension_cells {ns : CodeString} {s s₁ : Session} {notes : List String}
    (h : Session.loadModule ns s =
      .ok (.defines (some [.function peekFunction, .function pokeFunction]) notes) s₁) :
    ∃ s', Session.loadExtension ns s = .ok ["PEEK", "POKE"] s' ∧ HasCells s'.registry := by
  obtain ⟨w, hw⟩ := Session.registerExports_all _ mapM_adaptExport_cells s₁
  rw [Session.loadExtension_of_exports h, hw]
  exact ⟨_, rfl, hasCells_registerAdapted s₁.registry⟩

/-! ## What a call answers -/

/-- The address a call of PEEK or POKE reaches with its first argument, in an environment with
a backing: a finite number rounded toward zero, when that is not negative and a session stands
behind the environment. -/
def cellAddress? (b : Backing) : HostValue → Option Int
  | .obj (.num x) =>
    match Decimal.Binary.ofFloat x with
    | .finite .. => if 0 ≤ towardZero x ∧ b = .session then some (towardZero x) else none
    | _ => none
  | _ => none

/-- A call of PEEK (`poke = false`) or POKE: its arguments, and what backs the environment it is
made in. -/
structure CellCall where
  poke : Bool
  args : List HostValue
  backing : Backing

namespace CellCall

/-- The address a call of PEEK reads, if it reaches the memory. -/
def reads? : CellCall → Option Int
  | ⟨false, [a], b⟩ => cellAddress? b a
  | _ => none

/-- The address and the number a call of POKE writes, if it reaches the memory. -/
def writes? : CellCall → Option (Int × Float)
  | ⟨true, [a, .obj (.num v)], b⟩ => (cellAddress? b a).map (·, v)
  | _ => none

/-- What a call answers on a memory, and the memory it leaves: PEEK answers what its address
holds, POKE writes its number at its address and answers the number, and any other call is a
fault (`none`) and leaves the memory as it was. -/
def answer (c : CellCall) (m : Memory) : Option (Float × Memory) :=
  match c.reads?, c.writes? with
  | some i, _ => some (m.read i, m)
  | none, some (i, v) => some (v, m.write i v)
  | none, none => none

/-- A result of a call on a world is the store's answer: the number answered with the memory
left, everything else of the world as it was, or a fault with the world as it was. -/
def Answered (c : CellCall) (w : World) (r : EStateM.Result HostError World Value) : Prop :=
  match c.answer w.memory with
  | some (v, m) => r = .ok (.num v) { w with memory := m }
  | none => ∃ t, r = .ok (.err t) w

theorem answer_peek (a : HostValue) (b : Backing) (m : Memory) :
    (CellCall.mk false [a] b).answer m = (cellAddress? b a).map fun i => (m.read i, m) := by
  cases h : cellAddress? b a <;> simp [answer, reads?, writes?, h]

theorem answer_poke (a : HostValue) (v : Float) (b : Backing) (m : Memory) :
    (CellCall.mk true [a, .obj (.num v)] b).answer m =
      (cellAddress? b a).map fun i => (v, m.write i v) := by
  cases h : cellAddress? b a <;> simp [answer, reads?, writes?, h]

/-- POKE of a value that is no number is a fault. -/
theorem answer_poke_of_value {v : HostValue} (hv : ∀ x, v ≠ .obj (.num x)) (a : HostValue)
    (b : Backing) (m : Memory) : (CellCall.mk true [a, v] b).answer m = none := by
  rcases v with _ | _ | _ | _ | _ | _ | _ | (z | s | t)
  case obj.num => exact absurd rfl (hv z)
  all_goals rfl

theorem reads?_eq_some {c : CellCall} {i : Int} (h : c.reads? = some i) :
    ∃ a, c.poke = false ∧ c.args = [a] ∧ cellAddress? c.backing a = some i := by
  unfold reads? at h
  split at h
  · exact ⟨_, rfl, rfl, h⟩
  · cases h

theorem writes?_eq_some {c : CellCall} {i : Int} {v : Float} (h : c.writes? = some (i, v)) :
    ∃ a, c.poke = true ∧ c.args = [a, .obj (.num v)] ∧ cellAddress? c.backing a = some i := by
  unfold writes? at h
  split at h
  · rename_i a v' b
    obtain ⟨j, hj, hjv⟩ := Option.map_eq_some_iff.mp h
    cases hjv
    exact ⟨a, rfl, rfl, hj⟩
  · cases h

/-- A call is answered only with as many arguments as its builtin's arity. -/
theorem length_of_answer {c : CellCall} {m : Memory} {r : Float × Memory}
    (h : c.answer m = some r) : (c.args.length : Int) = cellArity c.poke := by
  unfold answer at h
  split at h
  · obtain ⟨a, hp, ha, -⟩ := reads?_eq_some ‹_›
    simp [hp, ha, cellArity]
  · obtain ⟨a, hp, ha, -⟩ := writes?_eq_some ‹_›
    simp [hp, ha, cellArity]
  · cases h

/-- A call with another count of arguments than its builtin's arity is a fault. -/
theorem answer_of_length {c : CellCall} (h : (c.args.length : Int) ≠ cellArity c.poke)
    (m : Memory) : c.answer m = none := by
  rcases ha : c.answer m with _ | r
  · rfl
  · exact absurd (length_of_answer ha) h

theorem writes?_of_reads? {c : CellCall} {i : Int} (h : c.reads? = some i) : c.writes? = none := by
  obtain ⟨a, hp, -, -⟩ := reads?_eq_some h
  rcases c with ⟨p, args, b⟩
  simp only at hp
  subst hp
  rfl

/-! ### Calls one after the other -/

/-- The memory a call leaves: the memory with its write, if it writes. -/
def after (c : CellCall) (m : Memory) : Memory :=
  match c.writes? with
  | some (i, v) => m.write i v
  | none => m

/-- The memory an answered call leaves is the memory with its write. -/
theorem eq_after_of_answer {c : CellCall} {m m' : Memory} {v : Float}
    (h : c.answer m = some (v, m')) : m' = c.after m := by
  unfold answer at h
  split at h
  · rename_i hr
    cases h
    simp [after, writes?_of_reads? hr]
  · rename_i hw
    cases h
    simp [after, hw]
  · cases h

/-- A fault writes nothing. -/
theorem after_of_answer_none {c : CellCall} {m : Memory} (h : c.answer m = none) :
    c.after m = m := by
  unfold answer at h
  split at h
  · cases h
  · cases h
  · simp [after, *]

/-- The memory left by calls one after the other. -/
def replay : List CellCall → Memory → Memory
  | [], m => m
  | c :: cs, m => replay cs (c.after m)

/-- The number a call writes at an address, if it writes there. -/
def writeAt? (c : CellCall) (i : Int) : Option Float :=
  c.writes?.bind fun (j, v) => if j = i then some v else none

/-- The number the last of some calls that write at an address writes there. -/
def lastWrite : List CellCall → Int → Option Float
  | [], _ => none
  | c :: cs, i => (lastWrite cs i).or (c.writeAt? i)

theorem read_after (c : CellCall) (m : Memory) (i : Int) :
    (c.after m).read i = (c.writeAt? i).getD (m.read i) := by
  unfold after writeAt?
  rcases c.writes? with _ | ⟨j, v⟩
  · rfl
  · by_cases h : j = i <;> simp [Memory.read_write, h]

/-- The store law: after calls one after the other, an address holds the number of the last
call that wrote it, or what it held before. -/
theorem read_replay (cs : List CellCall) (m : Memory) (i : Int) :
    (replay cs m).read i = (lastWrite cs i).getD (m.read i) := by
  induction cs generalizing m with
  | nil => rfl
  | cons c cs ih =>
    rw [replay, ih, read_after, lastWrite]
    cases lastWrite cs i <;> rfl

theorem replay_append (cs cs' : List CellCall) (m : Memory) :
    replay (cs ++ cs') m = replay cs' (replay cs m) := by
  induction cs generalizing m with
  | nil => rfl
  | cons c cs ih => exact ih _

/-- What a call answers by the store law, after the calls `before` on a memory that held `m`:
PEEK the number the last of them wrote at its address, or what the address held in `m`; POKE
its number; any other call is a fault. -/
def lawAnswer (m : Memory) (before : List CellCall) (c : CellCall) : Option Float :=
  match c.reads?, c.writes? with
  | some i, _ => some ((lastWrite before i).getD (m.read i))
  | none, some (_, v) => some v
  | none, none => none

/-- The store law is what a call answers on the memory the calls before it left. -/
theorem lawAnswer_eq (m : Memory) (before : List CellCall) (c : CellCall) :
    lawAnswer m before c = (c.answer (replay before m)).map Prod.fst := by
  unfold answer lawAnswer
  split <;> simp [read_replay, *]

/-- The memory a call leaves after calls one after the other. -/
theorem replay_concat (before : List CellCall) (c : CellCall) (m : Memory) :
    replay (before ++ [c]) m = c.after (replay before m) := by
  rw [replay_append]
  rfl

/-- POKE at no address is a fault. -/
theorem answer_poke_of_address {a : HostValue} {b : Backing} (h : cellAddress? b a = none)
    (v : HostValue) (m : Memory) : (CellCall.mk true [a, v] b).answer m = none := by
  by_cases hv : ∃ x, v = .obj (.num x)
  · obtain ⟨x, rfl⟩ := hv
    simp [answer_poke, h]
  · exact answer_poke_of_value (fun x e => hv ⟨x, e⟩) a b m

/-- A call in an environment that no session backs (nothing, or a foreign object, whatever its
class is named) reaches no address, and is a fault. -/
theorem answer_of_not_session {p : Bool} {args : List HostValue} {b : Backing}
    (h : b ≠ .session) (m : Memory) : (CellCall.mk p args b).answer m = none := by
  have hnone : ∀ a, cellAddress? b a = none := by
    intro a
    unfold cellAddress?
    split
    · split <;> simp [h]
    · rfl
  have hr : (CellCall.mk p args b).reads? = none := by
    unfold reads?
    split <;> simp_all
  have hw : (CellCall.mk p args b).writes? = none := by
    unfold writes?
    split <;> simp_all
  simp [answer, hr, hw]

end CellCall

/-! ## Every call of the two builtins is answered so -/

/-- An argument list the shape refuses is answered by a fault, before anything runs. -/
theorem invoke_of_unwrap_error {b : Builtin} {args : List HostValue} {e : HostError}
    (h : b.shape.unwrap b.label args = .error e) (hc : e.cls.isConverted = true) (env : Env)
    (w : World) : ((b.invoke args).run env).run w = .ok (.err (faultText b.label e)) w := by
  rw [invoke_run, h]
  simp [hc]

/-- A count of arguments other than a non-negative arity is answered by a fault, before
anything runs. -/
theorem invoke_of_count_mismatch {b : Builtin} {args : List HostValue}
    (h : 0 ≤ b.shape.arity ∧ (args.length : Int) ≠ b.shape.arity) (env : Env) (w : World) :
    ∃ t, ((b.invoke args).run env).run w = .ok (.err t) w :=
  ⟨_, invoke_of_unwrap_error (unwrap_of_count_mismatch _ _ _ h) rfl env w⟩

/-- A session is the one instance of the class of sessions. -/
theorem isInstance_session {b : Backing} : b.isInstance .session = true ↔ b = .session := by
  cases b <;> simp [Backing.isInstance]

theorem expect_session_error {b : Backing} (h : b ≠ .session) :
    ∃ m, b.expect (some .session) = .error ⟨.basicTypeError, m⟩ := by
  cases b with
  | absent => exact ⟨_, rfl⟩
  | session => exact absurd rfl h
  | foreign c => exact ⟨_, rfl⟩

/-- The end of a call of PEEK or POKE once its address is unwrapped to `i`: a negative address,
and then an environment that no session backs, are faults before the memory is reached;
otherwise the call answers the number the function returns, with the memory it leaves. So the
call is answered as the store says for any call the store answers so. -/
theorem invoke_guarded {b : Builtin} {args values : List HostValue} {env : Env} {w : World}
    {i : Int} {r : Float} {m : Memory} {msg : CodeString} (hu : b.shape.unwrap b.label args = .ok values)
    (ho : b.shape.output = .float)
    (hcall : ((b.fn.call values).run env).run w =
      if i < 0 then .error ⟨.basicValueError, msg⟩ w
      else
        match env.backing.expect (some .session) with
        | .error e => .error e w
        | .ok _ => .ok (.float r) { w with memory := m })
    {c : CellCall} (hans : c.answer w.memory =
      if 0 ≤ i ∧ env.backing = .session then some (r, m) else none) :
    c.Answered w (((b.invoke args).run env).run w) := by
  unfold CellCall.Answered
  rw [hans, invoke_run, hu]
  simp only [hcall]
  by_cases hi : i < 0
  · rw [if_neg (by omega), if_pos hi]
    exact ⟨_, rfl⟩
  · by_cases hc : env.backing = .session
    · rw [if_pos ⟨by omega, hc⟩]
      simp only [if_neg hi, hc, ho]
      rfl
    · obtain ⟨e, he⟩ := expect_session_error hc
      rw [if_neg fun h => hc h.2]
      simp only [if_neg hi, he]
      exact ⟨_, rfl⟩

/-- A finite number fits the integer kind. -/
theorem fits_int_of_finite {x : Float} {neg : Bool} {m : Nat} {q : Int}
    (hx : Decimal.Binary.ofFloat x = .finite neg m q) : Fits .int (.obj (.num x)) :=
  ⟨x, neg, m, q, rfl, hx⟩

theorem cellAddress?_of_finite {b : Backing} {x : Float} {neg : Bool} {m : Nat} {q : Int}
    (hx : Decimal.Binary.ofFloat x = .finite neg m q) :
    cellAddress? b (.obj (.num x)) =
      if 0 ≤ towardZero x ∧ b = .session then some (towardZero x) else none := by
  simp [cellAddress?, hx]

/-- An argument that does not unwrap as an integer reaches no address. -/
theorem cellAddress?_of_unwrap_error {b : Backing} {a : HostValue} {name : CodeString} {k : Nat}
    {e : HostError} (h : unwrapArg name k .int a = .error e) : cellAddress? b a = none := by
  rcases a with _ | _ | _ | _ | _ | _ | _ | (x | s | t) <;> try rfl
  rcases hx : Decimal.Binary.ofFloat x with _ | _ | ⟨neg, m, q⟩
  · simp [cellAddress?, hx]
  · simp [cellAddress?, hx]
  · rw [unwrapArg_of_fits (fits_int_of_finite hx)] at h
    cases h

/-- A call of PEEK with one argument unwraps it as an integer. -/
theorem unwrap_peek (a : HostValue) :
    peekBuiltin.shape.unwrap peekBuiltin.label [a] = (unwrapArg "PEEK" 1 .int a).map ([·]) := by
  unfold CallShape.unwrap
  simp [peekBuiltin, unwrapEach]
  cases unwrapArg "PEEK" 1 .int a <;> rfl

/-- A call of POKE with two arguments unwraps the first as an integer and the second as a
double. -/
theorem unwrap_poke (a v : HostValue) :
    pokeBuiltin.shape.unwrap pokeBuiltin.label [a, v] =
      (do let x ← unwrapArg "POKE" 1 .int a; let y ← unwrapArg "POKE" 2 .float v; pure [x, y]) := by
  unfold CallShape.unwrap
  simp [pokeBuiltin, unwrapEach]

theorem peek_answered (args : List HostValue) (b : Backing) (ending : CodeString) (w : World) :
    (CellCall.mk false args b).Answered w (((peekBuiltin.invoke args).run ⟨ending, b⟩).run w) := by
  match args with
  | [a] =>
    rcases hu : unwrapArg "PEEK" 1 .int a with e | x
    · -- an argument that is no finite number: its fault, and no address
      simp only [CellCall.Answered, CellCall.answer_peek, cellAddress?_of_unwrap_error hu,
        Option.map_none]
      exact ⟨_, invoke_of_unwrap_error (by rw [unwrap_peek, hu]; rfl) (unwrapArg_error hu).1 _ _⟩
    · obtain ⟨y, neg, m, q, rfl, hy⟩ := fits_of_unwrapArg_ok hu
      have hunwrap : peekBuiltin.shape.unwrap peekBuiltin.label [.obj (.num y)] =
          .ok [.int (towardZero y)] := by
        rw [unwrap_peek, unwrapArg_of_fits (fits_int_of_finite hy)]
        rfl
      refine invoke_guarded hunwrap rfl (peek_call (towardZero y) ⟨ending, b⟩ w) ?_
      rw [CellCall.answer_peek, cellAddress?_of_finite hy]
      split <;> rfl
  | [] => exact invoke_of_count_mismatch (by decide) _ w
  | a :: v :: rest =>
    have h : 0 ≤ peekBuiltin.shape.arity ∧
        ((a :: v :: rest).length : Int) ≠ peekBuiltin.shape.arity := by
      simp [peekBuiltin]
      omega
    have hans : (CellCall.mk false (a :: v :: rest) b).answer w.memory = none :=
      CellCall.answer_of_length (by simp [cellArity]; omega) _
    simp only [CellCall.Answered, hans]
    exact invoke_of_count_mismatch h _ w

theorem poke_answered (args : List HostValue) (b : Backing) (ending : CodeString) (w : World) :
    (CellCall.mk true args b).Answered w (((pokeBuiltin.invoke args).run ⟨ending, b⟩).run w) := by
  match args with
  | [a, v] =>
    rcases hu : unwrapArg "POKE" 1 .int a with e | x
    · -- an address that is no finite number: its fault, and no write
      simp only [CellCall.Answered, CellCall.answer_poke_of_address (cellAddress?_of_unwrap_error hu)]
      refine ⟨_, invoke_of_unwrap_error ?_ (unwrapArg_error hu).1 _ _⟩
      rw [unwrap_poke, hu]
      rfl
    · obtain ⟨y, neg, m, q, rfl, hy⟩ := fits_of_unwrapArg_ok hu
      rw [unwrapArg_of_fits (fits_int_of_finite hy)] at hu
      cases hu
      rcases hv : unwrapArg "POKE" 2 .float v with e | z
      · -- a value that is no number: its fault, and no write
        have hnum : ∀ x, v ≠ .obj (.num x) := by
          rintro x rfl
          cases hv
        simp only [CellCall.Answered, CellCall.answer_poke_of_value hnum]
        refine ⟨_, invoke_of_unwrap_error ?_ (unwrapArg_error hv).1 _ _⟩
        rw [unwrap_poke, unwrapArg_of_fits (fits_int_of_finite hy)]
        simp [hv]
        rfl
      · obtain ⟨z, rfl⟩ := fits_of_unwrapArg_ok hv
        have hunwrap : pokeBuiltin.shape.unwrap pokeBuiltin.label [.obj (.num y), .obj (.num z)] =
            .ok [.int (towardZero y), .float z] := by
          rw [unwrap_poke, unwrapArg_of_fits (fits_int_of_finite hy)]
          rfl
        refine invoke_guarded hunwrap rfl (poke_call (towardZero y) z ⟨ending, b⟩ w) ?_
        rw [CellCall.answer_poke, cellAddress?_of_finite hy]
        split <;> rfl
  | [] => exact invoke_of_count_mismatch (by decide) _ w
  | [a] =>
    have h : 0 ≤ pokeBuiltin.shape.arity ∧ ([a].length : Int) ≠ pokeBuiltin.shape.arity := by
      simp [pokeBuiltin]
    exact invoke_of_count_mismatch h _ w
  | a :: v :: x :: rest =>
    have h : 0 ≤ pokeBuiltin.shape.arity ∧
        ((a :: v :: x :: rest).length : Int) ≠ pokeBuiltin.shape.arity := by
      simp [pokeBuiltin]
      omega
    have hans : (CellCall.mk true (a :: v :: x :: rest) b).answer w.memory = none :=
      CellCall.answer_of_length (by simp [cellArity]; omega) _
    simp only [CellCall.Answered, hans]
    exact invoke_of_count_mismatch h _ w

/-- Every call of PEEK or POKE, in an environment of any backing, is answered as the store
says. -/
theorem cell_answered (c : CellCall) (ending : CodeString) (w : World) :
    c.Answered w ((((cellBuiltin c.poke).invoke c.args).run ⟨ending, c.backing⟩).run w) := by
  rcases c with ⟨_ | _, args, b⟩
  · exact peek_answered args b ending w
  · exact poke_answered args b ending w

/-! ## One call by name -/

/-- A call of PEEK or POKE by name in an environment the session backs, once its levels are
taken: a count of arguments other than the arity fails before the builtin runs, and otherwise
the call is answered as the store says, a fault stopping the program with the world as it
was. -/
theorem makeCall_cell {ctx : Context} (hs : HasCells ctx.registry)
    (hb : ctx.env.backing = .session) (poke : Bool) (vs : List Value) (pos : Option Pos)
    (w : World) :
    match (CellCall.mk poke (vs.map .obj) .session).answer w.memory with
    | some (v, m) => ∃ w', ((makeCall (cellName poke) vs pos).run ctx).run w = .ok (.num v) w' ∧
        w'.memory = m
    | none => ∃ f, ((makeCall (cellName poke) vs pos).run ctx).run w = .error f w := by
  rw [makeCall_run, hs poke]
  have ha := cell_answered ⟨poke, vs.map .obj, .session⟩ ctx.env.lineEnding w
  have henv : (⟨ctx.env.lineEnding, .session⟩ : Env) = ctx.env := by
    rw [← hb]
  rw [henv] at ha
  by_cases hc : cellArity poke ≥ 0 ∧ (vs.length : Int) ≠ cellArity poke
  · -- a wrong count fails before the builtin runs, and no call with it is answered
    have hnone : (CellCall.mk poke (vs.map .obj) .session).answer w.memory = none :=
      CellCall.answer_of_length (by simpa using hc.2) _
    simp only [hnone, if_pos hc]
    exact ⟨_, rfl⟩
  · simp only [if_neg hc, Signature.invoke]
    unfold CellCall.Answered at ha
    rcases hans : (CellCall.mk poke (vs.map .obj) .session).answer w.memory with _ | ⟨v, m⟩ <;>
      rw [hans] at ha
    · obtain ⟨t, ht⟩ := ha
      rw [ht]
      exact ⟨_, rfl⟩
    · rw [ha]
      cases ctx.logCalls
      · exact ⟨_, rfl, rfl⟩
      · exact ⟨_, rfl, rfl⟩

/-- The levels a call of PEEK or POKE takes beyond its frame: those of a call refused for its
count of arguments, or those of a builtin called. -/
def cellUses (poke : Bool) (count : Nat) : List StackUse :=
  if (count : Int) ≠ cellArity poke then Stack.arityUses else Stack.invokeUses

theorem callUses_cell {ctx : Context} (hs : HasCells ctx.registry) (poke : Bool) (count : Nat) :
    ctx.callUses (cellName poke) count = cellUses poke count := by
  unfold Context.callUses cellUses
  rw [hs poke]
  cases poke <;> simp [cellArity]

@[simp] theorem cellName_beq (poke : Bool) : (cellName poke == "POKE") = poke := by
  cases poke <;> decide

/-! ## The store law as a machine -/

/-- The state of the store law: the calls of PEEK and POKE made so far, in order. A refused
call, and a level past the limit of the host's stack, stop what they are part of. -/
abbrev LawM := EStateM Unit (List CellCall)

/-- A call answered by the store law, on a memory that held `m` before the calls made so far:
PEEK with the number the last POKE before it wrote at its address, or what the address held in
`m`; POKE with its number; any other call is refused. The call is noted either way. -/
def lawCall (m : Memory) (c : CellCall) : LawM Value := fun before =>
  match CellCall.lawAnswer m before c with
  | some v => .ok (.num v) (before ++ [c])
  | none => .error () (before ++ [c])

theorem lawCall_run (m : Memory) (c : CellCall) (before : List CellCall) :
    (lawCall m c).run before =
      match CellCall.lawAnswer m before c with
      | some v => .ok (.num v) (before ++ [c])
      | none => .error () (before ++ [c]) := rfl

/-- Takes levels of the host's stack: the first past the limit stops. -/
def lawLevels (stack : Stack) (d : Nat) (us : List StackUse) : LawM Unit :=
  match stack.exceeds d us with
  | some _ => throw ()
  | none => pure ()

/-- A call made from a frame at depth `d`: its levels of the host's stack, then its answer. -/
def lawCallAt (m : Memory) (stack : Stack) (d : Nat) (c : CellCall) : LawM Value := do
  lawLevels stack (d + 1) (cellUses c.poke c.args.length)
  lawCall m c

/-- Instructions whose every call names PEEK or POKE. -/
def CellCode (is : List Instr) : Prop :=
  ∀ n p d, Instr.call n p d ∈ is → ∃ poke, n = cellName poke

theorem CellCode.tail {i : Instr} {is : List Instr} (h : CellCode (i :: is)) : CellCode is :=
  fun n p d hmem => h n p d (List.mem_cons_of_mem _ hmem)

/-- The machine of `exec` for a program whose calls are PEEK and POKE, with the store law
answering each call: every instruction takes its levels of the host's stack first, and each
call, made once its arguments are evaluated, is answered by `lawCall`. -/
def lawExec (m : Memory) (stack : Stack) :
    List Instr → List (List Value) → LawM (List (List Value))
  | [], st => pure st
  | .open d :: is, st => do
    lawLevels stack d [.frame, .frame]
    lawExec m stack is ([] :: st)
  | .push v d :: is, vs :: st => do
    lawLevels stack d [.frame]
    lawExec m stack is ((vs ++ [v]) :: st)
  | .call n _ d :: is, args :: vs :: st => do
    let v ← lawCallAt m stack d ⟨n == "POKE", args.map .obj, .session⟩
    lawExec m stack is ((vs ++ [v]) :: st)
  | .push _ _ :: _, [] | .call _ _ _ :: _, [] | .call _ _ _ :: _, [_] => pure []

/-! ## Evaluation agrees with the store law -/

/-- A result of the store law and a result of an evaluation agree: the same value, or both a
failure, with the memory that the law's calls leave on `m`. -/
def LawAgrees {α : Type} (m : Memory) :
    EStateM.Result Unit (List CellCall) α → EStateM.Result Failure World α → Prop
  | .ok a cs, .ok b w => b = a ∧ w.memory = CellCall.replay cs m
  | .error _ cs, .error _ w => w.memory = CellCall.replay cs m
  | _, _ => False

/-- Agreement goes through a bind: the first steps agree, and the rest agree from every pair of
results that agree. -/
theorem LawAgrees.bind {α β : Type} {m : Memory} {x : LawM α} {k : α → LawM β} {y : EvalM α}
    {k' : α → EvalM β} {ctx : Context} {cs : List CellCall} {w : World}
    (h : LawAgrees m (x.run cs) ((y.run ctx).run w))
    (hk : ∀ a cs' w', w'.memory = CellCall.replay cs' m →
      LawAgrees m ((k a).run cs') (((k' a).run ctx).run w')) :
    LawAgrees m ((x >>= k).run cs) (((y >>= k').run ctx).run w) := by
  rw [EStateM.run_bind, ReaderT.run_bind, EStateM.run_bind]
  cases hx : x.run cs <;> cases hy : (y.run ctx).run w <;> rw [hx, hy] at h <;>
    simp only [LawAgrees] at h ⊢
  · obtain ⟨rfl, hm⟩ := h
    exact hk _ _ _ hm
  · exact h

theorem lawLevels_agrees {m : Memory} {ctx : Context} {cs : List CellCall} {w : World}
    (hw : w.memory = CellCall.replay cs m) (d : Nat) (us : List StackUse) :
    LawAgrees m ((lawLevels ctx.stack d us).run cs) (((takeLevels d us).run ctx).run w) := by
  rw [takeLevels_run]
  unfold lawLevels
  cases ctx.stack.exceeds d us
  · exact ⟨rfl, hw⟩
  · exact hw

/-- A call of PEEK or POKE by name, in an environment the session backs, agrees with the store
law. -/
theorem lawCall_agrees {ctx : Context} (hs : HasCells ctx.registry)
    (hb : ctx.env.backing = .session) {m : Memory} {cs : List CellCall} {w : World}
    (hw : w.memory = CellCall.replay cs m) (poke : Bool) (vs : List Value) (pos : Option Pos) :
    LawAgrees m ((lawCall m ⟨poke, vs.map .obj, .session⟩).run cs)
      (((makeCall (cellName poke) vs pos).run ctx).run w) := by
  have h := makeCall_cell hs hb poke vs pos w
  rw [lawCall_run, CellCall.lawAnswer_eq, ← hw]
  rcases hans : (CellCall.mk poke (vs.map .obj) .session).answer w.memory with _ | ⟨v, m'⟩ <;>
    rw [hans] at h
  · -- refused: nothing is written
    obtain ⟨f, hf⟩ := h
    simp only [Option.map_none, hf, LawAgrees]
    rw [CellCall.replay_concat, ← hw, CellCall.after_of_answer_none hans]
  · obtain ⟨w', hw', hm'⟩ := h
    simp only [Option.map_some, hw', LawAgrees, true_and]
    rw [CellCall.replay_concat, ← hw, hm', CellCall.eq_after_of_answer hans]

/-- A call of PEEK or POKE by name from a frame at depth `d`, its levels of the host's stack
first, agrees with the store law. -/
theorem callBuiltin_agrees {ctx : Context} (hs : HasCells ctx.registry)
    (hb : ctx.env.backing = .session) {m : Memory} {cs : List CellCall} {w : World}
    (hw : w.memory = CellCall.replay cs m) (d : Nat) (poke : Bool) (vs : List Value)
    (pos : Option Pos) :
    LawAgrees m ((lawCallAt m ctx.stack d ⟨poke, vs.map .obj, .session⟩).run cs)
      (((callBuiltin d (cellName poke) vs pos).run ctx).run w) := by
  rw [callBuiltin_run, callUses_cell hs]
  unfold lawCallAt lawLevels
  simp only [List.length_map]
  cases ctx.stack.exceeds (d + 1) (cellUses poke vs.length)
  · exact lawCall_agrees hs hb hw poke vs pos
  · exact hw

/-- The run lemma: instructions whose calls are PEEK and POKE run on the machine of `exec` as
on the store law's machine, from any stack of values and after any calls. -/
theorem exec_agrees {ctx : Context} (hs : HasCells ctx.registry)
    (hb : ctx.env.backing = .session) (m : Memory) :
    ∀ (is : List Instr) (st : List (List Value)) (cs : List CellCall) (w : World),
      CellCode is → w.memory = CellCall.replay cs m →
      LawAgrees m ((lawExec m ctx.stack is st).run cs) (((exec is st).run ctx).run w)
  | [], st, cs, w, _, hw => ⟨rfl, hw⟩
  | .open d :: is, st, cs, w, hc, hw => by
    simp only [lawExec, exec]
    exact LawAgrees.bind (lawLevels_agrees hw d _) fun _ cs' w' hw' =>
      exec_agrees hs hb m is ([] :: st) cs' w' hc.tail hw'
  | .push v d :: is, [], cs, w, _, hw => ⟨rfl, hw⟩
  | .push v d :: is, vs :: st, cs, w, hc, hw => by
    simp only [lawExec, exec]
    exact LawAgrees.bind (lawLevels_agrees hw d _) fun _ cs' w' hw' =>
      exec_agrees hs hb m is ((vs ++ [v]) :: st) cs' w' hc.tail hw'
  | .call n p d :: is, [], cs, w, _, hw => ⟨rfl, hw⟩
  | .call n p d :: is, [_], cs, w, _, hw => ⟨rfl, hw⟩
  | .call n p d :: is, args :: vs :: st, cs, w, hc, hw => by
    obtain ⟨poke, rfl⟩ := hc n p d List.mem_cons_self
    simp only [lawExec, exec, cellName_beq]
    exact LawAgrees.bind (callBuiltin_agrees hs hb hw d poke args (some p)) fun v cs' w' hw' =>
      exec_agrees hs hb m is ((vs ++ [v]) :: st) cs' w' hc.tail hw'

/-! ## Requests made of a session -/

theorem mapM_toValue_obj (vs : List Value) :
    (vs.map HostValue.obj).mapM (fun a => Session.liftHostExcept a.toValue) =
      (pure vs : SessionM (List Value)) := by
  induction vs with
  | nil => rfl
  | cons v vs ih =>
    simp only [List.map_cons, List.mapM_cons, ih]
    rfl

/-- A call through the session with runtime values evaluates the call by name in the session's
environment, from the frame below the session's own. -/
theorem call_obj (name : CodeString) (vs : List Value) (s : Session) :
    Session.call name (vs.map .obj) s =
      match ((callBuiltin s.stack.callDepth name vs none).run
          ⟨s.registry, s.env, s.verbosity.showsDebug, s.stack⟩).run s.world with
      | .ok a w => .ok a { s with world := w }
      | .error f w => .error f { s with world := w } := by
  simp only [Session.call, mapM_toValue_obj, bind, EStateM.bind, get, getThe,
    MonadStateOf.get, EStateM.get, Session.evalIn, pure, EStateM.pure]
  rcases ((callBuiltin s.stack.callDepth name vs none).run
    ⟨s.registry, s.env, s.verbosity.showsDebug, s.stack⟩).run s.world with ⟨a, w⟩ | ⟨f, w⟩ <;> rfl

/-- A direct invocation runs the name's implementation in the environment given. -/
theorem invoke_eq (name : CodeString) (args : List HostValue) (env : Env) (s : Session) :
    Session.invoke name args env s =
      match (s.registry.get name).2 with
      | none => .ok none s
      | some f =>
        match ((f.invoke args).run env).run s.world with
        | .ok a w => .ok (some a) { s with world := w }
        | .error e w => .error (.host e) { s with world := w } := by
  simp only [Session.invoke, bind, EStateM.bind, get, getThe, MonadStateOf.get, EStateM.get]
  cases (s.registry.get name).2 with
  | none => rfl
  | some f =>
    simp only [Functor.map, EStateM.map, Session.evalIn, liftHost_run]
    rcases ((f.invoke args).run env).run s.world with ⟨a, w⟩ | ⟨e, w⟩ <;> rfl

theorem map_session {α β : Type} (f : α → β) (x : SessionM α) (s : Session) :
    (f <$> x) s = match x s with
      | .ok a t => .ok (f a) t
      | .error e t => .error e t := by
  show EStateM.map f x s = _
  unfold EStateM.map
  cases x s <;> rfl

/-- A request made of a session: a run of a source, a call of PEEK (`poke = false`) or POKE by
name with runtime values, as a call through the session is made, or a direct invocation of the
name's implementation in an environment. -/
inductive CellRequest where
  | run (source : CodeString) (file : Option CodeString)
  | byName (poke : Bool) (args : List Value)
  | direct (poke : Bool) (args : List HostValue) (env : Env)

namespace CellRequest

/-- Makes a request: the value of a run's program, the value of a call, or nothing when the
name has no implementation. -/
def perform : CellRequest → SessionM (Option Value)
  | run source file => (·.value) <$> Session.run source file
  | byName p vs => some <$> Session.call (cellName p) (vs.map .obj)
  | direct p args env => Session.invoke (cellName p) args env

/-- Makes requests one after the other, as a caller that catches every failure does: the answer
of each, nothing for a failure. -/
def performAll : List CellRequest → SessionM (List (Option Value))
  | [] => pure []
  | r :: rs => do
    let a ← tryCatch r.perform fun _ => pure none
    let as ← performAll rs
    pure (a :: as)

/-- What the store law answers a request, on a memory that held `m` before the calls made so
far, with the host's stack of the session. A run reads its program as a session does and runs
it on the law's machine, from the depth a run evaluates at; a call by name is made from the
frame a call through the session is made from; a direct invocation is made in its environment,
where a refused call is answered by nothing. -/
def law (m : Memory) (stack : Stack) : CellRequest → LawM (Option Value)
  | run source file =>
    match readProgram stack source file with
    | .error _ => throw ()
    | .ok prog =>
      (fun st => (st.headD []).getLast?) <$> lawExec m stack (argsCode stack.runDepth prog) [[]]
  | byName p vs => some <$> lawCallAt m stack stack.callDepth ⟨p, vs.map .obj, .session⟩
  | direct p args env => tryCatch (some <$> lawCall m ⟨p, args, env.backing⟩) fun _ => pure none

/-- What the store law answers requests made one after the other, each failure caught. -/
def lawAll (m : Memory) (stack : Stack) : List CellRequest → LawM (List (Option Value))
  | [] => pure []
  | r :: rs => do
    let a ← tryCatch (r.law m stack) fun _ => pure none
    let as ← lawAll m stack rs
    pure (a :: as)

/-- A request that calls only PEEK and POKE: a run whose program, once read, calls no other
name. -/
def CallsCells (stack : Stack) : CellRequest → Prop
  | run source file => ∀ prog, readProgram stack source file = .ok prog →
      CellCode (argsCode stack.runDepth prog)
  | _ => True

/-- An answer agrees with the store law's: it is the law's, or a fault value where the law
answers nothing. -/
def Matches (a b : Option Value) : Prop :=
  a = b ∨ b = none ∧ ∃ t, a = some (.err t)

end CellRequest

/-- A result of the store law and a result of a request on a session agree: answers that
match, or both a failure; either way the session changes only in its world, whose memory is the
one that the law's calls leave on `m`. -/
def SessionAgrees (s : Session) (m : Memory) :
    EStateM.Result Unit (List CellCall) (Option Value) →
      EStateM.Result Failure Session (Option Value) → Prop
  | .ok b cs, .ok a t =>
    CellRequest.Matches a b ∧ ∃ w, t = { s with world := w } ∧ w.memory = CellCall.replay cs m
  | .error _ cs, .error _ t => ∃ w, t = { s with world := w } ∧ w.memory = CellCall.replay cs m
  | _, _ => False

/-- A program runs as its instructions on the machine, from the depth a run evaluates at. -/
theorem interpret_run (prog : List Expr) (ctx : Context) (w : World) :
    ((interpret prog).run ctx).run w =
      (((exec (argsCode ctx.stack.runDepth prog) [[]]).run ctx).run w).map
        fun st => (st.headD []).getLast? := by
  rw [interpret_eq_exec]
  simp only [ReaderT.run_bind, run_read, pure_bind, ReaderT.run_map, EStateM.run_map]

/-- A run of a source whose calls are PEEK and POKE agrees with the store law. -/
theorem run_agrees {s : Session} (hs : HasCells s.registry) {m : Memory} {cs : List CellCall}
    (hw : s.world.memory = CellCall.replay cs m) (source : CodeString) (file : Option CodeString)
    (hr : (CellRequest.run source file).CallsCells s.stack) :
    SessionAgrees s m (((CellRequest.run source file).law m s.stack).run cs)
      ((CellRequest.run source file).perform s) := by
  simp only [CellRequest.perform, CellRequest.law, map_session, run_eq]
  cases hp : readProgram s.stack source file with
  | error f => exact ⟨s.world, rfl, hw⟩
  | ok prog =>
    have h := @exec_agrees ⟨s.registry, s.env, s.verbosity.showsDebug, s.stack⟩ hs rfl m
      (argsCode s.stack.runDepth prog) [[]] cs s.world (hr prog hp) hw
    dsimp only at h
    simp only [EStateM.run_map, interpret_run]
    rcases hl : (lawExec m s.stack (argsCode s.stack.runDepth prog) [[]]).run cs
      with ⟨st, cs'⟩ | ⟨_, cs'⟩ <;>
    rcases he : ((exec (argsCode s.stack.runDepth prog) [[]]).run
        ⟨s.registry, s.env, s.verbosity.showsDebug, s.stack⟩).run s.world
      with ⟨st', w⟩ | ⟨f, w⟩ <;>
    rw [hl, he] at h <;> simp only [LawAgrees] at h
    · obtain ⟨rfl, hm⟩ := h
      exact ⟨.inl rfl, w, rfl, hm⟩
    · exact ⟨w, rfl, h⟩

/-- A call through the session of PEEK or POKE agrees with the store law. -/
theorem byName_agrees {s : Session} (hs : HasCells s.registry) {m : Memory} {cs : List CellCall}
    (hw : s.world.memory = CellCall.replay cs m) (p : Bool) (vs : List Value) :
    SessionAgrees s m (((CellRequest.byName p vs).law m s.stack).run cs)
      ((CellRequest.byName p vs).perform s) := by
  have h := @callBuiltin_agrees ⟨s.registry, s.env, s.verbosity.showsDebug, s.stack⟩ hs rfl m cs
    s.world hw s.stack.callDepth p vs none
  dsimp only at h
  simp only [CellRequest.perform, CellRequest.law, map_session, call_obj, EStateM.run_map]
  rcases hl : (lawCallAt m s.stack s.stack.callDepth ⟨p, vs.map .obj, .session⟩).run cs
    with ⟨v, cs'⟩ | ⟨_, cs'⟩ <;>
  rcases he : ((callBuiltin s.stack.callDepth (cellName p) vs none).run
      ⟨s.registry, s.env, s.verbosity.showsDebug, s.stack⟩).run s.world
    with ⟨v', w⟩ | ⟨f, w⟩ <;>
  rw [hl, he] at h <;> simp only [LawAgrees] at h
  · obtain ⟨rfl, hm⟩ := h
    exact ⟨.inl rfl, w, rfl, hm⟩
  · exact ⟨w, rfl, h⟩

/-- A direct invocation of PEEK or POKE, in an environment of any backing, agrees with the
store law: a refused call is a fault value there, and writes nothing. -/
theorem direct_agrees {s : Session} (hs : HasCells s.registry) {m : Memory}
    {cs : List CellCall} (hw : s.world.memory = CellCall.replay cs m) (p : Bool)
    (args : List HostValue) (env : Env) :
    SessionAgrees s m (((CellRequest.direct p args env).law m s.stack).run cs)
      ((CellRequest.direct p args env).perform s) := by
  have ha := cell_answered ⟨p, args, env.backing⟩ env.lineEnding s.world
  unfold CellCall.Answered at ha
  simp only [CellRequest.perform, CellRequest.law, invoke_eq, hs p, Signature.invoke,
    EStateM.run_tryCatch, EStateM.run_map]
  simp only [lawCall_run, CellCall.lawAnswer_eq, ← hw]
  rcases hans : (CellCall.mk p args env.backing).answer s.world.memory with _ | ⟨v, m'⟩ <;>
    rw [hans] at ha
  · -- refused: a fault value, and nothing written
    obtain ⟨t, ht⟩ := ha
    simp only [ht, Option.map_none]
    have hm : s.world.memory = CellCall.replay (cs ++ [⟨p, args, env.backing⟩]) m := by
      rw [CellCall.replay_concat, ← hw, CellCall.after_of_answer_none hans]
    exact ⟨.inr ⟨rfl, t, rfl⟩, s.world, rfl, hm⟩
  · simp only [ha, Option.map_some]
    exact ⟨.inl rfl, _, rfl,
      by rw [CellCall.replay_concat, ← hw, CellCall.eq_after_of_answer hans]⟩

/-- Every request that calls only PEEK and POKE agrees with the store law. -/
theorem perform_agrees {s : Session} (hs : HasCells s.registry) {m : Memory}
    {cs : List CellCall} (hw : s.world.memory = CellCall.replay cs m) :
    ∀ r : CellRequest, r.CallsCells s.stack →
      SessionAgrees s m ((r.law m s.stack).run cs) (r.perform s)
  | .run source file, hr => run_agrees hs hw source file hr
  | .byName p vs, _ => byName_agrees hs hw p vs
  | .direct p args env, _ => direct_agrees hs hw p args env

theorem tryCatch_session {α : Type} (x : SessionM α) (handler : Failure → SessionM α)
    (s : Session) :
    (tryCatch x handler : SessionM α) s =
      match x s with
      | .ok a s' => .ok a s'
      | .error e s' => handler e s' := by
  show EStateM.tryCatch x handler s = _
  unfold EStateM.tryCatch
  cases x s <;> rfl

/-- A request made by a caller that catches its failure agrees with the law's answer to it,
caught alike. -/
theorem caught_agrees {s : Session} {m : Memory} {l : LawM (Option Value)}
    {x : SessionM (Option Value)} {cs : List CellCall} (h : SessionAgrees s m (l.run cs) (x s)) :
    ∃ b cs' a w, (tryCatch l fun _ => pure none : LawM (Option Value)).run cs = .ok b cs' ∧
      (tryCatch x fun _ => pure none : SessionM (Option Value)) s = .ok a { s with world := w } ∧
      CellRequest.Matches a b ∧ w.memory = CellCall.replay cs' m := by
  rw [EStateM.run_tryCatch, tryCatch_session]
  rcases hl : l.run cs with ⟨b, cs'⟩ | ⟨_, cs'⟩ <;> rcases hx : x s with ⟨a, t⟩ | ⟨f, t⟩ <;>
    rw [hl, hx] at h <;> simp only [SessionAgrees] at h
  · obtain ⟨hab, w, rfl, hm⟩ := h
    exact ⟨b, cs', a, w, rfl, rfl, hab, hm⟩
  · obtain ⟨w, rfl, hm⟩ := h
    exact ⟨none, cs', none, w, rfl, rfl, .inl rfl, hm⟩

/-- The run lemma of requests: made one after the other, each failure caught, they agree with
the store law's answers, and leave the memory the law's calls leave. -/
theorem performAll_agrees {m : Memory} :
    ∀ (rs : List CellRequest) (s : Session) (cs : List CellCall), HasCells s.registry →
      (∀ r ∈ rs, r.CallsCells s.stack) → s.world.memory = CellCall.replay cs m →
      ∃ answers cs', (CellRequest.lawAll m s.stack rs).run cs = .ok answers cs' ∧
        ∃ as w, CellRequest.performAll rs s = .ok as { s with world := w } ∧
          List.Forall₂ CellRequest.Matches as answers ∧ w.memory = CellCall.replay cs' m
  | [], s, cs, _, _, hw => ⟨[], cs, rfl, [], s.world, rfl, .nil, hw⟩
  | r :: rs, s, cs, hs, hr, hw => by
    obtain ⟨b, cs₁, a, w₁, hl, hp, hab, hm₁⟩ :=
      caught_agrees (perform_agrees hs hw r (hr r List.mem_cons_self))
    -- the rest is made on the session the first request left: its registry and stack are the
    -- same
    obtain ⟨bs, cs₂, hls, as, w₂, hps, habs, hm₂⟩ := performAll_agrees rs { s with world := w₁ }
      cs₁ hs (fun r' h' => hr r' (List.mem_cons_of_mem _ h')) hm₁
    have hls' : (CellRequest.lawAll m s.stack rs).run cs₁ = .ok bs cs₂ := hls
    refine ⟨b :: bs, cs₂, ?_, a :: as, w₂, ?_, .cons hab habs, hm₂⟩
    · simp only [CellRequest.lawAll, EStateM.run_bind, hl, hls']
      rfl
    · simp only [CellRequest.performAll, bind, EStateM.bind, hp, hps]
      rfl

/-! ## The store law -/

/-- The store law of PEEK and POKE on a session. Requests made one after the other, each
failure caught (runs of sources whose calls are PEEK and POKE, calls through the session, and
direct invocations in environments of any backing), answer as the store law's machine answers
them (`CellRequest.lawAll`): it answers PEEK with the number the last POKE before it wrote at
its address, or what the address held at the start (zero in a new session), POKE with its
number, and refuses every other call, which is a failure or a fault value; a run's calls are
those of its program, made in post-order, and a run stops at its first refused call or at its
first level past the limit of the host's stack. The session changes only in its world, and
afterwards every address holds the number of the last POKE there, or what it held before. -/
def StoreLaw (s : Session) : Prop :=
  ∀ rs : List CellRequest, (∀ r ∈ rs, r.CallsCells s.stack) →
    ∃ answers calls, (CellRequest.lawAll s.world.memory s.stack rs).run [] = .ok answers calls ∧
      ∃ as w, CellRequest.performAll rs s = .ok as { s with world := w } ∧
        List.Forall₂ CellRequest.Matches as answers ∧
        ∀ i, w.memory.read i = (CellCall.lastWrite calls i).getD (s.world.memory.read i)

/-- Every session whose registry holds PEEK and POKE keeps the store law. -/
theorem storeLaw_of_hasCells {s : Session} (hs : HasCells s.registry) : StoreLaw s := by
  intro rs hr
  obtain ⟨answers, calls, hl, as, w, hp, ha, hm⟩ := performAll_agrees rs s [] hs hr rfl
  exact ⟨answers, calls, hl, as, w, hp, ha, fun i => by rw [hm, CellCall.read_replay]⟩

/-- Loading `mem`, when it executes a module that exports the functions of PEEK and POKE as the
packaged one does, registers PEEK and POKE and leaves a session that keeps the store law; and
so does every session whose registry holds the two. -/
theorem peek_poke_store :
    (∀ (s s₁ : Session) (notes : List String),
      Session.loadModule "mem" s =
        .ok (.defines (some [.function peekFunction, .function pokeFunction]) notes) s₁ →
      ∃ s', Session.loadExtension "mem" s = .ok ["PEEK", "POKE"] s' ∧ HasCells s'.registry ∧
        StoreLaw s') ∧
    ∀ s : Session, HasCells s.registry → StoreLaw s := by
  refine ⟨fun s s₁ notes h => ?_, fun s hs => storeLaw_of_hasCells hs⟩
  obtain ⟨s', hl, hs'⟩ := loadExtension_cells h
  exact ⟨s', hl, hs', storeLaw_of_hasCells hs'⟩

/-- A new session that has executed the packaged module `mem`. -/
def memSession : Session :=
  { Session.packagedSession with
    loaded := [("mem", ⟨"basicfl.libs._mem", "/lib/basicfl/libs/_mem.py",
      .defines (some [.function peekFunction, .function pokeFunction]) ["LOADED libs/_mem.py"]⟩)] }

/-- Loading `mem` in that session registers PEEK and POKE, and the session keeps the store
law. -/
theorem mem_session_store :
    ∃ s', Session.loadExtension "mem" memSession = .ok ["PEEK", "POKE"] s' ∧
      HasCells s'.registry ∧ StoreLaw s' :=
  peek_poke_store.1 memSession memSession ["LOADED libs/_mem.py"] rfl

end CallBasic
