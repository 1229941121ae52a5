import CallBasic.Proofs.Adapter
import CallBasic.Proofs.CallOrder
import CallBasic.Proofs.Registry
/-!
# Loading an extension module

Loading an extension module finds and executes it, then registers the entries of its export
list one after the other, and only once all are registered adds the module to the session's
extensions. Entries without a name are skipped (`namedExports`). Each other entry is
registered under its builtin name with the call shape of its declaration (`adaptExport`), or
stops the loading: with a module error when its name lacks the `fn_` prefix, or with the
error that inspecting its declaration raised.

`loadExtension_registers_until_failure` states the whole loop. When every named entry can be
registered, loading gives their builtin names in order, repeats included, leaves the registry
that registering them in order leaves (`registerAdapted`), and adds the module to the
extensions. Otherwise the first entry that cannot be registered is the error, the registry
holds exactly the entries before it, and the extensions are as they were. A module that cannot
be found or executed, or that has no export list, is a module error that changes neither.

The proof follows the loop: one lemma per kind of entry (`registerExports_other`,
`registerExports_unnamed`, `registerExports_adapted`, `registerExports_refused`), and one
induction over the export list for each outcome. Finding and executing the module touches
only the world and the modules executed so far (`loadModule_frame`).
-/

namespace CallBasic

/-! ## The entries a module registers -/

/-- The function of an entry that has a name. -/
def Export.named? : Export → Option HostFunction
  | .function f => if f.name.isEmpty then none else some f
  | .other => none

/-- The entries of an export list that loading registers, in order. -/
def namedExports (exports : List Export) : List HostFunction :=
  exports.filterMap Export.named?

/-- How loading registers an entry: under its builtin name, adapted with the call shape of its
declaration; or why it cannot: its name lacks the `fn_` prefix, or its declaration has no call
shape. -/
def adaptExport (f : HostFunction) : Except Failure (CodeString × Builtin) :=
  match basicName? f.name with
  | none => .error (.module f.name (missingPrefixMessage f.name) none)
  | some n =>
    match Builtin.adapt f n with
    | .ok b => .ok (n, b)
    | .error e => .error (.host e)

/-- A registry after adapted entries are registered in order, each under its name with the
arity of its call shape. -/
def registerAdapted (r : Registry Signature) (bs : List (CodeString × Builtin)) :
    Registry Signature :=
  bs.foldl (fun r nb => r.register nb.1 nb.2.shape.arity (some (.adapted nb.2))) r

@[simp] theorem registerAdapted_nil (r : Registry Signature) : registerAdapted r [] = r := rfl

@[simp] theorem registerAdapted_cons (r : Registry Signature) (nb : CodeString × Builtin)
    (bs : List (CodeString × Builtin)) :
    registerAdapted r (nb :: bs) =
      registerAdapted (r.register nb.1 nb.2.shape.arity (some (.adapted nb.2))) bs := rfl

@[simp] theorem namedExports_other (rest : List Export) :
    namedExports (.other :: rest) = namedExports rest := rfl

theorem namedExports_function (f : HostFunction) (rest : List Export) :
    namedExports (.function f :: rest) =
      if f.name.isEmpty then namedExports rest else f :: namedExports rest := by
  unfold namedExports
  by_cases h : f.name.isEmpty <;> simp [Export.named?, h]

/-- An entry is registered exactly when its name has the `fn_` prefix and its declaration a
call shape. -/
theorem adaptExport_eq_ok {f : HostFunction} {n : CodeString} {b : Builtin} :
    adaptExport f = .ok (n, b) ↔ basicName? f.name = some n ∧ Builtin.adapt f n = .ok b := by
  unfold adaptExport
  cases hb : basicName? f.name with
  | none => simp
  | some n' =>
    dsimp only
    constructor
    · intro h
      split at h
      · rename_i b' ha
        obtain ⟨rfl, rfl⟩ := Prod.mk.inj (Except.ok.inj h)
        exact ⟨rfl, ha⟩
      · cases h
    · rintro ⟨hn, ha⟩
      cases hn
      rw [ha]

/-- Why an entry is not registered: its name lacks the `fn_` prefix, or its declaration has no
call shape. -/
theorem adaptExport_eq_error {f : HostFunction} {e : Failure} :
    adaptExport f = .error e ↔
      (basicName? f.name = none ∧ e = .module f.name (missingPrefixMessage f.name) none) ∨
      ∃ n e', basicName? f.name = some n ∧ Builtin.adapt f n = .error e' ∧ e = .host e' := by
  unfold adaptExport
  cases hb : basicName? f.name with
  | none => simp [eq_comm]
  | some n' =>
    dsimp only
    constructor
    · intro h
      split at h
      · cases h
      · rename_i e' ha
        exact .inr ⟨n', e', rfl, ha, (Except.error.inj h).symm⟩
    · rintro (⟨⟨⟩, -⟩ | ⟨n, e', hn, ha, rfl⟩)
      cases hn
      rw [ha]

/-! ## One entry at a time -/

namespace Session

/-- A registration changes the registry as it says; at debug level it may also log. -/
theorem register_run (name : CodeString) (arity : Int) (fn : Option Signature) (s : Session) :
    ∃ w, register name arity fn s =
      .ok () { s with registry := s.registry.register name arity fn, world := w } := by
  unfold register
  simp only [bind, EStateM.bind, get, getThe, MonadStateOf.get, EStateM.get, modify, modifyGet,
    MonadStateOf.modifyGet]
  split
  · -- the debug line for a name registered before
    cases s.registry.find? name
    · exact ⟨s.world, rfl⟩
    · exact ⟨_, rfl⟩
  · exact ⟨s.world, rfl⟩

/-- Adapting a function that has a call shape registers it, and the world may gain a debug
line. -/
theorem registerFunction_ok {n : CodeString} {f : HostFunction} {b : Builtin}
    (h : Builtin.adapt f n = .ok b) (s : Session) :
    ∃ w, registerFunction n f s =
      .ok b.shape
        { s with registry := s.registry.register n b.shape.arity (some (.adapted b)),
                 world := w } := by
  obtain ⟨w, hw⟩ := register_run n b.shape.arity (some (.adapted b)) s
  refine ⟨w, ?_⟩
  simp only [registerFunction, liftHostExcept, h, bind, EStateM.bind, pure, EStateM.pure, hw]

/-- A function without a call shape is not registered, and nothing changes. -/
theorem registerFunction_error {n : CodeString} {f : HostFunction} {e : HostError}
    (h : Builtin.adapt f n = .error e) (s : Session) :
    registerFunction n f s = .error (.host e) s := by
  simp only [registerFunction, liftHostExcept, h, bind, EStateM.bind, throw, throwThe,
    MonadExceptOf.throw, EStateM.throw]

theorem registerExports_other (rest : List Export) :
    registerExports (.other :: rest) = registerExports rest := rfl

theorem registerExports_unnamed {f : HostFunction} (h : f.name.isEmpty = true)
    (rest : List Export) : registerExports (.function f :: rest) = registerExports rest := by
  simp [registerExports, h]

/-- The step lemma of an entry that can be registered: it is registered, and the rest are
registered after it, their names after its name. -/
theorem registerExports_adapted {f : HostFunction} {n : CodeString} {b : Builtin}
    (hname : f.name.isEmpty = false) (h : adaptExport f = .ok (n, b)) (rest : List Export)
    (s : Session) :
    ∃ w, registerExports (.function f :: rest) s =
      match registerExports rest
          { s with registry := s.registry.register n b.shape.arity (some (.adapted b)),
                   world := w } with
      | .ok ns s' => .ok (n :: ns) s'
      | .error e s' => .error e s' := by
  obtain ⟨hb, ha⟩ := adaptExport_eq_ok.mp h
  obtain ⟨w, hw⟩ := registerFunction_ok ha s
  refine ⟨w, ?_⟩
  simp only [registerExports, hname, hb, bind, EStateM.bind, hw, pure, EStateM.pure,
    Bool.false_eq_true, if_false]
  cases registerExports rest _ <;> rfl

/-- The step lemma of an entry that cannot be registered: loading stops at it with its error,
and nothing changes. -/
theorem registerExports_refused {f : HostFunction} {e : Failure}
    (hname : f.name.isEmpty = false) (h : adaptExport f = .error e) (rest : List Export)
    (s : Session) : registerExports (.function f :: rest) s = .error e s := by
  rcases adaptExport_eq_error.mp h with ⟨hb, rfl⟩ | ⟨n, e', hb, ha, rfl⟩
  · simp only [registerExports, hname, hb, Bool.false_eq_true, if_false, throw, throwThe,
      MonadExceptOf.throw, EStateM.throw]
  · simp only [registerExports, hname, hb, bind, EStateM.bind, registerFunction_error ha,
      Bool.false_eq_true, if_false]

/-! ## The whole export list -/

/-- A list mapped without error maps its head and its tail without error. -/
theorem mapM_cons_ok {ε α β : Type} {f : α → Except ε β} {a : α} {as : List α} {bs : List β}
    (h : (a :: as).mapM f = .ok bs) :
    ∃ b bs', f a = .ok b ∧ as.mapM f = .ok bs' ∧ bs = b :: bs' := by
  rw [List.mapM_cons] at h
  obtain ⟨b, hb, h⟩ := bind_ok_inv h
  obtain ⟨bs', hbs', h⟩ := bind_ok_inv h
  exact ⟨b, bs', hb, hbs', (Except.ok.inj h).symm⟩

/-- The run lemma when every named entry can be registered: their names in order, and the
registry they leave registered in order. -/
theorem registerExports_all (exports : List Export) {adapted : List (CodeString × Builtin)}
    (h : (namedExports exports).mapM adaptExport = .ok adapted) (s : Session) :
    ∃ w, registerExports exports s =
      .ok (adapted.map Prod.fst)
        { s with registry := registerAdapted s.registry adapted, world := w } := by
  induction exports generalizing adapted s with
  | nil =>
    simp only [namedExports, List.filterMap_nil, List.mapM_nil, pure, Except.pure,
      Except.ok.injEq] at h
    subst h
    exact ⟨s.world, rfl⟩
  | cons x rest ih =>
    cases x with
    | other => exact ih h s
    | function f =>
      rw [namedExports_function] at h
      by_cases hname : f.name.isEmpty = true
      · rw [if_pos hname] at h
        rw [registerExports_unnamed hname]
        exact ih h s
      · rw [if_neg hname] at h
        -- the entry itself is adapted, then the rest
        obtain ⟨⟨n, b⟩, adapted', hf, hr, rfl⟩ := mapM_cons_ok h
        obtain ⟨w, hw⟩ := registerExports_adapted (by simpa using hname) hf rest s
        obtain ⟨w', hw'⟩ := ih hr
          { s with registry := s.registry.register n b.shape.arity (some (.adapted b)),
                   world := w }
        exact ⟨w', by rw [hw, hw']; rfl⟩

/-- The run lemma when a named entry cannot be registered: loading stops at the first such
entry with its error, the entries before it registered in order. -/
theorem registerExports_until (exports : List Export) {pre post : List HostFunction}
    {f : HostFunction} (hsplit : namedExports exports = pre ++ f :: post)
    {adapted : List (CodeString × Builtin)} (hpre : pre.mapM adaptExport = .ok adapted)
    {e : Failure} (hf : adaptExport f = .error e) (s : Session) :
    ∃ w, registerExports exports s =
      .error e { s with registry := registerAdapted s.registry adapted, world := w } := by
  induction exports generalizing pre adapted s with
  | nil => simp [namedExports] at hsplit
  | cons x rest ih =>
    cases x with
    | other => exact ih hsplit hpre s
    | function g =>
      rw [namedExports_function] at hsplit
      by_cases hname : g.name.isEmpty = true
      · rw [if_pos hname] at hsplit
        rw [registerExports_unnamed hname]
        exact ih hsplit hpre s
      · rw [if_neg hname] at hsplit
        have hname' : g.name.isEmpty = false := by simpa using hname
        cases pre with
        | nil =>
          -- the failing entry comes first: nothing is registered
          obtain ⟨rfl, -⟩ := List.cons.inj hsplit
          simp only [List.mapM_nil, pure, Except.pure, Except.ok.injEq] at hpre
          subst hpre
          exact ⟨s.world, registerExports_refused hname' hf rest s⟩
        | cons g' pre' =>
          obtain ⟨rfl, hrest⟩ := List.cons.inj hsplit
          obtain ⟨⟨n, b⟩, adapted', hg, hr, rfl⟩ := mapM_cons_ok hpre
          obtain ⟨w, hw⟩ := registerExports_adapted hname' hg rest s
          obtain ⟨w', hw'⟩ := ih hrest hr
            { s with registry := s.registry.register n b.shape.arity (some (.adapted b)),
                     world := w }
          exact ⟨w', by rw [hw, hw']; rfl⟩

/-! ## Finding the module -/

/-- Writing diagnostic lines touches only the world. -/
theorem forM_log_run {α : Type} (g : α → CodeString) (xs : List α) (s : Session) :
    ∃ w, (xs.forM fun x => log (g x)) s = .ok () { s with world := w } := by
  induction xs generalizing s with
  | nil => exact ⟨s.world, rfl⟩
  | cons x xs ih =>
    obtain ⟨w, hw⟩ := ih { s with world := { s.world with
      writes := s.world.writes ++ [⟨.diag, g x ++ "\n"⟩] } }
    exact ⟨w, hw⟩

/-- A module executed before is taken from the session, which does not change. -/
theorem loadModule_cached {ns k : CodeString} {m : FoundModule} {s : Session}
    (hc : s.loaded.find? (·.1 == ns) = some (k, m)) : loadModule ns s = .ok m.code s := by
  simp only [loadModule, bind, EStateM.bind, get, getThe, MonadStateOf.get, EStateM.get, hc]
  rfl

/-- A module that no file holds is a module error, and nothing changes. -/
theorem loadModule_not_found {ns : CodeString} {s : Session}
    (hc : s.loaded.find? (·.1 == ns) = none)
    (hf : ns.toString?.bind (s.library.find? s.environPath?) = none) :
    loadModule ns s = .error (.module ns ("Module `" ++ ns ++ "` not found.") none) s := by
  simp only [loadModule, bind, EStateM.bind, get, getThe, MonadStateOf.get, EStateM.get, hc, hf]
  rfl

/-- A module whose execution raises is a module error naming its file, and nothing changes:
no other file is tried and the module is not kept. -/
theorem loadModule_raises {ns : CodeString} {s : Session} {name file : String} {e : HostError}
    (hc : s.loaded.find? (·.1 == ns) = none)
    (hf : ns.toString?.bind (s.library.find? s.environPath?) = some ⟨name, file, .raises e⟩) :
    loadModule ns s = .error (.module ns e.text (some ⟨file, e.cls⟩)) s := by
  simp only [loadModule, bind, EStateM.bind, get, getThe, MonadStateOf.get, EStateM.get, hc, hf]
  rfl

/-- A module that executes is kept among the modules executed, after its notes and its loading
are logged as the verbosity says. -/
theorem loadModule_defines {ns : CodeString} {s : Session} {name file : String}
    {exports : Option (List Export)} {notes : List String}
    (hc : s.loaded.find? (·.1 == ns) = none)
    (hf : ns.toString?.bind (s.library.find? s.environPath?) =
      some ⟨name, file, .defines exports notes⟩) :
    ∃ w, loadModule ns s = .ok (.defines exports notes)
      { s with world := w, loaded := (ns, ⟨name, file, .defines exports notes⟩) :: s.loaded } := by
  obtain ⟨w, hw⟩ := forM_log_run
    (fun n => "DEBUG " ++ CodeString.ofString name ++ ": " ++ CodeString.ofString n) notes s
  simp only [loadModule, bind, EStateM.bind, get, getThe, MonadStateOf.get, EStateM.get, hc, hf]
  by_cases hd : s.verbosity.showsDebug = true <;> by_cases hi : s.verbosity.showsInfo = true <;>
    simp only [hd, hi, if_true, Bool.false_eq_true, if_false, EStateM.bind, hw] <;>
    exact ⟨_, rfl⟩

/-- Finding and executing a module touches only the world and the modules executed so far; it
fails, with nothing changed, only with a module error. -/
theorem loadModule_frame (ns : CodeString) (s : Session) :
    (∃ c w loaded, loadModule ns s = .ok c { s with world := w, loaded := loaded }) ∨
      ∃ e, loadModule ns s = .error e s ∧ e.cls = .basicModuleError := by
  rcases hc : s.loaded.find? (·.1 == ns) with _ | ⟨k, m⟩
  · rcases hf : ns.toString?.bind (s.library.find? s.environPath?) with _ | ⟨name, file, c⟩
    · exact .inr ⟨_, loadModule_not_found hc hf, rfl⟩
    cases c with
    | raises e => exact .inr ⟨_, loadModule_raises hc hf, rfl⟩
    | defines exports notes =>
      obtain ⟨w, hw⟩ := loadModule_defines hc hf
      exact .inl ⟨_, w, _, hw⟩
  · exact .inl ⟨_, s.world, s.loaded, loadModule_cached hc⟩

/-- Inserting a name into the extensions adds exactly that name. -/
theorem mem_insertName (n m : CodeString) (l : List CodeString) :
    m ∈ insertName n l ↔ m = n ∨ m ∈ l := by
  induction l with
  | nil => simp [insertName]
  | cons x xs ih =>
    unfold insertName
    split
    · simp
    · split
      · rename_i h
        subst h
        simp
      · simp only [List.mem_cons, ih]
        exact or_left_comm

/-! ## Loading -/

/-- Once the module is found and executed, loading registers its export list and then adds
the module to the extensions. -/
theorem loadExtension_of_exports {ns : CodeString} {s s₁ : Session} {exports : List Export}
    {notes : List String} (h : loadModule ns s = .ok (.defines (some exports) notes) s₁) :
    loadExtension ns s = match registerExports exports s₁ with
      | .ok names s₂ => .ok names { s₂ with extensions := insertName ns s₂.extensions }
      | .error e s₂ => .error e s₂ := by
  simp only [loadExtension, bind, EStateM.bind, h]
  rcases registerExports exports s₁ with ⟨names, s₂⟩ | ⟨e, s₂⟩ <;> rfl

/-- A module without an export list cannot be loaded. -/
theorem loadExtension_of_no_exports {ns : CodeString} {s s₁ : Session} {c : ModuleCode}
    (h : loadModule ns s = .ok c s₁) (hc : ∀ exports notes, c ≠ .defines (some exports) notes) :
    loadExtension ns s = .error (.module ns ("Module `" ++ ns ++
      "` is missing function registry `__functions__`.") none) s₁ := by
  simp only [loadExtension, bind, EStateM.bind, h]
  rcases c with (_ | exports) | e
  · rfl
  · exact absurd rfl (hc exports _)
  · rfl

/-- A module whose execution gave `c` leaves the registry and the extensions as they were. -/
theorem loadModule_keeps {ns : CodeString} {s s₁ : Session} {c : ModuleCode}
    (h : loadModule ns s = .ok c s₁) :
    s₁.registry = s.registry ∧ s₁.extensions = s.extensions := by
  rcases loadModule_frame ns s with ⟨c', w, l, h'⟩ | ⟨e, h', -⟩ <;> rw [h'] at h
  · cases h
    exact ⟨rfl, rfl⟩
  · cases h

/-- Loading an extension module registers the named entries of its export list in order until
one cannot be registered. If none fails, loading gives their builtin names in order, repeats
included, the registry is the one before with each registered in order, and the module is
among the extensions. Otherwise the first entry that fails is the error, the registry holds
exactly the entries before it, and the extensions are as they were. A module that cannot be
found or executed, or that has no export list, is a module error, and neither the registry
nor the extensions change. -/
theorem loadExtension_registers_until_failure (ns : CodeString) (s : Session) :
    (∀ exports notes s₁, loadModule ns s = .ok (.defines (some exports) notes) s₁ →
      (∀ adapted, (namedExports exports).mapM adaptExport = .ok adapted →
        ∃ s', loadExtension ns s = .ok (adapted.map Prod.fst) s' ∧
          s'.registry = registerAdapted s.registry adapted ∧
          ∀ m, m ∈ s'.extensions ↔ m = ns ∨ m ∈ s.extensions) ∧
      (∀ pre f post adapted e, namedExports exports = pre ++ f :: post →
        pre.mapM adaptExport = .ok adapted → adaptExport f = .error e →
        ∃ s', loadExtension ns s = .error e s' ∧
          s'.registry = registerAdapted s.registry adapted ∧ s'.extensions = s.extensions)) ∧
    ((¬∃ exports notes s₁, loadModule ns s = .ok (.defines (some exports) notes) s₁) →
      ∃ e s', loadExtension ns s = .error e s' ∧ e.cls = .basicModuleError ∧
        s'.registry = s.registry ∧ s'.extensions = s.extensions) := by
  refine ⟨fun exports notes s₁ hload => ⟨?_, ?_⟩, fun hnot => ?_⟩
  · -- every named entry is registered
    intro adapted hall
    obtain ⟨hreg, hext⟩ := loadModule_keeps hload
    obtain ⟨w, hw⟩ := registerExports_all exports hall s₁
    refine ⟨_, by rw [loadExtension_of_exports hload, hw], by simp [hreg], fun m => ?_⟩
    simp [mem_insertName, hext]
  · -- the first entry that fails stops the loading
    intro pre f post adapted e hsplit hpre hf
    obtain ⟨hreg, hext⟩ := loadModule_keeps hload
    obtain ⟨w, hw⟩ := registerExports_until exports hsplit hpre hf s₁
    refine ⟨{ s₁ with registry := registerAdapted s₁.registry adapted, world := w }, ?_, ?_, hext⟩
    · rw [loadExtension_of_exports hload, hw]
    · simp [hreg]
  · rcases loadModule_frame ns s with ⟨c, w, l, hload⟩ | ⟨e, hload, he⟩
    · -- the module has no export list
      have hc : ∀ exports notes, c ≠ .defines (some exports) notes := by
        rintro exports notes rfl
        exact hnot ⟨exports, notes, _, hload⟩
      exact ⟨_, _, loadExtension_of_no_exports hload hc, rfl, rfl, rfl⟩
    · -- it cannot be found or executed
      refine ⟨e, s, ?_, he, rfl, rfl⟩
      simp only [loadExtension, bind, EStateM.bind, hload]

/-- `fn_ok`, which takes a number. -/
def okFunction : HostFunction :=
  ⟨"fn_ok", [param "x" .float], some .float, fun _ => pure (.float 1)⟩

/-- `helper`, whose name lacks the `fn_` prefix. -/
def helperFunction : HostFunction :=
  ⟨"helper", [], some .float, fun _ => pure (.float 0)⟩

/-- A session that has executed a module exporting `fn_ok` and then `helper`. -/
def prefixedSession : Session :=
  { Session.create Registry.empty "\n" [] ⟨"", ⟨"/", []⟩⟩ ⟨0, 1000⟩ with
    loaded := [("badname", ⟨"basicfl.ext.badname", "/ext/badname.py",
      .defines (some [.function okFunction, .function helperFunction]) []⟩)] }

/-- Loading that module registers `OK` and stops at `helper`, which lacks the prefix. -/
theorem loading_stops_at_unprefixed :
    ∃ s', loadExtension "badname" prefixedSession =
        .error (.module "helper" (missingPrefixMessage "helper") none) s' ∧
      s'.registry = registerAdapted Registry.empty
        [("OK", ⟨okFunction, "OK", ⟨1, [.float], .float, false⟩⟩)] ∧
      s'.extensions = [] := by
  have hok : adaptExport okFunction = .ok ("OK", ⟨okFunction, "OK", ⟨1, [.float], .float, false⟩⟩) :=
    adaptExport_eq_ok.mpr ⟨by decide +kernel, rfl⟩
  have hhelper : adaptExport helperFunction =
      .error (.module "helper" (missingPrefixMessage "helper") none) :=
    adaptExport_eq_error.mpr (.inl ⟨by decide +kernel, rfl⟩)
  exact ((loadExtension_registers_until_failure "badname" prefixedSession).1 _ [] _ rfl).2
    [okFunction] helperFunction [] _ _ rfl (by rw [List.mapM_cons, hok]; rfl) hhelper

end Session

end CallBasic
