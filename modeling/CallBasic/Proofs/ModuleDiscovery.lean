import Mathlib.Logic.Relation
import CallBasic.Proofs.ExtensionLoading
/-!
# Finding extension modules

A module that a session has not executed yet is looked for among candidate files, in order:
`libs/_NAME.py` in the library's package directory, in its parent and in its grandparent,
then `NAME.py` in each directory of the search path `BASIC_PATH`, expanded. The first file
that exists is the module: executing it either raises, which is a module error naming that
file that changes nothing (no later file is tried, nothing is kept), or defines the module,
which is then kept. When no candidate exists the module is not found.

A kept module is never looked for again. Finding and executing a module only ever adds a
module not kept before (`loadModule_ok_loaded`), so a kept module stays kept however the
session goes on (`GoesOn`), whatever happens meanwhile to its files and its environment; and a
kept module is taken from the session without looking at either (`loadModule_cached`). The
main statement is `loadModule_first_existing_candidate`.
-/

namespace CallBasic

/-! ## The first candidate that exists -/

namespace ModuleLibrary

/-- No module is found when no candidate file exists. -/
theorem find?_eq_none {lib : ModuleLibrary} {env : String → Option String} {n : String}
    (h : ∀ f ∈ (lib.candidates env n).map Prod.fst, ∃ r, lib.files.read f = .error r) :
    lib.find? env n = none := by
  unfold find?
  rw [List.findSome?_eq_none_iff]
  rintro ⟨f, name⟩ hmem
  obtain ⟨r, hr⟩ := h f (List.mem_map_of_mem hmem)
  simp [hr, Except.toOption]

/-- The module found is the first candidate file that exists. -/
theorem find?_of_first {lib : ModuleLibrary} {env : String → Option String} {n : String}
    {pre post : List (String × String)} {f name : String} {c : ModuleCode}
    (hsplit : lib.candidates env n = pre ++ (f, name) :: post)
    (hpre : ∀ g ∈ pre, ∃ r, lib.files.read g.1 = .error r) (hf : lib.files.read f = .ok c) :
    lib.find? env n = some ⟨name, f, c⟩ := by
  unfold find?
  rw [hsplit, List.findSome?_append, List.findSome?_eq_none_iff.mpr ?none, Option.none_or,
    List.findSome?_cons]
  · simp [hf, Except.toOption]
  case none =>
    -- no candidate before it exists
    rintro ⟨g, gname⟩ hmem
    obtain ⟨r, hr⟩ := hpre _ hmem
    simp [hr, Except.toOption]

end ModuleLibrary

/-! ## What finding a module keeps -/

namespace Session

/-- Finding and executing a module that fails changes nothing. -/
theorem loadModule_error_state {ns : CodeString} {s t : Session} {e : Failure}
    (h : loadModule ns s = .error e t) : t = s := by
  rcases loadModule_frame ns s with ⟨c, w, l, h'⟩ | ⟨e', h', -⟩ <;> rw [h'] at h
  · cases h
  · cases h
    rfl

/-- Finding and executing a module keeps the modules executed before, and adds at most that
module, only when it was not among them. -/
theorem loadModule_ok_loaded {ns : CodeString} {s t : Session} {c : ModuleCode}
    (h : loadModule ns s = .ok c t) :
    t.loaded = s.loaded ∨
      s.loaded.find? (·.1 == ns) = none ∧ ∃ m, t.loaded = (ns, m) :: s.loaded := by
  rcases hc : s.loaded.find? (·.1 == ns) with _ | ⟨k, m⟩
  · rcases hf : ns.toString?.bind (s.library.find? s.environPath?) with _ | ⟨name, file, c'⟩
    · rw [loadModule_not_found hc hf] at h
      cases h
    cases c' with
    | raises e =>
      rw [loadModule_raises hc hf] at h
      cases h
    | defines exports notes =>
      obtain ⟨w, hw⟩ := loadModule_defines hc hf
      rw [hw] at h
      cases h
      exact .inr ⟨hc, _, rfl⟩
  · rw [loadModule_cached hc] at h
    cases h
    exact .inl rfl

/-- How a session goes on: it finds and executes a module, whatever the outcome, or changes in
any way that keeps the modules it has executed. Its files, its environment, its output and its
registry may all change on the way. -/
inductive GoesOn : Session → Session → Prop
  | loadOk {s t : Session} (ns : CodeString) (c : ModuleCode) :
    loadModule ns s = .ok c t → GoesOn s t
  | loadFails {s t : Session} (ns : CodeString) (e : Failure) :
    loadModule ns s = .error e t → GoesOn s t
  | keeps {s t : Session} : t.loaded = s.loaded → GoesOn s t

/-- A kept module stays kept, as it was, through one step of a session. -/
theorem GoesOn.keeps_cached {s t : Session} {ns k : CodeString} {m : FoundModule}
    (h : GoesOn s t) (hc : s.loaded.find? (·.1 == ns) = some (k, m)) :
    t.loaded.find? (·.1 == ns) = some (k, m) := by
  cases h with
  | loadOk ns' c hl =>
    rcases loadModule_ok_loaded hl with hkeep | ⟨hnone, m', hadd⟩
    · rw [hkeep]
      exact hc
    · -- the module added was not kept before, so it is another one
      have hne : ¬ (ns' == ns) = true := by
        intro heq
        rw [beq_iff_eq.mp heq, hc] at hnone
        cases hnone
      rw [hadd, List.find?_cons_of_neg (p := fun x : CodeString × FoundModule => x.1 == ns) hne]
      exact hc
  | loadFails ns' e hl =>
    rw [loadModule_error_state hl]
    exact hc
  | keeps hkeep =>
    rw [hkeep]
    exact hc

/-- A kept module stays kept, as it was, however the session goes on. -/
theorem keeps_cached_of_reaches {s t : Session} {ns k : CodeString} {m : FoundModule}
    (h : Relation.ReflTransGen GoesOn s t) (hc : s.loaded.find? (·.1 == ns) = some (k, m)) :
    t.loaded.find? (·.1 == ns) = some (k, m) := by
  induction h with
  | refl => exact hc
  | tail _ hstep ih => exact hstep.keeps_cached ih

/-! ## Looking for a module -/

/-- Looking for a module that the session has not executed. Its candidate files are, in order,
`libs/_n.py` in the library's package directory, in its parent and in its grandparent, then
`n.py` in each directory of `BASIC_PATH`, expanded. When none exists the module is not found
and nothing changes; a name with a lone surrogate names no file and is never found. Otherwise
the first that exists is executed. When that raises, the module error names that file and
nothing changes: no later file is tried and nothing is kept. When it defines the module, the
module is kept, and from then on, however the session goes on and whatever happens to its
files and its environment, looking for the module again gives it, without change to the
session. -/
theorem loadModule_first_existing_candidate (ns : CodeString) (s : Session)
    (hfresh : s.loaded.find? (·.1 == ns) = none) :
    (ns.toString? = none →
      loadModule ns s = .error (.module ns ("Module `" ++ ns ++ "` not found.") none) s) ∧
    ∀ n, ns.toString? = some n →
      (s.library.candidates s.environPath? n).map Prod.fst =
          (s.library.packageDir :: (Path.parents s.library.packageDir).take 2).map
              (fun d => Path.join d ("libs/_" ++ n ++ ".py")) ++
            (searchDirs ((s.environPath? "BASIC_PATH").getD "")).map
              (fun d => Path.join (Path.expand s.environPath? d) (n ++ ".py")) ∧
      ((∀ f ∈ (s.library.candidates s.environPath? n).map Prod.fst,
          ∃ r, s.library.files.read f = .error r) →
        loadModule ns s = .error (.module ns ("Module `" ++ ns ++ "` not found.") none) s) ∧
      ∀ pre f post c, (s.library.candidates s.environPath? n).map Prod.fst = pre ++ f :: post →
        (∀ g ∈ pre, ∃ r, s.library.files.read g = .error r) → s.library.files.read f = .ok c →
        match c with
        | .raises e => loadModule ns s = .error (.module ns e.text (some ⟨f, e.cls⟩)) s
        | .defines _ _ => ∃ name w,
          loadModule ns s = .ok c { s with world := w, loaded := (ns, ⟨name, f, c⟩) :: s.loaded } ∧
          ∀ t, Relation.ReflTransGen GoesOn
              { s with world := w, loaded := (ns, ⟨name, f, c⟩) :: s.loaded } t →
            loadModule ns t = .ok c t := by
  refine ⟨fun hnone => loadModule_not_found hfresh (by rw [hnone]; rfl),
    fun n hn => ⟨?_, fun hall => ?_, fun pre f post c hsplit hpre hf => ?_⟩⟩
  · simp [ModuleLibrary.candidates, moduleFile, Function.comp_def]
  · have hfound : ns.toString?.bind (s.library.find? s.environPath?) = none := by
      rw [hn, Option.bind_some, ModuleLibrary.find?_eq_none hall]
    exact loadModule_not_found hfresh hfound
  · -- the split of the files is a split of the candidates
    obtain ⟨pre', rest, hcand, hpre', hrest⟩ := List.map_eq_append_iff.mp hsplit
    obtain ⟨⟨f', name⟩, post', rfl, hf', -⟩ := List.map_eq_cons_iff.mp hrest
    obtain rfl : f' = f := hf'
    have hpre'' : ∀ g ∈ pre', ∃ r, s.library.files.read g.1 = .error r := fun g hg =>
      hpre g.1 (hpre' ▸ List.mem_map_of_mem hg)
    have hfound : ns.toString?.bind (s.library.find? s.environPath?) = some ⟨name, f', c⟩ := by
      rw [hn, Option.bind_some, ModuleLibrary.find?_of_first hcand hpre'' hf]
    cases c with
    | raises e => exact loadModule_raises hfresh hfound
    | defines exports notes =>
      obtain ⟨w, hw⟩ := loadModule_defines hfresh hfound
      refine ⟨name, w, hw, fun t ht =>
        loadModule_cached (k := ns) (m := ⟨name, f', .defines exports notes⟩)
          (keeps_cached_of_reaches ht ?_)⟩
      -- the module just kept is the first under its name
      simp

/-- A new session whose library holds the packaged modules in `/lib/basicfl`. -/
def packagedSession : Session :=
  create Registry.empty "\n" [] ⟨"/lib/basicfl", ⟨"/", packagedFiles "/lib/basicfl"⟩⟩ ⟨0, 1000⟩

/-- A new session has executed no module, and a name holding a lone surrogate finds none. -/
theorem surrogate_module_name_not_found :
    packagedSession.loaded.find? (·.1 == ⟨[.surrogate 0]⟩) = none ∧
      loadModule ⟨[.surrogate 0]⟩ packagedSession =
        .error (.module ⟨[.surrogate 0]⟩ ("Module `" ++ ⟨[.surrogate 0]⟩ ++ "` not found.") none)
          packagedSession :=
  ⟨rfl, (loadModule_first_existing_candidate _ packagedSession rfl).1 rfl⟩

end Session

end CallBasic
