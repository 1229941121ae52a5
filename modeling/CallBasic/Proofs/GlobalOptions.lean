import Mathlib
import CallBasic.Cli.Run
/-!
# Global options: setting them apart, and the escapes of a line ending

Global options may stand anywhere among the arguments, and `splitGlobal` sets them apart before
a command is chosen. `SetsApart args g r` says what that split is without following the code:
the arguments are whole global options, which make up `g`, and other arguments, which make up
`r`, merged in order. A value option takes the argument right after it as its value, whatever
that is, and stays among the others only as the very last argument, where it has none. The
relation is exactly the function (`splitGlobal_eq_iff`); all else is read off the relation. The
arguments interleave `g` and `r` (`Interleaves`); `g` is a concatenation of whole options
(`globalOptions∗`); the others hold no global option (`Leftover`); and splitting either part
again changes nothing. The list handed on to the command group, `g`, then the command and its
arguments, is therefore split the same way again, and runs as the arguments it came from
(`splitGlobal_sets_whole_options_apart`).

A line ending is given with the escapes `\n`, `\r`, `\t` and `\\`. Decoding scans left to right
and a decoded escape is not read again, so a doubled backslash is consumed before it can pair
with a letter after it, and every text written with the escapes reads back as itself
(`decodeLineEnding_escapeLineEnding`).
-/

namespace CallBasic

/-- `Interleaves xs ys zs`: `zs` is `xs` and `ys` merged, each kept in its order, so that every
element of `zs` comes from exactly one of them. -/
inductive Interleaves {α : Type} : List α → List α → List α → Prop
  | nil : Interleaves [] [] []
  | left {x : α} {xs ys zs : List α} (h : Interleaves xs ys zs) :
      Interleaves (x :: xs) ys (x :: zs)
  | right {y : α} {xs ys zs : List α} (h : Interleaves xs ys zs) :
      Interleaves xs (y :: ys) (y :: zs)

namespace Interleaves

variable {α : Type} {xs ys zs : List α}

theorem append_left (u : List α) (h : Interleaves xs ys zs) :
    Interleaves (u ++ xs) ys (u ++ zs) := by
  induction u with
  | nil => exact h
  | cons x u ih => exact ih.left

theorem length_eq (h : Interleaves xs ys zs) : zs.length = xs.length + ys.length := by
  induction h with
  | nil => rfl
  | left _ ih => simp only [List.length_cons, ih]; omega
  | right _ ih => simp only [List.length_cons, ih]; omega

end Interleaves

namespace Cli

open Computability

/-! ## Kinds of argument -/

/-- One global option as it stands among the arguments: a flag, a value option with its value
after `=`, or a value option with the argument after it, whatever that is. -/
inductive GlobalOption : List CodeString → Prop
  | flag {t : CodeString} (h : isGlobalFlag t = true) : GlobalOption [t]
  | joined {t : CodeString} (h : isJoinedValue t = true) : GlobalOption [t]
  | valued {t : CodeString} (h : isOneOf t valueOptions = true) (v : CodeString) :
      GlobalOption [t, v]

/-- The whole global options, as a language over arguments. -/
def globalOptions : Language CodeString := {u | GlobalOption u}

theorem GlobalOption.ne_nil {u : List CodeString} (h : GlobalOption u) : u ≠ [] := by
  cases h <;> simp

/-- The two value options by name. -/
theorem eq_of_valueOption {t : CodeString} (h : isOneOf t valueOptions = true) :
    t = CodeString.ofString "--line-ending" ∨ t = CodeString.ofString "--ext" := by
  simpa [isOneOf, valueOptions] using h

theorem isGlobalFlag_of_valueOption {t : CodeString} (h : isOneOf t valueOptions = true) :
    isGlobalFlag t = false := by
  rcases eq_of_valueOption h with rfl | rfl <;>
    simp [isGlobalFlag, isOneOf, globalFlags, isVerbosity, CodeString.ofString]

/-- An argument with a value after `=` starts with the name of a value option and `=`. -/
theorem eq_of_joined {t : CodeString} (h : isJoinedValue t = true) :
    ∃ o ∈ valueOptions, ∃ rest, t = ⟨(o ++ "=").toList.map CodePoint.char ++ rest⟩ := by
  obtain ⟨o, ho, hp⟩ := List.any_eq_true.mp h
  obtain ⟨rest, hrest⟩ := List.isPrefixOf_iff_prefix.mp hp
  exact ⟨o, ho, rest, by rw [hrest]⟩

theorem isGlobalFlag_of_joined {t : CodeString} (h : isJoinedValue t = true) :
    isGlobalFlag t = false := by
  obtain ⟨o, ho, rest, rfl⟩ := eq_of_joined h
  simp only [valueOptions, List.mem_cons, List.not_mem_nil, or_false] at ho
  rcases ho with rfl | rfl <;>
    simp [isGlobalFlag, isOneOf, globalFlags, isVerbosity, CodeString.ofString]

theorem isOneOf_valueOptions_of_joined {t : CodeString} (h : isJoinedValue t = true) :
    isOneOf t valueOptions = false := by
  obtain ⟨o, ho, rest, rfl⟩ := eq_of_joined h
  simp only [valueOptions, List.mem_cons, List.not_mem_nil, or_false] at ho
  rcases ho with rfl | rfl <;> simp [isOneOf, valueOptions, CodeString.ofString]

/-- Arguments that stay among the others wherever they stand: no global flag, and no value
option in either form. -/
def Plain (t : CodeString) : Prop :=
  isGlobalFlag t = false ∧ isJoinedValue t = false ∧ isOneOf t valueOptions = false

/-- The name `-` of standard input and the command names are plain arguments. -/
theorem plain_of_named {k : String} (hk : k ∈ "-" :: commands) :
    Plain (CodeString.ofString k) := by
  simp only [commands, List.mem_cons, List.not_mem_nil, or_false] at hk
  rcases hk with rfl | rfl | rfl | rfl | rfl <;>
    simp [Plain, isGlobalFlag, isOneOf, globalFlags, isVerbosity, isJoinedValue, valueOptions,
      CodeString.ofString, CodeString.startsWith, List.isPrefixOf]

/-! ## One step of the split -/

section Step

variable {t : CodeString} (rest : List CodeString)

theorem splitGlobal_flag (h : isGlobalFlag t = true) :
    splitGlobal (t :: rest) = (t :: (splitGlobal rest).1, (splitGlobal rest).2) := by
  rw [splitGlobal.eq_def]
  simp [h]

theorem splitGlobal_valued (h : isOneOf t valueOptions = true) (v : CodeString) :
    splitGlobal (t :: v :: rest) = (t :: v :: (splitGlobal rest).1, (splitGlobal rest).2) := by
  rw [splitGlobal.eq_def]
  simp [h, isGlobalFlag_of_valueOption h]

theorem splitGlobal_joined (h : isJoinedValue t = true) :
    splitGlobal (t :: rest) = (t :: (splitGlobal rest).1, (splitGlobal rest).2) := by
  rw [splitGlobal.eq_def]
  simp [h, isGlobalFlag_of_joined h, isOneOf_valueOptions_of_joined h]

/-- An argument stays among the others when it is no global flag, no value option with its
value after `=`, and no value option with an argument after it. -/
theorem splitGlobal_other (hf : isGlobalFlag t = false) (hj : isJoinedValue t = false)
    (hv : isOneOf t valueOptions = true → rest = []) :
    splitGlobal (t :: rest) = ((splitGlobal rest).1, t :: (splitGlobal rest).2) := by
  have hvalued : (isOneOf t valueOptions && !rest.isEmpty) = false := by
    cases h : isOneOf t valueOptions
    · rfl
    · simp [hv h]
  rw [splitGlobal.eq_def]
  simp [hf, hj, hvalued]

/-- A whole global option in front is set apart whole. -/
theorem splitGlobal_option_append {u : List CodeString} (hu : GlobalOption u) :
    splitGlobal (u ++ rest) = (u ++ (splitGlobal rest).1, (splitGlobal rest).2) := by
  cases hu with
  | flag h => exact splitGlobal_flag rest h
  | joined h => exact splitGlobal_joined rest h
  | valued h v => exact splitGlobal_valued rest h v

end Step

/-! ## The split, said declaratively -/

/-- `SetsApart args g r`: the arguments `args` are whole global options, which make up `g`, and
other arguments, which make up `r`, merged in order. An argument stays among the others only if
it is no global flag and no value option with its value after `=`, and a value option only if
nothing follows it. -/
inductive SetsApart : List CodeString → List CodeString → List CodeString → Prop
  | nil : SetsApart [] [] []
  | option {u args g r : List CodeString} (hu : GlobalOption u) (h : SetsApart args g r) :
      SetsApart (u ++ args) (u ++ g) r
  | other {t : CodeString} {args g r : List CodeString} (hf : isGlobalFlag t = false)
      (hj : isJoinedValue t = false) (hv : isOneOf t valueOptions = true → args = [])
      (h : SetsApart args g r) : SetsApart (t :: args) g (t :: r)

namespace SetsApart

variable {args g r : List CodeString}

theorem plain {t : CodeString} (ht : Plain t) (h : SetsApart args g r) :
    SetsApart (t :: args) g (t :: r) :=
  .other ht.1 ht.2.1 (fun hv => absurd hv (by simp [ht.2.2])) h

/-- The relation pins the split down: it is what `splitGlobal` computes. -/
theorem splitGlobal_eq (h : SetsApart args g r) : splitGlobal args = (g, r) := by
  induction h with
  | nil => rfl
  | option hu _ ih => rw [splitGlobal_option_append _ hu, ih]
  | other hf hj hv _ ih => rw [splitGlobal_other _ hf hj hv, ih]

end SetsApart

/-- What `splitGlobal` computes is a split in the sense of `SetsApart`. -/
theorem setsApart_splitGlobal (args : List CodeString) :
    SetsApart args (splitGlobal args).1 (splitGlobal args).2 := by
  induction args using splitGlobal.induct with
  | case1 => exact .nil
  | case2 t rest h _ _ _ ih =>
    rw [splitGlobal_flag rest h]
    exact .option (u := [t]) (.flag h) ih
  | case3 t _ v rest _ _ _ hv ih =>
    have h : isOneOf t valueOptions = true := by simpa using hv
    rw [splitGlobal_valued rest h v]
    exact .option (u := [t, v]) (.valued h v) ih
  | case4 t _ hv =>
    -- a value option with nothing after it does not take this branch
    simp at hv
  | case5 t rest _ _ h _ _ _ ih =>
    rw [splitGlobal_joined rest h]
    exact .option (u := [t]) (.joined h) ih
  | case6 t rest hf hv hj _ _ _ ih =>
    have hf' : isGlobalFlag t = false := by simpa using hf
    have hj' : isJoinedValue t = false := by simpa using hj
    have hv' : isOneOf t valueOptions = true → rest = [] := by
      intro h
      simpa [h] using hv
    rw [splitGlobal_other rest hf' hj' hv']
    exact .other hf' hj' hv' ih

/-- The split of the arguments is the one relation `SetsApart` describes. -/
theorem splitGlobal_eq_iff {args g r : List CodeString} :
    splitGlobal args = (g, r) ↔ SetsApart args g r := by
  constructor
  · intro h
    have hs := setsApart_splitGlobal args
    rwa [h] at hs
  · exact SetsApart.splitGlobal_eq

instance (args g r : List CodeString) : Decidable (SetsApart args g r) :=
  decidable_of_iff _ splitGlobal_eq_iff

/-- A value option takes the next argument as its value even when that is a value option. -/
example : SetsApart ["--ext", "--ext", "x"] ["--ext", "--ext"] ["x"] := by decide

/-! ## What the split keeps -/

/-- What stays among the other arguments: no global flag, no value option with its value after
`=`, and a value option only as the last of them, and only when it was the last argument. -/
structure Leftover (args r : List CodeString) : Prop where
  no_flag : ∀ t ∈ r, isGlobalFlag t = false
  no_joined : ∀ t ∈ r, isJoinedValue t = false
  option_last : ∀ t ∈ r.dropLast, isOneOf t valueOptions = false
  option_ends_args : ∀ t ∈ r.getLast?, isOneOf t valueOptions = true → args.getLast? = some t

namespace SetsApart

variable {args g r : List CodeString}

/-- Every argument lands in exactly one of the two parts, and both keep their order. -/
theorem interleaves (h : SetsApart args g r) : Interleaves g r args := by
  induction h with
  | nil => exact .nil
  | option _ _ ih => exact ih.append_left _
  | other _ _ _ _ ih => exact ih.right

theorem nil_of_args_nil (h : SetsApart [] g r) : g = [] ∧ r = [] := by
  have hlen := h.interleaves.length_eq
  simp only [List.length_nil] at hlen
  exact ⟨List.eq_nil_of_length_eq_zero (by omega), List.eq_nil_of_length_eq_zero (by omega)⟩

/-- The global options are a concatenation of whole options. -/
theorem mem_kstar (h : SetsApart args g r) : g ∈ globalOptions∗ := by
  induction h with
  | nil => exact Language.nil_mem_kstar _
  | @option u _ _ _ hu _ ih =>
    obtain ⟨L, rfl, hL⟩ := Language.mem_kstar.mp ih
    refine Language.mem_kstar.mpr ⟨u :: L, rfl, ?_⟩
    intro y hy
    rcases List.mem_cons.mp hy with rfl | hy
    · exact hu
    · exact hL y hy
  | other _ _ _ _ ih => exact ih

/-- An argument among the others is no global flag and no value option with its value after
`=`. -/
theorem rest_not_option (h : SetsApart args g r) :
    ∀ t ∈ r, isGlobalFlag t = false ∧ isJoinedValue t = false := by
  induction h with
  | nil => simp
  | option _ _ ih => exact ih
  | other hf hj _ _ ih =>
    intro s hs
    rcases List.mem_cons.mp hs with rfl | hs
    · exact ⟨hf, hj⟩
    · exact ih s hs

/-- A value option among the others has nothing after it among them. -/
theorem option_last (h : SetsApart args g r) :
    ∀ t ∈ r.dropLast, isOneOf t valueOptions = false := by
  induction h with
  | nil => simp
  | option _ _ ih => exact ih
  | @other t _ _ r _ _ hv h ih =>
    intro s hs
    by_cases hne : r = []
    · subst hne
      simp at hs
    rw [List.dropLast_cons_of_ne_nil hne] at hs
    rcases List.mem_cons.mp hs with rfl | hs
    · -- others follow it, so arguments followed it
      cases hs' : isOneOf s valueOptions
      · rfl
      · exact absurd (nil_of_args_nil (hv hs' ▸ h)).2 hne
    · exact ih s hs

/-- A value option that ends the others ends the arguments. -/
theorem option_ends_args (h : SetsApart args g r) :
    ∀ t ∈ r.getLast?, isOneOf t valueOptions = true → args.getLast? = some t := by
  induction h with
  | nil => simp
  | option _ _ ih =>
    intro t ht hv
    rw [List.getLast?_append, ih t ht hv]
    rfl
  | @other t args _ r _ _ hv _ ih =>
    intro s hs hvs
    by_cases hne : r = []
    · subst hne
      simp only [List.getLast?_singleton, Option.mem_def, Option.some.injEq] at hs
      subst hs
      simp [hv hvs]
    rw [List.getLast?_cons_of_ne_nil hne] at hs
    have hlast := ih s hs hvs
    have hargs : args ≠ [] := by
      rintro rfl
      simp at hlast
    rw [List.getLast?_cons_of_ne_nil hargs, hlast]

theorem leftover (h : SetsApart args g r) : Leftover args r :=
  ⟨fun t ht => (h.rest_not_option t ht).1, fun t ht => (h.rest_not_option t ht).2,
    h.option_last, h.option_ends_args⟩

/-- The global options set apart again are all global options. -/
theorem global_part (h : SetsApart args g r) : SetsApart g g [] := by
  induction h with
  | nil => exact .nil
  | option hu _ ih => exact .option hu ih
  | other _ _ _ _ ih => exact ih

/-- The other arguments set apart again are all others. -/
theorem rest_part (h : SetsApart args g r) : SetsApart r [] r := by
  induction h with
  | nil => exact .nil
  | option _ _ ih => exact ih
  | other hf hj hv h ih =>
    exact .other hf hj (fun ht => (nil_of_args_nil (hv ht ▸ h)).2) ih

/-- Whole global options in front of a split arguments list are set apart in front. -/
theorem append_of_global {a b g₀ g' r₀ r' : List CodeString} (h₁ : SetsApart a g₀ r₀)
    (hr : r₀ = []) (h₂ : SetsApart b g' r') : SetsApart (a ++ b) (g₀ ++ g') r' := by
  induction h₁ with
  | nil => exact h₂
  | option hu _ ih =>
    rw [List.append_assoc, List.append_assoc]
    exact .option hu (ih hr)
  | other _ _ _ _ _ => simp at hr

/-- Among arguments that are all others, so are the arguments after the first. -/
theorem tail_of_others (h : SetsApart args g r) (hg : g = []) : SetsApart args.tail [] r.tail := by
  cases h with
  | nil => exact .nil
  | option hu _ =>
    exact absurd (List.append_eq_nil_iff.mp hg).1 hu.ne_nil
  | other _ _ _ h => exact hg ▸ h

end SetsApart

/-! ## The list handed on to the command group -/

/-- The command chosen from arguments that are all others, with its arguments after its name,
is again a list of others. -/
theorem chooseCommand_sets_apart (isFile : String → Bool) {r : List CodeString}
    (h : SetsApart r [] r) :
    SetsApart (CodeString.ofString (chooseCommand isFile r).1 :: (chooseCommand isFile r).2) []
      (CodeString.ofString (chooseCommand isFile r).1 :: (chooseCommand isFile r).2) := by
  unfold chooseCommand
  split
  · exact (SetsApart.nil.plain (plain_of_named (by simp))).plain
      (plain_of_named (by simp [commands]))
  · split
    · next k hk =>
      exact (h.tail_of_others rfl).plain
        (plain_of_named (List.mem_cons_of_mem _ (List.mem_of_find?_eq_some hk)))
    · split
      · exact h.plain (plain_of_named (by simp [commands]))
      · exact h.plain (plain_of_named (by simp [commands]))

/-- Naming a command first chooses that command, with the arguments after its name. -/
theorem chooseCommand_named {k : String} (hk : k ∈ commands) (isFile : String → Bool)
    (rest : List CodeString) :
    chooseCommand isFile (CodeString.ofString k :: rest) = (k, rest) := by
  simp only [commands, List.mem_cons, List.not_mem_nil, or_false] at hk
  rcases hk with rfl | rfl | rfl | rfl <;> simp [chooseCommand, commands, CodeString.ofString]

/-- Choosing the command again from the command and its arguments chooses the same. -/
theorem chooseCommand_chosen (isFile : String → Bool) (r : List CodeString) :
    chooseCommand isFile
        (CodeString.ofString (chooseCommand isFile r).1 :: (chooseCommand isFile r).2) =
      chooseCommand isFile r := by
  match r with
  | [] => exact chooseCommand_named (k := "run-file") (by simp [commands]) isFile _
  | c :: rest =>
    cases hk : commands.find? (fun k => c == CodeString.ofString k) with
    | some k =>
      -- the command found is the argument itself
      have hc : c = CodeString.ofString k := by simpa using List.find?_some hk
      simp only [chooseCommand, hk]
      rw [← hc, hk]
    | none =>
      -- the development command or a file, with all the arguments
      have hchosen : chooseCommand isFile (c :: rest) = ("run-file", c :: rest) ∨
          chooseCommand isFile (c :: rest) = ("run-dev", c :: rest) := by
        simp only [chooseCommand, hk]
        split
        · exact .inl rfl
        · exact .inr rfl
      rcases hchosen with h | h <;> rw [h] <;>
        exact chooseCommand_named (by simp [commands]) isFile _

/-- The list handed on to the command group is split into the same global options, and then the
command with its arguments. -/
theorem splitGlobal_handed (isFile : String → Bool) {args g r : List CodeString}
    (h : SetsApart args g r) :
    splitGlobal
        (g ++ CodeString.ofString (chooseCommand isFile r).1 :: (chooseCommand isFile r).2) =
      (g, CodeString.ofString (chooseCommand isFile r).1 :: (chooseCommand isFile r).2) := by
  have hs := h.global_part.append_of_global rfl (chooseCommand_sets_apart isFile h.rest_part)
  rw [List.append_nil] at hs
  exact hs.splitGlobal_eq

/-- The command line given the list it hands on to the command group runs as it does on its own
arguments. -/
theorem commandLine_handed (sur : Surroundings) {args g r : List CodeString}
    (h : SetsApart args g r) :
    commandLine sur (g ++ CodeString.ofString (chooseCommand sur.isFile r).1 ::
      (chooseCommand sur.isFile r).2) = commandLine sur args := by
  have hargs := h.splitGlobal_eq
  have hhanded := splitGlobal_handed sur.isFile h
  unfold commandLine
  rw [hargs, hhanded]
  simp only [chooseCommand_chosen]

/-- Setting the global options apart. The arguments interleave the global options and the
others; the global options are whole options, a value option with the argument right after it;
the others hold no global option, and a value option only last, when it ended the arguments;
splitting either part again changes nothing; and the list handed on to the command group, the
global options and then the command with its arguments, is split into the same global options
again and runs as the arguments it came from. -/
theorem splitGlobal_sets_whole_options_apart {args g r : List CodeString}
    (h : splitGlobal args = (g, r)) :
    Interleaves g r args ∧ SetsApart args g r ∧ g ∈ globalOptions∗ ∧ Leftover args r ∧
      splitGlobal g = (g, []) ∧ splitGlobal r = ([], r) ∧
      (∀ isFile : String → Bool,
        splitGlobal (g ++ CodeString.ofString (chooseCommand isFile r).1 ::
            (chooseCommand isFile r).2) =
          (g, CodeString.ofString (chooseCommand isFile r).1 :: (chooseCommand isFile r).2)) ∧
      ∀ sur : Surroundings,
        commandLine sur (g ++ CodeString.ofString (chooseCommand sur.isFile r).1 ::
          (chooseCommand sur.isFile r).2) = commandLine sur args := by
  have hs : SetsApart args g r := splitGlobal_eq_iff.mp h
  exact ⟨hs.interleaves, hs, hs.mem_kstar, hs.leftover, hs.global_part.splitGlobal_eq,
    hs.rest_part.splitGlobal_eq, fun isFile => splitGlobal_handed isFile hs,
    fun sur => commandLine_handed sur hs⟩

/-- A value option takes a command name as its value, and a value option that ends the
arguments stays among the others. -/
theorem ext_value_names_a_command :
    splitGlobal ["--ext", "run-dev", "-vv", "x.bas", "--line-ending"] =
        ((["--ext", "run-dev", "-vv"] : List CodeString),
          (["x.bas", "--line-ending"] : List CodeString)) ∧
      Interleaves (["--ext", "run-dev", "-vv"] : List CodeString) ["x.bas", "--line-ending"]
        ["--ext", "run-dev", "-vv", "x.bas", "--line-ending"] ∧
      SetsApart ["--ext", "run-dev", "-vv", "x.bas", "--line-ending"] ["--ext", "run-dev", "-vv"]
        ["x.bas", "--line-ending"] ∧
      (["--ext", "run-dev", "-vv"] : List CodeString) ∈ globalOptions∗ ∧
      Leftover ["--ext", "run-dev", "-vv", "x.bas", "--line-ending"] ["x.bas", "--line-ending"] ∧
      splitGlobal ["--ext", "run-dev", "-vv"] =
        ((["--ext", "run-dev", "-vv"] : List CodeString), ([] : List CodeString)) ∧
      splitGlobal ["x.bas", "--line-ending"] =
        (([] : List CodeString), (["x.bas", "--line-ending"] : List CodeString)) ∧
      (∀ isFile : String → Bool,
        splitGlobal ((["--ext", "run-dev", "-vv"] : List CodeString) ++
            CodeString.ofString (chooseCommand isFile ["x.bas", "--line-ending"]).1 ::
              (chooseCommand isFile ["x.bas", "--line-ending"]).2) =
          ((["--ext", "run-dev", "-vv"] : List CodeString),
            CodeString.ofString (chooseCommand isFile ["x.bas", "--line-ending"]).1 ::
              (chooseCommand isFile ["x.bas", "--line-ending"]).2)) ∧
      ∀ sur : Surroundings,
        commandLine sur ((["--ext", "run-dev", "-vv"] : List CodeString) ++
            CodeString.ofString (chooseCommand sur.isFile ["x.bas", "--line-ending"]).1 ::
              (chooseCommand sur.isFile ["x.bas", "--line-ending"]).2) =
          commandLine sur ["--ext", "run-dev", "-vv", "x.bas", "--line-ending"] := by
  have h : splitGlobal ["--ext", "run-dev", "-vv", "x.bas", "--line-ending"] =
      ((["--ext", "run-dev", "-vv"] : List CodeString),
        (["x.bas", "--line-ending"] : List CodeString)) := by decide
  exact ⟨h, splitGlobal_sets_whole_options_apart h⟩

/-! ## The escapes of a line ending -/

/-- How a code point is written with the escapes of a line ending: a backslash doubled, a line
feed, a carriage return and a tab as a backslash and `n`, `r` and `t`, and anything else as
itself. -/
def escapePoint : CodePoint → List CodePoint
  | .char '\\' => [.char '\\', .char '\\']
  | .char '\n' => [.char '\\', .char 'n']
  | .char '\r' => [.char '\\', .char 'r']
  | .char '\t' => [.char '\\', .char 't']
  | p => [p]

/-- A text written with the escapes of a line ending. -/
def escapeLineEnding (s : CodeString) : CodeString :=
  ⟨s.points.flatMap escapePoint⟩

/-- A written code point reads back whatever follows it: an escape is two code points that
decode together, and a code point written as itself is no backslash. -/
theorem decodeEscapes_escapePoint (p : CodePoint) (rest : List CodePoint) :
    decodeEscapes (escapePoint p ++ rest) = p :: decodeEscapes rest := by
  unfold escapePoint
  split
  · simp [decodeEscapes]
  · simp [decodeEscapes]
  · simp [decodeEscapes]
  · simp [decodeEscapes]
  · next hp _ _ _ =>
    rw [List.singleton_append, decodeEscapes.eq_2]
    rintro _ _ rfl _
    exact hp rfl

theorem decodeEscapes_flatMap_escapePoint (ps : List CodePoint) :
    decodeEscapes (ps.flatMap escapePoint) = ps := by
  induction ps with
  | nil => simp [decodeEscapes]
  | cons p ps ih => rw [List.flatMap_cons, decodeEscapes_escapePoint, ih]

/-- Every text written with the escapes of a line ending decodes back to itself. -/
theorem decodeLineEnding_escapeLineEnding (s : CodeString) :
    decodeLineEnding (escapeLineEnding s) = s := by
  show CodeString.mk (decodeEscapes (s.points.flatMap escapePoint)) = s
  rw [decodeEscapes_flatMap_escapePoint]

/-- A doubled backslash before `n` reads back as a backslash and `n`. -/
example : decodeLineEnding (CodeString.ofString "\\\\n") = CodeString.ofString "\\n" := by decide

end Cli

end CallBasic
