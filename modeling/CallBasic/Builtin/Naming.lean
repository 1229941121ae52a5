import CallBasic.Text.Case
/-!
# Builtin names and host names

A builtin named `LEFT$` is written on the host side as the function `fn_left_s`: the host
name is `fn_` followed by the builtin name in lower case with each `$` spelt `_s`. The
builtin name of a host function is read back by dropping `fn_`, spelling a final `_s` as
`$`, and taking the upper case; a host function without the `fn_` prefix has no builtin name.
-/

namespace CallBasic

/-- The host name of a builtin name. -/
def hostName (name : CodeString) : CodeString :=
  "fn_" ++ ⟨(Text.lower name).points.flatMap fun p =>
    if p = .char '$' then [.char '_', .char 's'] else [p]⟩

/-- The builtin name of a host function's name, if it has the `fn_` prefix. -/
def basicName? (fnName : CodeString) : Option CodeString :=
  match fnName.points with
  | .char 'f' :: .char 'n' :: .char '_' :: rest =>
    let body :=
      if rest.length ≥ 2 && rest.drop (rest.length - 2) == [.char '_', .char 's'] then
        rest.take (rest.length - 2) ++ [.char '$']
      else rest
    some (Text.upper ⟨body⟩)
  | _ => none

/-- Why a host function has no builtin name. -/
def missingPrefixMessage (fnName : CodeString) : CodeString :=
  "Builtin function `" ++ fnName ++ "` requires prefix `fn_` by convention."

example : hostName "LEFT$" = "fn_left_s" := by decide +kernel

end CallBasic
