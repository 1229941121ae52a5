/-!
# Paths

Paths of the file system as texts separated by `/`. A path is compared in its normal form:
empty and `.` parts are dropped and so is a trailing slash, a path of no parts is `.`, and a
leading `//` (exactly two slashes) is kept, as POSIX allows it a meaning of its own; `..` is
kept, since what it denotes depends on the directories on the way.

Directories named in settings are expanded before use (`expand`): first `$NAME` and `${NAME}`
are replaced by the variable's value where the variable is set, then a leading `~` by the
home directory.
-/

namespace CallBasic.Path

/-- The root of a path: `//`, `/` or nothing. -/
def root (p : String) : String :=
  if p.startsWith "//" && !p.startsWith "///" then "//"
  else if p.startsWith "/" then "/" else ""

/-- The named parts of a path. -/
def parts (p : String) : List String :=
  (p.splitOn "/").filter (fun x => !x.isEmpty && x != ".")

/-- The normal form of a path. -/
def normal (p : String) : String :=
  let body := "/".intercalate (parts p)
  if (root p).isEmpty && body.isEmpty then "." else root p ++ body

/-- The file a path denotes on the system: its normal form, where a leading `//` denotes the
same as `/`. Two paths name the same file when their keys are equal. -/
def key (p : String) : String :=
  let n := normal p
  if root n == "//" then (n.drop 1).toString else n

/-- A path with a relative path appended, in normal form; an absolute path replaces the
directory. -/
def join (dir name : String) : String :=
  if name.startsWith "/" then normal name else normal (dir ++ "/" ++ name)

/-- The directories that hold a path, nearest first, ending at the root (or at `.` for a
relative path). -/
def parents (p : String) : List String :=
  let ps := parts p
  (List.range ps.length).reverse.map fun k => normal (root p ++ "/".intercalate (ps.take k))

/-- What is left after dropping a prefix is a suffix, so no longer than the list. -/
theorem length_dropWhile_le (p : Char → Bool) (l : List Char) :
    (l.dropWhile p).length ≤ l.length :=
  (List.dropWhile_suffix p).length_le

/-- Whether a character may stand in a variable name after `$`. -/
def isNameChar (c : Char) : Bool :=
  c.isAlphanum || c == '_'

/-- The variables of a text expanded, from the left: `$NAME` (a maximal run of letters, digits
and underscores) and `${NAME}` are replaced by the value of a variable that is set and left as
they are otherwise; a replaced value is not scanned again. A `$` that starts neither form
stays. -/
def expandVars (env : String → Option String) : List Char → List Char
  | [] => []
  | '$' :: '{' :: rest =>
    match h : rest.dropWhile (· != '}') with
    | '}' :: after =>
      have : after.length < rest.length := by
        have := length_dropWhile_le (· != '}') rest
        rw [h] at this
        simp only [List.length_cons] at this
        omega
      let name := rest.takeWhile (· != '}')
      let tail := expandVars env after
      match env (String.ofList name) with
      | some v => v.toList ++ tail
      | none => '$' :: '{' :: name ++ '}' :: tail
    | _ => '$' :: expandVars env ('{' :: rest)
  | '$' :: rest =>
    let name := rest.takeWhile isNameChar
    have : (rest.dropWhile isNameChar).length ≤ rest.length := length_dropWhile_le _ _
    if name.isEmpty then '$' :: expandVars env rest
    else
      let tail := expandVars env (rest.dropWhile isNameChar)
      match env (String.ofList name) with
      | some v => v.toList ++ tail
      | none => '$' :: name ++ tail
  | c :: rest => c :: expandVars env rest
termination_by cs => cs.length
decreasing_by all_goals simp_wf <;> omega

/-- A leading `~` alone before the first slash replaced by the home directory, its trailing
slashes removed (the root if nothing is left). Without a home directory, or for `~name`, the
path stays as it is. -/
def expandHome (home : Option String) (p : String) : String :=
  if !p.startsWith "~" then p
  else
    let rest := (p.drop 1).toString
    if !(rest.isEmpty || rest.startsWith "/") then p
    else
      match home with
      | none => p
      | some h =>
        let base := String.ofList (h.toList.reverse.dropWhile (· == '/')).reverse
        let r := base ++ rest
        if r.isEmpty then "/" else r

/-- A directory named in a setting, expanded: variables first, then the home directory. -/
def expand (env : String → Option String) (p : String) : String :=
  expandHome (env "HOME") (String.ofList (expandVars env p.toList))

example : String.ofList (expandVars (fun n => if n == "X" then some "/x" else none)
    "$X/a:$\x7bX\x7d:$Y:$\x7bY\x7d:$:$\x7b".toList) = "/x/a:/x:$Y:$\x7bY\x7d:$:$\x7b" := by
  decide +kernel

end CallBasic.Path
