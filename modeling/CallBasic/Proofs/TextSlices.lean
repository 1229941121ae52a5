import CallBasic.Proofs.MemoryStore
/-!
# Slicing texts with the standard builtins

`LEFT$`, `RIGHT$` and `MID$` cut a text at counts and offsets given as numbers; `TL$` drops the
first code point and `LEN` counts them. A number is passed to them as an integer, rounded
toward zero (`truncFloat`), so a count acts only through that integer, and a count that is not
finite has none and is a fault. What each builtin answers, looked up in the standard registry
and invoked with argument values, is stated for every text and every number
(`left_answers`, `right_answers`, `mid_answers`, `tail_answers`, `length_answers`): none of
them touches the world.

The main statement, `text_slices_compose`, gives the laws that tie them together: `LEFT$` and
`RIGHT$` split a text at any count from zero to its length; `MID$` from an offset of at least
one is `RIGHT$` to the end, then `LEFT$`; `MID$` below offset one is a fault; `LEN` of
`LEFT$` is the count clamped to the text; `TL$` is `MID$` from offset two. The three slicing
builtins count in three ways (a prefix of at most the count, a suffix of the count when it is
positive, a window from a 1-based offset), and the laws hold at every boundary.
-/

namespace CallBasic

/-! ## Finding a standard builtin -/

/-- Registering host functions one after the other. -/
theorem registerAll_cons (r : Registry Signature) (g : HostFunction) (gs : List HostFunction) :
    registerAll r (g :: gs) =
      registerAll (match basicName? g.name with
        | some n =>
          match Builtin.adapt g n with
          | .ok b => r.register n b.shape.arity (some (.adapted b))
          | .error _ => r
        | none => r) gs := rfl

/-- Registering host functions in two parts registers the second part after the first. -/
theorem registerAll_append (r : Registry Signature) (fs gs : List HostFunction) :
    registerAll r (fs ++ gs) = registerAll (registerAll r fs) gs := by
  simp [registerAll, List.foldl_append]

/-- Host functions none of which has the builtin name `n` leave the lookup of `n` as it was. -/
theorem get_registerAll_of_unnamed (n : CodeString) :
    ∀ (r : Registry Signature) (gs : List HostFunction), (∀ g ∈ gs, basicName? g.name ≠ some n) →
      (registerAll r gs).get n = r.get n
  | _, [], _ => rfl
  | r, g :: gs, h => by
    rw [registerAll_cons, get_registerAll_of_unnamed n _ gs fun g' hg' => h g' (.tail _ hg')]
    have hg := h g (.head _)
    -- `g` is skipped, or registered under another name
    rcases hname : basicName? g.name with _ | m
    · rfl
    · have hm : m ≠ n := fun hmn => hg (hmn ▸ hname)
      simp only
      cases Builtin.adapt g m with
      | ok b => rw [Registry.get_register, if_neg hm]
      | error e => rfl

/-- The builtin a name has in the standard registry, with its arity: that of the last standard
host function with that builtin name. -/
theorem standardRegistry_get {f : HostFunction} {n : CodeString} {b : Builtin}
    (pre post : List HostFunction) (hsplit : standardFunctions = pre ++ f :: post)
    (hn : basicName? f.name = some n) (hb : Builtin.adapt f n = .ok b)
    (hpost : post.all (fun g => basicName? g.name != some n) = true) :
    standardRegistry.get n = (b.shape.arity, some (.adapted b)) := by
  have hunnamed : ∀ g ∈ post, basicName? g.name ≠ some n := by
    intro g hg
    simpa using List.all_eq_true.mp hpost g hg
  rw [standardRegistry, hsplit, registerAll_append, registerAll_cons, hn]
  simp only [hb]
  rw [get_registerAll_of_unnamed n _ post hunnamed, Registry.get_register, if_pos rfl]

theorem standard_length :
    (standardRegistry.get "LEN").2 =
      some (.adapted ⟨lengthFunction, "LEN", ⟨1, [.str], .int, false⟩⟩) :=
  congrArg Prod.snd <|
    standardRegistry_get (standardFunctions.take 15) (standardFunctions.drop 16) rfl
      (by decide +kernel) rfl (by decide +kernel)

theorem standard_left :
    (standardRegistry.get "LEFT$").2 =
      some (.adapted ⟨leftFunction, "LEFT$", ⟨2, [.str, .int], .str, false⟩⟩) :=
  congrArg Prod.snd <|
    standardRegistry_get (standardFunctions.take 16) (standardFunctions.drop 17) rfl
      (by decide +kernel) rfl (by decide +kernel)

theorem standard_right :
    (standardRegistry.get "RIGHT$").2 =
      some (.adapted ⟨rightFunction, "RIGHT$", ⟨2, [.str, .int], .str, false⟩⟩) :=
  congrArg Prod.snd <|
    standardRegistry_get (standardFunctions.take 17) (standardFunctions.drop 18) rfl
      (by decide +kernel) rfl (by decide +kernel)

theorem standard_mid :
    (standardRegistry.get "MID$").2 =
      some (.adapted ⟨midFunction, "MID$", ⟨3, [.str, .int, .int], .str, false⟩⟩) :=
  congrArg Prod.snd <|
    standardRegistry_get (standardFunctions.take 18) (standardFunctions.drop 19) rfl
      (by decide +kernel) rfl (by decide +kernel)

theorem standard_tail :
    (standardRegistry.get "TL$").2 =
      some (.adapted ⟨tailFunction, "TL$", ⟨1, [.str], .str, false⟩⟩) :=
  congrArg Prod.snd <|
    standardRegistry_get (standardFunctions.take 19) (standardFunctions.drop 20) rfl
      (by decide +kernel) rfl (by decide +kernel)

/-! ## Texts cut into parts -/

namespace CodeString

@[simp] theorem points_append (a b : CodeString) : (a ++ b).points = a.points ++ b.points := rfl

theorem ext_points {a b : CodeString} (h : a.points = b.points) : a = b := by
  cases a
  cases b
  cases h
  rfl

theorem take_append_drop (s : CodeString) (k : Nat) : s.take k ++ s.drop k = s :=
  ext_points (List.take_append_drop k s.points)

theorem length_take (s : CodeString) (k : Nat) : (s.take k).length = min k s.length :=
  List.length_take

theorem length_drop (s : CodeString) (k : Nat) : (s.drop k).length = s.length - k :=
  List.length_drop

theorem take_of_length_le {s : CodeString} {k : Nat} (h : s.length ≤ k) : s.take k = s :=
  ext_points (List.take_of_length_le h)

theorem drop_of_length_le {s : CodeString} {k : Nat} (h : s.length ≤ k) : s.drop k = "" :=
  ext_points (List.drop_of_length_le h)

end CodeString

/-! ## What the text builtins answer -/

/-- A standard builtin answers argument values with `v`: looked up by its name in the standard
registry and invoked with the values, it gives `v` in every environment and world, and leaves
the world as it was. -/
def Answers (name : CodeString) (args : List Value) (v : Value) : Prop :=
  ∃ f, (standardRegistry.get name).2 = some f ∧
    ∀ env w, ((f.invoke (args.map .obj)).run env).run w = .ok v w

/-- A builtin answers at most one value to the same arguments. -/
theorem Answers.unique {name : CodeString} {args : List Value} {v v' : Value}
    (h : Answers name args v) (h' : Answers name args v') : v = v' := by
  obtain ⟨b, hb, hv⟩ := h
  obtain ⟨b', hb', hv'⟩ := h'
  rw [hb] at hb'
  cases hb'
  have := (hv ⟨"", .absent⟩ default).symm.trans (hv' ⟨"", .absent⟩ default)
  cases this
  rfl

/-- The integer of a number is the host's, or an error that the adapter turns into a fault. -/
theorem truncFloat_error_converted {x : Float} {e : HostError} (h : truncFloat x = .error e) :
    e.cls.isConverted = true := by
  unfold truncFloat at h
  split at h <;> cases h <;> rfl

/-- An integer too large for a double is an overflow, which the adapter turns into a fault. -/
theorem intToFloat_error_converted {n : Int} {e : HostError}
    (h : HostValue.intToFloat n = .error e) : e.cls.isConverted = true := by
  unfold HostValue.intToFloat at h
  by_cases hi : (Float.ofScientific n.natAbs false 0).isInf = true
  · simp only [hi, if_true, Except.error.injEq] at h
    subst h
    rfl
  · simp [hi] at h

/-- A builtin whose arguments unwrap to `values`, on which its function returns `r` and changes
nothing, answers the wrapped result, or the fault of an error in wrapping it. -/
theorem invoke_of_returns {b : Builtin} {args values : List HostValue} {r : HostValue}
    (hu : b.shape.unwrap b.label args = .ok values)
    (hf : ∀ env w, ((b.fn.call values).run env).run w = .ok r w)
    (hc : ∀ e, wrapResult b.shape.output r = .error e → e.cls.isConverted = true)
    (env : Env) (w : World) :
    ((b.invoke args).run env).run w =
      .ok (match wrapResult b.shape.output r with
        | .ok v => v
        | .error e => .err (faultText b.label e)) w := by
  rw [invoke_run, hu]
  simp only [hf]
  rcases hw : wrapResult b.shape.output r with e | v
  · simp [hc e hw]
  · rfl

/-- A builtin whose arguments unwrap to `values`, on which its function raises an error of a
converted class and changes nothing, answers that error's fault. -/
theorem invoke_of_raises {b : Builtin} {args values : List HostValue} {e : HostError}
    (hu : b.shape.unwrap b.label args = .ok values)
    (hf : ∀ env w, ((b.fn.call values).run env).run w = .error e w)
    (hc : e.cls.isConverted = true) (env : Env) (w : World) :
    ((b.invoke args).run env).run w = .ok (.err (faultText b.label e)) w := by
  rw [invoke_run, hu]
  simp [hf, hc]

/-- `LEN` answers the number of code points of a text, as the host makes a double of it. -/
theorem length_answers (s : CodeString) :
    Answers "LEN" [.str s]
      (match HostValue.intToFloat s.length with
       | .ok y => .num y
       | .error e => .err (faultText "LEN" e)) := by
  refine ⟨_, standard_length, fun env w => ?_⟩
  simp only [Signature.invoke]
  have hu : CallShape.unwrap ⟨1, [.str], .int, false⟩ "LEN" [.obj (.str s)] = .ok [.str s] := rfl
  -- the count is wrapped as the host makes a double of an integer
  have hwrap : wrapResult .int (.int s.length) = (HostValue.intToFloat s.length).map .num := rfl
  have hc : ∀ e, wrapResult .int (.int s.length) = .error e → e.cls.isConverted = true := by
    intro e he
    rw [hwrap] at he
    rcases hy : HostValue.intToFloat s.length with e' | y <;> rw [hy] at he <;> cases he
    exact intToFloat_error_converted hy
  rw [invoke_of_returns hu (fun _ _ => rfl) hc env w]
  simp only [hwrap]
  cases HostValue.intToFloat s.length <;> rfl

/-- A text and a count are unwrapped as the text and the count's integer. -/
theorem unwrap_text_count (label s : CodeString) (x : Float) :
    CallShape.unwrap ⟨2, [.str, .int], .str, false⟩ label [.obj (.str s), .obj (.num x)] =
      (truncFloat x).map fun k => [.str s, .int k] := by
  show unwrapEach label 1 [.str, .int] _ = _
  simp only [unwrapEach, unwrapArg]
  cases truncFloat x <;> rfl

/-- A text, an offset and a count are unwrapped as the text and the two integers, the offset
first. -/
theorem unwrap_text_offset_count (label s : CodeString) (m n : Float) :
    CallShape.unwrap ⟨3, [.str, .int, .int], .str, false⟩ label
        [.obj (.str s), .obj (.num m), .obj (.num n)] =
      (truncFloat m).bind fun o => (truncFloat n).map fun l => [.str s, .int o, .int l] := by
  show unwrapEach label 1 [.str, .int, .int] _ = _
  simp only [unwrapEach, unwrapArg]
  cases truncFloat m <;> cases truncFloat n <;> rfl

/-- `LEFT$` answers the first code points of a text, as many as the count's integer and none
for an integer below one; a count without an integer is a fault. -/
theorem left_answers (s : CodeString) (x : Float) :
    Answers "LEFT$" [.str s, .num x]
      (match truncFloat x with
       | .ok k => .str (s.take (max k 0).toNat)
       | .error e => .err (faultText "LEFT$" e)) := by
  refine ⟨_, standard_left, fun env w => ?_⟩
  have hu := unwrap_text_count "LEFT$" s x
  rcases hx : truncFloat x with e | k <;> rw [hx] at hu
  · exact invoke_of_unwrap_error hu (truncFloat_error_converted hx) env w
  · exact invoke_of_returns (b := ⟨leftFunction, "LEFT$", ⟨2, [.str, .int], .str, false⟩⟩) hu
      (fun _ _ => rfl) (fun _ h => by cases h) env w

/-- `RIGHT$` answers the last code points of a text, as many as the count's integer when it
is positive, and none otherwise; a count without an integer is a fault. -/
theorem right_answers (s : CodeString) (x : Float) :
    Answers "RIGHT$" [.str s, .num x]
      (match truncFloat x with
       | .ok k => .str (if k > 0 then s.drop (s.length - k.toNat) else "")
       | .error e => .err (faultText "RIGHT$" e)) := by
  refine ⟨_, standard_right, fun env w => ?_⟩
  have hu := unwrap_text_count "RIGHT$" s x
  rcases hx : truncFloat x with e | k <;> rw [hx] at hu
  · exact invoke_of_unwrap_error hu (truncFloat_error_converted hx) env w
  · exact invoke_of_returns (b := ⟨rightFunction, "RIGHT$", ⟨2, [.str, .int], .str, false⟩⟩) hu
      (fun _ _ => rfl) (fun _ h => by cases h) env w

/-- The fault of an offset below one. -/
def offsetFault (o : Int) : CodeString :=
  "MID$: MID$ offset must be at least 1, got " ++ toString o ++ "."

/-- What `MID$` does with a text, an offset and a count. -/
theorem midFunction_call (s : CodeString) (o l : Int) :
    midFunction.call [.str s, .int o, .int l] =
      if o < 1 then
        raise .basicValueError ("MID$ offset must be at least 1, got " ++ toString o ++ ".")
      else pure (.str ((s.drop (o - 1).toNat).take (max l 0).toNat)) := rfl

/-- `MID$` answers the code points of a text from the offset's integer on (counting from one),
at most as many as the count's integer; an offset below one is a fault, and so is an offset or
count without an integer, the offset checked first. -/
theorem mid_answers (s : CodeString) (m n : Float) :
    Answers "MID$" [.str s, .num m, .num n]
      (match truncFloat m, truncFloat n with
       | .ok o, .ok l =>
         if o < 1 then .err (offsetFault o) else .str ((s.drop (o - 1).toNat).take (max l 0).toNat)
       | .error e, _ => .err (faultText "MID$" e)
       | .ok _, .error e => .err (faultText "MID$" e)) := by
  refine ⟨_, standard_mid, fun env w => ?_⟩
  simp only [Signature.invoke]
  have hu := unwrap_text_offset_count "MID$" s m n
  rcases hm : truncFloat m with e | o <;> rcases hn : truncFloat n with e' | l <;>
    simp only [hm, hn, Except.bind, Except.map] at hu
  · exact invoke_of_unwrap_error hu (truncFloat_error_converted hm) env w
  · exact invoke_of_unwrap_error hu (truncFloat_error_converted hm) env w
  · exact invoke_of_unwrap_error hu (truncFloat_error_converted hn) env w
  · by_cases ho : o < 1
    · -- an offset below one: the function raises before slicing
      rw [invoke_of_raises hu (fun _ _ => by rw [midFunction_call, if_pos ho]; rfl) rfl]
      simp only [ho, if_true]
      rw [offsetFault, faultText_of_message _ _ _ (by decide) (isEmpty_append_of_left _ rfl)]
      rfl
    · rw [invoke_of_returns hu (fun _ _ => by rw [midFunction_call, if_neg ho]; rfl)
        (fun _ h => by cases h)]
      simp only [ho, if_false]
      rfl

/-- `TL$` answers a text without its first code point. -/
theorem tail_answers (s : CodeString) : Answers "TL$" [.str s] (.str (s.drop 1)) := by
  refine ⟨_, standard_tail, fun env w => ?_⟩
  have hu : CallShape.unwrap ⟨1, [.str], .str, false⟩ "TL$" [.obj (.str s)] = .ok [.str s] := rfl
  exact invoke_of_returns (b := ⟨tailFunction, "TL$", ⟨1, [.str], .str, false⟩⟩) hu
    (fun _ _ => rfl) (fun _ h => by cases h) env w

/-! ## The laws of slicing -/

/-- A builtin's answer, once known, is the only one. -/
theorem Answers.iff {name : CodeString} {args : List Value} {v₀ : Value}
    (h : Answers name args v₀) (v : Value) : Answers name args v ↔ v = v₀ :=
  ⟨fun h' => h'.unique h, fun hv => hv ▸ h⟩

/-- `LEFT$` and `RIGHT$` split a text at any count from zero to its length. -/
theorem left_append_right (s : CodeString) {x y : Float} {k : Int} (hx : truncFloat x = .ok k)
    (hy : truncFloat y = .ok (s.length - k)) (h0 : 0 ≤ k) (hk : k ≤ s.length) :
    ∃ a b, Answers "LEFT$" [.str s, .num x] (.str a) ∧ Answers "RIGHT$" [.str s, .num y] (.str b) ∧
      a ++ b = s := by
  have hleft := left_answers s x
  have hright := right_answers s y
  simp only [hx, hy] at hleft hright
  refine ⟨_, _, hleft, hright, ?_⟩
  have hmax : (max k 0).toNat = k.toNat := by omega
  -- the suffix starts where the prefix ends, or is empty when the prefix is the whole text
  by_cases hpos : (s.length : Int) - k > 0
  · have hstart : s.length - ((s.length : Int) - k).toNat = k.toNat := by omega
    rw [if_pos hpos, hmax, hstart, CodeString.take_append_drop]
  · have hall : s.length ≤ k.toNat := by omega
    rw [if_neg hpos, hmax, CodeString.take_of_length_le hall]
    exact CodeString.ext_points (List.append_nil _)

/-- `MID$` from an offset of at least one is `RIGHT$` to the end of the text, then `LEFT$`. -/
theorem mid_eq_left_of_right (s : CodeString) {m n r : Float} {o l : Int}
    (hm : truncFloat m = .ok o) (hn : truncFloat n = .ok l) (ho : 1 ≤ o)
    (hr : truncFloat r = .ok (s.length - o + 1)) :
    ∃ a c, Answers "MID$" [.str s, .num m, .num n] (.str a) ∧
      Answers "RIGHT$" [.str s, .num r] (.str c) ∧ Answers "LEFT$" [.str c, .num n] (.str a) := by
  have hmid := mid_answers s m n
  have hright := right_answers s r
  simp only [hm, hn, hr, if_neg (show ¬o < 1 by omega)] at hmid hright
  -- the suffix from the offset on: `RIGHT$` of the rest, or nothing past the end
  have hsuffix : (if (s.length : Int) - o + 1 > 0 then s.drop (s.length - ((s.length : Int) - o + 1).toNat)
      else "") = s.drop (o - 1).toNat := by
    by_cases hpos : (s.length : Int) - o + 1 > 0
    · rw [if_pos hpos]
      congr 1
      omega
    · rw [if_neg hpos, CodeString.drop_of_length_le (by omega)]
  rw [hsuffix] at hright
  have hleft := left_answers (s.drop (o - 1).toNat) n
  simp only [hn] at hleft
  exact ⟨_, _, hmid, hright, hleft⟩

/-- `MID$` below offset one is a fault, whatever the count. -/
theorem mid_below_one (s : CodeString) {m : Float} {o : Int} (hm : truncFloat m = .ok o)
    (ho : o < 1) (n : Float) : ∃ t, Answers "MID$" [.str s, .num m, .num n] (.err t) := by
  have hmid := mid_answers s m n
  rw [hm] at hmid
  rcases hn : truncFloat n with e | l <;> rw [hn] at hmid
  · exact ⟨_, hmid⟩
  · simp only [if_pos ho] at hmid
    exact ⟨_, hmid⟩

/-- `LEN` of `LEFT$` is the count clamped to the text's length. -/
theorem length_of_left (s : CodeString) {x : Float} {k : Int} (hx : truncFloat x = .ok k) :
    ∃ a, Answers "LEFT$" [.str s, .num x] (.str a) ∧ (a.length : Int) = min (max k 0) s.length ∧
      ∀ y, HostValue.intToFloat (min (max k 0) s.length) = .ok y → Answers "LEN" [.str a] (.num y) := by
  have hleft := left_answers s x
  rw [hx] at hleft
  have hlen : ((s.take (max k 0).toNat).length : Int) = min (max k 0) s.length := by
    rw [CodeString.length_take]
    omega
  refine ⟨_, hleft, hlen, fun y hy => ?_⟩
  have hcount := length_answers (s.take (max k 0).toNat)
  rwa [show HostValue.intToFloat (s.take (max k 0).toNat).length = .ok y by rw [hlen, hy]] at hcount

/-- `TL$` is `MID$` from offset two over the whole length. -/
theorem tail_eq_mid (s : CodeString) {two l : Float} (htwo : truncFloat two = .ok 2)
    (hl : truncFloat l = .ok s.length) :
    ∃ a, Answers "TL$" [.str s] (.str a) ∧ Answers "MID$" [.str s, .num two, .num l] (.str a) := by
  have hmid := mid_answers s two l
  simp only [htwo, hl, if_neg (show ¬(2 : Int) < 1 by omega)] at hmid
  have hrest : (s.drop ((2 : Int) - 1).toNat).take (max (s.length : Int) 0).toNat = s.drop 1 :=
    CodeString.take_of_length_le (by rw [CodeString.length_drop]; omega)
  rw [hrest] at hmid
  exact ⟨_, tail_answers s, hmid⟩

/-- Counts and offsets act only through their integers: two numbers with the same integer, or
that fail the same way, give the same answers. -/
theorem answers_of_same_integer (s : CodeString) {x y : Float} (h : truncFloat x = truncFloat y)
    (n : Float) (v : Value) :
    (Answers "LEFT$" [.str s, .num x] v ↔ Answers "LEFT$" [.str s, .num y] v) ∧
    (Answers "RIGHT$" [.str s, .num x] v ↔ Answers "RIGHT$" [.str s, .num y] v) ∧
    (Answers "MID$" [.str s, .num x, .num n] v ↔ Answers "MID$" [.str s, .num y, .num n] v) ∧
    (Answers "MID$" [.str s, .num n, .num x] v ↔ Answers "MID$" [.str s, .num n, .num y] v) := by
  refine ⟨?_, ?_, ?_, ?_⟩
  · rw [(left_answers s x).iff, (left_answers s y).iff, h]
  · rw [(right_answers s x).iff, (right_answers s y).iff, h]
  · rw [(mid_answers s x n).iff, (mid_answers s y n).iff, h]
  · rw [(mid_answers s n x).iff, (mid_answers s n y).iff, h]

/-- A number that is not finite has no integer. -/
theorem truncFloat_error_of_not_finite {x : Float}
    (hx : Decimal.Binary.ofFloat x = .nan ∨ ∃ neg, Decimal.Binary.ofFloat x = .inf neg) :
    ∃ e, truncFloat x = .error e := by
  rcases hx with hx | ⟨neg, hx⟩ <;> exact ⟨_, by rw [truncFloat, hx]⟩

/-- A count or offset that is not finite is a fault, wherever it stands. -/
theorem not_finite_faults (s : CodeString) {x : Float}
    (hx : Decimal.Binary.ofFloat x = .nan ∨ ∃ neg, Decimal.Binary.ofFloat x = .inf neg) (n : Float) :
    (∃ t, Answers "LEFT$" [.str s, .num x] (.err t)) ∧
    (∃ t, Answers "RIGHT$" [.str s, .num x] (.err t)) ∧
    (∃ t, Answers "MID$" [.str s, .num x, .num n] (.err t)) ∧
    (∃ t, Answers "MID$" [.str s, .num n, .num x] (.err t)) := by
  obtain ⟨e, he⟩ := truncFloat_error_of_not_finite hx
  have hleft := left_answers s x
  have hright := right_answers s x
  have hfirst := mid_answers s x n
  have hsecond := mid_answers s n x
  rw [he] at hleft hright hfirst hsecond
  refine ⟨⟨_, hleft⟩, ⟨_, hright⟩, ⟨_, hfirst⟩, ?_⟩
  -- as a count, it is reached after the offset, which may fail first
  rcases hn : truncFloat n with e' | o <;> rw [hn] at hsecond <;> exact ⟨_, hsecond⟩

/-- The standard text builtins compose as slices of one text `s` of length `L`, for counts and
offsets given as any finite numbers through their integers `k`, `o`, `l`: `LEFT$(s, k)` followed
by `RIGHT$(s, L - k)` is `s` for `0 ≤ k ≤ L`; `MID$(s, o, l)` is `LEFT$(RIGHT$(s, L - o + 1), l)`
for `o ≥ 1` and a fault for `o < 1`; `LEN(LEFT$(s, k))` is `min (max k 0) L`; `TL$(s)` is
`MID$(s, 2, L)`. Numbers with the same integer give the same answers, so a finite count acts as
its truncation toward zero, and a count or offset that is not a finite number is a fault. -/
theorem text_slices_compose (s : CodeString) :
    (∀ (x y : Float) (k : Int), truncFloat x = .ok k → truncFloat y = .ok (s.length - k) →
      0 ≤ k → k ≤ s.length →
      ∃ a b, Answers "LEFT$" [.str s, .num x] (.str a) ∧
        Answers "RIGHT$" [.str s, .num y] (.str b) ∧ a ++ b = s) ∧
    (∀ (m n r : Float) (o l : Int), truncFloat m = .ok o → truncFloat n = .ok l → 1 ≤ o →
      truncFloat r = .ok (s.length - o + 1) →
      ∃ a c, Answers "MID$" [.str s, .num m, .num n] (.str a) ∧
        Answers "RIGHT$" [.str s, .num r] (.str c) ∧ Answers "LEFT$" [.str c, .num n] (.str a)) ∧
    (∀ (m n : Float) (o : Int), truncFloat m = .ok o → o < 1 →
      ∃ t, Answers "MID$" [.str s, .num m, .num n] (.err t)) ∧
    (∀ (x : Float) (k : Int), truncFloat x = .ok k →
      ∃ a, Answers "LEFT$" [.str s, .num x] (.str a) ∧ (a.length : Int) = min (max k 0) s.length ∧
        ∀ y, HostValue.intToFloat (min (max k 0) s.length) = .ok y →
          Answers "LEN" [.str a] (.num y)) ∧
    (∀ two l : Float, truncFloat two = .ok 2 → truncFloat l = .ok s.length →
      ∃ a, Answers "TL$" [.str s] (.str a) ∧ Answers "MID$" [.str s, .num two, .num l] (.str a)) ∧
    (∀ x y : Float, truncFloat x = truncFloat y → ∀ (n : Float) (v : Value),
      (Answers "LEFT$" [.str s, .num x] v ↔ Answers "LEFT$" [.str s, .num y] v) ∧
      (Answers "RIGHT$" [.str s, .num x] v ↔ Answers "RIGHT$" [.str s, .num y] v) ∧
      (Answers "MID$" [.str s, .num x, .num n] v ↔ Answers "MID$" [.str s, .num y, .num n] v) ∧
      (Answers "MID$" [.str s, .num n, .num x] v ↔ Answers "MID$" [.str s, .num n, .num y] v)) ∧
    (∀ x : Float, (Decimal.Binary.ofFloat x = .nan ∨ ∃ neg, Decimal.Binary.ofFloat x = .inf neg) →
      ∀ n : Float,
        (∃ t, Answers "LEFT$" [.str s, .num x] (.err t)) ∧
        (∃ t, Answers "RIGHT$" [.str s, .num x] (.err t)) ∧
        (∃ t, Answers "MID$" [.str s, .num x, .num n] (.err t)) ∧
        (∃ t, Answers "MID$" [.str s, .num n, .num x] (.err t))) :=
  ⟨fun _ _ _ hx hy h0 hk => left_append_right s hx hy h0 hk,
    fun _ _ _ _ _ hm hn ho hr => mid_eq_left_of_right s hm hn ho hr,
    fun _ n _ hm ho => mid_below_one s hm ho n,
    fun _ _ hx => length_of_left s hx,
    fun _ _ htwo hl => tail_eq_mid s htwo hl,
    fun _ _ h => answers_of_same_integer s h,
    fun _ hx => not_finite_faults s hx⟩

/-- `LEFT$("HELLO", 2.9)` and `RIGHT$("HELLO", 3)` split the text after `HE`. -/
theorem hello_split_after_two :
    truncFloat 2.9 = .ok 2 ∧ truncFloat 3 = .ok (("HELLO" : CodeString).length - 2) ∧
      ∃ a b, Answers "LEFT$" [.str "HELLO", .num 2.9] (.str a) ∧
        Answers "RIGHT$" [.str "HELLO", .num 3] (.str b) ∧ a ++ b = "HELLO" := by
  have h₁ : truncFloat 2.9 = .ok 2 := by rfl
  have h₂ : truncFloat 3 = .ok (("HELLO" : CodeString).length - 2) := by rfl
  exact ⟨h₁, h₂, (text_slices_compose "HELLO").1 2.9 3 2 h₁ h₂ (by decide) (by decide)⟩

end CallBasic
