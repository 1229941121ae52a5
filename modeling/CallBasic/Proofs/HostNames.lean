import Mathlib.Data.List.Basic
import CallBasic.Proofs.Lexemes
import CallBasic.Builtin.Naming
/-!
# Builtin names and host names

A builtin name such as `LEFT$` is written on the host side as `fn_left_s`: `fn_`, then the
name in lower case with each `$` spelt `_s`. Reading a host name back drops `fn_`, spells a
final `_s` as `$`, and takes the upper case.

On the names that calls can have (`IsName`, ASCII letters, digits and underscores with an
optional final `$`) the case maps are ASCII's (`Text.upper_ascii`, `Text.lower_ascii`), read off
the first run of the full Unicode tables. The two spellings then undo each other with one
exception, which the spelling of `$` as `_s` makes unavoidable: a name that ends in `_S` is
written as the name with `$` in its place would be, and reads back as that name
(`host_names_round_trip`; `underscore_s_name_does_not_round_trip` is the smallest case).
-/

namespace CallBasic

/-- A fact about every ASCII character, checked on each of the 128 codes. -/
theorem ascii_all {P : Char → Prop} (h : ∀ n, n < 128 → P (Char.ofNat n)) :
    ∀ c : Char, c.toNat < 128 → P c := fun c hc => by
  have hp := h c.toNat hc
  rwa [Char.ofNat_toNat] at hp

/-! ## Case maps of ASCII characters -/

namespace Text

/-- Case tables whose only run below code point 128 is the first, and whose expansions all lie
above it, map an ASCII character by that run. -/
theorem mapChar_of_ascii (runs : Array CaseRun) (wide : Array (Nat × Array Nat)) {r₀ : CaseRun}
    {rest : List CaseRun} (hruns : runs.toList = r₀ :: rest)
    (hrest : rest.all (fun r => decide (128 ≤ r.first)) = true)
    (hwide : wide.toList.all (fun e => decide (128 ≤ e.1)) = true) {c : Char}
    (hc : c.toNat < 128) :
    mapChar runs wide c =
      if r₀.first ≤ c.toNat && c.toNat ≤ r₀.last && (c.toNat - r₀.first) % r₀.step == 0 then
        [Char.ofNat (Int.toNat (c.toNat + r₀.shift))]
      else [c] := by
  have hnowide : wide.toList.find? (fun e => e.1 == c.toNat) = none := by
    rw [List.find?_eq_none]
    intro e he heq
    have := List.all_eq_true.mp hwide e he
    simp only [beq_iff_eq, decide_eq_true_eq] at heq this
    omega
  have hnorest : rest.find? (fun r => r.first ≤ c.toNat && c.toNat ≤ r.last &&
      (c.toNat - r.first) % r.step == 0) = none := by
    rw [List.find?_eq_none]
    intro r hr hin
    have := List.all_eq_true.mp hrest r hr
    simp only [Bool.and_eq_true, decide_eq_true_eq] at hin this
    omega
  unfold mapChar CaseRun.find?
  dsimp only
  rw [hnowide, hruns, List.find?_cons]
  -- only the first run can hold an ASCII character
  cases r₀.first ≤ c.toNat && c.toNat ≤ r₀.last && (c.toNat - r₀.first) % r₀.step == 0
  · rw [hnorest]
    rfl
  · rfl

/-- The upper case of an ASCII character is ASCII's. -/
theorem upper_char_ascii {c : Char} (hc : c.toNat < 128) :
    mapChar upperRuns upperWide c = [c.toUpper] := by
  rw [mapChar_of_ascii upperRuns upperWide rfl (by decide +kernel) (by decide +kernel) hc]
  -- the first run moves `a` to `z` down by 32, as `Char.toUpper` does
  revert c
  exact @ascii_all _ (by decide)

/-- The lower case of an ASCII character is ASCII's. -/
theorem lower_char_ascii {c : Char} (hc : c.toNat < 128) :
    mapChar lowerRuns lowerWide c = [c.toLower] := by
  rw [mapChar_of_ascii lowerRuns lowerWide rfl (by decide +kernel) (by decide +kernel) hc]
  revert c
  exact @ascii_all _ (by decide)

/-- The upper case of an ASCII text is ASCII's. -/
theorem upper_ascii (w : List Char) (hw : ∀ c ∈ w, c.toNat < 128) :
    upper ⟨w.map .char⟩ = ⟨(w.map Char.toUpper).map .char⟩ := by
  simp only [upper, List.flatMap_map, mapPoint]
  congr 1
  induction w with
  | nil => rfl
  | cons c w ih =>
    rw [List.flatMap_cons, upper_char_ascii (hw c (.head _)),
      ih fun d hd => hw d (.tail _ hd)]
    rfl

/-- The lower case of an ASCII text is ASCII's: it holds no capital sigma, the one character
whose lower case depends on its neighbours. -/
theorem lower_ascii (w : List Char) (hw : ∀ c ∈ w, c.toNat < 128) :
    lower ⟨w.map .char⟩ = ⟨(w.map Char.toLower).map .char⟩ := by
  simp only [lower]
  congr 1
  suffices ∀ before, lowerAfter before (w.map .char) = (w.map Char.toLower).map .char from
    this []
  induction w with
  | nil => intro before; rfl
  | cons c w ih =>
    intro before
    have hc := hw c (.head _)
    have hsigma : CodePoint.char c ≠ .char 'Σ' := by
      intro h
      cases h
      simp at hc
    simp only [List.map_cons, lowerAfter, if_neg hsigma, mapPoint, lower_char_ascii hc,
      ih (fun d hd => hw d (.tail _ hd))]
    rfl

end Text

/-! ## Characters of names -/

/-- The characters that may continue a name are ASCII. -/
theorem isNameChar_ascii {c : Char} (h : isNameChar c = true) : c.toNat < 128 := by
  simp only [isNameChar, isLetter, Bool.or_eq_true, Bool.and_eq_true, decide_eq_true_eq,
    Char.le_def, UInt32.le_iff_toNat_le] at h
  rcases h with h | rfl
  · have hz : ('z' : Char).val.toNat = 122 := rfl
    have hZ : ('Z' : Char).val.toNat = 90 := rfl
    have h9 : ('9' : Char).val.toNat = 57 := rfl
    have : c.toNat = c.val.toNat := rfl
    omega
  · decide

/-- Lower-case letters, digits and `_` are ASCII and not capitals. -/
theorem hostChar_ascii {c : Char} (h : c.isLower ∨ c.isDigit ∨ c = '_') :
    c.toNat < 128 ∧ c.isUpper = false := by
  have hn : c.toNat = c.val.toNat := rfl
  rcases h with h | h | rfl
  · simp [Char.isLower, Char.isUpper, UInt32.le_iff_toNat_le] at h ⊢
    omega
  · simp [Char.isDigit, Char.isUpper, UInt32.le_iff_toNat_le] at h ⊢
    omega
  · decide

theorem toLower_ascii {c : Char} (hc : c.toNat < 128) : c.toLower.toNat < 128 := by
  revert c
  exact @ascii_all _ (by decide)

theorem toUpper_ascii {c : Char} (hc : c.toNat < 128) : c.toUpper.toNat < 128 := by
  revert c
  exact @ascii_all _ (by decide)

/-- Of the ASCII characters only `$` lowers to `$`. -/
theorem toLower_eq_dollar {c : Char} (hc : c.toNat < 128) : c.toLower = '$' ↔ c = '$' := by
  revert c
  exact @ascii_all _ (by decide)

/-- The upper case undoes the lower case of an ASCII character that is not a lower-case
letter. -/
theorem toUpper_toLower {c : Char} (hc : c.toNat < 128) (hl : c.isLower = false) :
    c.toLower.toUpper = c := by
  revert c
  exact @ascii_all _ (by decide)

/-- The lower case undoes the upper case of an ASCII character that is not a capital. -/
theorem toLower_toUpper {c : Char} (hc : c.toNat < 128) (hu : c.isUpper = false) :
    c.toUpper.toLower = c := by
  revert c
  exact @ascii_all _ (by decide)

theorem isNameChar_of_isLetter {c : Char} (h : isLetter c = true) : isNameChar c = true := by
  simp [isNameChar, h]

/-- The characters of a name: a letter, then letters, digits and underscores, and at most a
final `$`. -/
theorem IsName.cases {w : List Char} (hw : IsName w) :
    ∃ v, (∀ c ∈ v, isNameChar c = true) ∧ (w = v ∨ w = v ++ ['$']) := by
  obtain ⟨c, body, hc, hbody, hw⟩ := hw
  refine ⟨c :: body, ?_, hw⟩
  intro d hd
  rcases List.mem_cons.mp hd with rfl | hd
  · exact isNameChar_of_isLetter hc
  · exact hbody d hd

/-- A name that ends in `_S` is still a name with `$` in place of the `_S`. -/
theorem IsName.dollar_of_underscore_S {u : List Char} (h : IsName (u ++ ['_', 'S'])) :
    IsName (u ++ ['$']) ∧ ∀ c ∈ u, isNameChar c = true := by
  obtain ⟨c, body, hc, hbody, hcu | hcu⟩ := h
  · -- the name starts with its letter, so `u` is not empty and starts with it
    cases u with
    | nil =>
      simp only [List.nil_append, List.cons.injEq] at hcu
      rw [← hcu.1] at hc
      exact absurd hc (by decide)
    | cons a u' =>
      simp only [List.cons_append, List.cons.injEq] at hcu
      obtain ⟨rfl, rfl⟩ := hcu
      refine ⟨⟨a, u', hc, fun d hd => hbody d (List.mem_append_left _ hd), .inr rfl⟩, ?_⟩
      intro d hd
      rcases List.mem_cons.mp hd with rfl | hd
      · exact isNameChar_of_isLetter hc
      · exact hbody d (List.mem_append_left _ hd)
  · -- a name that ends in `$` does not end in `S`
    have hlast := congrArg List.getLast? hcu
    rw [List.getLast?_append, List.getLast?_append] at hlast
    simp at hlast

/-! ## Host names of ASCII names -/

theorem fn_append (rest : List CodePoint) :
    ("fn_" : CodeString) ++ ⟨rest⟩ = ⟨.char 'f' :: .char 'n' :: .char '_' :: rest⟩ := rfl

/-- The host name of an ASCII name: `fn_`, then the name in lower case with `$` spelt `_s`. -/
theorem hostName_ascii (w : List Char) (hw : ∀ c ∈ w, c.toNat < 128) :
    hostName ⟨w.map .char⟩ =
      "fn_" ++ ⟨w.flatMap fun c => if c = '$' then [.char '_', .char 's'] else [.char c.toLower]⟩ := by
  unfold hostName
  rw [Text.lower_ascii w hw, List.map_map, List.flatMap_map]
  congr 2
  apply List.flatMap_congr
  intro c hc
  simp only [Function.comp, CodePoint.char.injEq, toLower_eq_dollar (hw c hc)]

/-- Without `$`, spelling a name in lower case is lowering each character. -/
theorem spelling_of_no_dollar (w : List Char) (hw : ∀ c ∈ w, c ≠ '$') :
    (w.flatMap fun c => if c = '$' then [.char '_', .char 's'] else [CodePoint.char c.toLower]) =
      (w.map Char.toLower).map .char := by
  rw [List.map_map, List.map_eq_flatMap]
  apply List.flatMap_congr
  intro c hc
  rw [if_neg (hw c hc)]
  rfl

/-- The host name of an ASCII name without `$`. -/
theorem hostName_of_no_dollar (w : List Char) (hw : ∀ c ∈ w, c.toNat < 128 ∧ c ≠ '$') :
    hostName ⟨w.map .char⟩ = "fn_" ++ ⟨(w.map Char.toLower).map .char⟩ := by
  rw [hostName_ascii w fun c hc => (hw c hc).1, spelling_of_no_dollar w fun c hc => (hw c hc).2]

/-- The host name of an ASCII name whose only `$` is its last character. -/
theorem hostName_of_final_dollar (w : List Char) (hw : ∀ c ∈ w, c.toNat < 128 ∧ c ≠ '$') :
    hostName ⟨(w ++ ['$']).map .char⟩ =
      "fn_" ++ ⟨(w.map Char.toLower ++ ['_', 's']).map .char⟩ := by
  have hascii : ∀ c ∈ w ++ ['$'], c.toNat < 128 :=
    List.forall_mem_append.mpr ⟨fun c hc => (hw c hc).1, List.forall_mem_singleton.mpr (by decide)⟩
  rw [hostName_ascii _ hascii, List.flatMap_append, spelling_of_no_dollar w fun c hc => (hw c hc).2,
    List.map_append]
  rfl

/-- Lowering the characters of a name with no lower-case letter, then raising them, gives the
name back. -/
theorem map_toUpper_toLower {v : List Char} (hv : ∀ c ∈ v, c.toNat < 128 ∧ c.isLower = false) :
    (v.map Char.toLower).map Char.toUpper = v := by
  rw [List.map_map]
  conv => rhs; rw [← List.map_id v]
  exact List.map_congr_left fun c hc => toUpper_toLower (hv c hc).1 (hv c hc).2

/-- Raising lower-case letters, digits and underscores, then lowering them, gives them back. -/
theorem map_toLower_toUpper {w : List Char} (hw : ∀ c ∈ w, c.toNat < 128 ∧ c.isUpper = false) :
    (w.map Char.toUpper).map Char.toLower = w := by
  rw [List.map_map]
  conv => rhs; rw [← List.map_id w]
  exact List.map_congr_left fun c hc => toLower_toUpper (hw c hc).1 (hw c hc).2

/-! ## Reading host names back -/

/-- A host name that ends in `_s` names the builtin with `$` in place of the `_s`. -/
theorem basicName?_of_underscore_s (u : List Char) :
    basicName? ("fn_" ++ ⟨(u ++ ['_', 's']).map .char⟩) =
      some (Text.upper ⟨(u ++ ['$']).map .char⟩) := by
  rw [fn_append]
  simp [basicName?]

/-- A host name that does not end in `_s` names the builtin spelt as the rest in upper case. -/
theorem basicName?_of_not_underscore_s {w : List Char} (h : ¬ ['_', 's'] <:+ w) :
    basicName? ("fn_" ++ ⟨w.map .char⟩) = some (Text.upper ⟨w.map .char⟩) := by
  rw [fn_append]
  simp only [basicName?]
  rw [if_neg]
  intro hs
  simp only [Bool.and_eq_true, decide_eq_true_eq, beq_iff_eq] at hs
  -- the last two code points are those of `_s`, so the characters end in `_s`
  have hsuffix : [CodePoint.char '_', .char 's'] <:+ w.map .char :=
    ⟨_, by rw [← hs.2, List.take_append_drop]⟩
  obtain ⟨l, hl, heq⟩ := List.suffix_map_iff.mp hsuffix
  have hinj : Function.Injective (List.map CodePoint.char) :=
    List.map_injective_iff.mpr fun _ _ h => CodePoint.char.inj h
  have hl2 : l = ['_', 's'] := hinj (show l.map CodePoint.char = ['_', 's'].map .char from heq.symm)
  exact h (hl2 ▸ hl)

/-- The lower case of a name with no lower-case letter ends in `_s` only if the name ends in
`_S`. -/
theorem underscore_s_of_lower {v : List Char} (hv : ∀ c ∈ v, c.toNat < 128 ∧ c.isLower = false)
    (h : ['_', 's'] <:+ v.map Char.toLower) : ['_', 'S'] <:+ v := by
  obtain ⟨l, hl, heq⟩ := List.suffix_map_iff.mp h
  -- the last two characters of the name are those that lower to `_` and `s`
  have hl2 : l = ['_', 'S'] := calc
    l = (l.map Char.toLower).map Char.toUpper :=
      (map_toUpper_toLower fun c hc => hv c (hl.subset hc)).symm
    _ = ['_', 'S'] := by rw [← heq]; rfl
  exact hl2 ▸ hl

/-- The characters of a name are ASCII and none is `$`, but for a final one. -/
theorem nameChar_ascii_of_ne_dollar {c : Char} (h : isNameChar c = true) :
    c.toNat < 128 ∧ c ≠ '$' :=
  ⟨isNameChar_ascii h, by rintro rfl; exact absurd h (by decide)⟩

/-- A name with no lower-case letter reads back from its host name, unless it ends in `_S`. -/
theorem basicName?_hostName_of_name {w : List Char} (hw : IsName w)
    (hl : ∀ c ∈ w, c.isLower = false) (hs : ¬ ['_', 'S'] <:+ w) :
    basicName? (hostName ⟨w.map .char⟩) = some ⟨w.map .char⟩ := by
  obtain ⟨v, hv, hwv⟩ := hw.cases
  have hchars : ∀ c ∈ v, c.toNat < 128 ∧ c ≠ '$' := fun c hc =>
    nameChar_ascii_of_ne_dollar (hv c hc)
  have hcase : ∀ c ∈ v, c.toNat < 128 ∧ c.isLower = false := fun c hc =>
    ⟨(hchars c hc).1, hl c (by rcases hwv with rfl | rfl <;> simp [hc])⟩
  have hlowered : ∀ c ∈ v.map Char.toLower, c.toNat < 128 :=
    List.forall_mem_map.mpr fun c hc => toLower_ascii (hchars c hc).1
  rcases hwv with rfl | rfl
  · -- the host name ends in `_s` only if the name ends in `_S`
    rw [hostName_of_no_dollar _ hchars,
      basicName?_of_not_underscore_s fun h => hs (underscore_s_of_lower hcase h),
      Text.upper_ascii _ hlowered, map_toUpper_toLower hcase]
  · -- the final `$` is spelt `_s` and read back as `$`
    rw [hostName_of_final_dollar v hchars, basicName?_of_underscore_s,
      Text.upper_ascii _
        (List.forall_mem_append.mpr ⟨hlowered, List.forall_mem_singleton.mpr (by decide)⟩),
      List.map_append, map_toUpper_toLower hcase]
    rfl

/-- A name that ends in `_S` has the host name of the name with `$` in place of the `_S`. -/
theorem hostName_underscore_S {u : List Char} (hu : ∀ c ∈ u, isNameChar c = true) :
    hostName ⟨(u ++ ['_', 'S']).map .char⟩ = hostName ⟨(u ++ ['$']).map .char⟩ := by
  have hchars : ∀ c ∈ u, c.toNat < 128 ∧ c ≠ '$' := fun c hc =>
    nameChar_ascii_of_ne_dollar (hu c hc)
  have hall : ∀ c ∈ u ++ ['_', 'S'], c.toNat < 128 ∧ c ≠ '$' := by
    intro c hc
    rcases List.mem_append.mp hc with hc | hc
    · exact hchars c hc
    · simp only [List.mem_cons, List.not_mem_nil, or_false] at hc
      rcases hc with rfl | rfl <;> decide
  rw [hostName_of_no_dollar _ hall, hostName_of_final_dollar u hchars, List.map_append]
  rfl

/-- A host name of lower-case letters, digits and underscores is the host name of the builtin
it reads back as. -/
theorem hostName_basicName? {w : List Char} (hw : ∀ c ∈ w, c.isLower ∨ c.isDigit ∨ c = '_') :
    (basicName? ("fn_" ++ ⟨w.map .char⟩)).map hostName =
      some (("fn_" : CodeString) ++ ⟨w.map .char⟩) := by
  have hcase : ∀ c ∈ w, c.toNat < 128 ∧ c.isUpper = false := fun c hc => hostChar_ascii (hw c hc)
  -- the upper case of such a character is ASCII and not `$`
  have hupper : ∀ c ∈ w, c.toUpper.toNat < 128 ∧ c.toUpper ≠ '$' := by
    intro c hc
    refine ⟨toUpper_ascii (hcase c hc).1, fun h => ?_⟩
    have hback := toLower_toUpper (hcase c hc).1 (hcase c hc).2
    rw [h] at hback
    have hdollar := hw c hc
    rw [← hback] at hdollar
    exact absurd hdollar (by decide)
  have hmapped : ∀ c ∈ w.map Char.toUpper, c.toNat < 128 ∧ c ≠ '$' := by
    intro c hc
    obtain ⟨d, hd, rfl⟩ := List.mem_map.mp hc
    exact hupper d hd
  by_cases hs : ['_', 's'] <:+ w
  · -- a final `_s` reads back as `$`, which is spelt `_s` again
    obtain ⟨u, rfl⟩ := hs
    have hascii : ∀ c ∈ u ++ ['$'], c.toNat < 128 := List.forall_mem_append.mpr
      ⟨fun c hc => (hcase c (List.mem_append_left _ hc)).1, List.forall_mem_singleton.mpr (by decide)⟩
    have hu : ∀ c ∈ u.map Char.toUpper, c.toNat < 128 ∧ c ≠ '$' := fun c hc =>
      hmapped c (by rw [List.map_append]; exact List.mem_append_left _ hc)
    have hdollar : ['$'].map Char.toUpper = ['$'] := rfl
    rw [basicName?_of_underscore_s, Text.upper_ascii _ hascii, Option.map_some, List.map_append,
      hdollar, hostName_of_final_dollar _ hu,
      map_toLower_toUpper fun c hc => hcase c (List.mem_append_left _ hc)]
  · rw [basicName?_of_not_underscore_s hs, Text.upper_ascii _ fun c hc => (hcase c hc).1,
      Option.map_some, hostName_of_no_dollar _ hmapped, map_toLower_toUpper hcase]

/-- Builtin names and host names undo each other, with the one collision of `$` and `_S`.
A name with no lower-case letter reads back from its host name unless it ends in `_S`; a name
that ends in `_S` has the host name of the name with `$` in place of the `_S`, and reads back as
that name. A host name `fn_` followed by lower-case letters, digits and underscores reads back
as a builtin name whose host name it is. -/
theorem host_names_round_trip :
    (∀ w : List Char, IsName w → (∀ c ∈ w, c.isLower = false) → ¬ ['_', 'S'] <:+ w →
      basicName? (hostName ⟨w.map .char⟩) = some ⟨w.map .char⟩) ∧
    (∀ u : List Char, IsName (u ++ ['_', 'S']) → (∀ c ∈ u, c.isLower = false) →
      hostName ⟨(u ++ ['_', 'S']).map .char⟩ = hostName ⟨(u ++ ['$']).map .char⟩ ∧
      basicName? (hostName ⟨(u ++ ['_', 'S']).map .char⟩) = some ⟨(u ++ ['$']).map .char⟩) ∧
    (∀ w : List Char, (∀ c ∈ w, c.isLower ∨ c.isDigit ∨ c = '_') →
      (basicName? ("fn_" ++ ⟨w.map .char⟩)).map hostName =
        some (("fn_" : CodeString) ++ ⟨w.map .char⟩)) := by
  refine ⟨fun w hw hl hs => basicName?_hostName_of_name hw hl hs, fun u hu hl => ?_,
    fun w hw => hostName_basicName? hw⟩
  -- the name with `$` in place of `_S` reads back, and has the same host name
  obtain ⟨hdollar, hchars⟩ := hu.dollar_of_underscore_S
  have hnot : ¬ ['_', 'S'] <:+ u ++ ['$'] := by
    rintro ⟨t, ht⟩
    have hlast := congrArg List.getLast? ht
    simp at hlast
  have hlower : ∀ c ∈ u ++ ['$'], c.isLower = false :=
    List.forall_mem_append.mpr ⟨hl, List.forall_mem_singleton.mpr rfl⟩
  rw [hostName_underscore_S hchars]
  exact ⟨rfl, basicName?_hostName_of_name hdollar hlower hnot⟩

/-- The smallest name that does not read back from its host name: `A_S` is written `fn_a_s`,
which reads back as `A$`. -/
theorem underscore_s_name_does_not_round_trip :
    IsName ['A', '_', 'S'] ∧ (∀ c ∈ ['A', '_', 'S'], c.isLower = false) ∧
      basicName? (hostName ⟨['A', '_', 'S'].map .char⟩) = some ⟨['A', '$'].map .char⟩ ∧
      basicName? (hostName ⟨['A', '_', 'S'].map .char⟩) ≠ some ⟨['A', '_', 'S'].map .char⟩ :=
  ⟨⟨'A', ['_', 'S'], rfl, by simp [isNameChar, isLetter], .inl rfl⟩, by simp, by decide +kernel,
    by decide +kernel⟩

/-- `LEFT$` reads back from `fn_left_s`, `A_S` reads back as `A$`, and `fn_tl_s` reads back as
the builtin `TL$` whose host name it is. -/
theorem left_a_s_and_tail_names_read_back :
    (IsName ['L', 'E', 'F', 'T', '$'] ∧ (∀ c ∈ ['L', 'E', 'F', 'T', '$'], c.isLower = false) ∧
      ¬ ['_', 'S'] <:+ ['L', 'E', 'F', 'T', '$'] ∧
      basicName? (hostName ⟨['L', 'E', 'F', 'T', '$'].map .char⟩) =
        some ⟨['L', 'E', 'F', 'T', '$'].map .char⟩) ∧
    (IsName (['A'] ++ ['_', 'S']) ∧ (∀ c ∈ ['A'], c.isLower = false) ∧
      basicName? (hostName ⟨(['A'] ++ ['_', 'S']).map .char⟩) = some ⟨(['A'] ++ ['$']).map .char⟩) ∧
    ((∀ c ∈ ['t', 'l', '_', 's'], c.isLower ∨ c.isDigit ∨ c = '_') ∧
      (basicName? ("fn_" ++ ⟨['t', 'l', '_', 's'].map .char⟩)).map hostName =
        some (("fn_" : CodeString) ++ ⟨['t', 'l', '_', 's'].map .char⟩)) := by
  have hleft : IsName ['L', 'E', 'F', 'T', '$'] :=
    ⟨'L', ['E', 'F', 'T'], rfl, by simp [isNameChar, isLetter], .inr rfl⟩
  have hname : IsName (['A'] ++ ['_', 'S']) :=
    ⟨'A', ['_', 'S'], rfl, by simp [isNameChar, isLetter], .inl rfl⟩
  have hl : ∀ c ∈ ['L', 'E', 'F', 'T', '$'], c.isLower = false := by simp
  have hs : ¬ ['_', 'S'] <:+ ['L', 'E', 'F', 'T', '$'] := by decide
  have ha : ∀ c ∈ ['A'], c.isLower = false := by simp
  have ht : ∀ c ∈ ['t', 'l', '_', 's'], c.isLower ∨ c.isDigit ∨ c = '_' := by simp
  exact ⟨⟨hleft, hl, hs, host_names_round_trip.1 _ hleft hl hs⟩,
    ⟨hname, ha, (host_names_round_trip.2.1 ['A'] hname ha).2⟩,
    ⟨ht, host_names_round_trip.2.2 _ ht⟩⟩

end CallBasic
