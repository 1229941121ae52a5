import CallBasic.Proofs.Lexing
import CallBasic.Proofs.ParseSound
import CallBasic.Proofs.WholeDoubles
import CallBasic.Proofs.NodePositions
/-!
# Reading back what is shown

A value shown for reading back (`Value.render true`) is a literal of the language, when the
parser reads it as one. A source that is one number or text token, from its first code point
to its last, parses to that literal alone at line one, column one (`parse_single_literal`).

A text is shown between double quotes with each double quote escaped by a backslash
(`quoteText`), but the parser takes every backslash in a text literal as the start of an escape:
a text with no backslash reads back as itself (`quoteText_reads_back`), and a text with one never
does (`backslash_free_of_reads_back`): the literal that would stand for it is longer, by one code
point for each of its backslashes, than what is shown. A text that is one backslash shows as a
literal that does not close, and the parser stops at its opening quote
(`lone_backslash_unreadable`).
-/

namespace CallBasic

/-! ## Sources of one literal -/

/-- A source whose code points are read whole as one token scans to that token alone, at the
first line and column. -/
theorem scan_single {ps : List CodePoint} {k : TokenKind}
    (h : tokenAt (ps.map CodePoint.classChar) = some (k, ps.length)) :
    scan ⟨ps⟩ = ⟨[⟨k, ⟨ps⟩, 1, 1⟩], none⟩ := by
  have hl : Lexes [] ps [⟨k, ⟨ps⟩, 1, 1⟩] none := by
    rw [lexes_token_iff h, List.take_length, List.drop_length]
    exact ⟨[], rfl, .done⟩
  obtain ⟨htoks, hstop⟩ := (lexes_iff_scan ⟨ps⟩ _ _).mp hl
  rw [← htoks, ← hstop]

/-- A source that is one number or text token parses to its literal alone. -/
theorem parse_single_literal {source : CodeString} {t : Token}
    (hscan : scan source = ⟨[t], none⟩) (hk : t.kind = .number ∨ t.kind = .text)
    (file : Option CodeString) :
    parse source file = .ok [literalOf t ⟨file, t.line, t.column⟩] := by
  have hstep : ParseState.initial.step file t =
      some (ParseState.initial.deliver (literalOf t ⟨file, t.line, t.column⟩)) := by
    rw [ParseState.step_of_none rfl]
    rcases hk with hk | hk <;> simp [ParseState.accept, hk, ParseState.expectsExpr, ParseState.initial]
  simp only [parse, hscan, ParseState.run_cons_of_step hstep, ParseState.run_nil]
  simp [ParseState.deliver, ParseState.initial, ParseState.settle]

/-! ## Texts -/

/-- How `quoteText` writes one code point of a text. -/
def escapeQuote (p : CodePoint) : List CodePoint :=
  if p = .char '"' then [.char '\\', p] else [p]

theorem quoteText_points (s : CodeString) :
    (quoteText s).points = .char '"' :: s.points.flatMap escapeQuote ++ [.char '"'] := rfl

/-- Escaped double quotes are all the escapes of a text with no backslash, and `unescape`
takes them back. -/
theorem unescape_escapeQuote {ps : List CodePoint} (hs : CodePoint.char '\\' ∉ ps) :
    unescape (ps.flatMap escapeQuote) = ps := by
  induction ps with
  | nil => rfl
  | cons p ps ih =>
    have hp : p ≠ .char '\\' := fun h => hs (h ▸ List.mem_cons_self)
    have ih := ih fun h => hs (List.mem_cons_of_mem p h)
    rw [List.flatMap_cons]
    by_cases hq : p = .char '"'
    · subst hq
      simp [escapeQuote, unescape, ih]
    · simp only [escapeQuote, hq, if_false, List.singleton_append]
      rw [unescape_cons_of_ne hp, ih]

/-- Each code point of a text with no backslash is written as one item of a text literal's
body: itself, or a backslash and the double quote. -/
theorem escapeQuote_item {p : CodePoint} (hp : p ≠ .char '\\') :
    IsTextItem ((escapeQuote p).map CodePoint.classChar) := by
  unfold escapeQuote
  split
  · exact Or.inr ⟨'"', by simp_all [CodePoint.classChar], by decide⟩
  · rename_i hq
    refine Or.inl ⟨p.classChar, rfl, ?_, ?_⟩ <;> cases p <;> simp_all [CodePoint.classChar]

/-- A quoted text with no backslash is read whole as one text token. -/
theorem tokenAt_quoteText {s : CodeString} (hs : CodePoint.char '\\' ∉ s.points) :
    tokenAt ((quoteText s).points.map CodePoint.classChar) = some (.text, (quoteText s).points.length) := by
  let items := s.points.map fun p => (escapeQuote p).map CodePoint.classChar
  have hitems : ∀ i ∈ items, IsTextItem i := by
    intro i hi
    obtain ⟨p, hp, rfl⟩ := List.mem_map.mp hi
    exact escapeQuote_item fun h => hs (h ▸ hp)
  have hflat : items.flatten = (s.points.flatMap escapeQuote).map CodePoint.classChar := by
    rw [List.flatMap_def, List.map_flatten, List.map_map]
    rfl
  have hbody := textBodyLength_items hitems []
  rw [hflat] at hbody
  rw [quoteText_points]
  simp only [List.map_cons, List.map_append, List.map_nil, List.length_cons, List.length_append]
  simp [tokenAt, isLetter, CodePoint.classChar, hbody]

/-- A text with no backslash, shown for reading back, reads back as itself: the one literal of
the source, at its first line and column. -/
theorem quoteText_reads_back {s : CodeString} (hs : CodePoint.char '\\' ∉ s.points)
    (file : Option CodeString) :
    parse ((Value.str s).render true) file = .ok [.lit (.str s) ⟨file, 1, 1⟩] := by
  have hscan := scan_single (tokenAt_quoteText hs)
  rw [show (Value.str s).render true = ⟨(quoteText s).points⟩ from rfl,
    parse_single_literal hscan (.inr rfl) file]
  simp only [literalOf, quoteText_points, List.cons_append, List.drop_one, List.tail_cons,
    List.dropLast_concat, unescape_escapeQuote hs]

/-- A text that is one backslash is shown as a double quote, a backslash and a double quote,
where the backslash escapes the closing quote: no text literal starts at the opening quote, and
the parser stops there. -/
theorem lone_backslash_unreadable (file : Option CodeString) :
    parse ((Value.str ⟨[.char '\\']⟩).render true) file = .error (.unexpectedChar (.char '"') 1 1) := by
  rfl

/-! ## Texts with a backslash -/

/-- `quoteText` writes each code point of a text, and a backslash more before each double quote. -/
theorem length_flatMap_escapeQuote (ps : List CodePoint) :
    (ps.flatMap escapeQuote).length = ps.length + ps.count (.char '"') := by
  induction ps with
  | nil => rfl
  | cons p ps ih =>
    by_cases hq : p = .char '"'
    · subst hq
      simp [escapeQuote, ih]
      omega
    · simp [escapeQuote, hq, ih]
      omega

/-- Only an escape, two code points of a text literal's body, stands for a backslash or a double
quote: the body is at least as long as what it stands for with those counted twice. -/
theorem TextItem.count_le {items : List (List CodePoint)} {body : List CodePoint}
    (h : List.Forall₂ TextItem items body) :
    body.length + body.count (.char '\\') + body.count (.char '"') ≤ items.flatten.length := by
  induction h with
  | nil => simp
  | @cons i p items body hi _ ih =>
    cases hi with
    | plain quote backslash =>
      have hq : p ≠ .char '"' := fun e => quote (by rw [e]; rfl)
      have hb : p ≠ .char '\\' := fun e => backslash (by rw [e]; rfl)
      simp only [List.count_cons, beq_iff_eq, hq, hb, if_false, List.flatten_cons,
        List.length_append, List.length_cons, List.length_nil]
      omega
    | @escape q _ =>
      -- the one code point an escape stands for is a backslash or a double quote, not both
      have hone : (if escaped q = .char '\\' then 1 else 0) +
          (if escaped q = .char '"' then 1 else 0) ≤ 1 := by
        split <;> split <;> simp_all
      simp only [List.count_cons, beq_iff_eq, List.flatten_cons, List.length_append,
        List.length_cons, List.length_nil] at ih ⊢
      omega

/-- Only a text token starts with a double quote. -/
theorem kind_of_tokenAt_quote {cs : List Char} {k : TokenKind} {n : Nat}
    (h : tokenAt ('"' :: cs) = some (k, n)) : k = .text := by
  simp [tokenAt, isLetter] at h
  obtain ⟨_, _, rfl, _⟩ := h
  rfl

/-- A source that starts with a double quote and scans to some token starts with a text token:
the double quote is not skipped, and only a text token starts with it. -/
theorem scan_quote_head {source : CodeString} {after : List CodePoint}
    (hq : source.points = .char '"' :: after) (hne : (scan source).tokens ≠ []) :
    ∃ w rest ts, source.points = w ++ rest ∧ IsText (w.map CodePoint.classChar) ∧
      (scan source).tokens = ⟨.text, ⟨w⟩, 1, 1⟩ :: ts := by
  rcases Lexes.inversion (lexes_scan source) with
    ⟨hnil, -, -⟩ | ⟨p, ps, -, -, -, hts, -⟩ | ⟨p, ps, hps, hskip, -⟩ |
      ⟨k, w, rest, ts, hps, hts, hlong, -⟩
  · rw [hq] at hnil
    exact absurd hnil (List.cons_ne_nil _ _)
  · exact absurd hts hne
  · rw [hq] at hps
    rw [← (List.cons.inj hps).1] at hskip
    exact absurd hskip (by decide)
  · have hk : k = .text := by
      obtain ⟨n, hn⟩ := tokenAt_of_matches hlong.1 (rest.map CodePoint.classChar)
      rw [← List.map_append, ← hps, hq] at hn
      exact kind_of_tokenAt_quote hn
    subst hk
    exact ⟨w, rest, ts, hps, hlong.1, hts⟩

/-- A text with a backslash, shown for reading back, never reads back as itself: the first
token of what is shown is a text literal, and a literal standing for the text would be longer
by the text's backslashes than what `quoteText` writes. -/
theorem backslash_free_of_reads_back {s : CodeString} {file : Option CodeString} {pos : Pos}
    {rest : List Expr}
    (h : parse ((Value.str s).render true) file = .ok (.lit (.str s) pos :: rest)) :
    CodePoint.char '\\' ∉ s.points := by
  have hpoints : ((Value.str s).render true).points =
      .char '"' :: s.points.flatMap escapeQuote ++ [.char '"'] := rfl
  -- the node the text would be is headed by the first token
  have hheads := parse_heads h
  simp only [Expr.preorderAll_cons, List.map_append, Expr.heads_lit, List.singleton_append]
    at hheads
  obtain ⟨w, after, ts, hps, htext, hts⟩ := scan_quote_head hpoints (by
    intro hnil
    rw [hnil] at hheads
    exact List.cons_ne_nil _ _ hheads)
  rw [hts] at hheads
  simp only [List.filterMap_cons, Token.head, literalOf, List.cons.injEq, Expr.lit.injEq,
    Value.str.injEq] at hheads
  obtain ⟨⟨hs, -⟩, -⟩ := hheads
  have hbody : unescape ((w.drop 1).dropLast) = s.points := by rw [hs]
  obtain ⟨items, hitems, hw⟩ := textLiteral_of_isText htext
  rw [hbody] at hitems
  -- the literal is no longer than what is shown
  have hlen := congrArg List.length hps
  rw [hpoints, hw] at hlen
  simp only [List.length_cons, List.length_append, length_flatMap_escapeQuote] at hlen
  have hcount := TextItem.count_le hitems
  have hzero : s.points.count (.char '\\') = 0 := by omega
  exact List.count_eq_zero.mp hzero

/-! ## Whole numbers -/

open CallBasic.Text in
/-- An ASCII digit is a decimal digit, worth its distance from `0`. -/
theorem digitValue?_ascii {c : Char} (h : c.isDigit = true) : digitValue? c = some (c.toNat - 48) := by
  have hr : 48 ≤ c.toNat ∧ c.toNat ≤ 57 := by
    simp [Char.isDigit, UInt32.le_iff_toNat_le] at h
    omega
  have hall : ∀ n < 10, digitValue? (Char.ofNat (48 + n)) = some n := by decide
  have hc := hall (c.toNat - 48) (by omega)
  rwa [show 48 + (c.toNat - 48) = c.toNat by omega, Char.ofNat_toNat] at hc

theorem toDigits_digits (n : Nat) : IsDigits (Nat.toDigits 10 n) := by
  refine ⟨Nat.toDigits_ne_nil, fun c hc => ?_⟩
  simp [Text.isDigit, digitValue?_ascii (Nat.isDigit_of_mem_toDigits (by decide) (by decide) hc)]

/-- The digits of a natural number start with a digit, which is no sign. -/
theorem toDigits_eq_cons (n : Nat) :
    ∃ d ds, Nat.toDigits 10 n = d :: ds ∧ Text.isDigit d = true ∧ d ≠ '+' ∧ d ≠ '-' := by
  obtain ⟨d, ds, hcons⟩ := List.exists_cons_of_ne_nil (toDigits_digits n).1
  have hd : Text.isDigit d = true := (toDigits_digits n).2 d (hcons ▸ List.mem_cons_self)
  obtain ⟨-, -, -, -, hplus, hminus⟩ := mantissa_start (.inl hd)
  exact ⟨d, ds, hcons, hd, hplus, hminus⟩

theorem toString_ofNat_toList (n : Nat) : (toString (Int.ofNat n)).toList = Nat.toDigits 10 n :=
  Nat.toList_repr

theorem toString_negSucc_toList (j : Nat) :
    (toString (Int.negSucc j)).toList = '-' :: Nat.toDigits 10 (j + 1) := by
  simp [toString, Int.repr]

/-- A run of ASCII digits is read whole, to the value of its digits. -/
theorem digitRun_ascii {ds : List Char} (hds : ∀ c ∈ ds, c.isDigit = true) (acc count : Nat) :
    Decimal.digitRun acc count ds = (Nat.ofDigitChars 10 ds acc, count + ds.length, []) := by
  induction ds generalizing acc count with
  | nil => rfl
  | cons c ds ih =>
    rw [Decimal.digitRun.eq_def]
    simp only [digitValue?_ascii (hds c List.mem_cons_self)]
    rw [ih (fun d hd => hds d (List.mem_cons_of_mem c hd)), Nat.ofDigitChars_cons, Nat.mul_comm acc]
    simp only [List.length_cons, Prod.mk.injEq, and_true]
    refine ⟨rfl, by omega⟩

/-- The digits of a natural number read as that number, with no fraction or exponent. -/
theorem readUnsigned_toDigits (neg : Bool) (n : Nat) :
    Decimal.readUnsigned neg (Nat.toDigits 10 n) = some (.finite neg n 0) := by
  have hascii : ∀ c ∈ Nat.toDigits 10 n, c.isDigit = true :=
    fun c hc => Nat.isDigit_of_mem_toDigits (by decide) (by decide) hc
  obtain ⟨d, ds, hcons, hd, -, -⟩ := toDigits_eq_cons n
  obtain ⟨hlow, hi, hn, -⟩ := mantissa_start (.inl hd)
  -- the first digit is neither the `i` of `inf` nor the `n` of `nan`
  have hhead : ((Nat.toDigits 10 n).map Decimal.asciiLower).head? = some d := by
    rw [hcons]
    simp [hlow]
  have hinf : (String.ofList ((Nat.toDigits 10 n).map Decimal.asciiLower) == "inf") = false :=
    ofList_beq_of_head (by rw [hhead]; simpa using hi)
  have hinfinity : (String.ofList ((Nat.toDigits 10 n).map Decimal.asciiLower) == "infinity") =
      false := ofList_beq_of_head (by rw [hhead]; simpa using hi)
  have hnan : (String.ofList ((Nat.toDigits 10 n).map Decimal.asciiLower) == "nan") = false :=
    ofList_beq_of_head (by rw [hhead]; simpa using hn)
  have hlen : 0 < (Nat.toDigits 10 n).length := by simp [hcons]
  simp only [Decimal.readUnsigned, hinf, hinfinity, hnan, Bool.or_false, Bool.false_eq_true,
    if_false, digitRun_ascii hascii, Nat.ofDigitChars_ten_toDigits]
  simp [Nat.ne_of_gt hlen]

/-- The text of an integer reads as its double. -/
theorem readFloat_toString (k : Int) : Decimal.readFloat? (toString k) = some (Float.ofInt k) := by
  have hspace : ∀ c ∈ (toString k).toList, Decimal.isNumeralSpace c = false := by
    intro c hc
    have hc' : c = '-' ∨ c ∈ Nat.toDigits 10 k.natAbs := by
      rcases k with n | j
      · exact .inr (by rwa [toString_ofNat_toList] at hc)
      · rw [toString_negSucc_toList] at hc
        exact List.mem_cons.mp hc
    rcases hc' with rfl | hc'
    · decide
    · have hb := isBlank_of_isDigit ((toDigits_digits k.natAbs).2 c hc')
      simp [Decimal.isNumeralSpace, hb]
  have htrim : (((toString k).toList.dropWhile Decimal.isNumeralSpace).reverse.dropWhile
      Decimal.isNumeralSpace).reverse = (toString k).toList := by
    rw [dropWhile_of_none hspace, dropWhile_of_none (by simpa using hspace), List.reverse_reverse]
  simp only [Decimal.readFloat?, Decimal.Numeral.read?, htrim]
  rcases k with n | j
  · -- a natural number: its digits, with no sign
    obtain ⟨d, ds, hcons, -, hplus, hminus⟩ := toDigits_eq_cons n
    have hread := readUnsigned_toDigits false n
    rw [toString_ofNat_toList, hcons]
    rw [hcons] at hread
    split
    · rename_i r heq
      exact absurd (List.cons.inj heq).1 hplus
    · rename_i r heq
      exact absurd (List.cons.inj heq).1 hminus
    · rw [hread]
      rcases n with _ | n <;> rfl
  · -- a negative number: a minus sign, then the digits of its magnitude
    rw [toString_negSucc_toList]
    change Option.map Decimal.Numeral.toFloat (Decimal.readUnsigned true (Nat.toDigits 10 (j + 1))) = _
    rw [readUnsigned_toDigits]
    rfl

/-- A source that starts like a number is measured as one. -/
theorem tokenAt_of_number_start {c : Char} {w : List Char}
    (hc : Text.isDigit c = true ∨ c = '.' ∨ c = '-')
    (hpos : 0 < numberLength (c :: w)) : tokenAt (c :: w) = some (.number, numberLength (c :: w)) := by
  obtain ⟨h1, h2, h3, h4, h5, h6, -⟩ := number_start hc
  have h5' : (¬c = ':' ∧ ¬c = '\r') ∧ ¬c = '\n' := by simpa [isSepChar] using h5
  simp [tokenAt, h1, h2, h3, h4, h5', h6, hpos]

/-- Digits alone are a number to their end. -/
theorem unsignedNumberLength_digits {ds : List Char} (hds : IsDigits ds) :
    unsignedNumberLength ds = ds.length := by
  have h := @unsigned_whole ds [] hds (fun a w e => by cases e) (fun w e => by cases e)
  rwa [List.append_nil] at h

/-- The text of an integer is read whole as one number token. -/
theorem tokenAt_toString (k : Int) :
    tokenAt (toString k).toList = some (.number, (toString k).toList.length) := by
  rcases k with n | j
  · obtain ⟨d, ds, hcons, hd, -, hminus⟩ := toDigits_eq_cons n
    -- a digit is no minus sign, so the whole number is unsigned
    have hlen : numberLength (d :: ds) = (d :: ds).length := by
      rw [← hcons, ← unsignedNumberLength_digits (toDigits_digits n), hcons]
      unfold numberLength
      split
      · rename_i rest heq
        exact absurd (List.cons.inj heq).1 hminus
      · rfl
    rw [toString_ofNat_toList, hcons, tokenAt_of_number_start (.inl hd) (by rw [hlen]; simp), hlen]
  · have hds := toDigits_digits (j + 1)
    have hlen : numberLength ('-' :: Nat.toDigits 10 (j + 1)) =
        ('-' :: Nat.toDigits 10 (j + 1)).length := by
      have hpos := List.length_pos_iff.mpr hds.1
      simp [numberLength, unsignedNumberLength_digits hds, hpos]
    rw [toString_negSucc_toList, tokenAt_of_number_start (.inr (.inr rfl)) (by rw [hlen]; simp),
      hlen]

@[simp] theorem map_classChar_char (cs : List Char) :
    (cs.map CodePoint.char).map CodePoint.classChar = cs := by
  induction cs with
  | nil => rfl
  | cons c cs ih => simp [ih, CodePoint.classChar]

/-- A whole number of magnitude at most `2^53`, shown for reading back, reads back as its
double: the one literal of the source, at its first line and column. -/
theorem wholeNumber_reads_back {k : Int} (hk : k.natAbs ≤ 2 ^ 53) (file : Option CodeString) :
    parse ((Value.num (Float.ofInt k)).render true) file = .ok [.lit (.num (Float.ofInt k)) ⟨file, 1, 1⟩] := by
  have htext : (Value.num (Float.ofInt k)).render true = ⟨(toString k).toList.map .char⟩ := by
    simp only [Value.render, Decimal.formatNumber_ofInt hk]
    rfl
  have htok : tokenAt (((toString k).toList.map CodePoint.char).map CodePoint.classChar) =
      some (.number, ((toString k).toList.map CodePoint.char).length) := by
    rw [map_classChar_char, List.length_map]
    exact tokenAt_toString k
  rw [htext, parse_single_literal (scan_single htok) (.inl rfl) file]
  simp only [literalOf, lossy_eq_ofList, map_classChar_char, String.ofList_toList,
    readFloat_toString, Option.getD_some]

/-- What is shown for reading back reads back: a text exactly when it has no backslash, and a
whole number of magnitude at most `2^53` as its double, each as the one literal of the source at
its first line and column. -/
theorem shown_literal_reads_back (file : Option CodeString) :
    (∀ s : CodeString, parse ((Value.str s).render true) file = .ok [.lit (.str s) ⟨file, 1, 1⟩] ↔
      CodePoint.char '\\' ∉ s.points) ∧
    (∀ k : Int, k.natAbs ≤ 2 ^ 53 →
      parse ((Value.num (Float.ofInt k)).render true) file =
        .ok [.lit (.num (Float.ofInt k)) ⟨file, 1, 1⟩]) :=
  ⟨fun _ => ⟨backslash_free_of_reads_back, fun hs => quoteText_reads_back hs file⟩,
    fun _ hk => wholeNumber_reads_back hk file⟩

/-- A text with double quotes in it reads back, a path with a backslash in it does not, and a
negative whole number does. -/
theorem quoted_text_path_and_negative_number :
    parse ((Value.str "say \"hi\"").render true) none = .ok [.lit (.str "say \"hi\"") ⟨none, 1, 1⟩] ∧
    parse ((Value.str "C:\\TMP").render true) none ≠ .ok [.lit (.str "C:\\TMP") ⟨none, 1, 1⟩] ∧
    parse ((Value.num (Float.ofInt (-7))).render true) none =
      .ok [.lit (.num (Float.ofInt (-7))) ⟨none, 1, 1⟩] :=
  ⟨((shown_literal_reads_back none).1 _).mpr (by decide),
    fun h => ((shown_literal_reads_back none).1 _).mp h (by decide),
    (shown_literal_reads_back none).2 _ (by decide)⟩

end CallBasic
