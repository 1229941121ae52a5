import CallBasic.Proofs.Lexemes
import CallBasic.Decimal.Read
/-!
# Tokenizing a source

A source is tokenized (`Tokenizes`) when, from left to right, the skipped characters are
dropped and every other place starts the longest word of a class.

Main statements: at every place the scanner takes the longest word of the one class that can
start there (`tokenAt_longest`, `tokenAt_of_matches`), so the scan of a source reaches its end
exactly when the source is tokenized, and its tokens are then that tokenization (`scan_iff`).
Every number word reads as a double (`readFloat_of_number`).
-/

namespace CallBasic

open CallBasic.Text

/-! ## The token at the front

The classes start with different characters, so the first character of a source decides the
only class whose word may stand there, and the scanner measures the longest one. -/

/-- The first character of a number starts no word of another class. -/
theorem number_start {c : Char} (h : isDigit c = true ∨ c = '.' ∨ c = '-') :
    isLetter c = false ∧ c ≠ '(' ∧ c ≠ ')' ∧ c ≠ ',' ∧ isSepChar c = false ∧ c ≠ '"' ∧
      isSkipped c = false := by
  rcases h with h | rfl | rfl
  · have hr := toNat_of_isDigit h
    have key : ∀ d : Char, (d.toNat < 48 ∨ (57 < d.toNat ∧ d.toNat < 1632)) → c ≠ d := by
      intro d hd e
      subst e
      omega
    refine ⟨?_, key _ (by decide), key _ (by decide), key _ (by decide), ?_, key _ (by decide), ?_⟩
    · cases hl : isLetter c
      · rfl
      · have := letter_range hl
        omega
    · simp only [isSepChar, Bool.or_eq_false_iff, decide_eq_false_iff_not]
      exact ⟨⟨key _ (by decide), key _ (by decide)⟩, key _ (by decide)⟩
    · simp only [isSkipped, Bool.or_eq_false_iff, decide_eq_false_iff_not]
      exact ⟨⟨key _ (by decide), key _ (by decide)⟩, key _ (by decide)⟩
  · decide
  · decide

example (v : List Char) : tokenAt ('(' :: v) = some (.lparen, 1) := rfl

/-- The token the scanner finds is the longest word of its class. -/
theorem tokenAt_longest {cs : List Char} {k : TokenKind} {n : Nat} (h : tokenAt cs = some (k, n)) :
    0 < n ∧ LongestMatch k (cs.take n) (cs.drop n) := by
  match cs, h with
  | c :: rest, h =>
    simp only [tokenAt] at h
    split at h
    · rename_i hl
      cases h
      exact ⟨by simp only [nameLength]; omega, name_longest hl rest⟩
    split at h
    · rename_i hc
      cases h
      subst hc
      exact ⟨Nat.one_pos, punct_longest .lparen '(' rfl (fun _ h => h) rest⟩
    split at h
    · rename_i hc
      cases h
      subst hc
      exact ⟨Nat.one_pos, punct_longest .rparen ')' rfl (fun _ h => h) rest⟩
    split at h
    · rename_i hc
      cases h
      subst hc
      exact ⟨Nat.one_pos, punct_longest .comma ',' rfl (fun _ h => h) rest⟩
    split at h
    · rename_i hc
      cases h
      exact ⟨by omega, sep_longest hc rest⟩
    split at h
    · rename_i hc
      subst hc
      obtain ⟨m, hm, he⟩ := Option.map_eq_some_iff.mp h
      cases he
      exact ⟨by omega, text_longest hm⟩
    · split at h
      · rename_i hpos
        cases h
        exact ⟨hpos, longestMatch_of_bound (number_take hpos)
          (fun u v huv hu => huv ▸ number_length_le hu)⟩
      · cases h

/-- Where a word of a class stands, the scanner finds a token of that class. -/
theorem tokenAt_of_matches {k : TokenKind} {u : List Char} (hu : k.Matches u) (v : List Char) :
    ∃ n, tokenAt (u ++ v) = some (k, n) := by
  cases k with
  | name =>
    obtain ⟨c, body, hc, -, rfl | rfl⟩ := hu
    · exact ⟨nameLength (body ++ v), by simp [tokenAt, hc]⟩
    · exact ⟨nameLength (body ++ '$' :: v), by simp [tokenAt, hc]⟩
  | number =>
    have hpos : 0 < numberLength (u ++ v) := by
      have h1 := number_length_le (v := v) hu
      obtain ⟨s, m, x, rfl, -, hm, -⟩ := hu
      have h2 := mantissa_length_pos hm
      simp only [List.length_append] at h1
      omega
    have hstart : ∃ c w, u = c :: w ∧ (isDigit c = true ∨ c = '.' ∨ c = '-') := by
      obtain ⟨s, m, x, rfl, rfl | rfl, hm, -⟩ := hu
      · obtain ⟨c, w, rfl, hc⟩ := mantissa_head' hm
        exact ⟨c, w ++ x, rfl, by rcases hc with hc | hc <;> simp [hc]⟩
      · exact ⟨'-', m ++ x, rfl, by simp⟩
    obtain ⟨c, w, rfl, hc⟩ := hstart
    obtain ⟨h1, h2, h3, h4, h5, h6, -⟩ := number_start hc
    refine ⟨numberLength (c :: w ++ v), ?_⟩
    simp only [List.cons_append] at hpos ⊢
    have h5' : (¬c = ':' ∧ ¬c = '\r') ∧ ¬c = '\n' := by simpa [isSepChar] using h5
    simp [tokenAt, h1, h2, h3, h4, h5', h6, hpos]
  | text =>
    obtain ⟨items, hitems, rfl⟩ := hu
    refine ⟨items.flatten.length + 1 + 1, ?_⟩
    have hq : isLetter '"' = false := by decide
    simp only [List.cons_append, List.append_assoc]
    simp [tokenAt, hq, textBodyLength_items hitems v]
  | sep =>
    obtain ⟨c, r, rfl, hc, -⟩ := hu
    have hc' : c = ':' ∨ c = '\r' ∨ c = '\n' := by simpa [isSepChar, or_assoc] using hc
    refine ⟨1 + ((r ++ v).takeWhile isSepTail).length, ?_⟩
    rcases hc' with rfl | rfl | rfl <;> rfl
  | lparen => subst hu; exact ⟨1, rfl⟩
  | rparen => subst hu; exact ⟨1, rfl⟩
  | comma => subst hu; exact ⟨1, rfl⟩

/-- A word of a class starts with a character that is not skipped. -/
theorem matches_head {k : TokenKind} {u : List Char} (hu : k.Matches u) :
    ∃ c w, u = c :: w ∧ isSkipped c = false := by
  obtain ⟨c, w, rfl⟩ : ∃ c w, u = c :: w := by
    obtain ⟨n, hn⟩ := tokenAt_of_matches hu []
    cases u with
    | nil => simp [tokenAt] at hn
    | cons c w => exact ⟨c, w, rfl⟩
  refine ⟨c, w, rfl, ?_⟩
  cases k with
  | name =>
    obtain ⟨c', body, hc, -, h | h⟩ := hu <;>
    · simp only [List.cons_append, List.cons.injEq] at h
      rw [h.1]
      have := letter_range hc
      cases hs : isSkipped c'
      · rfl
      · simp [isSkipped] at hs
        rcases hs with (rfl | rfl) | rfl <;> simp at this
  | number =>
    obtain ⟨s, m, x, h, rfl | rfl, hm, -⟩ := hu
    · obtain ⟨c', w', rfl, hc⟩ := mantissa_head' hm
      simp only [List.nil_append, List.cons_append, List.cons.injEq] at h
      rw [h.1]
      exact (number_start (by rcases hc with hc | hc <;> simp [hc])).2.2.2.2.2.2
    · simp only [List.cons_append, List.nil_append, List.cons.injEq] at h
      rw [h.1]
      rfl
  | text =>
    obtain ⟨items, -, h⟩ := hu
    simp only [List.cons_append, List.cons.injEq] at h
    rw [h.1]
    rfl
  | sep =>
    obtain ⟨c', r, h, hc, -⟩ := hu
    simp only [List.cons.injEq] at h
    rw [h.1]
    have hc' : c' = ':' ∨ c' = '\r' ∨ c' = '\n' := by simpa [isSepChar, or_assoc] using hc
    rcases hc' with rfl | rfl | rfl <;> rfl
  | lparen | rparen | comma =>
    simp only [TokenKind.Matches, List.cons.injEq] at hu
    rw [hu.1]
    rfl

/-! ## Tokenizing a source -/

theorem LongestMatch.length_eq {k : TokenKind} {w rest w' rest' : List Char}
    (h : LongestMatch k w rest) (h' : LongestMatch k w' rest') (e : w ++ rest = w' ++ rest') :
    w.length = w'.length :=
  Nat.le_antisymm (h'.2 w rest e h.1) (h.2 w' rest' e.symm h'.1)

/-- What the grammar reads of a token: its class and its code points. -/
def Token.view (t : Token) : TokenKind × List CodePoint := (t.kind, t.lexeme.points)

/-- How a source of code points splits into tokens: from left to right, a skipped character is
dropped, and every other place starts the longest word of a class, the classes being decided
on the characters the code points are read as. -/
inductive Tokenizes : List CodePoint → List (TokenKind × List CodePoint) → Prop
  | nil : Tokenizes [] []
  | skip {p : CodePoint} {ps ts} (blank : isSkipped p.classChar = true) (tail : Tokenizes ps ts) :
      Tokenizes (p :: ps) ts
  | token {k : TokenKind} {w rest ts}
      (longest : LongestMatch k (w.map CodePoint.classChar) (rest.map CodePoint.classChar))
      (tail : Tokenizes rest ts) : Tokenizes (w ++ rest) ((k, w) :: ts)

theorem Tokenizes.inversion {ps : List CodePoint} {ts : List (TokenKind × List CodePoint)}
    (h : Tokenizes ps ts) :
    (ps = [] ∧ ts = []) ∨
    (∃ p ps', ps = p :: ps' ∧ isSkipped p.classChar = true ∧ Tokenizes ps' ts) ∨
    (∃ k w rest ts', ps = w ++ rest ∧ ts = (k, w) :: ts' ∧
      LongestMatch k (w.map CodePoint.classChar) (rest.map CodePoint.classChar) ∧
      Tokenizes rest ts') := by
  cases h with
  | nil => exact Or.inl ⟨rfl, rfl⟩
  | skip blank tail => exact Or.inr (Or.inl ⟨_, _, rfl, blank, tail⟩)
  | token longest tail => exact Or.inr (Or.inr ⟨_, _, _, _, rfl, rfl, longest, tail⟩)

/-- The code points of a word of a class start with one that is not skipped. -/
theorem longest_head {k : TokenKind} {w rest : List CodePoint}
    (h : LongestMatch k (w.map CodePoint.classChar) (rest.map CodePoint.classChar)) :
    ∃ q w', w = q :: w' ∧ isSkipped q.classChar = false := by
  obtain ⟨c, cs, hc, hs⟩ := matches_head h.1
  cases w with
  | nil => cases hc
  | cons q w' =>
    simp only [List.map_cons, List.cons.injEq] at hc
    exact ⟨q, w', rfl, hc.1 ▸ hs⟩

theorem tokenizes_nil_iff {ts : List (TokenKind × List CodePoint)} : Tokenizes [] ts ↔ ts = [] := by
  constructor
  · intro h
    rcases h.inversion with ⟨-, rfl⟩ | ⟨p, ps', e, -⟩ | ⟨k, w, rest, ts', e, -, longest, -⟩
    · rfl
    · cases e
    · obtain ⟨q, w', rfl, -⟩ := longest_head longest
      cases e
  · rintro rfl
    exact .nil

theorem tokenizes_skip_iff {p : CodePoint} {ps : List CodePoint}
    {ts : List (TokenKind × List CodePoint)} (hp : isSkipped p.classChar = true) :
    Tokenizes (p :: ps) ts ↔ Tokenizes ps ts := by
  constructor
  · intro h
    rcases h.inversion with ⟨e, -⟩ | ⟨p', ps', e, -, tail⟩ | ⟨k, w, rest, ts', e, -, longest, -⟩
    · cases e
    · simp only [List.cons.injEq] at e
      rw [e.2]
      exact tail
    · obtain ⟨q, w', rfl, hq⟩ := longest_head longest
      simp only [List.cons_append, List.cons.injEq] at e
      rw [← e.1, hp] at hq
      cases hq
  · exact Tokenizes.skip hp

theorem tokenizes_drop_skipped {ps : List CodePoint} {ts : List (TokenKind × List CodePoint)}
    (m : Nat) (h : ∀ q ∈ ps.take m, isSkipped q.classChar = true) :
    Tokenizes ps ts ↔ Tokenizes (ps.drop m) ts := by
  induction m generalizing ps with
  | zero => rfl
  | succ m ih =>
    cases ps with
    | nil => simp
    | cons q qs =>
      rw [List.drop_succ_cons, tokenizes_skip_iff (h q (by simp))]
      exact ih (fun r hr => h r (by simp [List.take_succ_cons, hr]))

theorem tokenAt_head {c : Char} {cs : List Char} {k : TokenKind} {n : Nat}
    (h : tokenAt (c :: cs) = some (k, n)) : isSkipped c = false := by
  obtain ⟨hn, longest⟩ := tokenAt_longest h
  obtain ⟨d, w, hd, hs⟩ := matches_head longest.1
  obtain ⟨n', rfl⟩ : ∃ n', n = n' + 1 := ⟨n - 1, by omega⟩
  rw [List.take_succ_cons, List.cons.injEq] at hd
  rw [hd.1]
  exact hs

theorem tokenizes_token_iff {ps : List CodePoint} {k : TokenKind} {n : Nat}
    (htok : tokenAt (ps.map CodePoint.classChar) = some (k, n))
    (ts : List (TokenKind × List CodePoint)) :
    Tokenizes ps ts ↔ ∃ ts', ts = (k, ps.take n) :: ts' ∧ Tokenizes (ps.drop n) ts' := by
  have hlong := (tokenAt_longest htok).2
  rw [← List.map_take, ← List.map_drop] at hlong
  constructor
  · intro h
    rcases h.inversion with ⟨rfl, -⟩ | ⟨p, ps', rfl, hp, -⟩ |
      ⟨k', w, rest, ts', rfl, rfl, longest, tail⟩
    · simp [tokenAt] at htok
    · rw [List.map_cons] at htok
      rw [tokenAt_head htok] at hp
      cases hp
    · obtain ⟨n', hn'⟩ := tokenAt_of_matches longest.1 (rest.map CodePoint.classChar)
      rw [← List.map_append, htok, Option.some.injEq, Prod.mk.injEq] at hn'
      obtain ⟨rfl, rfl⟩ := hn'
      have hlen := hlong.length_eq longest (by rw [← List.map_append, ← List.map_append,
        List.take_append_drop])
      rw [List.length_map, List.length_map] at hlen
      obtain ⟨htake, hdrop⟩ := take_drop_of_length hlen
      exact ⟨ts', by rw [htake], by rw [hdrop]; exact tail⟩
  · rintro ⟨ts', rfl, tail⟩
    have h := Tokenizes.token hlong tail
    rwa [List.take_append_drop] at h

/-- The code points of the run of skipped characters at the front are all skipped. -/
theorem skipped_run {p : CodePoint} {ps : List CodePoint} (hs : isSkipped p.classChar = true) :
    ∀ q ∈ (p :: ps).take (1 + ((ps.map CodePoint.classChar).takeWhile isSkipped).length),
      isSkipped q.classChar = true := by
  intro q hq
  rw [Nat.add_comm, List.take_succ_cons, List.mem_cons] at hq
  rcases hq with rfl | hq
  · exact hs
  · have hmem : q.classChar ∈ (ps.map CodePoint.classChar).takeWhile isSkipped := by
      rw [← take_takeWhile, ← List.map_take]
      exact List.mem_map_of_mem hq
    exact List.all_eq_true.mp List.all_takeWhile _ hmem

/-- A code point that is not skipped and starts no token leaves the source untokenized. -/
theorem not_tokenizes_of_tokenAt {p : CodePoint} {ps : List CodePoint}
    (hs : ¬isSkipped p.classChar = true)
    (htok : tokenAt (p.classChar :: ps.map CodePoint.classChar) = none)
    (ts : List (TokenKind × List CodePoint)) : ¬Tokenizes (p :: ps) ts := by
  intro h
  rcases h.inversion with ⟨e, -⟩ | ⟨q, qs, e, hq, -⟩ | ⟨k, w, rest, ts', e, -, longest, -⟩
  · cases e
  · simp only [List.cons.injEq] at e
    rw [← e.1] at hq
    exact absurd hq hs
  · -- a lexeme of any class starts a token, by its first character
    obtain ⟨n, hn⟩ := tokenAt_of_matches longest.1 (rest.map CodePoint.classChar)
    rw [← List.map_append, ← e, List.map_cons, htok] at hn
    cases hn

/-- The scan from a place, given more steps than code points, follows the tokenization. -/
theorem scanFrom_iff (fuel : Nat) (ps : List CodePoint) (line column : Nat)
    (hfuel : ps.length < fuel) (ts : List (TokenKind × List CodePoint)) :
    Tokenizes ps ts ↔ (scanFrom fuel (ps.map CodePoint.classChar) ps line column).stop = none ∧
      (scanFrom fuel (ps.map CodePoint.classChar) ps line column).tokens.map Token.view = ts := by
  induction fuel generalizing ps line column ts with
  | zero => exact absurd hfuel (Nat.not_lt_zero _)
  | succ fuel ih =>
    cases ps with
    | nil => simp [scanFrom, tokenizes_nil_iff, eq_comm]
    | cons p ps' =>
      simp only [List.length_cons] at hfuel
      simp only [List.map_cons, scanFrom]
      by_cases hs : isSkipped p.classChar = true
      · rw [if_pos hs, ← List.map_cons, ← List.map_drop]
        rw [tokenizes_drop_skipped _ (skipped_run hs)]
        exact ih _ _ _ (by simp only [List.length_drop, List.length_cons]; omega) ts
      · rw [if_neg hs]
        rcases htok : tokenAt (p.classChar :: ps'.map CodePoint.classChar) with _ | ⟨k, n⟩
        · -- the scan stops here, and no tokenization gets past this code point
          simp only
          constructor
          · intro h
            exact absurd h (not_tokenizes_of_tokenAt hs htok ts)
          · rintro ⟨h, -⟩
            cases h
        · have hn := (tokenAt_longest htok).1
          rw [← List.map_cons] at htok ⊢
          dsimp only
          rw [tokenizes_token_iff htok, ← List.map_drop]
          have ih' := ih ((p :: ps').drop n)
            (advancePos line column (((p :: ps').map CodePoint.classChar).take n)).1
            (advancePos line column (((p :: ps').map CodePoint.classChar).take n)).2
            (by simp only [List.length_drop, List.length_cons]; omega)
          constructor
          · rintro ⟨ts', rfl, tail⟩
            obtain ⟨h1, h2⟩ := (ih' ts').mp tail
            exact ⟨h1, by rw [List.map_cons, h2]; rfl⟩
          · rintro ⟨h1, rfl⟩
            exact ⟨_, rfl, (ih' _).mpr ⟨h1, rfl⟩⟩

/-- The scan of a source reaches its end exactly when the source is tokenized, and its tokens
are then the tokenization. -/
theorem scan_iff (source : CodeString) (ts : List (TokenKind × List CodePoint)) :
    Tokenizes source.points ts ↔
      (scan source).stop = none ∧ (scan source).tokens.map Token.view = ts :=
  scanFrom_iff _ _ 1 1 (by simp) ts

/-! ## Reading a number

A number word is a decimal numeral with no blanks, underscores or special words, so reading it
as a double always succeeds. -/

theorem digitRun_run {ds rest : List Char} (hds : ∀ c ∈ ds, isDigit c = true)
    (hrest : ∀ c r, rest = c :: r → isDigit c = false ∧ c ≠ '_') (acc count : Nat) :
    ∃ v, Decimal.digitRun acc count (ds ++ rest) = (v, count + ds.length, rest) := by
  induction ds generalizing acc count with
  | nil =>
    refine ⟨acc, ?_⟩
    cases rest with
    | nil => rfl
    | cons c r =>
      obtain ⟨hc, hu⟩ := hrest c r rfl
      have hv : digitValue? c = none := by
        simpa [isDigit, Option.isSome_iff_ne_none] using hc
      rw [Decimal.digitRun.eq_def]
      simp [hv, hu]
  | cons d ds ih =>
    obtain ⟨v, hv⟩ := Option.isSome_iff_exists.mp (hds d List.mem_cons_self)
    obtain ⟨w, hw⟩ := ih (fun c hc => hds c (List.mem_cons_of_mem d hc)) (acc * 10 + v) (count + 1)
    refine ⟨w, ?_⟩
    rw [List.cons_append, Decimal.digitRun.eq_def]
    simp only [hv, hw, List.length_cons]
    congr 2
    omega

theorem ofList_beq_of_head {l : List Char} {s : String} (h : l.head? ≠ s.toList.head?) :
    (String.ofList l == s) = false := by
  rw [beq_eq_false_iff_ne]
  intro e
  apply h
  rw [← e, String.toList_ofList]

theorem digitRun_all {ds : List Char} (hds : ∀ c ∈ ds, isDigit c = true) (acc count : Nat) :
    ∃ v, Decimal.digitRun acc count ds = (v, count + ds.length, []) := by
  simpa using @digitRun_run ds [] hds (fun c r h => by cases h) acc count

theorem readExponent_ok {s ds : List Char} (hs : s = [] ∨ s = ['+'] ∨ s = ['-'])
    (hds : IsDigits ds) : ∃ v, Decimal.readExponent (s ++ ds) = some v := by
  obtain ⟨v, hv⟩ := digitRun_all hds.2 0 0
  have hpos : 0 < ds.length := List.length_pos_iff.mpr hds.1
  rcases hs with rfl | rfl | rfl
  · obtain ⟨d, ds', rfl⟩ := List.exists_cons_of_ne_nil hds.1
    have hd : d ≠ '+' ∧ d ≠ '-' := by
      have := sign_of_digit (hds.2 d List.mem_cons_self)
      simpa using this
    refine ⟨v, ?_⟩
    simp [Decimal.readExponent, hd.1, hd.2, hv]
  · refine ⟨v, ?_⟩
    simp [Decimal.readExponent, hv, hpos]
  · refine ⟨-(v : Int), ?_⟩
    simp [Decimal.readExponent, hv, hpos]

theorem mantissa_start {c : Char} (hc : isDigit c = true ∨ c = '.') :
    Decimal.asciiLower c = c ∧ c ≠ 'i' ∧ c ≠ 'n' ∧ c ≠ '_' ∧ c ≠ '+' ∧ c ≠ '-' := by
  rcases hc with hc | rfl
  · have hr := toNat_of_isDigit hc
    have key : ∀ d : Char, (d.toNat < 48 ∨ (57 < d.toNat ∧ d.toNat < 1632)) → c ≠ d := by
      intro d hd e
      subst e
      omega
    refine ⟨?_, key _ (by decide), key _ (by decide), key _ (by decide), key _ (by decide),
      key _ (by decide)⟩
    have hup : ('A' ≤ c && c ≤ 'Z') = false := by
      simp only [Bool.and_eq_false_iff, decide_eq_false_iff_not, Char.le_def,
        UInt32.le_iff_toNat_le]
      simp only [Char.toNat] at hr
      have hA : 'A'.val.toNat = 65 := rfl
      have hZ : 'Z'.val.toNat = 90 := rfl
      rw [hA, hZ]
      omega
    simp [Decimal.asciiLower, hup]
  · decide

theorem exponent_start {x : List Char} (hx : x = [] ∨ IsExponent x) :
    ∀ c r, x = c :: r → isDigit c = false ∧ c ≠ '_' ∧ c ≠ '.' := by
  intro c r h
  rcases hx with rfl | ⟨e, s, ds, rfl, he, -, -⟩
  · cases h
  · simp only [List.cons_append, List.cons.injEq] at h
    rw [← h.1]
    rcases he with rfl | rfl <;> decide

theorem readUnsigned_ok {m x : List Char} (hm : IsMantissa m) (hx : x = [] ∨ IsExponent x)
    (neg : Bool) : ∃ r, Decimal.readUnsigned neg (m ++ x) = some r := by
  -- a mantissa starts with a digit or a point, so it never spells a special value
  obtain ⟨c, w, hcw, hc⟩ := mantissa_head' hm
  obtain ⟨hlow, hi, hn, -⟩ := mantissa_start hc
  have hhead : ((m ++ x).map Decimal.asciiLower).head? = some c := by
    rw [hcw]
    simp [hlow]
  have hinf : (String.ofList ((m ++ x).map Decimal.asciiLower) == "inf") = false :=
    ofList_beq_of_head (by rw [hhead]; simpa using hi)
  have hinfinity : (String.ofList ((m ++ x).map Decimal.asciiLower) == "infinity") = false :=
    ofList_beq_of_head (by rw [hhead]; simpa using hi)
  have hnan : (String.ofList ((m ++ x).map Decimal.asciiLower) == "nan") = false :=
    ofList_beq_of_head (by rw [hhead]; simpa using hn)
  have hend := exponent_start hx
  have hend' : ∀ c r, x = c :: r → isDigit c = false ∧ c ≠ '_' :=
    fun c r h => ⟨(hend c r h).1, (hend c r h).2.1⟩
  have hpt : ∀ r, x ≠ '.' :: r := fun r h => (hend '.' r h).2.2 rfl
  -- whatever the digits read as, an exponent after them is read too
  have htail : x = [] ∨ ∃ e s v, x = e :: s ∧ (e == 'e' || e == 'E') = true ∧
      Decimal.readExponent s = some v := by
    rcases hx with rfl | ⟨e, s, ds, rfl, he, hs, hds⟩
    · exact .inl rfl
    · obtain ⟨v, hv⟩ := readExponent_ok hs hds
      have he' : (e == 'e' || e == 'E') = true := by rcases he with rfl | rfl <;> rfl
      exact .inr ⟨e, s ++ ds, v, List.cons_append .., he', hv⟩
  have hpoint : ∀ t c r, ('.' :: t : List Char) = c :: r → isDigit c = false ∧ c ≠ '_' := by
    rintro t c r ⟨⟩
    exact ⟨isDigit_point, by decide⟩
  simp only [Decimal.readUnsigned, hinf, hinfinity, hnan, Bool.or_false, Bool.false_eq_true,
    if_false]
  rcases hm with ⟨a, b, rfl, ha, hb⟩ | ⟨b, rfl, hb⟩ | hm
  · obtain ⟨v, hv⟩ := digitRun_run ha.2 (hpoint (b ++ x)) 0 0
    obtain ⟨v', hv'⟩ := digitRun_run hb hend' v 0
    have hpos : 0 < a.length := List.length_pos_iff.mpr ha.1
    rw [show a ++ '.' :: b ++ x = a ++ '.' :: (b ++ x) by simp, hv]
    simp only [hv']
    rw [if_neg (by simp only [beq_iff_eq]; omega)]
    rcases htail with rfl | ⟨e, s, v, rfl, he, hv⟩
    · exact ⟨_, rfl⟩
    · simp only [he, if_true, hv, Option.map_some]
      exact ⟨_, rfl⟩
  · obtain ⟨v, hv⟩ := @digitRun_run [] ('.' :: (b ++ x)) (fun c h => by cases h)
      (hpoint (b ++ x)) 0 0
    obtain ⟨v', hv'⟩ := digitRun_run hb.2 hend' v 0
    have hpos : 0 < b.length := List.length_pos_iff.mpr hb.1
    rw [show '.' :: b ++ x = [] ++ '.' :: (b ++ x) by simp, hv]
    simp only [hv']
    rw [if_neg (by simp only [beq_iff_eq]; omega)]
    rcases htail with rfl | ⟨e, s, v, rfl, he, hv⟩
    · exact ⟨_, rfl⟩
    · simp only [he, if_true, hv, Option.map_some]
      exact ⟨_, rfl⟩
  · obtain ⟨v, hv⟩ := digitRun_run hm.2 hend' 0 0
    have hpos : 0 < m.length := List.length_pos_iff.mpr hm.1
    rw [hv]
    simp only
    rw [if_neg (by simp only [beq_iff_eq]; omega)]
    rcases htail with rfl | ⟨e, s, v, rfl, he, hv⟩
    · exact ⟨_, rfl⟩
    · simp only [he, if_true, hv, Option.map_some]
      exact ⟨_, rfl⟩

theorem number_chars {w : List Char} (hw : IsNumber w) :
    ∀ c ∈ w, isDigit c = true ∨ c = '-' ∨ c = '.' ∨ c = '+' ∨ c = 'e' ∨ c = 'E' := by
  obtain ⟨s, m, x, rfl, hs, hm, hx⟩ := hw
  intro c hc
  simp only [List.mem_append] at hc
  rcases hc with (hc | hc) | hc
  · rcases hs with rfl | rfl
    · cases hc
    · simp only [List.mem_singleton] at hc
      exact Or.inr (Or.inl hc)
  · rcases hm with ⟨a, b, rfl, ha, hb⟩ | ⟨b, rfl, hb⟩ | hm
    · simp only [List.mem_append, List.mem_cons] at hc
      rcases hc with hc | rfl | hc
      · exact Or.inl (ha.2 c hc)
      · exact Or.inr (Or.inr (Or.inl rfl))
      · exact Or.inl (hb c hc)
    · rcases List.mem_cons.mp hc with rfl | hc
      · exact Or.inr (Or.inr (Or.inl rfl))
      · exact Or.inl (hb.2 c hc)
    · exact Or.inl (hm.2 c hc)
  · rcases hx with rfl | ⟨e, s', ds, rfl, he, hs', hds⟩
    · cases hc
    · simp only [List.cons_append, List.mem_cons, List.mem_append] at hc
      rcases hc with rfl | (hc | hc)
      · rcases he with rfl | rfl <;> simp
      · rcases hs' with rfl | rfl | rfl <;> simp_all
      · exact Or.inl (hds.2 c hc)

/-- Every number word reads as a double. -/
theorem readFloat_of_number {w : List Char} (hw : IsNumber w) :
    ∃ x, Decimal.readFloat? (String.ofList w) = some x := by
  have hspace : ∀ c ∈ w, Decimal.isNumeralSpace c = false := by
    intro c hc
    have hb : isBlank c = false := by
      rcases number_chars hw c hc with h | rfl | rfl | rfl | rfl | rfl
      · exact isBlank_of_isDigit h
      all_goals decide
    simp [Decimal.isNumeralSpace, hb]
  have htrim : ((w.dropWhile Decimal.isNumeralSpace).reverse.dropWhile
      Decimal.isNumeralSpace).reverse = w := by
    rw [dropWhile_of_none hspace, dropWhile_of_none (by simpa using hspace), List.reverse_reverse]
  obtain ⟨s, m, x, rfl, rfl | rfl, hm, hx⟩ := hw
  · obtain ⟨r, hr⟩ := readUnsigned_ok hm hx false
    obtain ⟨c, w', hcw, hc⟩ := mantissa_head' hm
    obtain ⟨-, -, -, -, hplus, hminus⟩ := mantissa_start hc
    refine ⟨r.toFloat, ?_⟩
    simp only [Decimal.readFloat?, Decimal.Numeral.read?, String.toList_ofList, htrim]
    rw [List.nil_append]
    rw [hcw, List.cons_append] at hr ⊢
    simp [hplus, hminus, hr]
  · obtain ⟨r, hr⟩ := readUnsigned_ok hm hx true
    refine ⟨r.toFloat, ?_⟩
    simp only [Decimal.readFloat?, Decimal.Numeral.read?, String.toList_ofList, htrim]
    simp [hr]

end CallBasic
