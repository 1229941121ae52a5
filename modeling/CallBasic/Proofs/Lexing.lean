import CallBasic.Proofs.Grammar
/-!
# The tokens of a source, up to where the scan stops

`Tokenizes` says how a source that scans to its end splits into lexemes. A source may also
stop the scan at a code point where no token starts; the tokens before that code point are
still read, and they and the code point each have a position. `Lexes before ps ts stop` says
this of the code points `ps` that follow `before`: the same reading from left to right, by
longest matches with skipped characters dropped, each token at the position of the code
points before it (`positionAfter`: the line counts the line feeds before it from one, the
column the code points after the last of them, from one), and `stop` the code point where no
token starts, with its position, if the reading stops at one.

The scanner computes exactly this (`lexes_iff_scan`); what it reads is made of well-formed
tokens (`Lexes.wellFormed`), and when it reaches the end of the source it is the source's
tokenization (`Lexes.tokenizes`).
-/

namespace CallBasic

/-! ## Positions -/

/-- The line and column of what follows the code points `before`: the line counts the line
feeds among them from one, the column the code points after the last line feed, from one. -/
def positionAfter (before : List CodePoint) : Nat × Nat :=
  let cs := before.map CodePoint.classChar
  (cs.count '\n' + 1, (cs.reverse.takeWhile (· != '\n')).length + 1)

theorem advancePos_cons (line column : Nat) (c : Char) (cs : List Char) :
    advancePos line column (c :: cs) =
      if c = '\n' then advancePos (line + 1) 1 cs else advancePos line (column + 1) cs := by
  unfold advancePos
  rw [List.foldl_cons]
  split <;> rfl

/-- A line feed moves to the first column of the next line; any other code point to the next
column. -/
theorem positionAfter_concat (before : List CodePoint) (p : CodePoint) :
    positionAfter (before ++ [p]) =
      if p.classChar = '\n' then ((positionAfter before).1 + 1, 1)
      else ((positionAfter before).1, (positionAfter before).2 + 1) := by
  by_cases h : p.classChar = '\n'
  · simp [positionAfter, h]
  · simp [positionAfter, h]

/-- Advancing over code points from the position after `before` reaches the position after
both: the scanner's running position is `positionAfter`. -/
theorem advancePos_positionAfter (before ws : List CodePoint) :
    advancePos (positionAfter before).1 (positionAfter before).2 (ws.map CodePoint.classChar) =
      positionAfter (before ++ ws) := by
  induction ws generalizing before with
  | nil => simp [advancePos]
  | cons w ws ih =>
    rw [List.map_cons, advancePos_cons, ← List.singleton_append, ← List.append_assoc, ← ih,
      positionAfter_concat]
    split <;> rfl

/-! ## The tokens read up to the stop -/

/-- `Lexes before ps ts stop`: after the code points `before`, the code points `ps` are read as
the tokens `ts`, each at the position of what stands before it, up to their end (`stop` is
`none`) or up to a code point that is not skipped and starts no word of any class (`stop` holds
it and its position). A skipped character is dropped, and every other place starts the longest
word of a class. -/
inductive Lexes : List CodePoint → List CodePoint → List Token → Option (CodePoint × Nat × Nat) →
    Prop
  | done {before : List CodePoint} : Lexes before [] [] none
  | stuck {before : List CodePoint} {p : CodePoint} {ps : List CodePoint}
      (blank : isSkipped p.classChar = false)
      (unmatched : ∀ (k : TokenKind) (w rest : List CodePoint), p :: ps = w ++ rest →
        ¬k.Matches (w.map CodePoint.classChar)) :
      Lexes before (p :: ps) [] (some (p, positionAfter before))
  | skip {before : List CodePoint} {p : CodePoint} {ps : List CodePoint} {ts stop}
      (blank : isSkipped p.classChar = true) (tail : Lexes (before ++ [p]) ps ts stop) :
      Lexes before (p :: ps) ts stop
  | token {before : List CodePoint} {k : TokenKind} {w rest : List CodePoint} {ts stop}
      (longest : LongestMatch k (w.map CodePoint.classChar) (rest.map CodePoint.classChar))
      (tail : Lexes (before ++ w) rest ts stop) :
      Lexes before (w ++ rest) (⟨k, ⟨w⟩, (positionAfter before).1, (positionAfter before).2⟩ :: ts)
        stop

namespace Lexes

variable {before ps : List CodePoint} {ts : List Token} {stop : Option (CodePoint × Nat × Nat)}

/-- Every token read is a word of its class. -/
theorem wellFormed (h : Lexes before ps ts stop) : ∀ t ∈ ts, t.WellFormed := by
  induction h with
  | done => simp
  | stuck => simp
  | skip _ _ ih => exact ih
  | token longest _ ih =>
    intro t ht
    rcases List.mem_cons.mp ht with rfl | ht
    · exact longest.1
    · exact ih t ht

/-- Read to the end, the tokens are the tokenization of the code points. -/
theorem tokenizes (h : Lexes before ps ts stop) (hs : stop = none) :
    Tokenizes ps (ts.map Token.view) := by
  induction h with
  | done => exact .nil
  | stuck => cases hs
  | skip blank _ ih => exact .skip blank (ih hs)
  | token longest _ ih => exact .token longest (ih hs)

/-- Every token read stands where its position says: its code points follow `before` and the
code points read before it. -/
theorem located (h : Lexes before ps ts stop) :
    ∀ t ∈ ts, ∃ mid rest, ps = mid ++ t.lexeme.points ++ rest ∧
      (t.line, t.column) = positionAfter (before ++ mid) := by
  induction h with
  | done => simp
  | stuck => simp
  | @skip before p ps ts stop _ _ ih =>
    intro t ht
    obtain ⟨mid, rest, hps, hpos⟩ := ih t ht
    exact ⟨p :: mid, rest, by rw [hps]; rfl, by rw [hpos]; simp⟩
  | @token before k w rest ts stop _ _ ih =>
    intro t ht
    rcases List.mem_cons.mp ht with rfl | ht
    · exact ⟨[], rest, by simp, by simp⟩
    · obtain ⟨mid, rest', hps, hpos⟩ := ih t ht
      exact ⟨w ++ mid, rest', by rw [hps]; simp, by rw [hpos]; simp⟩

/-- The code point where the reading stops stands where its position says. -/
theorem stop_located (h : Lexes before ps ts stop) {c : CodePoint} {line column : Nat} :
    stop = some (c, line, column) →
      ∃ mid rest, ps = mid ++ c :: rest ∧ (line, column) = positionAfter (before ++ mid) := by
  induction h with
  | done => simp
  | stuck =>
    intro hs
    cases hs
    exact ⟨[], _, rfl, by rw [List.append_nil]; rfl⟩
  | @skip before p ps ts stop _ _ ih =>
    intro hs
    obtain ⟨mid, rest, hps, hpos⟩ := ih hs
    exact ⟨p :: mid, rest, by rw [hps]; rfl, by rw [hpos]; simp⟩
  | @token before k w rest ts stop _ _ ih =>
    intro hs
    obtain ⟨mid, rest', hps, hpos⟩ := ih hs
    exact ⟨w ++ mid, rest', by rw [hps]; simp, by rw [hpos]; simp⟩

theorem inversion (h : Lexes before ps ts stop) :
    (ps = [] ∧ ts = [] ∧ stop = none) ∨
    (∃ p ps', ps = p :: ps' ∧ isSkipped p.classChar = false ∧
      (∀ (k : TokenKind) (w rest : List CodePoint), p :: ps' = w ++ rest →
        ¬k.Matches (w.map CodePoint.classChar)) ∧
      ts = [] ∧ stop = some (p, positionAfter before)) ∨
    (∃ p ps', ps = p :: ps' ∧ isSkipped p.classChar = true ∧ Lexes (before ++ [p]) ps' ts stop) ∨
    (∃ k w rest ts', ps = w ++ rest ∧
      ts = ⟨k, ⟨w⟩, (positionAfter before).1, (positionAfter before).2⟩ :: ts' ∧
      LongestMatch k (w.map CodePoint.classChar) (rest.map CodePoint.classChar) ∧
      Lexes (before ++ w) rest ts' stop) := by
  cases h with
  | done => exact Or.inl ⟨rfl, rfl, rfl⟩
  | stuck blank unmatched => exact Or.inr (Or.inl ⟨_, _, rfl, blank, unmatched, rfl, rfl⟩)
  | skip blank tail => exact Or.inr (Or.inr (Or.inl ⟨_, _, rfl, blank, tail⟩))
  | token longest tail => exact Or.inr (Or.inr (Or.inr ⟨_, _, _, _, rfl, rfl, longest, tail⟩))

end Lexes

/-! ## One place at a time -/

section

variable {before : List CodePoint} {ts : List Token} {stop : Option (CodePoint × Nat × Nat)}

theorem lexes_nil_iff : Lexes before [] ts stop ↔ ts = [] ∧ stop = none := by
  constructor
  · intro h
    rcases h.inversion with ⟨-, rfl, rfl⟩ | ⟨p, ps', e, -⟩ | ⟨p, ps', e, -⟩ |
      ⟨k, w, rest, ts', e, -, longest, -⟩
    · exact ⟨rfl, rfl⟩
    · cases e
    · cases e
    · obtain ⟨q, w', rfl, -⟩ := longest_head longest
      cases e
  · rintro ⟨rfl, rfl⟩
    exact .done

theorem lexes_skip_iff {p : CodePoint} {ps : List CodePoint} (hp : isSkipped p.classChar = true) :
    Lexes before (p :: ps) ts stop ↔ Lexes (before ++ [p]) ps ts stop := by
  constructor
  · intro h
    rcases h.inversion with ⟨e, -⟩ | ⟨p', ps', e, hb, -⟩ | ⟨p', ps', e, -, tail⟩ |
      ⟨k, w, rest, ts', e, -, longest, -⟩
    · cases e
    · simp only [List.cons.injEq] at e
      rw [← e.1, hp] at hb
      cases hb
    · simp only [List.cons.injEq] at e
      rw [e.1, e.2]
      exact tail
    · -- a word starts with a character that is not skipped
      obtain ⟨q, w', rfl, hq⟩ := longest_head longest
      simp only [List.cons_append, List.cons.injEq] at e
      rw [← e.1, hp] at hq
      cases hq
  · exact Lexes.skip hp

theorem lexes_drop_skipped {ps : List CodePoint} (m : Nat)
    (h : ∀ q ∈ ps.take m, isSkipped q.classChar = true) :
    Lexes before ps ts stop ↔ Lexes (before ++ ps.take m) (ps.drop m) ts stop := by
  induction m generalizing before ps with
  | zero => simp
  | succ m ih =>
    cases ps with
    | nil => simp
    | cons q qs =>
      rw [List.drop_succ_cons, List.take_succ_cons, lexes_skip_iff (h q (by simp)),
        ih (fun r hr => h r (by simp [List.take_succ_cons, hr]))]
      simp

theorem lexes_token_iff {ps : List CodePoint} {k : TokenKind} {n : Nat}
    (htok : tokenAt (ps.map CodePoint.classChar) = some (k, n)) :
    Lexes before ps ts stop ↔ ∃ ts',
      ts = ⟨k, ⟨ps.take n⟩, (positionAfter before).1, (positionAfter before).2⟩ :: ts' ∧
      Lexes (before ++ ps.take n) (ps.drop n) ts' stop := by
  have hlong := (tokenAt_longest htok).2
  rw [← List.map_take, ← List.map_drop] at hlong
  constructor
  · intro h
    rcases h.inversion with ⟨rfl, -⟩ | ⟨p, ps', rfl, -, unmatched, -⟩ | ⟨p, ps', rfl, hp, -⟩ |
      ⟨k', w, rest, ts', rfl, rfl, longest, tail⟩
    · simp [tokenAt] at htok
    · -- the token found here is a word of its class
      exact absurd hlong.1 (unmatched k _ _ (List.take_append_drop n _).symm)
    · rw [List.map_cons] at htok
      rw [tokenAt_head htok] at hp
      cases hp
    · obtain ⟨n', hn'⟩ := tokenAt_of_matches longest.1 (rest.map CodePoint.classChar)
      rw [← List.map_append, htok, Option.some.injEq, Prod.mk.injEq] at hn'
      obtain ⟨rfl, rfl⟩ := hn'
      have hlen := hlong.length_eq longest (by rw [← List.map_append, ← List.map_append,
        List.take_append_drop])
      rw [List.length_map, List.length_map] at hlen
      obtain ⟨htake, hdrop⟩ := take_drop_of_length hlen
      exact ⟨ts', by rw [htake], by rw [htake, hdrop]; exact tail⟩
  · rintro ⟨ts', rfl, tail⟩
    have h := Lexes.token hlong tail
    rwa [List.take_append_drop] at h

theorem lexes_stuck_iff {p : CodePoint} {ps : List CodePoint} (hs : isSkipped p.classChar = false)
    (htok : tokenAt (p.classChar :: ps.map CodePoint.classChar) = none) :
    Lexes before (p :: ps) ts stop ↔ ts = [] ∧ stop = some (p, positionAfter before) := by
  -- no word of any class starts at `p`
  have unmatched : ∀ (k : TokenKind) (w rest : List CodePoint), p :: ps = w ++ rest →
      ¬k.Matches (w.map CodePoint.classChar) := by
    intro k w rest e hk
    obtain ⟨n, hn⟩ := tokenAt_of_matches hk (rest.map CodePoint.classChar)
    rw [← List.map_append, ← e, List.map_cons, htok] at hn
    cases hn
  constructor
  · intro h
    rcases h.inversion with ⟨e, -⟩ | ⟨p', ps', e, -, -, rfl, rfl⟩ | ⟨p', ps', e, hp, -⟩ |
      ⟨k, w, rest, ts', e, -, longest, -⟩
    · cases e
    · simp only [List.cons.injEq] at e
      rw [e.1]
      exact ⟨rfl, rfl⟩
    · simp only [List.cons.injEq] at e
      rw [← e.1, hs] at hp
      cases hp
    · exact absurd longest.1 (unmatched k w rest e)
  · rintro ⟨rfl, rfl⟩
    exact Lexes.stuck hs unmatched

end

/-! ## The scanner -/

/-- The scan from the position after `before`, given more steps than code points, reads
exactly what `Lexes` says. -/
theorem scanFrom_lexes (fuel : Nat) (before ps : List CodePoint) (hfuel : ps.length < fuel)
    (ts : List Token) (stop : Option (CodePoint × Nat × Nat)) :
    Lexes before ps ts stop ↔
      (scanFrom fuel (ps.map CodePoint.classChar) ps (positionAfter before).1
        (positionAfter before).2).tokens = ts ∧
      (scanFrom fuel (ps.map CodePoint.classChar) ps (positionAfter before).1
        (positionAfter before).2).stop = stop := by
  induction fuel generalizing before ps ts with
  | zero => exact absurd hfuel (Nat.not_lt_zero _)
  | succ fuel ih =>
    cases ps with
    | nil => simp [scanFrom, lexes_nil_iff, eq_comm]
    | cons p ps' =>
      simp only [List.length_cons] at hfuel
      simp only [List.map_cons, scanFrom]
      by_cases hs : isSkipped p.classChar = true
      · -- a run of skipped characters is passed over, the position moving past it
        rw [if_pos hs, ← List.map_cons, ← List.map_drop, ← List.map_take,
          advancePos_positionAfter, lexes_drop_skipped _ (skipped_run hs)]
        exact ih _ _ (by simp only [List.length_drop, List.length_cons]; omega) ts
      · rw [if_neg hs]
        have hs' : isSkipped p.classChar = false := by simpa using hs
        rcases htok : tokenAt (p.classChar :: ps'.map CodePoint.classChar) with _ | ⟨k, n⟩
        · simp only
          rw [lexes_stuck_iff hs' htok, List.headD_cons, eq_comm (a := [])]
          constructor
          · rintro ⟨rfl, rfl⟩
            exact ⟨rfl, rfl⟩
          · rintro ⟨rfl, rfl⟩
            exact ⟨rfl, rfl⟩
        · have hn := (tokenAt_longest htok).1
          rw [← List.map_cons] at htok ⊢
          dsimp only
          rw [lexes_token_iff htok, ← List.map_drop, ← List.map_take, advancePos_positionAfter]
          have ih' := ih (before ++ (p :: ps').take n) ((p :: ps').drop n)
            (by simp only [List.length_drop, List.length_cons]; omega)
          constructor
          · rintro ⟨ts', rfl, tail⟩
            obtain ⟨h1, h2⟩ := (ih' ts').mp tail
            exact ⟨by rw [h1], h2⟩
          · rintro ⟨h1, h2⟩
            exact ⟨_, h1.symm, (ih' _).mpr ⟨rfl, h2⟩⟩

/-- The scanner reads a source exactly as `Lexes` says, from the first line and column. -/
theorem lexes_iff_scan (source : CodeString) (ts : List Token)
    (stop : Option (CodePoint × Nat × Nat)) :
    Lexes [] source.points ts stop ↔ (scan source).tokens = ts ∧ (scan source).stop = stop :=
  scanFrom_lexes _ [] _ (by simp) ts stop

theorem lexes_scan (source : CodeString) :
    Lexes [] source.points (scan source).tokens (scan source).stop :=
  (lexes_iff_scan source _ _).mpr ⟨rfl, rfl⟩

end CallBasic
