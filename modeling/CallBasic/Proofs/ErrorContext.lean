import CallBasic.Proofs.CallPositions
import CallBasic.Proofs.ParseErrors
import CallBasic.Syntax.Context
import Mathlib.Data.List.TakeWhile
/-!
# Where the context of an error points

The context of an error (`errorContext`) numbers the lines of the source as `Text.splitLines`
splits them, at every line break, and highlights the line and columns of the error's position.
Positions count lines at line feeds only (`positionAfter`). In a source whose only line breaks
are line feeds the two agree (`shows_token_of_line_feeds`): the position of every call of a
parsed program, and of every rejected token that holds no line break, names a line of the
source, and that line holds the token from the position's column on (`ShowsAt`), so the
highlight marks exactly the token (`ShowsAt.highlight`). Any other line break, a carriage
return say, ends a line that positions do not end, and the line a position names is then
another line.

The proof follows the line being read by `Text.linesFrom` along the code points before the
token: at a line feed the line ends and the next one starts empty, at any other code point
the line grows (`linesFrom_at`, by induction on the code points before the token).
-/

namespace CallBasic

open Text

/-! ## Lines -/

theorem linesFrom_cons {cur : List CodePoint} {c : CodePoint} (hc : c ≠ .char '\r')
    (rest : List CodePoint) :
    linesFrom cur (c :: rest) =
      if breaksLine c then cur.reverse :: linesFrom [] rest else linesFrom (c :: cur) rest := by
  rw [linesFrom.eq_3]
  intro _ h
  exact absurd h hc

theorem ne_cr_of_breaksLine {c : CodePoint} (h : breaksLine c = false) : c ≠ .char '\r' := by
  rintro rfl
  cases h

/-- A carriage return ends the line being read, alone or with a line feed after it. -/
theorem linesFrom_cr_head (cur rest : List CodePoint) :
    (linesFrom cur (.char '\r' :: rest)).head? = some cur.reverse := by
  cases rest with
  | nil =>
    rw [linesFrom.eq_3 _ _ _ (fun _ _ h => by cases h)]
    rfl
  | cons d rest =>
    by_cases hd : d = .char '\n'
    · subst hd
      rw [linesFrom.eq_2]
      rfl
    · rw [linesFrom.eq_3 _ _ _ (fun _ _ h => by cases h; exact hd rfl)]
      rfl

/-- A line being read that is not empty is the first line, up to the next line break. -/
theorem linesFrom_head (ps : List CodePoint) :
    ∀ cur : List CodePoint, cur ≠ [] →
      (linesFrom cur ps).head? = some (cur.reverse ++ ps.takeWhile fun p => !breaksLine p) := by
  induction ps with
  | nil =>
    intro cur hc
    simp [linesFrom, hc]
  | cons c rest ih =>
    intro cur hc
    by_cases hr : c = .char '\r'
    · subst hr
      rw [linesFrom_cr_head]
      simp [breaksLine, isLineBreak]
    · rw [linesFrom_cons hr]
      cases hb : breaksLine c
      · -- the code point joins the line being read
        rw [if_neg (by simp), ih (c :: cur) (by simp)]
        simp [hb]
      · simp [hb]

/-! ## Positions, one code point at a time -/

theorem takeWhile_append_of_mem {α : Type} {p : α → Bool} {a : α} (ha : p a = false) :
    ∀ {l : List α}, a ∈ l → ∀ m : List α, (l ++ m).takeWhile p = l.takeWhile p
  | b :: l, hmem, m => by
    rcases List.mem_cons.mp hmem with rfl | hmem
    · simp [ha]
    · rw [List.cons_append, List.takeWhile_cons, List.takeWhile_cons,
        takeWhile_append_of_mem ha hmem m]

theorem classChar_eq_newline {p : CodePoint} : p.classChar = '\n' ↔ p = .char '\n' := by
  cases p with
  | char c => simp [CodePoint.classChar]
  | surrogate o => simp [CodePoint.classChar]

/-- A code point in front moves the position one column on while no line feed follows it,
and one line on if it is a line feed; after a line feed it changes only the line count. -/
theorem positionAfter_cons (p : CodePoint) (l : List CodePoint) :
    positionAfter (p :: l) =
      if (positionAfter l).1 = 1 then
        (if p = .char '\n' then (2, (positionAfter l).2) else (1, (positionAfter l).2 + 1))
      else ((positionAfter l).1 + (if p = .char '\n' then 1 else 0), (positionAfter l).2) := by
  unfold positionAfter
  simp only [List.map_cons, List.count_cons, List.reverse_cons, beq_iff_eq, classChar_eq_newline]
  by_cases hn : '\n' ∈ l.map CodePoint.classChar
  · -- the columns are counted back to a line feed after `p`, before `p` is reached
    have hc := List.count_pos_iff.mpr hn
    rw [takeWhile_append_of_mem (by simp) (List.mem_reverse.mpr hn),
      if_neg (show ¬(List.count '\n' (l.map CodePoint.classChar) + 1 = 1) by omega)]
    by_cases hp : p = .char '\n' <;> simp [hp]
  · have hr : ∀ c ∈ (l.map CodePoint.classChar).reverse, (c != '\n') = true := by
      intro c hc
      have hne : c ≠ '\n' := by
        rintro rfl
        exact hn (List.mem_reverse.mp hc)
      simpa using hne
    rw [List.takeWhile_append_of_pos hr, List.takeWhile_eq_self_iff.mpr hr,
      List.count_eq_zero.mpr hn, if_pos rfl]
    by_cases hp : p = .char '\n'
    · simp [hp, CodePoint.classChar]
    · have hp' : p.classChar ≠ '\n' := fun h => hp (classChar_eq_newline.mp h)
      simp [hp, hp']

theorem one_le_line (before : List CodePoint) : 1 ≤ (positionAfter before).1 := by
  simp [positionAfter]

/-- The line of the code point `x` after `before`, in code points whose only line breaks
before `x` are line feeds: the line its position names, holding `x` after as many code points
as its column counts (and, on the first line, the line being read). -/
theorem linesFrom_at {x : CodePoint} (hx : breaksLine x = false) (after : List CodePoint) :
    ∀ (before cur : List CodePoint), (∀ p ∈ before, breaksLine p = true → p = .char '\n') →
      ∃ P, (linesFrom cur (before ++ x :: after))[(positionAfter before).1 - 1]? =
          some (P ++ x :: after.takeWhile fun p => !breaksLine p) ∧
        P.length + 1 = (positionAfter before).2 +
          (if (positionAfter before).1 = 1 then cur.length else 0)
  | [], cur, _ => by
    refine ⟨cur.reverse, ?_, by simp [positionAfter]; omega⟩
    rw [List.nil_append, linesFrom_cons (ne_cr_of_breaksLine hx), if_neg (by simp [hx])]
    have hh := linesFrom_head after (x :: cur) (by simp)
    simp only [positionAfter, List.map_nil, List.count_nil, Nat.zero_add, Nat.sub_self]
    rw [← List.head?_eq_getElem?, hh]
    simp
  | p :: before, cur, hb => by
    have hb' : ∀ q ∈ before, breaksLine q = true → q = .char '\n' :=
      fun q hq => hb q (List.mem_cons_of_mem p hq)
    obtain ⟨k, hk⟩ : ∃ k, (positionAfter before).1 = k + 1 :=
      ⟨_, (Nat.sub_add_cancel (one_le_line before)).symm⟩
    rw [List.cons_append, positionAfter_cons, hk]
    cases hp : breaksLine p
    · -- a code point of the line: the line being read grows
      have hn : p ≠ .char '\n' := by
        rintro rfl
        cases hp
      obtain ⟨P, hP, hlen⟩ := linesFrom_at hx after before (p :: cur) hb'
      rw [hk, Nat.add_sub_cancel] at hP
      rw [hk] at hlen
      rw [linesFrom_cons (ne_cr_of_breaksLine hp), if_neg (by simp [hp])]
      refine ⟨P, ?_, ?_⟩
      · by_cases hk0 : k = 0 <;> simp [hk0, hn] at hP ⊢ <;> exact hP
      · by_cases hk0 : k = 0 <;> simp [hk0, hn] at hlen ⊢ <;> omega
    · -- a line feed: the line being read ends and the next starts empty
      have hn : p = .char '\n' := hb p List.mem_cons_self hp
      obtain ⟨P, hP, hlen⟩ := linesFrom_at hx after before [] hb'
      rw [hk, Nat.add_sub_cancel] at hP
      rw [hk] at hlen
      rw [linesFrom_cons (by rw [hn]; decide), if_pos hp]
      refine ⟨P, ?_, ?_⟩
      · by_cases hk0 : k = 0 <;> simp [hk0, hn] at hP ⊢ <;> exact hP
      · by_cases hk0 : k = 0 <;> simp [hk0, hn] at hlen ⊢ <;> omega

/-! ## What the context shows -/

/-- The context of an error at line `line` and column `column` shows the token `t`: the line is
a line of the source, and it holds `t` from the column on. -/
def ShowsAt (source : CodeString) (line column : Nat) (t : CodeString) : Prop :=
  ∃ content, (splitLines source)[line - 1]? = some content ∧ 1 ≤ line ∧ 1 ≤ column ∧
    column ≤ content.length ∧ (content.drop (column - 1)).take t.length = t

/-- Where the context shows the token, it highlights exactly the token. -/
theorem ShowsAt.highlight {source : CodeString} {line column : Nat} {t : CodeString}
    (h : ShowsAt source line column t) :
    ∃ content, (splitLines source)[line - 1]? = some content ∧
      highlight content (some (column : Int)) t.length =
        content.take (column - 1) ++ "\x1b[48;5;30m\x1b[1;97m" ++ t ++ "\x1b[0m" ++
          content.drop (column - 1 + t.length) := by
  obtain ⟨content, hc, -, h1, hlen, hslice⟩ := h
  refine ⟨content, hc, ?_⟩
  have hk : ((column : Int) - 1).toNat = column - 1 := by omega
  have hin : (0 < (column : Int) && (column : Int) ≤ content.length) = true := by simp; omega
  simp only [CallBasic.highlight, hin, if_true, hk, hslice]

/-- Code points without a line break, after code points whose only line breaks are line
feeds, are shown where their position says. -/
theorem showsAt_of_located {source : CodeString}
    (hlf : ∀ p ∈ source.points, breaksLine p = true → p = .char '\n')
    {before w rest : List CodePoint} (hs : source.points = before ++ w ++ rest) (hw : w ≠ [])
    (hwb : ∀ p ∈ w, breaksLine p = false) :
    ShowsAt source (positionAfter before).1 (positionAfter before).2 ⟨w⟩ := by
  obtain ⟨x, w', rfl⟩ := List.exists_cons_of_ne_nil hw
  have hb : ∀ p ∈ before, breaksLine p = true → p = .char '\n' :=
    fun p hp => hlf p (by rw [hs]; simp [hp])
  obtain ⟨P, hP, hlen⟩ := linesFrom_at (hwb x List.mem_cons_self) (w' ++ rest) before [] hb
  -- the rest of the line starts with the rest of the word
  have hw' : ∀ p ∈ w', (!breaksLine p) = true := fun p hp => by
    simp [hwb p (List.mem_cons_of_mem x hp)]
  rw [List.takeWhile_append_of_pos hw'] at hP
  simp only [List.length_nil, ite_self, Nat.add_zero] at hlen
  refine ⟨⟨P ++ x :: (w' ++ rest.takeWhile fun p => !breaksLine p)⟩, ?_, by simp [positionAfter],
    by omega, ?_, ?_⟩
  · rw [splitLines, List.getElem?_map, hs, List.append_assoc, List.cons_append, hP]
    rfl
  · simp [CodeString.length]
    omega
  · simp only [CodeString.drop, CodeString.take, CodeString.length]
    rw [← hlen, Nat.add_sub_cancel, List.drop_left']
    · simp
    · rfl

/-! ## Names -/

theorem isLineBreak_of_printable {c : Char} (h1 : 32 ≤ c.toNat) (h2 : c.toNat < 128) :
    isLineBreak c = false := by
  simp only [isLineBreak, Bool.or_eq_false_iff, Bool.and_eq_false_iff, decide_eq_false_iff_not,
    beq_eq_false_iff_ne, ne_eq]
  omega

/-- Every character of a name is printable ASCII: a letter, a digit, an underscore or a
dollar. -/
theorem printable_of_name {w : List Char} (hw : IsName w) :
    ∀ d ∈ w, 32 ≤ d.toNat ∧ d.toNat < 128 := by
  obtain ⟨c, body, hc, hbody, hw⟩ := hw
  have hl : ∀ e, isLetter e = true → 32 ≤ e.toNat ∧ e.toNat < 128 := fun e he => by
    rcases letter_range he with h | h <;> omega
  intro d hd
  have hmem : d = c ∨ d ∈ body ∨ d = '$' := by
    rcases hw with rfl | rfl
    · rcases List.mem_cons.mp hd with h | h
      · exact Or.inl h
      · exact Or.inr (Or.inl h)
    · rw [List.cons_append, List.mem_cons, List.mem_append, List.mem_singleton] at hd
      rcases hd with h | h | h
      · exact Or.inl h
      · exact Or.inr (Or.inl h)
      · exact Or.inr (Or.inr h)
  rcases hmem with rfl | hd | rfl
  · exact hl d hc
  · have hd' := hbody d hd
    simp only [isNameChar, Bool.or_eq_true, Bool.and_eq_true, decide_eq_true_eq] at hd'
    rcases hd' with (hd' | ⟨h0, h9⟩) | rfl
    · exact hl d hd'
    · -- a digit
      have h48 : ('0' : Char).val.toNat = 48 := rfl
      have h57 : ('9' : Char).val.toNat = 57 := rfl
      rw [Char.le_def, UInt32.le_iff_toNat_le] at h0 h9
      simp only [Char.toNat]
      omega
    · decide
  · decide

/-- A name is written with letters, digits, underscores and a dollar: no line break. -/
theorem name_no_break {t : Token} (hk : t.kind = .name) (ht : t.WellFormed) :
    t.lexeme.points ≠ [] ∧ ∀ p ∈ t.lexeme.points, breaksLine p = false := by
  have hn : IsName (t.lexeme.points.map CodePoint.classChar) := by
    simpa [Token.WellFormed, hk, TokenKind.Matches] using ht
  constructor
  · intro h
    obtain ⟨c, body, -, -, hw⟩ := hn
    rw [h] at hw
    rcases hw with hw | hw <;> simp at hw
  · intro p hp
    have hcp := printable_of_name hn p.classChar (List.mem_map_of_mem hp)
    cases p with
    | char e => exact isLineBreak_of_printable hcp.1 hcp.2
    | surrogate o => rfl

/-! ## Sources whose lines end at line feeds -/

section Shown

variable {source : CodeString} (hlf : ∀ p ∈ source.points, breaksLine p = true → p = .char '\n')
include hlf

/-- A token read from a source whose line breaks are line feeds is shown at its position, if
it has code points and none of them breaks a line. -/
theorem Lexes.shows_token {ts : List Token} {stop : Option (CodePoint × Nat × Nat)}
    (hl : Lexes [] source.points ts stop) {t : Token} (ht : t ∈ ts) (hne : t.lexeme.points ≠ [])
    (hnb : ∀ p ∈ t.lexeme.points, breaksLine p = false) :
    ShowsAt source t.line t.column t.lexeme := by
  obtain ⟨mid, rest, hs, hpos⟩ := hl.located t ht
  simp only [List.nil_append] at hpos
  have h := showsAt_of_located hlf hs hne hnb
  rwa [← hpos] at h

/-- The code point where the scan of such a source stopped is shown at its position, if it
does not break a line. -/
theorem Lexes.shows_stop {ts : List Token} {c : CodePoint} {line column : Nat}
    (hl : Lexes [] source.points ts (some (c, line, column)))
    (hnb : ∀ p ∈ [c], breaksLine p = false) : ShowsAt source line column ⟨[c]⟩ := by
  obtain ⟨mid, rest, hs, hpos⟩ := hl.stop_located rfl
  simp only [List.nil_append] at hpos
  have h := showsAt_of_located hlf (w := [c]) (by simpa using hs) (by simp) hnb
  rwa [← hpos] at h

end Shown

/-- In a source whose only line breaks are line feeds, the context of an error shows its token
where its position says: for every call of a parsed program, at any depth, its name at its
position, and for a parse error whose token is not empty and holds no line break, that token at
the error's position. -/
theorem shows_token_of_line_feeds (stack : Stack) {source : CodeString} (file : Option CodeString)
    (hlf : ∀ p ∈ source.points, breaksLine p = true → p = .char '\n') :
    (∀ prog, readProgram stack source file = .ok prog →
      ∀ e ∈ prog, e.Every fun n pos => ShowsAt source pos.line pos.column n) ∧
    (∀ e, readProgram stack source file = .error (.parse file e) → e.token.points ≠ [] →
      (∀ p ∈ e.token.points, breaksLine p = false) → ShowsAt source e.line e.column e.token) := by
  constructor
  · -- every call stands at a name token, and a name breaks no line
    intro prog hread e he
    refine (parse_calls_at_names (parse_of_readProgram_ok hread) e he).mono ?_
    rintro n pos ⟨t, ht, hk, rfl, rfl⟩
    obtain ⟨hne, hnb⟩ := name_no_break hk ((lexes_scan source).wellFormed t ht)
    exact (lexes_scan source).shows_token hlf ht hne hnb
  · intro e hread hne hnb
    have hparse := ((readProgram_parse_error_iff stack source file file e).mp hread).2
    obtain ⟨ts, stop, hl⟩ : ∃ ts stop, Lexes [] source.points ts stop := ⟨_, _, lexes_scan source⟩
    cases rejected_of_parse_error hl hparse with
    | @token stop pre t post split viable stuck =>
      exact hl.shows_token hlf (by rw [split]; simp) hne hnb
    | @char c line column viable => exact hl.shows_stop hlf hnb
    | incomplete viable unclosed last => exact absurd rfl hne

/-- A source of two lines shows the call on its second line where its position says. -/
theorem second_line_call_shown :
    (∀ p ∈ (CodeString.ofString "PI\nNOPE").points, breaksLine p = true → p = .char '\n') ∧
      ∀ prog, readProgram ⟨0, 1000⟩ "PI\nNOPE" none = .ok prog →
        ∀ e ∈ prog, e.Every fun n pos => ShowsAt "PI\nNOPE" pos.line pos.column n :=
  have hlf : ∀ p ∈ (CodeString.ofString "PI\nNOPE").points, breaksLine p = true →
      p = .char '\n' := by decide
  ⟨hlf, (shows_token_of_line_feeds ⟨0, 1000⟩ none hlf).1⟩

end CallBasic
