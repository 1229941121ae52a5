import Mathlib
import CallBasic.Syntax.Token
/-!
# The classes of tokens, as regular languages

The scanner measures each token with a greedy length function chosen by its first character.
Here the token classes are the regular expressions of the grammar, written as predicates on
words:

* a name `[A-Za-z][A-Za-z0-9_]*\$?`,
* a number `-?(\d+\.\d*|\.\d+|\d+)([eE][+-]?\d+)?`,
* a text `"([^"\\]|\\.)*"`, where `.` is any character but a line feed,
* a separator `[:\r\n][:\s]*`,
* the punctuation `(`, `)` and `,`,

with `\d` and `\s` the Unicode digits and blanks.

Main statements: each length function measures the longest word of its class at the front
of the characters (`LongestMatch`): `name_longest`, `sep_longest`, `text_longest` and
`punct_longest`, and for numbers `number_take` with `number_length_le`.
-/

namespace CallBasic

open CallBasic.Text

/-! ## The classes of tokens -/

/-- Digits, `\d+`. -/
def IsDigits (w : List Char) : Prop := w ≠ [] ∧ ∀ c ∈ w, isDigit c = true

/-- A name, `[A-Za-z][A-Za-z0-9_]*\$?`. -/
def IsName (w : List Char) : Prop :=
  ∃ c body, isLetter c = true ∧ (∀ d ∈ body, isNameChar d = true) ∧
    (w = c :: body ∨ w = c :: body ++ ['$'])

/-- The digits of a number, `\d+\.\d*|\.\d+|\d+`. -/
def IsMantissa (w : List Char) : Prop :=
  (∃ a b, w = a ++ '.' :: b ∧ IsDigits a ∧ ∀ d ∈ b, isDigit d = true) ∨
    (∃ b, w = '.' :: b ∧ IsDigits b) ∨ IsDigits w

/-- The exponent of a number, `[eE][+-]?\d+`. -/
def IsExponent (w : List Char) : Prop :=
  ∃ e s ds, w = e :: s ++ ds ∧ (e = 'e' ∨ e = 'E') ∧ (s = [] ∨ s = ['+'] ∨ s = ['-']) ∧
    IsDigits ds

/-- A number, `-?(\d+\.\d*|\.\d+|\d+)([eE][+-]?\d+)?`. -/
def IsNumber (w : List Char) : Prop :=
  ∃ s m x, w = s ++ m ++ x ∧ (s = [] ∨ s = ['-']) ∧ IsMantissa m ∧ (x = [] ∨ IsExponent x)

/-- One character of a text's body as written, `[^"\\]|\\.`. -/
def IsTextItem (w : List Char) : Prop :=
  (∃ c, w = [c] ∧ c ≠ '"' ∧ c ≠ '\\') ∨ (∃ c, w = ['\\', c] ∧ c ≠ '\n')

/-- A text, `"([^"\\]|\\.)*"`. -/
def IsText (w : List Char) : Prop :=
  ∃ items : List (List Char), (∀ i ∈ items, IsTextItem i) ∧ w = '"' :: items.flatten ++ ['"']

/-- The characters that start a separator. -/
def isSepChar (c : Char) : Bool := c = ':' || c = '\r' || c = '\n'

/-- The characters that continue a separator. -/
def isSepTail (d : Char) : Bool := d = ':' || isBlank d

/-- A separator, `[:\r\n][:\s]*`. -/
def IsSep (w : List Char) : Prop :=
  ∃ c rest, w = c :: rest ∧ isSepChar c = true ∧ ∀ d ∈ rest, isSepTail d = true

/-- The words of a class of tokens. -/
def TokenKind.Matches : TokenKind → List Char → Prop
  | .name => IsName
  | .number => IsNumber
  | .text => IsText
  | .sep => IsSep
  | .lparen => (· = ['('])
  | .rparen => (· = [')'])
  | .comma => (· = [','])

/-- `w` is the longest word of the class `k` at the front of `w ++ rest`. -/
def LongestMatch (k : TokenKind) (w rest : List Char) : Prop :=
  k.Matches w ∧ ∀ u v, u ++ v = w ++ rest → k.Matches u → u.length ≤ w.length

/-! ## Runs of characters -/

/-- Every list is a longest run of elements with a property, then a rest that does not start
with one. -/
theorem exists_run {α : Type} (p : α → Bool) (l : List α) :
    ∃ u w, l = u ++ w ∧ (∀ a ∈ u, p a = true) ∧ (∀ a w', w = a :: w' → p a = false) := by
  refine ⟨l.takeWhile p, l.dropWhile p, List.takeWhile_append_dropWhile.symm,
    List.all_eq_true.mp List.all_takeWhile, ?_⟩
  intro a w' h
  have := List.head?_dropWhile_not p l
  rw [h] at this
  simpa using this

theorem takeWhile_run {α : Type} {p : α → Bool} {u w : List α} (hu : ∀ a ∈ u, p a = true)
    (hw : ∀ a w', w = a :: w' → p a = false) : (u ++ w).takeWhile p = u := by
  rw [List.takeWhile_append_of_pos hu]
  cases w with
  | nil => simp
  | cons a w' => rw [List.takeWhile_cons_of_neg (by simp [hw a w' rfl]), List.append_nil]

theorem take_takeWhile {α : Type} (p : α → Bool) (l : List α) :
    l.take (l.takeWhile p).length = l.takeWhile p := by
  obtain ⟨u, w, rfl, hu, hw⟩ := exists_run p l
  rw [takeWhile_run hu hw, List.take_left]

/-- A run at the front of a list that starts with a longest run is no longer than it. -/
theorem length_le_run {α : Type} {p : α → Bool} {u v body after : List α}
    (hu : ∀ a ∈ u, p a = true) (hb : ∀ a ∈ body, p a = true)
    (ha : ∀ a w', after = a :: w' → p a = false) (h : u ++ v = body ++ after) :
    u.length ≤ body.length := by
  have hle : u.length ≤ ((u ++ v).takeWhile p).length := by
    rw [List.takeWhile_append_of_pos hu, List.length_append]
    omega
  rwa [h, takeWhile_run hb ha] at hle

/-- A run at the front followed by an element without the property is the longest run. -/
theorem eq_run {α : Type} {p : α → Bool} {u v body after : List α}
    (hu : ∀ a ∈ u, p a = true) (hv : ∀ a w', v = a :: w' → p a = false)
    (hb : ∀ a ∈ body, p a = true) (ha : ∀ a w', after = a :: w' → p a = false)
    (h : u ++ v = body ++ after) : u = body ∧ v = after := by
  have hu' : (u ++ v).takeWhile p = u := takeWhile_run hu hv
  rw [h, takeWhile_run hb ha] at hu'
  subst hu'
  exact ⟨rfl, List.append_cancel_left h⟩

/-- The part of a list before the `n`-th element, when it is as long as `w`, is `w`. -/
theorem take_drop_of_length {α : Type} {w rest : List α} {n : Nat}
    (hn : ((w ++ rest).take n).length = w.length) :
    (w ++ rest).take n = w ∧ (w ++ rest).drop n = rest := by
  rw [List.length_take, List.length_append] at hn
  by_cases hle : n ≤ w.length + rest.length
  · have hn' : n = w.length := by omega
    subst hn'
    exact ⟨List.take_left, List.drop_left⟩
  · have hrest : rest = [] := List.eq_nil_of_length_eq_zero (by omega)
    subst hrest
    simp only [List.append_nil]
    exact ⟨List.take_of_length_le (by omega), List.drop_of_length_le (by omega)⟩

theorem take_length_add {α : Type} {p l : List α} {n : Nat} (k : Nat) (h : p.length = n) :
    (p ++ l).take (n + k) = p ++ l.take k := by
  subst h
  exact List.take_length_add_append k

theorem dropWhile_of_none {α : Type} {p : α → Bool} {l : List α} (h : ∀ a ∈ l, p a = false) :
    l.dropWhile p = l := by
  cases l with
  | nil => rfl
  | cons a l => rw [List.dropWhile_cons_of_neg (by simp [h a List.mem_cons_self])]

/-! ## Digits and letters by their code points -/

theorem digitRuns_shape : ∀ r ∈ digitRuns.toList, r = (0x30, 0x39) ∨ 0x660 ≤ r.1 := by decide

theorem digitRuns_clear_of_blank : ∀ r ∈ digitRuns.toList, 32 < r.1 ∧ (r.2 < 0x85 ∨
    (0xA0 < r.1 ∧ r.2 < 0x1680) ∨ (0x1680 < r.1 ∧ r.2 < 0x2000) ∨ 0x3000 < r.1) := by
  decide

/-- A digit lies in one of the runs of digits. -/
theorem mem_digitRuns_of_isDigit {c : Char} (h : isDigit c = true) :
    ∃ r ∈ digitRuns.toList, r.1 ≤ c.toNat ∧ c.toNat ≤ r.2 := by
  unfold isDigit digitValue? at h
  rcases hf : digitRuns.find? (fun r => decide (r.1 ≤ c.toNat) && decide (c.toNat ≤ r.2)) with
    _ | r
  · simp only [hf, Option.isSome_none, Bool.false_eq_true] at h
  · have hin := Array.find?_some hf
    simp only [Bool.and_eq_true, decide_eq_true_eq] at hin
    exact ⟨r, Array.mem_toList_iff.mpr (Array.mem_of_find?_eq_some hf), hin⟩

/-- The ASCII digits are the only digits below U+0660. -/
theorem toNat_of_isDigit {c : Char} (h : isDigit c = true) :
    (0x30 ≤ c.toNat ∧ c.toNat ≤ 0x39) ∨ 0x660 ≤ c.toNat := by
  obtain ⟨r, hmem, hin⟩ := mem_digitRuns_of_isDigit h
  rcases digitRuns_shape r hmem with rfl | hr1
  · exact Or.inl hin
  · exact Or.inr (by omega)

theorem isBlank_of_isDigit {c : Char} (h : isDigit c = true) : isBlank c = false := by
  obtain ⟨r, hmem, hin⟩ := mem_digitRuns_of_isDigit h
  have hclear := digitRuns_clear_of_blank r hmem
  cases hb : isBlank c
  · rfl
  · simp only [isBlank, Bool.or_eq_true, Bool.and_eq_true, decide_eq_true_eq, beq_iff_eq] at hb
    omega

theorem letter_range {c : Char} (h : isLetter c = true) :
    (65 ≤ c.toNat ∧ c.toNat ≤ 90) ∨ (97 ≤ c.toNat ∧ c.toNat ≤ 122) := by
  simp only [isLetter, Bool.or_eq_true, Bool.and_eq_true, decide_eq_true_eq, Char.le_def,
    UInt32.le_iff_toNat_le] at h
  simp only [Char.toNat]
  rcases h with ⟨h1, h2⟩ | ⟨h1, h2⟩
  · exact Or.inr ⟨h1, h2⟩
  · exact Or.inl ⟨h1, h2⟩

theorem isDigit_point : isDigit '.' = false := by decide

theorem sign_of_digit {c : Char} (h : isDigit c = true) : (c = '+' || c = '-') = false := by
  rcases toNat_of_isDigit h with h' | h' <;>
  · have h1 : c ≠ '+' := fun e => by subst e; simp at h'
    have h2 : c ≠ '-' := fun e => by subst e; simp at h'
    simp [h1, h2]

/-! ## Names, separators, texts and punctuation -/

/-- A length `n` measures the longest word of a class when the first `n` characters are a
word and no word at the front is longer. -/
theorem longestMatch_of_bound {k : TokenKind} {cs : List Char} {n : Nat}
    (hm : k.Matches (cs.take n)) (hb : ∀ u v, u ++ v = cs → k.Matches u → u.length ≤ n) :
    LongestMatch k (cs.take n) (cs.drop n) := by
  refine ⟨hm, fun u v h hu => ?_⟩
  rw [List.take_append_drop] at h
  have h1 := hb u v h hu
  have h2 : u.length ≤ cs.length := by rw [← h, List.length_append]; omega
  rw [List.length_take]
  omega

theorem nameLength_run {body after : List Char} (hb : ∀ d ∈ body, isNameChar d = true)
    (ha : ∀ d after', after = d :: after' → isNameChar d = false) :
    nameLength (body ++ after) = 1 + body.length + (if after.head? = some '$' then 1 else 0) := by
  simp only [nameLength, takeWhile_run hb ha, List.drop_left, beq_iff_eq]

/-- A name at the front is no longer than the run of name characters after the first letter
and the dollar sign that may follow it. -/
theorem name_length_le {c : Char} {u v body after : List Char}
    (hb : ∀ d ∈ body, isNameChar d = true)
    (ha : ∀ d after', after = d :: after' → isNameChar d = false) (hu : IsName u)
    (h : u ++ v = c :: (body ++ after)) :
    u.length ≤ 1 + body.length + (if after.head? = some '$' then 1 else 0) := by
  obtain ⟨c', body', -, hbody', rfl | rfl⟩ := hu
  · simp only [List.cons_append, List.cons.injEq] at h
    have := length_le_run hbody' hb ha h.2
    simp only [List.length_cons]
    omega
  · simp only [List.cons_append, List.append_assoc, List.cons.injEq] at h
    -- the dollar sign is no name character, so the name's run is the longest one
    have hdollar : ∀ a w', ('$' :: ([] : List Char) ++ v) = a :: w' → isNameChar a = false := by
      intro a w' e
      simp only [List.cons_append, List.nil_append, List.cons.injEq] at e
      rw [← e.1]
      decide
    obtain ⟨rfl, rfl⟩ := eq_run hbody' hdollar hb ha h.2
    simp only [List.cons_append, List.length_cons, List.length_append, List.length_nil,
      List.nil_append, List.head?_cons, ↓reduceIte]
    omega

theorem name_longest {c : Char} (hc : isLetter c = true) (rest : List Char) :
    LongestMatch .name ((c :: rest).take (nameLength rest))
      ((c :: rest).drop (nameLength rest)) := by
  obtain ⟨body, after, rfl, hb, ha⟩ := exists_run isNameChar rest
  rw [nameLength_run hb ha]
  refine longestMatch_of_bound ?_ (fun u v h hu => name_length_le hb ha hu h)
  by_cases hd : after.head? = some '$'
  · obtain ⟨after', rfl⟩ : ∃ after', after = '$' :: after' := by
      cases after with
      | nil => cases hd
      | cons d after' =>
        simp only [List.head?_cons, Option.some.injEq] at hd
        exact ⟨after', by rw [hd]⟩
    refine ⟨c, body, hc, hb, Or.inr ?_⟩
    rw [if_pos hd, Nat.add_comm 1, Nat.add_assoc, List.take_succ_cons,
      List.take_length_add_append, List.take_succ_cons, List.take_zero]
    rfl
  · refine ⟨c, body, hc, hb, Or.inl ?_⟩
    rw [if_neg hd, Nat.add_zero, Nat.add_comm, List.take_succ_cons, List.take_left' rfl]

theorem sep_longest {c : Char} (hc : isSepChar c = true) (rest : List Char) :
    LongestMatch .sep ((c :: rest).take (1 + (rest.takeWhile isSepTail).length))
      ((c :: rest).drop (1 + (rest.takeWhile isSepTail).length)) := by
  obtain ⟨body, after, rfl, hb, ha⟩ := exists_run isSepTail rest
  rw [takeWhile_run hb ha]
  refine longestMatch_of_bound ⟨c, body, ?_, hc, hb⟩ ?_
  · rw [Nat.add_comm, List.take_succ_cons, List.take_left' rfl]
  · rintro u v h ⟨c', r, rfl, -, hr⟩
    simp only [List.cons_append, List.cons.injEq] at h
    have := length_le_run hr hb ha h.2
    simp only [List.length_cons]
    omega

theorem punct_longest (k : TokenKind) (c : Char) (hk : k.Matches [c])
    (hu : ∀ u, k.Matches u → u = [c]) (rest : List Char) :
    LongestMatch k ((c :: rest).take 1) ((c :: rest).drop 1) := by
  refine longestMatch_of_bound hk (fun u v _ h => ?_)
  rw [hu u h]
  exact Nat.le_refl _

theorem textBodyLength_plain {c : Char} (h1 : c ≠ '"') (h2 : c ≠ '\\') (r : List Char) :
    textBodyLength (c :: r) = (textBodyLength r).map (· + 1) := by
  cases r <;> simp [textBodyLength, h2]

theorem textBodyLength_escape {c : Char} (h : c ≠ '\n') (r : List Char) :
    textBodyLength ('\\' :: c :: r) = (textBodyLength r).map (· + 2) := by
  simp [textBodyLength, h]

/-- After the opening quote, the text body length reaches through the first closing quote
that follows whole items. -/
theorem textBodyLength_items {items : List (List Char)} (h : ∀ i ∈ items, IsTextItem i)
    (v : List Char) :
    textBodyLength (items.flatten ++ '"' :: v) = some (items.flatten.length + 1) := by
  induction items with
  | nil => simp [textBodyLength]
  | cons i is ih =>
    have ih := ih (fun j hj => h j (List.mem_cons_of_mem i hj))
    rcases h i (List.mem_cons_self) with ⟨c, rfl, h1, h2⟩ | ⟨c, rfl, hc⟩
    · simp only [List.flatten_cons, List.cons_append, List.nil_append,
        textBodyLength_plain h1 h2, ih, Option.map_some, List.length_cons]
    · simp only [List.flatten_cons, List.cons_append, List.nil_append,
        textBodyLength_escape hc, ih, Option.map_some, List.length_cons]

/-- A text body length comes from items and a closing quote. -/
theorem textBodyLength_eq_some {rest : List Char} {n : Nat} (h : textBodyLength rest = some n) :
    ∃ (items : List (List Char)) (v : List Char), (∀ i ∈ items, IsTextItem i) ∧
      rest = items.flatten ++ '"' :: v ∧ n = items.flatten.length + 1 := by
  fun_induction textBodyLength rest generalizing n with
  | case1 | case3 | case5 => cases h
  | case2 v =>
    cases h
    exact ⟨[], v, by simp, rfl, rfl⟩
  | case4 c r hc ih =>
    obtain ⟨m, hm, rfl⟩ := Option.map_eq_some_iff.mp h
    obtain ⟨items, v, hitems, rfl, rfl⟩ := ih hm
    refine ⟨['\\', c] :: items, v, ?_, rfl, ?_⟩
    · intro i hi
      rcases List.mem_cons.mp hi with rfl | hi
      · exact Or.inr ⟨c, rfl, hc⟩
      · exact hitems i hi
    · simp only [List.flatten_cons, List.length_append, List.length_cons, List.length_nil]
      omega
  | case6 c r h1 h2 h3 ih =>
    have hc : c ≠ '\\' := by
      intro e
      cases r with
      | nil => exact h3 e rfl
      | cons d r' => exact h2 d r' e rfl
    obtain ⟨m, hm, rfl⟩ := Option.map_eq_some_iff.mp h
    obtain ⟨items, v, hitems, rfl, rfl⟩ := ih hm
    refine ⟨[c] :: items, v, ?_, rfl, ?_⟩
    · intro i hi
      rcases List.mem_cons.mp hi with rfl | hi
      · exact Or.inl ⟨c, rfl, h1, hc⟩
      · exact hitems i hi
    · simp only [List.flatten_cons, List.length_append, List.length_cons, List.length_nil]
      omega

/-- A text is the only text at the front, so it is the longest. -/
theorem text_longest {rest : List Char} {n : Nat} (h : textBodyLength rest = some n) :
    LongestMatch .text (('"' :: rest).take (n + 1)) (('"' :: rest).drop (n + 1)) := by
  obtain ⟨items, v, hitems, rfl, rfl⟩ := textBodyLength_eq_some h
  refine longestMatch_of_bound ⟨items, hitems, ?_⟩ ?_
  · rw [List.take_succ_cons, List.take_length_add_append, List.take_succ_cons, List.take_zero]
    rfl
  · rintro u w hu ⟨items', hitems', rfl⟩
    simp only [List.cons_append, List.append_assoc, List.nil_append, List.cons.injEq,
      true_and] at hu
    have h' := textBodyLength_items hitems' w
    rw [hu, textBodyLength_items hitems v, Option.some.injEq] at h'
    simp only [List.length_cons, List.length_append, List.length_nil]
    omega

/-! ## Numbers

The scanner measures a number by its sign, the run of digits, a point and a second run, and
an exponent that is only taken when it has digits. Each length is the longest word of its part
at the front (`unsigned_length_le`, `exponent_length_le`), and the parts measured make a
number (`number_take`). -/

/-- The characters after a run of digits start no digit. -/
def EndsDigits (after : List Char) : Prop := ∀ a w, after = a :: w → isDigit a = false

theorem digitCount_run {ds after : List Char} (hds : ∀ c ∈ ds, isDigit c = true)
    (ha : EndsDigits after) : digitCount (ds ++ after) = ds.length := by
  simp only [digitCount, takeWhile_run hds ha]

theorem endsDigits_of_not {c : Char} (hc : isDigit c = false) (r : List Char) :
    EndsDigits (c :: r) := by
  rintro a w ⟨⟩
  exact hc

/-- The exponent length of an exponent followed by no digit. -/
theorem exponentLength_of {e : Char} {s ds after : List Char} (he : e = 'e' ∨ e = 'E')
    (hs : s = [] ∨ s = ['+'] ∨ s = ['-']) (hds : IsDigits ds) (ha : EndsDigits after) :
    exponentLength (e :: (s ++ ds ++ after)) = 1 + s.length + ds.length := by
  obtain ⟨hne, hdig⟩ := hds
  have hcount := digitCount_run hdig ha
  have hpos : 0 < ds.length := List.length_pos_iff.mpr hne
  have he' : (e = 'e' || e = 'E') = true := by rcases he with rfl | rfl <;> rfl
  rcases hs with rfl | rfl | rfl
  · obtain ⟨d, ds', rfl⟩ := List.exists_cons_of_ne_nil hne
    have hd := sign_of_digit (hdig d List.mem_cons_self)
    simp only [exponentLength, he', if_true, List.nil_append, List.cons_append, hd,
      Bool.false_eq_true, if_false]
    rw [← List.cons_append, hcount, if_pos hpos]
    simp
  · simp only [exponentLength, he', if_true, List.cons_append, List.nil_append]
    simp [hcount, hpos]
  · simp only [exponentLength, he', if_true, List.cons_append, List.nil_append]
    simp [hcount, hpos]

theorem exponentLength_pos {cs : List Char} (h : 0 < exponentLength cs) :
    ∃ e s ds after, cs = e :: (s ++ ds ++ after) ∧ (e = 'e' ∨ e = 'E') ∧
      (s = [] ∨ s = ['+'] ∨ s = ['-']) ∧ IsDigits ds ∧ EndsDigits after := by
  match cs, h with
  | c :: rest, h =>
    by_cases he : (c = 'e' || c = 'E') = true
    · have he' : c = 'e' ∨ c = 'E' := by simpa using he
      rcases rest with _ | ⟨s, r⟩
      · simp [exponentLength, he, digitCount] at h
      · by_cases hs : (s = '+' || s = '-') = true
        · obtain ⟨ds, after, rfl, hds, ha⟩ := exists_run isDigit r
          simp only [exponentLength, he, hs, if_true, digitCount_run hds ha] at h
          have hne : ds ≠ [] := by rintro rfl; simp at h
          refine ⟨c, [s], ds, after, rfl, he', ?_, ⟨hne, hds⟩, ha⟩
          have : s = '+' ∨ s = '-' := by simpa using hs
          rcases this with rfl | rfl <;> simp
        · obtain ⟨ds, after, hr, hds, ha⟩ := exists_run isDigit (s :: r)
          simp only [exponentLength, he, hs, if_true, Bool.false_eq_true, if_false, hr,
            digitCount_run hds ha] at h
          have hne : ds ≠ [] := by rintro rfl; simp at h
          exact ⟨c, [], ds, after, by rw [hr]; rfl, he', Or.inl rfl, ⟨hne, hds⟩, ha⟩
    · simp [exponentLength, he] at h

/-- An exponent at the front is no longer than the exponent length. -/
theorem exponent_length_le {x v : List Char} (hx : IsExponent x) :
    x.length ≤ exponentLength (x ++ v) := by
  obtain ⟨e, s, ds', rfl, he, hs, hne', hds'⟩ := hx
  obtain ⟨ds, after, hrun, hds, ha⟩ := exists_run isDigit (ds' ++ v)
  have hle := length_le_run hds' hds ha hrun
  have hne : ds ≠ [] := by
    rintro rfl
    have := List.length_pos_iff.mpr hne'
    simp only [List.length_nil] at hle
    omega
  have heq : e :: s ++ ds' ++ v = e :: (s ++ ds ++ after) := by
    simp only [List.cons_append, List.append_assoc, hrun]
  rw [heq, exponentLength_of he hs ⟨hne, hds⟩ ha]
  simp only [List.length_cons, List.length_append]
  omega

/-- The length of an unsigned number with a point after its first digits. -/
theorem unsigned_point {ds fs after : List Char} (hds : IsDigits ds)
    (hfs : ∀ c ∈ fs, isDigit c = true) (ha : EndsDigits after) :
    unsignedNumberLength (ds ++ '.' :: (fs ++ after)) =
      ds.length + 1 + fs.length + exponentLength after := by
  have hd := digitCount_run hds.2 (endsDigits_of_not isDigit_point (fs ++ after))
  have hpos : 0 < ds.length := List.length_pos_iff.mpr hds.1
  have hdrop : (ds ++ '.' :: (fs ++ after)).drop (ds.length + 1 + fs.length) = after := by
    have hsplit : ds ++ '.' :: (fs ++ after) = (ds ++ '.' :: fs) ++ after := by simp
    rw [hsplit, List.drop_left' (by simp only [List.length_append, List.length_cons]; omega)]
  simp only [unsignedNumberLength, hd, hpos, if_true, List.drop_left, digitCount_run hfs ha]
  rw [if_neg (show ds.length + 1 + fs.length ≠ 0 by omega), hdrop]

/-- The length of an unsigned number of digits without a point. -/
theorem unsigned_whole {ds after : List Char} (hds : IsDigits ds) (ha : EndsDigits after)
    (hpt : ∀ w, after ≠ '.' :: w) :
    unsignedNumberLength (ds ++ after) = ds.length + exponentLength after := by
  have hd := digitCount_run hds.2 ha
  have hpos : 0 < ds.length := List.length_pos_iff.mpr hds.1
  simp only [unsignedNumberLength, hd, hpos, if_true, List.drop_left]
  rw [if_neg (by omega)]

/-- The length of an unsigned number that starts with its point. -/
theorem unsigned_fraction {fs after : List Char} (hfs : IsDigits fs) (ha : EndsDigits after) :
    unsignedNumberLength ('.' :: (fs ++ after)) = 1 + fs.length + exponentLength after := by
  have hd : digitCount ('.' :: (fs ++ after)) = 0 := by simp [digitCount, isDigit_point]
  have hpos : 0 < fs.length := List.length_pos_iff.mpr hfs.1
  simp only [unsignedNumberLength, hd, digitCount_run hfs.2 ha, hpos, if_true, Nat.lt_irrefl,
    if_false]
  rw [if_neg (show 1 + fs.length ≠ 0 by omega), Nat.add_comm 1, List.drop_succ_cons, List.drop_left]

theorem exponent_head {x : List Char} (hx : IsExponent x) (v : List Char) :
    EndsDigits (x ++ v) ∧ ∀ w, x ++ v ≠ '.' :: w := by
  obtain ⟨e, s, ds, rfl, he, -, -⟩ := hx
  have hdig : isDigit e = false := by rcases he with rfl | rfl <;> decide
  refine ⟨endsDigits_of_not hdig _, fun w h => ?_⟩
  simp only [List.cons_append, List.cons.injEq] at h
  rcases he with rfl | rfl <;> exact absurd h.1 (by decide)

theorem digits_le_unsigned {ds after : List Char} (hds : IsDigits ds) (ha : EndsDigits after) :
    ds.length ≤ unsignedNumberLength (ds ++ after) := by
  by_cases hpt : ∃ r, after = '.' :: r
  · obtain ⟨r, rfl⟩ := hpt
    obtain ⟨fs, after', rfl, hfs, ha'⟩ := exists_run isDigit r
    rw [unsigned_point hds hfs ha']
    omega
  · rw [unsigned_whole hds ha (fun w h => hpt ⟨w, h⟩)]
    omega

/-- An unsigned number at the front is no longer than the unsigned number length. -/
theorem unsigned_length_le {m x v : List Char} (hm : IsMantissa m) (hx : x = [] ∨ IsExponent x) :
    m.length + x.length ≤ unsignedNumberLength (m ++ x ++ v) := by
  -- digits, a point and digits; a point and digits; digits alone
  rcases hm with ⟨a, b, rfl, ha, hb⟩ | ⟨b, rfl, hb⟩ | hm
  · obtain ⟨fs, after, hrun, hfs, hafter⟩ := exists_run isDigit (b ++ (x ++ v))
    have hcs : a ++ '.' :: b ++ x ++ v = a ++ '.' :: (fs ++ after) := by simp [hrun]
    rw [hcs, unsigned_point ha hfs hafter]
    have hle := length_le_run hb hfs hafter hrun
    -- without an exponent the run of digits may go on into what follows; an exponent
    -- starts with a letter and ends it
    rcases hx with rfl | hx
    · simp only [List.length_append, List.length_cons, List.length_nil]
      omega
    · obtain ⟨hend, -⟩ := exponent_head hx v
      obtain ⟨rfl, rfl⟩ := eq_run hb hend hfs hafter hrun
      have := exponent_length_le (v := v) hx
      simp only [List.length_append, List.length_cons]
      omega
  · obtain ⟨fs, after, hrun, hfs, hafter⟩ := exists_run isDigit (b ++ (x ++ v))
    have hle := length_le_run hb.2 hfs hafter hrun
    have hne : fs ≠ [] := by
      rintro rfl
      have := List.length_pos_iff.mpr hb.1
      simp only [List.length_nil] at hle
      omega
    have hcs : '.' :: b ++ x ++ v = '.' :: (fs ++ after) := by simp [hrun]
    rw [hcs, unsigned_fraction ⟨hne, hfs⟩ hafter]
    rcases hx with rfl | hx
    · simp only [List.length_cons, List.length_nil]
      omega
    · obtain ⟨hend, -⟩ := exponent_head hx v
      obtain ⟨rfl, rfl⟩ := eq_run hb.2 hend hfs hafter hrun
      have := exponent_length_le (v := v) hx
      simp only [List.length_cons]
      omega
  · rcases hx with rfl | hx
    · obtain ⟨ds, after, hrun, hds, hafter⟩ := exists_run isDigit (m ++ v)
      have hle := length_le_run hm.2 hds hafter hrun
      have hne : ds ≠ [] := by
        rintro rfl
        have := List.length_pos_iff.mpr hm.1
        simp only [List.length_nil] at hle
        omega
      have := digits_le_unsigned ⟨hne, hds⟩ hafter
      rw [List.append_nil, hrun]
      simp only [List.length_nil]
      omega
    · obtain ⟨hend, hpt⟩ := exponent_head hx v
      rw [List.append_assoc, unsigned_whole hm hend hpt]
      have := exponent_length_le (v := v) hx
      omega

theorem exponent_take (after : List Char) :
    after.take (exponentLength after) = [] ∨ IsExponent (after.take (exponentLength after)) := by
  by_cases h : 0 < exponentLength after
  · obtain ⟨e, s, ds, rest, rfl, he, hs, hds, hrest⟩ := exponentLength_pos h
    right
    refine ⟨e, s, ds, ?_, he, hs, hds⟩
    rw [exponentLength_of he hs hds hrest,
      show 1 + s.length + ds.length = (s ++ ds).length + 1 by simp only [List.length_append]; omega,
      List.take_succ_cons, List.take_left]
    rfl
  · left
    rw [Nat.eq_zero_of_not_pos h, List.take_zero]

/-- The characters the unsigned number length takes are a mantissa and an exponent. -/
theorem unsigned_take {cs : List Char} (h : 0 < unsignedNumberLength cs) :
    ∃ m x, cs.take (unsignedNumberLength cs) = m ++ x ∧ IsMantissa m ∧
      (x = [] ∨ IsExponent x) := by
  -- split at the end of the leading digits, then at the point if one follows them
  obtain ⟨ds, after, rfl, hds, ha⟩ := exists_run isDigit cs
  by_cases hne : ds = []
  · subst hne
    simp only [List.nil_append] at h ⊢
    by_cases hpt : ∃ r, after = '.' :: r
    · obtain ⟨r, rfl⟩ := hpt
      obtain ⟨fs, after', rfl, hfs, ha'⟩ := exists_run isDigit r
      by_cases hfne : fs = []
      · -- a point with no digit on either side is no number
        subst hfne
        have h0 : after'.takeWhile isDigit = [] := @takeWhile_run Char isDigit [] after' hfs ha'
        simp [unsignedNumberLength, digitCount, isDigit_point, h0] at h
      · rw [unsigned_fraction ⟨hfne, hfs⟩ ha']
        refine ⟨'.' :: fs, after'.take (exponentLength after'), ?_, Or.inr (Or.inl ⟨fs, rfl,
          ⟨hfne, hfs⟩⟩), exponent_take after'⟩
        rw [show 1 + fs.length + exponentLength after' = fs.length + exponentLength after' + 1 by
          omega, List.take_succ_cons, take_length_add _ rfl]
        rfl
    · obtain ⟨c, r, rfl⟩ : ∃ c r, after = c :: r := by
        cases after with
        | nil => simp [unsignedNumberLength, digitCount] at h
        | cons c r => exact ⟨c, r, rfl⟩
      have hc := ha c r rfl
      have hpt' : c ≠ '.' := fun e => hpt ⟨r, by rw [e]⟩
      simp [unsignedNumberLength, digitCount, hc, hpt'] at h
  · by_cases hpt : ∃ r, after = '.' :: r
    · obtain ⟨r, rfl⟩ := hpt
      obtain ⟨fs, after', rfl, hfs, ha'⟩ := exists_run isDigit r
      rw [unsigned_point ⟨hne, hds⟩ hfs ha']
      refine ⟨ds ++ '.' :: fs, after'.take (exponentLength after'), ?_,
        Or.inl ⟨ds, fs, rfl, ⟨hne, hds⟩, hfs⟩, exponent_take after'⟩
      have hsplit : ds ++ '.' :: (fs ++ after') = (ds ++ '.' :: fs) ++ after' := by simp
      rw [hsplit, take_length_add _ (by simp only [List.length_append, List.length_cons]; omega)]
    · rw [unsigned_whole ⟨hne, hds⟩ ha (fun w e => hpt ⟨w, e⟩)]
      exact ⟨ds, after.take (exponentLength after), take_length_add _ rfl,
        Or.inr (Or.inr ⟨hne, hds⟩), exponent_take after⟩

theorem mantissa_head' {m : List Char} (hm : IsMantissa m) :
    ∃ c w, m = c :: w ∧ (isDigit c = true ∨ c = '.') := by
  rcases hm with ⟨a, b, rfl, ⟨ha, hdig⟩, -⟩ | ⟨b, rfl, -⟩ | ⟨hne, hdig⟩
  · obtain ⟨c, a', rfl⟩ := List.exists_cons_of_ne_nil ha
    exact ⟨c, a' ++ '.' :: b, rfl, Or.inl (hdig c List.mem_cons_self)⟩
  · exact ⟨'.', b, rfl, Or.inr rfl⟩
  · obtain ⟨c, m', rfl⟩ := List.exists_cons_of_ne_nil hne
    exact ⟨c, m', rfl, Or.inl (hdig c List.mem_cons_self)⟩

theorem mantissa_head {m : List Char} (hm : IsMantissa m) : ∃ c w, m = c :: w ∧ c ≠ '-' := by
  obtain ⟨c, w, rfl, hc | rfl⟩ := mantissa_head' hm
  · refine ⟨c, w, rfl, fun e => ?_⟩
    rw [e] at hc
    exact absurd hc (by decide)
  · exact ⟨'.', w, rfl, by decide⟩

theorem mantissa_length_pos {m : List Char} (hm : IsMantissa m) : 0 < m.length := by
  obtain ⟨c, w, rfl, -⟩ := mantissa_head hm
  simp

/-- A number at the front is no longer than the number length. -/
theorem number_length_le {u v : List Char} (hu : IsNumber u) :
    u.length ≤ numberLength (u ++ v) := by
  obtain ⟨s, m, x, rfl, rfl | rfl, hm, hx⟩ := hu
  · obtain ⟨c, w, hcw, hc⟩ := mantissa_head hm
    have hle := unsigned_length_le (v := v) hm hx
    have hnum : numberLength (m ++ x ++ v) = unsignedNumberLength (m ++ x ++ v) := by
      rw [hcw]
      simp [numberLength, hc]
    rw [List.nil_append, hnum]
    simpa using hle
  · have hle := unsigned_length_le (v := v) hm hx
    have hpos := mantissa_length_pos hm
    have hnum : numberLength (['-'] ++ m ++ x ++ v) = unsignedNumberLength (m ++ x ++ v) + 1 := by
      simp only [List.append_assoc, List.cons_append, List.nil_append, numberLength]
      rw [if_pos (by simp only [List.append_assoc] at hle; omega)]
    rw [hnum]
    simp only [List.length_append, List.length_cons, List.length_nil]
    omega

/-- The characters the number length takes are a number. -/
theorem number_take {cs : List Char} (h : 0 < numberLength cs) :
    IsNumber (cs.take (numberLength cs)) := by
  by_cases hminus : ∃ rest, cs = '-' :: rest
  · obtain ⟨rest, rfl⟩ := hminus
    have hpos : 0 < unsignedNumberLength rest := by
      simp only [numberLength] at h
      split at h
      · assumption
      · cases h
    obtain ⟨m, x, hmx, hm, hx⟩ := unsigned_take hpos
    refine ⟨['-'], m, x, ?_, Or.inr rfl, hm, hx⟩
    simp only [numberLength, if_pos hpos, List.take_succ_cons, hmx]
    rfl
  · have hnum : numberLength cs = unsignedNumberLength cs := by
      simp only [numberLength]
      split
      · rename_i rest; exact absurd ⟨rest, rfl⟩ hminus
      · rfl
    rw [hnum] at h ⊢
    obtain ⟨m, x, hmx, hm, hx⟩ := unsigned_take h
    exact ⟨[], m, x, by rw [hmx]; rfl, Or.inl rfl, hm, hx⟩

end CallBasic
