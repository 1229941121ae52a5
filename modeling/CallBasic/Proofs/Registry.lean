import Mathlib
import CallBasic.Registry
/-!
# Registries: the store laws

A registry is changed only by registering a name with an arity and an implementation. This
file proves that, after any sequence of registrations from the empty registry, every way of
looking at the registry agrees with the sequence (`replay_observers`):

> a lookup gives the arity and the implementation of the name's last registration (or arity
> zero and none), a name is contained exactly when it was registered, the names are the
> registered ones in strictly increasing order of code points, the size counts them, and the
> listing of arities pairs each name with the arity its lookup reports.

Two registrations of different names can be swapped without changing the registry at all
(`replay_swap`). The invariant behind all of it is that the entries stay `Ordered`: names
strictly increase along them, so each name has one entry, and two ordered lists with the same
lookups are equal (`eq_of_lookup_eq`).

Names are ordered code point by code point; the first section proves that this is a strict
total order.
-/

namespace CallBasic

/-! ## The order of names -/

namespace CodePoint

/-- No character has the number of a surrogate code. -/
theorem char_toNat_not_surrogate (c : Char) : c.toNat < 0xD800 ∨ 0xDFFF < c.toNat := by
  have hv : c.val < 0xd800 ∨ (0xdfff < c.val ∧ c.val < 0x110000) := c.valid
  simp only [UInt32.lt_iff_toNat_lt, UInt32.reduceToNat] at hv
  have : c.toNat = c.val.toNat := rfl
  omega

/-- Different code points have different numbers. -/
theorem toNat_injective : Function.Injective CodePoint.toNat := by
  intro a b h
  cases a with
  | char c =>
    cases b with
    | char d => exact congrArg CodePoint.char (Char.toNat_inj.mp h)
    | surrogate o =>
      have := char_toNat_not_surrogate c
      simp only [toNat] at h
      omega
  | surrogate o =>
    cases b with
    | char d =>
      have := char_toNat_not_surrogate d
      simp only [toNat] at h
      omega
    | surrogate p =>
      simp only [toNat] at h
      exact congrArg CodePoint.surrogate (Fin.ext (by omega))

theorem lt_irrefl (a : CodePoint) : ¬ a < a := Nat.lt_irrefl _

theorem lt_trans {a b c : CodePoint} : a < b → b < c → a < c := Nat.lt_trans

/-- Code points are totally ordered by their numbers. -/
theorem lt_trichotomy (a b : CodePoint) : a < b ∨ a = b ∨ b < a := by
  rcases Nat.lt_trichotomy a.toNat b.toNat with h | h | h
  · exact .inl h
  · exact .inr (.inl (toNat_injective h))
  · exact .inr (.inr h)

end CodePoint

namespace CodeString

theorem pointsLt_irrefl : ∀ l : List CodePoint, pointsLt l l = false
  | [] => rfl
  | a :: l => by simp [pointsLt, CodePoint.lt_irrefl a, pointsLt_irrefl l]

/-- The comparison of texts goes through: the first place where `a` and `c` differ is no
later than the first places where `a`, `b` and `b`, `c` differ. -/
theorem pointsLt_trans : ∀ {a b c : List CodePoint},
    pointsLt a b = true → pointsLt b c = true → pointsLt a c = true
  | [], _ :: _, _ :: _, _, _ => rfl
  | x :: xs, y :: ys, z :: zs, hab, hbc => by
    simp only [pointsLt, Bool.or_eq_true, decide_eq_true_eq, Bool.and_eq_true] at hab hbc ⊢
    rcases hab with hxy | ⟨rfl, hxs⟩ <;> rcases hbc with hyz | ⟨rfl, hys⟩
    · exact .inl (CodePoint.lt_trans hxy hyz)
    · exact .inl hxy
    · exact .inl hyz
    · exact .inr ⟨rfl, pointsLt_trans hxs hys⟩
  | [], [], _, h, _ => by simp [pointsLt] at h
  | _ :: _, [], _, h, _ => by simp [pointsLt] at h
  | _, _ :: _, [], _, h => by simp [pointsLt] at h

/-- Of two lists of code points, one comes first, or they are equal. -/
theorem pointsLt_trichotomy : ∀ a b : List CodePoint,
    pointsLt a b = true ∨ a = b ∨ pointsLt b a = true
  | [], [] => .inr (.inl rfl)
  | [], _ :: _ => .inl rfl
  | _ :: _, [] => .inr (.inr rfl)
  | x :: xs, y :: ys => by
    simp only [pointsLt, Bool.or_eq_true, decide_eq_true_eq, Bool.and_eq_true, List.cons.injEq]
    rcases CodePoint.lt_trichotomy x y with h | rfl | h
    · exact .inl (.inl h)
    · rcases pointsLt_trichotomy xs ys with h | rfl | h
      · exact .inl (.inr ⟨rfl, h⟩)
      · exact .inr (.inl ⟨rfl, rfl⟩)
      · exact .inr (.inr (.inr ⟨rfl, h⟩))
    · exact .inr (.inr (.inl h))

theorem lt_irrefl (s : CodeString) : ¬ s < s := by
  show ¬ pointsLt s.points s.points = true
  simp [pointsLt_irrefl]

theorem lt_trans {a b c : CodeString} (hab : a < b) (hbc : b < c) : a < c :=
  pointsLt_trans hab hbc

theorem lt_trichotomy (a b : CodeString) : a < b ∨ a = b ∨ b < a := by
  rcases pointsLt_trichotomy a.points b.points with h | h | h
  · exact .inl h
  · exact .inr (.inl (by cases a; cases b; simp_all))
  · exact .inr (.inr h)

end CodeString

namespace Registry

variable {α : Type}

/-! ## One registration -/

/-- The entry of a name in a list of entries: the first one with that name. -/
def lookup (l : List (CodeString × Entry α)) (n : CodeString) : Option (Entry α) :=
  (l.find? (fun p => p.1 == n)).map Prod.snd

/-- Names strictly increase along a list of entries. -/
def Ordered (l : List (CodeString × Entry α)) : Prop :=
  l.Pairwise (fun p q => p.1 < q.1)

@[simp] theorem lookup_nil (n : CodeString) :
    lookup ([] : List (CodeString × Entry α)) n = none := rfl

theorem lookup_cons (k n : CodeString) (x : Entry α) (l : List (CodeString × Entry α)) :
    lookup ((k, x) :: l) n = if k = n then some x else lookup l n := by
  by_cases h : k = n <;> simp [lookup, h]

/-- Registering a name changes its entry and no other. -/
theorem lookup_insertEntry (name n : CodeString) (e : Entry α) :
    ∀ l : List (CodeString × Entry α),
      lookup (insertEntry name e l) n = if name = n then some e else lookup l n
  | [] => by simp [insertEntry, lookup_cons]
  | (k, x) :: rest => by
    unfold insertEntry
    by_cases hlt : name < k
    · simp only [if_pos hlt, lookup_cons]
    · by_cases heq : name = k
      · subst heq
        rw [if_neg hlt, if_pos rfl, lookup_cons, lookup_cons]
        by_cases hn : name = n <;> simp [hn]
      · simp only [if_neg hlt, if_neg heq, lookup_cons, lookup_insertEntry name n e rest]
        by_cases hk : k = n
        · subst hk
          simp [heq]
        · simp [hk]

/-- The names after registering one: that name and the names before. -/
theorem mem_names_insertEntry (name n : CodeString) (e : Entry α) :
    ∀ l : List (CodeString × Entry α),
      n ∈ (insertEntry name e l).map Prod.fst ↔ n = name ∨ n ∈ l.map Prod.fst
  | [] => by simp [insertEntry]
  | (k, x) :: rest => by
    unfold insertEntry
    by_cases hlt : name < k
    · simp [if_pos hlt]
    · by_cases heq : name = k
      · subst heq
        rw [if_neg hlt, if_pos rfl]
        simp
      · simp only [if_neg hlt, if_neg heq, List.map_cons, List.mem_cons,
          mem_names_insertEntry name n e rest]
        exact or_left_comm

theorem lookup_eq_none {l : List (CodeString × Entry α)} {n : CodeString}
    (h : n ∉ l.map Prod.fst) : lookup l n = none := by
  simp only [lookup, Option.map_eq_none_iff, List.find?_eq_none, beq_iff_eq]
  intro p hp hpn
  exact h (List.mem_map.mpr ⟨p, hp, hpn⟩)

/-- In an ordered list, a name not above the first one is none of the others. -/
theorem not_mem_rest {k n : CodeString} {x : Entry α} {rest : List (CodeString × Entry α)}
    (h : Ordered ((k, x) :: rest)) (hn : n < k ∨ n = k) : n ∉ rest.map Prod.fst := by
  intro hm
  obtain ⟨p, hp, rfl⟩ := List.mem_map.mp hm
  have hkp : k < p.1 := List.rel_of_pairwise_cons h hp
  rcases hn with hlt | heq
  · exact CodeString.lt_irrefl _ (CodeString.lt_trans hlt hkp)
  · exact CodeString.lt_irrefl _ (heq ▸ hkp)

/-- Registering keeps the names strictly increasing. -/
theorem ordered_insertEntry (name : CodeString) (e : Entry α) :
    ∀ l : List (CodeString × Entry α), Ordered l → Ordered (insertEntry name e l)
  | [] => fun _ => List.pairwise_singleton _ _
  | (k, x) :: rest => by
    intro h
    have hrest : Ordered rest := h.of_cons
    unfold insertEntry
    by_cases hlt : name < k
    · rw [if_pos hlt]
      refine List.Pairwise.cons (fun q hq => ?_) h
      rcases List.mem_cons.mp hq with rfl | hq
      · exact hlt
      · exact CodeString.lt_trans hlt (List.rel_of_pairwise_cons h hq)
    · by_cases heq : name = k
      · subst heq
        rw [if_neg hlt, if_pos rfl]
        exact List.Pairwise.cons (fun q hq => List.rel_of_pairwise_cons h hq) hrest
      · rw [if_neg hlt, if_neg heq]
        have hkn : k < name := by
          rcases CodeString.lt_trichotomy name k with h' | h' | h'
          · exact absurd h' hlt
          · exact absurd h' heq
          · exact h'
        refine List.Pairwise.cons (fun q hq => ?_) (ordered_insertEntry name e rest hrest)
        have hq' : q.1 ∈ (insertEntry name e rest).map Prod.fst := List.mem_map_of_mem hq
        rcases (mem_names_insertEntry name q.1 e rest).mp hq' with hqn | hqr
        · exact hqn ▸ hkn
        · obtain ⟨p, hp, hpq⟩ := List.mem_map.mp hqr
          exact hpq ▸ List.rel_of_pairwise_cons h hp

/-- Ordered lists of entries with the same lookups are equal: the order fixes where each
entry stands. -/
theorem eq_of_lookup_eq : ∀ {l l' : List (CodeString × Entry α)}, Ordered l → Ordered l' →
    (∀ n, lookup l n = lookup l' n) → l = l'
  | [], [], _, _, _ => rfl
  | [], (b, y) :: _, _, _, h => by simpa [lookup_cons] using h b
  | (a, x) :: _, [], _, _, h => by simpa [lookup_cons] using h a
  | (a, x) :: r, (b, y) :: r', hl, hl', h => by
    rcases CodeString.lt_trichotomy a b with hab | rfl | hba
    · have ha := h a
      rw [lookup_cons, if_pos rfl, lookup_cons, if_neg (fun e => CodeString.lt_irrefl _ (e ▸ hab)),
        lookup_eq_none (not_mem_rest hl' (.inl hab))] at ha
      cases ha
    · have hxy : x = y := by simpa [lookup_cons] using h a
      subst hxy
      have hr : r = r' := by
        refine eq_of_lookup_eq hl.of_cons hl'.of_cons (fun n => ?_)
        by_cases han : a = n
        · subst han
          rw [lookup_eq_none (not_mem_rest hl (.inr rfl)),
            lookup_eq_none (not_mem_rest hl' (.inr rfl))]
        · simpa [lookup_cons, han] using h n
      rw [hr]
    · have hb := h b
      rw [lookup_cons, if_neg (fun e => CodeString.lt_irrefl _ (e ▸ hba)),
        lookup_eq_none (not_mem_rest hl (.inl hba)), lookup_cons, if_pos rfl] at hb
      cases hb

/-! ## Sequences of registrations -/

/-- The registry after a sequence of registrations, each of a name with an arity and an
implementation (or none), starting from the empty registry. -/
def replay (ops : List (CodeString × Int × Option α)) : Registry α :=
  ops.foldl (fun r op => r.register op.1 op.2.1 op.2.2) empty

/-- The arity and implementation passed together to the last registration of a name, or
arity zero and no implementation when the name was never registered. -/
def lastRegistration (ops : List (CodeString × Int × Option α)) (n : CodeString) :
    Int × Option α :=
  match ops.reverse.find? (fun op => op.1 == n) with
  | some (_, a, f) => (a, f)
  | none => (0, none)

/-- A sequence of registrations extended by one is that registration made after it. -/
theorem replay_append_single (ops : List (CodeString × Int × Option α))
    (op : CodeString × Int × Option α) :
    replay (ops ++ [op]) = (replay ops).register op.1 op.2.1 op.2.2 := by
  simp [replay, List.foldl_append]

/-- Registrations from the empty registry keep it ordered. -/
theorem ordered_replay (ops : List (CodeString × Int × Option α)) :
    Ordered (replay ops).entries := by
  induction ops using List.reverseRecOn with
  | nil => exact List.Pairwise.nil
  | append_singleton ops op ih =>
    rw [replay_append_single]
    exact ordered_insertEntry _ _ _ ih

/-- The entry of a name after a sequence of registrations is that of its last
registration. -/
theorem lookup_replay (ops : List (CodeString × Int × Option α)) (n : CodeString) :
    lookup (replay ops).entries n =
      (ops.reverse.find? (fun op => op.1 == n)).map (fun op => ⟨op.2.1, op.2.2⟩) := by
  induction ops using List.reverseRecOn with
  | nil => rfl
  | append_singleton ops op ih =>
    rw [replay_append_single]
    simp only [register, lookup_insertEntry, ih, List.reverse_append, List.reverse_cons,
      List.reverse_nil, List.nil_append, List.cons_append, List.find?_cons]
    by_cases h : op.1 = n
    · simp [h]
    · have hb : (op.1 == n) = false := by simpa using h
      simp [h, hb]

theorem get_eq_of_lookup (r : Registry α) (n : CodeString) :
    r.get n = match lookup r.entries n with
      | some e => (e.arity, e.fn)
      | none => (0, none) := rfl

/-- Registering a name sets what it gives and leaves every other name as it was. -/
theorem get_register (r : Registry α) (name n : CodeString) (arity : Int) (fn : Option α) :
    (r.register name arity fn).get n = if name = n then (arity, fn) else r.get n := by
  rw [get_eq_of_lookup, get_eq_of_lookup, register, lookup_insertEntry]
  by_cases h : name = n <;> simp [h]

/-- A lookup after a sequence of registrations reports the last registration of the name. -/
theorem get_replay (ops : List (CodeString × Int × Option α)) (n : CodeString) :
    (replay ops).get n = lastRegistration ops n := by
  rw [get_eq_of_lookup, lookup_replay, lastRegistration]
  cases ops.reverse.find? (fun op => op.1 == n) with
  | none => rfl
  | some op => rfl

/-- The names of a registry made by registrations are the names registered. -/
theorem mem_names_replay (ops : List (CodeString × Int × Option α)) (n : CodeString) :
    n ∈ (replay ops).names ↔ n ∈ ops.map Prod.fst := by
  induction ops using List.reverseRecOn with
  | nil => simp [replay, empty, names]
  | append_singleton ops op ih =>
    rw [replay_append_single]
    simp only [names, register] at ih ⊢
    rw [mem_names_insertEntry, ih]
    simp [or_comm]

/-- A registry contains exactly the names it lists. -/
theorem contains_iff_mem_names (r : Registry α) (n : CodeString) :
    r.contains n = true ↔ n ∈ r.names := by
  simp only [contains, names, List.any_eq_true, List.mem_map, beq_iff_eq]

/-- A lookup sees the first entry of its name. -/
theorem get_cons (k n : CodeString) (x : Entry α) (l : List (CodeString × Entry α)) :
    (⟨(k, x) :: l⟩ : Registry α).get n =
      if k = n then (x.arity, x.fn) else (⟨l⟩ : Registry α).get n := by
  by_cases h : k = n <;> simp [get, find?, h]

/-- In an ordered registry, listing the arities pairs each name with the arity its lookup
reports. -/
theorem arities_eq_of_ordered :
    ∀ l : List (CodeString × Entry α), Ordered l →
      (⟨l⟩ : Registry α).arities =
        (⟨l⟩ : Registry α).names.map (fun n => (n, ((⟨l⟩ : Registry α).get n).1))
  | [] => fun _ => rfl
  | (k, x) :: rest => by
    intro h
    have ih := arities_eq_of_ordered rest h.of_cons
    simp only [arities, names, List.map_cons, get_cons] at ih ⊢
    rw [ih]
    congr 1
    refine List.map_congr_left (fun q hq => ?_)
    have hkq : k ≠ q := fun e => not_mem_rest h (.inr e.symm) hq
    simp [hkq]

theorem ext_entries {r r' : Registry α} (h : r.entries = r'.entries) : r = r' := by
  cases r
  cases r'
  cases h
  rfl

/-- The first element of a list with a property does not depend on the order of two
neighbours that do not both have it. -/
theorem find?_swap {β : Type} (p : β → Bool) (l₁ l₂ : List β) (a b : β)
    (h : ¬(p a = true ∧ p b = true)) :
    (l₁ ++ a :: b :: l₂).find? p = (l₁ ++ b :: a :: l₂).find? p := by
  simp only [List.find?_append, List.find?_cons]
  cases ha : p a <;> cases hb : p b <;> simp_all

/-- Registrations of two different names can be made in either order. -/
theorem replay_swap (pre post : List (CodeString × Int × Option α))
    (op op' : CodeString × Int × Option α) (hne : op.1 ≠ op'.1) :
    replay (pre ++ op :: op' :: post) = replay (pre ++ op' :: op :: post) := by
  refine ext_entries (eq_of_lookup_eq (ordered_replay _) (ordered_replay _) (fun n => ?_))
  rw [lookup_replay, lookup_replay]
  simp only [List.reverse_append, List.reverse_cons, List.append_assoc, List.cons_append,
    List.nil_append]
  rw [find?_swap]
  simp only [beq_iff_eq]
  rintro ⟨h₁, h₂⟩
  exact hne (h₂.trans h₁.symm)

/-- The names of a registry made by registrations are in increasing order. -/
theorem names_pairwise_replay (ops : List (CodeString × Int × Option α)) :
    (replay ops).names.Pairwise (· < ·) :=
  List.pairwise_map.mpr (ordered_replay ops)

/-- The size of a registry made by registrations counts the distinct names registered. -/
theorem size_replay (ops : List (CodeString × Int × Option α)) :
    (replay ops).size = (ops.map Prod.fst).toFinset.card := by
  have hnodup : (replay ops).names.Nodup := by
    refine (names_pairwise_replay ops).imp ?_
    intro a b h e
    subst e
    exact CodeString.lt_irrefl a h
  have hset : (replay ops).names.toFinset = (ops.map Prod.fst).toFinset := by
    ext n
    simp only [List.mem_toFinset, mem_names_replay]
  calc (replay ops).size
      = (replay ops).names.length := by simp [size, names]
    _ = (replay ops).names.toFinset.card := (List.toFinset_card_of_nodup hnodup).symm
    _ = (ops.map Prod.fst).toFinset.card := by rw [hset]

/-- Registrations of a name and a sequence of registrations: every observer of the registry
agrees with the sequence. A lookup gives the arity and implementation of the name's last
registration, or arity zero and none; a name is contained exactly when it was registered;
the names are the registered ones, without repeats and in increasing order of code points,
and the size counts them; listing the arities pairs each name, in that order, with the
arity its lookup reports. Registrations of two different names commute. -/
theorem replay_observers (ops : List (CodeString × Int × Option α)) :
    (∀ n, (replay ops).get n = lastRegistration ops n) ∧
    (∀ n, (replay ops).contains n = true ↔ n ∈ ops.map Prod.fst) ∧
    (replay ops).names.Pairwise (· < ·) ∧
    (∀ n, n ∈ (replay ops).names ↔ n ∈ ops.map Prod.fst) ∧
    (replay ops).size = (ops.map Prod.fst).toFinset.card ∧
    (replay ops).arities = (replay ops).names.map (fun n => (n, ((replay ops).get n).1)) ∧
    (∀ (pre post : List (CodeString × Int × Option α)) (op op' : CodeString × Int × Option α),
      op.1 ≠ op'.1 → replay (pre ++ op :: op' :: post) = replay (pre ++ op' :: op :: post)) := by
  refine ⟨get_replay ops, fun n => ?_, names_pairwise_replay ops, mem_names_replay ops,
    size_replay ops, arities_eq_of_ordered _ (ordered_replay ops), replay_swap⟩
  rw [contains_iff_mem_names, mem_names_replay]

/-- Registering `PEEK` and then `POKE` gives the registry that the other order gives. -/
theorem replay_swap_peek_poke :
    (CodeString.ofString "PEEK" ≠ CodeString.ofString "POKE") ∧
      replay (([] : List (CodeString × Int × Option Nat)) ++
          (CodeString.ofString "PEEK", 1, some 1) :: (CodeString.ofString "POKE", 2, some 2) :: []) =
        replay (([] : List (CodeString × Int × Option Nat)) ++
          (CodeString.ofString "POKE", 2, some 2) :: (CodeString.ofString "PEEK", 1, some 1) :: []) :=
  ⟨by decide, (replay_observers ([] : List (CodeString × Int × Option Nat))).2.2.2.2.2.2
    [] [] (CodeString.ofString "PEEK", 1, some 1) (CodeString.ofString "POKE", 2, some 2)
    (by decide)⟩

end Registry

end CallBasic
