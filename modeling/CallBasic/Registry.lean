import CallBasic.Text.CodeString
/-!
# Registries

A registry maps builtin names to an arity and an implementation, which may be absent. The
entries are kept in increasing order of their names (by code point), with one entry per
name: registering a name again replaces its entry, so a lookup always sees the arity and
the implementation of one and the same registration.
-/

namespace CallBasic

/-- What a registry holds for one name: the expected argument count (negative for any
count) and the implementation, if there is one. -/
structure Entry (α : Type) where
  arity : Int
  fn : Option α

/-- A registry of builtins, by name. -/
structure Registry (α : Type) where
  entries : List (CodeString × Entry α)

namespace Registry

variable {α : Type}

/-- The registry without entries. -/
def empty : Registry α := ⟨[]⟩

/-- Puts an entry into a list ordered by name, replacing the entry of the same name. -/
def insertEntry (name : CodeString) (e : Entry α) : List (CodeString × Entry α) → List (CodeString × Entry α)
  | [] => [(name, e)]
  | (n, x) :: rest =>
    if name < n then (name, e) :: (n, x) :: rest
    else if name = n then (name, e) :: rest
    else (n, x) :: insertEntry name e rest

/-- Registers an implementation (or none) under a name with an arity. -/
def register (r : Registry α) (name : CodeString) (arity : Int) (fn : Option α) : Registry α :=
  ⟨insertEntry name ⟨arity, fn⟩ r.entries⟩

/-- The entry of a name, if it was registered. -/
def find? (r : Registry α) (name : CodeString) : Option (Entry α) :=
  (r.entries.find? (fun p => p.1 == name)).map Prod.snd

/-- The arity and implementation of a name; an unknown name has arity zero and no
implementation. -/
def get (r : Registry α) (name : CodeString) : Int × Option α :=
  match r.find? name with
  | some e => (e.arity, e.fn)
  | none => (0, none)

/-- The registered names, in increasing order. -/
def names (r : Registry α) : List CodeString :=
  r.entries.map Prod.fst

/-- Whether a name was registered. -/
def contains (r : Registry α) (name : CodeString) : Bool :=
  r.entries.any (fun p => p.1 == name)

/-- The number of registered names. -/
def size (r : Registry α) : Nat :=
  r.entries.length

/-- Each name with the arity a lookup reports, in increasing order of names. -/
def arities (r : Registry α) : List (CodeString × Int) :=
  r.entries.map (fun p => (p.1, p.2.arity))

/-- The same registry with each implementation transformed. -/
def mapFn {β : Type} (f : α → β) (r : Registry α) : Registry β :=
  ⟨r.entries.map (fun p => (p.1, ⟨p.2.arity, p.2.fn.map f⟩))⟩

end Registry

end CallBasic
