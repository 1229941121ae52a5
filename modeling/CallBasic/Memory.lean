/-!
# Memory

The memory of a session: doubles stored at integer addresses. An address that was never
written reads as zero. The cells are kept in increasing order of address, one per address,
so the memory can be listed in that order.
-/

namespace CallBasic

/-- Doubles at integer addresses, in increasing order of address. -/
structure Memory where
  cells : List (Int × Float)
  deriving Inhabited

namespace Memory

/-- The memory with no cell written. -/
def empty : Memory := ⟨[]⟩

/-- Writes a double at an address, into a list ordered by address. -/
def insertCell (a : Int) (v : Float) : List (Int × Float) → List (Int × Float)
  | [] => [(a, v)]
  | (b, w) :: rest =>
    if a < b then (a, v) :: (b, w) :: rest
    else if a = b then (a, v) :: rest
    else (b, w) :: insertCell a v rest

/-- The memory with a double written at an address. -/
def write (m : Memory) (a : Int) (v : Float) : Memory :=
  ⟨insertCell a v m.cells⟩

/-- The double at an address, zero if it was never written. -/
def read (m : Memory) (a : Int) : Float :=
  match m.cells.find? (fun c => c.1 == a) with
  | some c => c.2
  | none => 0

/-- The number of written addresses. -/
def size (m : Memory) : Nat :=
  m.cells.length

end Memory

end CallBasic
