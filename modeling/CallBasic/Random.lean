/-!
# Pseudo-random numbers

The Mersenne Twister MT19937: a state of 624 words of 32 bits, refilled in one pass when it
is used up, each word tempered on the way out. A generator is seeded from a list of words
(`Twister.ofKey`), and draws below a bound by taking as many bits as the bound has and
drawing again while the result is not below the bound.
-/

namespace CallBasic

/-- The state of a Mersenne Twister: its 624 words and the index of the next word to use. -/
structure Twister where
  words : Array UInt32
  next : Nat
  deriving Inhabited

namespace Twister

/-- The number of words of the state. -/
def size : Nat := 624

/-- The word at an index of the state. -/
def word (t : Twister) (i : Nat) : UInt32 :=
  t.words.getD i 0

/-- The state filled from one seed word by the linear recurrence of the generator. -/
def ofSeed (s : UInt32) : Array UInt32 :=
  (List.range (size - 1)).foldl
    (fun ws i =>
      let prev := ws.getD i 0
      ws.push ((1812433253 : UInt32) * (prev ^^^ (prev >>> 30)) + (i + 1).toUInt32))
    #[s]

/-- One step of mixing a key into the state at index `i`, from the word before it. -/
def mixKey (ws : Array UInt32) (i : Nat) (k : UInt32) : Array UInt32 :=
  let prev := ws.getD (i - 1) 0
  ws.setIfInBounds i ((ws.getD i 0 ^^^ ((prev ^^^ (prev >>> 30)) * (1664525 : UInt32))) + k)

/-- One step of the second mixing pass at index `i`. -/
def mixIndex (ws : Array UInt32) (i : Nat) : Array UInt32 :=
  let prev := ws.getD (i - 1) 0
  ws.setIfInBounds i ((ws.getD i 0 ^^^ ((prev ^^^ (prev >>> 30)) * (1566083941 : UInt32))) - i.toUInt32)

/-- After index `i`, the next index of a mixing pass, wrapping to `1` past the end with the
last word copied to the front. -/
def advance (ws : Array UInt32) (i : Nat) : Array UInt32 × Nat :=
  if i + 1 ≥ size then (ws.setIfInBounds 0 (ws.getD (size - 1) 0), 1) else (ws, i + 1)

/-- A generator seeded from a key of words. -/
def ofKey (key : List UInt32) : Twister :=
  let key := if key.isEmpty then [0] else key
  let n := max size key.length
  let (ws, i, _) := (List.range n).foldl
    (fun (acc : Array UInt32 × Nat × Nat) _ =>
      let (ws, i, j) := acc
      let ws := mixKey ws i (key.getD j 0 + j.toUInt32)
      let (ws, i) := advance ws i
      (ws, i, if j + 1 ≥ key.length then 0 else j + 1))
    (ofSeed 19650218, 1, 0)
  let (ws, _) := (List.range (size - 1)).foldl
    (fun (acc : Array UInt32 × Nat) _ =>
      let (ws, i) := acc
      advance (mixIndex ws i) i)
    (ws, i)
  ⟨ws.setIfInBounds 0 0x80000000, size⟩

/-- The new word at index `k` of a refill, from the words `k`, `k + 1` and `k + 397`. -/
def twist (ws : Array UInt32) (k : Nat) : Array UInt32 :=
  let y := (ws.getD k 0 &&& 0x80000000) ||| (ws.getD ((k + 1) % size) 0 &&& 0x7fffffff)
  let mag : UInt32 := if y &&& 1 == 1 then 0x9908b0df else 0
  ws.setIfInBounds k (ws.getD ((k + 397) % size) 0 ^^^ (y >>> 1) ^^^ mag)

/-- The state refilled in one pass. -/
def refill (t : Twister) : Twister :=
  ⟨(List.range size).foldl twist t.words, 0⟩

/-- The next 32-bit output and the generator after it. -/
def nextWord (t : Twister) : UInt32 × Twister :=
  let t := if t.next ≥ size then t.refill else t
  let y := t.word t.next
  let y := y ^^^ (y >>> 11)
  let y := y ^^^ ((y <<< 7) &&& 0x9d2c5680)
  let y := y ^^^ ((y <<< 15) &&& 0xefc60000)
  let y := y ^^^ (y >>> 18)
  (y, { t with next := t.next + 1 })

/-- `k` random bits, drawn 32 at a time with the first word the least significant; a last
partial word keeps its high bits. -/
def bits (t : Twister) (k : Nat) : Nat × Twister :=
  go t k 0 0 (k / 32 + 1)
where
  go (t : Twister) (k acc shift : Nat) : Nat → Nat × Twister
    | 0 => (acc, t)
    | fuel + 1 =>
      if k = 0 then (acc, t)
      else
        let (w, t) := t.nextWord
        let w := if k < 32 then w.toNat >>> (32 - k) else w.toNat
        go t (k - min k 32) (acc + w <<< shift) (shift + 32) fuel

/-- A number below a positive bound `n`: draws as many bits as `n` has until the number
drawn is below `n`. The loop ends with probability one; past its fuel it gives zero. -/
def below (t : Twister) (n : Nat) : Nat × Twister :=
  go t 4096
where
  go (t : Twister) : Nat → Nat × Twister
    | 0 => (0, t)
    | fuel + 1 =>
      let (r, t) := t.bits (Nat.log2 n + 1)
      if r < n then (r, t) else go t fuel

end Twister

end CallBasic
