/-!
# ChaCha random words

The stream of random words that a simulation draws from: the key stream of the ChaCha cipher with
twelve rounds, a block counter of 64 bits and a nonce of zero. The key is spread out from a seed of
64 bits by a permuted congruential generator.
-/

namespace AgvDispatch

/-! ### The key -/

/-- The step of the congruential generator that spreads a seed. -/
def spreadStep (state : UInt64) : UInt64 :=
  state * 6364136223846793005 + 11634580027462260723

/-- A word rotated to the left. -/
@[inline]
def rotateLeft (x n : UInt32) : UInt32 :=
  (x <<< n) ||| (x >>> (32 - n))

/-- The word that a state of the congruential generator puts out. -/
def spreadWord (state : UInt64) : UInt32 :=
  let x := (((state >>> 18) ^^^ state) >>> 27).toUInt32
  let turn := (state >>> 59).toUInt32
  (x >>> turn) ||| (x <<< ((32 - turn) % 32))

/-- The words of a key, spread out from a seed. -/
def spreadKey : Nat → UInt64 → List UInt32
  | 0, _ => []
  | n + 1, state =>
    let state := spreadStep state
    spreadWord state :: spreadKey n state

/-! ### The blocks -/

/-- The state of the cipher, or a part of it: sixteen words. -/
abbrev ChaChaBlock := Vector UInt32 16

/-- The quarter round on four words of a block. -/
def quarterRound (b : ChaChaBlock) (i j k l : Fin 16) : ChaChaBlock :=
  let a := b[i] + b[j]
  let d := rotateLeft (b[l] ^^^ a) 16
  let c := b[k] + d
  let e := rotateLeft (b[j] ^^^ c) 12
  let a := a + e
  let d := rotateLeft (d ^^^ a) 8
  let c := c + d
  let e := rotateLeft (e ^^^ c) 7
  (((b.set i a).set j e).set k c).set l d

/-- A round on the columns followed by one on the diagonals. -/
def doubleRound (b : ChaChaBlock) : ChaChaBlock :=
  let b := quarterRound b 0 4 8 12
  let b := quarterRound b 1 5 9 13
  let b := quarterRound b 2 6 10 14
  let b := quarterRound b 3 7 11 15
  let b := quarterRound b 0 5 10 15
  let b := quarterRound b 1 6 11 12
  let b := quarterRound b 2 7 8 13
  quarterRound b 3 4 9 14

/-- The block that the rounds begin with: four constants, the key, the counter and the nonce. -/
def initialBlock (key : List UInt32) (counter : UInt64) : ChaChaBlock :=
  let k (i : Nat) : UInt32 := key.getD i 0
  #v[0x61707865, 0x3320646e, 0x79622d32, 0x6b206574, k 0, k 1, k 2, k 3, k 4, k 5, k 6, k 7,
    counter.toUInt32, (counter >>> 32).toUInt32, 0, 0]

/-- The words of one block of the key stream. -/
def keyStreamBlock (key : List UInt32) (counter : UInt64) : List UInt32 :=
  let start := initialBlock key counter
  let mixed := (List.range 6).foldl (fun b _ => doubleRound b) start
  (start.zipWith (· + ·) mixed).toList

/-! ### The stream -/

/-- The random words that have not been drawn. -/
structure RandomWords where
  /-- The key of the cipher. -/
  key : List UInt32
  /-- The number of the next block. -/
  counter : UInt64
  /-- The words left of the block before it. -/
  left : List UInt32
  deriving Repr, Inhabited

namespace RandomWords

/-- The stream of a seed. -/
def ofSeed (seed : UInt64) : RandomWords :=
  ⟨spreadKey 8 seed, 0, []⟩

/-- Draws a word. -/
def draw (r : RandomWords) : UInt32 × RandomWords :=
  match r.left with
  | word :: left => (word, { r with left })
  | [] =>
    match keyStreamBlock r.key r.counter with
    | [] => (0, r)
    | word :: left => (word, { r with counter := r.counter + 1, left })

/-- Draws two words, of which the first one is the low half. -/
def drawWide (r : RandomWords) : UInt64 × RandomWords :=
  let (low, r) := r.draw
  let (high, r) := r.draw
  ((high.toUInt64 <<< 32) ||| low.toUInt64, r)

end RandomWords

end AgvDispatch
