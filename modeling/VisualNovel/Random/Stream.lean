/-!
A stream of words from a seed: the ChaCha keystream with twelve rounds, whose key is drawn from the
seed by a permuted congruential generator.
-/

namespace VisualNovel

namespace Random

abbrev Key := Vector UInt32 8

abbrev Block := Vector UInt32 16

def nextState (state : UInt64) : UInt64 := state * 6364136223846793005 + 11634580027462260723

def rotateLeft (w : UInt32) (n : UInt32) : UInt32 := (w <<< n) ||| (w >>> (32 - n))

def rotateRight (w : UInt32) (n : UInt32) : UInt32 :=
  if n % 32 = 0 then w else (w >>> n) ||| (w <<< (32 - n))

def outputWord (state : UInt64) : UInt32 :=
  rotateRight (((state >>> 18) ^^^ state) >>> 27).toUInt32 (state >>> 59).toUInt32

def states (state : UInt64) : Nat → List UInt64
  | 0 => []
  | n + 1 => nextState state :: states (nextState state) n

def keyOfSeed (seed : UInt64) : Key :=
  Vector.ofFn fun i => outputWord ((states seed 8).getD i 0)

def quarterRound (s : Block) (i j k l : Fin 16) : Block :=
  let a := s[i] + s[j]
  let d := rotateLeft (s[l] ^^^ a) 16
  let c := s[k] + d
  let b := rotateLeft (s[j] ^^^ c) 12
  let a := a + b
  let d := rotateLeft (d ^^^ a) 8
  let c := c + d
  let b := rotateLeft (b ^^^ c) 7
  (((s.set i a).set j b).set k c).set l d

/-- One round over the columns and one over the diagonals. -/
def doubleRound (s : Block) : Block :=
  let s := quarterRound s 0 4 8 12
  let s := quarterRound s 1 5 9 13
  let s := quarterRound s 2 6 10 14
  let s := quarterRound s 3 7 11 15
  let s := quarterRound s 0 5 10 15
  let s := quarterRound s 1 6 11 12
  let s := quarterRound s 2 7 8 13
  quarterRound s 3 4 9 14

def initialBlock (key : Key) (counter : UInt64) : Block :=
  #v[0x61707865, 0x3320646e, 0x79622d32, 0x6b206574, key[0], key[1], key[2], key[3],
    key[4], key[5], key[6], key[7], counter.toUInt32, (counter >>> 32).toUInt32, 0, 0]

def block (key : Key) (counter : UInt64) : Block :=
  let start := initialBlock key counter
  (Nat.repeat doubleRound 6 start).zipWith (· + ·) start

end Random

/-- A place in the stream of a key. -/
structure Random where
  key : Random.Key
  position : Nat
deriving Repr, DecidableEq

namespace Random

def ofSeed (seed : Nat) : Random := ⟨keyOfSeed seed.toUInt64, 0⟩

def next (r : Random) : Nat × Random :=
  let words := block r.key (r.position / 16).toUInt64
  let place : Fin 16 := ⟨r.position % 16, Nat.mod_lt _ (by decide)⟩
  (words[place].toNat, { r with position := r.position + 1 })

end Random

end VisualNovel
