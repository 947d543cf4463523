/-!
The random generator: the ChaCha stream cipher with twelve rounds, used as a stream of
thirty-two-bit words. The stream is a function of the key, and a generator is a key with the
number of words drawn from it.
-/

namespace Chip8

/-- Eight words that determine a stream. -/
abbrev RandomKey := Vector UInt32 8

namespace RandomKey

/-- The linear congruential step that spreads a seed over a key. -/
def nextState (s : UInt64) : UInt64 :=
  s * 6364136223846793005 + 11634580027462260723

def rotateLeft (x : UInt32) (n : UInt32) : UInt32 :=
  x <<< n ||| x >>> (32 - n)

/-- `x` turned right by `n` bits; both shifts take their amount modulo 32. -/
def rotateRight (x : UInt32) (n : UInt32) : UInt32 :=
  x >>> n ||| x <<< (32 - n)

/-- The word that a state gives: some of its high bits, turned by its highest five. -/
def output (s : UInt64) : UInt32 :=
  rotateRight (((s >>> 18) ^^^ s) >>> 27).toUInt32 (s >>> 59).toUInt32

/-- The state after `n` further steps. -/
def stateAfter (s : UInt64) : Nat → UInt64
  | 0 => s
  | n + 1 => nextState (stateAfter s n)

/-- The key of a seed. -/
def ofSeed (seed : UInt64) : RandomKey :=
  Vector.ofFn fun i : Fin 8 => output (stateAfter seed (i.val + 1))

/-- A state of the cipher. -/
abbrev Block := Vector UInt32 16

/-- The cipher's mixing of four words of the state. -/
def quarterRound (s : Block) (a b c d : Fin 16) : Block :=
  let s := s.set a (s[a] + s[b])
  let s := s.set d (rotateLeft (s[d] ^^^ s[a]) 16)
  let s := s.set c (s[c] + s[d])
  let s := s.set b (rotateLeft (s[b] ^^^ s[c]) 12)
  let s := s.set a (s[a] + s[b])
  let s := s.set d (rotateLeft (s[d] ^^^ s[a]) 8)
  let s := s.set c (s[c] + s[d])
  s.set b (rotateLeft (s[b] ^^^ s[c]) 7)

/-- The four columns, then the four diagonals. -/
def doubleRound (s : Block) : Block :=
  let s := quarterRound s 0 4 8 12
  let s := quarterRound s 1 5 9 13
  let s := quarterRound s 2 6 10 14
  let s := quarterRound s 3 7 11 15
  let s := quarterRound s 0 5 10 15
  let s := quarterRound s 1 6 11 12
  let s := quarterRound s 2 7 8 13
  quarterRound s 3 4 9 14

/-- Constants, key, block counter (low word first) and two words of zero. -/
def initialBlock (key : RandomKey) (counter : Nat) : Block :=
  #v[0x61707865, 0x3320646e, 0x79622d32, 0x6b206574,
    key[0], key[1], key[2], key[3], key[4], key[5], key[6], key[7],
    UInt32.ofNat counter, UInt32.ofNat (counter / 4294967296), 0, 0]

/-- Block `counter` of the stream: twelve rounds, added to what they began with. -/
def block (key : RandomKey) (counter : Nat) : Block :=
  let start := initialBlock key counter
  Vector.zipWith (· + ·)
    (doubleRound (doubleRound (doubleRound (doubleRound (doubleRound (doubleRound start))))))
    start

/-- Word `n` of the stream. -/
def word (key : RandomKey) (n : Nat) : UInt32 :=
  (block key (n / 16))[Fin.ofNat 16 n]

end RandomKey

/-- A stream, and how many of its words are used up. -/
structure Random where
  key : RandomKey
  drawn : Nat := 0
  deriving DecidableEq, Repr

namespace Random

def ofSeed (seed : UInt64) : Random :=
  { key := .ofSeed seed }

/-- The word that is drawn next. -/
def peek (g : Random) : UInt32 :=
  g.key.word g.drawn

/-- The generator after one draw. -/
def advance (g : Random) : Random :=
  { g with drawn := g.drawn + 1 }

end Random

end Chip8
