/-!
# A source of random bits

Nonces, card numbers and identifiers are drawn from an `Entropy` value: the sequence of 64-bit
words the source yields, and how many of them were drawn already. Every draw takes the next
words. The words of the running program are the SplitMix64 sequence: the generator state
advances by a fixed odd constant before each output, and each output is the state scrambled by
two multiply-xorshift steps. Nothing depends on which words are drawn, so statements about the
engine hold for every sequence of words.
-/

namespace CardLedger

/-- The state of the random source. -/
structure Entropy where
  word : Nat → UInt64
  drawn : Nat := 0

namespace Entropy

/-- The SplitMix64 output for a generator state. -/
def mix (s : UInt64) : UInt64 :=
  let z := (s ^^^ (s >>> 30)) * 0xbf58476d1ce4e5b9
  let z := (z ^^^ (z >>> 27)) * 0x94d049bb133111eb
  z ^^^ (z >>> 31)

def splitMix (seed : UInt64) (k : Nat) : UInt64 :=
  mix (seed + (k + 1).toUInt64 * 0x9e3779b97f4a7c15)

def initial : Entropy := { word := splitMix 0x853c49e6748fea9b }

def next (e : Entropy) : UInt64 × Entropy := (e.word e.drawn, { e with drawn := e.drawn + 1 })

/-- `count` random bytes. -/
def bytes : Nat → Entropy → List UInt8 × Entropy
  | 0, e => ([], e)
  | count + 1, e =>
    let (word, e) := e.next
    let (rest, e) := bytes count e
    ((word >>> 56).toUInt8 :: rest, e)

/-- `count` random decimal digits. -/
def digits : Nat → Entropy → List Nat × Entropy
  | 0, e => ([], e)
  | count + 1, e =>
    let (word, e) := e.next
    let (rest, e) := digits count e
    ((word % 10).toNat :: rest, e)

/-- 128 random bits. -/
def bits128 (e : Entropy) : Nat × Entropy :=
  let (high, e) := e.next
  let (low, e) := e.next
  (high.toNat * Nat.pow 2 64 + low.toNat, e)

end Entropy

end CardLedger
