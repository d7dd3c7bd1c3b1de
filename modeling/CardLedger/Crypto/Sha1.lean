import CardLedger.Uuid

/-!
# SHA-1 and name-based identifiers

The SHA-1 digest of a byte string (FIPS 180-4), and the name-based identifiers of version 5
(RFC 4122, section 4.3): the first sixteen bytes of the SHA-1 digest of a namespace's sixteen
bytes followed by the name, with the version nibble set to `5` and the variant bits to `10`.
-/

namespace CardLedger

namespace Sha1

def rotl (x : UInt32) (n : UInt32) : UInt32 := (x <<< n) ||| (x >>> (32 - n))

def bigEndian (count value : Nat) : List UInt8 :=
  (List.range count).reverse.map fun i => (value / Nat.pow 256 i % 256).toUInt8

/-- The message followed by a one bit, zeros up to 56 bytes modulo 64, and its length in bits as
eight big-endian bytes. -/
def pad (message : List UInt8) : List UInt8 :=
  message ++ [0x80] ++ List.replicate ((119 - message.length % 64) % 64) 0 ++
    bigEndian 8 (8 * message.length)

def words (block : List UInt8) : List UInt32 :=
  (List.range 16).map fun i =>
    (List.range 4).foldl (fun w j => (w <<< 8) ||| (block.getD (4 * i + j) 0).toUInt32) 0

/-- The eighty words of the message schedule: each later word is the earlier words three,
eight, fourteen and sixteen places back, XORed and rotated by one. -/
def schedule (block : List UInt8) : List UInt32 :=
  (List.range 64).foldl (fun w t =>
    w ++ [rotl (w.getD (t + 13) 0 ^^^ w.getD (t + 8) 0 ^^^ w.getD (t + 2) 0 ^^^ w.getD t 0) 1])
    (words block)

/-- The round function and constant of round `t`. -/
def roundMix (t : Nat) (b c d : UInt32) : UInt32 × UInt32 :=
  if t < 20 then ((b &&& c) ||| (~~~b &&& d), 0x5a827999)
  else if t < 40 then (b ^^^ c ^^^ d, 0x6ed9eba1)
  else if t < 60 then ((b &&& c) ||| (b &&& d) ||| (c &&& d), 0x8f1bbcdc)
  else (b ^^^ c ^^^ d, 0xca62c1d6)

/-- The five chaining words after one 64-byte block. -/
def compress (h : List UInt32) (block : List UInt8) : List UInt32 :=
  let w := schedule block
  let final := (List.range 80).foldl (fun (s : List UInt32) t =>
    let a := s.getD 0 0
    let b := s.getD 1 0
    let c := s.getD 2 0
    let d := s.getD 3 0
    let e := s.getD 4 0
    let (f, k) := roundMix t b c d
    [rotl a 5 + f + e + k + w.getD t 0, a, rotl b 30, c, d]) h
  List.zipWith (· + ·) h final

def initial : List UInt32 := [0x67452301, 0xefcdab89, 0x98badcfe, 0x10325476, 0xc3d2e1f0]

def blocks : Nat → List UInt8 → List (List UInt8)
  | 0, _ => []
  | fuel + 1, data => if data.isEmpty then [] else data.take 64 :: blocks fuel (data.drop 64)

/-- The twenty-byte digest of a message. -/
def digest (message : List UInt8) : List UInt8 :=
  let padded := pad message
  ((blocks padded.length padded).foldl compress initial).flatMap fun word =>
    bigEndian 4 word.toNat

end Sha1

namespace Uuid

/-- The name-based identifier (version 5) of `name` in the namespace `space`. -/
def nameBased (space : Uuid) (name : List UInt8) : Uuid :=
  let hash := Sha1.digest (Sha1.bigEndian 16 space.bits ++ name)
  let bytes := ((hash.take 16).set 6 ((hash.getD 6 0 &&& 0x0f) ||| 0x50)).set 8
    ((hash.getD 8 0 &&& 0x3f) ||| 0x80)
  ofNat (bytes.foldl (fun acc b => acc * 256 + b.toNat) 0)

/-- The example of the name `python.org` in the DNS namespace. -/
example : nameBased (ofNat 0x6ba7b8109dad11d180b400c04fd430c8) "python.org".toUTF8.toList =
    ofNat 0x886313e13b8a53729b900c9aee199e5d := by
  decide +kernel

end Uuid

end CardLedger
