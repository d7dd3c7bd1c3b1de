import CardLedger.Crypto.Aes

/-!
# Galois/counter mode

Authenticated encryption with AES-256 and a twelve-byte nonce, without associated data. The
text is XORed with the keystream `E(J0 + 1), E(J0 + 2), …`, where `J0` is the nonce followed by
the 32-bit counter 1, and the tag is `E(J0)` XORed with the GHASH of the ciphertext under the
hash key `E(0)`. Opening recomputes the tag and refuses the text when it differs.
-/

namespace CardLedger

namespace Gcm

def blockValue (block : List UInt8) : Nat := block.foldl (fun acc b => acc * 256 + b.toNat) 0

def valueBlock (value : Nat) : List UInt8 :=
  (List.range 16).map fun i => (value / Nat.pow 256 (15 - i) % 256).toUInt8

def reduction : Nat := 0xe1 * Nat.pow 2 120

/-- One step of the shift-and-add product: bit `127 - i` of `x` selects `v`. -/
def gfMulSteps (x : Nat) : Nat → Nat → Nat → Nat → Nat
  | 0, _, z, _ => z
  | remaining + 1, i, z, v =>
    let z' := if x / Nat.pow 2 (127 - i) % 2 = 1 then z ^^^ v else z
    let v' := if v % 2 = 0 then v / 2 else (v / 2) ^^^ reduction
    gfMulSteps x remaining (i + 1) z' v'

def gfMul (x y : Nat) : Nat := gfMulSteps x 128 0 0 y

/-- The data split into sixteen-byte blocks, the last one padded with zeros. -/
def blocks : Nat → List UInt8 → List (List UInt8)
  | 0, _ => []
  | fuel + 1, data =>
    if data.isEmpty then []
    else (data.take 16 ++ List.replicate (16 - (data.take 16).length) 0) :: blocks fuel (data.drop 16)

/-- The GHASH of a ciphertext under hash key `h`, with empty associated data. -/
def ghash (h : Nat) (ciphertext : List UInt8) : Nat :=
  let body := (blocks ciphertext.length ciphertext).foldl
    (fun acc block => gfMul (acc ^^^ blockValue block) h) 0
  gfMul (body ^^^ 8 * ciphertext.length) h

def counterBlock (nonce : List UInt8) (counter : Nat) : Array UInt8 :=
  (nonce ++ (valueBlock (counter % Nat.pow 2 32)).drop 12).toArray

/-- The keystream XORed into the text, starting with counter `counter`. -/
def applyKeystream (roundKeys : Array UInt8) (nonce : List UInt8) : Nat → Nat → List UInt8 →
    List UInt8
  | 0, _, _ => []
  | fuel + 1, counter, data =>
    if data.isEmpty then []
    else
      let pad := (Aes.encryptBlock roundKeys (counterBlock nonce counter)).toList
      List.zipWith (· ^^^ ·) (data.take 16) pad ++
        applyKeystream roundKeys nonce fuel (counter + 1) (data.drop 16)

/-- The authentication tag of a ciphertext. -/
def tag (roundKeys : Array UInt8) (nonce ciphertext : List UInt8) : List UInt8 :=
  let hashKey := blockValue (Aes.encryptBlock roundKeys (Array.replicate 16 0)).toList
  let mask := blockValue (Aes.encryptBlock roundKeys (counterBlock nonce 1)).toList
  valueBlock (ghash hashKey ciphertext ^^^ mask)

def encrypt (roundKeys : Array UInt8) (nonce plaintext : List UInt8) : List UInt8 :=
  let ciphertext := applyKeystream roundKeys nonce plaintext.length 2 plaintext
  ciphertext ++ tag roundKeys nonce ciphertext

/-- The text of a sealed value, or `none` when it is shorter than a tag or the tag differs. -/
def decrypt (roundKeys : Array UInt8) (nonce sealed : List UInt8) : Option (List UInt8) :=
  if sealed.length < 16 then none
  else
    let ciphertext := sealed.take (sealed.length - 16)
    if tag roundKeys nonce ciphertext = sealed.drop (sealed.length - 16) then
      some (applyKeystream roundKeys nonce ciphertext.length 2 ciphertext)
    else none

end Gcm

end CardLedger
