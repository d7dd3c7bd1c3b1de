import CardLedger.Crypto.Gcm
import CardLedger.Crypto.Entropy
import CardLedger.Base64
import CardLedger.Error

/-!
# Sealed values

Card numbers are stored sealed: the text's UTF-8 bytes are encrypted with AES-256-GCM under a
fresh twelve-byte nonce, and the stored `Blob` is the Base64 text of nonce, ciphertext and tag.
A `Sealer` holds the key schedule of one 32-byte key.

Opening reports three failures apart: a blob that is not Base64 or is shorter than a nonce is
malformed; a tag that does not match means a wrong key or a damaged blob; and the opened bytes
must be UTF-8.
-/

namespace CardLedger

/-- The stored text of a sealed value. -/
structure Blob where
  text : String
deriving DecidableEq, Hashable

def Blob.debugText (b : Blob) : String :=
  "EncryptedBlob(" ++ toString b.text.utf8ByteSize ++ " chars)"

/-- A prepared 32-byte key. -/
structure Sealer where
  roundKeys : Array UInt8

namespace Sealer

def keyLength : Nat := 32

def nonceLength : Nat := 12

/-- Prepares a key, which must be exactly 32 bytes. -/
def ofKey (key : List UInt8) : Outcome Sealer :=
  if key.length = keyLength then .ok ⟨Aes.schedule key.toArray⟩
  else .error (.configuration
    ("Encryption key must be 32 bytes, got " ++ toString key.length))

def debugText (_ : Sealer) : String := "CardCipher { .. }"

def sealWithNonce (s : Sealer) (nonce : List UInt8) (plaintext : String) : Option Blob :=
  if plaintext.isEmpty then none
  else some ⟨Base64.encode (nonce ++ Gcm.encrypt s.roundKeys nonce plaintext.toUTF8.toList)⟩

/-- Seals a text under a nonce drawn from the random source. -/
def sealFresh (s : Sealer) (plaintext : String) (e : Entropy) : Option Blob × Entropy :=
  if plaintext.isEmpty then (none, e)
  else
    let (nonce, e) := Entropy.bytes nonceLength e
    (s.sealWithNonce nonce plaintext, e)

def malformed : CardError := .cryptoFailure "malformed encrypted value"

/-- Opens the raw bytes `nonce ‖ ciphertext ‖ tag`. -/
def openBytes (s : Sealer) (data : List UInt8) : Outcome String :=
  if data.length < nonceLength then .error malformed
  else
    match Gcm.decrypt s.roundKeys (data.take nonceLength) (data.drop nonceLength) with
    | none => .error (.cryptoFailure "wrong key or corrupted ciphertext")
    | some bytes =>
      match String.fromUTF8? (ByteArray.mk bytes.toArray) with
      | some text => .ok text
      | none => .error (.cryptoFailure "decrypted value is not UTF-8")

/-- Opens a stored blob. -/
def openBlob (s : Sealer) (blob : Blob) : Outcome String :=
  match Base64.decode? blob.text with
  | none => .error malformed
  | some data => s.openBytes data

end Sealer

end CardLedger
