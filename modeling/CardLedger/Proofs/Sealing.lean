import Mathlib
import CardLedger.Crypto.Sealer

/-!
# Opening what was sealed

A sealed value opens to the text it was made from. Each layer undoes its own encoding: the
Base64 reader gives back the bytes of any encoding, the counter-mode keystream applied twice is
the identity and the tag of an untouched ciphertext matches, and the UTF-8 bytes of a text
decode to the text. The nonce a blob was sealed under is read back from the blob, so two blobs
sealed under different nonces are different blobs.
-/

namespace CardLedger

/-! ## Base64 -/

namespace Base64

theorem value?_symbol : ∀ v < 64, value? (symbol v) = some v := by decide

theorem symbol_ne_pad : ∀ v < 64, symbol v ≠ '=' := by decide

private theorem value?_symbol_mod (v : Nat) : value? (symbol (v % 64)) = some (v % 64) :=
  value?_symbol _ (Nat.mod_lt _ (by decide))

private theorem symbol_mod_ne_pad (v : Nat) : symbol (v % 64) ≠ '=' :=
  symbol_ne_pad _ (Nat.mod_lt _ (by decide))

private theorem toUInt8_of_eq {k : Nat} {a : UInt8} (h : k = a.toNat) : k.toUInt8 = a := by
  subst h
  exact UInt8.ofNat_toNat

theorem decodeChars_encodeChars (bytes : List UInt8) :
    decodeChars (encodeChars bytes) = some bytes := by
  fun_induction encodeChars bytes with
  | case1 => rfl
  | case2 a =>
    have ha := a.toNat_lt
    rw [decodeChars.eq_2]
    simp only [value?_symbol_mod, Option.bind_eq_bind, Option.bind_some, Option.pure_def,
      Option.some.injEq, List.cons.injEq, and_true]
    exact toUInt8_of_eq (by omega)
  | case3 a b =>
    have ha := a.toNat_lt
    have hb := b.toNat_lt
    rw [decodeChars.eq_3 _ _ _ (symbol_mod_ne_pad _)]
    simp only [value?_symbol_mod, Option.bind_eq_bind, Option.bind_some, Option.pure_def,
      Option.some.injEq, List.cons.injEq, and_true]
    exact ⟨toUInt8_of_eq (by omega), toUInt8_of_eq (by omega)⟩
  | case4 a b c rest _ decoded =>
    have ha := a.toNat_lt
    have hb := b.toNat_lt
    have hc := c.toNat_lt
    rw [decodeChars.eq_4 _ _ _ _ _ (fun _ pad _ => symbol_mod_ne_pad _ pad)
      (fun pad _ => symbol_mod_ne_pad _ pad)]
    simp only [value?_symbol_mod, decoded, Option.bind_eq_bind, Option.bind_some,
      Option.pure_def, Option.some.injEq, List.cons.injEq, and_true]
    exact ⟨toUInt8_of_eq (by omega), toUInt8_of_eq (by omega), toUInt8_of_eq (by omega)⟩

theorem decode?_encode (bytes : List UInt8) : decode? (encode bytes) = some bytes := by
  simp [decode?, encode, decodeChars_encodeChars]

theorem encode_injective : Function.Injective encode := by
  intro x y same
  have back := decode?_encode y
  rwa [← same, decode?_encode, Option.some.injEq] at back

end Base64

/-! ## Counter mode and tag -/

theorem Aes.size_encryptBlock (roundKeys block : Array UInt8) :
    (Aes.encryptBlock roundKeys block).size = 16 := by
  simp [Aes.encryptBlock, Aes.addRoundKey]

namespace Gcm

@[simp] theorem length_valueBlock (value : Nat) : (valueBlock value).length = 16 := by
  simp [valueBlock]

@[simp] theorem length_tag (roundKeys : Array UInt8) (nonce ciphertext : List UInt8) :
    (tag roundKeys nonce ciphertext).length = 16 := by
  simp [tag]

private theorem zipWith_xor_cancel :
    ∀ (data pad : List UInt8), data.length ≤ pad.length →
      List.zipWith (· ^^^ ·) (List.zipWith (· ^^^ ·) data pad) pad = data
  | [], _, _ => rfl
  | _ :: _, [], short => absurd short (by simp)
  | x :: data, p :: pad, short => by
    have rest := zipWith_xor_cancel data pad (by simpa using short)
    simp [rest]

theorem applyKeystream_nil (roundKeys : Array UInt8) (nonce : List UInt8) (fuel counter : Nat) :
    applyKeystream roundKeys nonce fuel counter [] = [] := by
  cases fuel <;> rfl

variable (roundKeys : Array UInt8) (nonce : List UInt8)

private abbrev pad (counter : Nat) : List UInt8 :=
  (Aes.encryptBlock roundKeys (counterBlock nonce counter)).toList

private theorem length_pad (counter : Nat) : (pad roundKeys nonce counter).length = 16 := by
  simp [pad, Aes.size_encryptBlock]

theorem length_applyKeystream (fuel counter : Nat) (data : List UInt8)
    (enough : data.length ≤ 16 * fuel) :
    (applyKeystream roundKeys nonce fuel counter data).length = data.length := by
  induction fuel generalizing counter data with
  | zero =>
    have empty : data = [] := List.eq_nil_of_length_eq_zero (by omega)
    simp [empty, applyKeystream]
  | succ fuel induction =>
    cases data with
    | nil => rfl
    | cons x rest =>
      have tail := induction (counter + 1) ((x :: rest).drop 16)
        (by simp only [List.length_drop, List.length_cons] at enough ⊢; omega)
      simp only [applyKeystream, List.isEmpty_cons, Bool.false_eq_true, if_false,
        List.length_append, List.length_zipWith, tail, List.length_take, List.length_drop,
        Array.length_toList, Aes.size_encryptBlock]
      simp only [List.length_cons]
      omega

theorem applyKeystream_applyKeystream (fuel counter : Nat) (data : List UInt8)
    (enough : data.length ≤ 16 * fuel) :
    applyKeystream roundKeys nonce fuel counter
      (applyKeystream roundKeys nonce fuel counter data) = data := by
  induction fuel generalizing counter data with
  | zero =>
    have empty : data = [] := List.eq_nil_of_length_eq_zero (by omega)
    simp [empty, applyKeystream]
  | succ fuel induction =>
    cases data with
    | nil => simp [applyKeystream_nil]
    | cons x rest =>
      -- the first block of the result is the XORed first block, the rest is the tail's keystream
      set head := (x :: rest).take 16 with head_def
      set tail := (x :: rest).drop 16
      have tailFits : tail.length ≤ 16 * fuel := by
        simp only [tail, List.length_drop, List.length_cons] at enough ⊢; omega
      have headLength : head.length = min 16 (rest.length + 1) := by
        simp only [head, List.length_take, List.length_cons]
      set once := List.zipWith (· ^^^ ·) head (pad roundKeys nonce counter)
      have onceLength : once.length = head.length := by
        simp only [once, List.length_zipWith, length_pad]; omega
      set later := applyKeystream roundKeys nonce fuel (counter + 1) tail
      have split : (once ++ later).take 16 = once ∧ (once ++ later).drop 16 = later := by
        by_cases full : head.length = 16
        · simp [onceLength, full]
        · have noTail : tail = [] := by simp [tail]; omega
          have noLater : later = [] := by simp [later, noTail, applyKeystream_nil]
          simp [noLater]
          omega
      have first : applyKeystream roundKeys nonce (fuel + 1) counter (x :: rest) = once ++ later :=
        rfl
      have nonEmpty : (once ++ later).isEmpty = false := by
        have positive : 0 < (once ++ later).length := by
          rw [List.length_append, onceLength, headLength]
          omega
        cases whole : once ++ later with
        | nil => simp [whole] at positive
        | cons _ _ => rfl
      rw [first]
      simp only [applyKeystream, nonEmpty, Bool.false_eq_true, if_false, split.1, split.2]
      rw [zipWith_xor_cancel _ _ (by rw [length_pad]; simp [head]), induction _ _ tailFits]
      exact List.take_append_drop 16 (x :: rest)

theorem decrypt_encrypt (plaintext : List UInt8) :
    decrypt roundKeys nonce (encrypt roundKeys nonce plaintext) = some plaintext := by
  set ciphertext := applyKeystream roundKeys nonce plaintext.length 2 plaintext
  have sameLength : ciphertext.length = plaintext.length :=
    length_applyKeystream _ _ _ _ _ (by omega)
  have sealed : encrypt roundKeys nonce plaintext =
      ciphertext ++ tag roundKeys nonce ciphertext := rfl
  have notShort : ¬ (ciphertext ++ tag roundKeys nonce ciphertext).length < 16 := by simp
  have body : (ciphertext ++ tag roundKeys nonce ciphertext).take
      ((ciphertext ++ tag roundKeys nonce ciphertext).length - 16) = ciphertext := by simp
  have trailer : (ciphertext ++ tag roundKeys nonce ciphertext).drop
      ((ciphertext ++ tag roundKeys nonce ciphertext).length - 16) =
        tag roundKeys nonce ciphertext := by simp
  rw [sealed, decrypt, if_neg notShort]
  simp only [body, trailer, if_true, sameLength]
  rw [applyKeystream_applyKeystream _ _ _ _ _ (by omega)]

end Gcm

/-! ## UTF-8 -/

theorem ByteArray.toList_loop (bytes : ByteArray) (i : Nat) (seen : List UInt8) :
    ByteArray.toList.loop bytes i seen = seen.reverse ++ bytes.data.toList.drop i := by
  fun_induction ByteArray.toList.loop bytes i seen with
  | case1 i seen inside next =>
    rw [next, List.reverse_cons, List.append_assoc]
    have bound : i < bytes.data.toList.length := by
      rw [Array.length_toList, ByteArray.size_data]
      exact inside
    have at_i : bytes.data.toList.drop i = bytes.get! i :: bytes.data.toList.drop (i + 1) := by
      rw [List.drop_eq_getElem_cons bound]
      cases bytes with
      | mk data =>
        have inData : i < data.size := by simpa using bound
        simp [ByteArray.get!, getElem!_pos data i inData]
    rw [at_i, List.singleton_append]
  | case2 i seen outside =>
    have past : bytes.data.toList.length ≤ i := by
      rw [Array.length_toList, ByteArray.size_data]
      omega
    rw [List.drop_eq_nil_of_le past, List.append_nil]

theorem ByteArray.toList_eq (bytes : ByteArray) : bytes.toList = bytes.data.toList := by
  simp [ByteArray.toList, ByteArray.toList_loop]

theorem String.fromUTF8?_toByteArray_toList (text : String) :
    String.fromUTF8? (ByteArray.mk text.toByteArray.toList.toArray) = some text := by
  rw [ByteArray.toList_eq, Array.toArray_toList]
  simp only [String.fromUTF8?]
  rw [dif_pos text.isValidUTF8]
  rfl

/-! ## Sealed blobs -/

def Blob.nonce (blob : Blob) : Option (List UInt8) :=
  (Base64.decode? blob.text).map (·.take Sealer.nonceLength)

namespace Sealer

variable (s : Sealer) {nonce : List UInt8} {text : String} {blob : Blob}

theorem sealWithNonce_eq (sealed : s.sealWithNonce nonce text = some blob) :
    blob = ⟨Base64.encode (nonce ++ Gcm.encrypt s.roundKeys nonce text.toUTF8.toList)⟩ := by
  unfold sealWithNonce at sealed
  split_ifs at sealed
  exact (Option.some.inj sealed).symm

theorem openBlob_sealWithNonce (twelve : nonce.length = nonceLength)
    (sealed : s.sealWithNonce nonce text = some blob) : s.openBlob blob = .ok text := by
  rw [sealWithNonce_eq s sealed]
  have longEnough : ¬ (nonce ++ Gcm.encrypt s.roundKeys nonce text.toUTF8.toList).length <
      nonceLength := by simp [twelve]
  simp only [openBlob, Base64.decode?_encode, openBytes, if_neg longEnough]
  rw [← twelve, List.take_left, List.drop_left, Gcm.decrypt_encrypt]
  simp [String.fromUTF8?_toByteArray_toList]

theorem nonce_sealWithNonce (twelve : nonce.length = nonceLength)
    (sealed : s.sealWithNonce nonce text = some blob) : blob.nonce = some nonce := by
  rw [sealWithNonce_eq s sealed, Blob.nonce, Base64.decode?_encode, ← twelve]
  simp

theorem sealWithNonce_of_ne_empty (nonempty : text ≠ "") :
    s.sealWithNonce nonce text =
      some ⟨Base64.encode (nonce ++ Gcm.encrypt s.roundKeys nonce text.toUTF8.toList)⟩ := by
  simp [sealWithNonce, nonempty]

theorem sealWithNonce_ne {nonce' : List UInt8} {text' : String} {blob' : Blob}
    (twelve : nonce.length = nonceLength) (twelve' : nonce'.length = nonceLength)
    (sealed : s.sealWithNonce nonce text = some blob)
    (sealed' : s.sealWithNonce nonce' text' = some blob') (apart : nonce ≠ nonce') :
    blob ≠ blob' := by
  rintro rfl
  have first := s.nonce_sealWithNonce twelve sealed
  rw [s.nonce_sealWithNonce twelve' sealed', Option.some.injEq] at first
  exact apart first.symm

theorem ofKey_of_length {key : List UInt8} (fits : key.length = keyLength) :
    ofKey key = .ok ⟨Aes.schedule key.toArray⟩ :=
  if_pos fits

end Sealer

end CardLedger
