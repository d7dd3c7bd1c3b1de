import CardLedger.Proofs.Issue

/-!
# What opening a blob answers

Each layer of a sealed blob is read back by a reader that accepts exactly what its writer
produces: the Base64 reader accepts exactly the encodings of bytes (`Base64.decode?_eq_some_iff`),
Galois/counter-mode opening accepts exactly the sealings under the nonce and gives back the bytes
sealed (`Gcm.decrypt_eq_some_iff`), and UTF-8 decoding accepts exactly the bytes of a text
(`String.fromUTF8?_eq_some_iff`).

So every byte string falls in one of four classes, and opening names its class
(`Sealer.openBytes_cases`): shorter than a nonce, it is malformed; a nonce followed by bytes that
are no sealing under it is refused as a wrong key or a damaged ciphertext; a nonce followed by
the sealing of bytes that are no text is refused as not UTF-8; and a nonce followed by the sealing
of a text opens to that whole text. A blob whose text is no Base64 encoding at all is malformed
too. Each refusal happens exactly on its class, and a text is answered only for a blob that is
exactly a sealing of it (`Sealer.sealing_layout_and_open_outcomes`).
-/

namespace CardLedger

/-! ## The three readers -/

namespace Base64

theorem decode?_eq_some_iff {text : String} {bytes : List UInt8} :
    decode? text = some bytes ↔ text = encode bytes := by
  constructor
  · intro decoded
    unfold decode? at decoded
    split at decoded
    · split_ifs at decoded with canonical
      obtain rfl := Option.some.inj decoded
      exact canonical.symm
    · cases decoded
  · rintro rfl
    exact decode?_encode bytes

theorem decode?_eq_none_iff {text : String} :
    decode? text = none ↔ ∀ bytes, text ≠ encode bytes := by
  simp only [Option.eq_none_iff_forall_ne_some, ne_eq, decode?_eq_some_iff]

end Base64

namespace Gcm

variable (roundKeys : Array UInt8) (nonce : List UInt8)

@[simp] theorem length_encrypt (plaintext : List UInt8) :
    (encrypt roundKeys nonce plaintext).length = plaintext.length + 16 := by
  rw [encrypt, List.length_append, length_tag, length_applyKeystream _ _ _ _ _ (by omega)]

theorem decrypt_eq_some_iff {sealed plaintext : List UInt8} :
    decrypt roundKeys nonce sealed = some plaintext ↔
      encrypt roundKeys nonce plaintext = sealed := by
  constructor
  · intro opened
    unfold decrypt at opened
    dsimp only at opened
    split_ifs at opened with short tagged
    -- the text is the keystream applied to the body, so sealing it again rebuilds body and tag
    set ciphertext := sealed.take (sealed.length - 16)
    have text := Option.some.inj opened
    have sameLength : plaintext.length = ciphertext.length := by
      rw [← text, length_applyKeystream _ _ _ _ _ (by omega)]
    rw [encrypt, sameLength, ← text, applyKeystream_applyKeystream _ _ _ _ _ (by omega), tagged]
    exact List.take_append_drop _ sealed
  · rintro rfl
    exact decrypt_encrypt roundKeys nonce plaintext

theorem decrypt_eq_none_iff {sealed : List UInt8} :
    decrypt roundKeys nonce sealed = none ↔
      ∀ plaintext, encrypt roundKeys nonce plaintext ≠ sealed := by
  simp only [Option.eq_none_iff_forall_ne_some, ne_eq, decrypt_eq_some_iff]

end Gcm

theorem String.fromUTF8?_eq_some_iff {bytes : ByteArray} {text : String} :
    String.fromUTF8? bytes = some text ↔ text.toByteArray = bytes := by
  constructor
  · intro decoded
    unfold String.fromUTF8? at decoded
    split_ifs at decoded with valid
    obtain rfl := Option.some.inj decoded
    rfl
  · rintro rfl
    simp only [String.fromUTF8?, dif_pos text.isValidUTF8]
    rfl

theorem String.fromUTF8?_mk_eq_some_iff {bytes : List UInt8} {text : String} :
    String.fromUTF8? ⟨bytes.toArray⟩ = some text ↔ text.toUTF8.toList = bytes := by
  rw [String.fromUTF8?_eq_some_iff, String.toUTF8_eq_toByteArray, ByteArray.toList_eq]
  constructor
  · intro same
    rw [same, List.toList_toArray]
  · intro same
    apply ByteArray.ext
    rw [← same, Array.toArray_toList]

theorem String.fromUTF8?_mk_eq_none_iff {bytes : List UInt8} :
    String.fromUTF8? ⟨bytes.toArray⟩ = none ↔ ∀ text : String, text.toUTF8.toList ≠ bytes := by
  simp only [Option.eq_none_iff_forall_ne_some, ne_eq, String.fromUTF8?_mk_eq_some_iff]

theorem String.length_toUTF8_toList (text : String) :
    text.toUTF8.toList.length = text.utf8ByteSize := by
  rw [ByteArray.toList_eq, Array.length_toList]
  rfl

namespace Sealer

variable (s : Sealer) {nonce sealed bytes data : List UInt8} {b : Blob}

/-! ## Opening bytes -/

theorem openBytes_short (short : data.length < nonceLength) :
    s.openBytes data = .error (.cryptoFailure "malformed encrypted value") :=
  if_pos short

theorem nonce_front (sealed : List UInt8) (twelve : nonce.length = nonceLength) :
    ¬ (nonce ++ sealed).length < nonceLength ∧ (nonce ++ sealed).take nonceLength = nonce ∧
      (nonce ++ sealed).drop nonceLength = sealed :=
  ⟨by simp [twelve], List.take_left' twelve, List.drop_left' twelve⟩

theorem openBytes_rejected (twelve : nonce.length = nonceLength)
    (rejected : ∀ plaintext, Gcm.encrypt s.roundKeys nonce plaintext ≠ sealed) :
    s.openBytes (nonce ++ sealed) =
      .error (.cryptoFailure "wrong key or corrupted ciphertext") := by
  obtain ⟨notShort, front, rest⟩ := nonce_front sealed twelve
  rw [openBytes, if_neg notShort, front, rest, (Gcm.decrypt_eq_none_iff _ _).mpr rejected]

theorem openBytes_not_utf8 (twelve : nonce.length = nonceLength)
    (notText : ∀ text : String, text.toUTF8.toList ≠ bytes) :
    s.openBytes (nonce ++ Gcm.encrypt s.roundKeys nonce bytes) =
      .error (.cryptoFailure "decrypted value is not UTF-8") := by
  obtain ⟨notShort, front, rest⟩ := nonce_front (Gcm.encrypt s.roundKeys nonce bytes) twelve
  rw [openBytes, if_neg notShort, front, rest, Gcm.decrypt_encrypt]
  simp only [String.fromUTF8?_mk_eq_none_iff.mpr notText]

theorem openBytes_sealed (twelve : nonce.length = nonceLength) (text : String) :
    s.openBytes (nonce ++ Gcm.encrypt s.roundKeys nonce text.toUTF8.toList) = .ok text := by
  obtain ⟨notShort, front, rest⟩ :=
    nonce_front (Gcm.encrypt s.roundKeys nonce text.toUTF8.toList) twelve
  rw [openBytes, if_neg notShort, front, rest, Gcm.decrypt_encrypt]
  simp only [String.fromUTF8?_mk_eq_some_iff.mpr rfl]

theorem openBytes_cases (data : List UInt8) :
    (data.length < nonceLength ∧
      s.openBytes data = .error (.cryptoFailure "malformed encrypted value")) ∨
    (∃ nonce sealed, nonce.length = nonceLength ∧ data = nonce ++ sealed ∧
      (∀ plaintext, Gcm.encrypt s.roundKeys nonce plaintext ≠ sealed) ∧
      s.openBytes data = .error (.cryptoFailure "wrong key or corrupted ciphertext")) ∨
    (∃ nonce bytes, nonce.length = nonceLength ∧
      data = nonce ++ Gcm.encrypt s.roundKeys nonce bytes ∧
      (∀ text : String, text.toUTF8.toList ≠ bytes) ∧
      s.openBytes data = .error (.cryptoFailure "decrypted value is not UTF-8")) ∨
    (∃ (nonce : List UInt8) (text : String), nonce.length = nonceLength ∧
      data = nonce ++ Gcm.encrypt s.roundKeys nonce text.toUTF8.toList ∧
      s.openBytes data = .ok text) := by
  by_cases short : data.length < nonceLength
  · exact .inl ⟨short, s.openBytes_short short⟩
  have twelve : (data.take nonceLength).length = nonceLength := by simp; omega
  have split : data = data.take nonceLength ++ data.drop nonceLength :=
    (List.take_append_drop _ _).symm
  -- the rest is either refused by its tag or the sealing of some bytes, which are a text or not
  cases opened : Gcm.decrypt s.roundKeys (data.take nonceLength) (data.drop nonceLength) with
  | none =>
    have rejected := (Gcm.decrypt_eq_none_iff _ _).mp opened
    refine .inr (.inl ⟨_, _, twelve, split, rejected, ?_⟩)
    rw [split]
    exact s.openBytes_rejected twelve rejected
  | some bytes =>
    rw [← (Gcm.decrypt_eq_some_iff _ _).mp opened] at split
    cases decoded : String.fromUTF8? ⟨bytes.toArray⟩ with
    | none =>
      have notText := String.fromUTF8?_mk_eq_none_iff.mp decoded
      refine .inr (.inr (.inl ⟨_, _, twelve, split, notText, ?_⟩))
      rw [split]
      exact s.openBytes_not_utf8 twelve notText
    | some text =>
      rw [← String.fromUTF8?_mk_eq_some_iff.mp decoded] at split
      refine .inr (.inr (.inr ⟨_, text, twelve, split, ?_⟩))
      rw [split]
      exact s.openBytes_sealed twelve text

theorem openBytes_eq_malformed_iff :
    s.openBytes data = .error (.cryptoFailure "malformed encrypted value") ↔
      data.length < nonceLength := by
  constructor
  · intro failed
    rcases s.openBytes_cases data with ⟨short, -⟩ | ⟨_, _, -, -, -, out⟩ | ⟨_, _, -, -, -, out⟩ |
      ⟨_, _, -, -, out⟩
    · exact short
    all_goals simp [out] at failed
  · exact s.openBytes_short

theorem openBytes_eq_rejected_iff :
    s.openBytes data = .error (.cryptoFailure "wrong key or corrupted ciphertext") ↔
      ∃ nonce sealed, nonce.length = nonceLength ∧ data = nonce ++ sealed ∧
        ∀ plaintext, Gcm.encrypt s.roundKeys nonce plaintext ≠ sealed := by
  constructor
  · intro failed
    rcases s.openBytes_cases data with ⟨-, out⟩ | ⟨nonce, sealed, twelve, split, rejected, -⟩ |
      ⟨_, _, -, -, -, out⟩ | ⟨_, _, -, -, out⟩
    · simp [out] at failed
    · exact ⟨nonce, sealed, twelve, split, rejected⟩
    all_goals simp [out] at failed
  · rintro ⟨nonce, sealed, twelve, rfl, rejected⟩
    exact s.openBytes_rejected twelve rejected

theorem openBytes_eq_not_utf8_iff :
    s.openBytes data = .error (.cryptoFailure "decrypted value is not UTF-8") ↔
      ∃ nonce bytes, nonce.length = nonceLength ∧
        data = nonce ++ Gcm.encrypt s.roundKeys nonce bytes ∧
        ∀ text : String, text.toUTF8.toList ≠ bytes := by
  constructor
  · intro failed
    rcases s.openBytes_cases data with ⟨-, out⟩ | ⟨_, _, -, -, -, out⟩ |
      ⟨nonce, bytes, twelve, split, notText, -⟩ | ⟨_, _, -, -, out⟩
    · simp [out] at failed
    · simp [out] at failed
    · exact ⟨nonce, bytes, twelve, split, notText⟩
    · simp [out] at failed
  · rintro ⟨nonce, bytes, twelve, rfl, notText⟩
    exact s.openBytes_not_utf8 twelve notText

theorem openBytes_eq_ok_iff {text : String} :
    s.openBytes data = .ok text ↔
      ∃ nonce, nonce.length = nonceLength ∧
        data = nonce ++ Gcm.encrypt s.roundKeys nonce text.toUTF8.toList := by
  constructor
  · intro opened
    rcases s.openBytes_cases data with ⟨-, out⟩ | ⟨_, _, -, -, -, out⟩ | ⟨_, _, -, -, -, out⟩ |
      ⟨nonce, other, twelve, split, out⟩
    · simp [out] at opened
    · simp [out] at opened
    · simp [out] at opened
    · have same : other = text := by simpa [out] using opened
      exact ⟨nonce, twelve, same ▸ split⟩
  · rintro ⟨nonce, twelve, rfl⟩
    exact s.openBytes_sealed twelve text

/-! ## Opening blobs -/

theorem openBlob_of_text (encoded : b.text = Base64.encode data) :
    s.openBlob b = s.openBytes data := by
  rw [openBlob, Base64.decode?_eq_some_iff.mpr encoded]

theorem openBlob_of_not_text (notBase64 : ∀ data, b.text ≠ Base64.encode data) :
    s.openBlob b = .error (.cryptoFailure "malformed encrypted value") := by
  rw [openBlob, Base64.decode?_eq_none_iff.mpr notBase64]
  rfl

theorem openBlob_eq_iff_openBytes {r : Outcome String}
    (notMalformed : r ≠ .error (.cryptoFailure "malformed encrypted value")) :
    s.openBlob b = r ↔ ∃ data, b.text = Base64.encode data ∧ s.openBytes data = r := by
  by_cases canonical : ∃ data, b.text = Base64.encode data
  · obtain ⟨data, encoded⟩ := canonical
    rw [s.openBlob_of_text encoded]
    constructor
    · intro opened
      exact ⟨data, encoded, opened⟩
    · rintro ⟨other, reencoded, opened⟩
      rwa [Base64.encode_injective (encoded.symm.trans reencoded)]
  · rw [s.openBlob_of_not_text fun data encoded => canonical ⟨data, encoded⟩]
    constructor
    · intro same
      exact absurd same.symm notMalformed
    · rintro ⟨data, encoded, -⟩
      exact absurd ⟨data, encoded⟩ canonical

theorem openBlob_eq_malformed_iff :
    s.openBlob b = .error (.cryptoFailure "malformed encrypted value") ↔
      (∀ data, b.text ≠ Base64.encode data) ∨
        ∃ data, b.text = Base64.encode data ∧ data.length < nonceLength := by
  by_cases canonical : ∃ data, b.text = Base64.encode data
  · obtain ⟨data, encoded⟩ := canonical
    rw [s.openBlob_of_text encoded, s.openBytes_eq_malformed_iff]
    constructor
    · intro short
      exact .inr ⟨data, encoded, short⟩
    · rintro (notBase64 | ⟨other, reencoded, short⟩)
      · exact absurd encoded (notBase64 data)
      · rwa [Base64.encode_injective (encoded.symm.trans reencoded)]
  · have notBase64 : ∀ data, b.text ≠ Base64.encode data := fun data encoded =>
      canonical ⟨data, encoded⟩
    simp only [s.openBlob_of_not_text notBase64, true_iff]
    exact .inl notBase64

example (s : Sealer) :
    s.openBlob ⟨"AAAA"⟩ = .error (.cryptoFailure "malformed encrypted value") := by
  rfl

theorem openBlob_eq_rejected_iff :
    s.openBlob b = .error (.cryptoFailure "wrong key or corrupted ciphertext") ↔
      ∃ nonce sealed, nonce.length = nonceLength ∧ b.text = Base64.encode (nonce ++ sealed) ∧
        ∀ plaintext, Gcm.encrypt s.roundKeys nonce plaintext ≠ sealed := by
  rw [s.openBlob_eq_iff_openBytes (by simp)]
  constructor
  · rintro ⟨_, encoded, refused⟩
    obtain ⟨nonce, sealed, twelve, rfl, rejected⟩ := s.openBytes_eq_rejected_iff.mp refused
    exact ⟨nonce, sealed, twelve, encoded, rejected⟩
  · rintro ⟨nonce, sealed, twelve, encoded, rejected⟩
    exact ⟨_, encoded, s.openBytes_rejected twelve rejected⟩

theorem openBlob_short_sealed (twelve : nonce.length = nonceLength) (short : sealed.length < 16) :
    s.openBlob ⟨Base64.encode (nonce ++ sealed)⟩ =
      .error (.cryptoFailure "wrong key or corrupted ciphertext") := by
  have rejected : ∀ plaintext, Gcm.encrypt s.roundKeys nonce plaintext ≠ sealed := by
    intro plaintext same
    have longer := congrArg List.length same
    rw [Gcm.length_encrypt] at longer
    omega
  have encoded : (⟨Base64.encode (nonce ++ sealed)⟩ : Blob).text =
      Base64.encode (nonce ++ sealed) := rfl
  rw [s.openBlob_of_text encoded, s.openBytes_rejected twelve rejected]

example (s : Sealer) :
    s.openBlob ⟨"AAAAAAAAAAAAAAAA"⟩ = .error (.cryptoFailure "wrong key or corrupted ciphertext") := by
  have encoded : "AAAAAAAAAAAAAAAA" = Base64.encode (List.replicate 12 0 ++ []) := by decide
  rw [encoded]
  exact s.openBlob_short_sealed (by decide) (by decide)

theorem openBlob_eq_not_utf8_iff :
    s.openBlob b = .error (.cryptoFailure "decrypted value is not UTF-8") ↔
      ∃ nonce bytes, nonce.length = nonceLength ∧
        b.text = Base64.encode (nonce ++ Gcm.encrypt s.roundKeys nonce bytes) ∧
        ∀ text : String, text.toUTF8.toList ≠ bytes := by
  rw [s.openBlob_eq_iff_openBytes (by simp)]
  constructor
  · rintro ⟨_, encoded, refused⟩
    obtain ⟨nonce, bytes, twelve, rfl, notText⟩ := s.openBytes_eq_not_utf8_iff.mp refused
    exact ⟨nonce, bytes, twelve, encoded, notText⟩
  · rintro ⟨nonce, bytes, twelve, encoded, notText⟩
    exact ⟨_, encoded, s.openBytes_not_utf8 twelve notText⟩

theorem openBlob_eq_ok_iff {text : String} :
    s.openBlob b = .ok text ↔
      ∃ nonce, nonce.length = nonceLength ∧
        b.text = Base64.encode (nonce ++ Gcm.encrypt s.roundKeys nonce text.toUTF8.toList) := by
  rw [s.openBlob_eq_iff_openBytes (by simp)]
  constructor
  · rintro ⟨_, encoded, opened⟩
    obtain ⟨nonce, twelve, rfl⟩ := s.openBytes_eq_ok_iff.mp opened
    exact ⟨nonce, twelve, encoded⟩
  · rintro ⟨nonce, twelve, encoded⟩
    exact ⟨_, encoded, s.openBytes_sealed twelve text⟩

/-! ## Keys and sealing -/

theorem ofKey_eq_error_iff (key : List UInt8) (err : CardError) :
    ofKey key = .error err ↔ key.length ≠ keyLength ∧
      err = .configuration ("Encryption key must be 32 bytes, got " ++ toString key.length) := by
  unfold ofKey
  split_ifs with fits
  · simp [fits]
  · simp [fits, eq_comm]

theorem sealWithNonce_empty (nonce : List UInt8) : s.sealWithNonce nonce "" = none := rfl

theorem sealFresh_fst (text : String) (e : Entropy) :
    (s.sealFresh text e).1 = s.sealWithNonce (Entropy.bytes nonceLength e).1 text := by
  unfold sealFresh sealWithNonce
  split_ifs <;> rfl

theorem sealWithNonce_layout (nonce : List UInt8) {text : String} (nonEmpty : text ≠ "") :
    ∃ blob ciphertext, s.sealWithNonce nonce text = some blob ∧
      blob.text = Base64.encode (nonce ++ ciphertext ++ Gcm.tag s.roundKeys nonce ciphertext) ∧
      ciphertext.length = text.utf8ByteSize := by
  have notEmpty : text.isEmpty = false := by
    cases empty : text.isEmpty
    · rfl
    · exact absurd (String.isEmpty_iff.mp empty) nonEmpty
  refine ⟨_, _, if_neg (by simp [notEmpty]), by rw [List.append_assoc]; rfl, ?_⟩
  rw [Gcm.length_applyKeystream _ _ _ _ _ (by omega), String.length_toUTF8_toList]

end Sealer

/-- Sealing and opening card numbers. A key is accepted exactly when it has 32 bytes. A
non-empty text sealed under a twelve-byte nonce is the Base64 text of the nonce, a ciphertext
as long as the text's UTF-8 bytes and the sixteen-byte tag, so it decodes to
`12 + bytes + 16` bytes, and it opens to the text; the empty text is not sealed, and a fresh seal
uses the next twelve drawn bytes as its nonce. Galois/counter-mode opening accepts exactly the
sealings and gives back what was sealed. Opening a blob refuses it in the first layer that
fails, with that layer's message: as malformed exactly when it is no Base64 text of at least a
nonce; as a wrong key or damaged ciphertext exactly when what follows the nonce is no sealing
under it, so always when it is shorter than a tag; as not UTF-8 exactly when it seals bytes
that are no text. It answers a text only for a blob that is exactly a sealing of that whole
text. -/
theorem Sealer.sealing_layout_and_open_outcomes :
    (∀ key err, Sealer.ofKey key = .error err ↔ key.length ≠ Sealer.keyLength ∧
      err = .configuration ("Encryption key must be 32 bytes, got " ++ toString key.length)) ∧
    (∀ (s : Sealer) (nonce : List UInt8) (text : String),
      nonce.length = Sealer.nonceLength → text ≠ "" →
      ∃ blob ciphertext, s.sealWithNonce nonce text = some blob ∧
        blob.text = Base64.encode (nonce ++ ciphertext ++ Gcm.tag s.roundKeys nonce ciphertext) ∧
        ciphertext.length = text.utf8ByteSize ∧
        (Base64.decode? blob.text).map List.length =
          some (Sealer.nonceLength + text.utf8ByteSize + 16) ∧
        s.openBlob blob = .ok text) ∧
    (∀ (s : Sealer) nonce, s.sealWithNonce nonce "" = none) ∧
    (∀ (s : Sealer) text e,
      (s.sealFresh text e).1 = s.sealWithNonce (Entropy.bytes Sealer.nonceLength e).1 text ∧
      (Entropy.bytes Sealer.nonceLength e).1.length = Sealer.nonceLength) ∧
    (∀ roundKeys nonce sealed plaintext, Gcm.decrypt roundKeys nonce sealed = some plaintext ↔
      Gcm.encrypt roundKeys nonce plaintext = sealed) ∧
    (∀ (s : Sealer) b, s.openBlob b = .error (.cryptoFailure "malformed encrypted value") ↔
      (∀ data, b.text ≠ Base64.encode data) ∨
        ∃ data, b.text = Base64.encode data ∧ data.length < Sealer.nonceLength) ∧
    (∀ (s : Sealer) b,
      s.openBlob b = .error (.cryptoFailure "wrong key or corrupted ciphertext") ↔
        ∃ nonce sealed, nonce.length = Sealer.nonceLength ∧
          b.text = Base64.encode (nonce ++ sealed) ∧
          ∀ plaintext, Gcm.encrypt s.roundKeys nonce plaintext ≠ sealed) ∧
    (∀ (s : Sealer) nonce sealed, nonce.length = Sealer.nonceLength → sealed.length < 16 →
      s.openBlob ⟨Base64.encode (nonce ++ sealed)⟩ =
        .error (.cryptoFailure "wrong key or corrupted ciphertext")) ∧
    (∀ (s : Sealer) b, s.openBlob b = .error (.cryptoFailure "decrypted value is not UTF-8") ↔
      ∃ nonce bytes, nonce.length = Sealer.nonceLength ∧
        b.text = Base64.encode (nonce ++ Gcm.encrypt s.roundKeys nonce bytes) ∧
        ∀ text : String, text.toUTF8.toList ≠ bytes) ∧
    (∀ (s : Sealer) b text, s.openBlob b = .ok text ↔
      ∃ nonce, nonce.length = Sealer.nonceLength ∧
        b.text = Base64.encode (nonce ++ Gcm.encrypt s.roundKeys nonce text.toUTF8.toList)) := by
  refine ⟨Sealer.ofKey_eq_error_iff, ?_, Sealer.sealWithNonce_empty,
    fun s text e => ⟨s.sealFresh_fst text e, Entropy.length_bytes _ _⟩,
    fun roundKeys nonce _ _ => Gcm.decrypt_eq_some_iff roundKeys nonce,
    fun s _ => s.openBlob_eq_malformed_iff, fun s _ => s.openBlob_eq_rejected_iff,
    fun s _ _ twelve short => s.openBlob_short_sealed twelve short,
    fun s _ => s.openBlob_eq_not_utf8_iff, fun s _ _ => s.openBlob_eq_ok_iff⟩
  intro s nonce text twelve nonEmpty
  obtain ⟨blob, ciphertext, sealed, encoded, sameLength⟩ := s.sealWithNonce_layout nonce nonEmpty
  have decodedLength : (Base64.decode? blob.text).map List.length =
      some (Sealer.nonceLength + text.utf8ByteSize + 16) := by
    rw [encoded, Base64.decode?_encode]
    simp only [Option.map_some, List.length_append, Gcm.length_tag, twelve, sameLength]
  exact ⟨blob, ciphertext, sealed, encoded, sameLength, decodedLength,
    s.openBlob_sealWithNonce twelve sealed⟩

end CardLedger
