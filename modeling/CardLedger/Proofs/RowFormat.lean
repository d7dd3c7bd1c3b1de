import CardLedger.Proofs.JsonValues
import CardLedger.Proofs.ExpiryText
import CardLedger.Proofs.DecimalText
import CardLedger.Proofs.UuidText
import CardLedger.Proofs.OptimisticWrites
import CardLedger.Record.Json

/-!
# The stored row format

A row is stored as the JSON object `{"id":…,"owner":…,"number":…,"expiry":…,"status":…,
"balance":…,"version":…}`. Each member reads back as the field it was written from: identifiers
through their grouped text, the expiry as `MM/YY`, the status by its name, the balance as a
decimal that checks as the same balance, and the version as a number. So the text of a row whose
version fits 64 bits reads back as that row (`Record.ofJsonText_toJsonText`). Identifiers,
balances, statuses, expiries and sealed numbers need no escape, so each stands in the text as it
is (`Record.toJsonText_eq`).

A card is stored by sealing its number: the sealed number opens, under the same key, to the
number's text, so the first row of a valid card opens to the card at version 1; a row whose
number opens to a text that is no card number is reported as corrupt, naming the card.
-/

namespace CardLedger

open Json

theorem Record.idOf_toText (u : Uuid) : Record.idOf u.toText = .ok u := by
  rw [Record.idOf, Uuid.parse_toText]

theorem Json.variantOf_statusVariants (s : Status) : variantOf statusVariants s.name = .ok s := by
  cases s <;> rfl

namespace Json.Reads

theorem readBalance_quote (b : Balance) (rest : List Char) :
    Reads readBalance ((quote b.toText).toList ++ rest) b rest := by
  obtain ⟨d, read, checked⟩ := Balance.read?_toText b
  have decoded : Decimal.ofScalar (.str b.toText) = .ok d := by
    simp only [Decimal.ofScalar, read]
  apply (readAny_quote decoded rest).bind
  rw [checked]
  exact Reads.pure b rest

end Json.Reads

/-! ## Texts written as they are -/

theorem Uuid.hexDigit_plain : ∀ d < 16, Plain (Uuid.hexDigit d) := by decide

theorem Uuid.toText_plain (u : Uuid) : ∀ c ∈ u.toText.toList, Plain c := by
  intro c member
  rcases Uuid.mem_toText member with hyphen | ⟨d, small, rfl⟩
  · rw [hyphen]
    decide
  · exact Uuid.hexDigit_plain d small

theorem Balance.toText_plain (b : Balance) : ∀ c ∈ b.toText.toList, Plain c := by
  intro c member
  rcases Balance.mem_toText member with point | digit
  · rw [point]
    decide
  · exact plain_of_isDigit digit

theorem Base64.mem_encodeChars {bytes : List UInt8} {c : Char}
    (member : c ∈ Base64.encodeChars bytes) : c = '=' ∨ ∃ v < 64, c = Base64.symbol v := by
  fun_induction Base64.encodeChars bytes with
  | case1 => cases member
  | case2 a n | case3 a b n =>
    -- the last one or two bytes: symbols, then padding
    simp only [List.mem_cons, List.not_mem_nil, or_false] at member
    rcases member with same | same | same | same
    all_goals first | exact .inl same | exact .inr ⟨_, Nat.mod_lt _ (by decide), same⟩
  | case4 a b c' rest n induction =>
    simp only [List.mem_cons] at member
    rcases member with same | same | same | same | later
    all_goals first | exact .inr ⟨_, Nat.mod_lt _ (by decide), same⟩ | exact induction later

theorem Base64.symbol_plain : ∀ v < 64, Plain (Base64.symbol v) := by decide

theorem Base64.encode_plain (bytes : List UInt8) : ∀ c ∈ (Base64.encode bytes).toList, Plain c := by
  intro c member
  rw [Base64.encode, String.toList_ofList] at member
  rcases Base64.mem_encodeChars member with pad | ⟨v, small, rfl⟩
  · rw [pad]
    decide
  · exact Base64.symbol_plain v small

theorem Status.quote_name (s : Status) : quote s.name = "\"" ++ s.name ++ "\"" := by
  cases s <;> decide

namespace Record

theorem toList_toJsonText (r : Record) : r.toJsonText.toList =
    '{' :: ((quote "id").toList ++ ':' :: ((quote r.id.toText).toList ++
      ',' :: ((quote "owner").toList ++ ':' :: ((quote r.owner.toText).toList ++
      ',' :: ((quote "number").toList ++ ':' :: ((quote r.number.text).toList ++
      ',' :: ((quote "expiry").toList ++ ':' :: ((quote r.expiry.toText).toList ++
      ',' :: ((quote "status").toList ++ ':' :: ((quote r.status.name).toList ++
      ',' :: ((quote "balance").toList ++ ':' :: ((quote r.balance.toText).toList ++
      ',' :: ((quote "version").toList ++ ':' :: ((toString r.version).toList ++
      ['}'])))))))))))))) := by
  simp [toJsonText, toJson, JsonValue.compact, JsonValue.compactMembers, String.toList_append,
    JsonNumber.text]

theorem toJsonText_eq (r : Record) (plainNumber : ∀ c ∈ r.number.text.toList, Plain c) :
    r.toJsonText = "\x7b\"id\":\"" ++ r.id.toText ++ "\",\"owner\":\"" ++ r.owner.toText ++
      "\",\"number\":\"" ++ r.number.text ++ "\",\"expiry\":\"" ++ r.expiry.toText ++
      "\",\"status\":\"" ++ r.status.name ++ "\",\"balance\":\"" ++ r.balance.toText ++
      "\",\"version\":" ++ toString r.version ++ "\x7d" := by
  have expiry : quote r.expiry.toText = "\"" ++ r.expiry.toText ++ "\"" :=
    Expiry.toJsonText_eq r.expiry
  rw [← String.toList_inj, toList_toJsonText, quote_of_plain r.id.toText_plain,
    quote_of_plain r.owner.toText_plain, quote_of_plain plainNumber, expiry,
    Status.quote_name, quote_of_plain r.balance.toText_plain]
  simp [String.toList_append, quote, escapeChar]

theorem toJsonText_ofCard (c : Card) (blob : Blob)
    (plainNumber : ∀ ch ∈ blob.text.toList, Plain ch) :
    (ofCard c blob).toJsonText =
      "\x7b\"id\":\"" ++ c.id.toText ++ "\",\"owner\":\"" ++ c.owner.toText ++
      "\",\"number\":\"" ++ blob.text ++ "\",\"expiry\":\"" ++ c.expiry.toText ++
      "\",\"status\":\"" ++ c.status.name ++ "\",\"balance\":\"" ++ c.balance.toText ++
      "\",\"version\":1\x7d" := by
  rw [toJsonText_eq _ plainNumber, ← String.toList_inj]
  simp [ofCard, String.toList_append]
  decide

namespace Text

variable {fuel : Nat} {d d' d'' : Draft} {t u v w : List Char}

theorem reads_readMembers_member {first : Bool} {k : String}
    (key : Reads (nextKey first) t (some k) (':' :: u)) (known : fieldNames.contains k = true)
    (fresh : d.has k = false) (field : Reads (readField d k) u d' v)
    (more : Reads (readMembers fuel false d') v d'' w) :
    Reads (readMembers (fuel + 1) first d) t d'' w := by
  unfold readMembers
  apply key.bind
  simp only [known, fresh, if_true, Bool.false_eq_true, if_false]
  exact (Reads.colon_reads u).bind (field.bind more)

theorem reads_readMembers_close (rest : List Char) :
    Reads (readMembers (fuel + 1) false d) ('}' :: rest) d ('}' :: rest) := by
  unfold readMembers
  exact (Reads.nextKey_close rest).bind (Reads.pure d _)

theorem reads_members (r : Record) (fits : r.version ≤ maxUnsigned) (rest : List Char) :
    Reads (do let d ← readMembers (fuel + 8) true {}; decoded d.finish)
      ((quote "id").toList ++ ':' :: ((quote r.id.toText).toList ++
      ',' :: ((quote "owner").toList ++ ':' :: ((quote r.owner.toText).toList ++
      ',' :: ((quote "number").toList ++ ':' :: ((quote r.number.text).toList ++
      ',' :: ((quote "expiry").toList ++ ':' :: ((quote r.expiry.toText).toList ++
      ',' :: ((quote "status").toList ++ ':' :: ((quote r.status.name).toList ++
      ',' :: ((quote "balance").toList ++ ':' :: ((quote r.balance.toText).toList ++
      ',' :: ((quote "version").toList ++ ':' :: ((toString r.version).toList ++
      '}' :: rest)))))))))))))) r ('}' :: rest) := by
  have ending : NumberEnd ('}' :: rest) := fun ch head => by
    cases head
    exact ⟨rfl, by decide, by decide, by decide⟩
  apply Reads.bind (u := '}' :: rest)
  apply reads_readMembers_member (Reads.nextKey_first "id" _) rfl rfl
    ((Reads.readString_quote idExpecting (idOf_toText r.id) _).bind (Reads.pure _ _))
  apply reads_readMembers_member (Reads.nextKey_next "owner" _) rfl rfl
    ((Reads.readString_quote idExpecting (idOf_toText r.owner) _).bind (Reads.pure _ _))
  apply reads_readMembers_member (Reads.nextKey_next "number" _) rfl rfl
    ((Reads.readString_quote "a string" rfl _).bind (Reads.pure _ _))
  apply reads_readMembers_member (Reads.nextKey_next "expiry" _) rfl rfl
    ((Expiry.reads_readExpiry r.expiry _).bind (Reads.pure _ _))
  apply reads_readMembers_member (Reads.nextKey_next "status" _) rfl rfl
    ((Reads.readEnum_quote (variantOf_statusVariants r.status) _).bind (Reads.pure _ _))
  apply reads_readMembers_member (Reads.nextKey_next "balance" _) rfl rfl
    ((Reads.readBalance_quote r.balance _).bind (Reads.pure _ _))
  apply reads_readMembers_member (Reads.nextKey_next "version" _) rfl rfl
    ((Reads.readUnsigned_toString fits ending).bind (Reads.pure _ _))
  · exact reads_readMembers_close rest
  -- the draft is complete and finishes as the row
  exact Reads.pure r _

theorem reads_readRecord (r : Record) (fits : r.version ≤ maxUnsigned) :
    Reads readRecord r.toJsonText.toList r [] := by
  rw [toList_toJsonText]
  unfold readRecord
  apply Reads.placed
  apply (Reads.peekValue (noBlankHead_cons rfl _)).bind
  apply (Reads.eat _ _).bind
  refine Reads.bind (Reads.onFailure _ (Reads.bind_get fun c reached => ?_))
    ((Reads.closeObject_reads []).bind (Reads.pure r []))
  -- the members are read with one step of fuel for each character left, at least eight
  obtain ⟨fuel, enough⟩ : ∃ fuel, c.rest.length + 1 = fuel + 8 :=
    ⟨c.rest.length - 7, by rw [reached]; simp; omega⟩
  rw [enough]
  exact reads_members r fits []

end Text

theorem ofJsonText_toJsonText (r : Record) (fits : r.version ≤ maxUnsigned) :
    ofJsonText r.toJsonText = .ok r :=
  run_of_reads (Text.reads_readRecord r fits)

theorem openWith_corrupt {k : Sealer} {r : Record} {text : String} {err : CardError}
    (opens : k.openBlob r.number = .ok text) (invalid : CardNumber.parse text = .error err) :
    r.openWith k =
      .error (.cryptoFailure ("stored number of card " ++ r.id.toText ++ " is corrupt")) := by
  simp only [openWith, opens, bind, Except.bind, invalid]

end Record

theorem CardNumber.text_ne_empty {text : String} {n : CardNumber}
    (valid : CardNumber.parse text = .ok n) : text ≠ "" := by
  rintro rfl
  exact absurd ((CardNumber.parse_ok_iff _ _).mp valid).1 (by decide)

theorem Sealer.sealFresh_opens (k : Sealer) {text : String} (nonempty : text ≠ "") (e : Entropy) :
    ∃ blob, (k.sealFresh text e).1 = some blob ∧ k.openBlob blob = .ok text ∧
      ∃ bytes, blob.text = Base64.encode bytes := by
  have notEmpty : text.isEmpty = false := by
    cases empty : text.isEmpty
    · rfl
    · exact absurd (String.isEmpty_iff.mp empty) nonempty
  obtain ⟨blob, sealed⟩ :
      ∃ blob, k.sealWithNonce (Entropy.bytes nonceLength e).1 text = some blob :=
    ⟨_, if_neg (by simp only [notEmpty, Bool.false_eq_true, not_false_eq_true])⟩
  refine ⟨blob, ?_, openBlob_sealWithNonce k (Entropy.length_bytes _ _) sealed, _,
    congrArg Blob.text (sealWithNonce_eq k sealed)⟩
  simp only [sealFresh, notEmpty, Bool.false_eq_true, if_false]
  exact sealed

/-- The first row of a valid card, its number sealed under a fresh nonce, is written with the
card's texts as they are, and that text reads back as the same row, which opens under the
sealing key to the card at version 1. A row whose number opens to a text that is no card number
is refused as corrupt, naming the card. -/
theorem sealed_row_round_trip (k : Sealer) (c : Card) (e : Entropy)
    (valid : CardNumber.parse c.number.text = .ok c.number) :
    (∃ blob, (k.sealFresh c.number.text e).1 = some blob ∧
      (Record.ofCard c blob).toJsonText =
        "\x7b\"id\":\"" ++ c.id.toText ++ "\",\"owner\":\"" ++ c.owner.toText ++
        "\",\"number\":\"" ++ blob.text ++ "\",\"expiry\":\"" ++ c.expiry.toText ++
        "\",\"status\":\"" ++ c.status.name ++ "\",\"balance\":\"" ++ c.balance.toText ++
        "\",\"version\":1\x7d" ∧
      Record.ofJsonText (Record.ofCard c blob).toJsonText = .ok (Record.ofCard c blob) ∧
      (Record.ofCard c blob).openWith k = .ok { c with version := 1 }) ∧
    ∀ (r : Record) (text : String), k.openBlob r.number = .ok text →
      (∀ n, CardNumber.parse text ≠ .ok n) →
      r.openWith k =
        .error (.cryptoFailure ("stored number of card " ++ r.id.toText ++ " is corrupt")) := by
  obtain ⟨blob, sealed, opens, bytes, encoded⟩ :=
    k.sealFresh_opens (CardNumber.text_ne_empty valid) e
  have plain : ∀ ch ∈ blob.text.toList, Plain ch := by
    rw [encoded]
    exact Base64.encode_plain bytes
  have versionFits : (Record.ofCard c blob).version ≤ maxUnsigned :=
    show 1 ≤ maxUnsigned by decide
  refine ⟨⟨blob, sealed, Record.toJsonText_ofCard c blob plain,
    Record.ofJsonText_toJsonText _ versionFits, Record.openWith_of_opens opens valid⟩,
    fun r text opened invalid => ?_⟩
  cases parsed : CardNumber.parse text with
  | ok n => exact absurd parsed (invalid n)
  | error err => exact Record.openWith_corrupt opened parsed

/-- A card issued with a number that passes the Luhn check, sealed under a 32-byte key, is
stored and read back so. -/
theorem issued_card_row_round_trip :
    let key : List UInt8 := List.replicate 32 7
    let sealer : Sealer := ⟨Aes.schedule key.toArray⟩
    Sealer.ofKey key = .ok sealer ∧
    ∃ c : Card, c = Card.issue Uuid.nil Uuid.nil ⟨"4024000000000905"⟩
        ⟨12, 29, by decide, by decide, by decide⟩ Balance.zero ∧
      CardNumber.parse c.number.text = .ok c.number ∧
      (∃ blob, (sealer.sealFresh c.number.text { word := fun _ => 0 }).1 = some blob ∧
        (Record.ofCard c blob).toJsonText =
          "\x7b\"id\":\"" ++ c.id.toText ++ "\",\"owner\":\"" ++ c.owner.toText ++
          "\",\"number\":\"" ++ blob.text ++ "\",\"expiry\":\"" ++ c.expiry.toText ++
          "\",\"status\":\"" ++ c.status.name ++ "\",\"balance\":\"" ++ c.balance.toText ++
          "\",\"version\":1\x7d" ∧
        Record.ofJsonText (Record.ofCard c blob).toJsonText = .ok (Record.ofCard c blob) ∧
        (Record.ofCard c blob).openWith sealer = .ok { c with version := 1 }) ∧
      ∀ (r : Record) (text : String), sealer.openBlob r.number = .ok text →
        (∀ n, CardNumber.parse text ≠ .ok n) →
        r.openWith sealer =
          .error (.cryptoFailure ("stored number of card " ++ r.id.toText ++ " is corrupt")) := by
  intro key sealer
  have valid : CardNumber.parse "4024000000000905" = .ok ⟨"4024000000000905"⟩ := by decide
  exact ⟨Sealer.ofKey_of_length rfl, _, rfl, valid,
    sealed_row_round_trip sealer _ { word := fun _ => 0 } valid⟩

end CardLedger
