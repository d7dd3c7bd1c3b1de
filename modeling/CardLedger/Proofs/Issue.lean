import Mathlib
import CardLedger.Proofs.Sealing
import CardLedger.Proofs.Store
import CardLedger.Proofs.EngineSteps
import CardLedger.Proofs.CheckDigit

/-!
# Issuing a card

An issue draws fifteen digits, completes them with their Luhn check digit, seals the number
under a freshly drawn nonce and asks the store whether that blob is already indexed; a blob
that is taken makes it draw again. The store indexes blobs, not numbers, and a fresh nonce
makes a fresh blob: when the nonce is new to the store, the first number drawn is kept whatever
the store holds. So an issue stores a number that a card already holds exactly when its first
draw completes to a held number and its identifier is new (`issueCard_repeats_held_number_iff`).
-/

namespace CardLedger

/-! ## Draws -/

namespace Entropy

@[simp] theorem length_digits (n : Nat) (e : Entropy) : (digits n e).1.length = n := by
  induction n generalizing e with
  | zero => rfl
  | succ n induction => simp [digits, induction]

theorem digits_lt_ten (n : Nat) (e : Entropy) : ∀ d ∈ (digits n e).1, d < 10 := by
  induction n generalizing e with
  | zero => simp [digits]
  | succ n induction =>
    intro d member
    simp only [digits, List.mem_cons] at member
    rcases member with first | later
    · rw [first, UInt64.toNat_mod]
      exact Nat.mod_lt _ (by decide)
    · exact induction _ d later

@[simp] theorem length_bytes (n : Nat) (e : Entropy) : (bytes n e).1.length = n := by
  induction n generalizing e with
  | zero => rfl
  | succ n induction => simp [bytes, induction]

def candidate (e : Entropy) : CardNumber :=
  let ds := (digits 15 e).1
  ⟨Engine.digitText (ds ++ [Luhn.checkDigitOf ds])⟩

def drawnNonce (e : Entropy) : List UInt8 := (bytes Sealer.nonceLength (digits 15 e).2).1

def afterNumber (e : Entropy) : Entropy := (bytes Sealer.nonceLength (digits 15 e).2).2

def drawnId (e : Entropy) : CardId := Uuid.randomV4 (bits128 e.afterNumber).1

end Entropy

/-! ## Digit texts -/

namespace Engine

theorem digitText_append (ds ds' : List Nat) :
    digitText (ds ++ ds') = digitText ds ++ digitText ds' := by
  simp [digitText]

private theorem digitChar_spec : ∀ d < 10,
    (Char.ofNat (48 + d)).isDigit = true ∧ (Char.ofNat (48 + d)).toNat - 48 = d ∧
      (Char.ofNat (48 + d)).utf8Size = 1 ∧ toString d = digitText [d] := by
  decide

theorem digits_digitText (ds : List Nat) (small : ∀ d ∈ ds, d < 10) :
    Luhn.digits (digitText ds) = ds := by
  induction ds with
  | nil => rfl
  | cons d ds induction =>
    have first := digitChar_spec d (small d (by simp))
    have rest := induction fun d' member => small d' (by simp [member])
    simp only [Luhn.digits, digitText, String.toList_ofList] at rest ⊢
    simp [first.1, first.2.1, rest]

theorem utf8ByteSize_digitText (ds : List Nat) (small : ∀ d ∈ ds, d < 10) :
    (digitText ds).utf8ByteSize = ds.length := by
  induction ds with
  | nil => rfl
  | cons d ds induction =>
    have first := digitChar_spec d (small d (by simp))
    have rest := induction fun d' member => small d' (by simp [member])
    have split : digitText (d :: ds) = String.singleton (Char.ofNat (48 + d)) ++ digitText ds := by
      rw [← List.singleton_append, digitText_append]
      rfl
    rw [split, String.utf8ByteSize_append, String.utf8ByteSize_singleton, first.2.2.1, rest,
      List.length_cons, Nat.add_comm]

theorem all_isDigit_digitText (ds : List Nat) (small : ∀ d ∈ ds, d < 10) :
    (digitText ds).toList.all Char.isDigit = true := by
  simp only [digitText, String.toList_ofList, List.all_map, List.all_eq_true]
  intro d member
  exact (digitChar_spec d (small d member)).1

end Engine

/-! ## The candidate number -/

namespace Entropy

theorem candidate_digits_small (e : Entropy) :
    ∀ d ∈ (digits 15 e).1 ++ [Luhn.checkDigitOf (digits 15 e).1], d < 10 := by
  intro d member
  rcases List.mem_append.mp member with drawn | check
  · exact digits_lt_ten 15 e d drawn
  · rw [List.mem_singleton.mp check]
    exact Luhn.checkDigitOf_lt_ten _

theorem complete_digitText (e : Entropy) :
    Luhn.complete (Engine.digitText (digits 15 e).1) = .ok e.candidate.text := by
  have small := digits_lt_ten 15 e
  have check : Luhn.checkDigitOf (digits 15 e).1 < 10 := Luhn.checkDigitOf_lt_ten _
  have nonEmpty : (digits 15 e).1 ≠ [] := by
    intro empty
    simpa [empty] using length_digits 15 e
  simp [Luhn.complete, Luhn.checkDigit, Engine.digits_digitText _ small, nonEmpty, candidate,
    Engine.digitText_append, Except.map, (Engine.digitChar_spec _ check).2.2.2]

theorem parse_candidate (e : Entropy) : CardNumber.parse e.candidate.text = .ok e.candidate := by
  have small := candidate_digits_small e
  rw [CardNumber.parse_ok_iff]
  refine ⟨?_, ?_, rfl⟩
  · simp only [CardNumber.hasDigitShape, candidate, Engine.utf8ByteSize_digitText _ small,
      Engine.all_isDigit_digitText _ small]
    simp [CardNumber.length]
  · have short : (digits 15 e).1.length < Luhn.maxExactDigits := by
      rw [length_digits]
      decide
    rw [Luhn.isValid_iff, candidate, Engine.digits_digitText _ small,
      Luhn.sum_append_mod_ten_iff (digits_lt_ten 15 e) short (Luhn.checkDigitOf_lt_ten _)]
    simp

theorem candidate_isEmpty (e : Entropy) : e.candidate.text.isEmpty = false := by
  have sized : e.candidate.text.utf8ByteSize = 16 := by
    simp only [candidate, Engine.utf8ByteSize_digitText _ (candidate_digits_small e)]
    simp
  rw [String.isEmpty_eq_utf8ByteSize_beq_zero, sized]
  rfl

end Entropy

/-! ## The uniqueness check -/

def Store.HoldsNumber (s : Store) (sealer : Sealer) (number : String) : Prop :=
  ∃ (id : CardId) (r : Record), s.cards[id]? = some r ∧ sealer.openBlob r.number = .ok number

theorem Store.Consistent.hasNumber_of_fresh_nonce {s : Store} (consistent : s.Consistent)
    {sealer : Sealer} {nonce : List UInt8} {text : String} {blob : Blob}
    (twelve : nonce.length = Sealer.nonceLength)
    (sealed : sealer.sealWithNonce nonce text = some blob)
    (fresh : ∀ (id : CardId) (r : Record), s.cards[id]? = some r → r.number.nonce ≠ some nonce) :
    s.hasNumber blob = false := by
  cases indexed : s.numbers[blob]? with
  | none => simp [Store.hasNumber, Std.HashMap.contains_eq_isSome_getElem?, indexed]
  | some id =>
    obtain ⟨r, row, same⟩ := (consistent.indexed blob id).1 indexed
    have reused : r.number.nonce = some nonce := same ▸ sealer.nonce_sealWithNonce twelve sealed
    exact absurd reused (fresh id r row)

namespace Engine

theorem exec_drawNumber {σ : Type} [CardRepository σ] (eng : Engine σ) :
    ∃ blob, eng.sealer.sealWithNonce eng.entropy.drawnNonce eng.entropy.candidate.text = some blob ∧
      exec (drawNumber : EngineM σ _) eng =
        (.ok (eng.entropy.candidate, blob), { eng with entropy := eng.entropy.afterNumber }) := by
  have nonEmpty := eng.entropy.candidate_isEmpty
  cases sealed : eng.sealer.sealWithNonce eng.entropy.drawnNonce eng.entropy.candidate.text with
  | none => simp [Sealer.sealWithNonce, nonEmpty] at sealed
  | some blob =>
    refine ⟨blob, rfl, ?_⟩
    have fresh : eng.sealer.sealFresh eng.entropy.candidate.text (Entropy.digits 15 eng.entropy).2 =
        (some blob, eng.entropy.afterNumber) := by
      simp only [Sealer.sealFresh, nonEmpty, Bool.false_eq_true, if_false]
      rw [← sealed]
      rfl
    simp [drawNumber, exec_bind, Entropy.complete_digitText, Entropy.parse_candidate, fresh]

theorem exec_newCardId {σ : Type} (eng : Engine σ) :
    exec (newCardId : EngineM σ _) eng =
      (.ok (Uuid.randomV4 (Entropy.bits128 eng.entropy).1),
        { eng with entropy := (Entropy.bits128 eng.entropy).2 }) := by
  simp [newCardId]

section PlainStore

variable (eng : Engine Store)

theorem exec_generate_of_fresh_nonce (attempts : eng.config.maxGenerationAttempts ≠ 0)
    (consistent : eng.store.Consistent)
    (fresh : ∀ (id : CardId) (r : Record), eng.store.cards[id]? = some r →
      r.number.nonce ≠ some eng.entropy.drawnNonce) :
    ∃ blob, eng.sealer.sealWithNonce eng.entropy.drawnNonce eng.entropy.candidate.text = some blob ∧
      exec (generate : EngineM Store _) eng =
        (.ok (eng.entropy.candidate, blob), { eng with entropy := eng.entropy.afterNumber }) := by
  obtain ⟨blob, sealed, drawn⟩ := exec_drawNumber eng
  have unused := consistent.hasNumber_of_fresh_nonce (Entropy.length_bytes _ _) sealed fresh
  obtain ⟨more, counted⟩ := Nat.exists_eq_succ_of_ne_zero attempts
  refine ⟨blob, sealed, ?_⟩
  simp [generate, generateFrom, exec_bind, counted, drawn, unused]

theorem exec_issueCard_of_fresh_nonce (who : Identity) (owner : OwnerId) (expiry : Expiry)
    (opening : Balance) (admin : who.isAdmin = true)
    (attempts : eng.config.maxGenerationAttempts ≠ 0) (consistent : eng.store.Consistent)
    (fresh : ∀ (id : CardId) (r : Record), eng.store.cards[id]? = some r →
      r.number.nonce ≠ some eng.entropy.drawnNonce) :
    ∃ blob, eng.sealer.sealWithNonce eng.entropy.drawnNonce eng.entropy.candidate.text = some blob ∧
      exec (issueCard who owner expiry opening) eng =
        match eng.store.insert
            (Card.issue eng.entropy.drawnId owner eng.entropy.candidate expiry opening) blob with
        | .ok (card, s') =>
          (.ok card,
            { eng with store := s', entropy := (Entropy.bits128 eng.entropy.afterNumber).2 })
        | .error e =>
          (.error e, { eng with entropy := (Entropy.bits128 eng.entropy.afterNumber).2 }) := by
  obtain ⟨blob, sealed, generated⟩ := exec_generate_of_fresh_nonce eng attempts consistent fresh
  refine ⟨blob, sealed, ?_⟩
  have drawnId : Uuid.randomV4 (Entropy.bits128 eng.entropy.afterNumber).1 = eng.entropy.drawnId :=
    rfl
  rcases inserted : eng.store.insert
      (Card.issue eng.entropy.drawnId owner eng.entropy.candidate expiry opening) blob
    with e | ⟨card, s'⟩ <;>
  simp [issueCard, exec_bind, Identity.requireAdmin, admin, generated, exec_newCardId, drawnId,
    inserted]

/-- Under the nonces the cipher intends, never used twice, an issue returns a number that a
stored card already holds exactly when the first candidate is held and the drawn identifier is
new: the check on sealed blobs never sees a stored number. -/
theorem issueCard_repeats_held_number_iff (who : Identity) (owner : OwnerId) (expiry : Expiry)
    (opening : Balance) (admin : who.isAdmin = true)
    (attempts : eng.config.maxGenerationAttempts ≠ 0) (consistent : eng.store.Consistent)
    (fresh : ∀ (id : CardId) (r : Record), eng.store.cards[id]? = some r →
      r.number.nonce ≠ some eng.entropy.drawnNonce) :
    (∃ card, (exec (issueCard who owner expiry opening) eng).1 = .ok card ∧
        eng.store.HoldsNumber eng.sealer card.number.text) ↔
      eng.store.HoldsNumber eng.sealer eng.entropy.candidate.text ∧
        eng.entropy.drawnId ∉ eng.store.cards := by
  obtain ⟨blob, sealed, run⟩ :=
    exec_issueCard_of_fresh_nonce eng who owner expiry opening admin attempts consistent fresh
  have unused : eng.store.numbers.contains blob = false :=
    consistent.hasNumber_of_fresh_nonce (Entropy.length_bytes _ _) sealed fresh
  rw [run]
  by_cases taken : eng.entropy.drawnId ∈ eng.store.cards
  · have known : eng.store.cards.contains eng.entropy.drawnId = true :=
      Std.HashMap.mem_iff_contains.mp taken
    simp [Store.insert, Card.issue, unused, known, taken]
  · have unknown : eng.store.cards.contains eng.entropy.drawnId = false :=
      Bool.eq_false_iff.mpr fun known => taken (Std.HashMap.mem_iff_contains.mpr known)
    simp [Store.insert, Card.issue, unused, unknown, taken]


/-- A store holding 4111 1111 1111 1111, sealed under a nonce of twelve ones, and a source whose
first draw completes the same number under a nonce of zeros: the issue repeats the number. -/
theorem issue_repeats_seeded_number :
    let sealer : Sealer := ⟨#[]⟩
    let expiry : Expiry := ⟨12, 30, by decide, by decide, by decide⟩
    let nonce : List UInt8 := List.replicate 12 1
    let held := Card.issue (Uuid.ofNat 1) (Uuid.ofNat 2) ⟨"4111111111111111"⟩ expiry Balance.zero
    let blob : Blob :=
      ⟨Base64.encode (nonce ++ Gcm.encrypt sealer.roundKeys nonce "4111111111111111".toUTF8.toList)⟩
    let eng : Engine Store :=
      { store := { Store.empty sealer with
          numbers := (Store.empty sealer).numbers.insert blob held.id,
          cards := (Store.empty sealer).cards.insert held.id (Record.ofCard held blob) },
        sealer, config := {}, entropy := { word := fun k => if k = 0 then 4 else 1 } }
    ∃ card, (exec (issueCard ⟨Uuid.ofNat 3, .admin⟩ (Uuid.ofNat 2) expiry Balance.zero) eng).1 =
        .ok card ∧ eng.store.HoldsNumber eng.sealer card.number.text := by
  intro sealer expiry nonce held blob eng
  have sealed : sealer.sealWithNonce nonce "4111111111111111" = some blob := by
    simp [Sealer.sealWithNonce, blob]
  have inserted :
      (Store.empty sealer).insert held blob = .ok ({ held with version := 1 }, eng.store) := by
    simp [Store.insert, Store.empty, Record.ofCard, eng]
  have consistent : eng.store.Consistent :=
    Store.Consistent.insert (Store.consistent_empty sealer) inserted
  have onlyRow : ∀ (id : CardId) (r : Record), eng.store.cards[id]? = some r →
      id = held.id ∧ r = Record.ofCard held blob := by
    intro id r found
    simp only [eng, Store.empty, Std.HashMap.getElem?_insert, beq_iff_eq] at found
    split at found
    · rename_i same
      exact ⟨same.symm, (Option.some.inj found).symm⟩
    · simp at found
  have candidate : eng.entropy.candidate = ⟨"4111111111111111"⟩ := by decide
  have drawnNonce : eng.entropy.drawnNonce = List.replicate 12 0 := by decide
  have fresh : ∀ (id : CardId) (r : Record), eng.store.cards[id]? = some r →
      r.number.nonce ≠ some eng.entropy.drawnNonce := by
    intro id r found
    rw [(onlyRow id r found).2, drawnNonce]
    simp [Record.ofCard, sealer.nonce_sealWithNonce rfl sealed, nonce]
  have holds : eng.store.HoldsNumber eng.sealer eng.entropy.candidate.text := by
    refine ⟨held.id, Record.ofCard held blob, by simp [eng, Store.empty], ?_⟩
    rw [candidate]
    exact sealer.openBlob_sealWithNonce rfl sealed
  have newId : eng.entropy.drawnId ∉ eng.store.cards := by
    have differs : eng.entropy.drawnId ≠ held.id := by decide
    simp [eng, Store.empty, Std.HashMap.mem_insert, Ne.symm differs]
  exact (issueCard_repeats_held_number_iff eng _ _ _ _ rfl (by decide) consistent fresh).2
    ⟨holds, newId⟩

end PlainStore

end Engine

end CardLedger
