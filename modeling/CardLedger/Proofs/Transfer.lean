import Mathlib
import CardLedger.Proofs.Store
import CardLedger.Proofs.EngineSteps

/-!
# The transfer contract

On a store whose rows sit under their own identifiers and all open, a transfer answers with the
first failing check of a fixed list and leaves the engine as it was when a check fails:

1. the two cards are the same card;
2. the amount is not above zero, has more than two fractional digits, or passes the largest
   balance;
3. the source is missing or belongs to someone else;
4. the same for the destination;
5. the source is not active;
6. the destination is not active;
7. the source holds less than the amount;
8. the destination would pass the largest balance.

When every check passes the two rows are written together: the source loses the amount, the
destination gains it, both move one version on, and nothing else in the store changes.
`Store.transferContract` states the list over the rows of the store alone, and
`exec_transfer_eq_contract` says that the engine follows it. The rows the engine writes back
carry the versions it has just read, so the pair write cannot fail and no retry ever runs.
-/

namespace CardLedger

def Record.rebalanced (r : Record) (b : Balance) : Record :=
  { r with balance := b, version := Record.nextVersion r.version }

namespace Store

/-- Moving `cents` from `source` to `target`, both of them `owner`'s: the first failing check, or
the store with both rows rewritten. -/
def moveContract (s : Store) (owner : OwnerId) (source target : CardId) (cents : Nat) :
    Outcome Store :=
  match s.ownedRow source owner, s.ownedRow target owner with
  | none, _ => .error (Engine.cardNotFound source)
  | some _, none => .error (Engine.cardNotFound target)
  | some r₁, some r₂ =>
    if r₁.status ≠ .active then
      .error (.operationConflict ("Source card " ++ source.toText ++ " is not active"))
    else if r₂.status ≠ .active then
      .error (.operationConflict ("Destination card " ++ target.toText ++ " is not active"))
    else if r₁.balance.cents < cents then .error (.insufficientFunds source)
    else if fits : r₂.balance.cents + cents ≤ maxCents then
      .ok { s with
        cards := (s.cards.insert source (r₁.rebalanced
          ⟨r₁.balance.cents - cents, Nat.le_trans (Nat.sub_le _ _) r₁.balance.cents_le⟩)).insert
            target (r₂.rebalanced ⟨r₂.balance.cents + cents, fits⟩) }
    else .error .balanceOverflow

/-- A transfer of `amount` between two of `owner`'s cards: the first failing check, or the store
after the move. -/
def transferContract (s : Store) (owner : OwnerId) (source target : CardId) (amount : Decimal) :
    Outcome Store :=
  if source = target then .error (.invalidRequest "Cannot transfer funds to the same card")
  else if amount.le Decimal.zero then .error (.invalidRequest "Transfer amount must be positive")
  else
    match amount.cents? with
    | none =>
      .error (.invalidRequest ("Amount " ++ amount.toText ++ " has more than 2 fractional digits"))
    | some cents =>
      if maxCents < cents then .error .balanceOverflow
      else s.moveContract owner source target cents

end Store

/-! ## Amounts -/

namespace Decimal

theorem mantissa_pos_of_not_le_zero {d : Decimal} (positive : d.le zero = false) :
    0 < d.mantissa ∧ d.negative = false := by
  unfold le Decimal.compare at positive
  have unit : Nat.pow 10 0 = 1 := rfl
  simp only [zero, signedMantissa, Bool.false_eq_true, if_false, Nat.cast_zero, zero_mul, unit,
    Nat.cast_one, mul_one, bne_eq_false_iff_eq, compare_gt_iff_gt] at positive
  cases negative : d.negative with
  | true =>
    simp only [negative, if_true] at positive
    omega
  | false =>
    simp only [negative, Bool.false_eq_true, if_false] at positive
    exact ⟨by exact_mod_cast positive, rfl⟩

theorem stripZeros_mantissa_pos (steps : Nat) {d : Decimal} (positive : 0 < d.mantissa) :
    0 < (stripZeros steps d).mantissa := by
  induction steps generalizing d with
  | zero => exact positive
  | succ steps induction =>
    unfold stripZeros
    split
    · apply induction
      show 0 < d.mantissa / 10
      omega
    · exact positive

theorem cents?_pos {d : Decimal} (positive : d.le zero = false) {cents : Nat}
    (exact : d.cents? = some cents) : 0 < cents := by
  have mantissa := (mantissa_pos_of_not_le_zero positive).1
  unfold Decimal.cents? normalize at exact
  rw [if_neg (Nat.pos_iff_ne_zero.mp mantissa)] at exact
  dsimp only at exact
  split at exact
  · cases exact
    exact Nat.mul_pos (stripZeros_mantissa_pos _ mantissa) (Nat.pow_pos (by decide))
  · cases exact

end Decimal

theorem Amount.ofDecimal_of_cents {d : Decimal} (positive : d.le Decimal.zero = false)
    {cents : Nat} (exact : d.cents? = some cents) (fits : cents ≤ maxCents) :
    ∃ a : Amount, Amount.ofDecimal d = .ok a ∧ a.cents = cents := by
  have pos := Decimal.cents?_pos positive exact
  refine ⟨⟨cents, pos, fits⟩, ?_, rfl⟩
  simp [Amount.ofDecimal, positive, exact, pos, fits]

/-! ## One attempt -/

namespace Store

theorem moveContract_ne_race (s : Store) (owner : OwnerId) (source target : CardId) (cents : Nat)
    (id : CardId) :
    s.moveContract owner source target cents ≠ .error (.concurrentModification id) := by
  unfold moveContract
  split
  · simp [Engine.cardNotFound]
  · simp [Engine.cardNotFound]
  · split_ifs <;> simp

theorem saveBoth_read_back {s : Store} (keyed : s.KeyedById) {source target : CardId}
    (distinct : source ≠ target) {r₁ r₂ : Record} (row₁ : s.cards[source]? = some r₁)
    (row₂ : s.cards[target]? = some r₂) {c₁ c₂ : Card} (mirror₁ : c₁.Mirrors r₁)
    (mirror₂ : c₂.Mirrors r₂) (b₁ b₂ : Balance) :
    ∃ written, s.saveBoth { c₁ with balance := b₁ } { c₂ with balance := b₂ } =
      .ok (written, { s with
        cards := (s.cards.insert source (r₁.rebalanced b₁)).insert target
          (r₂.rebalanced b₂) }) := by
  obtain ⟨id₁, -, -, status₁, -, version₁⟩ := mirror₁
  obtain ⟨id₂, -, -, status₂, -, version₂⟩ := mirror₂
  have key₁ : c₁.id = source := id₁.trans (keyed source r₁ row₁)
  have key₂ : c₂.id = target := id₂.trans (keyed target r₂ row₂)
  have staged₁ : s.staged { c₁ with balance := b₁ } = .ok (r₁.rebalanced b₁) := by
    simp [staged, key₁, row₁, Option.elim, bind, Except.bind, Record.apply, version₁, status₁,
      Record.rebalanced]
  have staged₂ : s.staged { c₂ with balance := b₂ } = .ok (r₂.rebalanced b₂) := by
    simp [staged, key₂, row₂, Option.elim, bind, Except.bind, Record.apply, version₂, status₂,
      Record.rebalanced]
  have rowId₁ : (r₁.rebalanced b₁).id = source := keyed source r₁ row₁
  have rowId₂ : (r₂.rebalanced b₂).id = target := keyed target r₂ row₂
  have differ : (c₁.id == c₂.id) = false := by simp [key₁, key₂, distinct]
  simp [saveBoth, differ, staged₁, staged₂, bind, Except.bind, rowId₁, rowId₂]

end Store

namespace Engine

theorem exec_tryTransfer (eng : Engine Store) (owner : OwnerId) {source target : CardId}
    (amount : Amount) (distinct : source ≠ target) (keyed : eng.store.KeyedById)
    (opens : eng.store.AllOpen) :
    exec (tryTransfer owner source target amount) eng =
      match eng.store.moveContract owner source target amount.cents with
      | .ok s' => (.ok (), { eng with store := s' })
      | .error e => (.error e, eng) := by
  cases ownedSource : eng.store.ownedRow source owner with
  | none =>
    simp [tryTransfer, exec_bind, Store.findByIdAndOwner_eq, ownedSource, Store.moveContract]
  | some r₁ =>
    obtain ⟨c₁, found₁, mirror₁⟩ := Store.findByIdAndOwner_of_owned opens ownedSource
    cases ownedTarget : eng.store.ownedRow target owner with
    | none =>
      simp [tryTransfer, exec_bind, found₁, Store.findByIdAndOwner_eq, ownedTarget,
        Store.moveContract, ownedSource]
    | some r₂ =>
      obtain ⟨c₂, found₂, mirror₂⟩ := Store.findByIdAndOwner_of_owned opens ownedTarget
      obtain ⟨row₁, -⟩ := Store.row_of_ownedRow ownedSource
      obtain ⟨row₂, -⟩ := Store.row_of_ownedRow ownedTarget
      have status₁ : c₁.status = r₁.status := mirror₁.2.2.2.1
      have status₂ : c₂.status = r₂.status := mirror₂.2.2.2.1
      have balance₁ : c₁.balance = r₁.balance := mirror₁.2.2.2.2.1
      have balance₂ : c₂.balance = r₂.balance := mirror₂.2.2.2.2.1
      simp only [tryTransfer, exec_bind, exec_findByIdAndOwner, found₁, found₂, exec_orNotFound,
        Store.moveContract, ownedSource, ownedTarget, status₁, status₂, balance₁, balance₂]
      -- the checks in order: statuses, funds, room at the destination
      by_cases active₁ : r₁.status = .active
      · by_cases active₂ : r₂.status = .active
        · by_cases enough : amount.cents ≤ r₁.balance.cents
          · by_cases fits : r₂.balance.cents + amount.cents ≤ maxCents
            · obtain ⟨written, saved⟩ := Store.saveBoth_read_back keyed distinct row₁ row₂ mirror₁
                mirror₂ ⟨r₁.balance.cents - amount.cents,
                  Nat.le_trans (Nat.sub_le _ _) r₁.balance.cents_le⟩
                ⟨r₂.balance.cents + amount.cents, fits⟩
              rw [status₁, status₂, active₁, active₂] at saved
              have noShortfall : ¬ r₁.balance.cents < amount.cents := Nat.not_lt.mpr enough
              simp [active₁, active₂, Status.allowsFundsMovement, Balance.debit, enough,
                Balance.credit, Balance.checkedAdd, Amount.toBalance, fits, exec_bind, saved,
                noShortfall]
            · have noShortfall : ¬ r₁.balance.cents < amount.cents := Nat.not_lt.mpr enough
              simp [active₁, active₂, Status.allowsFundsMovement, Balance.debit, enough,
                Balance.credit, Balance.checkedAdd, Amount.toBalance, fits, exec_bind, noShortfall]
          · have shortfall : r₁.balance.cents < amount.cents := Nat.lt_of_not_le enough
            simp [active₁, active₂, Status.allowsFundsMovement, Balance.debit, enough,
              shortfall]
        · simp [active₁, active₂, Status.allowsFundsMovement]
      · simp [active₁, Status.allowsFundsMovement]

theorem exec_transferWithRetries {σ : Type} [CardRepository σ] (eng : Engine σ) (owner : OwnerId)
    (source target : CardId) (amount : Amount) (retries : Nat)
    (noRace : ∀ (id : CardId) (eng' : Engine σ),
      exec (tryTransfer owner source target amount) eng ≠
        (.error (.concurrentModification id), eng')) :
    exec (transferWithRetries owner source target amount retries) eng =
      exec (tryTransfer owner source target amount) eng := by
  cases retries with
  | zero => rfl
  | succ retries =>
    rw [transferWithRetries, exec_tryCatch]
    rcases attempt : exec (tryTransfer owner source target amount) eng with ⟨e | _, eng'⟩
    · cases e
      case concurrentModification id => exact absurd attempt (noRace id eng')
      all_goals rfl
    · rfl

/-- A transfer on a store whose rows sit under their own identifiers and all open answers with
the first failing check of `Store.transferContract` and keeps the engine, or replaces the store by
the contract's and changes nothing else: no draw, no retry, no other row. -/
theorem exec_transfer_eq_contract (eng : Engine Store) (who : Identity) (source target : CardId)
    (amount : Decimal) (keyed : eng.store.KeyedById) (opens : eng.store.AllOpen) :
    exec (transfer who source target amount) eng =
      match eng.store.transferContract who.id source target amount with
      | .ok s' => (.ok (), { eng with store := s' })
      | .error e => (.error e, eng) := by
  by_cases same : source = target
  · simp [transfer, same, Store.transferContract]
  cases positive : amount.le Decimal.zero
  case true =>
    simp [transfer, same, Store.transferContract, exec_bind, Amount.ofDecimal, positive]
  case false =>
    cases exact : amount.cents? with
    | none =>
      simp [transfer, same, Store.transferContract, exec_bind, Amount.ofDecimal, positive, exact]
    | some cents =>
      by_cases fits : cents ≤ maxCents
      · obtain ⟨a, parsed, rfl⟩ := Amount.ofDecimal_of_cents positive exact fits
        -- the single attempt never loses a race, so the retry count does not matter
        have attempt := exec_tryTransfer eng who.id a same keyed opens
        have noRace : ∀ (id : CardId) (eng' : Engine Store),
            exec (tryTransfer who.id source target a) eng ≠
              (.error (.concurrentModification id), eng') := by
          intro id eng' raced
          rw [attempt] at raced
          split at raced
          · cases raced
          · cases raced
            exact Store.moveContract_ne_race _ _ _ _ _ id (by assumption)
        simp [transfer, same, Store.transferContract, exec_bind, parsed, positive, exact,
          Nat.not_lt.mpr fits, exec_transferWithRetries eng _ _ _ _ _ noRace, attempt]
      · simp [transfer, same, Store.transferContract, exec_bind, Amount.ofDecimal, positive, exact,
          fits, Nat.lt_of_not_le fits]

/-- Two active cards of one owner, their numbers sealed under a 32-byte key: a transfer of 5.00
from the first, which holds 10.00, to the second, which holds nothing, leaves 5.00 on each. -/
theorem transfer_between_sealed_cards_moves_funds :
    let key : List UInt8 := List.replicate 32 7
    let sealer : Sealer := ⟨Aes.schedule key.toArray⟩
    let owner : OwnerId := Uuid.ofNat 5
    let expiry : Expiry := ⟨12, 30, by decide, by decide, by decide⟩
    let first := Card.issue (Uuid.ofNat 1) owner ⟨"4111111111111111"⟩ expiry ⟨1000, by decide⟩
    let second := Card.issue (Uuid.ofNat 2) owner ⟨"4024000000000905"⟩ expiry Balance.zero
    let blob₁ : Blob := ⟨Base64.encode (List.replicate 12 0 ++
      Gcm.encrypt sealer.roundKeys (List.replicate 12 0) "4111111111111111".toUTF8.toList)⟩
    let blob₂ : Blob := ⟨Base64.encode (List.replicate 12 1 ++
      Gcm.encrypt sealer.roundKeys (List.replicate 12 1) "4024000000000905".toUTF8.toList)⟩
    let eng : Engine Store :=
      { store := StoreCall.runAll [.insert first blob₁, .insert second blob₂] (Store.empty sealer),
        sealer, config := {}, entropy := Entropy.initial }
    Sealer.ofKey key = .ok sealer ∧ eng.store.KeyedById ∧ eng.store.AllOpen ∧
      exec (transfer ⟨owner, .user⟩ first.id second.id ⟨500, 2, false, by decide, by decide⟩) eng =
        (.ok (), { eng with store := { eng.store with
          cards := (eng.store.cards.insert first.id
            ((Record.ofCard first blob₁).rebalanced ⟨500, by decide⟩)).insert second.id
              ((Record.ofCard second blob₂).rebalanced ⟨500, by decide⟩) } }) := by
  intro key sealer owner expiry first second blob₁ blob₂ eng
  have sealed₁ : sealer.sealWithNonce (List.replicate 12 0) "4111111111111111" = some blob₁ :=
    sealer.sealWithNonce_of_ne_empty (by simp)
  have sealed₂ : sealer.sealWithNonce (List.replicate 12 1) "4024000000000905" = some blob₂ :=
    sealer.sealWithNonce_of_ne_empty (by simp)
  have apart : blob₁ ≠ blob₂ := sealer.sealWithNonce_ne rfl rfl sealed₁ sealed₂ (by decide)
  have valid₁ : CardNumber.parse "4111111111111111" = .ok ⟨"4111111111111111"⟩ := by decide
  have valid₂ : CardNumber.parse "4024000000000905" = .ok ⟨"4024000000000905"⟩ := by decide
  -- the two inserts store both first rows
  have distinct : first.id ≠ second.id := by decide
  have runs : eng.store =
      StoreCall.runAll [.insert first blob₁, .insert second blob₂] (Store.empty sealer) := by
    dsimp only [eng]
  have seeded : eng.store = { Store.empty sealer with
      numbers := ((Store.empty sealer).numbers.insert blob₁ first.id).insert blob₂ second.id,
      cards := ((Store.empty sealer).cards.insert first.id (Record.ofCard first blob₁)).insert
        second.id (Record.ofCard second blob₂) } :=
    runs.trans (StoreCall.runAll_inserts [(first, blob₁), (second, blob₂)] (by simp [Store.empty])
      (by simp [Store.empty]) (by simpa using distinct) (by simpa using apart))
  have row₁ : eng.store.cards[first.id]? = some (Record.ofCard first blob₁) := by
    rw [seeded, Std.HashMap.getElem?_insert, if_neg (by simpa using Ne.symm distinct),
      Std.HashMap.getElem?_insert_self]
  have row₂ : eng.store.cards[second.id]? = some (Record.ofCard second blob₂) := by
    rw [seeded, Std.HashMap.getElem?_insert_self]
  have consistent : eng.store.Consistent :=
    runs ▸ StoreCall.consistent_runAll _ (Store.consistent_empty sealer)
  have opens : eng.store.AllOpen := by
    rw [runs]
    refine StoreCall.allOpen_runAll _ (Store.consistent_empty sealer) (Store.allOpen_empty sealer)
      fun c member => ?_
    simp only [List.mem_cons, List.not_mem_nil, or_false] at member
    rcases member with rfl | rfl
    · exact ⟨_, sealer.openBlob_sealWithNonce rfl sealed₁, valid₁⟩
    · exact ⟨_, sealer.openBlob_sealWithNonce rfl sealed₂, valid₂⟩
  have contract : eng.store.transferContract owner first.id second.id
      ⟨500, 2, false, by decide, by decide⟩ = .ok { eng.store with
        cards := (eng.store.cards.insert first.id
          ((Record.ofCard first blob₁).rebalanced ⟨500, by decide⟩)).insert second.id
            ((Record.ofCard second blob₂).rebalanced ⟨500, by decide⟩) } := by
    have owned₁ : eng.store.ownedRow first.id owner = some (Record.ofCard first blob₁) := by
      rw [Store.ownedRow, row₁]
      simp [Record.ofCard, first, Card.issue]
    have owned₂ : eng.store.ownedRow second.id owner = some (Record.ofCard second blob₂) := by
      rw [Store.ownedRow, row₂]
      simp [Record.ofCard, second, Card.issue]
    have positive : Decimal.le ⟨500, 2, false, by decide, by decide⟩ Decimal.zero = false := by
      decide
    have cents : Decimal.cents? ⟨500, 2, false, by decide, by decide⟩ = some 500 := by decide
    have active₁ : (Record.ofCard first blob₁).status = .active := rfl
    have active₂ : (Record.ofCard second blob₂).status = .active := rfl
    have funds₁ : (Record.ofCard first blob₁).balance.cents = 1000 := rfl
    have funds₂ : (Record.ofCard second blob₂).balance.cents = 0 := rfl
    simp [Store.transferContract, Store.moveContract, distinct, positive, cents, owned₁, owned₂,
      active₁, active₂, funds₁, funds₂, maxCents]
  refine ⟨Sealer.ofKey_of_length rfl, consistent.keyed, opens, ?_⟩
  rw [exec_transfer_eq_contract eng _ _ _ _ consistent.keyed opens, contract]

end Engine

end CardLedger
