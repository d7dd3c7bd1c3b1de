import Mathlib
import CardLedger.Proofs.EngineEffects
import CardLedger.Proofs.OwnerIsolation

/-!
# The status change contract

A status change names a card and a target status. A target of `expired` is refused before the
store is read. Otherwise the caller's card is looked up, by identifier alone for an admin and by
identifier and owner for a user, so that a card of another owner answers exactly as a missing
one. `Status.transition` then decides from the stored status, the target and the caller's role:
its refusal is the answer, an unchanged status is answered with the stored card and nothing is
written, and a change rewrites the row with the new status one version later and leaves its
owner, number, expiry and balance as they were.

`Store.statusContract` states this over the rows of the store, and `exec_setStatus_eq_contract`
says that the engine follows it on every store whose rows sit under their own identifiers.
-/

namespace CardLedger

namespace Store

def visibleRow (s : Store) (who : Identity) (id : CardId) : Option Record :=
  if who.isAdmin then s.cards[id]? else s.ownedRow id who.id

/-- A status change over the rows of the store: the first refusal, or the answered card with the
store after the change. -/
def statusContract (s : Store) (who : Identity) (id : CardId) (target : Status) :
    Outcome (Card × Store) :=
  if target = .expired then .error (.invalidTransition "Status cannot be set to expired manually")
  else
    match s.visibleRow who id with
    | none => .error (Engine.cardNotFound id)
    | some r =>
      match r.openWith s.sealer, r.status.transition target who.role with
      | .error e, _ => .error e
      | .ok _, .error e => .error e
      | .ok card, .ok .unchanged => .ok (card, s)
      | .ok card, .ok (.changed status) =>
        .ok ({ card with status, version := Record.nextVersion r.version },
          { s with cards := s.cards.insert id (r.withStatus status) })

variable {s : Store}

theorem row_of_visibleRow {who : Identity} {id : CardId} {r : Record}
    (visible : s.visibleRow who id = some r) : s.cards[id]? = some r := by
  unfold visibleRow at visible
  split at visible
  · exact visible
  · exact (row_of_ownedRow visible).1

theorem statusContract_of_opened {who : Identity} {id : CardId} {target : Status} {r : Record}
    {card : Card} (notExpired : target ≠ .expired) (visible : s.visibleRow who id = some r)
    (opened : r.openWith s.sealer = .ok card) :
    s.statusContract who id target =
      match r.status.transition target who.role with
      | .error e => .error e
      | .ok .unchanged => .ok (card, s)
      | .ok (.changed status) =>
        .ok ({ card with status, version := Record.nextVersion r.version },
          { s with cards := s.cards.insert id (r.withStatus status) }) := by
  simp only [statusContract, notExpired, if_false, visible, opened]
  rcases r.status.transition target who.role with e | _ | status <;> rfl

end Store

namespace Engine

variable (eng : Engine Store)

theorem exec_loadFor_eq (who : Identity) (id : CardId) :
    exec (loadFor who id) eng =
      (match eng.store.visibleRow who id with
        | none => .error (cardNotFound id)
        | some r => r.openWith eng.store.sealer, eng) := by
  by_cases admin : who.isAdmin = true
  · cases row : eng.store.cards[id]? with
    | none => simp [loadFor, exec_bind, admin, Store.findById, Store.lookup, row, Store.visibleRow]
    | some r =>
      cases opened : r.openWith eng.store.sealer <;>
        simp [loadFor, exec_bind, admin, Store.findById, Store.lookup, row, opened,
          Store.visibleRow, Except.map]
  · cases owned : eng.store.ownedRow id who.id with
    | none =>
      simp [loadFor, exec_bind, admin, Store.findByIdAndOwner_eq, owned, Store.visibleRow]
    | some r =>
      cases opened : r.openWith eng.store.sealer <;>
        simp [loadFor, exec_bind, admin, Store.findByIdAndOwner_eq, owned, opened,
          Store.visibleRow, Except.map]

/-- A status change on a store whose rows sit under their own identifiers answers as
`Store.statusContract` does: a refusal keeps the engine, an unchanged status writes nothing, and
a change replaces the store by the contract's and changes nothing else. -/
theorem exec_setStatus_eq_contract (who : Identity) (id : CardId) (target : Status)
    (keyed : eng.store.KeyedById) :
    exec (setStatus who id target) eng =
      match eng.store.statusContract who id target with
      | .ok (card, s') => (.ok card, { eng with store := s' })
      | .error e => (.error e, eng) := by
  by_cases expired : target = .expired
  · simp [setStatus, Store.statusContract, expired]
  cases visible : eng.store.visibleRow who id with
  | none =>
    simp [setStatus, Store.statusContract, expired, exec_bind, exec_loadFor_eq, visible]
  | some r =>
    have row := Store.row_of_visibleRow visible
    cases opened : r.openWith eng.store.sealer with
    | error e =>
      simp [setStatus, Store.statusContract, expired, exec_bind, exec_loadFor_eq, visible, opened]
    | ok card =>
      -- the transition reads the opened card's status, which is the row's
      have sameStatus : card.status = r.status := (Record.openWith_mirrors opened).2.2.2.1
      cases transition : r.status.transition target who.role with
      | error e =>
        simp [setStatus, Store.statusContract, expired, exec_bind, exec_loadFor_eq, visible,
          opened, sameStatus, transition]
      | ok step =>
        cases step with
        | unchanged =>
          simp [setStatus, Store.statusContract, expired, exec_bind, exec_loadFor_eq, visible,
            opened, sameStatus, transition]
        | changed status =>
          simp [setStatus, Store.statusContract, expired, exec_bind, exec_loadFor_eq, visible,
            opened, sameStatus, transition,
            Store.save_mirrored keyed row (Record.openWith_mirrors opened)]

/-- One active card of user 1, its number sealed under a 32-byte key. Another user who asks to
block it is answered as for a missing card; its owner who asks for it to stay active is answered
with the card and nothing is written; its owner who blocks it gets the card back blocked, one
version later, and only its row changes. -/
theorem status_changes_of_one_sealed_card :
    let key : List UInt8 := List.replicate 32 7
    let sealer : Sealer := ⟨Aes.schedule key.toArray⟩
    let owner : Identity := ⟨Uuid.ofNat 1, .user⟩
    let card := Card.issue (Uuid.ofNat 7) owner.id ⟨"4111111111111111"⟩
      ⟨12, 30, by decide, by decide, by decide⟩ ⟨250, by decide⟩
    let blob : Blob := ⟨Base64.encode (List.replicate 12 0 ++
      Gcm.encrypt sealer.roundKeys (List.replicate 12 0) "4111111111111111".toUTF8.toList)⟩
    let eng : Engine Store :=
      { store := StoreCall.runAll [.insert card blob] (Store.empty sealer), sealer, config := {},
        entropy := Entropy.initial }
    Sealer.ofKey key = .ok sealer ∧ eng.store.KeyedById ∧
      exec (setStatus ⟨Uuid.ofNat 3, .user⟩ card.id .blocked) eng =
        (.error (cardNotFound card.id), eng) ∧
      exec (setStatus owner card.id .active) eng = (.ok { card with version := 1 }, eng) ∧
      exec (setStatus owner card.id .blocked) eng =
        (.ok { card with status := .blocked, version := 2 }, { eng with store := { eng.store with
          cards := eng.store.cards.insert card.id ((Record.ofCard card blob).withStatus .blocked) } })
    := by
  intro key sealer owner card blob eng
  have sealed : sealer.sealWithNonce (List.replicate 12 0) card.number.text = some blob :=
    sealer.sealWithNonce_of_ne_empty (by simp [card, Card.issue])
  have valid : CardNumber.parse card.number.text = .ok card.number := by decide
  have keyed : eng.store.KeyedById :=
    (StoreCall.consistent_runAll _ (Store.consistent_empty sealer)).keyed
  have opened : (Record.ofCard card blob).openWith eng.store.sealer =
      .ok { card with version := 1 } :=
    StoreCall.first_insert_opens (sealer.openBlob_sealWithNonce rfl sealed) valid
  have stored : eng.store.cards[card.id]? = some (Record.ofCard card blob) :=
    (StoreCall.first_insert sealer card blob).2
  have foreign : ((Record.ofCard card blob).owner == Uuid.ofNat 3) = false := by decide
  -- the owner's lookup finds the row, which opens to the card at version 1
  have visible : eng.store.visibleRow owner card.id = some (Record.ofCard card blob) := by
    have owned : ((Record.ofCard card blob).owner == owner.id) = true := by decide
    simp [Store.visibleRow, Store.ownedRow, Identity.isAdmin, stored, Option.filter_some, owned]
  have stays : (Record.ofCard card blob).status.transition .active owner.role = .ok .unchanged :=
    rfl
  have blocks : (Record.ofCard card blob).status.transition .blocked owner.role =
      .ok (.changed .blocked) := rfl
  refine ⟨Sealer.ofKey_of_length rfl, keyed, ?_, ?_, ?_⟩
  all_goals rw [exec_setStatus_eq_contract eng _ _ _ keyed]
  · simp [Store.statusContract, Store.visibleRow, Store.ownedRow, Identity.isAdmin, stored,
      Option.filter_some, foreign]
  · rw [Store.statusContract_of_opened (by decide) visible opened, stays]
  · rw [Store.statusContract_of_opened (by decide) visible opened, blocks]
    rfl

end Engine

end CardLedger
