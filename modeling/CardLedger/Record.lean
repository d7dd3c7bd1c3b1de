import CardLedger.Card.Basic
import CardLedger.Crypto.Sealer

/-!
# Stored rows

A `Record` is a card as it is stored: the number sealed into a `Blob`, everything else in the
clear, and a version that grows by one with every write. Sealing a card gives version 1.
Opening checks that the sealed text is still a card number. Applying a changed card to a row is
an optimistic write: it is refused unless the card carries the row's current version, and it
copies only status and balance.

Main statements: `apply_version` (a write raises the version by one, as a 64-bit counter that
wraps to 0 after its largest value) and `apply_error_iff` (a write fails exactly on a version
mismatch).
-/

namespace CardLedger

/-- A stored card row. -/
structure Record where
  id : CardId
  owner : OwnerId
  number : Blob
  expiry : Expiry
  status : Status
  balance : Balance
  version : Nat

namespace Record

def ofCard (card : Card) (number : Blob) : Record :=
  { id := card.id, owner := card.owner, number, expiry := card.expiry, status := card.status,
    balance := card.balance, version := 1 }

/-- The card of a row: the number is unsealed and must still be a card number. -/
def openWith (sealer : Sealer) (r : Record) : Outcome Card := do
  let text ← sealer.openBlob r.number
  match CardNumber.parse text with
  | .error _ => .error (.cryptoFailure ("stored number of card " ++ r.id.toText ++ " is corrupt"))
  | .ok number =>
    .ok { id := r.id, owner := r.owner, number, expiry := r.expiry, status := r.status,
          balance := r.balance, version := r.version }

def nextVersion (v : Nat) : Nat := (v + 1) % Nat.pow 2 64

example : nextVersion 1 = 2 := by decide
example : nextVersion (Nat.pow 2 64 - 1) = 0 := by decide

/-- Writes a card's status and balance into its row if the card has the row's version. -/
def apply (r : Record) (card : Card) : Outcome Record :=
  if card.version = r.version then
    .ok { r with status := card.status, balance := card.balance, version := nextVersion r.version }
  else .error (.concurrentModification r.id)

theorem apply_version {r r' : Record} {card : Card} (h : r.apply card = .ok r') :
    r'.version = nextVersion r.version ∧ r'.id = r.id ∧ r'.owner = r.owner ∧ r'.number = r.number ∧
      r'.status = card.status ∧ r'.balance = card.balance := by
  unfold apply at h
  split at h
  · cases h; exact ⟨rfl, rfl, rfl, rfl, rfl, rfl⟩
  · cases h

theorem apply_error_iff (r : Record) (card : Card) :
    (∃ e, r.apply card = .error e) ↔ card.version ≠ r.version := by
  unfold apply
  split <;> simp_all

end Record

end CardLedger
