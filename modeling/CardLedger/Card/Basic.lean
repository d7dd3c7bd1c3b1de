import CardLedger.Card.Number
import CardLedger.Card.Expiry
import CardLedger.Card.Lifecycle
import CardLedger.Money

/-!
# Cards

A `Card` is what the engine works with: identifier, owner, number, expiry, status, balance and
the version of its stored row. A `Card.View` is what callers get back: the same with the number
masked and without the version. A `Card.Filter` selects cards by owner, status and an inclusive
balance band.
-/

namespace CardLedger

/-- A payment card. -/
structure Card where
  id : CardId
  owner : OwnerId
  number : CardNumber
  expiry : Expiry
  status : Status
  balance : Balance
  version : Nat

namespace Card

def issue (id : CardId) (owner : OwnerId) (number : CardNumber) (expiry : Expiry)
    (balance : Balance) : Card :=
  { id, owner, number, expiry, status := .active, balance, version := 0 }

/-- What callers see of a card. -/
structure View where
  id : CardId
  owner : OwnerId
  maskedNumber : String
  expiry : Expiry
  status : Status
  balance : Balance

def view (c : Card) : View :=
  { id := c.id, owner := c.owner, maskedNumber := c.number.masked, expiry := c.expiry,
    status := c.status, balance := c.balance }

/-- Selects cards; an absent condition holds for every card, balance bounds are inclusive. -/
structure Filter where
  owner : Option OwnerId := none
  status : Option Status := none
  minBalance : Option Balance := none
  maxBalance : Option Balance := none

namespace Filter

def ownedBy (f : Filter) (owner : OwnerId) : Filter := { f with owner := some owner }

/-- Whether a card meets every condition of the filter. -/
def accepts (f : Filter) (c : Card) : Bool :=
  (f.owner.all fun o => c.owner == o) &&
  (f.status.all fun s => c.status == s) &&
  (f.minBalance.all fun m => m.cents ≤ c.balance.cents) &&
  (f.maxBalance.all fun m => c.balance.cents ≤ m.cents)

theorem accepts_ownedBy (f : Filter) (owner : OwnerId) (c : Card) :
    (f.ownedBy owner).accepts c = true → c.owner = owner := by
  simp [accepts, ownedBy]
  intro h _ _ _
  exact h

end Filter

end Card

end CardLedger
