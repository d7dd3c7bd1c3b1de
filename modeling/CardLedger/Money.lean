import CardLedger.Decimal.Basic
import CardLedger.Error

/-!
# Money

Money is counted in cents. A `Balance` is a whole number of cents from zero up to
`maxCents = 2 ^ 96 - 1`, the largest mantissa of a decimal at scale 2; an `Amount` is a balance
that is not zero. Both are built from a decimal that may carry at most two fractional digits once
trailing zeros are dropped, and both print with exactly two.

Sums are checked: a sum above `maxCents` is `CardError.balanceOverflow`, never a rounded value.
Main statements: `checkedAdd_cents` and `debit_cents` say what the operations do to the count of
cents, `checkedAdd_ok_iff` and `debit_eq_none_iff` when they succeed.
-/

namespace CardLedger

def maxCents : Nat := Nat.pow 2 96 - 1

/-- The funds on a card, in cents. -/
structure Balance where
  cents : Nat
  cents_le : cents ≤ maxCents

/-- A positive amount of money to move, in cents. -/
structure Amount where
  cents : Nat
  cents_pos : 0 < cents
  cents_le : cents ≤ maxCents

def centsText (cents : Nat) : String :=
  toString (cents / 100) ++ "." ++ (if cents % 100 < 10 then "0" else "") ++ toString (cents % 100)

example : centsText 5 = "0.05" ∧ centsText 1050 = "10.50" := by decide

/-- The cents of a decimal with at most two fractional digits after trailing zeros are dropped,
or `none` when it has more. -/
def Decimal.cents? (d : Decimal) : Option Nat :=
  let n := d.normalize
  if n.scale ≤ 2 then some (n.mantissa * Nat.pow 10 (2 - n.scale)) else none

namespace Balance

def zero : Balance := ⟨0, Nat.zero_le _⟩

instance : BEq Balance := ⟨fun a b => a.cents == b.cents⟩

/-- Checks a decimal in this order: not negative, at most two decimals, at most `maxCents`. -/
def ofDecimal (d : Decimal) : Outcome Balance :=
  if d.lt Decimal.zero then .error (.invalidRequest "Balance cannot be negative")
  else
    match d.cents? with
    | none =>
      .error (.invalidRequest ("Balance " ++ d.toText ++ " has more than 2 fractional digits"))
    | some cents =>
      if h : cents ≤ maxCents then .ok ⟨cents, h⟩ else .error .balanceOverflow

def toText (b : Balance) : String := centsText b.cents

instance : ToString Balance := ⟨toText⟩

def checkedAdd (a b : Balance) : Outcome Balance :=
  if h : a.cents + b.cents ≤ maxCents then .ok ⟨a.cents + b.cents, h⟩ else .error .balanceOverflow

def debit (b : Balance) (a : Amount) : Option Balance :=
  if a.cents ≤ b.cents then some ⟨b.cents - a.cents, Nat.le_trans (Nat.sub_le _ _) b.cents_le⟩
  else none

def total (balances : List Balance) : Outcome Balance :=
  balances.foldlM checkedAdd zero

theorem checkedAdd_cents {a b c : Balance} (h : checkedAdd a b = .ok c) :
    c.cents = a.cents + b.cents := by
  unfold checkedAdd at h
  split at h
  · cases h; rfl
  · cases h

theorem checkedAdd_ok_iff (a b : Balance) :
    (∃ c, checkedAdd a b = .ok c) ↔ a.cents + b.cents ≤ maxCents := by
  unfold checkedAdd
  constructor
  · rintro ⟨c, hc⟩
    split at hc
    · assumption
    · cases hc
  · intro h
    exact ⟨_, dif_pos h⟩

theorem debit_cents {b c : Balance} {a : Amount} (h : debit b a = some c) :
    c.cents = b.cents - a.cents ∧ a.cents ≤ b.cents := by
  unfold debit at h
  split at h
  · cases h; exact ⟨rfl, by assumption⟩
  · cases h

theorem debit_eq_none_iff (b : Balance) (a : Amount) : debit b a = none ↔ b.cents < a.cents := by
  unfold debit
  split
  · rename_i h
    simp only [reduceCtorEq, false_iff, Nat.not_lt]
    exact h
  · rename_i h
    simp only [true_iff]
    exact Nat.lt_of_not_le h

end Balance

namespace Amount

/-- Checks a decimal in this order: above zero, at most two decimals, at most `maxCents`. -/
def ofDecimal (d : Decimal) : Outcome Amount :=
  if d.le Decimal.zero then .error (.invalidRequest "Transfer amount must be positive")
  else
    match d.cents? with
    | none =>
      .error (.invalidRequest ("Amount " ++ d.toText ++ " has more than 2 fractional digits"))
    | some cents =>
      if h : 0 < cents ∧ cents ≤ maxCents then .ok ⟨cents, h.1, h.2⟩ else .error .balanceOverflow

def toBalance (a : Amount) : Balance := ⟨a.cents, a.cents_le⟩

def toText (a : Amount) : String := centsText a.cents

end Amount

namespace Balance

def credit (b : Balance) (a : Amount) : Outcome Balance := checkedAdd b a.toBalance

end Balance

end CardLedger
