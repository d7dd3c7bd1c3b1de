import CardLedger.Error

/-!
# The Luhn checksum

Digits from the right, every second one doubled (less nine above nine), added up in 32 bits;
a text is valid when that sum is a multiple of ten. Characters other than ASCII digits are
passed over.
-/

namespace CardLedger

namespace Luhn

def digits (text : String) : List Nat :=
  text.toList.filterMap fun c => if c.isDigit then some (c.toNat - 48) else none

def term (doubled : Bool) (d : Nat) : Nat :=
  if doubled then (if 2 * d > 9 then 2 * d - 9 else 2 * d) else d

/-- What each digit adds, the digits given rightmost first, every second one doubled starting
as `doubled` says. -/
def termsFromRight : Bool → List Nat → List Nat
  | _, [] => []
  | doubled, d :: rest => term doubled d :: termsFromRight (!doubled) rest

/-- The Luhn sum of a list of digits given leftmost first, added up in 32 bits: past `2 ^ 32`
the sum wraps around, as an unsigned 32-bit sum does without overflow checks. -/
def sum (doubleRightmost : Bool) (ds : List Nat) : UInt32 :=
  (termsFromRight doubleRightmost ds.reverse).foldl (fun total t => total + t.toUInt32) 0

def isValid (text : String) : Bool :=
  let ds := digits text
  !ds.isEmpty && sum false ds % 10 == 0

def checkDigitOf (ds : List Nat) : Nat := ((10 - sum true ds % 10) % 10).toNat

/-- The check digit of a text, which must hold at least one digit. -/
def checkDigit (text : String) : Outcome Nat :=
  let ds := digits text
  if ds.isEmpty then .error (.invalidRequest "Input number cannot be empty")
  else .ok (checkDigitOf ds)

def complete (text : String) : Outcome String :=
  (checkDigit text).map fun d => text ++ toString d

/-! ## Laws -/

@[simp] theorem termsFromRight_nil (doubled : Bool) : termsFromRight doubled [] = [] := rfl

@[simp] theorem termsFromRight_cons (doubled : Bool) (d : Nat) (rest : List Nat) :
    termsFromRight doubled (d :: rest) = term doubled d :: termsFromRight (!doubled) rest := rfl

theorem term_false (d : Nat) : term false d = d := rfl

theorem checkDigitOf_lt_ten (ds : List Nat) : checkDigitOf ds < 10 := by
  have small : ((10 - sum true ds % 10) % 10).toNat < 10 := by
    rw [UInt32.toNat_mod]
    exact Nat.mod_lt _ (by decide)
  exact small

end Luhn

end CardLedger
