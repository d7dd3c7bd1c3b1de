import CardLedger.Error

/-!
# Expiry dates

An expiry is a month from 1 to 12 and a two-digit year, written `MM/YY`. Reading splits the
text at its first `/`; both halves must be exactly two ASCII digits and the month must be in
range. Every refusal has the one message `Invalid expiry '<text>', expected MM/YY`.

Reading and writing are inverse on valid texts (the example below).
-/

namespace CardLedger

/-- A month and a two-digit year. -/
structure Expiry where
  month : Nat
  year : Nat
  month_pos : 1 ≤ month
  month_le : month ≤ 12
  year_lt : year < 100

namespace Expiry

instance : BEq Expiry := ⟨fun a b => a.month == b.month && a.year == b.year⟩

def twoDigits (n : Nat) : String := (if n < 10 then "0" else "") ++ toString n

def toText (e : Expiry) : String := twoDigits e.month ++ "/" ++ twoDigits e.year

instance : ToString Expiry := ⟨toText⟩

def twoDigitValue? : List Char → Option Nat
  | [a, b] => if a.isDigit ∧ b.isDigit then some ((a.toNat - 48) * 10 + (b.toNat - 48)) else none
  | _ => none

/-- Reads `MM/YY`. -/
def parse (text : String) : Outcome Expiry :=
  let invalid : CardError := .invalidRequest ("Invalid expiry '" ++ text ++ "', expected MM/YY")
  match text.toList.span (· ≠ '/') with
  | (mm, '/' :: yy) =>
    match twoDigitValue? mm, twoDigitValue? yy with
    | some month, some year =>
      if h : 1 ≤ month ∧ month ≤ 12 ∧ year < 100 then .ok ⟨month, year, h.1, h.2.1, h.2.2⟩
      else .error invalid
    | _, _ => .error invalid
  | _ => .error invalid

example : (parse "07/29").toOption.map toText = some "07/29" := by decide

end Expiry

end CardLedger
