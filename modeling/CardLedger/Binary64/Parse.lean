import CardLedger.Binary64.Text

/-!
# Reading doubles from text

`Binary64.read?` accepts an optional sign followed by either a decimal number or one of the
words `inf`, `infinity` and `nan` in any letter case. A decimal number is digits with at most one
point, at least one digit in all, and an optional exponent: `e` or `E`, an optional sign and at
least one digit. The whole text must be used. The value is the exact decimal rounded to the
nearest double, ties to even; past the largest double it is infinite.
-/

namespace CardLedger

namespace Binary64

def digitsValue (ds : List Nat) : Nat := ds.foldl (fun acc d => acc * 10 + d) 0

def spanDigits (cs : List Char) : List Nat × List Char :=
  (cs.takeWhile Char.isDigit |>.map (fun c => c.toNat - 48), cs.dropWhile Char.isDigit)

/-- The exponent part after `e`: an optional sign and at least one digit, and nothing after. -/
def exponentValue? (cs : List Char) : Option Int :=
  let (negative, rest) := match cs with
    | '-' :: r => (true, r)
    | '+' :: r => (false, r)
    | r => (false, r)
  let (ds, after) := spanDigits rest
  if ds.isEmpty ∨ !after.isEmpty then none
  else
    let v : Int := digitsValue ds
    some (if negative then -v else v)

/-- The double nearest to `± digits · 10 ^ exponent`. -/
def ofDecimal (negative : Bool) (digits : Nat) (exponent : Int) : Binary64 :=
  if digits = 0 then .finite negative 0 minExponent
  else
    let size : Int := (Nat.toDigits 10 digits).length
    if size + exponent > 310 then .infinite negative
    else if size + exponent < -330 then .finite negative 0 minExponent
    else if exponent ≥ 0 then roundRatio negative (digits * Nat.pow 10 exponent.toNat) 1
    else roundRatio negative digits (Nat.pow 10 (-exponent).toNat)

/-- Reads an unsigned decimal number: digits, an optional point and digits, an exponent. -/
def unsignedDecimal? (negative : Bool) (cs : List Char) : Option Binary64 :=
  let (whole, rest) := spanDigits cs
  let (fraction, rest) := match rest with
    | '.' :: r => spanDigits r
    | r => ([], r)
  if whole.isEmpty ∧ fraction.isEmpty then none
  else
    let exponent? : Option Int := match rest with
      | [] => some 0
      | c :: r => if c = 'e' ∨ c = 'E' then exponentValue? r else none
    exponent?.map fun exponent =>
      ofDecimal negative (digitsValue (whole ++ fraction)) (exponent - fraction.length)

/-- Reads the words for infinity and NaN, in any letter case. -/
def special? (negative : Bool) (cs : List Char) : Option Binary64 :=
  let word := String.ofList (cs.map Char.toLower)
  if word = "inf" ∨ word = "infinity" then some (.infinite negative)
  else if word = "nan" then some .nan
  else none

/-- Reads a double from text. -/
def read? (text : String) : Option Binary64 :=
  let (negative, rest) := match text.toList with
    | '-' :: r => (true, r)
    | '+' :: r => (false, r)
    | r => (false, r)
  if rest.isEmpty then none
  else (unsignedDecimal? negative rest).orElse fun _ => special? negative rest

example : read? "0.5" = some (.finite false (Nat.pow 2 52) (-53)) := by decide +kernel

end Binary64

end CardLedger
