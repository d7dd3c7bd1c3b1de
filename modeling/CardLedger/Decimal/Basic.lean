/-!
# Fixed-point decimals

A `Decimal` is a sign, a mantissa below `2 ^ 96` and a scale of at most 28: its value is
`± mantissa / 10 ^ scale`. The scale is part of the value's text, so `1.50` and `1.5` are equal
numbers with different texts. A negative zero exists and prints with its sign.

Comparison is by value (both sides brought to one scale); `normalize` removes trailing
fractional zeros.
-/

namespace CardLedger

def mantissaBound : Nat := Nat.pow 2 96

def maxScale : Nat := 28

/-- A signed fixed-point number with a 96-bit mantissa and a scale of at most 28. -/
structure Decimal where
  mantissa : Nat
  scale : Nat
  negative : Bool
  mantissa_lt : mantissa < mantissaBound
  scale_le : scale ≤ maxScale

namespace Decimal

/-- Builds a decimal when the parts are in range. -/
def make? (mantissa scale : Nat) (negative : Bool) : Option Decimal :=
  if h : mantissa < mantissaBound ∧ scale ≤ maxScale then
    some ⟨mantissa, scale, negative, h.1, h.2⟩
  else none

def zero : Decimal := ⟨0, 0, false, by decide, by decide⟩

def ofNat? (n : Nat) : Option Decimal := make? n 0 false

def ofInt? (n : Int) : Option Decimal := make? n.natAbs 0 (n < 0)

def isZero (d : Decimal) : Bool := d.mantissa == 0

def signedMantissa (d : Decimal) : Int :=
  if d.negative then -(d.mantissa : Int) else d.mantissa

protected def compare (a b : Decimal) : Ordering :=
  compare (a.signedMantissa * ((Nat.pow 10 b.scale : Nat) : Int))
    (b.signedMantissa * ((Nat.pow 10 a.scale : Nat) : Int))

instance : Ord Decimal := ⟨Decimal.compare⟩

def lt (a b : Decimal) : Bool := Decimal.compare a b == .lt

def le (a b : Decimal) : Bool := Decimal.compare a b != .gt

/-- Removes up to `steps` trailing fractional zeros. -/
def stripZeros : Nat → Decimal → Decimal
  | 0, d => d
  | steps + 1, d =>
    if 0 < d.scale ∧ d.mantissa % 10 = 0 then
      stripZeros steps ⟨d.mantissa / 10, d.scale - 1, d.negative,
        Nat.lt_of_le_of_lt (Nat.div_le_self _ _) d.mantissa_lt,
        Nat.le_trans (Nat.sub_le _ _) d.scale_le⟩
    else d

def normalize (d : Decimal) : Decimal :=
  if d.mantissa = 0 then zero else stripZeros d.scale d

def digitText (n : Nat) : List Char := (toString n).toList

/-- The text with the decimal's own scale: a point before the last `scale` digits, at least one
digit before the point, and a minus sign when negative (also for zero). -/
def toText (d : Decimal) : String :=
  let raw := digitText d.mantissa
  let body :=
    if d.scale = 0 then raw
    else
      let padded := List.replicate (d.scale + 1 - raw.length) '0' ++ raw
      let cut := padded.length - d.scale
      padded.take cut ++ '.' :: padded.drop cut
  String.ofList ((if d.negative then ['-'] else []) ++ body)

instance : ToString Decimal := ⟨toText⟩

example : (⟨150, 2, false, by decide, by decide⟩ : Decimal).toText = "1.50" := by decide

example : (⟨1, 3, true, by decide, by decide⟩ : Decimal).toText = "-0.001" := by decide

/-- The decimal rounded to `places` fractional digits, a midpoint going to the even neighbour,
with scale `places`; a decimal with no more digits than that is kept as it is. Dropping at
least one digit divides the mantissa by ten or more, so the rounded mantissa stays in range. -/
def roundEven (d : Decimal) (places : Nat) : Decimal :=
  if d.scale ≤ places then d
  else
    let unit := Nat.pow 10 (d.scale - places)
    let kept := d.mantissa / unit
    let rest := d.mantissa % unit
    let rounded := if unit < 2 * rest ∨ (2 * rest = unit ∧ kept % 2 = 1) then kept + 1 else kept
    (make? rounded places d.negative).getD d

example : (roundEven ⟨25, 1, false, by decide, by decide⟩ 0).mantissa = 2 := by decide

example : (roundEven ⟨35, 1, false, by decide, by decide⟩ 0).mantissa = 4 := by decide

end Decimal

end CardLedger
