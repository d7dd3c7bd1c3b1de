import CardLedger.Decimal.Basic

/-!
# Reading decimals

`Decimal.ofString?` reads plain decimal text: an optional sign as the first byte, digits with at
most one point, and underscores anywhere after the first digit. Texts of 18 bytes or more may
carry more digits than fit: once 28 fractional digits are read, the next byte rounds the last
one (five and above round up) and every byte after it must still be a digit or an underscore,
though its value is passed over; a digit that would push the mantissa to `2 ^ 96` fails a whole
number and rounds a fraction the same way. When rounding up overflows the mantissa, one
fractional digit is given up.

`Decimal.ofScientific?` reads `base e exponent`, and `Decimal.read?` tries plain text first and
scientific notation second. A negative exponent that would push the scale past 28 first rounds
the base to fit (half to even): `2.710505431213761e-20` is `0.0000000000000000000271050543`.
-/

namespace CardLedger

namespace Decimal

/-- Mantissas at or above this value are carried in the wide register: it is the bound below
which one more digit still fits in 64 bits. -/
def narrowLimit : Nat := 1844674407370954906

/-- The state of a scan: a point seen, a minus sign seen, a digit seen, the digits so far and
the fractional digits among them. -/
structure Scan where
  point : Bool := false
  negative : Bool := false
  seenDigit : Bool := false
  data : Nat := 0
  scale : Nat := 0

def digitOf? (b : UInt8) : Option Nat :=
  if 48 ≤ b ∧ b ≤ 57 then some (b.toNat - 48) else none

def finishScan (negative seenDigit : Bool) (data scale : Nat) : Option Decimal :=
  if seenDigit then make? data scale negative else none

def passable (b : UInt8) : Bool := (digitOf? b).isSome || b = 95

/-- Rounds the last kept digit by the byte after it (an underscore counts as zero) and finishes;
the bytes after that must all be passable. -/
def roundBy (negative : Bool) (data scale : Nat) (next : UInt8) (rest : List UInt8) :
    Option Decimal :=
  let digit? := match digitOf? next with
    | some d => some d
    | none => if next = 95 then some 0 else none
  match digit? with
  | none => none
  | some digit =>
    if !rest.all passable then none
    else if digit ≥ 5 then
      if data + 1 ≥ mantissaBound then
        if scale = 0 then none else finishScan negative true ((data + 1 + 4) / 10) (scale - 1)
      else finishScan negative true (data + 1) scale
    else finishScan negative true data scale

/-- The wide register: digits are added until the mantissa would reach `2 ^ 96`. -/
def scanWide (point negative : Bool) (data scale : Nat) : UInt8 → List UInt8 → Option Decimal
  | b, rest =>
    match digitOf? b with
    | some digit =>
      let next := data * 10 + digit
      if next ≥ mantissaBound then
        if point then roundBy negative data scale b rest else none
      else
        let scale' := if point then scale + 1 else scale
        match rest with
        | [] => finishScan negative true next scale'
        | n :: rest' =>
          if point ∧ scale' ≥ maxScale then
            if n = 95 then
              match rest'.dropWhile (· = 95) with
              | c :: after => roundBy negative next scale' c after
              | [] => finishScan negative true next scale'
            else roundBy negative next scale' n rest'
          else scanWide point negative next scale' n rest'
    | none =>
      if b = 46 ∧ !point then
        match rest with
        | [] => finishScan negative true data scale
        | n :: rest' => scanWide true negative data scale n rest'
      else if b = 95 then
        match rest with
        | [] => finishScan negative true data scale
        | n :: rest' => scanWide point negative data scale n rest'
      else none

/-- The narrow register. `wide` says whether the text is long enough to need the wide register
and the rounding at 28 fractional digits; `first` marks the first byte, the only place for a
sign. -/
def scanNarrow (wide : Bool) (s : Scan) (first : Bool) : List UInt8 → Option Decimal
  | [] => finishScan s.negative s.seenDigit s.data s.scale
  | b :: rest =>
    match digitOf? b with
    | some digit =>
      let data := s.data * 10 + digit
      let scale := if s.point then s.scale + 1 else 0
      match rest with
      | [] => finishScan s.negative true data scale
      | n :: rest' =>
        if s.point ∧ wide ∧ scale ≥ maxScale then roundBy s.negative data scale n rest'
        else if wide ∧ data ≥ narrowLimit then scanWide s.point s.negative data scale n rest'
        else scanNarrow wide { s with seenDigit := true, data, scale } false rest
    | none =>
      if b = 46 ∧ !s.point then scanNarrow wide { s with point := true } false rest
      else if b = 45 ∧ first then scanNarrow wide { s with negative := true } false rest
      else if b = 43 ∧ first then scanNarrow wide s false rest
      else if b = 95 ∧ s.seenDigit then scanNarrow wide s false rest
      else none

def ofString? (text : String) : Option Decimal :=
  let bytes := text.toUTF8.toList
  scanNarrow (bytes.length ≥ 18) {} true bytes

/-- Reads an unsigned 32-bit number: an optional plus sign and at least one digit. -/
def readU32? (text : String) : Option Nat :=
  let chars := match text.toList with
    | '+' :: rest => rest
    | all => all
  if chars.isEmpty ∨ !chars.all Char.isDigit then none
  else
    let n := chars.foldl (fun acc c => acc * 10 + (c.toNat - 48)) 0
    if n < Nat.pow 2 32 then some n else none

/-- Reads `base e exponent` (or `E`): the base as plain text; a negative exponent raises the
scale (first rounding the base to `28 - exponent` places when the scale would pass 28), a
positive one lowers it as far as it goes and then multiplies the mantissa. -/
def ofScientific? (text : String) : Option Decimal :=
  match text.toList.span (fun c => c ≠ 'e' ∧ c ≠ 'E') with
  | (_, []) => none
  | (baseChars, _ :: expChars) => do
    let base ← ofString? (String.ofList baseChars)
    match expChars with
    | '-' :: digits =>
      let exp ← readU32? (String.ofList digits)
      if exp > maxScale then none
      else
        let base := if base.scale + exp > maxScale then base.roundEven (maxScale - exp) else base
        make? base.mantissa (base.scale + exp) base.negative
    | _ =>
      let exp ← readU32? (String.ofList expChars)
      if exp ≤ base.scale then make? base.mantissa (base.scale - exp) base.negative
      else if exp > maxScale then none
      else (make? (base.mantissa * Nat.pow 10 (exp - base.scale)) 0 base.negative).map normalize

/-- Reads plain text, else scientific notation. -/
def read? (text : String) : Option Decimal :=
  match ofString? text with
  | some d => some d
  | none => ofScientific? text

example : (read? "2.710505431213761e-20").map (fun d => (d.mantissa, d.scale)) =
    some (271050543, 28) := by
  decide +kernel

end Decimal

end CardLedger
