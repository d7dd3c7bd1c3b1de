import CardLedger.Decode.Scalar

/-!
# CSV fields as values

A CSV field is text; a decoder that accepts any kind of value reads it as the most specific kind
it spells, in this order: `true` or `false`; an integer of 64 bits, unsigned then signed; an
integer of 128 bits, unsigned then signed; a double (`Binary64.read?`); and otherwise the text
itself. Integers are decimal digits after an optional sign (`+` only for the unsigned kinds).

Messages about CSV fields write doubles in their shortest positional form with `.0` on whole
numbers (`Csv.foundStyle`).
-/

namespace CardLedger

namespace Csv

open Decode

def foundStyle : FoundStyle := { float := { pointZero := true }, unit := "unit value" }

def digitsValue? (cs : List Char) : Option Nat :=
  if cs.isEmpty ∨ !cs.all Char.isDigit then none
  else some (cs.foldl (fun n c => n * 10 + (c.toNat - 48)) 0)

/-- An unsigned integer below `2 ^ bits`, with an optional plus sign. -/
def unsigned? (bits : Nat) (text : String) : Option Nat :=
  let cs := match text.toList with
    | '+' :: rest => rest
    | cs => cs
  (digitsValue? cs).filter (· < Nat.pow 2 bits)

/-- A signed integer of `bits` bits, with an optional sign. -/
def signed? (bits : Nat) (text : String) : Option Int :=
  match text.toList with
  | '-' :: rest =>
    (digitsValue? rest).bind fun n => if n ≤ Nat.pow 2 (bits - 1) then some (-(n : Int)) else none
  | '+' :: rest => (digitsValue? rest).bind fun n => if n < Nat.pow 2 (bits - 1) then some n else none
  | cs => (digitsValue? cs).bind fun n => if n < Nat.pow 2 (bits - 1) then some n else none

/-- The most specific kind a field spells. -/
def scalarOf (text : String) : Scalar :=
  if text = "true" then .bool true
  else if text = "false" then .bool false
  else match unsigned? 64 text with
    | some n => .unsigned n
    | none => match signed? 64 text with
      | some n => .signed n
      | none => match unsigned? 128 text with
        | some n => .wideUnsigned n
        | none => match signed? 128 text with
          | some n => .wideSigned n
          | none => match Binary64.read? text with
            | some x => .float x
            | none => .str text

end Csv

end CardLedger
