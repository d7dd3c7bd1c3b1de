import CardLedger.Decode.Error
import CardLedger.Binary64.Parse
import CardLedger.Decimal.Parse

/-!
# Decimals from self-describing input

A reader that knows the kind of each value (JSON, or a CSV field read as the most specific kind
it spells) hands a decimal decoder a `Scalar`. `Decimal.ofScalar` accepts:

* integers that fit 64 bits, exactly;
* doubles, through their shortest positional text (`FloatStyle.plain`), which must read as a
  decimal;
* texts that read as a decimal, plainly or in scientific form (`Decimal.read?`).

Wider integers, booleans, the empty value, sequences and maps are refused as the wrong kind.
-/

namespace CardLedger

namespace Decode

/-- A value as a self-describing reader hands it over. -/
inductive Scalar where
  | unit
  | bool (b : Bool)
  | unsigned (n : Nat)
  | signed (n : Int)
  | wideUnsigned (n : Nat)
  | wideSigned (n : Int)
  | float (x : Binary64)
  | str (s : String)
  | seq
  | map

end Decode

namespace Decimal

open Decode

def expecting : String := "a Decimal type representing a fixed-point number"

/-- The decimal of a scalar. -/
def ofScalar : Scalar → Except DecodeError Decimal
  | .unit => .error (.invalidType .unit expecting)
  | .bool b => .error (.invalidType (.bool b) expecting)
  | .unsigned n => match ofNat? n with
    | some d => .ok d
    | none => .error (.invalidValue (.unsigned n) expecting)
  | .signed n => match ofInt? n with
    | some d => .ok d
    | none => .error (.invalidValue (.signed n) expecting)
  | .wideUnsigned n =>
    .error (.invalidType (.other ("integer `" ++ toString n ++ "` as u128")) expecting)
  | .wideSigned n =>
    .error (.invalidType (.other ("integer `" ++ toString n ++ "` as i128")) expecting)
  | .float x => match ofString? (FloatStyle.plain.render x) with
    | some d => .ok d
    | none => .error (.invalidValue (.float x) expecting)
  | .str s => match read? s with
    | some d => .ok d
    | none => .error (.invalidValue (.str s) expecting)
  | .seq => .error (.invalidType .seq expecting)
  | .map => .error (.invalidType .map expecting)

end Decimal

end CardLedger
