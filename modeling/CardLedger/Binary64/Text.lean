import CardLedger.Binary64.Shortest

/-!
# Writing doubles

A double is written from its shortest digits (`Binary64.shortest`). A `FloatStyle` holds the
decisions that differ between the places a double is written: which positions of the decimal
point are written positionally rather than with an exponent, whether a whole number keeps a
`.0`, whether a non-negative exponent carries a `+`, and which of two equally near shortest
digit strings is taken. Infinities are `inf` and `-inf`, NaN is
`NaN`, and negative zero keeps its sign.
-/

namespace CardLedger

/-- How a double is written. -/
structure FloatStyle where
  /-- The positions of the point (`0.d₁d₂… · 10 ^ point`) written positionally; `none` means
  every position. -/
  positional : Option (Int × Int) := none
  /-- Whether a whole number in positional form ends in `.0`. -/
  pointZero : Bool := false
  /-- Whether a non-negative exponent is written with a `+`. -/
  exponentPlus : Bool := false
  /-- Whether an exact tie between two shortest digit strings goes to the upper one rather than
  to the one ending in an even digit. -/
  tiesUp : Bool := false

namespace FloatStyle

/-- The shortest positional form, with no `.0` and ties to the upper digits: the form whose
text reads back as a decimal. -/
def plain : FloatStyle := { tiesUp := true }

def zeros (n : Nat) : String := String.ofList (List.replicate n '0')

def digitText (ds : List Nat) : String := String.ofList (ds.map fun d => Char.ofNat (48 + d))

/-- Positional text of `0.ds · 10 ^ point`. -/
def positionalText (st : FloatStyle) (ds : List Nat) (point : Int) : String :=
  if point ≤ 0 then "0." ++ zeros (-point).toNat ++ digitText ds
  else if point.toNat < ds.length then
    digitText (ds.take point.toNat) ++ "." ++ digitText (ds.drop point.toNat)
  else
    digitText ds ++ zeros (point.toNat - ds.length) ++ (if st.pointZero then ".0" else "")

/-- Exponent text of `0.ds · 10 ^ point`: one digit before the point. -/
def exponentText (st : FloatStyle) (ds : List Nat) (point : Int) : String :=
  let mantissa := match ds with
    | [] => "0"
    | [d] => digitText [d]
    | d :: rest => digitText [d] ++ "." ++ digitText rest
  let k := point - 1
  let exponent := if k < 0 then "-" ++ toString k.natAbs
    else (if st.exponentPlus then "+" else "") ++ toString k.natAbs
  mantissa ++ "e" ++ exponent

/-- The text of a positive value's digits in this style. -/
def magnitudeText (st : FloatStyle) (ds : List Nat) (point : Int) : String :=
  match st.positional with
  | none => st.positionalText ds point
  | some (lo, hi) =>
    if lo ≤ point ∧ point ≤ hi then st.positionalText ds point else st.exponentText ds point

/-- The text of a double in this style. -/
def render (st : FloatStyle) : Binary64 → String
  | .nan => "NaN"
  | .infinite negative => if negative then "-inf" else "inf"
  | .finite negative m e =>
    let sign := if negative then "-" else ""
    if m = 0 then sign ++ (if st.pointZero then "0.0" else "0")
    else
      let (ds, point) := Binary64.shortest st.tiesUp m e
      sign ++ st.magnitudeText ds point

example : plain.render (.finite false 1 (-1)) = "0.5" := by decide +kernel

end FloatStyle

end CardLedger
