/-!
# Double-precision numbers

A `Binary64` is an IEEE 754 double: a finite value `± significand · 2 ^ exponent`, an infinity
or NaN. Finite values are kept canonical: the significand is below `2 ^ 53`, the exponent is at
least `-1074`, and a significand below `2 ^ 52` occurs only at that least exponent (subnormal
numbers).

Every arithmetic result is `roundRatio`: the exact value, a ratio of natural numbers, rounded to
the nearest double with ties to the even significand, and to infinity when it passes the
largest finite double.
-/

namespace CardLedger

/-- An IEEE 754 double. -/
inductive Binary64 where
  | finite (negative : Bool) (significand : Nat) (exponent : Int)
  | infinite (negative : Bool)
  | nan
deriving DecidableEq, Repr

namespace Binary64

def minExponent : Int := -1074

def maxExponent : Int := 971

def twoPow (k : Int) : Nat × Nat :=
  if k ≥ 0 then (Nat.pow 2 k.toNat, 1) else (1, Nat.pow 2 (-k).toNat)

/-- The integer part of the binary logarithm of `num / den`, for positive `num` and `den`. -/
def log2Ratio (num den : Nat) : Int :=
  let guess : Int := (num.log2 : Int) - den.log2
  let (pn, pd) := twoPow guess
  -- num / den ≥ 2 ^ guess ⇔ num · pd ≥ den · pn
  if num * pd ≥ den * pn then guess else guess - 1

/-- Division of naturals rounded to nearest, ties to an even quotient. -/
def divRoundEven (n d : Nat) : Nat :=
  let q := n / d
  let r := n % d
  if 2 * r > d ∨ (2 * r = d ∧ q % 2 = 1) then q + 1 else q

/-- The double nearest to `± num / den` (with `den > 0`). -/
def roundRatio (negative : Bool) (num den : Nat) : Binary64 :=
  if num = 0 then .finite negative 0 minExponent
  else
    let k := log2Ratio num den
    let e := max (k - 52) minExponent
    let (pn, pd) := twoPow (-e)
    let m := divRoundEven (num * pn) (den * pd)
    let (m, e) := if m = Nat.pow 2 53 then (Nat.pow 2 52, e + 1) else (m, e)
    if e > maxExponent then .infinite negative else .finite negative m e

def ofNat (n : Nat) : Binary64 := roundRatio false n 1

def pow10 (k : Nat) : Binary64 := roundRatio false (Nat.pow 10 k) 1

def isInfinite : Binary64 → Bool
  | .infinite _ => true
  | _ => false

def isZero : Binary64 → Bool
  | .finite _ 0 _ => true
  | _ => false

def neg : Binary64 → Binary64
  | .finite s m e => .finite (!s) m e
  | .infinite s => .infinite (!s)
  | .nan => .nan

/-- The exact product, rounded. -/
def mul : Binary64 → Binary64 → Binary64
  | .finite s m e, .finite s' m' e' =>
    let (pn, pd) := twoPow (e + e')
    roundRatio (s != s') (m * m' * pn) pd
  | .nan, _ | _, .nan => .nan
  | .infinite s, .finite s' m' _ => if m' = 0 then .nan else .infinite (s != s')
  | .finite s m _, .infinite s' => if m = 0 then .nan else .infinite (s != s')
  | .infinite s, .infinite s' => .infinite (s != s')

/-- The exact quotient by a finite non-zero double, rounded. -/
def div : Binary64 → Binary64 → Binary64
  | .finite s m e, .finite s' m' e' =>
    if m' = 0 then (if m = 0 then .nan else .infinite (s != s'))
    else
      let (pn, pd) := twoPow (e - e')
      roundRatio (s != s') (m * pn) (m' * pd)
  | .infinite s, .finite s' _ _ => .infinite (s != s')
  | .finite s _ _, .infinite s' => .finite (s != s') 0 minExponent
  | _, _ => .nan

/-- The exact value of a finite double as a signed numerator over a denominator. -/
def ratio? : Binary64 → Option (Int × Nat)
  | .finite s m e =>
    let (pn, pd) := twoPow e
    some ((if s then -1 else 1) * ((m * pn : Nat) : Int), pd)
  | _ => none

/-- The exact sum, rounded. An exact zero sum is positive unless both terms are negative. -/
def add : Binary64 → Binary64 → Binary64
  | x@(.finite s _ _), y@(.finite s' _ _) =>
    match x.ratio?, y.ratio? with
    | some (a, d), some (b, d') =>
      let total := a * d' + b * d
      if total = 0 then .finite (s && s') 0 minExponent
      else roundRatio (total < 0) total.natAbs (d * d')
    | _, _ => .nan
  | .nan, _ | _, .nan => .nan
  | .infinite s, .infinite s' => if s = s' then .infinite s else .nan
  | .infinite s, .finite _ _ _ => .infinite s
  | .finite _ _ _, .infinite s => .infinite s

/-- Whether `x < y` for finite doubles; never for an infinity or NaN. -/
def lt (x y : Binary64) : Bool :=
  match x.ratio?, y.ratio? with
  | some (a, d), some (b, d') => a * d' < b * d
  | _, _ => false

example : ofNat 3 = .finite false (3 * Nat.pow 2 51) (-51) := by decide

end Binary64

end CardLedger
