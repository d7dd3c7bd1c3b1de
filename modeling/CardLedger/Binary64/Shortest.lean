import CardLedger.Binary64.Basic

/-!
# Shortest decimal digits of a double

A positive double `m · 2 ^ e` stands for every real that rounds to it: the interval reaching
half-way to each neighbouring double, its ends included exactly when `m` is even. The lower
neighbour is only half as far when `m` is the least normal significand `2 ^ 52` above the least
exponent.

`Binary64.shortest` tries grids of 1, 2, … 17 significant decimal digits. On each grid it tests
the two grid points around the value, in exact natural-number arithmetic; the first grid with a
point in the interval wins, the nearer point if both are in; an exact tie goes to the upper
point or to the even one, as the caller asks (`tiesUp`). The
answer is the digits without trailing zeros and the position of the decimal point:
`0.d₁d₂…dₙ · 10 ^ point`.
-/

namespace CardLedger

namespace Binary64

/-- Natural numbers and powers of two and ten as ratios. -/
def ratio (m : Nat) (twoExp tenExp : Int) : Nat × Nat :=
  let (tn, td) := twoPow twoExp
  let (dn, dd) := if tenExp ≥ 0 then (Nat.pow 10 tenExp.toNat, 1) else (1, Nat.pow 10 (-tenExp).toNat)
  (m * tn * dn, td * dd)

def atLeastPow10 (m : Nat) (e k : Int) : Bool :=
  let (n, d) := ratio m e (-k)
  n ≥ d

def raiseExponent (m : Nat) (e : Int) : Nat → Int → Int
  | 0, k => k
  | fuel + 1, k => if atLeastPow10 m e (k + 1) then raiseExponent m e fuel (k + 1) else k

def lowerExponent (m : Nat) (e : Int) : Nat → Int → Int
  | 0, k => k
  | fuel + 1, k => if atLeastPow10 m e k then k else lowerExponent m e fuel (k - 1)

def decimalExponent (m : Nat) (e : Int) : Int :=
  let guess : Int := ((m.log2 : Int) + e) * 30103 / 100000
  raiseExponent m e 4 (lowerExponent m e 4 guess)

def digitsOf (n : Nat) : List Nat := (Nat.toDigits 10 n).map fun c => c.toNat - 48

def dropTrailingZeros (ds : List Nat) : List Nat :=
  (ds.reverse.dropWhile (· == 0)).reverse

/-- The grid point picked on the grid of spacing `10 ^ t`, if one lies in the interval of the
double `m · 2 ^ e`. -/
def gridPoint (tiesUp : Bool) (m : Nat) (e : Int) (t : Int) : Option Nat :=
  let (num, den) := ratio m e (-t)
  let low := num / den
  let rem := num % den
  if rem = 0 then some low
  else
    let inclusive := m % 2 = 0
    let lowerCloser := m = Nat.pow 2 52 ∧ e > minExponent
    -- the gaps to the ends of the interval, on the scale of the grid
    let (hn, hd) := ratio 1 (e - 1) (-t)
    let (ln, ld) := if lowerCloser then ratio 1 (e - 2) (-t) else (hn, hd)
    let lowIn := if inclusive then rem * ld ≤ ln * den else rem * ld < ln * den
    let up := den - rem
    let highIn := if inclusive then up * hd ≤ hn * den else up * hd < hn * den
    if lowIn ∧ highIn then
      (if rem < up ∨ (rem = up ∧ !tiesUp ∧ low % 2 = 0) then some low else some (low + 1))
    else if lowIn then some low
    else if highIn then some (low + 1)
    else none

/-- Searches the grids of `n`, `n + 1`, … significant digits. -/
def searchGrids (tiesUp : Bool) (m : Nat) (e k : Int) : Nat → Nat → List Nat × Int
  | _, 0 => (digitsOf m, 0)
  | n, fuel + 1 =>
    let t := k - n + 1
    match gridPoint tiesUp m e t with
    | some c =>
      let ds := digitsOf c
      (dropTrailingZeros ds, t + ds.length)
    | none => searchGrids tiesUp m e k (n + 1) fuel

def shortest (tiesUp : Bool) (m : Nat) (e : Int) : List Nat × Int :=
  searchGrids tiesUp m e (decimalExponent m e) 1 17

example : shortest false 1 (-1074) = ([5], -323) := by decide +kernel

end Binary64

end CardLedger
