/-!
# Identifiers

A `Uuid` is a 128-bit number. Its text is 32 lowercase hexadecimal digits in the groups
8-4-4-4-12. Reading accepts four shapes: 32 bare digits, the grouped form, the grouped form in
braces, and the grouped form after `urn:uuid:`. Both cases of hexadecimal digit are accepted.
A text that is refused gets a diagnosis, `Uuid.Refusal`, whose message names the first thing wrong.

Identifiers are ordered as numbers, which is the order of their sixteen bytes read from the
most significant one.
-/

namespace CardLedger

/-- A 128-bit identifier. -/
structure Uuid where
  bits : Nat
  bits_lt : bits < Nat.pow 2 128
deriving DecidableEq

namespace Uuid

def ofNat (n : Nat) : Uuid := ⟨n % Nat.pow 2 128, Nat.mod_lt _ (Nat.two_pow_pos 128)⟩

def nil : Uuid := ofNat 0

instance : Ord Uuid := ⟨fun a b => compare a.bits b.bits⟩

instance : Hashable Uuid := ⟨fun u => hash u.bits⟩

instance : LT Uuid := ⟨fun a b => a.bits < b.bits⟩

instance : LE Uuid := ⟨fun a b => a.bits ≤ b.bits⟩

instance (a b : Uuid) : Decidable (a < b) := inferInstanceAs (Decidable (a.bits < b.bits))

instance (a b : Uuid) : Decidable (a ≤ b) := inferInstanceAs (Decidable (a.bits ≤ b.bits))

theorem ext_bits {a b : Uuid} (h : a.bits = b.bits) : a = b := by
  cases a; cases b; simp only at h; subst h; rfl

def hexDigit (d : Nat) : Char :=
  if d < 10 then Char.ofNat (48 + d) else Char.ofNat (87 + d)

def hexField (width value : Nat) : String :=
  String.ofList ((List.range width).reverse.map fun i => hexDigit (value / Nat.pow 16 i % 16))

/-- The grouped lowercase text, such as `6f1c2a3e-8d4b-4f0a-9b7e-5c2d1e8f3a60`. -/
def toText (u : Uuid) : String :=
  hexField 8 (u.bits / Nat.pow 2 96) ++ "-" ++
    hexField 4 (u.bits / Nat.pow 2 80 % Nat.pow 2 16) ++ "-" ++
    hexField 4 (u.bits / Nat.pow 2 64 % Nat.pow 2 16) ++ "-" ++
    hexField 4 (u.bits / Nat.pow 2 48 % Nat.pow 2 16) ++ "-" ++
    hexField 12 (u.bits % Nat.pow 2 48)

instance : ToString Uuid := ⟨toText⟩

def version (u : Uuid) : Nat := u.bits / Nat.pow 2 76 % 16

def variantBits (u : Uuid) : Nat := u.bits / Nat.pow 2 62 % 4

/-- A random identifier of version 4 made from 128 random bits: the version nibble becomes `4`
and the variant bits become `10`. -/
def randomV4 (random : Nat) : Uuid :=
  let r := random % Nat.pow 2 128
  let withVersion := r - r / Nat.pow 2 76 % 16 * Nat.pow 2 76 + 4 * Nat.pow 2 76
  ofNat (withVersion - withVersion / Nat.pow 2 62 % 4 * Nat.pow 2 62 + 2 * Nat.pow 2 62)

/-! ## Reading -/

/-- The value of an ASCII hexadecimal digit of either case. -/
def hexValue? (b : UInt8) : Option Nat :=
  if 48 ≤ b ∧ b ≤ 57 then some (b.toNat - 48)
  else if 97 ≤ b ∧ b ≤ 102 then some (b.toNat - 87)
  else if 65 ≤ b ∧ b ≤ 70 then some (b.toNat - 55)
  else none

def hexNumber? (digits : List UInt8) : Option Nat :=
  digits.foldlM (fun acc b => (hexValue? b).map (acc * 16 + ·)) 0

/-- Bytes of the grouped form: 36 bytes with hyphens at 8, 13, 18 and 23. -/
def groupedNumber? (bytes : List UInt8) : Option Nat :=
  if bytes.length = 36 ∧ bytes[8]? = some 45 ∧ bytes[13]? = some 45 ∧ bytes[18]? = some 45 ∧
      bytes[23]? = some 45 then
    hexNumber? (bytes.take 8 ++ (bytes.drop 9).take 4 ++ (bytes.drop 14).take 4 ++
      (bytes.drop 19).take 4 ++ bytes.drop 24)
  else none

def urnLead : List UInt8 := [117, 114, 110, 58, 117, 117, 105, 100, 58]

def lowerByte (b : UInt8) : UInt8 := if 65 ≤ b ∧ b ≤ 90 then b + 32 else b

def hasUrnLead (bytes : List UInt8) : Bool := (bytes.take 9).map lowerByte = urnLead

/-- The number of an accepted text, by its byte length: 32 bare digits, 36 grouped, 38 grouped
in braces, 45 grouped after `urn:uuid:` (in any case). -/
def number? (bytes : List UInt8) : Option Nat :=
  match bytes.length with
  | 32 => hexNumber? bytes
  | 36 => groupedNumber? bytes
  | 38 =>
    if bytes.head? = some 123 ∧ bytes.getLast? = some 125 then
      groupedNumber? ((bytes.drop 1).take 36)
    else none
  | 45 => if hasUrnLead bytes then groupedNumber? (bytes.drop 9) else none
  | _ => none

def longestText : Nat := 45

/-- Why a text is not an identifier. -/
inductive Refusal where
  /-- A character that is no hexadecimal digit or hyphen, at a byte offset from the start of the
  digits (after a brace or the `urn:uuid:` lead). -/
  | character (c : Char) (position : Nat)
  /-- A text longer than any identifier, or bare digits of the wrong count: the whole text's
  byte length. -/
  | wrongLength (bytes : Nat)
  /-- Grouped digits with other than five groups. -/
  | groupCount (count : Nat)
  /-- A group of the wrong length; groups are numbered from 0. -/
  | groupLength (group length : Nat)
deriving DecidableEq, Repr

def groupWidths : List Nat := [8, 4, 4, 4, 12]

def groupStarts : List Nat := [0, 9, 14, 19, 24]

/-- The text of a refusal. -/
def Refusal.message : Refusal → String
  | .character c position => "invalid character: found `" ++ c.toString ++ "` at " ++ toString position
  | .wrongLength bytes => "invalid length: found " ++ toString bytes
  | .groupCount count => "invalid group count: expected 5, found " ++ toString count
  | .groupLength group length =>
    "invalid group length in group " ++ toString group ++ ": expected " ++
      toString (groupWidths.getD group 0) ++ ", found " ++ toString length

/-- Walks the body of a refused text: the first character that is neither a hexadecimal digit
nor a hyphen, or else the byte offsets of the hyphens. -/
def scanBody : List Char → Nat → List Nat → Except Refusal (List Nat)
  | [], _, hyphens => .ok hyphens.reverse
  | c :: rest, index, hyphens =>
    if c.toNat ≥ 128 then .error (.character c index)
    else if c = '-' then scanBody rest (index + 1) (index :: hyphens)
    else if (hexValue? c.toNat.toUInt8).isSome then scanBody rest (index + 1) hyphens
    else .error (.character c index)

/-- The first group whose closing hyphen is misplaced, given the first four hyphen offsets; when
all four stand right, the last group, measured as the whole text's byte length less 24. -/
def misplacedGroup (hyphens : List Nat) (textLength : Nat) : Refusal :=
  let wrong := (List.range 4).find? fun i => hyphens.getD i 0 + 1 ≠ groupStarts.getD (i + 1) 0
  match wrong with
  | some i => .groupLength i (hyphens.getD i 0 - groupStarts.getD i 0)
  | none => .groupLength 4 (textLength - 24)

/-- The diagnosis of a text that is not an identifier. -/
def diagnose (text : String) : Refusal :=
  let chars := text.toList
  let braced := chars.length ≥ 2 ∧ chars.head? = some '{' ∧ chars.getLast? = some '}'
  let urn := hasUrnLead text.toUTF8.toList
  let (body, bare) :=
    if braced then ((chars.drop 1).dropLast, false)
    else if urn then (chars.drop 9, false)
    else (chars, true)
  if text.utf8ByteSize > longestText then .wrongLength text.utf8ByteSize
  else
    match scanBody body 0 [] with
    | .error refusal => refusal
    | .ok hyphens =>
      if hyphens.isEmpty ∧ bare then .wrongLength text.utf8ByteSize
      else if hyphens.length ≠ 4 then .groupCount (hyphens.length + 1)
      else misplacedGroup hyphens text.utf8ByteSize

/-- Reads an identifier in any of the four accepted shapes. -/
def parse (text : String) : Except Refusal Uuid :=
  match number? text.toUTF8.toList with
  | some n => .ok (ofNat n)
  | none => .error (diagnose text)

example : hexDigit 11 = 'b' := by decide

end Uuid

end CardLedger
