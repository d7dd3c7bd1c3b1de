import CardLedger.Binary64.Text
import CardLedger.Text.Escaped

/-!
# Why a value could not be decoded

Decoding a structured value (from JSON text, a JSON tree or a CSV row) into a card type fails
for a few reasons: the input holds a value of the wrong kind, a value of the right kind that the
type refuses, a sequence of the wrong length, an unknown enum variant, a missing or repeated
field, or a refusal of the type's own checks. `DecodeError.message` writes each one.

A `Found` is the input value named in a message. How a float and the empty value are written
differs between the readers, so `Found.text` takes a `FoundStyle`.
-/

namespace CardLedger

namespace Decode

/-- The input value a decoder found. -/
inductive Found where
  | bool (b : Bool)
  | unsigned (n : Nat)
  | signed (n : Int)
  | float (x : Binary64)
  | str (s : String)
  | unit
  | seq
  | map
  | other (text : String)

/-- How a reader writes floats and the empty value in its messages. -/
structure FoundStyle where
  float : FloatStyle
  unit : String

def hexText (n : Nat) : String := String.ofList (Nat.toDigits 16 n)

/-- One character of a quoted text in a message. -/
def quoteChar (c : Char) : List Char :=
  if c = '"' then ['\\', '"']
  else if c = '\\' then ['\\', '\\']
  else if c = '\n' then ['\\', 'n']
  else if c = '\r' then ['\\', 'r']
  else if c = '\t' then ['\\', 't']
  else if c = '\x00' then ['\\', '0']
  else if Text.isEscaped c then ['\\', 'u', '\x7b'] ++ (hexText c.toNat).toList ++ ['\x7d']
  else [c]

def quote (s : String) : String := "\"" ++ String.ofList (s.toList.flatMap quoteChar) ++ "\""

namespace Found

/-- The words for a found value. -/
def text (st : FoundStyle) : Found → String
  | .bool b => "boolean `" ++ toString b ++ "`"
  | .unsigned n => "integer `" ++ toString n ++ "`"
  | .signed n => "integer `" ++ toString n ++ "`"
  | .float x => "floating point `" ++ st.float.render x ++ "`"
  | .str s => "string " ++ quote s
  | .unit => st.unit
  | .seq => "sequence"
  | .map => "map"
  | .other t => t

end Found

/-- The choices a message lists: `a`, `a` or `b`, or one of `a`, `b`, …. -/
def choices : List String → String
  | [] => "there are no variants"
  | [a] => "expected `" ++ a ++ "`"
  | [a, b] => "expected `" ++ a ++ "` or `" ++ b ++ "`"
  | names => "expected one of " ++ ", ".intercalate (names.map fun n => "`" ++ n ++ "`")

/-- A reason a value could not be decoded. -/
inductive DecodeError where
  | invalidType (found : Found) (expected : String)
  | invalidValue (found : Found) (expected : String)
  | invalidLength (length : Nat) (expected : String)
  | unknownVariant (name : String) (variants : List String)
  | missingField (name : String)
  | duplicateField (name : String)
  | custom (text : String)

/-- The message of a decoding failure. -/
def DecodeError.message (st : FoundStyle) : DecodeError → String
  | .invalidType found expected => "invalid type: " ++ found.text st ++ ", expected " ++ expected
  | .invalidValue found expected => "invalid value: " ++ found.text st ++ ", expected " ++ expected
  | .invalidLength n expected => "invalid length " ++ toString n ++ ", expected " ++ expected
  | .unknownVariant name variants => "unknown variant `" ++ name ++ "`, " ++ choices variants
  | .missingField name => "missing field `" ++ name ++ "`"
  | .duplicateField name => "duplicate field `" ++ name ++ "`"
  | .custom text => text

example : choices ["user", "admin"] = "expected `user` or `admin`" := by decide

end Decode

end CardLedger
