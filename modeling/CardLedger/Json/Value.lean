import CardLedger.Binary64.Text

/-!
# JSON values and their compact text

A `JsonValue` is a JSON document as a tree. Numbers keep the kind a reader gives them: a natural
number below `2 ^ 64`, a negative integer down to `-2 ^ 63`, or a double for everything else.

`JsonValue.compact` writes a value with no spaces, object members in the order they are held.
Strings are quoted with `quote`: the quote and the backslash are escaped, the control characters
with a short escape where JSON has one (`\b`, `\t`, `\n`, `\f`, `\r`) and as `\u00XX` (lowercase
hexadecimal) otherwise; every other character is written as it is.
-/

namespace CardLedger

/-- A JSON number as a reader classifies it. -/
inductive JsonNumber where
  | unsigned (n : Nat)
  | negative (n : Int)
  | float (x : Binary64)

/-- A JSON document. -/
inductive JsonValue where
  | null
  | bool (b : Bool)
  | number (n : JsonNumber)
  | string (s : String)
  | array (items : List JsonValue)
  | object (members : List (String × JsonValue))

namespace Json

def hexDigit (d : Nat) : Char := if d < 10 then Char.ofNat (48 + d) else Char.ofNat (87 + d)

/-- One character of a quoted JSON string. -/
def escapeChar (c : Char) : List Char :=
  if c = '"' then ['\\', '"']
  else if c = '\\' then ['\\', '\\']
  else if c = '\n' then ['\\', 'n']
  else if c = '\r' then ['\\', 'r']
  else if c = '\t' then ['\\', 't']
  else if c = '\x08' then ['\\', 'b']
  else if c = '\x0c' then ['\\', 'f']
  else if c.toNat < 0x20 then ['\\', 'u', '0', '0', hexDigit (c.toNat / 16), hexDigit (c.toNat % 16)]
  else [c]

def quote (s : String) : String := "\"" ++ String.ofList (s.toList.flatMap escapeChar) ++ "\""

/-- How JSON writes a double: positionally while the point stands at most four places before
the first digit and at most sixteen after it, with `.0` on whole numbers, and otherwise with one
digit before the point and an exponent that always carries its sign. -/
def floatStyle : FloatStyle := { positional := some (-4, 16), pointZero := true, exponentPlus := true }

end Json

/-- The text of a JSON number: integers in decimal, doubles in their shortest form. -/
def JsonNumber.text : JsonNumber → String
  | .unsigned n => toString n
  | .negative n => toString n
  | .float x =>
    match x with
    | .finite .. => Json.floatStyle.render x
    | _ => "null"

mutual

/-- The compact text of a value. -/
def JsonValue.compact : JsonValue → String
  | .null => "null"
  | .bool b => toString b
  | .number n => n.text
  | .string s => Json.quote s
  | .array items => "[" ++ JsonValue.compactItems items ++ "]"
  | .object members => "\x7b" ++ JsonValue.compactMembers members ++ "\x7d"

/-- The compact texts of array items, separated by commas. -/
def JsonValue.compactItems : List JsonValue → String
  | [] => ""
  | [v] => v.compact
  | v :: rest => v.compact ++ "," ++ JsonValue.compactItems rest

/-- The compact texts of object members, separated by commas. -/
def JsonValue.compactMembers : List (String × JsonValue) → String
  | [] => ""
  | [(k, v)] => Json.quote k ++ ":" ++ v.compact
  | (k, v) :: rest => Json.quote k ++ ":" ++ v.compact ++ "," ++ JsonValue.compactMembers rest

end

example : (JsonValue.object [("a", .string "x\n")]).compact = "\x7b\"a\":\"x\\n\"\x7d" := by
  decide +kernel

end CardLedger
