import CardLedger.Json.Value
import CardLedger.Decode.Error

/-!
# Reading JSON text

A `Cursor` walks a JSON text one character at a time and knows its byte offset, its line and
where that line starts. Steps of a reader run in `JsonM`; a failure is a `JsonError`, a message
with the line and column where it was found, when one is known.

Columns count bytes from the start of the line. A syntax error points either at the reader's
place (`fail`) or one byte past it, at the character it looked at without taking it
(`failAhead`). Errors of the decoded types are raised without a place (`refuse`); the decoder
that raised them gives them its place after its value is read (`placed`).

The pieces here follow the JSON grammar:

* whitespace is space, tab, line feed and carriage return;
* a string is read after its opening quote, with the escapes of JSON and surrogate pairs for
  characters beyond the basic plane; an unescaped control character is an error;
* a number is an optional minus, then `0` or a non-zero digit and more digits, an optional
  fraction and an optional exponent. Integers that fit the 64-bit ranges stay integers; all
  other numbers become doubles (`Json.doubleOf`);
* `skipValue` reads past a value of any kind, checking only its syntax: the escapes of its strings
  are not decoded, so a lone surrogate passes.
-/

namespace CardLedger

namespace Json

/-- Where a reader stands in a text. -/
structure Cursor where
  rest : List Char
  index : Nat := 0
  line : Nat := 1
  lineStart : Nat := 0

/-- A reading failure: its message and, when known, its line and column. -/
structure JsonError where
  message : String
  position : Option (Nat × Nat) := none

/-- The text of a failure, with its place when it has one. -/
def JsonError.text (e : JsonError) : String :=
  match e.position with
  | some (line, column) =>
    e.message ++ " at line " ++ toString line ++ " column " ++ toString column
  | none => e.message

/-- A step of a JSON reader. A failing step keeps the place it reached, so that a failure can be
placed where reading stopped. -/
abbrev JsonM := ExceptT JsonError (StateM Cursor)

/-- How JSON readers name found values: doubles in the style JSON writes them, and the empty
value as `null`. -/
def foundStyle : Decode.FoundStyle := { float := floatStyle, unit := "null" }

def peek : JsonM (Option Char) := do pure (← get).rest.head?

/-- Takes the next character. -/
def eat : JsonM Unit :=
  modify fun c =>
    match c.rest with
    | [] => c
    | ch :: rest =>
      let index := c.index + ch.utf8Size
      if ch = '\n' then { rest, index, line := c.line + 1, lineStart := index }
      else { c with rest, index }

/-- Takes and returns the next character. -/
def next : JsonM (Option Char) := do
  let c ← peek
  eat
  pure c

def here : JsonM (Nat × Nat) := do
  let c ← get
  pure (c.line, c.index - c.lineStart)

/-- The place one byte ahead of the reader. -/
def ahead : JsonM (Nat × Nat) := do
  let c ← get
  match c.rest with
  | [] => pure (c.line, c.index - c.lineStart)
  | '\n' :: _ => pure (c.line + 1, 0)
  | _ :: _ => pure (c.line, c.index + 1 - c.lineStart)

def fail {α : Type} (message : String) : JsonM α := do
  throw { message, position := some (← here) }

def failAhead {α : Type} (message : String) : JsonM α := do
  throw { message, position := some (← ahead) }

def refuse {α : Type} (e : Decode.DecodeError) : JsonM α :=
  throw { message := e.message foundStyle }

/-- Runs a decoder and gives its placeless errors the reader's place at the time they arrive. -/
def placed {α : Type} (m : JsonM α) : JsonM α :=
  tryCatch m fun e => do
    match e.position with
    | some _ => throw e
    | none => throw { e with position := some (← here) }

/-- Runs a step, and on failure runs `after` (whose own failure is ignored) before failing. -/
def onFailure {α : Type} (m : JsonM α) (after : JsonM Unit) : JsonM α :=
  tryCatch m fun e => do
    tryCatch after fun _ => pure ()
    throw e

def isBlank (c : Char) : Bool := c = ' ' ∨ c = '\n' ∨ c = '\t' ∨ c = '\r'

/-- Takes whitespace, up to `fuel` characters. -/
def skipBlanks : Nat → JsonM Unit
  | 0 => pure ()
  | fuel + 1 => do
    match ← peek with
    | some c => if isBlank c then do eat; skipBlanks fuel else pure ()
    | none => pure ()

def peekValue : JsonM (Option Char) := do
  skipBlanks (← get).rest.length
  peek

/-- Takes the rest of a literal word. -/
def expectWord : List Char → JsonM Unit
  | [] => pure ()
  | c :: cs => do
    match ← next with
    | none => fail "EOF while parsing a value"
    | some d => if d = c then expectWord cs else fail "expected ident"

/-! ## Strings -/

/-- The value of a hexadecimal digit. -/
def hexValue? (c : Char) : Option Nat :=
  if '0' ≤ c ∧ c ≤ '9' then some (c.toNat - 48)
  else if 'a' ≤ c ∧ c ≤ 'f' then some (c.toNat - 87)
  else if 'A' ≤ c ∧ c ≤ 'F' then some (c.toNat - 55)
  else none

/-- The value of four hexadecimal digits. -/
def quadValue? : List Char → Option Nat
  | [a, b, c, d] => do
    pure ((← hexValue? a) * 4096 + (← hexValue? b) * 256 + (← hexValue? c) * 16 + (← hexValue? d))
  | _ => none

/-- Takes characters until `bytes` bytes are taken. -/
def eatBytes : Nat → Nat → JsonM Unit
  | 0, _ => pure ()
  | fuel + 1, bytes => do
    let c ← get
    match c.rest with
    | ch :: _ => if bytes > 0 then do eat; eatBytes fuel (bytes - min bytes ch.utf8Size) else pure ()
    | [] => pure ()

/-- Reads the four hexadecimal digits of a `\u` escape. -/
def hexQuad : JsonM Nat := do
  let c ← get
  let bytes := c.rest.foldl (fun n ch => n + ch.utf8Size) 0
  if bytes < 4 then
    eatBytes (c.rest.length + 1) bytes
    fail "EOF while parsing a string"
  else
    let start := c.index
    match quadValue? (c.rest.take 4) with
    | some v =>
      if (c.rest.take 4).all fun ch => ch.toNat < 128 then
        eatBytes 5 4
        pure v
      else
        eatBytes 5 4
        fail "invalid escape"
    | none =>
      eatBytes 5 4
      let c' ← get
      throw { message := "invalid escape", position := some (c'.line, start + 4 - c'.lineStart) }

def isLeading (n : Nat) : Bool := 0xD800 ≤ n ∧ n ≤ 0xDBFF

def isTrailing (n : Nat) : Bool := 0xDC00 ≤ n ∧ n ≤ 0xDFFF

/-- Reads a `\u` escape after the `u`, with the second half of a surrogate pair. -/
def unicodeEscape : JsonM Char := do
  let n ← hexQuad
  if isTrailing n then fail "lone leading surrogate in hex escape"
  else if !isLeading n then pure (Char.ofNat n)
  else
    match ← peek with
    | none => fail "EOF while parsing a string"
    | some '\\' => eat
    | some _ => do eat; fail "unexpected end of hex escape"
    match ← peek with
    | none => fail "EOF while parsing a string"
    | some 'u' => eat
    | some _ => do eat; fail "unexpected end of hex escape"
    let n2 ← hexQuad
    if !isTrailing n2 then fail "lone leading surrogate in hex escape"
    else pure (Char.ofNat ((n - 0xD800) * 1024 + (n2 - 0xDC00) + 0x10000))

/-- Reads an escape after its backslash. -/
def escape : JsonM Char := do
  match ← next with
  | none => fail "EOF while parsing a string"
  | some '"' => pure '"'
  | some '\\' => pure '\\'
  | some '/' => pure '/'
  | some 'b' => pure '\x08'
  | some 'f' => pure '\x0c'
  | some 'n' => pure '\n'
  | some 'r' => pure '\r'
  | some 't' => pure '\t'
  | some 'u' => unicodeEscape
  | some _ => fail "invalid escape"

/-- Reads the characters of a string up to its closing quote. -/
def stringBody : Nat → List Char → JsonM String
  | 0, acc => pure (String.ofList acc.reverse)
  | fuel + 1, acc => do
    match ← peek with
    | none => fail "EOF while parsing a string"
    | some '"' => do eat; pure (String.ofList acc.reverse)
    | some '\\' => do
      eat
      let c ← escape
      stringBody fuel (c :: acc)
    | some c =>
      if c.toNat < 0x20 then do
        eat
        fail "control character (\\u0000-\\u001F) found while parsing a string"
      else do
        eat
        stringBody fuel (c :: acc)

def string : JsonM String := do stringBody ((← get).rest.length + 1) []

/-- Takes an escape after its backslash without decoding it: a `\\u` needs its four hexadecimal
digits only, so a surrogate standing alone passes. -/
def skipEscape : JsonM Unit := do
  match ← next with
  | none => fail "EOF while parsing a string"
  | some '"' | some '\\' | some '/' | some 'b' | some 'f' | some 'n' | some 'r' | some 't' =>
    pure ()
  | some 'u' => do let _ ← hexQuad; pure ()
  | some _ => fail "invalid escape"

/-- Takes the characters of a string up to its closing quote without decoding them; a control
character is refused where it stands. -/
def skipStringBody : Nat → JsonM Unit
  | 0 => pure ()
  | fuel + 1 => do
    match ← peek with
    | none => fail "EOF while parsing a string"
    | some '"' => eat
    | some '\\' => do
      eat
      skipEscape
      skipStringBody fuel
    | some c =>
      if c.toNat < 0x20 then fail "control character (\\u0000-\\u001F) found while parsing a string"
      else do
        eat
        skipStringBody fuel

def skipString : JsonM Unit := do skipStringBody ((← get).rest.length + 1)

/-! ## Numbers -/

def maxUnsigned : Nat := Nat.pow 2 64 - 1

def maxExponent : Int := (Nat.pow 2 31 : Nat) - 1

def clampExponent (e : Int) : Int := max (-((Nat.pow 2 31 : Nat) : Int)) (min maxExponent e)

/-- `significand · 10 ^ exponent` as a double: the significand is rounded to a double, then
multiplied or divided by the power of ten (itself rounded) with one more rounding. Beyond
`10 ^ 308` a negative exponent divides by `10 ^ 308` first; a positive one is out of range, as
is a product that reaches infinity. `none` means out of range. -/
def doubleOf (significand : Nat) (exponent : Int) : Option Binary64 :=
  go 8 (Binary64.ofNat significand) exponent
where
  go : Nat → Binary64 → Int → Option Binary64
    | 0, f, _ => some f
    | fuel + 1, f, e =>
      if e.natAbs ≤ 308 then
        if e ≥ 0 then
          let g := f.mul (Binary64.pow10 e.natAbs)
          if g.isInfinite then none else some g
        else some (f.div (Binary64.pow10 e.natAbs))
      else if f.isZero then some f
      else if e ≥ 0 then none
      else go fuel (f.div (Binary64.pow10 308)) (e + 308)

/-- The signed double of a significand and exponent, or the out-of-range error. -/
def finishDouble (positive : Bool) (significand : Nat) (exponent : Int) : JsonM Binary64 :=
  match doubleOf significand exponent with
  | some f => pure (if positive then f else f.neg)
  | none => fail "number out of range"

/-- Takes the remaining digits of a number. -/
def skipDigits : Nat → JsonM Unit
  | 0 => pure ()
  | fuel + 1 => do
    match ← peek with
    | some c => if c.isDigit then do eat; skipDigits fuel else pure ()
    | none => pure ()

def digitValue (c : Char) : Nat := c.toNat - 48

/-- Reads the digits of an exponent after its first digit. -/
def exponentDigits (positive positiveExp : Bool) (significand : Nat) (startExp : Int) :
    Nat → Int → JsonM Binary64
  | 0, exp => finishDouble positive significand (clampExponent (if positiveExp then startExp + exp else startExp - exp))
  | fuel + 1, exp => do
    match ← peek with
    | some c =>
      if c.isDigit then do
        eat
        let exp' := exp * 10 + digitValue c
        if exp' > maxExponent then
          if significand ≠ 0 ∧ positiveExp then fail "number out of range"
          else do
            skipDigits (← get).rest.length
            pure (.finite (!positive) 0 Binary64.minExponent)
        else exponentDigits positive positiveExp significand startExp fuel exp'
      else exponentDigits positive positiveExp significand startExp 0 exp
    | none => exponentDigits positive positiveExp significand startExp 0 exp

/-- Reads an exponent from its `e`. -/
def exponentPart (positive : Bool) (significand : Nat) (startExp : Int) : JsonM Binary64 := do
  eat
  let positiveExp ← match ← peek with
    | some '+' => do eat; pure true
    | some '-' => do eat; pure false
    | _ => pure true
  match ← next with
  | none => fail "EOF while parsing a value"
  | some c =>
    if c.isDigit then do
      let fuel := (← get).rest.length + 1
      exponentDigits positive positiveExp significand startExp fuel (digitValue c)
    else fail "invalid number"

/-- After the digits of a number: an exponent, or the end. -/
def afterDigits (positive : Bool) (significand : Nat) (exponent : Int) : JsonM Binary64 := do
  match ← peek with
  | some 'e' | some 'E' => exponentPart positive significand exponent
  | _ => finishDouble positive significand exponent

/-- Reads fraction digits while the significand fits 64 bits. -/
def fractionDigits (positive : Bool) (before : Int) : Nat → Nat → Int → JsonM Binary64
  | 0, significand, after => afterDigits positive significand (before + after)
  | fuel + 1, significand, after => do
    match ← peek with
    | some c =>
      if c.isDigit then
        let s := significand * 10 + digitValue c
        if s > maxUnsigned then do
          skipDigits (← get).rest.length
          afterDigits positive significand (before + after)
        else do
          eat
          fractionDigits positive before fuel s (after - 1)
      else fractionEnd positive significand before after
    | none => fractionEnd positive significand before after
where
  fractionEnd (positive : Bool) (significand : Nat) (before after : Int) : JsonM Binary64 := do
    if after = 0 then
      match ← peek with
      | some _ => failAhead "invalid number"
      | none => failAhead "EOF while parsing a value"
    else afterDigits positive significand (before + after)

def fractionPart (positive : Bool) (significand : Nat) (before : Int) : JsonM Binary64 := do
  eat
  fractionDigits positive before ((← get).rest.length + 1) significand 0

/-- Reads the integer digits that no longer fit 64 bits: they only raise the exponent. -/
def longDigits (positive : Bool) (significand : Nat) : Nat → Int → JsonM Binary64
  | 0, exponent => finishDouble positive significand exponent
  | fuel + 1, exponent => do
    match ← peek with
    | some '.' => fractionPart positive significand exponent
    | some 'e' | some 'E' => exponentPart positive significand exponent
    | some c =>
      if c.isDigit then do eat; longDigits positive significand fuel (exponent + 1)
      else finishDouble positive significand exponent
    | none => finishDouble positive significand exponent

/-- The number after its integer digits. -/
def numberTail (positive : Bool) (significand : Nat) : JsonM JsonNumber := do
  match ← peek with
  | some '.' => pure (.float (← fractionPart positive significand 0))
  | some 'e' | some 'E' => pure (.float (← exponentPart positive significand 0))
  | _ =>
    if positive then pure (.unsigned significand)
    else if significand = 0 then pure (.float (.finite true 0 Binary64.minExponent))
    else if significand ≤ Nat.pow 2 63 then pure (.negative (-(significand : Int)))
    else pure (.float (Binary64.roundRatio true significand 1))

/-- Reads integer digits while they fit 64 bits. -/
def integerDigits (positive : Bool) : Nat → Nat → JsonM JsonNumber
  | 0, significand => numberTail positive significand
  | fuel + 1, significand => do
    match ← peek with
    | some c =>
      if c.isDigit then
        let s := significand * 10 + digitValue c
        if s > maxUnsigned then
          pure (.float (← longDigits positive significand ((← get).rest.length + 1) 0))
        else do
          eat
          integerDigits positive fuel s
      else numberTail positive significand
    | none => numberTail positive significand

/-- Reads a number after its sign. -/
def number (positive : Bool) : JsonM JsonNumber := do
  match ← next with
  | none => fail "EOF while parsing a value"
  | some '0' =>
    match ← peek with
    | some c => if c.isDigit then failAhead "invalid number" else numberTail positive 0
    | none => numberTail positive 0
  | some c =>
    if '1' ≤ c ∧ c ≤ '9' then integerDigits positive ((← get).rest.length + 1) (digitValue c)
    else fail "invalid number"

/-- A number as a found value. -/
def numberFound : JsonNumber → Decode.Found
  | .unsigned n => .unsigned n
  | .negative n => .signed n
  | .float x => .float x

/-! ## Skipping values -/

/-- Takes an integer part, fraction and exponent without computing the number. -/
def skipNumber : JsonM Unit := do
  match ← next with
  | some '0' =>
    match ← peek with
    | some c => if c.isDigit then failAhead "invalid number" else pure ()
    | none => pure ()
  | some c => if '1' ≤ c ∧ c ≤ '9' then skipDigits (← get).rest.length else fail "invalid number"
  | none => fail "invalid number"
  let exponentRest : JsonM Unit := do
    eat
    match ← peek with
    | some '+' | some '-' => eat
    | _ => pure ()
    match ← next with
    | some c => if c.isDigit then skipDigits (← get).rest.length else fail "invalid number"
    | none => fail "invalid number"
  match ← peek with
  | some '.' => do
    eat
    match ← peek with
    | some c =>
      if c.isDigit then do
        skipDigits (← get).rest.length
        match ← peek with
        | some 'e' | some 'E' => exponentRest
        | _ => pure ()
      else failAhead "invalid number"
    | none => failAhead "invalid number"
  | some 'e' | some 'E' => exponentRest
  | _ => pure ()

mutual

/-- Reads past one value, checking its syntax. -/
def skipValue : Nat → JsonM Unit
  | 0 => pure ()
  | fuel + 1 => do
    match ← peekValue with
    | none => failAhead "EOF while parsing a value"
    | some 'n' => do eat; expectWord ['u', 'l', 'l']
    | some 't' => do eat; expectWord ['r', 'u', 'e']
    | some 'f' => do eat; expectWord ['a', 'l', 's', 'e']
    | some '-' => do eat; skipNumber
    | some '"' => do eat; skipString
    | some '[' => do
      eat
      match ← peekValue with
      | some ']' => eat
      | none => failAhead "EOF while parsing a list"
      | some _ => do
        skipValue fuel
        skipItems fuel
    | some '{' => do
      eat
      match ← peekValue with
      | some '}' => eat
      | none => failAhead "EOF while parsing an object"
      | some _ => do
        skipMember fuel
        skipMembers fuel
    | some c => if c.isDigit then skipNumber else failAhead "expected value"

/-- Reads past the items of a list after its first item. -/
def skipItems : Nat → JsonM Unit
  | 0 => pure ()
  | fuel + 1 => do
    match ← peekValue with
    | some ',' => do
      eat
      skipValue fuel
      skipItems fuel
    | some ']' => eat
    | some _ => failAhead "expected `,` or `]`"
    | none => failAhead "EOF while parsing a list"

/-- Reads past one member of an object: key, colon and value. -/
def skipMember : Nat → JsonM Unit
  | 0 => pure ()
  | fuel + 1 => do
    match ← peekValue with
    | some '"' => eat
    | some _ => failAhead "key must be a string"
    | none => failAhead "EOF while parsing an object"
    skipString
    match ← peekValue with
    | some ':' => eat
    | some _ => failAhead "expected `:`"
    | none => failAhead "EOF while parsing an object"
    skipValue fuel

/-- Reads past the members of an object after its first member. -/
def skipMembers : Nat → JsonM Unit
  | 0 => pure ()
  | fuel + 1 => do
    match ← peekValue with
    | some ',' => do
      eat
      skipMember fuel
      skipMembers fuel
    | some '}' => eat
    | some _ => failAhead "expected `,` or `\x7d`"
    | none => failAhead "EOF while parsing an object"

end

/-! ## Wrong kinds and ends -/

/-- Fails because the next value is not of the expected kind: the value is read to name it. -/
def wrongKind {α : Type} (expected : String) : JsonM α := placed do
  match ← peek with
  | some 'n' => do eat; expectWord ['u', 'l', 'l']; refuse (.invalidType .unit expected)
  | some 't' => do eat; expectWord ['r', 'u', 'e']; refuse (.invalidType (.bool true) expected)
  | some 'f' => do
    eat; expectWord ['a', 'l', 's', 'e']; refuse (.invalidType (.bool false) expected)
  | some '-' => do
    eat
    let n ← number false
    refuse (.invalidType (numberFound n) expected)
  | some '"' => do
    eat
    let s ← string
    refuse (.invalidType (.str s) expected)
  | some '[' => refuse (.invalidType .seq expected)
  | some '{' => refuse (.invalidType .map expected)
  | some c =>
    if c.isDigit then do
      let n ← number true
      refuse (.invalidType (numberFound n) expected)
    else failAhead "expected value"
  | none => failAhead "expected value"

/-- Closes a list: a closing bracket is required. -/
def closeList : JsonM Unit := do
  match ← peekValue with
  | some ']' => eat
  | some ',' => do
    eat
    match ← peekValue with
    | some ']' => failAhead "trailing comma"
    | _ => failAhead "trailing characters"
  | some _ => failAhead "trailing characters"
  | none => failAhead "EOF while parsing a list"

/-- Closes an object: a closing brace is required. -/
def closeObject : JsonM Unit := do
  match ← peekValue with
  | some '}' => eat
  | some ',' => failAhead "trailing comma"
  | some _ => failAhead "trailing characters"
  | none => failAhead "EOF while parsing an object"

/-- Requires that only whitespace is left. -/
def finish : JsonM Unit := do
  match ← peekValue with
  | some _ => failAhead "trailing characters"
  | none => pure ()

def run {α : Type} (m : JsonM α) (text : String) : Except JsonError α :=
  (((do let a ← m; finish; pure a) : JsonM α).run.run { rest := text.toList }).1

end Json

end CardLedger
