/-!
# Reading CSV text

CSV text is split into records of fields. Fields are separated by commas and records by line
breaks: a line feed, a carriage return, or both in that order. A field that starts with a double
quote runs to the next lone double quote, taking commas and line breaks as text, and a doubled
quote inside it stands for one quote; text after the closing quote joins the field. Empty lines
between records are skipped, and the text may end inside a quoted field.

Each record knows where it starts: its number (the header line is record 0), its line and its
byte offset. A record starts right after the line break that ended the record before it; when
that break was a carriage return and a line feed, the line feed is counted with the next record,
as are skipped empty lines.

Fields are trimmed of surrounding whitespace (`isBlank`, Unicode's white space).
-/

namespace CardLedger

namespace Csv

/-- A record of CSV text and where it starts. -/
structure CsvRecord where
  fields : List String
  index : Nat
  line : Nat
  byte : Nat

/-- Whether a character is white space, in Unicode's sense. -/
def isBlank (c : Char) : Bool :=
  let n := c.toNat
  (0x09 ≤ n ∧ n ≤ 0x0d) ∨ n = 0x20 ∨ n = 0x85 ∨ n = 0xa0 ∨ n = 0x1680 ∨
    (0x2000 ≤ n ∧ n ≤ 0x200a) ∨ n = 0x2028 ∨ n = 0x2029 ∨ n = 0x202f ∨ n = 0x205f ∨ n = 0x3000

def trim (s : String) : String :=
  String.ofList ((s.toList.dropWhile isBlank).reverse.dropWhile isBlank).reverse

def isBreak (c : Char) : Bool := c = '\n' ∨ c = '\r'

/-- Where the reader stands inside a record. -/
inductive Mode where
  /-- At the start of a field. -/
  | fieldStart
  /-- Inside an unquoted field. -/
  | plain
  /-- Inside a quoted field. -/
  | quoted
  /-- Right after a quote inside a quoted field. -/
  | quoteSeen

/-- What reading a record took: its fields, the bytes and line feeds it used, and the rest. -/
structure Taken where
  fields : List String
  bytes : Nat
  lineFeeds : Nat
  rest : List Char

/-- Reads the fields of a record up to the line break that ends it, which is used too. The
current field is kept reversed, the finished fields in order. -/
def fieldsOf (mode : Mode) (current : List Char) (done : List String) (bytes feeds : Nat) :
    List Char → Taken
  | [] => ⟨done ++ [String.ofList current.reverse], bytes, feeds, []⟩
  | c :: rest =>
    let bytes' := bytes + c.utf8Size
    let feeds' := feeds + (if c = '\n' then 1 else 0)
    let field := String.ofList current.reverse
    match mode with
    | .fieldStart =>
      if c = '"' then fieldsOf .quoted [] done bytes' feeds' rest
      else if c = ',' then fieldsOf .fieldStart [] (done ++ [field]) bytes' feeds' rest
      else if isBreak c then ⟨done ++ [field], bytes', feeds', rest⟩
      else fieldsOf .plain [c] done bytes' feeds' rest
    | .plain =>
      if c = ',' then fieldsOf .fieldStart [] (done ++ [field]) bytes' feeds' rest
      else if isBreak c then ⟨done ++ [field], bytes', feeds', rest⟩
      else fieldsOf .plain (c :: current) done bytes' feeds' rest
    | .quoted =>
      if c = '"' then fieldsOf .quoteSeen current done bytes' feeds' rest
      else fieldsOf .quoted (c :: current) done bytes' feeds' rest
    | .quoteSeen =>
      if c = '"' then fieldsOf .quoted ('"' :: current) done bytes' feeds' rest
      else if c = ',' then fieldsOf .fieldStart [] (done ++ [field]) bytes' feeds' rest
      else if isBreak c then ⟨done ++ [field], bytes', feeds', rest⟩
      else fieldsOf .plain (c :: current) done bytes' feeds' rest

/-- Skips line breaks before a record: the bytes and line feeds skipped, and the rest. -/
def skipBreaks : List Char → Nat × Nat × List Char
  | c :: rest =>
    if isBreak c then
      let (b, n, r) := skipBreaks rest
      (b + 1, n + (if c = '\n' then 1 else 0), r)
    else (0, 0, c :: rest)
  | [] => (0, 0, [])

/-- Reads the next record, if any is left. -/
def nextRecord (cs : List Char) : Option Taken :=
  let (skipped, feeds, rest) := skipBreaks cs
  match rest with
  | [] => none
  | _ =>
    let t := fieldsOf .fieldStart [] [] 0 0 rest
    some { t with bytes := skipped + t.bytes, lineFeeds := feeds + t.lineFeeds }

/-- Reads every record from `cs`, the first numbered `index`, starting at `line` and `byte`. -/
def recordsFrom (index line byte : Nat) : Nat → List Char → List CsvRecord
  | 0, _ => []
  | fuel + 1, cs =>
    match nextRecord cs with
    | none => []
    | some t =>
      { fields := t.fields.map trim, index, line, byte } ::
        recordsFrom (index + 1) (line + t.lineFeeds) (byte + t.bytes) fuel t.rest

def records (text : String) : List CsvRecord :=
  let cs := text.toList
  recordsFrom 0 1 0 (cs.length + 1) cs

example : (records "a, b\n\nc").map (·.fields) = [["a", "b"], ["c"]] := by decide +kernel

end Csv

end CardLedger
