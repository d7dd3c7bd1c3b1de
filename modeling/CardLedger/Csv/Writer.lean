/-!
# Writing CSV text

Records are written one per line, each ended by a line feed, fields separated by commas. A field
is quoted only when it must be: when it holds a comma, a double quote, a carriage return or a
line feed. Inside quotes a double quote is doubled.
-/

namespace CardLedger

namespace Csv

def needsQuotes (field : String) : Bool := field.toList.any fun c => c = ',' ∨ c = '"' ∨ c = '\r' ∨ c = '\n'

def quoteChar (c : Char) : List Char := if c = '"' then ['"', '"'] else [c]

def fieldText (field : String) : String :=
  if needsQuotes field then "\"" ++ String.ofList (field.toList.flatMap quoteChar) ++ "\""
  else field

def recordText (fields : List String) : String := ",".intercalate (fields.map fieldText) ++ "\n"

def write (header : List String) (rows : List (List String)) : String :=
  String.join ((header :: rows).map recordText)

example : recordText ["a,b", "c"] = "\"a,b\",c\n" := by decide +kernel

end Csv

end CardLedger
