import FractalArchive.Record

/-!
# Writing JSON

Records as JSON texts without blanks, with the members `id`, `name` and `state` in this order.  In
strings, quotes, backslashes and control characters are escaped and nothing else.
-/

namespace FractalArchive.Json

/-- A hexadecimal digit. -/
def hexDigit (n : Nat) : Char :=
  Char.ofNat (if n < 10 then 0x30 + n else 0x61 + (n - 10))

/-- A character within a string. -/
def escape (c : Char) : List Char :=
  if c = '\x22' then ['\\', '\x22']
  else if c = '\\' then ['\\', '\\']
  else if c = '\x08' then ['\\', 'b']
  else if c = '\x0c' then ['\\', 'f']
  else if c = '\n' then ['\\', 'n']
  else if c = '\r' then ['\\', 'r']
  else if c = '\t' then ['\\', 't']
  else if c.toNat < 0x20 then
    ['\\', 'u', '0', '0', hexDigit (c.toNat / 16), hexDigit (c.toNat % 16)]
  else [c]

/-- A string with its quotes. -/
def writeString (s : String) : List Char :=
  '\x22' :: (s.toList.flatMap escape ++ ['\x22'])

/-- An integer. -/
def writeInt (n : Int) : List Char :=
  match n with
  | .ofNat m => Nat.toDigits 10 m
  | .negSucc m => '-' :: Nat.toDigits 10 (m + 1)

/-- A key of a record with its colon. -/
def writeKey (key : String) : List Char :=
  writeString key ++ [':']

/-- A record. -/
def writeRecord (r : Record) : List Char :=
  '\x7b' :: (writeKey "id" ++ writeInt r.id ++ ',' :: (writeKey "name" ++ writeString r.name ++
    ',' :: (writeKey "state" ++ writeString r.state ++ ['\x7d'])))

/-- Values with a comma between them. -/
def separated : List (List Char) → List Char
  | [] => []
  | [v] => v
  | v :: rest => v ++ ',' :: separated rest

/-- A list of records. -/
def writeRecords (records : List Record) : List Char :=
  '[' :: (separated (records.map writeRecord) ++ [']'])

end FractalArchive.Json
