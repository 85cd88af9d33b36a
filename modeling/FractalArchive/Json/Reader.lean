import FractalArchive.Json.Skip
import FractalArchive.Record

/-!
# Reading records

A record is an object in which each of the keys `id`, `name` and `state` occurs once, in any order
and among other keys, or a list of the three values.  An error that stands nowhere in particular,
such as a missing key, is placed where the reading of the record ends.
-/

namespace FractalArchive.Json

/-- What a record is called in messages. -/
def recordType : String := "struct Fractal"

/-- What a list in the place of a record is called in messages. -/
def recordList : String := "struct Fractal with 3 elements"

/-- An error of reading a record. -/
inductive Trouble where
  /-- A fault at its place. -/
  | placed (f : Fault)
  /-- A cause without a place; the reading stopped at this cursor. -/
  | unplaced (cause : Cause) (c : Cursor)
  deriving DecidableEq, Repr

/-- The fault of a value of another type than the one wanted. -/
def wrongType (expected : String) (c : Cursor) : Fault :=
  let at' (c : Cursor) (found : Unexpected) : Fault := c.fault (.invalidType found expected)
  let word (letters : List Char) (found : Unexpected) : Fault :=
    match passWord letters (c.advance 1) with
    | .error f => f
    | .ok c => at' c found
  let number (r : Except Fault (Numeral × Cursor)) : Fault :=
    match r with
    | .error f => f
    | .ok (n, c) => at' c n.unexpected
  match c.peek? with
  | none => c.peekFault .expectedValue
  | some o =>
    if o == code 'n' then word ['u', 'l', 'l'] .null
    else if o == code 't' then word ['r', 'u', 'e'] (.boolean true)
    else if o == code 'f' then word ['a', 'l', 's', 'e'] (.boolean false)
    else if o == code '-' then number (Numeral.read true (c.advance 1))
    else if isDigit o then number (Numeral.read false c)
    else if o == code '\x22' then
      match readString (c.advance 1) with
      | .error f => f
      | .ok (s, c) => at' c (.string s)
    else if o == code '[' then at' c .sequence
    else if o == code '\x7b' then at' c .map
    else c.peekFault .expectedValue

/-- The id, a 64-bit integer. -/
def readId (c : Cursor) : Except Fault (Int × Cursor) :=
  let c := c.skipBlanks
  let number (r : Except Fault (Numeral × Cursor)) : Except Fault (Int × Cursor) :=
    match r with
    | .error f => .error f
    | .ok (.integer n, c) =>
      if n < Numeral.signedLimit then .ok (n, c)
      else .error (c.fault (.invalidValue (.integer n) "i64"))
    | .ok (x, c) => .error (c.fault (.invalidType x.unexpected "i64"))
  match c.peek? with
  | none => .error (c.peekFault .eofValue)
  | some o =>
    if o == code '-' then number (Numeral.read true (c.advance 1))
    else if isDigit o then number (Numeral.read false c)
    else .error (wrongType "i64" c)

/-- A text. -/
def readText (c : Cursor) : Except Fault (String × Cursor) :=
  let c := c.skipBlanks
  match c.peek? with
  | none => .error (c.peekFault .eofValue)
  | some o =>
    if o == code '\x22' then readString (c.advance 1) else .error (wrongType "a string" c)

/-- The members of a record that have been read. -/
structure Members where
  id : Option Int := none
  name : Option String := none
  state : Option String := none
  deriving DecidableEq, Repr

/-- Reads a colon and a value by a reader. -/
def valueOf {α : Type} (read : Cursor → Except Fault (α × Cursor)) (c : Cursor) :
    Except Trouble (α × Cursor) :=
  match passColon c with
  | .error f => .error (.placed f)
  | .ok c => match read c with
    | .error f => .error (.placed f)
    | .ok r => .ok r

/-- Reads the member of a key, whose colon comes next. -/
def readMember (m : Members) (key : String) (c : Cursor) : Except Trouble (Members × Cursor) :=
  if key = "id" then
    if m.id.isSome then .error (.unplaced (.duplicateField key) c)
    else (valueOf readId c).map fun (v, c) => ({ m with id := some v }, c)
  else if key = "name" then
    if m.name.isSome then .error (.unplaced (.duplicateField key) c)
    else (valueOf readText c).map fun (v, c) => ({ m with name := some v }, c)
  else if key = "state" then
    if m.state.isSome then .error (.unplaced (.duplicateField key) c)
    else (valueOf readText c).map fun (v, c) => ({ m with state := some v }, c)
  else (valueOf (fun c => (skipValue c).map fun c => ((), c)) c).map fun (_, c) => (m, c)

/-- Goes to the opening quote of the next key; none at the end of the object. -/
def toKey (first : Bool) (c : Cursor) : Except Fault (Option Cursor) :=
  let c := c.skipBlanks
  let key (c : Cursor) : Except Fault (Option Cursor) :=
    match c.peek? with
    | none => .error (c.peekFault .eofValue)
    | some o =>
      if o == code '\x22' then .ok (some c)
      else if o == code '\x7d' then .error (c.peekFault .trailingComma)
      else .error (c.peekFault .keyMustBeString)
  match c.peek? with
  | none => .error (c.peekFault .eofObject)
  | some o =>
    if o == code '\x7d' then .ok none
    else if first then key c
    else if o == code ',' then key (c.advance 1).skipBlanks
    else .error (c.peekFault .expectedObjectCommaOrEnd)

/-- Reads members up to the end of the object, which is left.  Every member takes an octet. -/
def readMembers : Nat → Bool → Members → Cursor → Except Trouble (Members × Cursor)
  | 0, _, _, c => .error (.placed (c.fault .eofObject))
  | fuel + 1, first, m, c =>
    match toKey first c with
    | .error f => .error (.placed f)
    | .ok none => .ok (m, c.skipBlanks)
    | .ok (some c) =>
      match readString (c.advance 1) with
      | .error f => .error (.placed f)
      | .ok (key, c) =>
        match readMember m key c with
        | .error t => .error t
        | .ok (m, c) => readMembers fuel false m c

/-- The record of members, or the first one that is missing. -/
def recordOf (m : Members) (c : Cursor) : Except Trouble (Record × Cursor) :=
  match m.id, m.name, m.state with
  | some id, some name, some state => .ok (⟨id, name, state⟩, c)
  | none, _, _ => .error (.unplaced (.missingField "id") c)
  | _, none, _ => .error (.unplaced (.missingField "name") c)
  | _, _, none => .error (.unplaced (.missingField "state") c)

/-- Passes the end of an object. -/
def endObject (c : Cursor) : Except Fault Cursor :=
  let c := c.skipBlanks
  match c.peek? with
  | none => .error (c.peekFault .eofObject)
  | some o =>
    if o == code '\x7d' then .ok (c.advance 1)
    else if o == code ',' then .error (c.peekFault .trailingComma)
    else .error (c.peekFault .trailingCharacters)

/-- Passes the end of a list. -/
def endList (c : Cursor) : Except Fault Cursor :=
  let c := c.skipBlanks
  match c.peek? with
  | none => .error (c.peekFault .eofList)
  | some o =>
    if o == code ']' then .ok (c.advance 1)
    else if o == code ',' then
      let c := (c.advance 1).skipBlanks
      .error (c.peekFault
        (if c.peek? = some (code ']') then .trailingComma else .trailingCharacters))
    else .error (c.peekFault .trailingCharacters)

/-- Where the end of a list or an object has been looked for: after it, or where it is missing. -/
def placeAfter (opened : Frame) (c : Cursor) : Nat :=
  let blank := c.skipBlanks
  match blank.peek? with
  | none => blank.index
  | some o =>
    if o == opened.closing then blank.index + 1
    else if opened = .list ∧ o = code ',' then (blank.advance 1).skipBlanks.index
    else blank.index

/-- Goes to the next value of a list; none at its end. -/
def toElement (first : Bool) (c : Cursor) : Except Fault (Option Cursor) :=
  let c := c.skipBlanks
  match c.peek? with
  | none => .error (c.peekFault .eofList)
  | some o =>
    if o == code ']' then .ok none
    else if first then .ok (some c)
    else if o == code ',' then
      let c := (c.advance 1).skipBlanks
      match c.peek? with
      | none => .error (c.peekFault .eofValue)
      | some o => if o == code ']' then .error (c.peekFault .trailingComma) else .ok (some c)
    else .error (c.peekFault .expectedListCommaOrEnd)

/-- Reads the value number `n` of a list by a reader. -/
def readElement {α : Type} (n : Nat) (read : Cursor → Except Fault (α × Cursor)) (c : Cursor) :
    Except Trouble (α × Cursor) :=
  match toElement (n == 0) c with
  | .error f => .error (.placed f)
  | .ok none => .error (.unplaced (.invalidLength n recordList) c.skipBlanks)
  | .ok (some c) => match read c with
    | .error f => .error (.placed f)
    | .ok r => .ok r

/-- Reads the values of a list. -/
def readElements (c : Cursor) : Except Trouble (Record × Cursor) :=
  match readElement 0 readId c with
  | .error t => .error t
  | .ok (id, c) =>
    match readElement 1 readText c with
    | .error t => .error t
    | .ok (name, c) =>
      match readElement 2 readText c with
      | .error t => .error t
      | .ok (state, c) => .ok (⟨id, name, state⟩, c)

/-- Reads what stands between the ends of a list or an object, and its end. -/
def readWithin (frame : Frame) (inside : Except Trouble (Record × Cursor)) :
    Except Fault (Record × Cursor) :=
  match inside with
  | .ok (r, c) =>
    let ended := match frame with
      | .list => endList c
      | .object => endObject c
    ended.map fun c => (r, c)
  | .error (.placed f) => .error f
  | .error (.unplaced cause c) => .error ⟨cause, placeAfter frame c⟩

/-- Reads a record. -/
def readValue (c : Cursor) : Except Fault (Record × Cursor) :=
  let c := c.skipBlanks
  match c.peek? with
  | none => .error (c.peekFault .eofValue)
  | some o =>
    if o == code '[' then readWithin .list (readElements (c.advance 1))
    else if o == code '\x7b' then
      let c := c.advance 1
      readWithin .object (match readMembers (c.rest.length + 1) true {} c with
        | .error t => .error t
        | .ok (m, c) => recordOf m c)
    else .error (wrongType recordType c)

/-- The record that a text consists of. -/
def readRecord (input : Octets) : Except Fault Record :=
  match readValue ⟨0, input⟩ with
  | .error f => .error f
  | .ok (r, c) =>
    let c := c.skipBlanks
    if c.rest.isEmpty then .ok r else .error (c.peekFault .trailingCharacters)

end FractalArchive.Json
