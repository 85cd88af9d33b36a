import FractalArchive.Json.Numeral
import FractalArchive.Json.Text

/-!
# Passing values

Values that do not count are passed without being kept.  The lists and objects around the place are
on a stack, so that values may be nested to any depth.
-/

namespace FractalArchive.Json

/-- What is open around a place. -/
inductive Frame where
  | list
  | object
  deriving DecidableEq, Repr

/-- The octet that closes a frame. -/
def Frame.closing : Frame → UInt8
  | .list => code ']'
  | .object => code '\x7d'

/-- The fault of an input that ends in a frame. -/
def Frame.eof : Frame → Cause
  | .list => .eofList
  | .object => .eofObject

/-- The fault of a frame in which neither a comma nor its end follows a value. -/
def Frame.unended : Frame → Cause
  | .list => .expectedListCommaOrEnd
  | .object => .expectedObjectCommaOrEnd

/-- Passes the letters of a word. -/
def passWord : List Char → Cursor → Except Fault Cursor
  | [], c => .ok c
  | l :: rest, c =>
    match c.peek? with
    | none => .error (c.fault .eofValue)
    | some o => if o == code l then passWord rest (c.advance 1)
      else .error ((c.advance 1).fault .expectedIdent)

/-- What stands at a place where a value is wanted. -/
inductive Start where
  /-- A value that is passed. -/
  | passed (c : Cursor)
  /-- The beginning of a list or an object. -/
  | opened (frame : Frame) (c : Cursor)

/-- Passes a value that is neither list nor object, or the beginning of one. -/
def passStart (c : Cursor) : Except Fault Start :=
  match c.peek? with
  | none => .error (c.peekFault .eofValue)
  | some o =>
    if o == code 'n' then (passWord ['u', 'l', 'l'] (c.advance 1)).map .passed
    else if o == code 't' then (passWord ['r', 'u', 'e'] (c.advance 1)).map .passed
    else if o == code 'f' then (passWord ['a', 'l', 's', 'e'] (c.advance 1)).map .passed
    else if o == code '-' then (Numeral.skip (c.advance 1)).map .passed
    else if isDigit o then (Numeral.skip c).map .passed
    else if o == code '\x22' then (skipString (c.advance 1)).map .passed
    else if o == code '[' then .ok (.opened .list (c.advance 1))
    else if o == code '\x7b' then .ok (.opened .object (c.advance 1))
    else .error (c.peekFault .expectedValue)

/-- Passes a colon. -/
def passColon (c : Cursor) : Except Fault Cursor :=
  let c := c.skipBlanks
  match c.peek? with
  | none => .error (c.peekFault .eofObject)
  | some o => if o == code ':' then .ok (c.advance 1) else .error (c.peekFault .expectedColon)

/-- Passes a key and its colon. -/
def passKey (c : Cursor) : Except Fault Cursor :=
  let c := c.skipBlanks
  match c.peek? with
  | none => .error (c.peekFault .eofObject)
  | some o =>
    if o == code '\x22' then
      match skipString (c.advance 1) with
      | .error f => .error f
      | .ok c => passColon c
    else .error (c.peekFault .keyMustBeString)

/-- Goes to the next value of a frame. -/
def passToValue (frame : Frame) (c : Cursor) : Except Fault Cursor :=
  match frame with
  | .list => .ok c
  | .object => passKey c

/-- Passes values until the stack is empty.  `value` says whether a value is wanted; otherwise the
place is within the frame on top, and `comma` says whether a value stands before it.  Every two
steps take an octet, so twice their number is enough fuel. -/
def passAll : Nat → Bool → Bool → List Frame → Cursor → Except Fault Cursor
  | 0, _, _, _, c => .error (c.fault .eofValue)
  | fuel + 1, true, _, stack, c =>
    match passStart c.skipBlanks with
    | .error f => .error f
    | .ok (.opened frame c) => passAll fuel false false (frame :: stack) c
    | .ok (.passed c) => passAll fuel false true stack c
  | _ + 1, false, _, [], c => .ok c
  | fuel + 1, false, comma, frame :: stack, c =>
    let c := c.skipBlanks
    match c.peek? with
    | none => .error (c.peekFault frame.eof)
    | some o =>
      if o == code ',' && comma then
        match passToValue frame (c.advance 1) with
        | .error f => .error f
        | .ok c => passAll fuel true false (frame :: stack) c
      else if o == frame.closing then passAll fuel false true stack (c.advance 1)
      else if comma then .error (c.peekFault frame.unended)
      else match passToValue frame c with
        | .error f => .error f
        | .ok c => passAll fuel true false (frame :: stack) c

/-- Passes one value. -/
def skipValue (c : Cursor) : Except Fault Cursor :=
  passAll (2 * c.rest.length + 2) true false [] c

end FractalArchive.Json
