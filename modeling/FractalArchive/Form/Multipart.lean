import FractalArchive.Form.Failure
import FractalArchive.Form.Fields
import FractalArchive.Form.PartHeader

/-!
# Multipart forms

Parts between delimiters.  What stands before the first delimiter does not count; after a delimiter
either two dashes end the form or a part follows: blanks and a line end, headers up to an empty
line, and a value up to the next line end with a delimiter.  A part with a file name or without a
name is no field.  A form that is broken anywhere has no fields at all.
-/

namespace FractalArchive.Multipart

open Http

/-- A line end. -/
def crlf : Octets := [0x0D, 0x0A]

/-- Two dashes. -/
def dashes : Octets := [0x2D, 0x2D]

/-- The delimiter of a boundary. -/
def delimiter (boundary : Octets) : Octets :=
  dashes ++ boundary

/-- Splits octets at the first place where a mark stands, and leaves the mark out. -/
def splitAtMark (mark octets : Octets) : Option (Octets × Octets) :=
  (PartHeaders.findMark mark [] octets).map fun (before, after) => (before.reverse, after)

/-- What follows a delimiter: the end, or a part with its headers and what follows them. -/
inductive Next where
  | finish
  | part (headers : PartHeaders) (rest : Octets)
  | broken

/-- Reads what follows a delimiter up to the value of the part. -/
def readNext (octets : Octets) : Next :=
  match octets with
  | a :: b :: rest =>
    if [a, b] = dashes then .finish
    else match (a :: b :: rest).dropWhile PartHeaders.isBlankOctet with
      | 0x0D :: 0x0A :: rest =>
        match splitAtMark (crlf ++ crlf) rest with
        | none => .broken
        | some (block, rest) => match PartHeaders.read (block ++ crlf ++ crlf) with
          | none => .broken
          | some headers => .part headers rest
      | _ => .broken
  | _ => .broken

/-- The parts after a delimiter; `fuel` is at least the number of octets.  The fields read already
come last one first. -/
def readParts (mark : Octets) : Nat → Fields → Octets → Except FormFailure Fields
  | 0, _, _ => .error (.broken none)
  | fuel + 1, read, octets =>
    match readNext octets with
    | .finish => .ok read.reverse
    | .broken => .error (.broken none)
    | .part headers rest =>
      let name := if headers.fileName.isSome then none else headers.fieldName
      match splitAtMark (crlf ++ mark) rest with
      | none => .error (.broken name)
      | some (value, rest) =>
        match name with
        | none => readParts mark fuel read rest
        | some name =>
          let text := String.ofList (headers.charset.decodeMarked value)
          readParts mark fuel ((name, text) :: read) rest

/-- The fields of a form with this boundary. -/
def read (boundary octets : Octets) : Except FormFailure Fields :=
  let mark := delimiter boundary
  match splitAtMark mark octets with
  | none => .error (.broken none)
  | some (_, rest) => readParts mark (rest.length + 1) [] rest

end FractalArchive.Multipart
