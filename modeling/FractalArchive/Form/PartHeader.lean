import FractalArchive.Form.MediaType
import FractalArchive.Http.Request
import FractalArchive.Text.Charset.Decode

/-!
# Headers of parts

A part of a multipart form begins with lines of headers up to an empty line.  The name of the field
and the name of a file stand in `content-disposition`, and the charset of a text in `content-type`.
-/

namespace FractalArchive

open Http

/-- The headers of a part, in order, with names in small letters. -/
abbrev PartHeaders := List (Octets × Octets)

namespace PartHeaders

/-- The greatest number of headers of a part. -/
def maxCount : Nat := 32

/-- Whether an octet is a space or a tab. -/
def isBlankOctet (o : UInt8) : Bool :=
  o == 0x20 || o == 0x09

/-- A line without the blanks at its end. -/
def trimEnd (octets : Octets) : Octets :=
  (octets.reverse.dropWhile isBlankOctet).reverse

/-- One header at the start of octets, and what follows its line. -/
def readLine (octets : Octets) : Option ((Octets × Octets) × Octets) :=
  let name := octets.takeWhile isToken
  match octets.dropWhile isToken with
  | [] => none
  | colon :: rest =>
    if colon != 0x3A || name.isEmpty then none
    else
      let rest := rest.dropWhile isBlankOctet
      let value := trimEnd (rest.takeWhile isValue)
      match rest.dropWhile isValue with
      | 0x0D :: 0x0A :: more => some ((lower name, value), more)
      | 0x0A :: more => some ((lower name, value), more)
      | _ => none

/-- At most `fuel` headers up to an empty line. -/
def readLines : Nat → Octets → Option PartHeaders
  | fuel, octets =>
    match octets with
    | 0x0D :: 0x0A :: _ => some []
    | 0x0A :: _ => some []
    | _ => match fuel with
      | 0 => none
      | fuel + 1 => match readLine octets with
        | none => none
        | some (h, rest) => (readLines fuel rest).map (h :: ·)

/-- The headers in a block that ends with an empty line. -/
def read (octets : Octets) : Option PartHeaders :=
  readLines maxCount octets

/-- The last value of a header. -/
def value (headers : PartHeaders) (name : Octets) : Option Octets :=
  headers.reverse.lookup name

/-! ### Attributes of the disposition -/

/-- Whether an octet is white space of ASCII. -/
def isSpaceOctet (o : UInt8) : Bool :=
  o == 0x20 || o == 0x09 || o == 0x0A || o == 0x0C || o == 0x0D

/-- Splits octets at the first place where a mark stands; the octets before it come last one
first, after those passed already. -/
def findMark (mark : Octets) (passed : Octets) : Octets → Option (Octets × Octets)
  | [] => if mark.isEmpty then some (passed, []) else none
  | o :: rest =>
    match mark.isPrefixOf? (o :: rest) with
    | some after => some (passed, after)
    | none => findMark mark (o :: passed) rest

/-- A quoted value up to the first quote that no backslash precedes; a backslash before a quote
does not count.  The octets read come last one first. -/
def readQuotedOnto (read : Octets) : Octets → Option Octets
  | [] => none
  | o :: rest =>
    if o == MediaType.quote then
      match read with
      | 0x5C :: before => readQuotedOnto (o :: before) rest
      | _ => some read.reverse
    else readQuotedOnto (o :: read) rest

/-- The value after the word of an attribute. -/
def attributeValue (octets : Octets) : Option Octets :=
  match octets.dropWhile isSpaceOctet with
  | [] => none
  | o :: rest =>
    if o != MediaType.equals then none
    else match rest.dropWhile isSpaceOctet with
      | [] => some []
      | first :: quoted =>
        if first == MediaType.quote then readQuotedOnto [] quoted
        else some ((first :: quoted).takeWhile fun o => o != MediaType.semicolon && o != 0x20)

/-- The value of the first attribute of this name: its word stands at the start or after white
space or a semicolon.  After a word elsewhere the search goes on as if from the start; `fuel` is at
least the number of octets. -/
def findAttribute (word : Octets) : Nat → Octets → Option Octets
  | 0, _ => none
  | fuel + 1, octets =>
    match findMark word [] octets with
    | none => none
    | some (before, after) =>
      match before with
      | [] => attributeValue after
      | last :: _ =>
        if isSpaceOctet last || last == MediaType.semicolon then attributeValue after
        else findAttribute word fuel after

/-- The text of an attribute of the disposition, if it is UTF-8. -/
def disposition (headers : PartHeaders) (word : Octets) : Option String :=
  match headers.value (octetsOf "content-disposition") with
  | none => none
  | some octets =>
    match findAttribute word (octets.length + 1) octets with
    | none => none
    | some value => match Utf8.decode value with
      | .ok cs => some (String.ofList cs)
      | .error _ => none

/-- The name of the field. -/
def fieldName (headers : PartHeaders) : Option String :=
  headers.disposition (octetsOf "name")

/-- The name of a file. -/
def fileName (headers : PartHeaders) : Option String :=
  headers.disposition (octetsOf "filename")

/-- The charset of the text; UTF-8 unless the content type names another one. -/
def charset (headers : PartHeaders) : Charset :=
  match headers.value contentType with
  | none => .utf8
  | some octets =>
    if !octets.all isVisible then .utf8
    else match MediaType.read octets with
      | none => .utf8
      | some m => match m.parameter (octetsOf "charset") with
        | none => .utf8
        | some label =>
          (Charset.ofLabel? (String.ofList (Utf8.decodeLossy label))).getD .utf8

end PartHeaders

end FractalArchive
