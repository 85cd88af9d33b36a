import FractalArchive.Event
import FractalArchive.Form.Multipart
import FractalArchive.Form.Urlencoded

/-!
# Reading forms

The fields of a request.  The content type decides between the two kinds of forms; a `GET` request
has its fields in the query.  A form that cannot be read has no fields and is reported once.
-/

namespace FractalArchive.Form

open Http

/-- The greatest number of octets in a body. -/
def maxBodySize : Nat := 2097152

/-- The media type of multipart forms. -/
def multipartType : Octets := octetsOf "multipart/form-data"

/-- The media type of URL-encoded forms. -/
def urlencodedType : Octets := octetsOf "application/x-www-form-urlencoded"

/-- Whether a content type is that of a multipart form, by its first letters. -/
def isMultipart (r : Request) : Bool :=
  match r.header contentType with
  | some value => multipartType.isPrefixOf (lower (value.dropWhile PartHeaders.isBlankOctet))
  | none => false

/-- The boundary that a content type gives. -/
def boundary (r : Request) : Option Octets :=
  match r.header contentType with
  | none => none
  | some value => match MediaType.read value with
    | none => none
    | some m =>
      if m.type = octetsOf "multipart" ∧ m.subtype = octetsOf "form-data" then
        m.parameter (octetsOf "boundary")
      else none

/-- The fields of a multipart form. -/
def readMultipart (r : Request) : Except FormFailure Fields :=
  match boundary r with
  | none => .error .noBoundary
  | some b => if maxBodySize < r.body.length then .error (.broken none) else Multipart.read b r.body

/-- The fields of a URL-encoded form. -/
def readUrlencoded (r : Request) : Except FormFailure Fields :=
  if r.method = octetsOf "GET" then .ok (Urlencoded.read (r.target.query.getD []))
  else match r.header contentType with
    | none => .error .notAForm
    | some value =>
      if !urlencodedType.isPrefixOf value then .error .notAForm
      else if maxBodySize < r.body.length then .error .tooLong
      else .ok (Urlencoded.read r.body)

/-- The fields of a request, or why they cannot be read. -/
def readFields (r : Request) : Except FormFailure Fields :=
  if isMultipart r then readMultipart r else readUrlencoded r

/-- The fields of a request with the events of reading them. -/
def read (r : Request) : Fields × List Event :=
  match readFields r with
  | .ok fields => (fields, [])
  | .error cause => ([], [.formUnread cause])

end FractalArchive.Form
