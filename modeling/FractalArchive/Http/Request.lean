import FractalArchive.Http.Target

/-!
# Requests

A request has a method, a target, headers and a body.  Names of headers are kept in small letters.
-/

namespace FractalArchive.Http

/-- A request. -/
structure Request where
  method : Octets
  target : Target
  /-- Names in small letters, with their values, in order. -/
  headers : List (Octets × Octets)
  body : Octets
  deriving DecidableEq, Repr

namespace Request

/-- The headers in order, if all of them are well formed. -/
def readHeaders : List (Octets × Octets) → Option (List (Octets × Octets))
  | [] => some []
  | (name, value) :: rest =>
    if isTokenText name && value.all isValue then
      (readHeaders rest).map ((lower name, value) :: ·)
    else none

/-- A request of these parts, if each of them is well formed. -/
def read (method target : Octets) (headers : List (Octets × Octets)) (body : Octets) :
    Option Request :=
  if !isTokenText method then none
  else match Target.read target, readHeaders headers with
    | some target, some headers => some ⟨method, target, headers, body⟩
    | _, _ => none

/-- The first value of a header that consists of visible characters; the name is in small
letters. -/
def header (r : Request) (name : Octets) : Option Octets :=
  match r.headers.lookup name with
  | some value => if value.all isVisible then some value else none
  | none => none

end Request

/-- The name `content-type`. -/
def contentType : Octets := octetsOf "content-type"

end FractalArchive.Http
