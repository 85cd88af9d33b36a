import FractalArchive.Http.Token

/-!
# Request targets

A target is a path with an optional query, an absolute URI, an authority alone, or an asterisk.
The path is kept as it is written.
-/

namespace FractalArchive.Http

/-- What a request is for. -/
structure Target where
  /-- The path as it is written; empty when there is only an authority. -/
  path : Octets
  /-- The octets between the question mark and the fragment. -/
  query : Option Octets
  deriving DecidableEq, Repr

namespace Target

/-- The greatest number of octets in a target. -/
def maxSize : Nat := 65534

/-- Whether an octet may stand in a path. -/
def isPathOctet (o : UInt8) : Bool :=
  o == 0x21 || (0x24 ≤ o && o ≤ 0x3B) || o == 0x3D || (0x40 ≤ o && o ≤ 0x5F) ||
    (0x61 ≤ o && o ≤ 0x7A) || o == 0x7C || o == 0x7E || o == 0x22 || o == 0x7B || 0x7D ≤ o

/-- Whether an octet may stand in a query. -/
def isQueryOctet (o : UInt8) : Bool :=
  o == 0x21 || (0x24 ≤ o && o ≤ 0x3B) || o == 0x3D || 0x3F ≤ o

/-- Whether an octet may stand in an authority, percent signs aside. -/
def isAuthorityOctet (o : UInt8) : Bool :=
  isAlphanumeric o || o == 0x21 || o == 0x24 || (0x26 ≤ o && o ≤ 0x2E) || o == 0x3A || o == 0x3B ||
    o == 0x3D || o == 0x40 || o == 0x5B || o == 0x5D || o == 0x5F || o == 0x7E

/-- A path and a query, up to a fragment. -/
def readPath (octets : Octets) : Option Target :=
  let whole := octets.takeWhile (· != 0x23)
  let path := whole.takeWhile (· != 0x3F)
  if !path.all isPathOctet then none
  else match whole.dropWhile (· != 0x3F) with
    | [] => some ⟨path, none⟩
    | _ :: query => if query.all isQueryOctet then some ⟨path, some query⟩ else none

/-- What is known of an authority while its octets are read. -/
structure AuthorityState where
  colons : Nat := 0
  bracketOpened : Bool := false
  bracketClosed : Bool := false
  percent : Bool := false
  /-- Whether the octet read last is an at sign. -/
  atLast : Bool := false

/-- Reads one octet of an authority. -/
def authorityStep (s : AuthorityState) (o : UInt8) : Option AuthorityState :=
  let next := { s with atLast := false }
  if o == 0x3A then if 8 ≤ s.colons then none else some { next with colons := s.colons + 1 }
  else if o == 0x5B then
    if s.percent || s.bracketOpened then none else some { next with bracketOpened := true }
  else if o == 0x5D then
    if !s.bracketOpened || s.bracketClosed then none
    else some { next with bracketClosed := true, colons := 0, percent := false }
  else if o == 0x40 then some { s with atLast := true, colons := 0, percent := false }
  else if o == 0x25 then some { next with percent := true }
  else if isAuthorityOctet o then some next
  else none

/-- Whether octets are an authority. -/
def isAuthority (octets : Octets) : Bool :=
  match octets.foldlM authorityStep {} with
  | none => false
  | some s => s.bracketOpened == s.bracketClosed && s.colons ≤ 1 && !s.atLast && !s.percent

/-- Whether an octet ends an authority. -/
def endsAuthority (o : UInt8) : Bool :=
  o == 0x2F || o == 0x3F || o == 0x23

/-- Whether an octet may stand in a scheme. -/
def isSchemeOctet (o : UInt8) : Bool :=
  isAlphanumeric o || o == 0x2B || o == 0x2D || o == 0x2E || o == 0x7E

/-- The greatest number of octets in a scheme. -/
def maxSchemeSize : Nat := 64

/-- What is left after a scheme and `://`, if octets start with them; the outer none stands for a
scheme that is too long. -/
def afterScheme (octets : Octets) : Option (Option Octets) :=
  let scheme := octets.takeWhile isSchemeOctet
  match octets.dropWhile isSchemeOctet with
  | 0x3A :: 0x2F :: 0x2F :: rest => if maxSchemeSize < scheme.length then none else some (some rest)
  | _ => some none

/-- A target that does not start with a slash. -/
def readFull (octets : Octets) : Option Target :=
  match afterScheme octets with
  | none => none
  | some none => if isAuthority octets && !octets.any endsAuthority then some ⟨[], none⟩ else none
  | some (some rest) =>
    let authority := rest.takeWhile (!endsAuthority ·)
    if authority.isEmpty || !isAuthority authority then none
    else match readPath (rest.dropWhile (!endsAuthority ·)) with
      | some ⟨[], query⟩ => some ⟨[0x2F], query⟩
      | other => other

/-- The target that octets write. -/
def read (octets : Octets) : Option Target :=
  if maxSize < octets.length then none
  else match octets with
    | [] => none
    | [0x2A] => some ⟨[0x2A], none⟩
    | 0x2F :: _ => readPath octets
    | _ => readFull octets

end Target

end FractalArchive.Http
