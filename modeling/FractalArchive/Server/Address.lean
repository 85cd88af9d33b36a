/-!
# Addresses to listen at

What becomes of the wish to listen at a host on a machine that has the loopback interface and no
name server: addresses of the loopback network and the wildcard address are free, other addresses
are not the machine's, and names other than `localhost` are not found.
-/

namespace FractalArchive.Server

/-- Why an address cannot be listened at. -/
inductive AddressFault where
  /-- The address is another machine's. -/
  | notLocal
  /-- The name has no address. -/
  | unknownName
  deriving DecidableEq, Repr

/-- What a message says of an address that cannot be listened at. -/
def AddressFault.message : AddressFault → String
  | .notLocal => "Cannot assign requested address (os error 99)"
  | .unknownName =>
    "failed to lookup address information: Temporary failure in name resolution"

/-- The number from 0 to 255 that digits without a leading zero stand for. -/
def readByte (digits : List Char) : Option Nat :=
  let n := digits.foldl (fun n c => n * 10 + (c.toNat - '0'.toNat)) 0
  if digits ≠ [] ∧ digits.length ≤ 3 ∧ (digits.all fun c => '0' ≤ c && c ≤ '9') ∧
      (digits.length = 1 ∨ digits.head? ≠ some '0') ∧ n ≤ 255 then
    some n
  else none

/-- The four numbers of an address in dotted form. -/
def readAddress (host : List Char) : Option (List Nat) :=
  match (host.splitOn '.').mapM readByte with
  | some [a, b, c, d] => some [a, b, c, d]
  | _ => none

/-- Whether a host is written as an address between colons. -/
def isColonForm (host : List Char) : Bool :=
  let inner := host.filter fun c => c != '[' && c != ']'
  2 ≤ host.count ':' &&
    inner.all fun c => c == ':' || c == '.' || c.isDigit || ('a' ≤ c.toLower && c.toLower ≤ 'f')

/-- The address that is listened at for a host and a port. -/
def listen (host : String) (port : Nat) : Except AddressFault String :=
  match readAddress host.toList with
  | some [a, b, c, d] =>
    if a = 127 ∨ [a, b, c, d] = [0, 0, 0, 0] then .ok s!"{a}.{b}.{c}.{d}:{port}"
    else .error .notLocal
  | _ =>
    if host = "localhost" then .ok s!"127.0.0.1:{port}"
    else if isColonForm host.toList then .error .notLocal
    else .error .unknownName

end FractalArchive.Server
