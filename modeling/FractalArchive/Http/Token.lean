import FractalArchive.Text.Utf8

/-!
# Tokens

The octets of which the tokens of HTTP are made, and those of header values.
-/

namespace FractalArchive.Http

/-- Whether an octet is a letter or a digit of ASCII. -/
def isAlphanumeric (o : UInt8) : Bool :=
  (0x30 ≤ o && o ≤ 0x39) || (0x41 ≤ o && o ≤ 0x5A) || (0x61 ≤ o && o ≤ 0x7A)

/-- Whether an octet may stand in a token: a letter, a digit or one of fifteen marks. -/
def isToken (o : UInt8) : Bool :=
  isAlphanumeric o || o == 0x21 || (0x23 ≤ o && o ≤ 0x27) || o == 0x2A || o == 0x2B || o == 0x2D ||
    o == 0x2E || o == 0x5E || o == 0x5F || o == 0x60 || o == 0x7C || o == 0x7E

/-- Whether octets are a token. -/
def isTokenText (octets : Octets) : Bool :=
  !octets.isEmpty && octets.all isToken

/-- Whether an octet may stand in a header value: no control character but the tab. -/
def isValue (o : UInt8) : Bool :=
  o == 0x09 || (0x20 ≤ o && o != 0x7F)

/-- Whether an octet is a visible character of ASCII, a space or a tab. -/
def isVisible (o : UInt8) : Bool :=
  o == 0x09 || (0x20 ≤ o && o ≤ 0x7E)

/-- An octet with a capital letter of ASCII made small. -/
def lowerOctet (o : UInt8) : UInt8 :=
  if 0x41 ≤ o && o ≤ 0x5A then o + 0x20 else o

/-- Octets with the capital letters of ASCII made small. -/
def lower (octets : Octets) : Octets :=
  octets.map lowerOctet

end FractalArchive.Http
