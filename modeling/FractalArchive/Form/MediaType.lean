import FractalArchive.Http.Token

/-!
# Media types

A type, a subtype with an optional suffix after its last plus sign, and parameters.  Type, subtype
and names of parameters are compared in small letters; values are kept as they are.
-/

namespace FractalArchive

open Http

/-- A media type. -/
structure MediaType where
  /-- In small letters. -/
  type : Octets
  /-- In small letters, without its suffix. -/
  subtype : Octets
  /-- Names in small letters, with their values. -/
  parameters : List (Octets × Octets)
  deriving DecidableEq, Repr

namespace MediaType

/-- The octet `/`. -/
def slash : UInt8 := 0x2F

/-- The octet `;`. -/
def semicolon : UInt8 := 0x3B

/-- The octet `=`. -/
def equals : UInt8 := 0x3D

/-- The double quote. -/
def quote : UInt8 := 0x22

/-- The space. -/
def space : UInt8 := 0x20

/-- A subtype without the suffix after its last plus sign, which is not its first octet. -/
def withoutSuffix (subtype : Octets) : Octets :=
  match subtype with
  | [] => []
  | first :: rest =>
    let reversed := rest.reverse
    match reversed.dropWhile (· != 0x2B) with
    | [] => subtype
    | _ :: before => first :: before.reverse

/-- Whether an octet may stand between quotes. -/
def isQuoted (o : UInt8) : Bool :=
  0x1F < o && o != 0x7F

/-- A quoted value and what follows it; its first octet may also be a quote. -/
def readQuoted (octets : Octets) : Option (Octets × Octets) :=
  match octets with
  | [] => none
  | first :: rest =>
    if !isQuoted first then none
    else
      let value := rest.takeWhile (· != quote)
      match rest.dropWhile (· != quote) with
      | [] => none
      | _ :: after => if value.all isQuoted then some (first :: value, after) else none

/-- What follows the semicolon after a quoted value; the end of the text needs none. -/
def afterQuoted (octets : Octets) : Option Octets :=
  match octets.dropWhile (· == space) with
  | [] => some []
  | o :: rest => if o == semicolon then some rest else none

/-- One parameter and what follows it, without the semicolon between them. -/
def readParameter (octets : Octets) : Option ((Octets × Octets) × Octets) :=
  let octets := octets.dropWhile (· == space)
  let name := octets.takeWhile isToken
  match octets.dropWhile isToken with
  | [] => none
  | o :: rest =>
    if o != equals || name.isEmpty then none
    else match rest with
      | [] => some ((lower name, []), [])
      | first :: quoted =>
        if first == quote then
          match readQuoted quoted with
          | none => none
          | some (value, after) => (afterQuoted after).map fun more => ((lower name, value), more)
        else
          let value := rest.takeWhile isToken
          match rest.dropWhile isToken with
          | [] => some ((lower name, value), [])
          | o :: more => if o == semicolon && !value.isEmpty then some ((lower name, value), more)
            else none

/-- The parameters up to the end of the text; `fuel` is at least the number of octets. -/
def readParameters : Nat → Octets → Option (List (Octets × Octets))
  | 0, _ => some []
  | fuel + 1, octets =>
    if octets.isEmpty then some []
    else match readParameter octets with
      | none => none
      | some (p, rest) => (readParameters fuel rest).map (p :: ·)

/-- The media type that a text of visible characters writes. -/
def read (octets : Octets) : Option MediaType :=
  let type := octets.takeWhile isToken
  match octets.dropWhile isToken with
  | [] => none
  | o :: rest =>
    if o != slash || type.isEmpty then none
    else
      let subtype := rest.takeWhile isToken
      let result (ps : List (Octets × Octets)) : MediaType :=
        ⟨lower type, lower (withoutSuffix subtype), ps⟩
      match rest.dropWhile isToken with
      | [] => some (result [])
      | o :: more =>
        if o != semicolon || subtype.isEmpty then none
        else (readParameters more.length more).map result

/-- The first value of a parameter. -/
def parameter (m : MediaType) (name : Octets) : Option Octets :=
  m.parameters.lookup name

end MediaType

end FractalArchive
