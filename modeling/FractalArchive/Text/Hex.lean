import FractalArchive.Text.Utf8

/-!
# Hexadecimal digits and percent escapes

The value of a hexadecimal digit, and the octet that a percent sign and two digits stand for.
-/

namespace FractalArchive.Hex

/-- The value of a hexadecimal digit, given by its code. -/
def value? (code : Nat) : Option Nat :=
  if 0x30 ≤ code ∧ code ≤ 0x39 then some (code - 0x30)
  else if 0x41 ≤ code ∧ code ≤ 0x46 then some (code - 0x41 + 10)
  else if 0x61 ≤ code ∧ code ≤ 0x66 then some (code - 0x61 + 10)
  else none

/-- The octet of two hexadecimal digits. -/
def octet? (high low : UInt8) : Option UInt8 :=
  match value? high.toNat, value? low.toNat with
  | some h, some l => some (UInt8.ofNat (16 * h + l))
  | _, _ => none

end FractalArchive.Hex
