import FractalArchive.Text.Charset.Front
import FractalArchive.Text.Charset.Grid.Big5
import FractalArchive.Text.Charset.Grid.Gb18030

/-!
# Chinese charsets

Big5 and GB 18030, which also reads GBK, are read from the front.
-/

namespace FractalArchive.Charset

namespace Big5

/-- The places that stand for a letter and a combining mark. -/
def twoChars? (place : Nat) : Option (List Char) :=
  if place = 1133 then some ['\u00ca', '\u0304']
  else if place = 1135 then some ['\u00ca', '\u030c']
  else if place = 1164 then some ['\u00ea', '\u0304']
  else if place = 1166 then some ['\u00ea', '\u030c']
  else none

/-- The place of a pair of octets. -/
def place? (lead trail : UInt8) : Option Nat :=
  if 0x40 ≤ trail ∧ trail ≤ 0x7E then
    some ((lead.toNat - 0x81) * 157 + (trail.toNat - 0x40))
  else if 0xA1 ≤ trail ∧ trail ≤ 0xFE then
    some ((lead.toNat - 0x81) * 157 + (trail.toNat - 0x62))
  else none

/-- The front of a text. -/
def front (octet : UInt8) (rest : Octets) : Front :=
  if octet < 0x80 then .itself octet
  else if 0x81 ≤ octet ∧ octet ≤ 0xFE then
    match rest with
    | [] => .fault 0
    | trail :: _ =>
      match (place? octet trail).bind twoChars? with
      | some chars => ⟨chars, 1⟩
      | none => .pair ((place? octet trail).bind big5Pairs.char?) trail
  else .fault 0

end Big5

namespace Gb18030

/-- Whether an octet leads a pair. -/
def isLead (octet : UInt8) : Bool := 0x81 ≤ octet && octet ≤ 0xFE

/-- Whether an octet is a digit. -/
def isDigit (octet : UInt8) : Bool := 0x30 ≤ octet && octet ≤ 0x39

/-- The place of a pair of octets. -/
def pairPlace? (lead trail : UInt8) : Option Nat :=
  if 0x40 ≤ trail ∧ trail ≤ 0x7E then
    some ((lead.toNat - 0x81) * 190 + (trail.toNat - 0x40))
  else if 0x80 ≤ trail ∧ trail ≤ 0xFE then
    some ((lead.toNat - 0x81) * 190 + (trail.toNat - 0x41))
  else none

/-- The character at a place of a pair. -/
def pairChar? (place : Nat) : Option Char :=
  match gb18030Private.find? fun (start, _, count) => start ≤ place ∧ place < start + count with
  | some (start, first, _) => some (Char.ofNat (first + (place - start)))
  | none => gb18030Pairs.char? place

/-- The place of four octets. -/
def fourPlace (a b c d : UInt8) : Nat :=
  ((a.toNat - 0x81) * 10 + (b.toNat - 0x30)) * 1260 + (c.toNat - 0x81) * 10 + (d.toNat - 0x30)

/-- The character at a place of four octets: the run that begins last before the place tells it,
and the characters beyond U+FFFF have places of their own. -/
def fourChar? (place : Nat) : Option Char :=
  if 39419 < place ∧ place < 189000 ∨ 1237575 < place then none
  else if 189000 ≤ place then some (Char.ofNat (0x10000 + (place - 189000)))
  else (gb18030Runs.reverse.find? fun (start, _) => start ≤ place).map fun (start, first) =>
    Char.ofNat (first + (place - start))

/-- The front of a text whose first octet leads and whose second is a digit. -/
def frontOfFour (a b : UInt8) : Octets → Front
  | [] => .fault 1
  | [c] => if isLead c then .fault 2 else .fault 0
  | c :: d :: _ =>
    if isLead c ∧ isDigit d then
      match fourChar? (fourPlace a b c d) with
      | some char => .one char 3
      | none => .fault 3
    else .fault 0

/-- The front of a text. -/
def front (octet : UInt8) (rest : Octets) : Front :=
  if octet < 0x80 then .itself octet
  else if octet = 0x80 then .one '€' 0
  else if isLead octet then
    match rest with
    | [] => .fault 0
    | trail :: rest =>
      if isDigit trail then frontOfFour octet trail rest
      else .pair ((pairPlace? octet trail).bind pairChar?) trail
  else .fault 0

end Gb18030

end FractalArchive.Charset
