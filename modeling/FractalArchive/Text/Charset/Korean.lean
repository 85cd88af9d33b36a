import FractalArchive.Text.Charset.Front
import FractalArchive.Text.Charset.Grid.Ksc5601

/-!
# The Korean charset

EUC-KR with the syllables added to it, read from the front.
-/

namespace FractalArchive.Charset.EucKr

/-- The character of a pair of octets. -/
def pair? (lead trail : UInt8) : Option Char :=
  if 0x41 ≤ trail ∧ trail ≤ 0xFE then
    ksc5601.char? ((lead.toNat - 0x81) * 190 + (trail.toNat - 0x41))
  else none

/-- The front of a text. -/
def front (octet : UInt8) (rest : Octets) : Front :=
  if octet < 0x80 then .itself octet
  else if 0x81 ≤ octet ∧ octet ≤ 0xFE then
    match rest with
    | [] => .fault 0
    | trail :: _ => .pair (pair? octet trail) trail
  else .fault 0

end FractalArchive.Charset.EucKr
