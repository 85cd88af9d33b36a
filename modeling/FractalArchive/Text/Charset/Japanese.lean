import FractalArchive.Text.Charset.Front
import FractalArchive.Text.Charset.Grid.Jis0208
import FractalArchive.Text.Charset.Grid.Jis0212

/-!
# Japanese charsets

Shift_JIS and EUC-JP are read from the front.  ISO-2022-JP switches between sets of characters with
escape sequences; two escape sequences with nothing between them are a fault.
-/

namespace FractalArchive.Charset

/-- The character of an octet of half-width katakana, of which the first is `start`. -/
def katakana (start octet : UInt8) : Char :=
  Char.ofNat (0xFF61 + (octet.toNat - start.toNat))

/-- The character of a pair of octets in rows of ninety-four. -/
def rowChar? (grid : Grid) (start lead trail : UInt8) : Option Char :=
  grid.char? ((lead.toNat - start.toNat) * 94 + (trail.toNat - start.toNat))

namespace ShiftJis

/-- Whether an octet leads a pair. -/
def isLead (octet : UInt8) : Bool :=
  0x81 ≤ octet && octet ≤ 0x9F || 0xE0 ≤ octet && octet ≤ 0xFC

/-- Whether an octet may end a pair. -/
def isTrail (octet : UInt8) : Bool :=
  0x40 ≤ octet && octet ≤ 0x7E || 0x80 ≤ octet && octet ≤ 0xFC

/-- The character of a pair: two rows a lead octet, with private characters above the standard's. -/
def pair? (lead trail : UInt8) : Option Char :=
  if isTrail trail then
    let row := lead.toNat - if lead < 0xA0 then 0x81 else 0xC1
    let place := row * 188 + trail.toNat - if trail < 0x7F then 0x40 else 0x41
    if 8836 ≤ place ∧ place ≤ 10715 then some (Char.ofNat (0xE000 + (place - 8836)))
    else jis0208.char? place
  else none

/-- The front of a text. -/
def front (octet : UInt8) (rest : Octets) : Front :=
  if octet ≤ 0x80 then .itself octet
  else if 0xA1 ≤ octet ∧ octet ≤ 0xDF then .one (katakana 0xA1 octet) 0
  else if isLead octet then
    match rest with
    | [] => .fault 0
    | trail :: _ => .pair (pair? octet trail) trail
  else .fault 0

end ShiftJis

namespace EucJp

/-- Whether an octet belongs to a row of characters. -/
def isInRow (octet : UInt8) : Bool := 0xA1 ≤ octet && octet ≤ 0xFE

/-- The front of a text after the octet 0x8F, which leads three octets. -/
def frontOfThree : Octets → Front
  | [] => .fault 0
  | [lead] => if isInRow lead then .fault 1 else .badTrail lead 0
  | lead :: trail :: _ =>
    if isInRow lead then
      match if isInRow trail then rowChar? jis0212 0xA1 lead trail else none with
      | some c => .one c 2
      | none => .badTrail trail 1
    else .badTrail lead 0

/-- The front of a text. -/
def front (octet : UInt8) (rest : Octets) : Front :=
  if octet < 0x80 then .itself octet
  else if octet = 0x8F then frontOfThree rest
  else if octet = 0x8E ∨ isInRow octet then
    match rest with
    | [] => .fault 0
    | trail :: _ =>
      if octet = 0x8E then
        .pair (if 0xA1 ≤ trail ∧ trail ≤ 0xDF then some (katakana 0xA1 trail) else none) trail
      else .pair (if isInRow trail then rowChar? jis0208 0xA1 octet trail else none) trail
  else .fault 0

end EucJp

namespace Iso2022Jp

/-- The set of characters that an escape sequence chose. -/
inductive CharSet where
  | ascii
  /-- ASCII with a yen sign and an overline. -/
  | roman
  | katakana
  /-- Pairs of octets. -/
  | kanji
  deriving DecidableEq, Repr

/-- The set that the two octets after an escape choose. -/
def chosen? : Octets → Option CharSet
  | 0x28 :: 0x42 :: _ => some .ascii
  | 0x28 :: 0x4A :: _ => some .roman
  | 0x28 :: 0x49 :: _ => some .katakana
  | 0x24 :: 0x40 :: _ => some .kanji
  | 0x24 :: 0x42 :: _ => some .kanji
  | _ => none

/-- Whether an octet stands for itself in the sets close to ASCII. -/
def isPlain (octet : UInt8) : Bool :=
  octet < 0x80 && octet ≠ 0x0E && octet ≠ 0x0F

/-- Whether an octet belongs to a row of characters. -/
def isInRow (octet : UInt8) : Bool := 0x21 ≤ octet && octet ≤ 0x7E

/-- The front of a text that is no escape. -/
def front (set : CharSet) (octet : UInt8) (rest : Octets) : Front :=
  match set with
  | .ascii => if isPlain octet then .itself octet else .fault 0
  | .roman =>
    if octet = 0x5C then .one '¥' 0
    else if octet = 0x7E then .one '‾' 0
    else if isPlain octet then .itself octet
    else .fault 0
  | .katakana =>
    if 0x21 ≤ octet ∧ octet ≤ 0x5F then .one (katakana 0x21 octet) 0 else .fault 0
  | .kanji =>
    if isInRow octet then
      match rest with
      | [] => .fault 0
      | trail :: _ =>
        if trail = 0x1B then .fault 0
        else if isInRow trail then .one ((rowChar? jis0208 0x21 octet trail).getD substitute) 1
        else .fault 1
    else .fault 0

/-- The characters of octets, the last one first; `switched` says that an escape sequence stands
right before them. -/
def run (set : CharSet) (switched : Bool) (read : List Char) : Octets → List Char
  | [] => read
  | octet :: rest =>
    if octet = 0x1B then
      match chosen? rest with
      | some chosen => run chosen true (if switched then substitute :: read else read) (rest.drop 2)
      | none => run set false (substitute :: read) rest
    else
      run set false ((front set octet rest).chars.reverse ++ read)
        (rest.drop (front set octet rest).more)
termination_by octets => octets.length
decreasing_by all_goals simp only [List.length_drop, List.length_cons]; omega

/-- The text of octets. -/
def text (octets : Octets) : List Char :=
  (run .ascii false [] octets).reverse

end Iso2022Jp

end FractalArchive.Charset
