import FractalArchive.Text.Charset.Chinese
import FractalArchive.Text.Charset.Japanese
import FractalArchive.Text.Charset.Korean
import FractalArchive.Text.Charset.Pages
import FractalArchive.Text.Utf8

/-!
# Charsets

The charsets that a label may name, and the text that octets stand for in a charset.  A byte order
mark at the start is taken away and decides the charset.  What stands for no character becomes
U+FFFD.
-/

namespace FractalArchive

/-- How octets stand for characters. -/
inductive Charset where
  | utf8
  | utf16 (bigEndian : Bool)
  /-- Single octets, with the characters of the octets from 0x80 on. -/
  | page (upper : List Char)
  /-- Octets from 0x80 on stand for private characters. -/
  | userDefined
  /-- GB 18030, which also reads GBK. -/
  | gb18030
  | big5
  | eucJp
  | iso2022Jp
  | shiftJis
  | eucKr
  /-- A charset that is not to be read: any text is one U+FFFD. -/
  | replacement
  deriving DecidableEq, Repr

namespace Charset

/-- Labels of UTF-8. -/
def utf8Labels : List String :=
  ["unicode-1-1-utf-8", "unicode11utf8", "unicode20utf8", "utf-8", "utf8", "x-unicode20utf8"]

/-- Labels of UTF-16 with the high octet first. -/
def utf16BigLabels : List String := ["unicodefffe", "utf-16be"]

/-- Labels of UTF-16 with the low octet first. -/
def utf16LittleLabels : List String :=
  ["csunicode", "iso-10646-ucs-2", "ucs-2", "unicode", "unicodefeff", "utf-16", "utf-16le"]

/-- Labels of charsets that are not to be read. -/
def replacementLabels : List String :=
  ["csiso2022kr", "hz-gb-2312", "iso-2022-cn", "iso-2022-cn-ext", "iso-2022-kr", "replacement"]

/-- Labels of the charsets of pairs of octets. -/
def pairLabels : List (Charset × List String) :=
  [(.gb18030, ["chinese", "csgb2312", "csiso58gb231280", "gb18030", "gb2312", "gb_2312",
      "gb_2312-80", "gbk", "iso-ir-58", "x-gbk"]),
    (.big5, ["big5", "big5-hkscs", "cn-big5", "csbig5", "x-x-big5"]),
    (.eucJp, ["cseucpkdfmtjapanese", "euc-jp", "x-euc-jp"]),
    (.iso2022Jp, ["csiso2022jp", "iso-2022-jp"]),
    (.shiftJis, ["csshiftjis", "ms932", "ms_kanji", "shift-jis", "shift_jis", "sjis",
      "windows-31j", "x-sjis"]),
    (.eucKr, ["cseuckr", "csksc56011987", "euc-kr", "iso-ir-149", "korean", "ks_c_5601-1987",
      "ks_c_5601-1989", "ksc5601", "ksc_5601", "windows-949"])]

/-- A blank around a label. -/
def isLabelBlank (c : Char) : Bool :=
  c = ' ' ∨ c = '\t' ∨ c = '\n' ∨ c = '\x0c' ∨ c = '\r'

/-- The charset that a label names; case and blanks around it do not count. -/
def ofLabel? (label : String) : Option Charset :=
  let cs := (label.toList.dropWhile isLabelBlank).reverse.dropWhile isLabelBlank |>.reverse
  let label := String.ofList (cs.map Char.toLower)
  if utf8Labels.contains label then some .utf8
  else if utf16BigLabels.contains label then some (.utf16 true)
  else if utf16LittleLabels.contains label then some (.utf16 false)
  else if replacementLabels.contains label then some .replacement
  else if label = "x-user-defined" then some .userDefined
  else match pairLabels.find? fun entry => entry.2.contains label with
    | some (charset, _) => some charset
    | none => (pages.find? fun p => p.labels.contains label).map fun p => .page p.upper.toList

/-- The code units of octets, the last one first, and whether an octet is left over. -/
def units (bigEndian : Bool) (read : List Nat) : Octets → List Nat × Bool
  | [] => (read, false)
  | [_] => (read, true)
  | a :: b :: rest =>
    let unit := if bigEndian then 256 * a.toNat + b.toNat else 256 * b.toNat + a.toNat
    units bigEndian (unit :: read) rest

/-- Whether a code unit begins a pair. -/
def isHigh (unit : Nat) : Bool := 0xD800 ≤ unit && unit ≤ 0xDBFF

/-- Whether a code unit ends a pair. -/
def isLow (unit : Nat) : Bool := 0xDC00 ≤ unit && unit ≤ 0xDFFF

/-- The characters of code units, the last one first; `open` says that octets are left over. -/
def joinUnits (leftOver : Bool) (read : List Char) : List Nat → List Char
  | [] => if leftOver then substitute :: read else read
  | [u] =>
    if isHigh u then substitute :: read
    else
      let read := (if isLow u then substitute else Char.ofNat u) :: read
      if leftOver then substitute :: read else read
  | u :: v :: rest =>
    if isHigh u then
      if isLow v then
        joinUnits leftOver (Char.ofNat (0x10000 + 0x400 * (u - 0xD800) + (v - 0xDC00)) :: read) rest
      else joinUnits leftOver (substitute :: read) (v :: rest)
    else if isLow u then joinUnits leftOver (substitute :: read) (v :: rest)
    else joinUnits leftOver (Char.ofNat u :: read) (v :: rest)

/-- The character of an octet in a charset of single octets. -/
def pageChar (upper : Array Char) (octet : UInt8) : Char :=
  if octet.toNat < 0x80 then Char.ofNat octet.toNat
  else upper.getD (octet.toNat - 0x80) substitute

/-- The text of octets in a charset. -/
def decode (octets : Octets) : Charset → List Char
  | .utf8 => Utf8.decodeLossy octets
  | .utf16 bigEndian =>
    let (read, leftOver) := units bigEndian [] octets
    (joinUnits leftOver [] read.reverse).reverse
  | .page upper =>
    let upper := upper.toArray
    octets.map (pageChar upper)
  | .userDefined => octets.map fun o =>
    if o.toNat < 0x80 then Char.ofNat o.toNat else Char.ofNat (0xF780 + (o.toNat - 0x80))
  | .gb18030 => Front.text Gb18030.front octets
  | .big5 => Front.text Big5.front octets
  | .eucJp => Front.text EucJp.front octets
  | .iso2022Jp => Iso2022Jp.text octets
  | .shiftJis => Front.text ShiftJis.front octets
  | .eucKr => Front.text EucKr.front octets
  | .replacement => if octets.isEmpty then [] else [substitute]

/-- The text of octets after a byte order mark, which overrides the charset. -/
def decodeMarked (charset : Charset) : Octets → List Char
  | 0xEF :: 0xBB :: 0xBF :: rest => decode rest .utf8
  | 0xFF :: 0xFE :: rest => decode rest (.utf16 false)
  | 0xFE :: 0xFF :: rest => decode rest (.utf16 true)
  | octets => decode octets charset

end Charset

end FractalArchive
