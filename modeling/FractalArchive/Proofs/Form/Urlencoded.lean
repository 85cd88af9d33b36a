import FractalArchive.Form.Reading
import FractalArchive.Proofs.Text.Stretches
import FractalArchive.Proofs.Text.Utf8

/-!
# Writing URL-encoded forms

A client chooses for each octet of a key or a value how to write it: as it is, where it means
itself, or as an escape with digits of either case; a space also as a plus sign (`Sign`).  A
`Writing` of a text is such a choice for all of its octets.  A form is a list of pieces with `&`
between them; a piece is a field, or empty where an extra `&` stands.

* `unescapeOnto_write`: reading the signs of a text gives its octets;
* `field_write`, `read_write`: reading gives back the field of a piece and the fields of a form;
* `fields_of_written`: so does reading a request with such a form.
-/

namespace FractalArchive

open Http

namespace Urlencoded

/-! ### Texts -/

/-- The hexadecimal digit of a number below 16. -/
def hexDigit (capital : Bool) (n : Nat) : UInt8 :=
  .ofNat (if n < 10 then 0x30 + n else (if capital then 0x41 else 0x61) + (n - 10))

/-- How an octet of a key or a value is written. -/
inductive Sign where
  /-- As it is. -/
  | literal (o : UInt8)
  /-- As an escape, each digit with a capital letter or not. -/
  | escape (o : UInt8) (high low : Bool)
  /-- A space as a plus sign. -/
  | plus

namespace Sign

/-- The octet that a sign stands for. -/
def octet : Sign → UInt8
  | literal o => o
  | escape o _ _ => o
  | plus => 0x20

/-- The octets of a sign. -/
def write : Sign → Octets
  | literal o => [o]
  | escape o high low => [percent, hexDigit high (o.toNat / 16), hexDigit low (o.toNat % 16)]
  | plus => [Urlencoded.plus]

/-- A sign that is read as it is meant: an octet that has another meaning is not written as it
is.  The sign `=` has one only in keys. -/
def Admissible (inKey : Bool) : Sign → Prop
  | literal o => o ≠ ampersand ∧ o ≠ Urlencoded.plus ∧ o ≠ percent ∧ (inKey = true → o ≠ equals)
  | escape _ _ _ => True
  | plus => True

instance (inKey : Bool) : (x : Sign) → Decidable (x.Admissible inKey)
  | literal o => inferInstanceAs (Decidable
      (o ≠ ampersand ∧ o ≠ Urlencoded.plus ∧ o ≠ percent ∧ (inKey = true → o ≠ equals)))
  | escape _ _ _ => .isTrue trivial
  | plus => .isTrue trivial

end Sign

/-- A way to write a text. -/
structure Writing (inKey : Bool) (s : String) where
  signs : List Sign
  admissible : ∀ x ∈ signs, x.Admissible inKey
  means : signs.map Sign.octet = octetsOf s

/-- The octets of a text in this writing. -/
def Writing.write {inKey : Bool} {s : String} (w : Writing inKey s) : Octets :=
  w.signs.flatMap Sign.write

/-- Every text has a writing: one with nothing but escapes. -/
def Writing.escaped (inKey : Bool) (s : String) : Writing inKey s where
  signs := (octetsOf s).map fun o => .escape o true true
  admissible := by simp [Sign.Admissible]
  means := by
    rw [List.map_map]
    exact List.map_id _

/-! ### Forms -/

/-- A field with a way to write it. -/
structure WrittenField where
  field : String × String
  key : Writing true field.1
  value : Writing false field.2

/-- The octets of a field. -/
def WrittenField.write (f : WrittenField) : Octets :=
  f.key.write ++ equals :: f.value.write

/-- Pieces in order: fields, and the empty pieces that extra `&` make. -/
abbrev WrittenForm := List (Option WrittenField)

namespace WrittenForm

/-- The octets of a piece. -/
def writePiece : Option WrittenField → Octets
  | some f => f.write
  | none => []

/-- The octets of a form. -/
def write (form : WrittenForm) : Octets :=
  [ampersand].intercalate (form.map writePiece)

/-- The fields of a form, in order. -/
def fields (form : WrittenForm) : Fields :=
  form.filterMap (·.map WrittenField.field)

end WrittenForm

/-! ### Signs -/

section Signs

variable {inKey : Bool} {x : Sign} {n : Nat} {o : UInt8}

theorem value?_hexDigit :
    ∀ n < 16, ∀ capital, Hex.value? (hexDigit capital n).toNat = some n := by
  decide

/-- An octet that is no digit is not among the digits. -/
theorem hexDigit_ne (hn : n < 16) (capital : Bool) (ho : Hex.value? o.toNat = none) :
    hexDigit capital n ≠ o := by
  rintro rfl
  rw [value?_hexDigit n hn] at ho
  cases ho

/-- The digits of an octet give the octet. -/
theorem octet?_hexDigit (o : UInt8) (high low : Bool) :
    Hex.octet? (hexDigit high (o.toNat / 16)) (hexDigit low (o.toNat % 16)) = some o := by
  have bound := o.toNat_lt
  have sum : 16 * (o.toNat / 16) + o.toNat % 16 = o.toNat := Nat.div_add_mod ..
  rw [Hex.octet?, value?_hexDigit _ (by omega), value?_hexDigit _ (by omega)]
  simp only [sum, UInt8.ofNat_toNat]

/-- A mark that is no digit and may not stand as it is does not occur in a sign. -/
theorem not_mem_write {mark : UInt8} (admissible : x.Admissible inKey)
    (noDigit : Hex.value? mark.toNat = none) (noPercent : mark ≠ percent) (noPlus : mark ≠ plus)
    (noLiteral : ¬ (Sign.literal mark).Admissible inKey) : mark ∉ x.write := by
  cases x with
  | literal o =>
      rintro hm
      rw [List.mem_singleton.mp hm] at noLiteral
      exact noLiteral admissible
  | escape o high low =>
      have bound := o.toNat_lt
      have noHigh := hexDigit_ne (n := o.toNat / 16) (by omega) high noDigit
      have noLow := hexDigit_ne (n := o.toNat % 16) (by omega) low noDigit
      simp [Sign.write, noPercent, noHigh.symm, noLow.symm]
  | plus => simpa [Sign.write] using noPlus

theorem ampersand_not_mem_write (admissible : x.Admissible inKey) : ampersand ∉ x.write :=
  not_mem_write admissible (by decide) (by decide) (by decide) fun h => h.1 rfl

theorem equals_not_mem_write (admissible : x.Admissible true) : equals ∉ x.write :=
  not_mem_write admissible (by decide) (by decide) (by decide) fun h => h.2.2.2 rfl rfl

end Signs

/-! ### Reading signs -/

/-- Outside an escape an octet is read alone, whatever follows it. -/
theorem unescapeOnto_cons_of_ne {a : UInt8} (h : a ≠ percent) (read rest : Octets) :
    unescapeOnto read (a :: rest) = unescapeOnto (plain a :: read) rest := by
  match rest with
  | [] => rfl
  | [_] => rfl
  | b :: c :: rest => rw [unescapeOnto, if_neg (by simpa using h)]

theorem unescapeOnto_escape {high low o : UInt8} (h : Hex.octet? high low = some o)
    (read rest : Octets) :
    unescapeOnto read (percent :: high :: low :: rest) = unescapeOnto (o :: read) rest := by
  rw [unescapeOnto, if_pos (by decide), h]

/-- An admissible sign is read as its octet. -/
theorem unescapeOnto_sign {inKey : Bool} {x : Sign} (h : x.Admissible inKey)
    (read rest : Octets) :
    unescapeOnto read (x.write ++ rest) = unescapeOnto (x.octet :: read) rest := by
  cases x with
  | literal o =>
      have self : plain o = o := by simp [plain, h.2.1]
      rw [Sign.write, List.singleton_append, unescapeOnto_cons_of_ne h.2.2.1, self, Sign.octet]
  | escape o high low => exact unescapeOnto_escape (octet?_hexDigit o high low) read rest
  | plus => exact unescapeOnto_cons_of_ne (by decide) read rest

/-- Admissible signs are read as their octets. -/
theorem unescapeOnto_write {inKey : Bool} {signs : List Sign}
    (h : ∀ x ∈ signs, x.Admissible inKey) (read : Octets) :
    unescapeOnto read (signs.flatMap Sign.write) = read.reverse ++ signs.map Sign.octet := by
  induction signs generalizing read with
  | nil => simp [unescapeOnto]
  | cons x rest ih =>
      rw [List.forall_mem_cons] at h
      rw [List.flatMap_cons, unescapeOnto_sign h.1, ih h.2]
      simp

/-! ### Reading forms -/

section Forms

variable {inKey : Bool} {s : String}

/-- **A text is read** from any of its writings. -/
theorem text_write (w : Writing inKey s) : text w.write = s := by
  rw [text, Writing.write, unescapeOnto_write w.admissible, w.means, octetsOf, List.reverse_nil,
    List.nil_append, Utf8.decodeLossy_encode, String.ofList_toList]

theorem Writing.ampersand_not_mem (w : Writing inKey s) : ampersand ∉ w.write := by
  intro hm
  obtain ⟨x, hx, hm⟩ := List.mem_flatMap.mp hm
  exact ampersand_not_mem_write (w.admissible x hx) hm

theorem Writing.equals_not_mem (w : Writing true s) : equals ∉ w.write := by
  intro hm
  obtain ⟨x, hx, hm⟩ := List.mem_flatMap.mp hm
  exact equals_not_mem_write (w.admissible x hx) hm

/-- **A field is read** from its octets: the first `=` is the one after the key. -/
theorem field_write (f : WrittenField) : field f.write = f.field := by
  have key : ∀ o ∈ f.key.write, (o != equals) = true :=
    fun o ho => bne_iff_ne.mpr fun e => f.key.equals_not_mem (e ▸ ho)
  have stop : (equals != equals) = false := by decide
  rw [field, WrittenField.write, takeWhile_append_stop key stop, dropWhile_append_stop key stop,
    List.drop_one, List.tail_cons, text_write, text_write]

theorem ampersand_not_mem_writePiece (piece : Option WrittenField) :
    ampersand ∉ WrittenForm.writePiece piece := by
  cases piece with
  | none => exact List.not_mem_nil
  | some f =>
      have different : ampersand ≠ equals := by decide
      simp [WrittenForm.writePiece, WrittenField.write, f.key.ampersand_not_mem,
        f.value.ampersand_not_mem, different]

/-- The pieces that are not empty are the fields. -/
theorem fields_of_pieces (form : WrittenForm) :
    ((form.map WrittenForm.writePiece).filter (!·.isEmpty)).map field = form.fields := by
  induction form with
  | nil => rfl
  | cons piece rest ih =>
      cases piece with
      | none => exact ih
      | some f =>
          have filled : (!f.write.isEmpty) = true := by simp [WrittenField.write]
          rw [List.map_cons, WrittenForm.writePiece, List.filter_cons, if_pos filled, List.map_cons,
            field_write, ih]
          rfl

/-- **A form is read** from its octets. -/
theorem read_write (form : WrittenForm) : read form.write = form.fields := by
  cases form with
  | nil => rfl
  | cons piece rest =>
      have split : (WrittenForm.write (piece :: rest)).splitOn ampersand =
          (piece :: rest).map WrittenForm.writePiece := by
        refine List.splitOn_intercalate ampersand ?_ (by simp)
        simp [ampersand_not_mem_writePiece]
      rw [read, split, fields_of_pieces]

end Forms

end Urlencoded

namespace Form

open Urlencoded

variable {r : Request} {value : Octets}

theorem isMultipart_of_urlencoded (type : r.header contentType = some value)
    (start : urlencodedType <+: value) : isMultipart r = false := by
  obtain ⟨rest, rfl⟩ := start
  rw [isMultipart, type]
  rfl

/-- **Reading undoes every writing.**  A posted form of at most `maxBodySize` octets, whose content
type starts with that of URL-encoded forms, has the fields that were written, in order and with
repeats; nothing is reported.  The query of the target does not matter. -/
theorem fields_of_written (form : WrittenForm) (method : r.method = octetsOf "POST")
    (type : r.headers.lookup contentType = some value) (visible : ∀ o ∈ value, isVisible o = true)
    (start : urlencodedType <+: value) (body : r.body = form.write)
    (small : form.write.length ≤ maxBodySize) : Form.read r = (form.fields, []) := by
  have header : r.header contentType = some value := by
    rw [Request.header, type]
    exact if_pos (List.all_eq_true.mpr visible)
  have posted : r.method ≠ octetsOf "GET" := by
    rw [method]
    decide
  have announced : (!urlencodedType.isPrefixOf value) = false := by
    rw [List.isPrefixOf_iff_prefix.mpr start]
    rfl
  have fields : readFields r = .ok form.fields := by
    rw [readFields, isMultipart_of_urlencoded header start, readUrlencoded, if_neg posted, header]
    simp only [announced, body, Nat.not_lt.mpr small, read_write]
    rfl
  rw [Form.read, fields]

/-- A form with extra `&` and all kinds of signs; `=` stands in a value as it is. -/
def writtenSample : WrittenForm := [none,
  some ⟨("", ""), ⟨[], by decide, by decide⟩, ⟨[], by decide, by decide⟩⟩, none, none,
  some ⟨("na", "é = +"),
    ⟨[.literal 0x6E, .escape 0x61 true true], by decide, by decide⟩,
    ⟨[.escape 0xC3 false true, .literal 0xA9, .plus, .literal 0x3D, .literal 0x20,
      .escape 0x2B true false], by decide, by decide⟩⟩,
  some ⟨("na", "&"), .escaped true "na", .escaped false "&"⟩, none]

theorem fields_of_writtenSample :
    Form.read ⟨octetsOf "POST", ⟨octetsOf "/add", some (octetsOf "na=query")⟩,
        [(contentType, octetsOf "application/x-www-form-urlencoded; charset=utf-8")],
        octetsOf "&=&&&n%61=%c3" ++ [0xA9] ++ octetsOf "+= %2b&%6E%61=%26&"⟩ =
      ([("", ""), ("na", "é = +"), ("na", "&")], []) :=
  fields_of_written writtenSample rfl rfl (List.all_eq_true.mp (by decide)) (by decide)
    (by decide +kernel) (by decide +kernel)

end Form

end FractalArchive
