import FractalArchive.Form.Reading
import FractalArchive.Proofs.Form.Disposition
import Mathlib.Data.List.TakeWhile

/-!
# Reading multipart forms back

Reading undoes writing: a request whose body is a well-formed document, and whose content type gives
the boundary of it, has the texts of the document as its fields, in order and with repeats, and
nothing is reported (`fields_of_document`).

The reader goes from delimiter to delimiter.  Each part is cut at the end of its header and at the
end of its content (`readNext_header`, `splitAtMark_append`), and adds its field, if it is one, to
those read before (`readParts_part`); the induction is on the parts that are left.
-/

namespace FractalArchive

open Http

/-! ### Texts without a byte order mark -/

namespace Charset

theorem lt_of_mem_encode {cs : List Char} {o : UInt8} (h : o ∈ Utf8.encode cs) :
    o.toNat < 0xF8 := by
  obtain ⟨c, -, h⟩ := List.mem_flatMap.mp h
  rw [Utf8.encodeChar_eq] at h
  split at h
  · rw [List.mem_singleton] at h
    rw [h, Utf8.toNat_ofNat (by omega)]
    omega
  split at h
  · simp only [List.mem_cons, List.not_mem_nil, or_false] at h
    rcases h with rfl | rfl <;> rw [Utf8.toNat_ofNat (by omega)] <;> omega
  split at h
  · simp only [List.mem_cons, List.not_mem_nil, or_false] at h
    rcases h with rfl | rfl | rfl <;> rw [Utf8.toNat_ofNat (by omega)] <;> omega
  · simp only [List.mem_cons, List.not_mem_nil, or_false] at h
    rcases h with rfl | rfl | rfl | rfl <;> rw [Utf8.toNat_ofNat (by omega)] <;> omega

/-- The octets of a byte order mark at the start of a text come from that character. -/
theorem head_of_encode_mark {cs : List Char} {rest : Octets}
    (h : Utf8.encode cs = 0xEF :: 0xBB :: 0xBF :: rest) : cs.head? = some '\uFEFF' := by
  cases cs with
  | nil => exact absurd h (by simp [Utf8.encode])
  | cons c cs =>
      rw [Utf8.encode, List.flatMap_cons, Utf8.encodeChar_eq] at h
      have octet : ∀ {n : Nat} {o : UInt8}, n < 256 → UInt8.ofNat n = o → n = o.toNat := by
        rintro n o hn rfl
        exact (Utf8.toNat_ofNat hn).symm
      split at h
      · have := octet (by omega) (List.cons.inj h).1
        simp at this; omega
      split at h
      · have := octet (by omega) (List.cons.inj h).1
        simp at this; omega
      split at h
      · obtain ⟨h₁, h⟩ := List.cons.inj h
        obtain ⟨h₂, h⟩ := List.cons.inj h
        obtain ⟨h₃, -⟩ := List.cons.inj h
        have h₁ := octet (by omega) h₁
        have h₂ := octet (by omega) h₂
        have h₃ := octet (by omega) h₃
        simp at h₁ h₂ h₃
        have : c.toNat = 0xFEFF := by omega
        rw [List.head?_cons, ← Char.ofNat_toNat c, this]
      · have := octet (by omega) (List.cons.inj h).1
        simp at this

/-- A text that does not start with a byte order mark is read back from its octets. -/
theorem decodeMarked_encode {cs : List Char} (h : cs.head? ≠ some '\uFEFF') :
    Charset.utf8.decodeMarked (Utf8.encode cs) = cs := by
  unfold decodeMarked
  split
  case h_1 rest e => exact absurd (head_of_encode_mark e) h
  case h_2 rest e => exact absurd (lt_of_mem_encode (e ▸ List.mem_cons_self)) (by decide)
  case h_3 rest e => exact absurd (lt_of_mem_encode (e ▸ List.mem_cons_self)) (by decide)
  case h_4 => exact Utf8.decodeLossy_encode cs

end Charset

namespace Multipart

/-! ### One part -/

theorem readNext_dashes (rest : Octets) : readNext (dashes ++ rest) = .finish := by
  simp [readNext, dashes]

/-- A header holds no carriage return, so the empty line after it is the first one. -/
theorem onlyAtEnd_header {p : Part} (h : p.Admissible) : OnlyAtEnd (crlf ++ crlf) p.header := by
  refine onlyAtEnd_of_not_mem fun hm => ?_
  rcases List.mem_append.mp hm with hm | hm
  · exact absurd hm (by decide)
  · exact absurd (isValue_of_mem_disposition h _ hm) (by decide)

/-- A part after a delimiter is cut at the end of its header. -/
theorem readNext_header {p : Part} (h : p.Admissible) (rest : Octets) :
    readNext (crlf ++ (p.header ++ (crlf ++ crlf)) ++ rest) = .part p.headers rest := by
  have cut : splitAtMark (crlf ++ crlf) (p.header ++ (crlf ++ crlf) ++ rest) =
      some (p.header, rest) := splitAtMark_append (onlyAtEnd_header h) rest
  have lineEnd : ∀ more : Octets, (0x0D :: 0x0A :: more).dropWhile PartHeaders.isBlankOctet =
      0x0D :: 0x0A :: more := fun more => List.dropWhile_cons_of_neg (by decide)
  show readNext (0x0D :: 0x0A :: (p.header ++ (crlf ++ crlf) ++ rest)) = _
  unfold readNext
  simp only [lineEnd, cut, read_header h]
  rfl

/-- The text of a field is read back. -/
theorem text_of_value {p : Part} {value : String} (h : value.toList.head? ≠ some '\uFEFF') :
    String.ofList (p.headers.charset.decodeMarked (octetsOf value)) = value := by
  rw [charset_headers, octetsOf, Charset.decodeMarked_encode h, String.ofList_toList]

/-- A part adds its field, if it is one, to those read before. -/
theorem readParts_part {mark : Octets} {p : Part} (h : p.Admissible)
    (hc : OnlyAtEnd (crlf ++ mark) p.content) (fuel : Nat) (read : Fields) (rest : Octets) :
    readParts mark (fuel + 1) read
      (crlf ++ (p.header ++ (crlf ++ crlf)) ++ (p.content ++ (crlf ++ mark)) ++ rest) =
      readParts mark fuel (p.field?.toList ++ read) rest := by
  have next := readNext_header h (p.content ++ (crlf ++ mark) ++ rest)
  have cut := splitAtMark_append hc rest
  rw [← List.append_assoc] at next
  rw [readParts, next]
  simp only [cut, fieldName_headers h, fileName_headers h]
  cases p with
  | text name value =>
      simp only [Part.fileName?, Part.name?, Part.field?, Part.content, text_of_value h.2]
      rfl
  | file name fileName content => rfl
  | nameless content => rfl

/-! ### All parts -/

/-- The parts after a delimiter are read to the end of the form; the rest does not count. -/
theorem readParts_afterDelimiter {boundary : Octets} {parts : List Part}
    (h : ∀ p ∈ parts, p.Admissible ∧ OnlyAtEnd (crlf ++ delimiter boundary) p.content)
    (epilogue : Octets) {fuel : Nat} (enough : (afterDelimiter boundary parts).length < fuel)
    (read : Fields) :
    readParts (delimiter boundary) fuel read (afterDelimiter boundary parts ++ epilogue) =
      .ok (read.reverse ++ parts.filterMap Part.field?) := by
  induction parts generalizing fuel read with
  | nil =>
      obtain ⟨fuel, rfl⟩ : ∃ n, fuel = n + 1 := ⟨fuel - 1, by omega⟩
      rw [afterDelimiter, readParts, readNext_dashes]
      simp
  | cons p rest ih =>
      obtain ⟨fuel, rfl⟩ : ∃ n, fuel = n + 1 := ⟨fuel - 1, by omega⟩
      have hp := h p List.mem_cons_self
      -- A part takes more than one octet, so the fuel lasts for the rest.
      have shorter : (afterDelimiter boundary rest).length < fuel := by
        simp only [afterDelimiter, List.length_append, crlf, List.length_cons] at enough
        omega
      rw [afterDelimiter, List.append_assoc, readParts_part hp.1 hp.2,
        ih (fun q hq => h q (List.mem_cons_of_mem _ hq)) shorter]
      cases hf : p.field? <;> simp [hf]

variable {d : Document}

theorem Document.WellFormed.parts_readable (h : d.WellFormed) :
    ∀ p ∈ d.parts, p.Admissible ∧ OnlyAtEnd (crlf ++ delimiter d.boundary) p.content :=
  fun p hp => ⟨h.parts p hp, onlyAtEnd_content h hp⟩

/-- **Reading undoes writing**, for the octets of a body. -/
theorem read_document (h : d.WellFormed) :
    Multipart.read d.boundary d.write = .ok d.fields := by
  have cut : splitAtMark (delimiter d.boundary) d.write =
      some (d.preamble, afterDelimiter d.boundary d.parts ++ d.epilogue) := by
    rw [Document.write, untilClosed_eq, List.append_assoc]
    exact splitAtMark_append (onlyAtEnd_preamble h) _
  rw [Multipart.read]
  simp only [cut]
  rw [readParts_afterDelimiter h.parts_readable d.epilogue (by rw [List.length_append]; omega)]
  rfl

/-! ### The content type -/

/-- The content type of a form with a boundary. -/
def contentTypeOf (boundary : Octets) : Octets :=
  octetsOf "multipart/form-data; boundary=" ++ boundary

/-- A request that says that its body is a form with this boundary. -/
def Announces (r : Request) (boundary : Octets) : Prop :=
  r.headers.lookup contentType = some (contentTypeOf boundary)

section ContentType

variable {boundary : Octets} {r : Request}

theorem header_of_announces (plain : ∀ o ∈ boundary, isAlphanumeric o = true)
    (h : Announces r boundary) : r.header contentType = some (contentTypeOf boundary) := by
  have visible : ∀ o ∈ contentTypeOf boundary, isVisible o = true := by
    rw [contentTypeOf, List.forall_mem_append]
    exact ⟨List.all_eq_true.mp (by decide),
      fun o ho => isVisible_of_isAlphanumeric o (plain o ho)⟩
  rw [Request.header, h]
  exact if_pos (List.all_eq_true.mpr visible)

theorem isMultipart_of_announces (plain : ∀ o ∈ boundary, isAlphanumeric o = true)
    (h : Announces r boundary) : Form.isMultipart r = true := by
  have cut : contentTypeOf boundary =
      0x6D :: (octetsOf "ultipart/form-data; boundary=" ++ boundary) := rfl
  have start : lower (contentTypeOf boundary) =
      Form.multipartType ++ (octetsOf "; boundary=" ++ lower boundary) := by
    have : lower (octetsOf "multipart/form-data; boundary=") =
        Form.multipartType ++ octetsOf "; boundary=" := by decide
    rw [contentTypeOf, lower, List.map_append, ← lower, ← lower, this, List.append_assoc]
  rw [Form.isMultipart, header_of_announces plain h]
  simp only
  rw [cut, List.dropWhile_cons_of_neg (by decide), ← cut, start, List.isPrefixOf_iff_prefix]
  exact List.prefix_append _ _

theorem readParameter_boundary (nonempty : boundary ≠ [])
    (plain : ∀ o ∈ boundary, isAlphanumeric o = true) :
    MediaType.readParameter (0x20 :: (octetsOf "boundary" ++ 0x3D :: boundary)) =
      some ((octetsOf "boundary", boundary), []) := by
  have isName : ∀ o ∈ octetsOf "boundary", isToken o = true :=
    List.all_eq_true.mp (by decide)
  have stop : isToken 0x3D = false := by decide
  have blank : (0x20 :: (octetsOf "boundary" ++ 0x3D :: boundary)).dropWhile
      (· == MediaType.space) = octetsOf "boundary" ++ 0x3D :: boundary := by
    rw [List.dropWhile_cons_of_pos (by decide)]
    exact List.dropWhile_cons_of_neg (by decide)
  have isValue : ∀ o ∈ boundary, isToken o = true :=
    fun o ho => isToken_of_isAlphanumeric (plain o ho)
  have all : boundary.takeWhile isToken = boundary := List.takeWhile_eq_self_iff.mpr isValue
  have none : boundary.dropWhile isToken = [] := by
    rwa [List.dropWhile_eq_nil_iff]
  obtain ⟨first, tail, rfl⟩ := List.exists_cons_of_ne_nil nonempty
  have unquoted : (first == MediaType.quote) = false := by
    rw [beq_eq_false_iff_ne]
    rintro rfl
    exact absurd (plain _ List.mem_cons_self) (by decide)
  unfold MediaType.readParameter
  simp only [blank, takeWhile_append_stop isName stop, dropWhile_append_stop isName stop]
  rw [if_neg (by decide)]
  simp only [unquoted, all, none]
  rfl

/-- The content type is read with its boundary as it is. -/
theorem read_contentTypeOf (nonempty : boundary ≠ [])
    (plain : ∀ o ∈ boundary, isAlphanumeric o = true) :
    MediaType.read (contentTypeOf boundary) =
      some ⟨octetsOf "multipart", octetsOf "form-data", [(octetsOf "boundary", boundary)]⟩ := by
  have cut : contentTypeOf boundary = octetsOf "multipart" ++ 0x2F :: (octetsOf "form-data" ++
      0x3B :: (0x20 :: (octetsOf "boundary" ++ 0x3D :: boundary))) := rfl
  have type : ∀ o ∈ octetsOf "multipart", isToken o = true :=
    List.all_eq_true.mp (by decide)
  have subtype : ∀ o ∈ octetsOf "form-data", isToken o = true :=
    List.all_eq_true.mp (by decide)
  have slash : isToken 0x2F = false := by decide
  have semicolon : isToken 0x3B = false := by decide
  rw [cut, MediaType.read]
  simp only [takeWhile_append_stop type slash, dropWhile_append_stop type slash]
  rw [if_neg (by decide)]
  simp only [takeWhile_append_stop subtype semicolon, dropWhile_append_stop subtype semicolon]
  rw [if_neg (by decide), List.length_cons, MediaType.readParameters,
    if_neg (by simp), readParameter_boundary nonempty plain]
  have last : ∀ fuel, MediaType.readParameters fuel [] = some [] := by
    intro fuel
    cases fuel <;> rfl
  simp only [last]
  rfl

theorem boundary_of_announces (nonempty : boundary ≠ [])
    (plain : ∀ o ∈ boundary, isAlphanumeric o = true) (h : Announces r boundary) :
    Form.boundary r = some boundary := by
  rw [Form.boundary, header_of_announces plain h]
  simp only [read_contentTypeOf nonempty plain]
  simp [MediaType.parameter]

end ContentType

end Multipart

namespace Form

open Multipart

variable {d : Document} {r : Request}

theorem readFields_of_announces (h : d.WellFormed) (type : Announces r d.boundary) :
    readFields r =
      if maxBodySize < r.body.length then .error (.broken none)
      else Multipart.read d.boundary r.body := by
  rw [readFields, if_pos (isMultipart_of_announces h.boundary_plain type), readMultipart,
    boundary_of_announces h.boundary_nonempty h.boundary_plain type]

/-- **Reading undoes writing.**  A request with a well-formed document of at most `maxBodySize`
octets has the texts of the document as its fields, in order and with repeats; nothing is reported.
The method does not matter. -/
theorem fields_of_document (h : d.WellFormed) (type : Announces r d.boundary)
    (body : r.body = d.write) (small : d.write.length ≤ maxBodySize) :
    Form.read r = (d.fields, []) := by
  have : readFields r = .ok d.fields := by
    rw [readFields_of_announces h type, body, if_neg (by omega), read_document h]
  rw [Form.read, this]

theorem fields_of_sample :
    Form.read ⟨octetsOf "POST", ⟨octetsOf "/add", none⟩,
        [(contentType, octetsOf "multipart/form-data; boundary=B")], Document.sample.write⟩ =
      ([("name", "é\r\n--A"), ("state", ""), ("name", "again")], []) :=
  fields_of_document Document.sample_wellFormed rfl rfl (by decide +kernel)

end Form

end FractalArchive
