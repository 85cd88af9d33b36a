import FractalArchive.Proofs.Form.Search
import FractalArchive.Proofs.Text.Utf8
import Mathlib.Data.List.Infix

/-!
# Writing multipart forms

A document is a form as a client writes it: a preamble, parts between delimiters, a closing
delimiter and an epilogue.  A part is a text under a name, a file, or a content without a name; its
only header is the disposition.  A document is *well formed* when its names need no quoting and
neither the preamble nor a content holds a delimiter that would be taken for the next one.

* `Document.write`: the octets of a document;
* `untilClosed_eq`: the same octets from delimiter to delimiter, in the order in which they are
  read;
* `onlyAtEnd_preamble`, `onlyAtEnd_content`: in a well-formed document, a delimiter stands only
  where it was written.
-/

namespace FractalArchive.Multipart

open Http

/-! ### Names -/

/-- Whether a character is a letter or a digit of ASCII, `_`, `-` or `.`. -/
def isPlain (c : Char) : Bool :=
  c.isAlphanum || c == '_' || c == '-' || c == '.'

/-- A text of plain characters. -/
def IsPlainText (s : String) : Prop :=
  ∀ c ∈ s.toList, isPlain c = true

instance (s : String) : Decidable (IsPlainText s) :=
  decidable_of_iff (s.toList.all isPlain = true) List.all_eq_true

/-- A name of a field: plain, not empty, and without the word that announces a file. -/
structure IsFieldName (name : String) : Prop where
  plain : IsPlainText name
  nonempty : name ≠ ""
  noFile : ¬ "filename".toList <:+: name.toList

instance (name : String) : Decidable (IsFieldName name) :=
  decidable_of_iff (IsPlainText name ∧ name ≠ "" ∧ ¬ "filename".toList <:+: name.toList)
    ⟨fun ⟨p, n, f⟩ => ⟨p, n, f⟩, fun h => ⟨h.plain, h.nonempty, h.noFile⟩⟩

/-! ### Parts -/

/-- A part of a form. -/
inductive Part where
  /-- A text under the name of a field. -/
  | text (name value : String)
  /-- A file under the name of a field. -/
  | file (name fileName : String) (content : Octets)
  /-- A content without a name. -/
  | nameless (content : Octets)

namespace Part

/-- The disposition of a field. -/
def namedDisposition (name : String) : Octets :=
  octetsOf "form-data; name=\"" ++ octetsOf name ++ octetsOf "\""

/-- The disposition of a part. -/
def disposition : Part → Octets
  | .text name _ => namedDisposition name
  | .file name fileName _ =>
    namedDisposition name ++ octetsOf "; filename=\"" ++ octetsOf fileName ++ octetsOf "\""
  | .nameless _ => octetsOf "form-data"

/-- The header of a part. -/
def header (p : Part) : Octets :=
  octetsOf "Content-Disposition: " ++ p.disposition

/-- What a part holds. -/
def content : Part → Octets
  | .text _ value => octetsOf value
  | .file _ _ content => content
  | .nameless content => content

/-- The field that a part stands for: only a text under a name is one. -/
def field? : Part → Option (String × String)
  | .text name value => some (name, value)
  | .file _ _ _ => none
  | .nameless _ => none

/-- A part whose names need no quoting; a text does not start with a byte order mark. -/
def Admissible : Part → Prop
  | .text name value => IsFieldName name ∧ value.toList.head? ≠ some '\uFEFF'
  | .file name fileName _ => IsFieldName name ∧ IsPlainText fileName
  | .nameless _ => True

instance : (p : Part) → Decidable p.Admissible
  | .text name value =>
    inferInstanceAs (Decidable (IsFieldName name ∧ value.toList.head? ≠ some '\uFEFF'))
  | .file name fileName _ => inferInstanceAs (Decidable (IsFieldName name ∧ IsPlainText fileName))
  | .nameless _ => .isTrue trivial

/-- A part with the delimiter before it and the line end after it. -/
def write (boundary : Octets) (p : Part) : Octets :=
  delimiter boundary ++ crlf ++ p.header ++ crlf ++ crlf ++ p.content ++ crlf

end Part

/-! ### Documents -/

/-- A form as it is written. -/
structure Document where
  boundary : Octets
  preamble : Octets
  parts : List Part
  epilogue : Octets

namespace Document

/-- The octets up to the dashes that close the form. -/
def untilClosed (d : Document) : Octets :=
  d.preamble ++ d.parts.flatMap (Part.write d.boundary) ++ delimiter d.boundary ++ dashes

/-- The octets of a document. -/
def write (d : Document) : Octets :=
  d.untilClosed ++ d.epilogue

/-- The fields of a document: its texts in order. -/
def fields (d : Document) : Fields :=
  d.parts.filterMap Part.field?

/-- A document that can be read back. -/
structure WellFormed (d : Document) : Prop where
  boundary_nonempty : d.boundary ≠ []
  boundary_plain : ∀ o ∈ d.boundary, isAlphanumeric o = true
  preamble : ¬ delimiter d.boundary <:+: d.preamble
  parts : ∀ p ∈ d.parts, p.Admissible
  contents : ∀ p ∈ d.parts, ¬ crlf ++ delimiter d.boundary <:+: p.content

/-- A document with a part of each kind; contents hold dashes and line ends. -/
def sample : Document where
  boundary := octetsOf "B"
  preamble := octetsOf "for --old readers\r\n"
  parts := [.text "name" "é\r\n--A", .file "name" "" [0xFF, 0x0D], .nameless (octetsOf "--B"),
    .text "state" "", .text "name" "again"]
  epilogue := octetsOf "--B"

theorem sample_wellFormed : sample.WellFormed where
  boundary_nonempty := by decide
  boundary_plain := List.all_eq_true.mp (by decide)
  preamble := by decide +kernel
  parts := by decide +kernel
  contents := by decide +kernel

end Document

/-! ### From delimiter to delimiter -/

/-- What follows a delimiter: the parts with a delimiter after each, and the closing dashes. -/
def afterDelimiter (boundary : Octets) : List Part → Octets
  | [] => dashes
  | p :: rest =>
    crlf ++ (p.header ++ (crlf ++ crlf)) ++ (p.content ++ (crlf ++ delimiter boundary)) ++
      afterDelimiter boundary rest

theorem flatMap_write (boundary : Octets) (parts : List Part) :
    parts.flatMap (Part.write boundary) ++ delimiter boundary ++ dashes =
      delimiter boundary ++ afterDelimiter boundary parts := by
  induction parts with
  | nil => rfl
  | cons p rest ih =>
      rw [List.append_assoc] at ih
      simp only [List.flatMap_cons, Part.write, afterDelimiter, List.append_assoc, ih]

theorem untilClosed_eq (d : Document) :
    d.untilClosed = d.preamble ++ delimiter d.boundary ++ afterDelimiter d.boundary d.parts := by
  have := flatMap_write d.boundary d.parts
  simp only [Document.untilClosed, List.append_assoc] at this ⊢
  rw [this]

/-! ### Delimiters -/

/-- The octets of a boundary are neither dashes nor carriage returns. -/
theorem ne_of_isAlphanumeric {o : UInt8} (h : isAlphanumeric o = true) : o ≠ 0x2D ∧ o ≠ 0x0D := by
  constructor <;> rintro rfl <;> exact absurd h (by decide)

/-- A delimiter begins with its only two dashes, so it begins nowhere within itself. -/
theorem unbordered_delimiter {boundary : Octets} (nonempty : boundary ≠ [])
    (noDash : (0x2D : UInt8) ∉ boundary) : Unbordered (delimiter boundary) := by
  intro u v hu hv e hp
  obtain ⟨o, v', rfl⟩ := List.exists_cons_of_ne_nil hv
  obtain ⟨first, rest, rfl⟩ := List.exists_cons_of_ne_nil nonempty
  have head : o = 0x2D := (List.cons_prefix_cons.mp hp).1
  subst head
  match u, e with
  | [_], e =>
      -- The mark would begin at its second dash, and go on with the boundary instead of a dash.
      have hv' : first :: rest = v' := by simpa [delimiter, dashes] using (List.cons.inj e).2
      subst hv'
      have : first = 0x2D := (List.cons_prefix_cons.mp (List.cons_prefix_cons.mp hp).2).1
      exact noDash (this ▸ List.mem_cons_self)
  | _ :: _ :: u', e =>
      have : first :: rest = u' ++ 0x2D :: v' := (List.cons.inj (List.cons.inj e).2).2
      exact noDash (this ▸ List.mem_append_right _ List.mem_cons_self)

variable {d : Document}

theorem Document.WellFormed.noDash (h : d.WellFormed) : (0x2D : UInt8) ∉ d.boundary :=
  fun hm => (ne_of_isAlphanumeric (h.boundary_plain _ hm)).1 rfl

/-- The first delimiter after the preamble is the one that was written. -/
theorem onlyAtEnd_preamble (h : d.WellFormed) : OnlyAtEnd (delimiter d.boundary) d.preamble :=
  (unbordered_delimiter h.boundary_nonempty h.noDash).onlyAtEnd (by simp [delimiter, dashes])
    h.preamble

/-- The first delimiter after a content is the one that was written. -/
theorem onlyAtEnd_content (h : d.WellFormed) {p : Part} (hp : p ∈ d.parts) :
    OnlyAtEnd (crlf ++ delimiter d.boundary) p.content := by
  refine Unbordered.onlyAtEnd (unbordered_of_not_mem ?_) (by simp [crlf]) (h.contents p hp)
  have : (0x0D : UInt8) ∉ d.boundary :=
    fun hm => (ne_of_isAlphanumeric (h.boundary_plain _ hm)).2 rfl
  simpa [delimiter, dashes] using this

end FractalArchive.Multipart
