import FractalArchive.Proofs.Form.Document

/-!
# Reading the header of a part

The header that `Part.header` writes is read as one header, the disposition (`read_header`).  The
name of a field and the name of a file are then found where they were written, and nowhere else
(`fieldName_headers`, `fileName_headers`): the search for the word of an attribute stops at its
first place, which is the one that was written because no name holds the word `filename`.
-/

namespace FractalArchive

namespace Http

theorem isValue_of_isToken : ∀ o : UInt8, isToken o = true → isValue o = true :=
  forall_octet (by decide +kernel)

theorem isVisible_of_isAlphanumeric : ∀ o : UInt8, isAlphanumeric o = true → isVisible o = true :=
  forall_octet (by decide +kernel)

theorem isToken_of_isAlphanumeric {o : UInt8} (h : isAlphanumeric o = true) : isToken o = true := by
  simp [isToken, h]

end Http

namespace Multipart

open Http

/-! ### Plain texts -/

theorem toNat_lt_of_isPlain {c : Char} (h : isPlain c = true) : c.toNat < 128 := by
  have ranges : (((decide (c.val ≥ 65 ∧ c.val ≤ 90) ||
      (decide (c.val ≥ 97) && decide (c.val ≤ 122))) ||
      (decide (c.val ≥ 48) && decide (c.val ≤ 57))) || c == '_' || c == '-' || c == '.') = true := h
  simp only [Bool.or_eq_true, Bool.and_eq_true, decide_eq_true_eq, beq_iff_eq] at ranges
  have below : ∀ {bound : UInt32}, bound.toNat < 128 → c.val ≤ bound → c.toNat < 128 :=
    fun small le => Nat.lt_of_le_of_lt (UInt32.le_iff_toNat_le.mp le) small
  rcases ranges with ((((h | h) | h) | rfl) | rfl) | rfl
  · exact below (by decide) h.2
  · exact below (by decide) h.2
  · exact below (by decide) h.2
  all_goals decide

theorem encodeChar_of_isPlain {c : Char} (h : isPlain c = true) :
    String.utf8EncodeChar c = [UInt8.ofNat c.toNat] := by
  have := toNat_lt_of_isPlain h
  rw [Utf8.encodeChar_eq, if_pos (by omega)]

theorem isToken_of_isPlain {c : Char} (h : isPlain c = true) :
    isToken (UInt8.ofNat c.toNat) = true := by
  have all : ∀ n < 128, isPlain (Char.ofNat n) = true → isToken (UInt8.ofNat n) = true := by decide
  exact all c.toNat (toNat_lt_of_isPlain h) (by rwa [Char.ofNat_toNat])

/-- A plain text has one octet for each character. -/
theorem octetsOf_of_isPlainText {s : String} (h : IsPlainText s) :
    octetsOf s = s.toList.map fun c => UInt8.ofNat c.toNat := by
  have all : ∀ cs : List Char, (∀ c ∈ cs, isPlain c = true) →
      Utf8.encode cs = cs.map fun c => UInt8.ofNat c.toNat := by
    intro cs hcs
    induction cs with
    | nil => rfl
    | cons c rest ih =>
        have hc := encodeChar_of_isPlain (hcs c List.mem_cons_self)
        have hrest := ih fun d hd => hcs d (List.mem_cons_of_mem _ hd)
        simp only [Utf8.encode, List.flatMap_cons, List.map_cons] at hrest ⊢
        rw [hc, hrest, List.singleton_append]
  exact all s.toList h

theorem isToken_of_mem_octetsOf {s : String} (h : IsPlainText s) :
    ∀ o ∈ octetsOf s, isToken o = true := by
  rw [octetsOf_of_isPlainText h]
  intro o ho
  obtain ⟨c, hc, rfl⟩ := List.mem_map.mp ho
  exact isToken_of_isPlain (h c hc)

/-- Where the octets of a word stand within those of a plain text, the word stands in the text. -/
theorem infix_of_octetsOf {word s : String} (h : IsPlainText s)
    (hi : octetsOf word <:+: octetsOf s) : word.toList <:+: s.toList := by
  rw [octetsOf_of_isPlainText h, List.infix_map_iff] at hi
  obtain ⟨cs, hcs, e⟩ := hi
  have plain : IsPlainText (String.ofList cs) := fun c hc =>
    h c (hcs.mem (by simpa using hc))
  have same : Utf8.encode word.toList = Utf8.encode cs := by
    have := octetsOf_of_isPlainText plain
    simp only [octetsOf, String.toList_ofList] at this
    rw [this]
    exact e
  rwa [Utf8.encode_injective same]

/-! ### The header as a line -/

variable {p : Part}

/-- The octets of a named disposition, cut at the quotes. -/
theorem namedDisposition_eq (name : String) (rest : Octets) :
    Part.namedDisposition name ++ rest =
      octetsOf "form-data; name=" ++ 0x22 :: (octetsOf name ++ 0x22 :: rest) := by
  have open_ : octetsOf "form-data; name=\"" = octetsOf "form-data; name=" ++ [0x22] := by decide
  have close : octetsOf "\"" = [0x22] := by decide
  simp [Part.namedDisposition, open_, close]

/-- A disposition of a field consists of octets that may stand in a header. -/
theorem isValue_of_mem_namedDisposition {name : String} (h : IsPlainText name) :
    ∀ o ∈ Part.namedDisposition name, isValue o = true := by
  simp only [Part.namedDisposition, List.forall_mem_append]
  exact ⟨⟨List.all_eq_true.mp (by decide),
    fun o ho => isValue_of_isToken o (isToken_of_mem_octetsOf h o ho)⟩,
    List.all_eq_true.mp (by decide)⟩

theorem isValue_of_mem_disposition (h : p.Admissible) :
    ∀ o ∈ p.disposition, isValue o = true := by
  cases p with
  | text name value => exact isValue_of_mem_namedDisposition h.1.plain
  | file name fileName content =>
      simp only [Part.disposition, List.forall_mem_append]
      exact ⟨⟨⟨isValue_of_mem_namedDisposition h.1.plain, List.all_eq_true.mp (by decide)⟩,
        fun o ho => isValue_of_isToken o (isToken_of_mem_octetsOf h.2 o ho)⟩,
        List.all_eq_true.mp (by decide)⟩
  | nameless content =>
      show ∀ o ∈ octetsOf "form-data", isValue o = true
      exact List.all_eq_true.mp (by decide)

/-- A disposition starts with `form-data`. -/
theorem disposition_start (p : Part) : ∃ rest, p.disposition = 0x66 :: rest := by
  have start : octetsOf "form-data; name=\"" = 0x66 :: octetsOf "orm-data; name=\"" := by decide
  cases p with
  | text name value => exact ⟨_, by rw [Part.disposition, Part.namedDisposition, start]; rfl⟩
  | file name fileName content =>
      exact ⟨_, by rw [Part.disposition, Part.namedDisposition, start]; rfl⟩
  | nameless content => exact ⟨octetsOf "orm-data", rfl⟩

/-- A disposition ends with a quote or with `form-data`. -/
theorem disposition_end (p : Part) :
    ∃ rest last, p.disposition = rest ++ [last] ∧ PartHeaders.isBlankOctet last = false := by
  have close : octetsOf "\"" = [0x22] := by decide
  cases p with
  | text name value =>
      exact ⟨_, 0x22, by rw [Part.disposition, Part.namedDisposition, close], by decide⟩
  | file name fileName content =>
      exact ⟨_, 0x22, by rw [Part.disposition, close], by decide⟩
  | nameless content => exact ⟨octetsOf "form-dat", 0x61, rfl, by decide⟩

/-- The headers of a part as they are read. -/
def Part.headers (p : Part) : PartHeaders :=
  [(octetsOf "content-disposition", p.disposition)]

theorem trimEnd_disposition (p : Part) : PartHeaders.trimEnd p.disposition = p.disposition := by
  obtain ⟨rest, last, e, hlast⟩ := disposition_end p
  rw [PartHeaders.trimEnd, e, List.reverse_append, List.reverse_singleton, List.singleton_append,
    List.dropWhile_cons_of_neg (by simp [hlast]), List.reverse_cons, List.reverse_reverse]

theorem readLine_header (h : p.Admissible) (rest : Octets) :
    PartHeaders.readLine (p.header ++ (crlf ++ rest)) =
      some ((octetsOf "content-disposition", p.disposition), rest) := by
  obtain ⟨tail, e⟩ := disposition_start p
  have label : p.header ++ (crlf ++ rest) =
      octetsOf "Content-Disposition" ++ 0x3A :: (0x20 :: (p.disposition ++ (crlf ++ rest))) := by
    have : octetsOf "Content-Disposition: " = octetsOf "Content-Disposition" ++ [0x3A, 0x20] := by
      decide
    simp [Part.header, this]
  have isName : ∀ o ∈ octetsOf "Content-Disposition", isToken o = true :=
    List.all_eq_true.mp (by decide)
  have colon : isToken 0x3A = false := by decide
  have blank : (0x20 :: (p.disposition ++ (crlf ++ rest))).dropWhile PartHeaders.isBlankOctet =
      p.disposition ++ (crlf ++ rest) := by
    rw [List.dropWhile_cons_of_pos (by decide), e, List.cons_append,
      List.dropWhile_cons_of_neg (by decide)]
  have stop : isValue 0x0D = false := by decide
  have value := isValue_of_mem_disposition h
  unfold PartHeaders.readLine
  rw [label, takeWhile_append_stop isName colon, dropWhile_append_stop isName colon]
  simp only [blank]
  rw [crlf, List.cons_append, takeWhile_append_stop value stop, dropWhile_append_stop value stop,
    trimEnd_disposition]
  rfl

/-- **The header of a part** is read as its disposition. -/
theorem read_header (h : p.Admissible) :
    PartHeaders.read (p.header ++ crlf ++ crlf) = some p.headers := by
  have start : ∃ tail, p.header ++ (crlf ++ crlf) = 0x43 :: tail := by
    have : octetsOf "Content-Disposition: " = 0x43 :: octetsOf "ontent-Disposition: " := by decide
    exact ⟨_, by rw [Part.header, this]; rfl⟩
  obtain ⟨tail, e⟩ := start
  have line := readLine_header h crlf
  rw [List.append_assoc, PartHeaders.read, PartHeaders.maxCount]
  rw [e] at line ⊢
  rw [PartHeaders.readLines]
  · rw [line]
    rfl
  · rintro rest ⟨⟩
  · rintro rest ⟨⟩

/-! ### Attributes -/

/-- A quoted value without quotes and backslashes is read up to its closing quote. -/
theorem readQuotedOnto_append {value : Octets} (h : ∀ o ∈ value, o ≠ 0x22 ∧ o ≠ 0x5C)
    {read : Octets} (hr : read.head? ≠ some 0x5C) (rest : Octets) :
    PartHeaders.readQuotedOnto read (value ++ 0x22 :: rest) = some (read.reverse ++ value) := by
  have noEscape : ∀ before, read = 0x5C :: before → False := by
    rintro before rfl
    exact hr rfl
  induction value generalizing read with
  | nil =>
      rw [List.nil_append, PartHeaders.readQuotedOnto, if_pos (by decide), List.append_nil]
      exact noEscape
  | cons o value ih =>
      have ho := h o List.mem_cons_self
      have hq : ¬ (o == MediaType.quote) = true := by simpa [MediaType.quote] using ho.1
      have hr' : (o :: read).head? ≠ some 0x5C := by simpa using ho.2
      have noEscape' : ∀ before, o :: read = 0x5C :: before → False := fun _ e =>
        ho.2 (List.cons.inj e).1
      rw [List.cons_append, PartHeaders.readQuotedOnto, if_neg hq,
        ih (fun x hx => h x (List.mem_cons_of_mem _ hx)) hr' noEscape']
      · simp
      · exact noEscape

/-- The value of an attribute in quotes. -/
theorem attributeValue_quoted {value : Octets} (h : ∀ o ∈ value, isToken o = true)
    (rest : Octets) :
    PartHeaders.attributeValue (octetsOf "=\"" ++ (value ++ 0x22 :: rest)) = some value := by
  have open_ : octetsOf "=\"" = [0x3D, 0x22] := by decide
  have unquoted : ∀ o ∈ value, o ≠ 0x22 ∧ o ≠ 0x5C := by
    intro o ho
    constructor <;> rintro rfl <;> exact absurd (h _ ho) (by decide)
  have read := readQuotedOnto_append unquoted (show ([] : Octets).head? ≠ some 0x5C by simp) rest
  rw [open_]
  simpa [PartHeaders.attributeValue, PartHeaders.isSpaceOctet, MediaType.equals,
    MediaType.quote] using read

/-- The search stops at the first place of the word, where an attribute may begin. -/
theorem findAttribute_append {word before : Octets} {edge : UInt8}
    (h : OnlyAtEnd word (before ++ [edge]))
    (hedge : PartHeaders.isSpaceOctet edge = true) (fuel : Nat) (after : Octets) :
    PartHeaders.findAttribute word (fuel + 1) (before ++ [edge] ++ word ++ after) =
      PartHeaders.attributeValue after := by
  rw [PartHeaders.findAttribute, findMark_append h]
  simp [hedge]

theorem findAttribute_eq_none {word octets : Octets} (absent : ¬ word <:+: octets) (fuel : Nat) :
    PartHeaders.findAttribute word fuel octets = none := by
  cases fuel with
  | zero => rfl
  | succ fuel => rw [PartHeaders.findAttribute, findMark_eq_none absent]

/-- The disposition of a field, cut around the word of its name. -/
theorem findAttribute_name {name : String} (h : IsPlainText name) (fuel : Nat) (rest : Octets) :
    PartHeaders.findAttribute (octetsOf "name") (fuel + 1) (Part.namedDisposition name ++ rest) =
      some (octetsOf name) := by
  have cut : Part.namedDisposition name ++ rest =
      octetsOf "form-data;" ++ [0x20] ++ octetsOf "name" ++
        (octetsOf "=\"" ++ (octetsOf name ++ 0x22 :: rest)) := by
    rw [namedDisposition_eq]
    rfl
  have first : OnlyAtEnd (octetsOf "name") (octetsOf "form-data;" ++ [0x20]) :=
    onlyAtEnd_of_not_mem (by decide)
  rw [cut, findAttribute_append first (by decide),
    attributeValue_quoted (isToken_of_mem_octetsOf h)]

/-- The word of a file name is not in the disposition of a field, nor right after it. -/
theorem not_filename_within {name : String} (h : IsFieldName name) {rest : Octets}
    (hrest : (0x6C : UInt8) ∉ rest) :
    ¬ octetsOf "filename" <:+: Part.namedDisposition name ++ rest := by
  intro hi
  rw [namedDisposition_eq] at hi
  have letter : (0x6C : UInt8) ∈ octetsOf "filename" := by decide
  have noQuote : (0x22 : UInt8) ∉ octetsOf "filename" := by decide
  rcases infix_of_infix_append_cons hi noQuote with hi | hi
  · exact absurd (hi.mem letter) (by decide)
  rcases infix_of_infix_append_cons hi noQuote with hi | hi
  · exact h.noFile (infix_of_octetsOf h.plain hi)
  · exact hrest (hi.mem letter)

theorem findAttribute_filename {name fileName : String} (h : IsFieldName name)
    (hf : IsPlainText fileName) (fuel : Nat) :
    PartHeaders.findAttribute (octetsOf "filename") (fuel + 1)
      (Part.disposition (.file name fileName [])) = some (octetsOf fileName) := by
  have cut : Part.disposition (.file name fileName []) =
      (Part.namedDisposition name ++ [0x3B]) ++ [0x20] ++ octetsOf "filename" ++
        (octetsOf "=\"" ++ (octetsOf fileName ++ 0x22 :: [])) := by
    have : octetsOf "; filename=\"" = [0x3B, 0x20] ++ octetsOf "filename" ++ octetsOf "=\"" := by
      decide
    have close : octetsOf "\"" = [0x22] := by decide
    simp [Part.disposition, this, close]
  have first : OnlyAtEnd (octetsOf "filename")
      (Part.namedDisposition name ++ [0x3B] ++ [0x20]) := by
    refine Unbordered.onlyAtEnd (unbordered_of_not_mem (by decide)) (by decide) ?_
    rw [List.append_assoc]
    exact not_filename_within h (by decide)
  rw [cut, findAttribute_append first (by decide),
    attributeValue_quoted (isToken_of_mem_octetsOf hf)]

/-! ### What the header says -/

namespace Part

/-- The name of a part. -/
def name? : Part → Option String
  | .text name _ => some name
  | .file name _ _ => some name
  | .nameless _ => none

/-- The file name of a part. -/
def fileName? : Part → Option String
  | .text _ _ => none
  | .file _ fileName _ => some fileName
  | .nameless _ => none

end Part

theorem value_headers (p : Part) :
    p.headers.value (octetsOf "content-disposition") = some p.disposition := by
  simp [Part.headers, PartHeaders.value]

/-- An attribute that is found is read as the text it was written from. -/
theorem disposition_of_findAttribute {p : Part} {word : Octets} {s : String}
    (h : PartHeaders.findAttribute word (p.disposition.length + 1) p.disposition =
      some (octetsOf s)) :
    p.headers.disposition word = some s := by
  rw [PartHeaders.disposition, value_headers]
  simp only [h, octetsOf, Utf8.decode_encode, String.ofList_toList]

theorem disposition_of_findAttribute_eq_none {p : Part} {word : Octets}
    (h : PartHeaders.findAttribute word (p.disposition.length + 1) p.disposition = none) :
    p.headers.disposition word = none := by
  rw [PartHeaders.disposition, value_headers]
  simp only [h]

/-- **The name of a part** is found in its header. -/
theorem fieldName_headers (h : p.Admissible) : p.headers.fieldName = p.name? := by
  cases p with
  | text name value =>
      refine disposition_of_findAttribute ?_
      have := findAttribute_name h.1.plain (Part.disposition (.text name value)).length []
      rwa [List.append_nil] at this
  | file name fileName content =>
      refine disposition_of_findAttribute ?_
      simp only [Part.disposition, List.append_assoc]
      exact findAttribute_name h.1.plain _ _
  | nameless content =>
      refine disposition_of_findAttribute_eq_none (findAttribute_eq_none (fun hi => ?_) _)
      have : (0x6E : UInt8) ∈ octetsOf "form-data" := hi.mem (by decide)
      exact absurd this (by decide)

/-- **The file name of a part** is found in its header, and none where there is none. -/
theorem fileName_headers (h : p.Admissible) : p.headers.fileName = p.fileName? := by
  cases p with
  | text name value =>
      refine disposition_of_findAttribute_eq_none (findAttribute_eq_none (fun hi => ?_) _)
      refine not_filename_within h.1 (show (0x6C : UInt8) ∉ [] by simp) ?_
      rwa [List.append_nil]
  | file name fileName content =>
      exact disposition_of_findAttribute (findAttribute_filename h.1 h.2 _)
  | nameless content =>
      refine disposition_of_findAttribute_eq_none (findAttribute_eq_none (fun hi => ?_) _)
      have : (0x6E : UInt8) ∈ octetsOf "form-data" := hi.mem (by decide)
      exact absurd this (by decide)

/-- The text of a part is read as UTF-8. -/
theorem charset_headers (p : Part) : p.headers.charset = .utf8 := by
  have : p.headers.value contentType = none := by
    have ne : (contentType == octetsOf "content-disposition") = false := by decide
    simp [Part.headers, PartHeaders.value, List.lookup_cons, ne]
  simp [PartHeaders.charset, this]

end Multipart

end FractalArchive
