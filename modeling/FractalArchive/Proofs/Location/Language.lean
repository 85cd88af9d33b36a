import FractalArchive.Location
import FractalArchive.Proofs.Text.Stretches
import FractalArchive.Proofs.Text.Trimming
import Mathlib.Data.List.Infix

/-!
# The language of connection strings

Which strings name a location, and which location, read off the string without the blanks around it
(`language`).

* Five texts name the memory (`memoryForms`).
* A file is named by the URL of its path, which has an empty host (`IsUrlOf`), or by the path
  itself, as long as it looks like no URL (`IsPathOf`).
* Every other string is refused, and the refusal has the string as it was given.

No text is of two of these forms.  The forms decide what is read of the text
(`read_eq_some_memory_iff`, `read_eq_some_file_iff`).
-/

namespace FractalArchive.Location

/-! ### Forms -/

/-- The texts that name the memory. -/
def memoryForms : List String :=
  [":memory:", "sqlite::memory:", "sqlite://", "sqlite:///", "sqlite:///:memory:"]

/-- A path of a file is neither empty nor the marker of a database in memory. -/
structure IsFilePath (path : String) : Prop where
  nonempty : path ≠ ""
  unmarked : path ≠ ":memory:"

/-- The text is the URL of a path, with an empty host. -/
structure IsUrlOf (text path : String) : Prop extends IsFilePath path where
  text_eq : text = "sqlite:///" ++ path

/-- The text is a path that has neither the scheme nor the mark of a URL. -/
structure IsPathOf (text path : String) : Prop extends IsFilePath path where
  text_eq : text = path
  schemeless : ¬ "sqlite:".toList <+: text.toList
  hostless : ¬ "://".toList <:+: text.toList

variable {text path other : String} {cs rest : List Char}

theorem isFilePath_iff : IsFilePath path ↔ path.toList ≠ [] ∧ path.toList ≠ memoryMark := by
  have empty : path = "" ↔ path.toList = [] := String.toList_inj.symm
  have marked : path = ":memory:" ↔ path.toList = memoryMark := String.toList_inj.symm
  exact ⟨fun h => ⟨mt empty.mpr h.nonempty, mt marked.mpr h.unmarked⟩,
    fun h => ⟨mt empty.mp h.1, mt marked.mp h.2⟩⟩

/-! ### Reading a form -/

/-- A word occurs in a text if it is a stretch of it. -/
theorem occurs_eq_true_iff {word : List Char} : occurs word cs = true ↔ word <:+: cs := by
  induction cs with
  | nil => simp [occurs]
  | cons c rest ih => simp [occurs, List.infix_cons_iff, ih]

theorem read_of_mem_memoryForms (h : text ∈ memoryForms) : read text.toList = some .memory := by
  simp only [memoryForms, List.mem_cons, List.not_mem_nil, or_false] at h
  rcases h with rfl | rfl | rfl | rfl | rfl
  · rfl
  · rfl
  · rfl
  · rfl
  · rfl

/-- The URL of a path names its file. -/
theorem read_of_isUrlOf (h : IsUrlOf text path) : read text.toList = some (.file path) := by
  obtain ⟨nonempty, unmarked⟩ := isFilePath_iff.mp h.toIsFilePath
  have url : text.toList = scheme ++ '/' :: '/' :: '/' :: path.toList := by
    rw [h.text_eq, String.toList_append]
    rfl
  have schemed : scheme.isPrefixOf? text.toList = some ('/' :: '/' :: '/' :: path.toList) :=
    isPrefixOf?_eq_some_iff.mpr url
  have some : text.toList ≠ [] := by simp [url, scheme]
  have other : text.toList ≠ memoryMark := by simp [url, scheme, memoryMark]
  have hostless : '/' :: '/' :: '/' :: path.toList ≠ memoryMark := by simp [memoryMark]
  unfold read
  rw [if_neg some, if_neg other, schemed]
  unfold readUrl
  simp only [hostless, nonempty, unmarked, or_self, if_false, String.ofList_toList]

/-- A path that looks like no URL names its file. -/
theorem read_of_isPathOf (h : IsPathOf text path) : read text.toList = some (.file path) := by
  obtain ⟨nonempty, unmarked⟩ := isFilePath_iff.mp h.toIsFilePath
  obtain rfl := h.text_eq
  have unschemed : scheme.isPrefixOf? text.toList = none := isPrefixOf?_eq_none_iff.mpr h.schemeless
  have hostless : ¬ occurs authorityMark text.toList = true := mt occurs_eq_true_iff.mp h.hostless
  unfold read
  rw [if_neg nonempty, if_neg unmarked, unschemed]
  simp only [if_neg hostless, String.ofList_toList]

/-! ### The form that was read -/

/-- What follows the scheme is one of four texts, or an empty host and a path. -/
theorem readUrl_cases {location : Location} (h : readUrl rest = some location) :
    (location = .memory ∧ "sqlite:" ++ String.ofList rest ∈ memoryForms) ∨
      ∃ path, location = .file path ∧ IsUrlOf ("sqlite:" ++ String.ofList rest) path := by
  unfold readUrl at h
  split at h
  next marked =>
    cases h
    subst marked
    exact .inl ⟨rfl, by decide⟩
  split at h
  · cases h
    exact .inl ⟨rfl, by decide⟩
  next path =>
    split at h
    next neither =>
      cases h
      rcases neither with rfl | rfl
      · exact .inl ⟨rfl, by decide⟩
      · exact .inl ⟨rfl, by decide⟩
    next file =>
      cases h
      refine .inr ⟨_, rfl, isFilePath_iff.mpr ?_, ?_⟩
      · rw [String.toList_ofList]
        exact not_or.mp file
      · rw [← String.toList_inj]
        simp only [String.toList_append, String.toList_ofList]
        rfl
  · cases h

/-- **What is read** of a text is due to its form. -/
theorem read_cases {location : Location} (h : read text.toList = some location) :
    (location = .memory ∧ text ∈ memoryForms) ∨
      ∃ path, location = .file path ∧ (IsUrlOf text path ∨ IsPathOf text path) := by
  unfold read at h
  split at h
  · cases h
  next nonempty =>
    split at h
    next marked =>
      cases h
      obtain rfl : text = ":memory:" := String.toList_inj.mp marked
      exact .inl ⟨rfl, .head _⟩
    next unmarked =>
      split at h
      next rest schemed =>
        have url : text = "sqlite:" ++ String.ofList rest := by
          rw [← String.toList_inj, isPrefixOf?_eq_some_iff.mp schemed]
          simp only [String.toList_append, String.toList_ofList]
          rfl
        rw [url]
        exact (readUrl_cases h).imp_right fun ⟨path, found, form⟩ => ⟨path, found, .inl form⟩
      next unschemed =>
        split at h
        · cases h
        next hostless =>
          cases h
          rw [String.ofList_toList]
          exact .inr ⟨text, rfl, .inr ⟨isFilePath_iff.mpr ⟨nonempty, unmarked⟩, rfl,
            isPrefixOf?_eq_none_iff.mp unschemed, mt occurs_eq_true_iff.mpr hostless⟩⟩

theorem read_eq_some_memory_iff : read text.toList = some .memory ↔ text ∈ memoryForms := by
  constructor
  · intro h
    rcases read_cases h with ⟨-, form⟩ | ⟨path, file, -⟩
    · exact form
    · cases file
  · exact read_of_mem_memoryForms

theorem read_eq_some_file_iff :
    read text.toList = some (.file path) ↔ IsUrlOf text path ∨ IsPathOf text path := by
  constructor
  · intro h
    rcases read_cases h with ⟨memory, -⟩ | ⟨_, file, form⟩
    · cases memory
    · cases file
      exact form
  · rintro (url | plain)
    · exact read_of_isUrlOf url
    · exact read_of_isPathOf plain

/-- What is of no form is not read. -/
theorem read_eq_none_iff : read text.toList = none ↔
    text ∉ memoryForms ∧ ∀ path, ¬ IsUrlOf text path ∧ ¬ IsPathOf text path := by
  constructor
  · intro h
    refine ⟨fun form => ?_, fun path => ⟨fun url => ?_, fun plain => ?_⟩⟩
    · cases h.symm.trans (read_of_mem_memoryForms form)
    · cases h.symm.trans (read_of_isUrlOf url)
    · cases h.symm.trans (read_of_isPathOf plain)
  · rintro ⟨memory, file⟩
    cases h : read text.toList with
    | none => rfl
    | some location =>
        rcases read_cases h with ⟨-, form⟩ | ⟨path, -, url | plain⟩
        · exact absurd form memory
        · exact absurd url (file path).1
        · exact absurd plain (file path).2

/-! ### No text of two forms -/

theorem IsUrlOf.not_mem_memoryForms (h : IsUrlOf text path) : text ∉ memoryForms := fun form => by
  cases (read_of_mem_memoryForms form).symm.trans (read_of_isUrlOf h)

theorem IsPathOf.not_mem_memoryForms (h : IsPathOf text path) : text ∉ memoryForms := fun form => by
  cases (read_of_mem_memoryForms form).symm.trans (read_of_isPathOf h)

theorem IsUrlOf.not_isPathOf (h : IsUrlOf text path) : ¬ IsPathOf text other := by
  intro plain
  refine plain.schemeless ⟨"///".toList ++ path.toList, ?_⟩
  rw [h.text_eq, String.toList_append]
  rfl

/-! ### Strings -/

theorem toList_trimmed (s : String) : (trimmed s).toList = Blank.trim s.toList :=
  String.toList_ofList

/-- A string is blanks, what trimming leaves of it, and blanks. -/
theorem exists_eq_append_trimmed (s : String) : ∃ before after : String,
    Blank.All before.toList ∧ Blank.All after.toList ∧ s = before ++ trimmed s ++ after := by
  obtain ⟨before, after, blank, blank', parted⟩ := Blank.exists_eq_append_trim s.toList
  refine ⟨String.ofList before, String.ofList after, ?_, ?_, ?_⟩
  · rwa [String.toList_ofList]
  · rwa [String.toList_ofList]
  · rw [← String.toList_inj]
    simpa only [String.toList_append, String.toList_ofList, toList_trimmed] using parted

theorem parse_eq_ok_iff {url : String} {location : Location} :
    parse url = .ok location ↔ read (trimmed url).toList = some location := by
  rw [toList_trimmed]
  unfold parse
  cases read (Blank.trim url.toList) with
  | some found => simp
  | none => simp

theorem parse_eq_error_iff {url : String} {e : UnsupportedUrl} :
    parse url = .error e ↔ e = ⟨url⟩ ∧ read (trimmed url).toList = none := by
  rw [toList_trimmed]
  unfold parse
  cases read (Blank.trim url.toList) with
  | some found => simp
  | none => simp [eq_comm]

/-- What a string names as a file is a path of a file. -/
theorem isFilePath_of_parse {url : String} (h : parse url = .ok (.file path)) :
    IsFilePath path := by
  rcases read_eq_some_file_iff.mp (parse_eq_ok_iff.mp h) with form | form
  · exact form.toIsFilePath
  · exact form.toIsFilePath

/-- **Blanks around a string** change the text of a refusal and nothing else. -/
theorem parse_append {before after : String} (blank : Blank.All before.toList)
    (blank' : Blank.All after.toList) (url : String) : parse (before ++ url ++ after) =
      (parse url).mapError fun _ => ⟨before ++ url ++ after⟩ := by
  have same : Blank.trim (before ++ url ++ after).toList = Blank.trim url.toList := by
    rw [String.toList_append, String.toList_append, Blank.trim_append blank blank']
  unfold parse
  rw [same]
  cases read (Blank.trim url.toList) with
  | some location => rfl
  | none => rfl

/-! ### The language -/

/-- **The language of connection strings.**  Let `text` be a string without the blanks around it.
The string names the memory if and only if `text` is one of five forms, and the file of a path if
and only if `text` is its URL or, looking like no URL, the path itself.  Every other string is
refused, and the refusal carries the string as it was given.  No text is of two forms.  Blanks
around the string change the text of a refusal and nothing else. -/
theorem language (url : String) :
    let text := trimmed url
    (Blank.Bare text.toList ∧ ∃ before after : String,
        Blank.All before.toList ∧ Blank.All after.toList ∧ url = before ++ text ++ after) ∧
      (parse url = .ok .memory ↔ text ∈ memoryForms) ∧
      (∀ path, parse url = .ok (.file path) ↔ IsUrlOf text path ∨ IsPathOf text path) ∧
      (∀ e, parse url = .error e ↔ e = ⟨url⟩ ∧ text ∉ memoryForms ∧
        ∀ path, ¬ IsUrlOf text path ∧ ¬ IsPathOf text path) ∧
      (¬ (text ∈ memoryForms ∧ ∃ path, IsUrlOf text path) ∧
        ¬ (text ∈ memoryForms ∧ ∃ path, IsPathOf text path) ∧
        ¬ ((∃ path, IsUrlOf text path) ∧ ∃ path, IsPathOf text path)) ∧
      ∀ before after : String, Blank.All before.toList → Blank.All after.toList →
        parse (before ++ url ++ after) =
          (parse url).mapError fun _ => ⟨before ++ url ++ after⟩ := by
  intro text
  refine ⟨⟨?_, exists_eq_append_trimmed url⟩, ?_, fun path => ?_, fun e => ?_, ⟨?_, ?_, ?_⟩,
    fun before after blank blank' => parse_append blank blank' url⟩
  · rw [toList_trimmed]
    exact Blank.bare_trim url.toList
  · rw [parse_eq_ok_iff, read_eq_some_memory_iff]
  · rw [parse_eq_ok_iff, read_eq_some_file_iff]
  · rw [parse_eq_error_iff, read_eq_none_iff]
  · rintro ⟨memory, path, url⟩
    exact url.not_mem_memoryForms memory
  · rintro ⟨memory, path, plain⟩
    exact plain.not_mem_memoryForms memory
  · rintro ⟨⟨path, url⟩, other, plain⟩
    exact url.not_isPathOf plain

theorem language_samples :
    parse "\t sqlite:////a b.db\n" = .ok (.file "/a b.db") ∧
      parse "\u00A0C:/a.db" = .ok (.file "C:/a.db") ∧
      parse (" " ++ "sqlite:a.db" ++ "\r\n") = .error ⟨" sqlite:a.db\r\n"⟩ := by
  obtain ⟨-, -, file, -⟩ := language "\t sqlite:////a b.db\n"
  obtain ⟨-, -, file', -⟩ := language "\u00A0C:/a.db"
  obtain ⟨-, -, -, -, -, padded⟩ := language "sqlite:a.db"
  refine ⟨(file _).mpr (.inl ⟨⟨by decide, by decide⟩, by decide⟩),
    (file' _).mpr (.inr ⟨⟨by decide, by decide⟩, by decide, by decide, by decide⟩), ?_⟩
  exact padded " " "\r\n" (List.all_eq_true.mp (by decide)) (List.all_eq_true.mp (by decide))

end FractalArchive.Location
