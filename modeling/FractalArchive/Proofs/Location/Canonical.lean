import FractalArchive.Proofs.Location.Language

/-!
# Canonical URLs

The canonical URL of a location is the URL of what messages show of it.  It names the location
again, whatever string named it first (`canonical_urls`), although the path alone need not: it may
begin with a blank, or look like a URL.

What makes it so holds of every path that is read (`Canonical`): it is not empty, not the marker of
a database in memory, and does not end with a blank.
-/

namespace FractalArchive.Location

/-- The URL that names a location. -/
def url (location : Location) : String :=
  "sqlite:///" ++ location.display

/-- A path of a file that trimming its URL leaves as it is. -/
structure Canonical (path : String) : Prop extends IsFilePath path where
  last : ∀ c, path.toList.getLast? = some c → isBlank c = false

variable {path string : String}

/-- The URL of a path ends as the path does. -/
theorem getLast?_url (h : IsFilePath path) :
    ("sqlite:///" ++ path).toList.getLast? = path.toList.getLast? := by
  rw [String.toList_append, List.getLast?_append_of_ne_nil _ (isFilePath_iff.mp h).1]

/-- Nothing is trimmed from the URL of such a path. -/
theorem Canonical.trimmed_url (h : Canonical path) :
    trimmed ("sqlite:///" ++ path) = "sqlite:///" ++ path := by
  have bare : Blank.Bare ("sqlite:///" ++ path).toList := by
    refine ⟨fun c start => ?_, fun c ending => h.last c (getLast?_url h.toIsFilePath ▸ ending)⟩
    rw [String.toList_append] at start
    obtain rfl : 's' = c := Option.some.inj start
    decide
  rw [← String.toList_inj, toList_trimmed, Blank.trim_of_bare bare]

/-- **The URL of such a path** names its file. -/
theorem Canonical.parse_url (h : Canonical path) :
    parse ("sqlite:///" ++ path) = .ok (.file path) := by
  rw [parse_eq_ok_iff, h.trimmed_url]
  exact read_of_isUrlOf ⟨h.toIsFilePath, rfl⟩

/-- **Every path that is read** is such a path. -/
theorem canonical_of_parse (h : parse string = .ok (.file path)) : Canonical path := by
  have bare : Blank.Bare (trimmed string).toList := toList_trimmed string ▸ Blank.bare_trim _
  rcases read_eq_some_file_iff.mp (parse_eq_ok_iff.mp h) with form | form
  · refine ⟨form.toIsFilePath, fun c ending => bare.last c ?_⟩
    rw [form.text_eq, getLast?_url form.toIsFilePath, ending]
  · exact ⟨form.toIsFilePath, form.text_eq ▸ bare.last⟩

/-- **Canonical URLs** name what they were made of.  Whatever string names a location, its canonical
URL names it too, so making the canonical URL of what a string names is idempotent; and a path that
is neither empty nor the marker, and does not end with a blank, is named by its URL, whatever it
begins with or contains. -/
theorem canonical_urls :
    (∀ string location, parse string = .ok location → parse location.url = .ok location) ∧
      (∀ string canonical, (parse string).map url = .ok canonical →
        (parse canonical).map url = .ok canonical) ∧
      ∀ path : String, path ≠ "" → path ≠ ":memory:" →
        (∀ c, path.toList.getLast? = some c → isBlank c = false) →
        parse ("sqlite:///" ++ path) = .ok (.file path) := by
  have again : ∀ string location, parse string = .ok location →
      parse location.url = .ok location := by
    intro string location h
    cases location with
    | memory => rfl
    | file path => exact (canonical_of_parse h).parse_url
  refine ⟨again, fun string canonical h => ?_,
    fun path nonempty unmarked last => Canonical.parse_url ⟨⟨nonempty, unmarked⟩, last⟩⟩
  cases parsed : parse string with
  | error e =>
      rw [parsed] at h
      cases h
  | ok location =>
      rw [parsed] at h
      obtain rfl : location.url = canonical := Except.ok.inj h
      rw [again string location parsed]
      rfl

/-- The paths begin with a blank and look like URLs. -/
theorem canonical_urls_samples :
    parse "sqlite:/// a://b" = .ok (.file " a://b") ∧
      parse (url (.file " a://b")) = .ok (.file " a://b") ∧
      parse "sqlite:///sqlite:///:memory:" = .ok (.file "sqlite:///:memory:") := by
  obtain ⟨again, -, named⟩ := canonical_urls
  have first : parse "sqlite:/// a://b" = .ok (.file " a://b") := by
    refine named " a://b" (by decide) (by decide) fun c ending => ?_
    obtain rfl : 'b' = c := Option.some.inj ending
    decide
  refine ⟨first, again _ _ first, ?_⟩
  refine named "sqlite:///:memory:" (by decide) (by decide) fun c ending => ?_
  obtain rfl : ':' = c := Option.some.inj ending
  decide

end FractalArchive.Location
