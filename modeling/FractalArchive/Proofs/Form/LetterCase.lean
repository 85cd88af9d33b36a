import FractalArchive.Form.Reading
import FractalArchive.Proofs.Text.Stretches
import Mathlib.Data.List.TakeWhile

/-!
# The case of letters in a media type

Media types are the same in letters of either case.  The media type of a posted form is looked at in
three places:

* the start of the content type tells whether the form is multipart (`isMultipart_request`);
* the content type of a multipart form is read for its boundary (`read_value`);
* the content type of any other form has to start with the media type of URL-encoded forms
  (`eq_of_announced`).

The first two compare small letters, the last one compares octets as they are.  So the spelling of
the media type of a multipart form does not matter, and a URL-encoded form is read only under the
spelling in small letters; under any other it is no form (`letter_case`).

The rest of the request stays the same and may be anything.  A `Posting` is a posted request without
the media type: the header may stand anywhere among others, with blanks before the media type and
any parameters behind it.
-/

namespace FractalArchive

namespace Http

/-! ### Small letters -/

/-- An octet that is changed is one of the capital letters. -/
theorem lowerOctet_cases (o : UInt8) : lowerOctet o = o ∨
    ∃ n < 26, o = .ofNat (0x41 + n) ∧ lowerOctet o = .ofNat (0x61 + n) := by
  by_cases capital : 0x41 ≤ o ∧ o ≤ 0x5A
  · have lowest : 0x41 ≤ o.toNat := UInt8.le_iff_toNat_le.mp capital.1
    have highest : o.toNat ≤ 0x5A := UInt8.le_iff_toNat_le.mp capital.2
    have place : 0x41 + (o.toNat - 0x41) = o.toNat := by omega
    have raised : lowerOctet o = o + 0x20 := if_pos (by simpa using capital)
    refine .inr ⟨o.toNat - 0x41, by omega, by rw [place, UInt8.ofNat_toNat], ?_⟩
    rw [raised, ← UInt8.toNat_inj, UInt8.toNat_add, UInt8.toNat_ofNat']
    show (o.toNat + 0x20) % 256 = _
    omega
  · refine .inl (if_neg ?_)
    simpa using capital

/-- A test of octets that does not tell capital letters from small ones. -/
def CaseBlind (p : UInt8 → Bool) : Prop :=
  ∀ o, p (lowerOctet o) = p o

theorem caseBlind_of_letters {p : UInt8 → Bool}
    (alike : ∀ n < 26, p (.ofNat (0x61 + n)) = p (.ofNat (0x41 + n))) : CaseBlind p := by
  intro o
  rcases lowerOctet_cases o with same | ⟨n, hn, capital, small⟩
  · rw [same]
  · rw [small, capital, alike n hn]

theorem caseBlind_isToken : CaseBlind isToken :=
  caseBlind_of_letters (by decide)

theorem caseBlind_isVisible : CaseBlind isVisible :=
  caseBlind_of_letters (by decide)

theorem caseBlind_isBlankOctet : CaseBlind PartHeaders.isBlankOctet :=
  caseBlind_of_letters (by decide)

/-- The plus sign before a suffix is no letter. -/
theorem caseBlind_bne_plus : CaseBlind (· != 0x2B) :=
  caseBlind_of_letters (by decide)

theorem caseBlind_beq_slash : CaseBlind (· == MediaType.slash) :=
  caseBlind_of_letters (by decide)

theorem lowerOctet_lowerOctet (o : UInt8) : lowerOctet (lowerOctet o) = lowerOctet o := by
  rcases lowerOctet_cases o with same | ⟨n, hn, -, small⟩
  · rw [same, same]
  · have kept : ∀ n < 26, lowerOctet (.ofNat (0x61 + n)) = .ofNat (0x61 + n) := by decide
    rw [small, kept n hn]

theorem lower_lower (octets : Octets) : lower (lower octets) = lower octets := by
  rw [lower, lower, List.map_map]
  exact List.map_congr_left fun o _ => lowerOctet_lowerOctet o

theorem lower_append (xs ys : Octets) : lower (xs ++ ys) = lower xs ++ lower ys :=
  List.map_append

theorem isEmpty_lower (octets : Octets) : (lower octets).isEmpty = octets.isEmpty :=
  List.isEmpty_map

namespace CaseBlind

variable {p : UInt8 → Bool}

theorem comp (h : CaseBlind p) : p ∘ lowerOctet = p :=
  funext h

theorem dropWhile (h : CaseBlind p) (octets : Octets) :
    (lower octets).dropWhile p = lower (octets.dropWhile p) := by
  rw [lower, lower, List.dropWhile_map, h.comp]

theorem all (h : CaseBlind p) (octets : Octets) : (lower octets).all p = octets.all p := by
  rw [lower, List.all_map, h.comp]

theorem forall_mem (h : CaseBlind p) {octets : Octets} :
    (∀ o ∈ lower octets, p o = true) ↔ ∀ o ∈ octets, p o = true := by
  rw [← List.all_eq_true, ← List.all_eq_true, h.all]

end CaseBlind

end Http

open Http

namespace MediaType

/-! ### Reading a media type -/

theorem lower_withoutSuffix (subtype : Octets) :
    lower (withoutSuffix subtype) = withoutSuffix (lower subtype) := by
  cases subtype with
  | nil => rfl
  | cons first rest =>
      -- The suffix is cut off at the last plus sign, the first one from the end.
      have marks : (lower rest).reverse.dropWhile (· != 0x2B) =
          lower (rest.reverse.dropWhile (· != 0x2B)) := by
        rw [← caseBlind_bne_plus.dropWhile, lower, lower, List.map_reverse]
      show lower (withoutSuffix (first :: rest)) = withoutSuffix (lowerOctet first :: lower rest)
      simp only [withoutSuffix, marks]
      cases rest.reverse.dropWhile (· != 0x2B) with
      | nil => rfl
      | cons plus before =>
          show lowerOctet first :: lower before.reverse = lowerOctet first :: (lower before).reverse
          rw [lower, lower, List.map_reverse]

/-- **Type and subtype are read like their small letters**, whatever follows them. -/
theorem read_lower {type subtype : Octets} (tokens : ∀ o ∈ type, isToken o = true)
    (subtokens : ∀ o ∈ subtype, isToken o = true) (rest : Octets) :
    read (lower type ++ slash :: (lower subtype ++ rest)) =
      read (type ++ slash :: (subtype ++ rest)) := by
  have stop : isToken slash = false := by decide
  have small := caseBlind_isToken.forall_mem.mpr tokens
  have subsmall := caseBlind_isToken.forall_mem.mpr subtokens
  have sameSubtype : lower (lower subtype ++ rest.takeWhile isToken) =
      lower (subtype ++ rest.takeWhile isToken) := by
    rw [lower_append, lower_lower, ← lower_append]
  have noSubtype : (lower subtype ++ rest.takeWhile isToken).isEmpty =
      (subtype ++ rest.takeWhile isToken).isEmpty := by
    rw [← isEmpty_lower, sameSubtype, isEmpty_lower]
  have sameBare : lower (withoutSuffix (lower subtype ++ rest.takeWhile isToken)) =
      lower (withoutSuffix (subtype ++ rest.takeWhile isToken)) := by
    rw [lower_withoutSuffix, sameSubtype, ← lower_withoutSuffix]
  simp only [read, takeWhile_append_stop tokens stop, takeWhile_append_stop small stop,
    dropWhile_append_stop tokens stop, dropWhile_append_stop small stop,
    List.takeWhile_append_of_pos subtokens, List.takeWhile_append_of_pos subsmall,
    List.dropWhile_append_of_pos subtokens, List.dropWhile_append_of_pos subsmall,
    lower_lower, isEmpty_lower, noSubtype, sameBare]

/-- Nothing that starts with a blank is a media type. -/
theorem read_of_blank {o : UInt8} (blank : PartHeaders.isBlankOctet o = true) (rest : Octets) :
    read (o :: rest) = none := by
  have noToken : ¬ isToken o = true := by
    rw [PartHeaders.isBlankOctet, Bool.or_eq_true, beq_iff_eq, beq_iff_eq] at blank
    rcases blank with rfl | rfl <;> decide
  rw [read, List.takeWhile_cons_of_neg noToken, List.dropWhile_cons_of_neg noToken]
  simp

end MediaType

namespace Form

/-! ### Requests without their media type -/

/-- A kind of form. -/
inductive Kind where
  | multipart
  | urlencoded
  deriving DecidableEq

/-- The media type of a kind of form, in small letters. -/
def Kind.type : Kind → Octets
  | multipart => multipartType
  | urlencoded => urlencodedType

/-- A posted request, but for the media type in one of its headers. -/
structure Posting where
  target : Target
  /-- The headers before the one with the media type. -/
  before : List (Octets × Octets)
  /-- Blanks before the media type. -/
  blanks : Octets
  /-- What stands behind the media type. -/
  parameters : Octets
  /-- The headers after the one with the media type. -/
  after : List (Octets × Octets)
  body : Octets
  blank : ∀ o ∈ blanks, PartHeaders.isBlankOctet o = true

namespace Posting

variable (p : Posting)

/-- The content type with a media type in this spelling. -/
def value (t : Octets) : Octets :=
  p.blanks ++ t ++ p.parameters

/-- The request with a media type in this spelling. -/
def request (t : Octets) : Request :=
  ⟨octetsOf "POST", p.target, p.before ++ (contentType, p.value t) :: p.after, p.body⟩

/-- No earlier header gives a content type, so the one with the media type counts. -/
def Counts : Prop :=
  p.before.lookup contentType = none

instance : Decidable p.Counts :=
  inferInstanceAs (Decidable (p.before.lookup contentType = none))

/-- A spelling under which a form is not taken for one of its kind: one of the media type of
URL-encoded forms with a capital letter. -/
def Overlooked (k : Kind) (t : Octets) : Prop :=
  k = .urlencoded ∧ p.Counts ∧ t ≠ urlencodedType

instance (k : Kind) (t : Octets) : Decidable (p.Overlooked k t) :=
  inferInstanceAs (Decidable (k = .urlencoded ∧ p.Counts ∧ t ≠ urlencodedType))

end Posting

variable {p : Posting} {k : Kind} {t : Octets}

/-! ### The header with the media type -/

theorem lower_type (k : Kind) : lower k.type = k.type := by
  cases k <;> decide

/-- A media type does not start with a blank. -/
theorem exists_cons_type (k : Kind) :
    ∃ first rest, k.type = first :: rest ∧ PartHeaders.isBlankOctet first = false := by
  have begins : ∃ first, k.type.head? = some first ∧ PartHeaders.isBlankOctet first = false := by
    cases k with
    | multipart => exact ⟨0x6D, rfl, rfl⟩
    | urlencoded => exact ⟨0x61, rfl, rfl⟩
  obtain ⟨first, head, solid⟩ := begins
  obtain ⟨rest, cut⟩ := List.head?_eq_some_iff.mp head
  exact ⟨first, rest, cut, solid⟩

theorem lower_value (spelled : lower t = k.type) : lower (p.value t) = lower (p.value k.type) := by
  simp only [Posting.value, lower_append, spelled, lower_type]

theorem header_request (p : Posting) (t : Octets) : (p.request t).header contentType =
    ((p.before.lookup contentType).or (some (p.value t))).filter (·.all isVisible) := by
  have found : (p.request t).headers.lookup contentType =
      (p.before.lookup contentType).or (some (p.value t)) := by
    rw [Posting.request, List.lookup_append, List.lookup_cons_self]
  rw [Request.header, found]
  cases (p.before.lookup contentType).or (some (p.value t)) <;> rfl

/-- The header does not count, or it holds an octet that is not visible and is passed over, or it is
the content type. -/
theorem header_cases (spelled : lower t = k.type) :
    (¬ p.Counts ∧
      (p.request t).header contentType = (p.request k.type).header contentType) ∨
    ((p.request t).header contentType = none ∧
      (p.request k.type).header contentType = none) ∨
    (p.Counts ∧ (p.request t).header contentType = some (p.value t) ∧
      (p.request k.type).header contentType = some (p.value k.type)) := by
  have sameVisible : (p.value t).all isVisible = (p.value k.type).all isVisible := by
    rw [← caseBlind_isVisible.all, lower_value spelled, caseBlind_isVisible.all]
  rw [header_request, header_request]
  by_cases counts : p.Counts
  · have first : p.before.lookup contentType = none := counts
    rw [first, Option.none_or, Option.none_or, Option.filter_some, Option.filter_some, sameVisible]
    cases (p.value k.type).all isVisible with
    | false => exact .inr (.inl ⟨rfl, rfl⟩)
    | true => exact .inr (.inr ⟨counts, rfl, rfl⟩)
  · obtain ⟨value, earlier⟩ := Option.ne_none_iff_exists'.mp counts
    rw [earlier]
    exact .inl ⟨counts, rfl⟩

/-! ### What the header decides -/

theorem posted (p : Posting) (t : Octets) : (p.request t).method ≠ octetsOf "GET" := by
  show octetsOf "POST" ≠ octetsOf "GET"
  decide

/-- Only the content type is read from the headers. -/
theorem readFields_congr {r r' : Request} (method : r.method = r'.method)
    (target : r.target = r'.target) (body : r.body = r'.body)
    (header : r.header contentType = r'.header contentType) : readFields r = readFields r' := by
  have kind : isMultipart r = isMultipart r' := by rw [isMultipart, isMultipart, header]
  have sameBoundary : boundary r = boundary r' := by rw [boundary, boundary, header]
  have multipart : readMultipart r = readMultipart r' := by
    rw [readMultipart, readMultipart, sameBoundary, body]
  have urlencoded : readUrlencoded r = readUrlencoded r' := by
    simp only [readUrlencoded, method, target, body, header]
  rw [readFields, readFields, kind, multipart, urlencoded]

theorem readFields_of_none (none : (p.request t).header contentType = none) :
    readFields (p.request t) = .error .notAForm := by
  simp only [readFields, isMultipart, readUrlencoded, none, if_neg (posted p t)]
  rfl

section Counted

variable (spelled : lower t = k.type)
  (header : (p.request t).header contentType = some (p.value t))

include spelled

theorem start_of_value : lower ((p.value t).dropWhile PartHeaders.isBlankOctet) =
    k.type ++ lower p.parameters := by
  have bare : (k.type ++ lower p.parameters).dropWhile PartHeaders.isBlankOctet =
      k.type ++ lower p.parameters := by
    obtain ⟨first, rest, begins, solid⟩ := exists_cons_type k
    rw [begins, List.cons_append, List.dropWhile_cons_of_neg (by rw [solid]; exact nofun)]
  rw [Posting.value, List.append_assoc, List.dropWhile_append_of_pos p.blank,
    ← caseBlind_isBlankOctet.dropWhile, lower_append, spelled, bare]

include header

theorem isMultipart_request : isMultipart (p.request t) = (k == .multipart) := by
  simp only [isMultipart, header, start_of_value spelled]
  cases k <;> rfl

end Counted

/-! ### Multipart forms -/

theorem multipartType_eq :
    multipartType = octetsOf "multipart" ++ MediaType.slash :: octetsOf "form-data" :=
  rfl

theorem exists_names (spelled : lower t = multipartType) :
    ∃ type subtype, t = type ++ MediaType.slash :: subtype ∧
      lower type = octetsOf "multipart" ∧ lower subtype = octetsOf "form-data" := by
  rw [multipartType_eq] at spelled
  obtain ⟨type, more, rfl, isType, spelled⟩ := List.map_eq_append_iff.mp spelled
  obtain ⟨o, subtype, rfl, isSlash, isSubtype⟩ := List.map_eq_cons_iff.mp spelled
  obtain rfl : o = MediaType.slash := by
    simpa [isSlash] using (caseBlind_beq_slash o).symm
  exact ⟨type, subtype, rfl, isType, isSubtype⟩

/-- The media type is read alike in every spelling. -/
theorem read_spelled (spelled : lower t = multipartType) (rest : Octets) :
    MediaType.read (t ++ rest) = MediaType.read (multipartType ++ rest) := by
  obtain ⟨type, subtype, rfl, isType, isSubtype⟩ := exists_names spelled
  have tokens : ∀ o ∈ type, isToken o = true := by
    rw [← caseBlind_isToken.forall_mem, isType]
    exact List.all_eq_true.mp (by decide)
  have subtokens : ∀ o ∈ subtype, isToken o = true := by
    rw [← caseBlind_isToken.forall_mem, isSubtype]
    exact List.all_eq_true.mp (by decide)
  have small := MediaType.read_lower tokens subtokens rest
  rw [isType, isSubtype] at small
  rw [multipartType_eq, List.append_assoc, List.append_assoc, List.cons_append, List.cons_append,
    small]

theorem read_value (spelled : lower t = multipartType) :
    MediaType.read (p.value t) = MediaType.read (p.value multipartType) := by
  cases blanks : p.blanks with
  | nil =>
      rw [Posting.value, Posting.value, blanks]
      exact read_spelled spelled p.parameters
  | cons o more =>
      have blank : PartHeaders.isBlankOctet o = true :=
        p.blank o (blanks ▸ List.mem_cons_self)
      rw [Posting.value, Posting.value, blanks, List.append_assoc, List.append_assoc,
        List.cons_append, List.cons_append, MediaType.read_of_blank blank,
        MediaType.read_of_blank blank]

/-- **A multipart form is read alike in every spelling** of its media type. -/
theorem readFields_multipart (spelled : lower t = multipartType)
    (header : (p.request t).header contentType = some (p.value t))
    (small : (p.request multipartType).header contentType = some (p.value multipartType)) :
    readFields (p.request t) = readFields (p.request multipartType) := by
  have announced : isMultipart (p.request t) = true :=
    isMultipart_request (k := .multipart) spelled header
  have announced' : isMultipart (p.request multipartType) = true :=
    isMultipart_request (lower_type .multipart) small
  have sameBoundary : boundary (p.request t) = boundary (p.request multipartType) := by
    simp only [boundary, header, small, read_value spelled]
  rw [readFields, readFields, if_pos announced, if_pos announced', readMultipart, readMultipart,
    sameBoundary]
  rfl

/-! ### URL-encoded forms -/

/-- Only small letters announce a URL-encoded form. -/
theorem eq_of_announced (spelled : lower t = urlencodedType)
    (announced : urlencodedType <+: p.value t) : t = urlencodedType := by
  cases blanks : p.blanks with
  | nil =>
      have sameLength : urlencodedType.length = t.length := by
        rw [← spelled, lower, List.length_map]
      rw [Posting.value, blanks] at announced
      have within : urlencodedType <+: t := List.prefix_of_prefix_length_le announced
        (List.prefix_append t p.parameters) sameLength.le
      exact (within.eq_of_length sameLength).symm
  | cons o more =>
      obtain ⟨first, rest, begins, solid⟩ := exists_cons_type .urlencoded
      rw [Posting.value, blanks, show urlencodedType = first :: rest from begins] at announced
      obtain rfl : first = o := (List.cons_prefix_cons.mp announced).1
      have blank := p.blank first (blanks ▸ List.mem_cons_self)
      exact absurd (solid.symm.trans blank) Bool.false_ne_true

/-- **A URL-encoded form is no form** under a spelling with capital letters. -/
theorem readFields_capitals (spelled : lower t = urlencodedType) (capitals : t ≠ urlencodedType)
    (header : (p.request t).header contentType = some (p.value t)) :
    readFields (p.request t) = .error .notAForm := by
  have noMultipart : ¬ isMultipart (p.request t) = true := by
    rw [isMultipart_request (k := .urlencoded) spelled header]
    decide
  have unannounced : (!urlencodedType.isPrefixOf (p.value t)) = true := by
    rw [Bool.not_eq_true', ← Bool.not_eq_true, List.isPrefixOf_iff_prefix]
    exact fun announced => capitals (eq_of_announced spelled announced)
  rw [readFields, if_neg noMultipart, readUrlencoded, if_neg (posted p t), header]
  exact if_pos unannounced

/-! ### Spellings -/

/-- A spelling that is overlooked leaves no form. -/
theorem read_overlooked (spelled : lower t = k.type) (overlooked : p.Overlooked k t) :
    read (p.request t) = ([], [.formUnread .notAForm]) := by
  obtain ⟨rfl, counts, capitals⟩ := overlooked
  have noForm : readFields (p.request t) = .error .notAForm := by
    rcases header_cases spelled with ⟨elsewhere, -⟩ | ⟨hidden, -⟩ | ⟨-, header, -⟩
    · exact absurd counts elsewhere
    · exact readFields_of_none hidden
    · exact readFields_capitals spelled capitals header
  rw [read, noForm]

/-- Any other spelling is as good as small letters. -/
theorem read_of_not_overlooked (spelled : lower t = k.type) (noticed : ¬ p.Overlooked k t) :
    read (p.request t) = read (p.request k.type) := by
  have same : readFields (p.request t) = readFields (p.request k.type) := by
    rcases header_cases spelled with ⟨-, elsewhere⟩ | ⟨hidden, hidden'⟩ | ⟨counts, header, small⟩
    · exact readFields_congr rfl rfl rfl elsewhere
    · exact readFields_congr rfl rfl rfl (hidden.trans hidden'.symm)
    · cases k with
      | multipart => exact readFields_multipart spelled header small
      | urlencoded =>
          have isSmall : t = urlencodedType := by
            by_contra capitals
            exact noticed ⟨rfl, counts, capitals⟩
          rw [isSmall]
          rfl
  rw [read, read, same]

/-- **The case of letters.**  The media type of a posted form is spelled in two ways, with letters
of either case; everything else in the request stays the same.

A multipart form is read and reported alike.  A URL-encoded form is no form under a spelling with
capital letters, if the header with it counts.  So the two spellings give the same fields exactly if
both are overlooked or neither is, or if small letters give no fields. -/
theorem letter_case (p : Posting) {k : Kind} {t t' : Octets} (spelled : lower t = k.type)
    (spelled' : lower t' = k.type) :
    (k = .multipart → read (p.request t') = read (p.request t)) ∧
    (p.Overlooked k t → read (p.request t) = ([], [.formUnread .notAForm])) ∧
    ((read (p.request t')).1 = (read (p.request t)).1 ↔
      (p.Overlooked k t' ↔ p.Overlooked k t) ∨ (read (p.request k.type)).1 = []) := by
  refine ⟨?multipart, read_overlooked spelled, ?fields⟩
  case multipart =>
    rintro rfl
    have noticed : ∀ t, ¬ p.Overlooked .multipart t := fun t overlooked => nomatch overlooked.1
    rw [read_of_not_overlooked spelled (noticed t), read_of_not_overlooked spelled' (noticed t')]
  case fields =>
    -- A spelling gives the fields of small letters, or, if it is overlooked, none.
    by_cases overlooked : p.Overlooked k t <;> by_cases overlooked' : p.Overlooked k t'
    · rw [read_overlooked spelled overlooked, read_overlooked spelled' overlooked']
      exact iff_of_true rfl (.inl (iff_of_true overlooked' overlooked))
    · rw [read_overlooked spelled overlooked, read_of_not_overlooked spelled' overlooked']
      have apart : ¬ (p.Overlooked k t' ↔ p.Overlooked k t) := fun h =>
        overlooked' (h.mpr overlooked)
      rw [or_iff_right apart]
    · rw [read_of_not_overlooked spelled overlooked, read_overlooked spelled' overlooked']
      have apart : ¬ (p.Overlooked k t' ↔ p.Overlooked k t) := fun h =>
        overlooked (h.mp overlooked')
      rw [or_iff_right apart, eq_comm]
    · rw [read_of_not_overlooked spelled overlooked, read_of_not_overlooked spelled' overlooked']
      exact iff_of_true rfl (.inl (iff_of_false overlooked' overlooked))

/-- A multipart form with one field. -/
def multipartSample : Posting where
  target := ⟨octetsOf "/add", none⟩
  before := []
  blanks := []
  parameters := octetsOf "; boundary=B"
  after := []
  body := octetsOf "--B\r\ncontent-disposition:name=a\r\n\r\nb\r\n--B--"
  blank := nofun

/-- A URL-encoded form with two fields. -/
def urlencodedSample : Posting where
  target := ⟨octetsOf "/add", none⟩
  before := []
  blanks := []
  parameters := []
  after := []
  body := octetsOf "name=Julia&state=%7B%7D"
  blank := nofun

/-- Capital letters in the media type of a multipart form, and in that of a URL-encoded form. -/
theorem letter_case_samples :
    read (multipartSample.request (octetsOf "Multipart/FORM-data")) = ([("a", "b")], []) ∧
      read (urlencodedSample.request (octetsOf "APPLICATION/X-WWW-FORM-URLENCODED")) =
        ([], [.formUnread .notAForm]) ∧
      (read (urlencodedSample.request (octetsOf "APPLICATION/X-WWW-FORM-URLENCODED"))).1 ≠
        (read (urlencodedSample.request urlencodedType)).1 := by
  have small : read (multipartSample.request multipartType) = ([("a", "b")], []) := rfl
  have fields : (read (urlencodedSample.request urlencodedType)).1 =
      [("name", "Julia"), ("state", "\x7b\x7d")] := rfl
  have noticed : ¬ urlencodedSample.Overlooked .urlencoded urlencodedType := fun h => h.2.2 rfl
  have overlooked : urlencodedSample.Overlooked .urlencoded
      (octetsOf "APPLICATION/X-WWW-FORM-URLENCODED") := ⟨rfl, rfl, by decide⟩
  have spelled : lower (octetsOf "APPLICATION/X-WWW-FORM-URLENCODED") = Kind.urlencoded.type := by
    decide
  obtain ⟨alike, -, -⟩ := letter_case multipartSample (k := .multipart)
    (lower_type .multipart) (show lower (octetsOf "Multipart/FORM-data") = _ by decide)
  obtain ⟨-, noForm, -⟩ := letter_case urlencodedSample spelled (lower_type .urlencoded)
  obtain ⟨-, -, same_iff⟩ := letter_case urlencodedSample (lower_type .urlencoded) spelled
  refine ⟨(alike rfl).trans small, noForm overlooked, fun same => ?_⟩
  rcases same_iff.mp same with both | empty
  · exact noticed (both.mp overlooked)
  · exact absurd (fields.symm.trans empty) (by simp)

/-- A URL-encoded form is read under the spelling in small letters, and is no form under another
spelling of the same media type. -/
theorem capitals_unread :
    lower (octetsOf "Application/X-WWW-Form-Urlencoded") = lower urlencodedType ∧
      read (urlencodedSample.request urlencodedType) =
        ([("name", "Julia"), ("state", "\x7b\x7d")], []) ∧
      read (urlencodedSample.request (octetsOf "Application/X-WWW-Form-Urlencoded")) =
        ([], [.formUnread .notAForm]) :=
  ⟨by decide, rfl, rfl⟩

end Form

end FractalArchive
