import FractalArchive.Proofs.Json.Integers

/-!
# Reading records back

A record is read member by member: each step takes a key, a colon and a value and goes on behind
them (`readMembers_member`).  So a written record is read whatever follows it (`takes_readValue`),
and alone as well (`readRecord_writeRecord`).

The first theorem also says that the text of a record ends where the reading of it ends.  Hence
records can be told apart in a longer text (`writeRecord_append_inj`), and the text of a list
determines its records (`writeRecords_injective`).
-/

namespace FractalArchive

/-- A record whose id is a 64-bit integer. -/
def Record.IdFits (r : Record) : Prop :=
  -9223372036854775808 ≤ r.id ∧ r.id ≤ 9223372036854775807

instance (r : Record) : Decidable r.IdFits :=
  inferInstanceAs (Decidable (_ ∧ _))

namespace Json

variable {α : Type} {m m' : Members} {key written rest : Octets} {r : Record}

/-! ### Values -/

/-- What stands between the quotes of a written string. -/
def escapes (s : String) : Octets :=
  Utf8.encode (s.toList.flatMap escape)

theorem encode_writeString (s : String) :
    Utf8.encode (writeString s) = code '\x22' :: (escapes s ++ [code '\x22']) := by
  rw [writeString, Utf8.encode_cons, Utf8.encode_append]
  rfl

theorem takes_readText (s : String) (rest : Octets) :
    Takes readText (Utf8.encode (writeString s)) s rest := by
  intro i
  obtain ⟨j, read⟩ := (spells_escapes s.toList).takes_readString rest (i + 1)
  refine ⟨j, ?_⟩
  rw [encode_writeString, List.cons_append, readText, skipBlanks_cons (by decide)]
  exact read

/-- A value is read behind its colon. -/
theorem takes_valueOf {read : Cursor → Except Fault (α × Cursor)} {value : α}
    (h : Takes read written value rest) :
    Takes (valueOf read) (code ':' :: written) value rest := by
  intro i
  obtain ⟨j, read⟩ := h (i + 1)
  have colon : passColon ⟨i, code ':' :: (written ++ rest)⟩ = .ok ⟨i + 1, written ++ rest⟩ := by
    rw [passColon, skipBlanks_cons (by decide)]
    rfl
  refine ⟨j, ?_⟩
  rw [List.cons_append, valueOf, colon]
  simp only [read]

/-! ### Members -/

/-- A member is put where its value belongs. -/
theorem takes_readMember (put : α → Members) {read : Cursor → Except Fault (α × Cursor)} {value : α}
    {name : String} (h : Takes read written value rest)
    (puts : ∀ c, readMember m name c = (valueOf read c).map fun (v, c) => (put v, c)) :
    Takes (readMember m name) (code ':' :: written) (put value) rest := by
  intro i
  obtain ⟨j, read⟩ := takes_valueOf h i
  refine ⟨j, ?_⟩
  rw [puts, read]
  rfl

theorem takes_id {n : Int} (new : m.id = none) (least : -(Numeral.signedLimit : Int) ≤ n)
    (greatest : n < Numeral.signedLimit) (ends : EndsNumber rest) :
    Takes (readMember m "id") (code ':' :: Utf8.encode (writeInt n)) { m with id := some n }
      rest :=
  takes_readMember (fun v => { m with id := some v }) (takes_readId least greatest ends) fun c => by
    rw [readMember, if_pos rfl, new]
    rfl

theorem takes_name (new : m.name = none) (s : String) (rest : Octets) :
    Takes (readMember m "name") (code ':' :: Utf8.encode (writeString s))
      { m with name := some s } rest :=
  takes_readMember (fun v => { m with name := some v }) (takes_readText s rest) fun c => by
    rw [readMember, if_neg (by decide), if_pos rfl, new]
    rfl

theorem takes_state (new : m.state = none) (s : String) (rest : Octets) :
    Takes (readMember m "state") (code ':' :: Utf8.encode (writeString s))
      { m with state := some s } rest :=
  takes_readMember (fun v => { m with state := some v }) (takes_readText s rest) fun c => by
    rw [readMember, if_neg (by decide), if_neg (by decide), if_pos rfl, new]
    rfl

/-- What stands before a key: a comma, unless it is the first. -/
def beforeKey (first : Bool) : Octets :=
  if first then [] else [code ',']

theorem toKey_beforeKey (first : Bool) (i : Nat) (rest : Octets) :
    ∃ j, toKey first ⟨i, beforeKey first ++ code '\x22' :: rest⟩ =
      .ok (some ⟨j, code '\x22' :: rest⟩) := by
  cases first with
  | true =>
      refine ⟨i, ?_⟩
      rw [beforeKey, if_pos rfl, List.nil_append, toKey, skipBlanks_cons (by decide)]
      rfl
  | false =>
      refine ⟨i + 1, ?_⟩
      rw [beforeKey, if_neg (by decide), List.singleton_append, toKey, skipBlanks_cons (by decide),
        advance_cons, skipBlanks_cons (by decide)]
      rfl

/-- The octets of a member: what stands before it, a key that is spelled, and a value. -/
def member (first : Bool) (key value : Octets) : Octets :=
  beforeKey first ++ code '\x22' :: (key ++ [code '\x22'] ++ code ':' :: value)

/-- **A member is read**, and reading goes on behind it. -/
theorem readMembers_member (first : Bool) {name : String} (spelled : Spells key (octetsOf name))
    (value : Takes (readMember m name) (code ':' :: written) m' rest) (fuel i : Nat) :
    ∃ j, readMembers (fuel + 1) first m ⟨i, member first key written ++ rest⟩ =
      readMembers fuel false m' ⟨j, rest⟩ := by
  have parts : member first key written ++ rest = beforeKey first ++ code '\x22' ::
      (key ++ [code '\x22'] ++ (code ':' :: written ++ rest)) := by
    simp [member]
  obtain ⟨j, start⟩ :=
    toKey_beforeKey first i (key ++ [code '\x22'] ++ (code ':' :: written ++ rest))
  obtain ⟨k, named⟩ := spelled.takes_readString (code ':' :: written ++ rest) (j + 1)
  obtain ⟨l, read⟩ := value k
  refine ⟨l, ?_⟩
  rw [parts, readMembers, start]
  simp only [advance_cons, named, read]

/-- The end of an object ends the members. -/
theorem readMembers_end (fuel : Nat) (first : Bool) (m : Members) (i : Nat) (rest : Octets) :
    readMembers (fuel + 1) first m ⟨i, code '\x7d' :: rest⟩ =
      .ok (m, ⟨i, code '\x7d' :: rest⟩) := by
  have stop : toKey first ⟨i, code '\x7d' :: rest⟩ = .ok none := by
    rw [toKey, skipBlanks_cons (by decide)]
    rfl
  rw [readMembers, stop, skipBlanks_cons (by decide)]

/-! ### Records -/

/-- The members of a record. -/
def members (r : Record) : Octets :=
  member true (escapes "id") (Utf8.encode (writeInt r.id)) ++
    (member false (escapes "name") (Utf8.encode (writeString r.name)) ++
      member false (escapes "state") (Utf8.encode (writeString r.state)))

theorem encode_writeRecord (r : Record) :
    Utf8.encode (writeRecord r) = code '\x7b' :: (members r ++ [code '\x7d']) := by
  have mark : ∀ c ∈ ['\x7b', ',', ':', '\x7d'], String.utf8EncodeChar c = [code c] := by
    simp only [List.mem_cons, List.not_mem_nil, or_false]
    rintro c (rfl | rfl | rfl | rfl) <;> rfl
  simp [writeRecord, writeKey, members, member, beforeKey, Utf8.encode_nil, Utf8.encode_cons,
    Utf8.encode_append, encode_writeString, mark]

/-- The end of an object is passed. -/
theorem endObject_cons (i : Nat) (rest : Octets) :
    endObject ⟨i, code '\x7d' :: rest⟩ = .ok ⟨i + 1, rest⟩ := by
  rw [endObject, skipBlanks_cons (by decide)]
  rfl

/-- The members of a record are read up to the end of the object. -/
theorem readMembers_members (fits : r.IdFits) (fuel i : Nat) (rest : Octets) :
    ∃ j, readMembers (fuel + 4) true {} ⟨i, members r ++ code '\x7d' :: rest⟩ =
      .ok (⟨some r.id, some r.name, some r.state⟩, ⟨j, code '\x7d' :: rest⟩) := by
  have least : -(Numeral.signedLimit : Int) ≤ r.id := fits.1
  have greatest : r.id < Numeral.signedLimit := Int.lt_of_le_of_lt fits.2 (by decide)
  have comma : ∀ more, EndsNumber (code ',' :: more) := by
    rintro more o ⟨⟩
    decide
  obtain ⟨j, id⟩ := readMembers_member true (spells_escapes "id".toList)
    (takes_id (m := {}) rfl least greatest (comma _)) (fuel + 3) i
  obtain ⟨k, name⟩ := readMembers_member false (spells_escapes "name".toList)
    (takes_name (m := ⟨some r.id, none, none⟩) rfl r.name _) (fuel + 2) j
  obtain ⟨l, state⟩ := readMembers_member false (spells_escapes "state".toList)
    (takes_state (m := ⟨some r.id, some r.name, none⟩) rfl r.state _) (fuel + 1) k
  refine ⟨l, ?_⟩
  rw [members, List.append_assoc, List.append_assoc]
  exact id.trans (name.trans (state.trans (readMembers_end ..)))

/-- **A record is read** from its text, whatever follows. -/
theorem takes_readValue (fits : r.IdFits) (rest : Octets) :
    Takes readValue (Utf8.encode (writeRecord r)) r rest := by
  intro i
  have enough : 3 ≤ (members r).length := by
    simp [members, member]
    omega
  obtain ⟨fuel, steps⟩ : ∃ fuel, (members r ++ code '\x7d' :: rest).length + 1 = fuel + 4 :=
    ⟨(members r ++ code '\x7d' :: rest).length - 3, by rw [List.length_append]; omega⟩
  obtain ⟨j, read⟩ := readMembers_members fits fuel (i + 1) rest
  refine ⟨j + 1, ?_⟩
  rw [encode_writeRecord, List.cons_append, List.append_assoc, List.singleton_append, readValue,
    skipBlanks_cons (by decide)]
  simp only [advance_cons, steps, read, recordOf, readWithin, endObject_cons]
  rfl

/-- **Reading undoes writing.** -/
theorem readRecord_writeRecord (fits : r.IdFits) :
    readRecord (Utf8.encode (writeRecord r)) = .ok r := by
  obtain ⟨j, read⟩ := takes_readValue fits [] 0
  rw [List.append_nil] at read
  rw [readRecord, read]
  rfl

/-- Where the text of a record ends does not depend on what follows. -/
theorem writeRecord_append_inj {r' : Record} {xs ys : List Char} (fits : r.IdFits)
    (fits' : r'.IdFits) (h : writeRecord r ++ xs = writeRecord r' ++ ys) : r = r' ∧ xs = ys := by
  obtain ⟨j, read⟩ := takes_readValue fits (Utf8.encode xs) 0
  obtain ⟨j', read'⟩ := takes_readValue fits' (Utf8.encode ys) 0
  rw [← Utf8.encode_append] at read read'
  rw [h, read'] at read
  have same := Prod.mk.inj (Except.ok.inj read)
  have rests : Utf8.encode ys = Utf8.encode xs := congrArg Cursor.rest same.2
  exact ⟨same.1.symm, (Utf8.encode_injective rests).symm⟩

/-! ### Lists of records -/

/-- Records with a comma before each. -/
def writeRest (records : List Record) : List Char :=
  records.flatMap fun r => ',' :: writeRecord r

theorem separated_cons (r : Record) (records : List Record) :
    separated ((r :: records).map writeRecord) = writeRecord r ++ writeRest records := by
  induction records generalizing r with
  | nil => simp [separated, writeRest]
  | cons next rest ih =>
      have step : separated ((r :: next :: rest).map writeRecord) =
          writeRecord r ++ ',' :: separated ((next :: rest).map writeRecord) := rfl
      rw [step, ih, writeRest, writeRest, List.flatMap_cons]
      rfl

theorem writeRest_inj {a b : List Record} (fits : ∀ r ∈ a, r.IdFits) (fits' : ∀ r ∈ b, r.IdFits)
    (h : writeRest a ++ [']'] = writeRest b ++ [']']) : a = b := by
  induction a generalizing b with
  | nil =>
      cases b with
      | nil => rfl
      | cons r rest => exact absurd (List.cons.inj h).1 (by decide)
  | cons r rest ih =>
      cases b with
      | nil => exact absurd (List.cons.inj h).1 (by decide)
      | cons r' rest' =>
          rw [List.forall_mem_cons] at fits fits'
          have after : writeRecord r ++ (writeRest rest ++ [']']) =
              writeRecord r' ++ (writeRest rest' ++ [']']) := by
            simpa [writeRest] using h
          obtain ⟨rfl, same⟩ := writeRecord_append_inj fits.1 fits'.1 after
          rw [ih fits.2 fits'.2 same]

/-- **Lists with the same text are equal.** -/
theorem writeRecords_injective {a b : List Record} (fits : ∀ r ∈ a, r.IdFits)
    (fits' : ∀ r ∈ b, r.IdFits) (h : writeRecords a = writeRecords b) : a = b := by
  have inside := (List.cons.inj h).2
  cases a with
  | nil =>
      cases b with
      | nil => rfl
      | cons r rest =>
          rw [separated_cons] at inside
          exact absurd (List.cons.inj inside).1 (by decide)
  | cons r rest =>
      cases b with
      | nil =>
          rw [separated_cons] at inside
          exact absurd (List.cons.inj inside).1 (by decide)
      | cons r' rest' =>
          rw [List.forall_mem_cons] at fits fits'
          rw [separated_cons, separated_cons, List.append_assoc, List.append_assoc] at inside
          obtain ⟨rfl, same⟩ := writeRecord_append_inj fits.1 fits'.1 inside
          rw [writeRest_inj fits.2 fits'.2 same]

end Json

end FractalArchive
