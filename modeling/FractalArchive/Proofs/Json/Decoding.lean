import FractalArchive.Proofs.Json.Passing
import FractalArchive.Proofs.Json.Records
import Mathlib.Data.List.TakeWhile

/-!
# Decoding records

An object is a record if each of the keys `id`, `name` and `state` occurs once in it, and their
values are a 64-bit integer and two texts (`Describes`).  However such an object is laid out, it is
read as the record that it describes, and an object that describes none is refused (`decoding`).

Each reader is compared with what it is to find in a layout: that value, with the tokens left that
come behind it, or an error where there is none (`Yields`).  What a member does to the slots that
are filled does not depend on the layout (`Members.enter`, `readMember_laid`), so that a run over
the members is a fold (`readMembers_laid`).  Each slot is filled by the members under its own key
alone (`enter_eq_some_iff`), and by one at most (`fill_eq_some_iff`).
-/

namespace FractalArchive.Json

variable {α : Type} {tokens : List Octets} {octets : Octets} {m m' : Members}

/-! ### Members -/

/-- A member of an object. -/
structure Member where
  key : String
  /-- The key as it is written. -/
  literal : Literal
  spelled : literal.text? = some key.toList
  value : Value

/-- The object of members. -/
def objectOf (members : List Member) : Value :=
  .object (members.map fun x => (x.literal, x.value))

/-- The values of the members under a key. -/
def valuesUnder (key : String) (members : List Member) : List Value :=
  (members.filter fun x => x.key = key).map Member.value

/-- The record that the members of an object describe. -/
structure Describes (members : List Member) (r : Record) : Prop where
  id : ∃ v, valuesUnder "id" members = [v] ∧ v.int? = some r.id
  name : ∃ v, valuesUnder "name" members = [v] ∧ v.text? = some r.name
  state : ∃ v, valuesUnder "state" members = [v] ∧ v.text? = some r.state

/-- The keys of a record. -/
def recordKeys : List String := ["id", "name", "state"]

/-- The keys and the values of the members under the keys of a record, in their order. -/
def recordMembers (members : List Member) : List (String × Value) :=
  (members.filter fun x => x.key ∈ recordKeys).map fun x => (x.key, x.value)

/-! ### Slots -/

/-- What a value does to a slot, which it must find empty. -/
def fill (meaning : Value → Option α) (slot : Option α) (v : Value) : Option (Option α) :=
  if slot.isSome then none else (meaning v).map some

/-- What a member does to the members of a record. -/
def Members.enter (m : Members) (x : Member) : Option Members :=
  if x.key = "id" then (fill Value.int? m.id x.value).map fun id => { m with id := id }
  else if x.key = "name" then
    (fill Value.text? m.name x.value).map fun name => { m with name := name }
  else if x.key = "state" then
    (fill Value.text? m.state x.value).map fun state => { m with state := state }
  else some m

theorem valuesUnder_cons (key : String) (x : Member) (members : List Member) :
    valuesUnder key (x :: members) =
      if x.key = key then x.value :: valuesUnder key members else valuesUnder key members := by
  unfold valuesUnder
  by_cases same : x.key = key
  · rw [if_pos same, List.filter_cons_of_pos (by simpa using same), List.map_cons]
  · rw [if_neg same, List.filter_cons_of_neg (by simpa using same)]

/-- **Each slot** is filled by the members under its own key alone. -/
theorem enter_eq_some_iff (members : List Member) : members.foldlM Members.enter m = some m' ↔
    (valuesUnder "id" members).foldlM (fill Value.int?) m.id = some m'.id ∧
      (valuesUnder "name" members).foldlM (fill Value.text?) m.name = some m'.name ∧
      (valuesUnder "state" members).foldlM (fill Value.text?) m.state = some m'.state := by
  induction members generalizing m with
  | nil =>
      obtain ⟨id, name, state⟩ := m
      obtain ⟨id', name', state'⟩ := m'
      simp [valuesUnder]
  | cons x members ih =>
      rw [List.foldlM_cons, valuesUnder_cons, valuesUnder_cons, valuesUnder_cons, Members.enter]
      by_cases id : x.key = "id"
      · have name : x.key ≠ "name" := by simp [id]
        have state : x.key ≠ "state" := by simp [id]
        rw [if_pos id, if_pos id, if_neg name, if_neg state, List.foldlM_cons]
        cases fill Value.int? m.id x.value with
        | none => simp
        | some slot => exact ih
      by_cases name : x.key = "name"
      · have state : x.key ≠ "state" := by simp [name]
        rw [if_neg id, if_neg id, if_pos name, if_pos name, if_neg state, List.foldlM_cons]
        cases fill Value.text? m.name x.value with
        | none => simp
        | some slot => exact ih
      by_cases state : x.key = "state"
      · rw [if_neg id, if_neg id, if_neg name, if_neg name, if_pos state, if_pos state,
          List.foldlM_cons]
        cases fill Value.text? m.state x.value with
        | none => simp
        | some slot => exact ih
      · rw [if_neg id, if_neg id, if_neg name, if_neg name, if_neg state, if_neg state]
        exact ih

/-- A slot is filled by one value, and by no more. -/
theorem fill_eq_some_iff (meaning : Value → Option α) (values : List Value) (a : α) :
    values.foldlM (fill meaning) none = some (some a) ↔
      ∃ v, values = [v] ∧ meaning v = some a := by
  match values with
  | [] => simp
  | [v] => simp [fill]
  | v :: w :: rest =>
      cases means : meaning v with
      | none => simp [fill, means]
      | some b => simp [fill, means]

/-- **Members that fill the slots** of a record describe it. -/
theorem enter_eq_record_iff (members : List Member) (r : Record) :
    members.foldlM Members.enter {} = some ⟨some r.id, some r.name, some r.state⟩ ↔
      Describes members r := by
  rw [enter_eq_some_iff]
  constructor
  · rintro ⟨id, name, state⟩
    exact ⟨(fill_eq_some_iff ..).mp id, (fill_eq_some_iff ..).mp name,
      (fill_eq_some_iff ..).mp state⟩
  · rintro ⟨id, name, state⟩
    exact ⟨(fill_eq_some_iff ..).mpr id, (fill_eq_some_iff ..).mpr name,
      (fill_eq_some_iff ..).mpr state⟩

/-! ### Readers -/

/-- A result is the value that is wanted, with these tokens behind it, or an error where none is
wanted. -/
def Yields {ε : Type} (r : Except ε (α × Cursor)) (wanted : Option α) (tokens : List Octets) :
    Prop :=
  match wanted with
  | some a => ∃ j rest, r = .ok (a, ⟨j, rest⟩) ∧ Laid tokens rest
  | none => ∃ e, r = .error e

namespace Yields

variable {ε β : Type} {r : Except ε (α × Cursor)} {wanted : Option α}

theorem cases (h : Yields r wanted tokens) : (∃ e, r = .error e ∧ wanted = none) ∨
    ∃ a j rest, r = .ok (a, ⟨j, rest⟩) ∧ wanted = some a ∧ Laid tokens rest := by
  cases wanted with
  | none =>
      obtain ⟨e, refused⟩ := h
      exact .inl ⟨e, refused, rfl⟩
  | some a =>
      obtain ⟨j, rest, read, others⟩ := h
      exact .inr ⟨a, j, rest, read, rfl, others⟩

theorem map (h : Yields r wanted tokens) (f : α → β) :
    Yields (r.map fun (a, c) => (f a, c)) (wanted.map f) tokens := by
  obtain ⟨e, rfl, rfl⟩ | ⟨a, j, rest, rfl, rfl, others⟩ := h.cases
  · exact ⟨e, rfl⟩
  · exact ⟨j, rest, rfl, others⟩

end Yields

/-- A reader agrees with a meaning of values: it reads what a value means, and refuses a value
without this meaning. -/
def Agrees (read : Cursor → Except Fault (α × Cursor)) (meaning : Value → Option α) : Prop :=
  ∀ (v : Value) {tokens : List Octets} {octets : Octets}, Laid (v.tokens ++ tokens) octets →
    Follows tokens → ∀ i, Yields (read ⟨i, octets⟩) (meaning v) tokens

/-- A reader that skips white space first may start at the token that comes next. -/
theorem Laid.start {β : Type} {read : Cursor → β}
    (skips : ∀ {c c' : Cursor}, c.skipBlanks = c'.skipBlanks → read c = read c') {o : UInt8}
    {more : Octets} (laid : Laid ((o :: more) :: tokens) octets)
    (visible : Cursor.isBlankOctet o = false) (i : Nat) :
    ∃ j rest, read ⟨i, octets⟩ = read ⟨j, o :: (more ++ rest)⟩ ∧ Laid tokens rest := by
  obtain ⟨j, rest, skipped, others, -⟩ := laid.skipBlanks visible i
  refine ⟨j, rest, skips ?_, others⟩
  rw [skipped, skipBlanks_cons visible]

theorem readId_skips {c c' : Cursor} (same : c.skipBlanks = c'.skipBlanks) :
    readId c = readId c' := by
  unfold readId
  rw [same]

theorem readText_skips {c c' : Cursor} (same : c.skipBlanks = c'.skipBlanks) :
    readText c = readText c' := by
  unfold readText
  rw [same]

/-- What starts no number is refused as an id. -/
theorem readId_refuses {o : UInt8} {more : Octets} (laid : Laid ((o :: more) :: tokens) octets)
    (visible : Cursor.isBlankOctet o = false)
    (noNumber : (o == code '-') = false ∧ isDigit o = false) (i : Nat) :
    ∃ f, readId ⟨i, octets⟩ = .error f := by
  obtain ⟨j, rest, skipped, -⟩ := laid.start readId_skips visible i
  rw [skipped, readId, skipBlanks_cons visible]
  simp only [Cursor.peek?, List.head?_cons, noNumber, Bool.false_eq_true, if_false]
  exact ⟨_, rfl⟩

theorem agrees_readId : Agrees readId Value.int? := by
  intro v tokens octets laid follows i
  cases v with
  | word w =>
      cases w with
      | null => exact readId_refuses laid (by decide) (by decide) i
      | boolean b => cases b <;> exact readId_refuses laid (by decide) (by decide) i
  | string l => exact readId_refuses laid (by decide) (by decide) i
  | list items => exact readId_refuses laid (by decide) (by decide) i
  | object members => exact readId_refuses laid (by decide) (by decide) i
  | number n =>
      obtain ⟨o, more, cons, visible, -⟩ := starts_number n
      rw [Value.tokens, cons] at laid
      obtain ⟨j, rest, skipped, others⟩ := laid.start readId_skips visible i
      have read := n.readId_eq (others.endsNumber follows) j
      rw [cons, List.cons_append, ← skipped] at read
      rw [Value.int?]
      cases means : n.int? with
      | none =>
          rw [means] at read
          exact read
      | some a =>
          rw [means] at read
          obtain ⟨k, read⟩ := read
          exact ⟨k, rest, read, others⟩

/-- What starts no string is refused as a text. -/
theorem readText_refuses {o : UInt8} {more : Octets} (laid : Laid ((o :: more) :: tokens) octets)
    (visible : Cursor.isBlankOctet o = false) (noString : (o == code '\x22') = false) (i : Nat) :
    ∃ f, readText ⟨i, octets⟩ = .error f := by
  obtain ⟨j, rest, skipped, -⟩ := laid.start readText_skips visible i
  rw [skipped, readText, skipBlanks_cons visible]
  simp only [Cursor.peek?, List.head?_cons, noString, Bool.false_eq_true, if_false]
  exact ⟨_, rfl⟩

/-- A string literal that is read. -/
theorem readText_string (l : Literal) (i : Nat) (rest : Octets) :
    readText ⟨i, code '\x22' :: (l.inside ++ [code '\x22'] ++ rest)⟩ =
      readString ⟨i + 1, l.inside ++ [code '\x22'] ++ rest⟩ := by
  rw [readText, skipBlanks_cons (by decide)]
  rfl

theorem agrees_readText : Agrees readText Value.text? := by
  intro v tokens octets laid follows i
  cases v with
  | word w =>
      cases w with
      | null => exact readText_refuses laid (by decide) (by decide) i
      | boolean b => cases b <;> exact readText_refuses laid (by decide) (by decide) i
  | list items => exact readText_refuses laid (by decide) (by decide) i
  | object members => exact readText_refuses laid (by decide) (by decide) i
  | number n =>
      obtain ⟨o, more, cons, start⟩ := n.exists_cons_octets
      obtain ⟨visible, noString⟩ := start_of_number o start
      rw [Value.tokens, cons] at laid
      exact readText_refuses laid visible.1 noString i
  | string l =>
      obtain ⟨j, rest, skipped, others⟩ := Laid.start readText_skips laid (by decide) i
      rw [readText_string] at skipped
      rw [skipped, Value.text?]
      cases text : l.text? with
      | none =>
          rw [List.append_assoc, List.singleton_append]
          exact Literal.readString_refuses text (j + 1) rest
      | some cs =>
          obtain ⟨k, read⟩ := Literal.takes_readString text rest (j + 1)
          exact ⟨k, rest, read, others⟩

theorem agrees_skipValue :
    Agrees (fun c => (skipValue c).map fun c => ((), c)) (fun _ => some ()) := by
  intro v tokens octets laid follows i
  obtain ⟨j, rest, passed, others⟩ := skipValue_laid v laid follows i
  exact ⟨j, rest, congrArg (Except.map _) passed, others⟩

/-! ### Members in a text -/

/-- A value is read behind its colon by a reader that agrees with a meaning. -/
theorem Agrees.valueOf {read : Cursor → Except Fault (α × Cursor)} {meaning : Value → Option α}
    (agrees : Agrees read meaning) (v : Value)
    (laid : Laid ([code ':'] :: (v.tokens ++ tokens)) octets) (follows : Follows tokens) (i : Nat) :
    Yields (valueOf read ⟨i, octets⟩) (meaning v) tokens := by
  obtain ⟨j, rest, colon, value, -⟩ := passColon_laid laid i
  unfold Json.valueOf
  rw [colon]
  obtain ⟨f, refused, none⟩ | ⟨a, k, rest', read, some, others⟩ :=
    (agrees v value follows j).cases
  · rw [none]
    exact ⟨.placed f, by simp only [refused]⟩
  · rw [some]
    exact ⟨k, rest', by simp only [read], others⟩

/-- A slot is filled by a value behind its colon, if it is empty and the value has the meaning that
is wanted. -/
theorem Agrees.fill {read : Cursor → Except Fault (α × Cursor)} {meaning : Value → Option α}
    (agrees : Agrees read meaning) (put : Option α → Members) (slot : Option α) (full : Trouble)
    (v : Value) (laid : Laid ([code ':'] :: (v.tokens ++ tokens)) octets)
    (follows : Follows tokens) (i : Nat) :
    Yields (if slot.isSome then .error full
        else (Json.valueOf read ⟨i, octets⟩).map fun (a, c) => (put (some a), c))
      ((Json.fill meaning slot v).map put) tokens := by
  unfold Json.fill
  cases slot with
  | some _ => exact ⟨full, rfl⟩
  | none =>
      have read := (agrees.valueOf v laid follows i).map (put ∘ some)
      rw [← Option.map_map] at read
      exact read

/-- **A member is read** where it may be entered, and is refused otherwise. -/
theorem readMember_laid (m : Members) (x : Member)
    (laid : Laid ([code ':'] :: (x.value.tokens ++ tokens)) octets) (follows : Follows tokens)
    (i : Nat) : Yields (readMember m x.key ⟨i, octets⟩) (m.enter x) tokens := by
  unfold readMember Members.enter
  by_cases id : x.key = "id"
  · rw [if_pos id, if_pos id]
    exact agrees_readId.fill (fun id => { m with id := id }) m.id _ x.value laid follows i
  by_cases name : x.key = "name"
  · rw [if_neg id, if_neg id, if_pos name, if_pos name]
    exact agrees_readText.fill (fun name => { m with name := name }) m.name _ x.value laid follows i
  by_cases state : x.key = "state"
  · rw [if_neg id, if_neg id, if_neg name, if_neg name, if_pos state, if_pos state]
    exact agrees_readText.fill (fun state => { m with state := state }) m.state _ x.value laid
      follows i
  · rw [if_neg id, if_neg id, if_neg name, if_neg name, if_neg state, if_neg state]
    exact (agrees_skipValue.valueOf x.value laid follows i).map fun _ => m

/-- The next key is found. -/
theorem toKey_laid (first : Bool) (l : Literal)
    (laid : Laid (Value.separator (!first) ++ l.octets :: tokens) octets) (i : Nat) :
    ∃ j rest, toKey first ⟨i, octets⟩ =
        .ok (some ⟨j, code '\x22' :: (l.inside ++ [code '\x22'] ++ rest)⟩) ∧
      Laid tokens rest ∧ rest.length < octets.length := by
  cases first with
  | true =>
      obtain ⟨j, rest, skipped, others, shorter⟩ := Laid.skipBlanks laid (by decide) i
      refine ⟨j, rest, ?_, others, by omega⟩
      rw [toKey, skipped]
      rfl
  | false =>
      obtain ⟨j, rest, skipped, others, shorter⟩ := Laid.skipBlanks laid (by decide) i
      obtain ⟨k, rest', skipped', others', shorter'⟩ := others.skipBlanks (by decide) (j + 1)
      refine ⟨k, rest', ?_, others', by omega⟩
      have comma : (Cursor.mk j (code ',' :: ([] ++ rest))).advance 1 = ⟨j + 1, rest⟩ := rfl
      rw [toKey, skipped]
      simp only [Cursor.peek?, List.head?_cons, comma, skipped']
      rfl

/-- The tokens of members: those of the first, and those of the others behind a comma. -/
theorem memberTokens_cons (comma : Bool) (x : Member) (members : List Member)
    (tokens : List Octets) :
    Value.memberTokens comma ((x :: members).map fun x => (x.literal, x.value)) ++ tokens =
      Value.separator comma ++ x.literal.octets :: ([code ':'] :: (x.value.tokens ++
        (Value.memberTokens true (members.map fun x => (x.literal, x.value)) ++ tokens))) := by
  simp [Value.memberTokens]

/-- Every member takes an octet. -/
theorem length_le_of_laid {members : List Member} {comma : Bool}
    (laid : Laid (Value.memberTokens comma (members.map fun x => (x.literal, x.value)) ++ tokens)
      octets) : members.length ≤ octets.length := by
  induction members generalizing comma octets with
  | nil => exact Nat.zero_le _
  | cons x members ih =>
      rw [memberTokens_cons] at laid
      obtain ⟨rest, key, shorter⟩ := laid.drop
      obtain ⟨j, rest', -, others, shorter'⟩ := Laid.skipBlanks key (by decide) 0
      cases others with
      | @token blanks _ _ _ rest'' value =>
          obtain ⟨rest₃, others, shorter₃⟩ := value.drop
          have bound := ih others
          simp only [List.length_cons, List.length_append] at shorter' ⊢
          omega

/-- **Members are read** up to the end of the object, each where it may be entered. -/
theorem readMembers_laid (members : List Member) {fuel : Nat} {first : Bool}
    (laid : Laid (Value.memberTokens (!first) (members.map fun x => (x.literal, x.value)) ++
      [code '\x7d'] :: tokens) octets) (enough : members.length < fuel) (m : Members) (i : Nat) :
    Yields (readMembers fuel first m ⟨i, octets⟩) (members.foldlM Members.enter m)
      ([code '\x7d'] :: tokens) := by
  induction members generalizing fuel first octets m i with
  | nil =>
      obtain ⟨j, rest, skipped, others, -⟩ := Laid.skipBlanks laid (by decide) i
      cases fuel with
      | zero => cases enough
      | succ fuel =>
          refine ⟨j, _, ?_, others.bare _⟩
          rw [readMembers, toKey, skipped]
          rfl
  | cons x members ih =>
      rw [memberTokens_cons] at laid
      obtain ⟨j, rest, found, behind, -⟩ := toKey_laid first x.literal laid i
      obtain ⟨k, named⟩ := Literal.takes_readString x.spelled rest (j + 1)
      rw [String.ofList_toList] at named
      have follows := follows_memberTokens (members.map fun x => (x.literal, x.value)) tokens
      cases fuel with
      | zero => cases enough
      | succ fuel =>
          rw [List.foldlM_cons, readMembers, found]
          simp only [advance_cons, named]
          obtain ⟨t, refused, none⟩ | ⟨m₁, l, rest', read, some, others⟩ :=
            (readMember_laid m x behind follows k).cases
          · rw [refused, none]
            exact ⟨t, rfl⟩
          · rw [read, some]
            refine ih ?_ (Nat.lt_of_succ_lt_succ enough) m₁ l
            exact others

/-! ### Records in a text -/

/-- What stands within an object is read with its end; whatever goes wrong in it, it is refused. -/
theorem readWithin_laid {inside : Except Trouble (Record × Cursor)} {wanted : Option Record}
    (h : Yields inside wanted ([code '\x7d'] :: tokens)) :
    Yields (readWithin .object inside) wanted tokens := by
  obtain ⟨t, rfl, rfl⟩ | ⟨r, j, rest, rfl, rfl, ending⟩ := h.cases
  · cases t with
    | placed f => exact ⟨f, rfl⟩
    | unplaced cause c => exact ⟨_, rfl⟩
  · obtain ⟨k, rest', skipped, others, -⟩ := ending.skipBlanks (by decide) j
    refine ⟨k + 1, rest', ?_, others⟩
    have ended : endObject ⟨j, rest⟩ = .ok ⟨k + 1, rest'⟩ := by
      rw [endObject, skipped]
      rfl
    rw [readWithin]
    simp only [ended]
    rfl

/-- The record of slots that are all filled. -/
def Members.record? (m : Members) : Option Record :=
  match m.id, m.name, m.state with
  | some id, some name, some state => some ⟨id, name, state⟩
  | _, _, _ => none

theorem Members.record?_eq_some_iff (m : Members) (r : Record) :
    m.record? = some r ↔ m = ⟨some r.id, some r.name, some r.state⟩ := by
  obtain ⟨id, name, state⟩ := m
  obtain ⟨id', name', state'⟩ := r
  cases id <;> cases name <;> cases state <;> simp [record?]

theorem recordOf_laid (m : Members) (laid : Laid tokens octets) (i : Nat) :
    Yields (recordOf m ⟨i, octets⟩) m.record? tokens := by
  obtain ⟨_ | id, _ | name, _ | state⟩ := m
  case some.some.some => exact ⟨i, octets, rfl, laid⟩
  all_goals exact ⟨_, rfl⟩

/-- **An object is read** where its members fill the slots of a record, and is refused otherwise. -/
theorem readValue_laid (members : List Member)
    (laid : Laid ((objectOf members).tokens ++ tokens) octets) (i : Nat) :
    Yields (readValue ⟨i, octets⟩) ((members.foldlM Members.enter {}).bind Members.record?)
      tokens := by
  rw [objectOf, Value.tokens, List.cons_append, List.append_assoc] at laid
  obtain ⟨j, rest, skipped, inside, -⟩ := laid.skipBlanks (by decide) i
  replace inside : Laid (Value.memberTokens (!true) _ ++ [code '\x7d'] :: tokens) rest := inside
  rw [readValue, skipped]
  simp only [Cursor.peek?, List.head?_cons, beq_self_eq_true, if_true, List.nil_append,
    advance_cons]
  refine readWithin_laid ?_
  obtain ⟨t, refused, none⟩ | ⟨m, k, rest', read, some, others⟩ :=
    (readMembers_laid members inside (Nat.lt_succ_of_le (length_le_of_laid inside)) {}
      (j + 1)).cases
  · rw [refused, none]
    exact ⟨t, rfl⟩
  · rw [read, some]
    exact recordOf_laid m others k

/-- **An object is read** as the record that it describes, and is refused if it describes none. -/
theorem readRecord_eq_ok_iff {members : List Member}
    (laid : Laid (objectOf members).tokens octets) (r : Record) :
    readRecord octets = .ok r ↔ Describes members r := by
  have whole : Laid ((objectOf members).tokens ++ []) octets := by simpa using laid
  rw [← enter_eq_record_iff]
  have slots : members.foldlM Members.enter {} = some ⟨some r.id, some r.name, some r.state⟩ ↔
      (members.foldlM Members.enter {}).bind Members.record? = some r := by
    simp [Option.bind_eq_some_iff, Members.record?_eq_some_iff]
  rw [slots, readRecord]
  obtain ⟨f, refused, none⟩ | ⟨r', j, rest, read, some, others⟩ :=
    (readValue_laid members whole 0).cases
  · rw [refused, none]
    simp
  · cases others with
    | blank blank =>
        have ended : ((Cursor.mk j rest).skipBlanks.rest).isEmpty = true := by
          simp [Cursor.skipBlanks, Cursor.advance, List.takeWhile_eq_self_iff.mpr blank]
        rw [read, some]
        simp only [ended, if_true, Except.ok.injEq, Option.some.injEq]

/-! ### One record in several texts -/

theorem valuesUnder_eq {key : String} (member : key ∈ recordKeys) (members : List Member) :
    valuesUnder key members =
      ((recordMembers members).filter fun x => x.1 = key).map Prod.snd := by
  rw [recordMembers, List.filter_map, List.map_map, List.filter_filter]
  refine congrArg (List.map Member.value) (List.filter_congr fun x _ => ?_)
  by_cases same : x.key = key
  · simp [same, member]
  · simp [same]

/-- What a value alone under its key says does not depend on the other members. -/
theorem valuesUnder_of_perm {members members' : List Member} {key : String} {v : Value}
    (same : (recordMembers members').Perm (recordMembers members)) (member : key ∈ recordKeys)
    (only : valuesUnder key members = [v]) : valuesUnder key members' = [v] := by
  rw [valuesUnder_eq member] at only ⊢
  exact List.perm_singleton.mp (only ▸ (same.filter _).map _)

/-- The members under the keys of a record alone describe it, in any order. -/
theorem Describes.of_perm {members members' : List Member} {r : Record}
    (same : (recordMembers members').Perm (recordMembers members)) (h : Describes members r) :
    Describes members' r := by
  obtain ⟨⟨_, id, isId⟩, ⟨_, name, isName⟩, ⟨_, state, isState⟩⟩ := h
  exact ⟨⟨_, valuesUnder_of_perm same (by decide) id, isId⟩,
    ⟨_, valuesUnder_of_perm same (by decide) name, isName⟩,
    ⟨_, valuesUnder_of_perm same (by decide) state, isState⟩⟩

/-- **Decoding records.**  However an object is laid out, it is read as the record that its members
describe, and it is refused if they describe none.  Objects with the same members under the keys of
a record, in any order and among any others, give the same. -/
theorem decoding {members : List Member} {octets : Octets}
    (laid : Laid (objectOf members).tokens octets) :
    (∀ r, readRecord octets = .ok r ↔ Describes members r) ∧
      ∀ {members' : List Member} {octets' : Octets}, Laid (objectOf members').tokens octets' →
        (recordMembers members').Perm (recordMembers members) →
        (readRecord octets').toOption = (readRecord octets).toOption := by
  refine ⟨readRecord_eq_ok_iff laid, fun laid' same => ?_⟩
  have reads : ∀ r, readRecord _ = .ok r ↔ readRecord octets = .ok r := fun r => by
    rw [readRecord_eq_ok_iff laid', readRecord_eq_ok_iff laid]
    exact ⟨.of_perm same.symm, .of_perm same⟩
  cases read : readRecord octets with
  | ok r => rw [(reads r).mpr read]
  | error f =>
      cases read' : readRecord _ with
      | ok r => exact nomatch read.symm.trans ((reads r).mp read')
      | error f' => rfl

/-- The characters of a text, each as it is.  Those that must be escaped are left out. -/
def verbatim (s : String) : Literal :=
  s.toList.filterMap fun c =>
    if h : c ≠ '\x22' ∧ c ≠ '\\' ∧ 0x20 ≤ c.toNat then some (.plain c h) else none

/-- The code unit of a number, with all of its digits in one case. -/
def CodeUnit.ofNat (n : Nat) (capital : Bool) : CodeUnit :=
  let digit (n : Nat) : HexDigit := ⟨⟨n % 16, Nat.mod_lt n (by decide)⟩, capital⟩
  ⟨digit (n / 4096), digit (n / 256), digit (n / 16), digit n⟩

/-- The two halves of a pair of escapes. -/
def halves : CodeUnit × CodeUnit :=
  (.ofNat 0xD83D true, .ofNat 0xDE00 false)

/-- An id, whose key has an escape. -/
def idSample : Member :=
  ⟨"id", .unit (.ofNat 0x69 false) :: verbatim "d", by decide, .number ⟨true, 7, none, none⟩⟩

/-- A name with an escape of one letter. -/
def nameSample : Member :=
  ⟨"name", verbatim "name", by decide, .string (verbatim "a" ++ [.short .slash])⟩

/-- A state with a pair of escapes. -/
def stateSample : Member :=
  ⟨"state", verbatim "state", by decide, .string [.unit halves.1, .unit halves.2]⟩

/-- A member under another key, whose value has an id, a real number and half a pair of escapes
in it. -/
def otherSample : Member :=
  ⟨"other", verbatim "other", by decide,
    .list [.object [(verbatim "id", .word .null)],
      .number ⟨false, 15, some ⟨[code '5'], by decide, List.forall_mem_singleton.mpr rfl⟩, none⟩,
      .string [.unit halves.1]]⟩

/-- The members of a record with another one among them. -/
def mixedSample : List Member := [nameSample, otherSample, idSample, stateSample]

/-- The members of the record alone, in another order. -/
def plainSample : List Member := [idSample, nameSample, stateSample]

/-- Members of which two have the same key. -/
def repeatedSample : List Member := [idSample, nameSample, stateSample, idSample]

example : layOut [] (objectOf mixedSample).tokens = Utf8.encode ("\x7b\"name\":\"a\\/\"," ++
    "\"other\":[\x7b\"id\":null\x7d,15.5,\"\\uD83D\"],\"\\u0069d\":-7," ++
    "\"state\":\"\\uD83D\\ude00\"\x7d").toList := by
  decide +kernel

theorem decoding_samples :
    readRecord (layOut [] (objectOf mixedSample).tokens) = .ok ⟨-7, "a/", "😀"⟩ ∧
      (readRecord (layOut [code '\n'] (objectOf plainSample).tokens)).toOption =
        some ⟨-7, "a/", "😀"⟩ ∧
      ∀ r, readRecord (layOut [] (objectOf repeatedSample).tokens) ≠ .ok r := by
  have lay (members : List Member) : Laid (objectOf members).tokens
      (layOut [] (objectOf members).tokens) := laid_layOut (List.forall_mem_nil _) _
  have spaced : Laid (objectOf plainSample).tokens
      (layOut [code '\n'] (objectOf plainSample).tokens) :=
    laid_layOut (List.forall_mem_singleton.mpr rfl) _
  obtain ⟨reads, alike⟩ := decoding (lay mixedSample)
  have mixed := (reads ⟨-7, "a/", "😀"⟩).mpr ⟨⟨_, rfl, rfl⟩, ⟨_, rfl, rfl⟩, ⟨_, rfl, rfl⟩⟩
  refine ⟨mixed, (alike spaced (List.Perm.swap ..)).trans (congrArg _ mixed), fun r read => ?_⟩
  obtain ⟨v, only, -⟩ := (((decoding (lay repeatedSample)).1 r).mp read).id
  have twice : (valuesUnder "id" repeatedSample).length = 2 := rfl
  rw [only] at twice
  cases twice

end FractalArchive.Json
