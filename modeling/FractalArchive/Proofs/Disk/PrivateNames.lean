import FractalArchive.Disk.DatabaseName
import FractalArchive.Proofs.Text.Stretches

/-!
# Private names

A name is *private* when a connection by it has a database of its own (`PrivateName`): the name is
empty or the marker `:memory:`, or it is a URI that asks for such a database.  A URI does so by its
path, which is one of these two, by the last of its parameters `mode`, which is `memory`, or by the
last of its parameters `vfs`, which names a file system in memory (`InMemory`).

* `requests_eq_ok`: of the modes and of the file systems, the last one counts;
* `isOwn_iff`: of the names that stand for something, the private ones stand for a database of the
  connection's own.
-/

namespace FractalArchive.DatabaseName

/-- A name stands for a database of the connection's own. -/
def IsOwn (stands : DatabaseName) : Prop :=
  ∃ readOnly, stands = .own readOnly

/-! ### Parameters -/

/-- The last value of a parameter. -/
def lastValue (key : String) : List (String × String) → Option String
  | [] => none
  | (name, value) :: rest => (lastValue key rest).or (if name = key then some value else none)

variable {r r' : Request} {one : String × String} {parameters : List (String × String)}

/-- Whether a URI asks for a database of the connection's own, if its parameters so far come to
`own` and `mode` is the last mode of those that follow. -/
def ownAfter (own : Bool) (mode : Option String) : Bool :=
  (mode.map (· == "memory")).getD own

theorem ownAfter_or (own : Bool) (mode mode' : Option String) :
    ownAfter own (mode'.or mode) = ownAfter (ownAfter own mode) mode' := by
  cases mode' with
  | none => rfl
  | some _ => rfl

/-- An access that is granted asks for no database of the connection's own. -/
theorem ask_eq_ok {access : Access} {mode : String} (h : r.ask access mode = .ok r') :
    r'.ownDatabase = false ∧ r'.fileSystem = r.fileSystem := by
  unfold Request.ask at h
  split at h
  · obtain rfl := Except.ok.inj h
    exact ⟨rfl, rfl⟩
  · cases h

/-- What one parameter asks for. -/
theorem request_eq_ok (h : request r one = .ok r') :
    r'.ownDatabase = ownAfter r.ownDatabase (lastValue "mode" [one]) ∧
      r'.fileSystem = (lastValue "vfs" [one]).or r.fileSystem := by
  unfold request at h
  split at h
  case h_1 | h_5 | h_8 =>
    obtain rfl := Except.ok.inj h
    exact ⟨rfl, rfl⟩
  case h_2 | h_3 | h_4 => exact ask_eq_ok h
  case h_6 => cases h
  case h_7 =>
    split at h
    · obtain rfl := Except.ok.inj h
      exact ⟨rfl, rfl⟩
    · cases h
  case h_9 _ noFileSystem _ _ _ _ noMode _ _ =>
    obtain rfl := Except.ok.inj h
    obtain ⟨name, value⟩ := one
    have mode : name ≠ "mode" := fun e => noMode value (by rw [e])
    have fileSystem : name ≠ "vfs" := fun e => noFileSystem value (by rw [e])
    simp only [lastValue, mode, fileSystem, if_false, Option.or_none]
    exact ⟨rfl, rfl⟩

/-- **What parameters ask for**: of the modes and of the file systems, the last one counts. -/
theorem requests_eq_ok (h : requests r parameters = .ok r') :
    r'.ownDatabase = ownAfter r.ownDatabase (lastValue "mode" parameters) ∧
      r'.fileSystem = (lastValue "vfs" parameters).or r.fileSystem := by
  induction parameters generalizing r with
  | nil =>
      obtain rfl := Except.ok.inj h
      exact ⟨rfl, rfl⟩
  | cons one rest ih =>
      unfold requests at h
      split at h
      · cases h
      next between first =>
        obtain ⟨own, fileSystem⟩ := request_eq_ok first
        obtain ⟨own', fileSystem'⟩ := ih h
        rw [own', fileSystem', own, fileSystem]
        simp only [lastValue, Option.none_or, ownAfter_or, Option.or_assoc, and_self]

/-! ### URIs -/

/-- What follows the authority of a URI. -/
def afterAuthority : Octets → Octets
  | a :: b :: more =>
    if a = ascii '/' ∧ b = ascii '/' then (splitAtEnd (· == ascii '/') more).2 else a :: b :: more
  | rest => rest

/-- The part of a URI before its parameters, and the rest up to its fragment. -/
def cutUri (octets : Octets) : Octets × Octets :=
  splitAtEnd (· == ascii '?') (octets.takeWhile (· != ascii '#'))

/-- The path of a URI, from what follows its authority. -/
def uriPath (octets : Octets) : String :=
  fileName (unescape (cutUri octets).1)

/-- The parameters of a URI, from what follows its authority. -/
def uriParameters (octets : Octets) : List (String × String) :=
  (pieces ((cutUri octets).2.drop 1)).filterMap parameter

/-- A path and parameters that ask for a database of the connection's own. -/
def InMemory (path : String) (parameters : List (String × String)) : Prop :=
  (path = "" ∨ path = ":memory:") ∨ lastValue "mode" parameters = some "memory" ∨
    lastValue "vfs" parameters = some "memdb"

theorem ownAfter_false_iff {mode : Option String} :
    ownAfter false mode = true ↔ mode = some "memory" := by
  cases mode with
  | none => simp [ownAfter]
  | some mode => simp [ownAfter]

/-- What a path stands for, by what is asked for besides. -/
theorem resolve_isOwn_iff (r : Request) (path : String) :
    (r.resolve path).IsOwn ↔ (path = "" ∨ path = ":memory:") ∨ r.ownDatabase = true ∨
      r.fileSystem = some "memdb" := by
  unfold Request.resolve
  simp only
  split
  next asked =>
    simp only [Bool.or_eq_true, decide_eq_true_eq] at asked
    refine iff_of_true ⟨_, rfl⟩ ?_
    rcases asked with (own | empty) | marked
    · exact .inr (.inl own)
    · exact .inl (.inl empty)
    · exact .inl (.inr marked)
  next unasked =>
    simp only [Bool.or_eq_true, decide_eq_true_eq, not_or] at unasked
    obtain ⟨⟨own, empty⟩, marked⟩ := unasked
    simp only [own, empty, marked, or_self, false_or, Bool.false_eq_true]
    split
    next inMemory => exact iff_of_true ⟨_, rfl⟩ inMemory
    next onDisk => exact iff_of_false nofun onDisk

/-- **A URI** stands for a database of the connection's own when its path or its parameters ask for
one. -/
theorem readPath_isOwn_iff {octets : Octets} {stands : DatabaseName}
    (h : readPath octets = .ok stands) :
    stands.IsOwn ↔ InMemory (uriPath octets) (uriParameters octets) := by
  unfold readPath at h
  simp only at h
  split at h
  · cases h
  next r asked =>
    have asked : requests {} (uriParameters octets) = .ok r := asked
    obtain ⟨own, fileSystem⟩ := requests_eq_ok asked
    have mode : r.ownDatabase = true ↔ lastValue "mode" (uriParameters octets) = some "memory" :=
      own ▸ ownAfter_false_iff
    rw [Option.or_none] at fileSystem
    split at h
    · cases h
    · obtain rfl := Except.ok.inj h
      rw [resolve_isOwn_iff, mode, fileSystem]
      rfl

/-! ### Names -/

/-- A name by which a connection has a database of its own. -/
def PrivateName (name : String) : Prop :=
  (name = "" ∨ name = ":memory:") ∨ ∃ rest, octetsOf name = uriMark ++ rest ∧
    InMemory (uriPath (afterAuthority rest)) (uriParameters (afterAuthority rest))

/-- A URI is read from what follows its authority. -/
theorem read_of_uri {name : String} {rest : Octets} (uri : octetsOf name = uriMark ++ rest)
    {stands : DatabaseName} (h : DatabaseName.read name = .ok stands) :
    readPath (afterAuthority rest) = .ok stands := by
  have mark : uriMark.isPrefixOf? (octetsOf name) = some rest :=
    isPrefixOf?_eq_some_iff.mpr uri
  unfold DatabaseName.read at h
  simp only [mark] at h
  split at h
  · cases h
  split at h
  next a b more =>
    unfold afterAuthority
    split at h
    next authority =>
      simp only [if_pos authority]
      split at h
      · exact h
      · cases h
    next none =>
      simp only [if_neg none]
      exact h
  next short =>
    unfold afterAuthority
    split
    · exact absurd rfl (short _ _ _)
    · exact h

/-- **Of the names that stand for something**, the private ones stand for a database of the
connection's own. -/
theorem isOwn_iff {name : String} {stands : DatabaseName}
    (h : DatabaseName.read name = .ok stands) : stands.IsOwn ↔ PrivateName name := by
  by_cases uri : uriMark <+: octetsOf name
  · obtain ⟨rest, uri⟩ := uri
    rw [readPath_isOwn_iff (read_of_uri uri.symm h)]
    constructor
    · exact fun inMemory => .inr ⟨rest, uri.symm, inMemory⟩
    · rintro ((rfl | rfl) | ⟨rest', uri', inMemory⟩)
      · cases uri
      · cases uri
      · obtain rfl := List.append_cancel_left (uri.trans uri')
        exact inMemory
  · have unmarked := isPrefixOf?_eq_none_iff.mpr uri
    have plain : PrivateName name ↔ name = "" ∨ name = ":memory:" :=
      or_iff_left fun ⟨rest, marked, _⟩ => uri ⟨rest, marked.symm⟩
    rw [plain]
    unfold DatabaseName.read at h
    simp only [unmarked] at h
    split at h
    · cases h
    split at h
    next own =>
      obtain rfl := Except.ok.inj h
      exact iff_of_true ⟨_, rfl⟩ own
    next file =>
      obtain rfl := Except.ok.inj h
      exact iff_of_false nofun file

end FractalArchive.DatabaseName
