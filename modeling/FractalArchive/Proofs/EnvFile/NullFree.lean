import FractalArchive.EnvFile.Load
import FractalArchive.Proofs.Text.Stretches
import FractalArchive.Proofs.Text.Utf8

/-!
# Environment files without null characters

A value with a null character cannot be put into the environment.  Where no octet of a file is zero
and no variable has a null character in its name or value, no value gets one: every character of a
value comes from the line, from an escape or from a variable that is there.  So every value can be
used (`assign_usable`), and the environment stays as it is (`assign_nullFree`), line after line
(`loadOctets_usable`).
-/

namespace FractalArchive

/-- No null character is in a text. -/
def NullFree (cs : List Char) : Prop :=
  '\x00' ∉ cs

namespace NullFree

variable {cs ds : List Char}

theorem nil : NullFree [] := List.not_mem_nil

theorem of_subset (h : NullFree cs) (sub : ds ⊆ cs) : NullFree ds := fun mem => h (sub mem)

theorem append (h : NullFree cs) (h' : NullFree ds) : NullFree (cs ++ ds) := by
  simpa [NullFree] using ⟨h, h'⟩

theorem trimStart (h : NullFree cs) : NullFree (Blank.trimStart cs) :=
  h.of_subset (List.dropWhile_sublist _).subset

theorem trimEnd (h : NullFree cs) : NullFree (Blank.trimEnd cs) :=
  h.of_subset fun _ mem =>
    List.mem_reverse.mp ((List.dropWhile_sublist _).subset (List.mem_reverse.mp mem))

end NullFree

namespace Environment

/-- No null character is in the name or the value of a variable. -/
def NullFree (e : Environment) : Prop :=
  ∀ v ∈ e, FractalArchive.NullFree v.1.toList ∧ FractalArchive.NullFree v.2.toList

theorem NullFree.define {e : Environment} (h : e.NullFree) {name value : String}
    (hn : FractalArchive.NullFree name.toList) (hv : FractalArchive.NullFree value.toList) :
    (e.define name value).NullFree := by
  unfold Environment.define
  split
  · exact h
  · exact List.forall_mem_append.mpr ⟨h, List.forall_mem_singleton.mpr ⟨hn, hv⟩⟩

/-- What stands behind a name is the end of an entry. -/
theorem NullFree.behind {e : Environment} (h : e.NullFree) {name found : List Char}
    (there : e.behind? name = some found) : FractalArchive.NullFree found := by
  obtain ⟨⟨n, v⟩, mem, start⟩ := List.exists_of_findSome?_eq_some there
  have entry : FractalArchive.NullFree (n.toList ++ '=' :: v.toList) := by
    simpa [FractalArchive.NullFree] using h _ mem
  rw [isPrefixOf?_eq_some_iff.mp start] at entry
  exact entry.of_subset (List.subset_append_right _ _)

end Environment

namespace EnvFile

/-! ### Lines -/

/-- The lines of a file are its octets in their order. -/
theorem flatten_cutLines (lines : List Octets) (line rest : Octets) :
    (cutLines lines line rest).flatten = lines.reverse.flatten ++ line.reverse ++ rest := by
  induction rest generalizing lines line with
  | nil =>
      rw [cutLines]
      split
      next empty => simp [empty]
      · simp
  | cons o rest ih =>
      rw [cutLines]
      split <;> simp [ih]

theorem physicalLines_nonzero {file : Octets} (nonzero : 0 ∉ file) :
    ∀ line ∈ physicalLines file, 0 ∉ line := by
  have whole : (physicalLines file).flatten ⊆ file := by
    rw [physicalLines, flatten_cutLines]
    cases marked : byteOrderMark.isPrefixOf? file with
    | none => simp
    | some rest => simp [isPrefixOf?_eq_some_iff.mp marked]
  exact fun line mem zero => nonzero (whole (List.mem_flatten.mpr ⟨line, mem, zero⟩))

theorem withoutLineFeed_subset (line : List Char) : withoutLineFeed line ⊆ line := by
  intro c mem
  unfold withoutLineFeed at mem
  rw [← List.mem_reverse]
  split at mem
  next shape => simp [shape, List.mem_reverse.mp mem]
  next shape => simp [shape, List.mem_reverse.mp mem]
  · exact List.mem_reverse.mpr mem

/-- A comment comes after a start of the line. -/
theorem lineEnd_comment {before found line : List Char} {o : Openness}
    (h : lineEnd before o line = .comment found) : found ⊆ before.reverse ++ line := by
  induction line generalizing before o with
  | nil => cases h
  | cons c rest ih =>
      rw [lineEnd] at h
      split at h
      · cases h
        exact List.subset_append_left _ _
      · simpa using ih h

/-- Where the lines are read, no null character is in one; and where reading stops, it is not for a
value that cannot be used. -/
theorem joinLines_nullFree {read : List Char} {o : Openness} {physical : List Octets}
    (start : NullFree read) (nonzero : ∀ line ∈ physical, 0 ∉ line) :
    (∀ line ∈ (joinLines read o physical).1, NullFree line) ∧
      ∀ name value, (joinLines read o physical).2 ≠ some (.unusable name value) := by
  induction physical generalizing read o with
  | nil =>
      rw [joinLines]
      split <;> simp
  | cons octets rest ih =>
      obtain ⟨first, more⟩ := List.forall_mem_cons.mp nonzero
      have restFrom {found : List Char} (free : NullFree found) :
          (∀ line ∈ found :: (joinLines [] .complete rest).1, NullFree line) ∧
            ∀ name value, (joinLines [] .complete rest).2 ≠ some (.unusable name value) :=
        ⟨List.forall_mem_cons.mpr ⟨free, (ih .nil more).1⟩, (ih .nil more).2⟩
      rw [joinLines]
      split
      · simp
      next line decoded =>
        have free : NullFree line := Utf8.null_not_mem_of_decode decoded first
        simp only
        split
        · exact restFrom .nil
        split
        next before comment =>
          exact restFrom (start.append (free.of_subset (by simpa using lineEnd_comment comment)))
        · exact restFrom ((start.append free).of_subset (withoutLineFeed_subset _))
        · exact ih (start.append free) more

/-! ### Values -/

theorem unescape_ne_null {c d : Char} (h : unescape c = some d) : d ≠ '\x00' := by
  unfold unescape at h
  split at h <;> simp_all [eq_comm]

/-- A character that is no null character makes no piece with one. -/
theorem readChar_nullFree {c : Char} {p q : Place} {more : List Piece}
    (h : readChar c p = some (q, more)) (free : c ≠ '\x00') : .char '\x00' ∉ more := by
  cases p with
  | plain quoted =>
      simp only [readChar, readPlain, Option.some.injEq] at h
      grind
  | escaped quoted =>
      simp only [readChar, Option.map_eq_some_iff, Prod.mk.injEq] at h
      obtain ⟨d, made, -, rfl⟩ := h
      simpa using (unescape_ne_null made).symm
  | literal =>
      simp only [readChar, Option.some.injEq] at h
      grind
  | naming quoted name =>
      simp only [readChar, readAfterName, referenceTo, Option.some.injEq] at h
      grind
  | braced quoted name =>
      simp only [readChar, referenceTo, Option.some.injEq] at h
      grind
  | ending =>
      simp only [readChar] at h
      grind

theorem close_nullFree {p : Place} {more : List Piece} (h : p.close = some more) :
    .char '\x00' ∉ more := by
  unfold Place.close at h
  split at h <;> simp_all [referenceTo, eq_comm]

theorem readPieces_nullFree {index : Nat} {pieces found : List Piece} {p : Place}
    {text : List Char} (h : readPieces index pieces p text = .ok found) (free : NullFree text)
    (start : .char '\x00' ∉ pieces) : .char '\x00' ∉ found := by
  induction text generalizing index pieces p with
  | nil =>
      rw [readPieces] at h
      split at h
      next more closed =>
        cases h
        simp [start, close_nullFree closed]
      · cases h
  | cons c rest ih =>
      obtain ⟨first, rest_free⟩ : '\x00' ≠ c ∧ '\x00' ∉ rest := by
        simpa [NullFree] using free
      rw [readPieces] at h
      split at h
      · cases h
        simpa using start
      split at h
      next q more made =>
        refine ih h rest_free ?_
        simp [start, readChar_nullFree made first.symm]
      · cases h

theorem expand_nullFree {e : Environment} (env : e.NullFree) {pieces : List Piece}
    (free : .char '\x00' ∉ pieces) : NullFree (expand e pieces).toList := by
  rw [expand, String.toList_ofList, NullFree, List.mem_flatMap]
  rintro ⟨p, mem, null⟩
  cases p with
  | char c =>
      obtain rfl := List.mem_singleton.mp null
      exact free mem
  | reference name =>
      simp only [Piece.expand] at null
      cases there : e.behind? name with
      | none => simp [there] at null
      | some found =>
          rw [there] at null
          exact env.behind there null

/-! ### Assignments -/

theorem readKey_subset {text key rest : List Char}
    (h : Assignment.readKey text = .ok (key, rest)) : key ⊆ text ∧ rest ⊆ text := by
  rw [Assignment.readKey] at h
  split at h
  · cases h
    exact ⟨(List.takeWhile_sublist _).subset,
      ((List.dropWhile_sublist _).trans (List.dropWhile_sublist _)).subset⟩
  · cases h

theorem readEquals_subset {text value : List Char}
    (h : Assignment.readEquals text = .ok value) : value ⊆ text := by
  unfold Assignment.readEquals at h
  split at h
  · cases h
    exact fun _ mem => List.mem_cons_of_mem _ ((List.dropWhile_sublist _).subset mem)
  · cases h

theorem readTarget_subset {text key value : List Char}
    (h : Assignment.readTarget text = .ok (key, value)) : key ⊆ text ∧ value ⊆ text := by
  rw [Assignment.readTarget] at h
  cases first : Assignment.readKey text with
  | error stuck =>
      rw [first] at h
      cases h
  | ok keyed =>
  obtain ⟨key₁, rest₁⟩ := keyed
  obtain ⟨key₁_sub, rest₁_sub⟩ := readKey_subset first
  simp only [first, bind, Except.bind] at h
  split at h
  next found equals =>
    cases h
    exact ⟨key₁_sub, List.Subset.trans (readEquals_subset equals) rest₁_sub⟩
  · split at h
    · -- The word before the name is passed over.
      split at h
      · cases h
      next key₂ second =>
      split at h
      · cases h
      next found equals =>
      cases h
      obtain ⟨key₂_sub, rest₂_sub⟩ := readKey_subset second
      exact ⟨List.Subset.trans key₂_sub rest₁_sub,
        List.Subset.trans (readEquals_subset equals) (List.Subset.trans rest₂_sub rest₁_sub)⟩
    · cases h

theorem read_nullFree {line : List Char} {a : Assignment}
    (h : Assignment.read line = .ok (some a)) (free : NullFree line) :
    NullFree a.name.toList ∧ .char '\x00' ∉ a.value := by
  have start : NullFree (Blank.trimStart (Blank.trimEnd line)) := free.trimEnd.trimStart
  rw [Assignment.read] at h
  split at h
  · cases h
  split at h
  · cases h
  next key value target =>
    obtain ⟨key_sub, value_sub⟩ := readTarget_subset target
    have name : NullFree (String.ofList key).toList := by
      rw [String.toList_ofList]
      exact start.of_subset key_sub
    split at h
    · cases h
      exact ⟨name, by simp⟩
    · split at h
      next pieces read =>
        cases h
        unfold readValue at read
        split at read
        next found reads =>
          cases read
          exact ⟨name, readPieces_nullFree reads (start.of_subset value_sub) (by simp)⟩
        · cases read
        · cases read
      · cases h

variable {e e' : Environment} {line : List Char}

/-- **A line keeps** the environment without null characters. -/
theorem assign_nullFree (h : assign e line = .ok e') (env : e.NullFree) (free : NullFree line) :
    e'.NullFree := by
  unfold assign at h
  split at h
  · cases h
  · cases h
    exact env
  next a read =>
    simp only at h
    split at h
    · cases h
    · cases h
      obtain ⟨name, value⟩ := read_nullFree read free
      exact env.define name (expand_nullFree env value)

/-- **Every value can be used** that a line without null characters gives. -/
theorem assign_usable (env : e.NullFree) (free : NullFree line) (name value : String) :
    assign e line ≠ .error (.unusable name value) := by
  intro h
  unfold assign at h
  split at h
  · cases h
  · cases h
  next a read =>
    simp only at h
    split at h
    next unusable =>
      have null := List.contains_iff_mem.mp unusable.2
      exact expand_nullFree env (read_nullFree read free).2 null
    · cases h

theorem assignAll_usable {last : Option LoadError} {lines : List (List Char)} (env : e.NullFree)
    (free : ∀ line ∈ lines, NullFree line) {name value : String}
    (usable : last ≠ some (.unusable name value)) :
    (assignAll last e lines).2 ≠ some (.unusable name value) := by
  induction lines generalizing e with
  | nil => exact usable
  | cons line rest ih =>
      obtain ⟨first, more⟩ := List.forall_mem_cons.mp free
      rw [assignAll]
      split
      next e₁ carried => exact ih (assign_nullFree carried env first) more
      next fault fails =>
        rintro ⟨⟩
        exact assign_usable env first _ _ fails

/-- **A file without zero octets** has no value that cannot be used. -/
theorem loadOctets_usable {file : Octets} (env : e.NullFree) (nonzero : 0 ∉ file)
    (name value : String) : (loadOctets e file).2 ≠ some (.unusable name value) := by
  have lines : ∀ line ∈ (logicalLines file).1, NullFree line :=
    (joinLines_nullFree .nil (physicalLines_nonzero nonzero)).1
  have last : (logicalLines file).2 ≠ some (.unusable name value) :=
    (joinLines_nullFree .nil (physicalLines_nonzero nonzero)).2 name value
  exact assignAll_usable env lines last

end EnvFile

end FractalArchive
