import FractalArchive.EnvFile.Load
import FractalArchive.Proofs.Text.Stretches
import FractalArchive.Proofs.Text.Utf8

/-!
# Plain environment files

A plain environment file is a row of lines `NAME=VALUE` in which every character stands for itself:
no blank, quotation, escape, reference or comment is in it.  Such a file is loaded whatever the
environment is, and afterwards a variable has the value that it had, else the one of the first line
that names it (`load_plain`, `PlainFile.lookup_loaded`).

Every line is complete at its end, so that logical lines are physical lines
(`PlainFile.logicalLines_octets`), and a line is read as the assignment that was written
(`Entry.read_line`).
-/

namespace FractalArchive.EnvFile

/-! ### Plain characters -/

/-- A character that stands for itself wherever it is in a value. -/
def IsPlain (c : Char) : Prop :=
  isBlank c = false ∧ c ∉ ['$', '\\', '\x22', '\'', '#', '\x00']

instance : DecidablePred IsPlain := fun c =>
  inferInstanceAs (Decidable (isBlank c = false ∧ c ∉ ['$', '\\', '\x22', '\'', '#', '\x00']))

theorem isAlpha_iff {c : Char} :
    c.isAlpha = true ↔ ('A' ≤ c ∧ c ≤ 'Z') ∨ ('a' ≤ c ∧ c ≤ 'z') := by
  show (decide ('A'.val ≤ c.val ∧ c.val ≤ 'Z'.val) ||
    (decide ('a'.val ≤ c.val) && decide (c.val ≤ 'z'.val))) = true ↔ _
  simp [Char.le_def]

theorem isAlphanum_iff {c : Char} :
    c.isAlphanum = true ↔ c.isAlpha = true ∨ ('0' ≤ c ∧ c ≤ '9') := by
  show (c.isAlpha || (decide ('0'.val ≤ c.val) && decide (c.val ≤ '9'.val))) = true ↔ _
  simp [Char.le_def]

/-- Where the letters and digits of ASCII lie. -/
theorem toNat_of_isAlphanum {c : Char} (h : c.isAlphanum = true) :
    (0x41 ≤ c.toNat ∧ c.toNat ≤ 0x5A) ∨ (0x61 ≤ c.toNat ∧ c.toNat ≤ 0x7A) ∨
      (0x30 ≤ c.toNat ∧ c.toNat ≤ 0x39) := by
  simpa [isAlphanum_iff, isAlpha_iff, Char.le_def, UInt32.le_iff_toNat_le, ← Char.toNat_val,
    or_assoc] using h

/-- Letters, digits and the marks of names, paths and addresses are plain. -/
theorem isPlain_of_word {c : Char} (h : c.isAlphanum = true ∨ c ∈ ['_', '.', '/', ':', '-']) :
    IsPlain c := by
  rcases h with h | h
  · have range := toNat_of_isAlphanum h
    refine ⟨?_, fun mem => ?_⟩
    · simp only [isBlank, Bool.or_eq_false_iff, Bool.and_eq_false_iff, decide_eq_false_iff_not,
        beq_eq_false_iff_ne]
      omega
    · simp only [List.mem_cons, List.not_mem_nil, or_false] at mem
      rcases mem with rfl | rfl | rfl | rfl | rfl | rfl <;> revert range <;> decide
  · simp only [List.mem_cons, List.not_mem_nil, or_false] at h
    rcases h with rfl | rfl | rfl | rfl | rfl <;> decide

namespace IsPlain

variable {c : Char}

theorem ne_of_mem (h : IsPlain c) {d : Char} (hd : d ∈ ['$', '\\', '\x22', '\'', '#', '\x00']) :
    c ≠ d := fun e => h.2 (e ▸ hd)

theorem ne_of_isBlank (h : IsPlain c) {d : Char} (hd : isBlank d = true) : c ≠ d := by
  rintro rfl
  exact Bool.noConfusion (h.1.symm.trans hd)

/-- A plain character opens nothing. -/
theorem next_complete (h : IsPlain c) : Openness.next c .complete = .complete := by
  simp [Openness.next, Openness.afterPlain, h.1, h.ne_of_mem]

/-- A plain character is read as itself. -/
theorem readChar (h : IsPlain c) : readChar c (.plain false) = some (.plain false, [.char c]) := by
  have space : c ≠ ' ' := h.ne_of_isBlank (by decide)
  have tab : c ≠ '\t' := h.ne_of_isBlank (by decide)
  simp [EnvFile.readChar, readPlain, h.ne_of_mem, space, tab]

end IsPlain

/-! ### Names -/

/-- A letter or an underscore, and after it letters, digits, underscores and dots. -/
def IsName : List Char → Prop
  | [] => False
  | c :: rest => (c.isAlpha = true ∨ c = '_') ∧
      rest.all (fun d => d.isAlphanum || d == '_' || d == '.') = true

instance : DecidablePred IsName := fun
  | [] => inferInstanceAs (Decidable False)
  | c :: rest => inferInstanceAs (Decidable ((c.isAlpha = true ∨ c = '_') ∧
      rest.all (fun d => d.isAlphanum || d == '_' || d == '.') = true))

theorem isKeyStart_iff {c : Char} :
    Assignment.isKeyStart c = true ↔ c.isAlpha = true ∨ c = '_' := by
  simp [Assignment.isKeyStart, isAlpha_iff, or_comm (a := 'A' ≤ c ∧ c ≤ 'Z')]

theorem isKeyChar_iff {c : Char} :
    Assignment.isKeyChar c = true ↔ c.isAlphanum = true ∨ c = '_' ∨ c = '.' := by
  simp [Assignment.isKeyChar, isKeyStart_iff, isAlphanum_iff, or_assoc, or_left_comm (a := c = '_')]

theorem toNat_of_isKeyStart {c : Char} (h : Assignment.isKeyStart c = true) : c.toNat ≤ 0x7F := by
  rcases isKeyStart_iff.1 h with letter | rfl
  · have := toNat_of_isAlphanum (isAlphanum_iff.2 (.inl letter))
    omega
  · decide

namespace IsName

variable {name : List Char}

theorem exists_cons (h : IsName name) :
    ∃ c rest, name = c :: rest ∧ Assignment.isKeyStart c = true := by
  cases name with
  | nil => exact h.elim
  | cons c rest => exact ⟨c, rest, rfl, isKeyStart_iff.2 h.1⟩

theorem isWord (h : IsName name) : ∀ c ∈ name, c.isAlphanum = true ∨ c ∈ ['_', '.'] := by
  cases name with
  | nil => exact h.elim
  | cons c rest =>
      refine List.forall_mem_cons.2 ⟨?_, fun d hd => ?_⟩
      · rcases h.1 with start | rfl
        · exact .inl (isAlphanum_iff.2 (.inl start))
        · exact .inr (by decide)
      · simpa [or_assoc] using List.all_eq_true.1 h.2 d hd

theorem isKeyChar (h : IsName name) : ∀ c ∈ name, Assignment.isKeyChar c = true := by
  intro c hc
  simpa [isKeyChar_iff] using h.isWord c hc

theorem isPlain (h : IsName name) : ∀ c ∈ name, IsPlain c := fun c hc =>
  isPlain_of_word ((h.isWord c hc).imp_right fun mark => List.mem_append_left ['/', ':', '-'] mark)

end IsName

/-! ### Lines -/

/-- A variable with the value that a line gives it. -/
structure Entry where
  name : String
  value : String
  isName : IsName name.toList
  isPlain : value.toList.all (fun c => decide (IsPlain c)) = true

namespace Entry

theorem isPlain_value (a : Entry) : ∀ c ∈ a.value.toList, IsPlain c := fun c hc =>
  of_decide_eq_true (List.all_eq_true.1 a.isPlain c hc)

/-- The line of a variable without its ending. -/
def line (a : Entry) : List Char :=
  a.name.toList ++ '=' :: a.value.toList

theorem isPlain_line (a : Entry) : ∀ c ∈ a.line, IsPlain c := by
  refine List.forall_mem_append.2 ⟨a.isName.isPlain, List.forall_mem_cons.2 ⟨by decide, ?_⟩⟩
  exact a.isPlain_value

theorem exists_cons_line (a : Entry) :
    ∃ c rest, a.line = c :: rest ∧ Assignment.isKeyStart c = true := by
  obtain ⟨c, rest, h, start⟩ := a.isName.exists_cons
  exact ⟨c, rest ++ '=' :: a.value.toList, by rw [line, h, List.cons_append], start⟩

end Entry

/-- How a line ends that another may follow. -/
inductive Ending where
  | lineFeed
  /-- A carriage return and a line feed. -/
  | carriageReturn
  deriving DecidableEq, Repr

/-- What stands between a line and its line feed. -/
def Ending.beforeFeed : Ending → List Char
  | .lineFeed => []
  | .carriageReturn => ['\r']

/-- A file of plain lines, the last of which may lack its ending. -/
structure PlainFile where
  lines : List (Entry × Ending)
  unended : Option Entry

namespace PlainFile

/-- The lines of a file as entries. -/
def entries (f : PlainFile) : List Entry :=
  f.lines.map Prod.fst ++ f.unended.toList

/-- The lines of a file as they are written. -/
def written (f : PlainFile) : List (List Char) :=
  (f.lines.map fun l => l.1.line ++ l.2.beforeFeed ++ ['\n']) ++ f.unended.toList.map Entry.line

/-- The octets of a file. -/
def octets (f : PlainFile) : Octets :=
  Utf8.encode f.written.flatten

/-- The variables that a file gives values, in its order. -/
def assigned (f : PlainFile) : Environment :=
  f.entries.map fun a => (a.name, a.value)

end PlainFile

/-! ### Physical lines -/

theorem cutLines_append {o : Octets} (h : 0x0A ∉ o) (lines : List Octets) (line rest : Octets) :
    cutLines lines line (o ++ rest) = cutLines lines (o.reverse ++ line) rest := by
  induction o generalizing line with
  | nil => rfl
  | cons b o ih =>
      rw [List.mem_cons, not_or] at h
      rw [List.cons_append, cutLines, if_neg (Ne.symm h.1), ih h.2, List.reverse_cons,
        List.append_assoc, List.singleton_append]

/-- Lines that are cut off before others stay in front. -/
theorem cutLines_eq (lines : List Octets) (line rest : Octets) :
    cutLines lines line rest = lines.reverse ++ cutLines [] line rest := by
  induction rest generalizing lines line with
  | nil => by_cases h : line = [] <;> simp [cutLines, h]
  | cons b rest ih =>
      rw [cutLines, cutLines]
      split
      · rw [ih, ih [_], List.reverse_cons, List.append_assoc, List.reverse_singleton]
      · rw [ih]

/-- A line that ends with its line feed is cut off. -/
theorem cutLines_line {o : Octets} (h : 0x0A ∉ o) (rest : Octets) :
    cutLines [] [] (o ++ 0x0A :: rest) = (o ++ [0x0A]) :: cutLines [] [] rest := by
  rw [cutLines_append h, cutLines, if_pos rfl, cutLines_eq, List.append_nil,
    List.reverse_singleton, List.singleton_append, List.reverse_cons, List.reverse_reverse]

/-- A last line without a line feed is a line unless it is empty. -/
theorem cutLines_unended {o : Octets} (h : 0x0A ∉ o) (ne : o ≠ []) : cutLines [] [] o = [o] := by
  have := cutLines_append h [] [] []
  simpa [cutLines, ne] using this

theorem lineFeed_not_mem_encode {cs : List Char} (h : '\n' ∉ cs) : 0x0A ∉ Utf8.encode cs := by
  rw [Utf8.encode, List.mem_flatMap]
  rintro ⟨c, hc, mem⟩
  rcases Utf8.toNat_of_mem_encodeChar mem with same | large
  · exact h ((Char.toNat_inj (c := '\n')).1 same ▸ hc)
  · exact absurd large (by decide)

theorem lineFeed_not_mem {cs : List Char} (h : ∀ c ∈ cs, IsPlain c) : '\n' ∉ cs := fun mem =>
  absurd (h '\n' mem) (by decide)

theorem lineFeed_not_mem_beforeFeed (a : Entry) (ending : Ending) :
    '\n' ∉ a.line ++ ending.beforeFeed := by
  rw [List.mem_append, not_or]
  exact ⟨lineFeed_not_mem a.isPlain_line, by cases ending <;> decide⟩

namespace PlainFile

theorem written_cons (a : Entry) (ending : Ending) (lines : List (Entry × Ending))
    (unended : Option Entry) : written ⟨(a, ending) :: lines, unended⟩ =
      (a.line ++ ending.beforeFeed ++ ['\n']) :: written ⟨lines, unended⟩ := rfl

theorem cutLines_octets (f : PlainFile) :
    cutLines [] [] f.octets = f.written.map Utf8.encode := by
  obtain ⟨lines, unended⟩ := f
  rw [octets]
  induction lines with
  | nil =>
      cases unended with
      | none => rfl
      | some a =>
          -- Without a line feed only a line that is not empty counts.
          have ne : Utf8.encode a.line ≠ [] := by
            intro e
            have nil : a.line = [] := Utf8.encode_injective e
            obtain ⟨c, rest, h, -⟩ := a.exists_cons_line
            exact List.cons_ne_nil c rest (h.symm.trans nil)
          have := cutLines_unended (lineFeed_not_mem_encode (lineFeed_not_mem a.isPlain_line)) ne
          simpa [written] using this
  | cons l lines ih =>
      obtain ⟨a, ending⟩ := l
      have feed : Utf8.encode ['\n'] = [0x0A] := by decide
      rw [written_cons, List.flatten_cons, Utf8.encode_append, Utf8.encode_append, feed,
        List.append_assoc, List.singleton_append,
        cutLines_line (lineFeed_not_mem_encode (lineFeed_not_mem_beforeFeed a ending)), ih,
        List.map_cons, Utf8.encode_append _ ['\n'], feed]

theorem flatten_written (f : PlainFile) : f.written.flatten = [] ∨
    ∃ c rest, f.written.flatten = c :: rest ∧ Assignment.isKeyStart c = true := by
  obtain ⟨_ | ⟨⟨a, ending⟩, lines⟩, unended⟩ := f
  · cases unended with
    | none => exact .inl rfl
    | some a =>
        obtain ⟨c, rest, h, start⟩ := a.exists_cons_line
        exact .inr ⟨c, rest, by simpa [written] using h, start⟩
  · obtain ⟨c, rest, h, start⟩ := a.exists_cons_line
    exact .inr ⟨c, _, by rw [written_cons, List.flatten_cons, h]; rfl, start⟩

/-- No mark is taken off a plain file, which starts with a letter or an underscore. -/
theorem physicalLines_octets (f : PlainFile) :
    physicalLines f.octets = f.written.map Utf8.encode := by
  have unmarked : byteOrderMark.isPrefixOf? f.octets = none := by
    rw [isPrefixOf?_eq_none_iff, octets]
    rintro ⟨rest, marked⟩
    rcases f.flatten_written with nil | ⟨c, cs, cons, start⟩
    · rw [nil] at marked
      cases marked
    · -- The first character is one octet, and not the one with which a mark starts.
      have ascii : c.toNat ≤ 0x7F := toNat_of_isKeyStart start
      rw [cons, Utf8.encode_cons, Utf8.encodeChar_eq, if_pos ascii] at marked
      have first : 0xEF = UInt8.ofNat c.toNat := (List.cons.inj marked).1
      have same : 0xEF = c.toNat := by
        rw [← Utf8.toNat_ofNat (n := c.toNat) (by omega), ← first]
        rfl
      omega
  rw [physicalLines, unmarked, Option.getD_none, cutLines_octets]

end PlainFile

/-! ### Logical lines -/

/-- A line of which no character opens anything is complete at its end. -/
theorem lineEnd_complete {cs : List Char} (h : ∀ c ∈ cs, Openness.next c .complete = .complete)
    (before : List Char) : lineEnd before .complete cs = .opened .complete := by
  induction cs generalizing before with
  | nil => rfl
  | cons c rest ih =>
      obtain ⟨first, more⟩ := List.forall_mem_cons.1 h
      rw [lineEnd, if_neg (by simp), first, ih more]

/-- What may stand behind a plain line: an ending, or nothing at the end of the file. -/
def tails : List (List Char) :=
  [[], ['\n'], ['\r', '\n']]

namespace Entry

/-- A plain line loses its tail and nothing else. -/
theorem withoutLineFeed_line (a : Entry) {tail : List Char} (ht : tail ∈ tails) :
    withoutLineFeed (a.line ++ tail) = a.line := by
  have feed : '\n' ∉ a.line.reverse := fun mem =>
    lineFeed_not_mem a.isPlain_line (List.mem_reverse.1 mem)
  have back : '\r' ∉ a.line.reverse := fun mem =>
    absurd (a.isPlain_line '\r' (List.mem_reverse.1 mem)) (by decide)
  -- The tail is looked for from the end of the line.
  rw [← List.reverse_reverse a.line]
  generalize a.line.reverse = r at feed back
  simp only [tails, List.mem_cons, List.not_mem_nil, or_false] at ht
  rcases ht with rfl | rfl | rfl
  · cases r with
    | nil => rfl
    | cons c cs =>
        have other : c ≠ '\n' := fun e => feed (e ▸ List.mem_cons_self)
        simp [withoutLineFeed, other]
  · cases r with
    | nil => rfl
    | cons c cs =>
        have other : c ≠ '\r' := fun e => back (e ▸ List.mem_cons_self)
        simp [withoutLineFeed, other]
  · simp [withoutLineFeed]

/-- A plain line is a logical line by itself. -/
theorem joinLines_line (a : Entry) {tail : List Char} (ht : tail ∈ tails) (rest : List Octets) :
    joinLines [] .complete (Utf8.encode (a.line ++ tail) :: rest) =
      (a.line :: (joinLines [] .complete rest).1, (joinLines [] .complete rest).2) := by
  have complete : lineEnd [] .complete (a.line ++ tail) = .opened .complete := by
    refine lineEnd_complete (List.forall_mem_append.2 ⟨fun c hc => ?_, ?_⟩) []
    · exact (a.isPlain_line c hc).next_complete
    · simp only [tails, List.mem_cons, List.not_mem_nil, or_false] at ht
      rcases ht with rfl | rfl | rfl <;> simp [Openness.next, Openness.afterPlain]
  have visible : (Blank.trimStart (a.line ++ tail)).head? ≠ some '#' := by
    obtain ⟨c, cs, h, -⟩ := a.exists_cons_line
    have plain : IsPlain c := a.isPlain_line c (h ▸ List.mem_cons_self)
    rw [h, List.cons_append, Blank.trimStart, List.dropWhile_cons_of_neg (by simp [plain.1]),
      List.head?_cons]
    simpa using plain.ne_of_mem (by decide)
  rw [joinLines, Utf8.decode_encode]
  simp only [List.nil_append, visible, if_false, complete, a.withoutLineFeed_line ht]

end Entry

/-- The logical lines of a plain file are its lines. -/
theorem PlainFile.logicalLines_octets (f : PlainFile) :
    logicalLines f.octets = (f.entries.map Entry.line, none) := by
  rw [logicalLines, physicalLines_octets]
  obtain ⟨lines, unended⟩ := f
  induction lines with
  | nil =>
      cases unended with
      | none => rfl
      | some a =>
          have := a.joinLines_line (show [] ∈ tails by decide) []
          simpa [written, entries, joinLines] using this
  | cons l lines ih =>
      obtain ⟨a, ending⟩ := l
      have tail : ending.beforeFeed ++ ['\n'] ∈ tails := by cases ending <;> decide
      rw [written_cons, List.map_cons, List.append_assoc, a.joinLines_line tail, ih]
      rfl

/-! ### Reading a line -/

theorem readPieces_plain {cs : List Char} (h : ∀ c ∈ cs, IsPlain c) (index : Nat)
    (pieces : List Piece) :
    readPieces index pieces (.plain false) cs = .ok (pieces.reverse ++ cs.map .char) := by
  induction cs generalizing index pieces with
  | nil => rfl
  | cons c rest ih =>
      obtain ⟨first, more⟩ := List.forall_mem_cons.1 h
      rw [readPieces, if_neg (by simp), first.readChar]
      simp [ih more]

theorem readValue_plain {cs : List Char} (h : ∀ c ∈ cs, IsPlain c) :
    readValue cs = .ok (cs.map .char) := by
  rw [readValue, readPieces_plain h]
  rfl

/-- Nothing is trimmed where no blank is. -/
theorem trimStart_plain {cs : List Char} (h : ∀ c ∈ cs, IsPlain c) : Blank.trimStart cs = cs := by
  cases cs with
  | nil => rfl
  | cons c rest =>
      exact List.dropWhile_cons_of_neg (by simp [(h c List.mem_cons_self).1])

theorem trimEnd_plain {cs : List Char} (h : ∀ c ∈ cs, IsPlain c) : Blank.trimEnd cs = cs := by
  have reversed : Blank.trimStart cs.reverse = cs.reverse :=
    trimStart_plain fun c hc => h c (List.mem_reverse.1 hc)
  rw [Blank.trimStart] at reversed
  rw [Blank.trimEnd, reversed, List.reverse_reverse]

namespace Entry

theorem readTarget_line (a : Entry) :
    Assignment.readTarget a.line = .ok (a.name.toList, a.value.toList) := by
  have key : Assignment.readKey a.line = .ok (a.name.toList, '=' :: a.value.toList) := by
    obtain ⟨c, cs, h, start⟩ := a.exists_cons_line
    have equals : Assignment.isKeyChar '=' = false := by decide
    have value : ∀ c ∈ '=' :: a.value.toList, IsPlain c :=
      List.forall_mem_cons.2 ⟨by decide, a.isPlain_value⟩
    rw [Assignment.readKey, if_pos (by simp [h, start]), line,
      List.takeWhile_append_of_pos a.isName.isKeyChar,
      List.dropWhile_append_of_pos a.isName.isKeyChar,
      List.takeWhile_cons_of_neg (by simp [equals]), List.dropWhile_cons_of_neg (by simp [equals]),
      List.append_nil, trimStart_plain value]
  have equals : Assignment.readEquals ('=' :: a.value.toList) = .ok a.value.toList :=
    congrArg Except.ok (trimStart_plain a.isPlain_value)
  rw [Assignment.readTarget, key]
  simp only [bind, Except.bind, equals]
  rfl

/-- **A plain line is read** as the assignment it writes. -/
theorem read_line (a : Entry) :
    Assignment.read a.line = .ok (some ⟨a.name, a.value.toList.map .char⟩) := by
  have start : Assignment.isVoid a.line = false := by
    obtain ⟨c, cs, h, -⟩ := a.exists_cons_line
    have plain : IsPlain c := a.isPlain_line c (h ▸ List.mem_cons_self)
    rw [h]
    simpa [Assignment.isVoid] using plain.ne_of_mem (by decide)
  have value (void : Assignment.isVoid a.value.toList = true) : a.value.toList = [] := by
    cases h : a.value.toList with
    | nil => rfl
    | cons c cs =>
        have plain : IsPlain c := a.isPlain_value c (h ▸ List.mem_cons_self)
        simp [h, Assignment.isVoid, plain.ne_of_mem] at void
  simp only [Assignment.read, trimEnd_plain a.isPlain_line, trimStart_plain a.isPlain_line, start,
    readTarget_line, readValue_plain a.isPlain_value, String.ofList_toList, Bool.false_eq_true,
    if_false]
  by_cases void : Assignment.isVoid a.value.toList = true
  · rw [if_pos void, value void]
    rfl
  · rw [if_neg void]

/-- A plain line defines its variable. -/
theorem assign_line (a : Entry) (e : Environment) :
    assign e a.line = .ok (e.define a.name a.value) := by
  have value : expand e (a.value.toList.map .char) = a.value := by
    simp [expand, List.flatMap_map, Piece.expand]
  have noNul : '\x00' ∉ a.value.toList := fun mem => absurd (a.isPlain_value _ mem) (by decide)
  simp [assign, read_line, value, noNul]

end Entry

/-! ### Loading -/

namespace PlainFile

/-- The environment after the lines of a file. -/
def loaded (f : PlainFile) (e : Environment) : Environment :=
  f.entries.foldl (fun e a => e.define a.name a.value) e

theorem assignAll_lines (entries : List Entry) (e : Environment) :
    assignAll none e (entries.map Entry.line) =
      (entries.foldl (fun e a => e.define a.name a.value) e, none) := by
  induction entries generalizing e with
  | nil => rfl
  | cons a rest ih =>
      rw [List.map_cons, assignAll, a.assign_line]
      exact ih _

theorem loadOctets_octets (f : PlainFile) (e : Environment) :
    loadOctets e f.octets = (f.loaded e, none) := by
  rw [loadOctets, logicalLines_octets]
  exact assignAll_lines f.entries e

/-- **A variable after loading** has the value that it had, else the first one in the file. -/
theorem lookup_loaded (f : PlainFile) (e : Environment) (name : String) :
    (f.loaded e).lookup name = (e.lookup name).or (f.assigned.lookup name) := by
  rw [loaded, assigned]
  induction f.entries generalizing e with
  | nil => simp
  | cons a rest ih =>
      rw [List.foldl_cons, ih, Environment.lookup_define, List.lookup_append, Option.or_assoc,
        ← List.lookup_append, List.singleton_append, List.map_cons]

end PlainFile

/-- **A plain file is loaded** in every environment. -/
theorem load_plain {d : Disk} {name : String} {f : PlainFile}
    (stored : d.readFile name = .ok (.octets f.octets)) (e : Environment) :
    load d name e = (f.loaded e, none) := by
  rw [load, stored]
  exact f.loadOctets_octets e

end FractalArchive.EnvFile
