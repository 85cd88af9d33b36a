import FractalArchive.Proofs.EnvFile.NullFree

/-!
# Loading an environment file again

A run over the lines of a file carries out the first of them and stops, at a line that fails or
where the lines end (`assignAll_eq_iff`).  No line changes a variable that is there
(`lookup_foldlM_assign`), and a line that has been carried out changes nothing any more, whatever
its value comes to in the meantime: its variable is there (`foldlM_assign_again`).  So a second run
stops where the first one did, with the same result, and changes nothing (`assignAll_again`).

The line at which a run stops fails in the same environment both times, since the environment is
the one that the lines before it left.
-/

namespace FractalArchive

/-- A variable that is given a value is there. -/
theorem Environment.isSome_lookup_define (e : Environment) (name value : String) :
    ((e.define name value).lookup name).isSome := by
  rw [lookup_define, List.lookup_append]
  simp

namespace EnvFile

variable {e e' e₁ : Environment} {line : List Char} {lines : List (List Char)}
  {last result : Option LoadError}

/-! ### One line -/

/-- A line changes nothing where the variable that it names is there. -/
theorem assign_of_isSome {a : Assignment} (read : Assignment.read line = .ok (some a))
    (there : (e.lookup a.name).isSome) : assign e line = .ok e := by
  have defined : (e.lookup a.name).isNone = false := by simp [there]
  simp [assign, read, defined, Environment.define, there]

/-- A line that has been carried out changes nothing where the variables are there that were there
after it. -/
theorem assign_again (h : assign e line = .ok e₁)
    (kept : ∀ name, (e₁.lookup name).isSome → (e'.lookup name).isSome) :
    assign e' line = .ok e' := by
  unfold assign at h
  split at h
  · cases h
  next read => simp [assign, read]
  next a read =>
    simp only at h
    split at h
    · cases h
    · cases h
      exact assign_of_isSome read (kept _ (e.isSome_lookup_define a.name _))

/-! ### Runs over lines -/

/-- Lines that are carried out one after another change no variable that is there. -/
theorem lookup_foldlM_assign (h : lines.foldlM assign e = .ok e') {name : String}
    (there : (e.lookup name).isSome) : e'.lookup name = e.lookup name := by
  induction lines generalizing e with
  | nil =>
      cases h
      rfl
  | cons line rest ih =>
      rw [List.foldlM_cons] at h
      cases first : assign e line with
      | error fault =>
          rw [first] at h
          cases h
      | ok e₁ =>
          rw [first] at h
          have kept := lookup_assign_of_isSome first there
          exact (ih h (kept ▸ there)).trans kept

/-- Lines that have been carried out change nothing where the variables are there that were there
after them. -/
theorem foldlM_assign_again (h : lines.foldlM assign e = .ok e₁)
    (kept : ∀ name, (e₁.lookup name).isSome → (e'.lookup name).isSome) :
    lines.foldlM assign e' = .ok e' := by
  induction lines generalizing e with
  | nil => rfl
  | cons line rest ih =>
      rw [List.foldlM_cons] at h
      cases first : assign e line with
      | error fault =>
          rw [first] at h
          cases h
      | ok e₂ =>
          rw [first] at h
          -- What is there after this line is there after the rest of them.
          have again := assign_again first fun name there =>
            kept name (lookup_foldlM_assign h there ▸ there)
          rw [List.foldlM_cons, again]
          exact ih h

/-- A run ends in an environment with this result: no line is left, or the next one fails. -/
def Stops (last : Option LoadError) (e : Environment) (result : Option LoadError) :
    List (List Char) → Prop
  | [] => result = last
  | line :: _ => ∃ fault, assign e line = .error fault ∧ result = some fault

/-- **A run over lines** carries out the first of them, one after another, and stops. -/
theorem assignAll_eq_iff : assignAll last e lines = (e', result) ↔
    ∃ before rest, lines = before ++ rest ∧ before.foldlM assign e = .ok e' ∧
      Stops last e' result rest := by
  constructor
  · intro h
    induction lines generalizing e with
    | nil =>
        cases h
        exact ⟨[], [], rfl, rfl, rfl⟩
    | cons line rest ih =>
        unfold assignAll at h
        split at h
        next e₁ first =>
          obtain ⟨before, left, rfl, carried, stops⟩ := ih h
          refine ⟨line :: before, left, rfl, ?_, stops⟩
          rw [List.foldlM_cons, first]
          exact carried
        next fault first =>
          cases h
          exact ⟨[], line :: rest, rfl, rfl, fault, first, rfl⟩
  · rintro ⟨before, rest, rfl, carried, stops⟩
    induction before generalizing e with
    | nil =>
        cases carried
        cases rest with
        | nil =>
            obtain rfl := stops
            rfl
        | cons line rest =>
            obtain ⟨fault, fails, rfl⟩ := stops
            simp [assignAll, fails]
    | cons line before ih =>
        rw [List.foldlM_cons] at carried
        cases first : assign e line with
        | error fault =>
            rw [first] at carried
            cases carried
        | ok e₁ =>
            rw [first] at carried
            rw [List.cons_append, assignAll, first]
            exact ih carried

/-- **A second run** over the same lines has the same result and changes nothing. -/
theorem assignAll_again (h : assignAll last e lines = (e', result)) :
    assignAll last e' lines = (e', result) := by
  obtain ⟨before, rest, split, carried, stops⟩ := assignAll_eq_iff.mp h
  exact assignAll_eq_iff.mpr
    ⟨before, rest, split, foldlM_assign_again carried fun _ there => there, stops⟩

/-! ### Files -/

variable {disk : Disk} {path : String}

/-- What loading does with each of the things that reading the file may come to. -/
theorem load_cases (h : load disk path e = (e', result)) :
    (∃ file, disk.readFile path = .ok (.octets file) ∧
        assignAll (logicalLines file).2 e (logicalLines file).1 = (e', result)) ∨
      e' = e ∧ ∀ e, load disk path e = (e, result) := by
  unfold load at h ⊢
  split at h
  next file read => exact .inl ⟨file, read, h⟩
  all_goals
    cases h
    exact .inr ⟨rfl, fun _ => rfl⟩

/-- **Loading an environment file** overrides no variable, and loading it again has the same result
and changes nothing, also where a line of it fails.  Where the file is not there, nothing changes
and nothing fails.  Of a file that is there, the lines before the one that fails are carried out,
and no value fails to be used unless a null character is in the file or in a variable. -/
theorem reloading (h : load disk path e = (e', result)) :
    (∀ name, (e.lookup name).isSome → e'.lookup name = e.lookup name) ∧
      (disk.readFile path = .error .notFound → e' = e ∧ result = none) ∧
      (∀ file, disk.readFile path = .ok (.octets file) →
        (∃ before rest, (logicalLines file).1 = before ++ rest ∧
          before.foldlM assign e = .ok e' ∧ Stops (logicalLines file).2 e' result rest) ∧
        (e.NullFree → 0 ∉ file → ∀ name value, result ≠ some (.unusable name value))) ∧
      load disk path e' = (e', result) := by
  refine ⟨fun name there => ?_, fun missing => ?_, fun file read => ?_, ?_⟩
  · rcases load_cases h with ⟨file, -, run⟩ | ⟨rfl, -⟩
    · obtain ⟨before, -, -, carried, -⟩ := assignAll_eq_iff.mp run
      exact lookup_foldlM_assign carried there
    · rfl
  · rw [load, missing] at h
    cases h
    exact ⟨rfl, rfl⟩
  · rw [load, read] at h
    refine ⟨assignAll_eq_iff.mp h, fun free nonzero name value => ?_⟩
    have usable := loadOctets_usable free nonzero name value
    rwa [show loadOctets e file = (e', result) from h] at usable
  · rcases load_cases h with ⟨file, read, run⟩ | ⟨-, same⟩
    · rw [load, read]
      exact assignAll_again run
    · exact same e'

/-- A file of which the second line uses a variable that the third one gives a value, and the
fourth one is no assignment. -/
def brokenSample : Octets :=
  octetsOf "A=1\nB=$A$C\nC=2\nD E=3\nF=4\n"

theorem reloading_brokenSample :
    let d : Disk := { nodes := [([".env"], .file (.octets brokenSample))] }
    let loaded : Environment := [("A", "0"), ("B", "0"), ("C", "2")]
    let fault := some (.malformed ⟨"D E=3".toList, 2⟩)
    load d ".env" [("A", "0")] = (loaded, fault) ∧ load d ".env" loaded = (loaded, fault) := by
  have first : load { nodes := [([".env"], .file (.octets brokenSample))] } ".env" [("A", "0")] =
      ([("A", "0"), ("B", "0"), ("C", "2")], some (.malformed ⟨"D E=3".toList, 2⟩)) := by
    decide +kernel
  exact ⟨first, (reloading first).2.2.2⟩

end EnvFile

end FractalArchive
