import FractalArchive.Logging.Basic

/-!
# The log is set up once

What calls to set up the log of a process do, one after another, whatever they ask for and whatever
the file system answers when a directory is to be made (`one_shot`).

* The log is not set up until the first call that succeeds.  From then on it is, for ever, as that
  call asked for, and panics are hooked once.
* A call that names no level, or a directory that is blank or not absolute, fails at any time.
* A call that fails changes nothing, so it stands in the way of no later one.
* Before the first success a call that asks for something succeeds if its directory can be made;
  afterwards it succeeds if it asks for what there is.

What a call asks for is said without the reader (`Call.Asks`, `read_eq_ok_iff`).  A step from a log
that is set up leaves it as it is, and so does a step that fails; the run follows by induction.
-/

namespace FractalArchive.Logging

/-! ### What a call asks for -/

/-- The words for levels. -/
def levelWords : List (String × Level) :=
  [("trace", .trace), ("debug", .debug), ("info", .info), ("warn", .warn), ("warning", .warn),
    ("error", .error)]

/-- A text names a level, blanks around it and the case of its letters aside. -/
def NamesLevel (text : String) (level : Level) : Prop :=
  (String.ofList ((Blank.trim text.toList).map Char.toLower), level) ∈ levelWords

/-- A text names a directory: it starts at the root, blanks around it aside. -/
def NamesDirectory (text directory : String) : Prop :=
  directory = trimmed text ∧ directory.toList.head? = some '/'

/-- A call to set up the log, the answers of the file system when it is asked for a directory, and
what is on the disk. -/
structure Call where
  level : String
  directory : Option String
  make : String → Except OsError Disk
  disk : Disk

/-- What a call asks for, if anything. -/
def Call.Asks (call : Call) (c : Configuration) : Prop :=
  NamesLevel call.level c.level ∧
    match call.directory with
    | none => c.directory = none
    | some text => ∃ directory, c.directory = some directory ∧ NamesDirectory text directory

theorem levelOf?_eq_some_iff {word : String} {level : Level} :
    levelOf? word = some level ↔ (word, level) ∈ levelWords := by
  constructor
  · intro h
    unfold levelOf? at h
    split at h
    next warning =>
      cases h
      rw [warning]
      decide
    next =>
      obtain rfl : level.word = word := by simpa using List.find?_some h
      cases level <;> decide
  · intro h
    simp only [levelWords, List.mem_cons, Prod.mk.injEq, List.not_mem_nil, or_false] at h
    rcases h with ⟨rfl, rfl⟩ | ⟨rfl, rfl⟩ | ⟨rfl, rfl⟩ | ⟨rfl, rfl⟩ | ⟨rfl, rfl⟩ |
      ⟨rfl, rfl⟩ <;> rfl

theorem readLevel_eq_ok_iff {text : String} {level : Level} :
    readLevel text = .ok level ↔ NamesLevel text level := by
  unfold readLevel NamesLevel
  rw [← levelOf?_eq_some_iff]
  simp only
  cases levelOf? (String.ofList ((Blank.trim text.toList).map Char.toLower)) with
  | none => simp
  | some l => simp

theorem readDirectory_eq_ok_iff {text directory : String} :
    readDirectory text = .ok directory ↔ NamesDirectory text directory := by
  unfold readDirectory NamesDirectory
  simp only
  split
  next blank => simp only [reduceCtorEq, blank, false_iff, not_and]; rintro rfl; decide
  next =>
    split
    next absolute =>
      have start : (trimmed text).toList.head? = some '/' := by
        simpa [Path.isAbsolute] using absolute
      constructor
      · intro h
        cases h
        exact ⟨rfl, start⟩
      · rintro ⟨rfl, -⟩
        rfl
    next relative =>
      simp only [reduceCtorEq, false_iff, not_and]
      rintro rfl start
      exact relative (by simp [Path.isAbsolute, start])

/-- What is read is what is asked for. -/
theorem read_eq_ok_iff {call : Call} {c : Configuration} :
    Configuration.read call.level call.directory = .ok c ↔ call.Asks c := by
  obtain ⟨level, directory, make, disk⟩ := call
  obtain ⟨level', directory'⟩ := c
  unfold Configuration.read Call.Asks
  simp only [← readLevel_eq_ok_iff, ← readDirectory_eq_ok_iff]
  cases readLevel level with
  | error e => simp [bind, Except.bind]
  | ok l =>
      cases directory with
      | none => simp [bind, Except.bind, pure, Except.pure, eq_comm]
      | some text =>
          simp only [bind, Except.bind, pure, Except.pure]
          cases readDirectory text with
          | error e => simp
          | ok named => simp [eq_comm]

/-! ### One call -/

namespace Call

variable {call : Call} {c active : Configuration} {l : Log} {refused : Refused}

/-- What comes of a call. -/
def start (call : Call) (l : Log) : Started :=
  l.startWith call.make call.disk call.level call.directory

/-- A call succeeds. -/
def Succeeds (call : Call) (l : Log) : Prop :=
  (call.start l).result = .ok ()

theorem start_of_asks (asks : call.Asks c) (l : Log) :
    call.start l = l.startAs call.make call.disk c := by
  unfold start Log.startWith
  rw [read_eq_ok_iff.mpr asks]

/-- **A call that asks for nothing** fails at any time. -/
theorem start_of_forall_not_asks (nothing : ∀ c, ¬ call.Asks c) (l : Log) :
    ∃ refused, (call.start l).result = .error refused := by
  unfold start Log.startWith
  cases read : Configuration.read call.level call.directory with
  | ok c => exact absurd (read_eq_ok_iff.mp read) (nothing c)
  | error refused => exact ⟨refused, rfl⟩

theorem asks_of_succeeds (succeeds : call.Succeeds l) : ∃ c, call.Asks c := by
  cases read : Configuration.read call.level call.directory with
  | ok c => exact ⟨c, read_eq_ok_iff.mp read⟩
  | error refused =>
      unfold Succeeds start Log.startWith at succeeds
      rw [read] at succeeds
      cases succeeds

/-- **A call that fails** changes nothing. -/
theorem log_of_error (failed : (call.start l).result = .error refused) : (call.start l).log = l :=
  startWith_of_error failed

theorem conflict?_eq_none_iff : conflict? active c = none ↔
    c.level = active.level ∧ c.directory.map Path.parts = active.directory.map Path.parts := by
  have same : sameDirectory active.directory c.directory = true ↔
      c.directory.map Path.parts = active.directory.map Path.parts := by
    cases active.directory with
    | none => cases c.directory <;> simp [sameDirectory]
    | some a =>
        cases c.directory with
        | none => simp [sameDirectory]
        | some b => simp [sameDirectory, eq_comm (a := Path.parts b)]
  unfold conflict?
  rw [← same]
  by_cases directories : sameDirectory active.directory c.directory
  · by_cases levels : active.level = c.level
    · simp [directories, levels]
    · simp [directories, levels, Ne.symm levels]
  · simp [directories]

/-- **Once the log is set up** it stays as it is. -/
theorem log_of_active (set : l.active = some active) (call : Call) : (call.start l).log = l := by
  unfold start Log.startWith
  cases Configuration.read call.level call.directory with
  | error refused => rfl
  | ok c =>
      simp only [Log.startAs, set]
      cases conflict? active c with
      | none => rfl
      | some refused => rfl

/-- Once the log is set up, a call succeeds if it asks for what there is. -/
theorem succeeds_active_iff (set : l.active = some active) (asks : call.Asks c) :
    call.Succeeds l ↔
      c.level = active.level ∧ c.directory.map Path.parts = active.directory.map Path.parts := by
  rw [Succeeds, start_of_asks asks, ← conflict?_eq_none_iff]
  simp only [Log.startAs, set]
  cases conflict? active c with
  | none => simp
  | some refused => simp

/-- As long as the log is not set up, a call succeeds if its directory can be made. -/
theorem succeeds_idle_iff (asks : call.Asks c) : call.Succeeds {} ↔
    ∀ directory, c.directory = some directory → ∃ d, call.make directory = .ok d := by
  rw [Succeeds, start_of_asks asks]
  unfold Log.startAs makeDirectory
  simp only
  cases c.directory with
  | none => simp
  | some directory =>
      cases made : call.make directory with
      | ok d => simp [made]
      | error cause => simp [made]

/-- **The first call that succeeds** sets the log up as it asks for, and hooks panics. -/
theorem log_of_succeeds (asks : call.Asks c) (succeeds : call.Succeeds {}) :
    (call.start {}).log = { active := some c, hooks := 1 } := by
  rw [Succeeds, start_of_asks asks] at succeeds
  rw [start_of_asks asks]
  unfold Log.startAs at succeeds ⊢
  cases made : makeDirectory call.make call.disk c with
  | ok d => rfl
  | error refused =>
      simp only [made] at succeeds
      cases succeeds

end Call

/-! ### Runs of calls -/

namespace Log

/-- What comes of calls, one after another. -/
def results (l : Log) : List Call → List (Except Refused Unit)
  | [] => []
  | call :: rest => (call.start l).result :: results (call.start l).log rest

/-- The log after calls. -/
def after (l : Log) (calls : List Call) : Log :=
  calls.foldl (fun l call => (call.start l).log) l

/-- Every call of a run fails. -/
def AllFail (l : Log) (calls : List Call) : Prop :=
  ∀ result ∈ l.results calls, ∃ refused, result = .error refused

variable {l : Log} {calls : List Call}

theorem after_of_active {active : Configuration} (set : l.active = some active)
    (calls : List Call) : l.after calls = l := by
  induction calls with
  | nil => rfl
  | cons call rest ih =>
      rw [after, List.foldl_cons, Call.log_of_active set]
      exact ih

theorem after_of_allFail (fails : l.AllFail calls) : l.after calls = l := by
  induction calls with
  | nil => rfl
  | cons call rest ih =>
      obtain ⟨⟨refused, failed⟩, more⟩ := List.forall_mem_cons.mp fails
      have kept := Call.log_of_error failed
      rw [kept] at more
      rw [after, List.foldl_cons, kept]
      exact ih more

theorem AllFail.cons {call : Call} {refused : Refused}
    (failed : (call.start l).result = .error refused) (fails : l.AllFail calls) :
    l.AllFail (call :: calls) :=
  List.forall_mem_cons.mpr ⟨⟨refused, failed⟩, (Call.log_of_error failed).symm ▸ fails⟩

/-- **A run from a log that is not set up**: every call fails, or there is a first one that
succeeds, and the log stays as this one leaves it. -/
theorem after_cases (calls : List Call) :
    AllFail {} calls ∨ ∃ before first later c, calls = before ++ first :: later ∧
      AllFail {} before ∧ first.Succeeds {} ∧ first.Asks c ∧
      after {} calls = { active := some c, hooks := 1 } := by
  induction calls with
  | nil => exact .inl fun result h => absurd h List.not_mem_nil
  | cons call rest ih =>
      cases result : (call.start {}).result with
      | ok done =>
          have succeeds : call.Succeeds {} := result
          obtain ⟨c, asks⟩ := Call.asks_of_succeeds succeeds
          refine .inr ⟨[], call, rest, c, rfl, fun _ h => absurd h List.not_mem_nil, succeeds, asks,
            ?_⟩
          rw [after, List.foldl_cons, Call.log_of_succeeds asks succeeds]
          exact after_of_active rfl rest
      | error refused =>
          have step : after {} (call :: rest) = after {} rest := by
            rw [after, List.foldl_cons, Call.log_of_error result]
            rfl
          rcases ih with fails | ⟨before, first, later, c, rfl, fails, succeeds, asks, left⟩
          · exact .inl (fails.cons result)
          · exact .inr ⟨call :: before, first, later, c, rfl, fails.cons result, succeeds, asks,
              step.trans left⟩

end Log

/-- **Setting up happens once.**  Calls are made one after another; no other logger is there.

Either all of them fail, and the log is not set up and panics are not hooked.  Or there is a first
call that succeeds: before it the log is not set up and panics are not hooked, and from it on the
log is set up as this call asked for and panics are hooked once.

A call that asks for nothing fails at any time, and a call that fails changes nothing.  A call that
asks for something succeeds as long as the log is not set up if its directory can be made, and
afterwards if it asks for the same level and, part by part, for the same directory or none. -/
theorem one_shot (calls : List Call) :
    let l := Log.after {} calls
    (Log.AllFail {} calls ∧ l.status = none ∧ l.hooks = 0 ∨
      ∃ before first later c, calls = before ++ first :: later ∧
        let earlier := Log.after {} before
        Log.AllFail {} before ∧ earlier.status = none ∧ earlier.hooks = 0 ∧
          first.Succeeds earlier ∧ first.Asks c ∧ l = (first.start earlier).log ∧
          l.status = some (c.level, c.directory) ∧ l.hooks = 1) ∧
      (∀ call : Call, (∀ c, ¬ call.Asks c) →
        ∀ m, ∃ refused, (call.start m).result = .error refused) ∧
      (∀ (call : Call) m refused, (call.start m).result = .error refused →
        (call.start m).log = m) ∧
      (∀ (call : Call) c, call.Asks c → l.status = none → (call.Succeeds l ↔
        ∀ directory, c.directory = some directory → ∃ d, call.make directory = .ok d)) ∧
      ∀ (call : Call) c level directory, call.Asks c → l.status = some (level, directory) →
        (call.Succeeds l ↔
          c.level = level ∧ c.directory.map Path.parts = directory.map Path.parts) := by
  intro l
  refine ⟨?_, fun call nothing => Call.start_of_forall_not_asks nothing,
    fun call m refused => Call.log_of_error, fun call c asks idle => ?_,
    fun call c level directory asks set => ?_⟩
  · rcases Log.after_cases calls with
      fails | ⟨before, first, later, c, rfl, fails, succeeds, asks, left⟩
    · have same : l = {} := Log.after_of_allFail fails
      rw [same]
      exact .inl ⟨fails, rfl, rfl⟩
    · have same : l = { active := some c, hooks := 1 } := left
      refine .inr ⟨before, first, later, c, rfl, ?_⟩
      rw [Log.after_of_allFail fails, same]
      exact ⟨fails, rfl, rfl, succeeds, asks, (Call.log_of_succeeds asks succeeds).symm, rfl, rfl⟩
  · rcases Log.after_cases calls with fails | ⟨-, -, -, c', -, -, -, -, left⟩
    · have same : l = {} := Log.after_of_allFail fails
      rw [same]
      exact Call.succeeds_idle_iff asks
    · have same : l = { active := some c', hooks := 1 } := left
      rw [same] at idle
      cases idle
  · obtain ⟨active, is, found⟩ := Option.map_eq_some_iff.mp set
    obtain ⟨rfl, rfl⟩ := Prod.mk.inj found
    exact Call.succeeds_active_iff is asks

/-- Calls for a level that there is not and for a relative directory, calls for one directory that
fail and succeed, and calls for the same directory, another level and no directory. -/
def callsSample : List Call :=
  let call (level : String) (directory : Option String) (made : Except OsError Disk) : Call :=
    ⟨level, directory, fun _ => made, {}⟩
  [call "verbose" none (.ok {}), call "info" (some "a/b") (.ok {}),
    call " Warning " (some "/a//b/ ") (.error .notADirectory),
    call " Warning " (some "/a//b/ ") (.ok {}), call "WARN" (some "/./a/b") (.error .notFound),
    call "info" (some "/a/b") (.ok {}), call "warn" none (.ok {})]

theorem one_shot_callsSample :
    let l := Log.after {} callsSample
    l.status = some (.warn, some "/a//b/") ∧ l.hooks = 1 ∧
      (∃ before first later, callsSample = before ++ first :: later ∧ Log.AllFail {} before ∧
        first.Succeeds (Log.after {} before)) ∧
      ∀ make d, ¬ Call.Succeeds ⟨"warn", none, make, d⟩ l := by
  intro l
  have status : l.status = some (.warn, some "/a//b/") := rfl
  obtain ⟨once, -, -, -, fixed⟩ := one_shot callsSample
  refine ⟨status, ?_⟩
  rcases once with ⟨-, idle, -⟩ |
    ⟨before, first, later, -, split, fails, -, -, succeeds, -, -, -, hooks⟩
  · cases idle.symm.trans status
  · refine ⟨hooks, ⟨before, first, later, split, fails, succeeds⟩, fun make d accepted => ?_⟩
    have named : NamesLevel "warn" .warn := by
      unfold NamesLevel
      decide
    have asks : Call.Asks ⟨"warn", none, make, d⟩ ⟨.warn, none⟩ := ⟨named, rfl⟩
    exact absurd ((fixed _ _ _ _ asks status).mp accepted).2 (by decide)

example : Log.results {} callsSample =
    [.error (.unknownLevel "verbose"), .error (.relativeDirectory "a/b"),
      .error (.noDirectory "/a//b/" .notADirectory), .ok (), .ok (),
      .error (.otherLevel .warn .info), .error (.otherDirectory (some "/a//b/") none)] := by
  rfl

end FractalArchive.Logging
