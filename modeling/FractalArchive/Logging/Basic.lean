import FractalArchive.Disk.Basic
import FractalArchive.Event
import FractalArchive.Logging.Payload
import FractalArchive.Logging.Rotation
import FractalArchive.Settings.Basic
import FractalArchive.Text.Blank

/-!
# Logging

The log of a process is set up once, with a level and perhaps a directory for files.  Setting it up
again does nothing if level and directory are the same ones, and is refused otherwise; a refusal
changes nothing (`startWith_of_error`).  From the first success on, panics are reported.
-/

namespace FractalArchive

/-- The word for a level in settings. -/
def Level.word : Level → String
  | .error => "error"
  | .warn => "warn"
  | .info => "info"
  | .debug => "debug"
  | .trace => "trace"

namespace Logging

/-! ### What is asked for -/

/-- How a log is set up. -/
structure Configuration where
  level : Level
  /-- The directory for files, if lines go to files as well. -/
  directory : Option String
  deriving DecidableEq, Repr

/-- Why a log is not set up. -/
inductive Refused where
  | unknownLevel (text : String)
  | blankDirectory
  | relativeDirectory (text : String)
  /-- The directory cannot be made. -/
  | noDirectory (directory : String) (cause : OsError)
  /-- Another logger takes the events of the process. -/
  | occupied
  /-- The log is set up with another directory. -/
  | otherDirectory (active requested : Option String)
  /-- The log is set up with another level. -/
  | otherLevel (active requested : Level)
  deriving DecidableEq, Repr

/-- The place of lines as messages show it. -/
def shownDirectory : Option String → String
  | some directory => directory
  | none => "stderr"

/-- What a message says of a refusal. -/
def Refused.message : Refused → String
  | .unknownLevel text =>
    s!"unsupported log level `{text}`; expected trace|debug|info|warn|error"
  | .blankDirectory => "log_dir cannot be empty"
  | .relativeDirectory text => s!"log_dir must be an absolute path, got `{text}`"
  | .noDirectory directory cause =>
    s!"failed to create log directory `{directory}`: {cause.message}"
  | .occupied => "failed to start logger: Logger initialization failed"
  | .otherDirectory active requested =>
    s!"logging already initialized at `{shownDirectory active}`; " ++
      s!"refusing to switch to `{shownDirectory requested}`"
  | .otherLevel active requested =>
    s!"logging already initialized with level `{active.word}`; " ++
      s!"refusing to switch to `{requested.word}`"

/-- The level of a word in small letters. -/
def levelOf? (word : String) : Option Level :=
  if word = "warning" then some .warn
  else [Level.trace, .debug, .info, .warn, .error].find? fun l => l.word == word

/-- Reads a level; blanks around it and the case of its letters do not count. -/
def readLevel (text : String) : Except Refused Level :=
  let word := String.ofList ((Blank.trim text.toList).map Char.toLower)
  match levelOf? word with
  | some level => .ok level
  | none => .error (.unknownLevel word)

/-- Reads a directory; blanks around it do not count. -/
def readDirectory (text : String) : Except Refused String :=
  let directory := trimmed text
  if directory = "" then .error .blankDirectory
  else if Path.isAbsolute directory then .ok directory
  else .error (.relativeDirectory directory)

/-- Reads what is asked for, the level first. -/
def Configuration.read (level : String) (directory : Option String) :
    Except Refused Configuration := do
  let level ← readLevel level
  match directory with
  | none => return ⟨level, none⟩
  | some text => return ⟨level, some (← readDirectory text)⟩

/-- Whether two directories are the same part by part. -/
def sameDirectory : Option String → Option String → Bool
  | none, none => true
  | some a, some b => Path.parts a == Path.parts b
  | _, _ => false

/-! ### The log of a process -/

/-- The log of a process. -/
structure Log where
  /-- How it is set up, once it is. -/
  active : Option Configuration := none
  /-- Whether another logger takes the events. -/
  occupied : Bool := false
  /-- How often panics have been hooked. -/
  hooks : Nat := 0
  /-- Whether a line has gone to a file. -/
  opened : Bool := false
  deriving DecidableEq, Repr

/-- What setting up a log leaves. -/
structure Started where
  result : Except Refused Unit
  log : Log
  disk : Disk
  events : List Event

/-- Why a log that is set up refuses to be set up otherwise, if it does; the directories are
compared first. -/
def conflict? (active requested : Configuration) : Option Refused :=
  if ¬ sameDirectory active.directory requested.directory then
    some (.otherDirectory active.directory requested.directory)
  else if active.level ≠ requested.level then some (.otherLevel active.level requested.level)
  else none

/-- The disk with the directory of a log; `make` makes a directory. -/
def makeDirectory (make : String → Except OsError Disk) (d : Disk) (c : Configuration) :
    Except Refused Disk :=
  match c.directory with
  | none => .ok d
  | some directory => match make directory with
    | .ok d => .ok d
    | .error cause => .error (.noDirectory directory cause)

/-- Hooks panics, unless they are hooked. -/
def Log.hookPanics (l : Log) : Log :=
  if 0 < l.hooks then l else { l with hooks := l.hooks + 1 }

/-- Sets up the log of a process as far as its directory can be made. -/
def Log.startAs (make : String → Except OsError Disk) (l : Log) (d : Disk) (c : Configuration) :
    Started :=
  match l.active with
  | some active => match conflict? active c with
    | some refused => ⟨.error refused, l, d, []⟩
    | none => ⟨.ok (), l, d, []⟩
  | none => match makeDirectory make d c with
    | .error refused => ⟨.error refused, l, d, []⟩
    | .ok d =>
      if l.occupied then ⟨.error .occupied, l, d, []⟩
      else ⟨.ok (), { l.hookPanics with active := some c }, d,
        [.processStarted Settings.version, .loggingStarted c.level.word c.directory]⟩

/-- Sets up the log of a process where `make` makes directories. -/
def Log.startWith (make : String → Except OsError Disk) (l : Log) (d : Disk) (level : String)
    (directory : Option String) : Started :=
  match Configuration.read level directory with
  | .error refused => ⟨.error refused, l, d, []⟩
  | .ok c => l.startAs make d c

/-- Sets up the log of a process. -/
def Log.start (l : Log) (d : Disk) (level : String) (directory : Option String) : Started :=
  l.startWith d.makeDirectory d level directory

/-- Installs another logger, unless one is there. -/
def Log.occupy (l : Log) : Bool × Log :=
  if l.occupied ∨ l.active.isSome then (false, l) else (true, { l with occupied := true })

/-- The level and the directory of a log that is set up. -/
def Log.status (l : Log) : Option (Level × Option String) :=
  l.active.map fun c => (c.level, c.directory)

/-- What is reported of a panic at a place. -/
def Log.panicked (l : Log) (place payload : String) : List Event :=
  List.replicate l.hooks (.panicCaptured place (shownPayload payload))

/-- A refusal changes nothing of the log. -/
theorem startWith_of_error {make : String → Except OsError Disk} {l : Log} {d : Disk}
    {level : String} {directory : Option String} {refused : Refused}
    (h : (l.startWith make d level directory).result = .error refused) :
    (l.startWith make d level directory).log = l := by
  unfold Log.startWith at h ⊢
  cases hc : Configuration.read level directory with
  | error e => rfl
  | ok c =>
    simp only [hc] at h ⊢
    unfold Log.startAs at h ⊢
    cases ha : l.active with
    | some active =>
      cases hf : conflict? active c <;> simp [hf]
    | none =>
      simp only [ha] at h ⊢
      cases hm : makeDirectory make d c with
      | error e => rfl
      | ok d =>
        simp only [hm] at h ⊢
        split
        · rfl
        · rename_i ho
          rw [if_neg ho] at h
          cases h

/-! ### Lines -/

/-- The events that a log takes. -/
def Log.taken (l : Log) (events : List Event) : List Event :=
  match l.active with
  | none => []
  | some c => events.filter fun e => c.level.admits e.level

/-- An event as a line; `stamp` is the time and `elapsed` the duration that it shows. -/
def line (stamp : String) (elapsed : Nat) (e : Event) : String :=
  s!"[{stamp}] {e.level.name} [{e.origin}] {e.message elapsed}\n"

/-- Writes the events that a log takes to its files. -/
def Log.write (l : Log) (d : Disk) (stamp : String) (elapsed : Nat) (events : List Event) :
    Log × Disk :=
  let lines := (l.taken events).map fun e => octetsOf (line stamp elapsed e)
  match l.active.bind Configuration.directory with
  | none => (l, d)
  | some directory =>
    ({ l with opened := l.opened || !lines.isEmpty },
      addLines l.opened d (d.resolve directory) lines)

end Logging

end FractalArchive
