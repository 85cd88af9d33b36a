import FractalArchive.Settings.Refusal
import FractalArchive.Settings.Similarity

/-!
# Settings from a command line

Every setting comes from its option if that is given, else from its variable if that is there, else
it has its default.  The arguments are read in order; a value that follows its option in an argument
of its own is looked at when the next option comes.
-/

namespace FractalArchive.CommandLine

/-- The texts given for settings, in order. -/
abbrev Given := List (Setting × String)

/-- Whether a setting is among those given. -/
def Given.has (g : Given) (s : Setting) : Bool :=
  (g.lookup s).isSome

/-- The options of the settings given. -/
def Given.flags (g : Given) : List Flag :=
  g.map fun p => .setting p.1

/-- A setting whose value is still to come, or has not been looked at. -/
abbrev Pending := Option (Setting × Option String)

/-! ### Arguments -/

/-- What an argument looks like. -/
inductive Shape where
  /-- The mark `--`, after which options are no longer read. -/
  | mark
  /-- A word after two dashes, with a value after an equals sign if there is one. -/
  | long (word : List Char) (value : Option (List Char))
  /-- Letters after one dash, of which the first decides. -/
  | short (letter : Char)
  /-- Anything else. -/
  | plain
  deriving DecidableEq, Repr

/-- The shape of an argument. -/
def Shape.of : List Char → Shape
  | ['-', '-'] => .mark
  | '-' :: '-' :: rest =>
    let word := rest.takeWhile (· ≠ '=')
    match rest.drop word.length with
    | '=' :: value => .long word (some value)
    | _ => .long word none
  | '-' :: letter :: _ => .short letter
  | _ => .plain

/-! ### Reading -/

/-- Takes a text for a setting, which may be given only once. -/
def enter (g : Given) (s : Setting) (text : String) : Except Refusal Given :=
  if g.has s then .error (.repeated s)
  else match s.fault? text with
    | some fault => .error (.badValue s text fault)
    | none => .ok (g ++ [(s, text)])

/-- Takes the value of a setting that was left pending. -/
def settle (g : Given) : Pending → Except Refusal Given
  | none => .ok g
  | some (s, none) => .error (.noValue s)
  | some (s, some text) => enter g s text

/-- The options that count as used when a pending one is settled without regard to faults of its
value. -/
def usedFlags (g : Given) : Pending → List Flag
  | some (s, some _) =>
    if g.has s then g.flags.erase (.setting s) else g.flags ++ [.setting s]
  | _ => g.flags

/-- The refusal of a word that is no option. -/
def unknownWord (g : Given) (p : Pending) (word : List Char) : Refusal :=
  let word := String.ofList word
  let similar := (Similarity.closest? word (Flag.all.map Flag.word)).bind Flag.ofWord?
  .unexpected ("--" ++ word) similar (usedFlags g p ++ similar.toList)

/-- Reads an option that has no value of its own argument: the settings given after it and the one
whose value is to come. -/
def readFlag (g : Given) (p : Pending) (flag : Flag) (value : Option (List Char)) :
    Except Refusal (Given × Pending) := do
  match flag, value with
  | .setting s, some text =>
    if s.takesValue then return (← enter (← settle g p) s (String.ofList text), none)
    else .error (.needlessValue flag (String.ofList text) (g.flags ++ [flag]))
  | .setting s, none =>
    let g ← settle g p
    if s.takesValue then return (g, some (s, none))
    else return (← enter g s Setting.givenText, none)
  | flag, some text => .error (.needlessValue flag (String.ofList text) (g.flags ++ [flag]))
  | .help, none =>
    let _ ← settle g p
    .error .helpWanted
  | .version, none =>
    let _ ← settle g p
    .error .versionWanted

/-- Reads one argument. -/
def readArgument (g : Given) (p : Pending) (argument : String) :
    Except Refusal (Given × Pending) :=
  match Shape.of argument.toList with
  | .long word value => match Flag.ofWord? (String.ofList word) with
    | some flag => readFlag g p flag value
    | none => .error (unknownWord g p word)
  | .short letter =>
    if letter = 'h' then readFlag g p .help none
    else if letter = 'V' then readFlag g p .version none
    else .error (.unexpected (String.ofList ['-', letter]) none [])
  | .mark | .plain => match p with
    | some (s, none) => .ok (g, some (s, some argument))
    | _ => .error (.unexpected argument none [])

/-- Reads arguments.  After the mark `--` every argument is unexpected. -/
def readArguments (g : Given) (p : Pending) : List String → Except Refusal Given
  | [] => settle g p
  | argument :: rest =>
    if Shape.of argument.toList = .mark then
      match rest with
      | [] => settle g p
      | next :: _ => .error (.unexpected next none [])
    else match readArgument g p argument with
      | .ok (g, p) => readArguments g p rest
      | .error refusal => .error refusal

/-! ### The environment -/

/-- Takes the variables of settings that are not given. -/
def readVariables (e : Environment) (g : Given) : List Setting → Except Refusal Given
  | [] => .ok g
  | s :: rest =>
    match if g.has s then none else e.lookup s.variableName with
    | none => readVariables e g rest
    | some text => match enter g s text with
      | .ok g => readVariables e g rest
      | .error refusal => .error refusal

/-- The settings that a command line without its program name and an environment stand for. -/
def settings (arguments : List String) (e : Environment) : Except Refusal Settings := do
  let given ← readArguments [] none arguments
  let given ← readVariables e given Setting.all
  return Settings.ofTexts fun s => given.lookup s

/-! ### The program name -/

/-- The last part of a path that is a name, if it ends in one. -/
def fileName? (path : String) : Option String :=
  let parts := (path.toList.splitOn '/').filter fun part => part ≠ [] ∧ part ≠ ['.']
  match parts.getLast? with
  | some ['.', '.'] => none
  | some part => some (String.ofList part)
  | none => none

/-- The name of the program for messages: the file name of the first word of a command line. -/
def programName (words : List String) : String :=
  ((words.head?).bind fileName?).getD Refusal.programName

/-- The settings of a whole command line, or what is written instead. -/
def read (words : List String) (e : Environment) : Except Refusal Settings :=
  settings (words.drop 1) e

end FractalArchive.CommandLine
