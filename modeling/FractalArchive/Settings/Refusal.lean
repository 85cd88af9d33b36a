import FractalArchive.Settings.Setting
import FractalArchive.Text.Shown

/-!
# Refused command lines

Why no settings come from a command line, and what is written then.  A request for help or for the
version also ends the reading of a command line.
-/

namespace FractalArchive

/-- An option of the command line. -/
inductive Flag where
  | setting (s : Setting)
  | help
  | version
  deriving DecidableEq, Repr

namespace Flag

/-- The options in the order in which they are listed. -/
def all : List Flag :=
  Setting.all.map .setting ++ [.help, .version]

/-- The word of an option without its dashes. -/
def word : Flag → String
  | .setting s => s.word
  | .help => "help"
  | .version => "version"

/-- An option as messages show it. -/
def shape (f : Flag) : String :=
  match f with
  | .setting s => match s.valueName with
    | some name => s!"--{f.word} <{name}>"
    | none => "--" ++ f.word
  | _ => "--" ++ f.word

/-- The option of a word. -/
def ofWord? (word : String) : Option Flag :=
  all.find? fun f => f.word == word

end Flag

/-- Why no settings come from a command line. -/
inductive Refusal where
  | helpWanted
  | versionWanted
  /-- An argument that is no option; an option like it may be proposed, and options used with it
  are shown. -/
  | unexpected (argument : String) (similar : Option Flag) (used : List Flag)
  | badValue (setting : Setting) (text : String) (fault : ValueFault)
  | noValue (setting : Setting)
  | repeated (setting : Setting)
  /-- A value for an option that takes none; the options used are shown. -/
  | needlessValue (flag : Flag) (text : String) (used : List Flag)
  deriving DecidableEq, Repr

namespace Refusal

/-- The name of the program when the command line has none. -/
def programName : String := "burrito"

/-- Whether a refusal is what was asked for, and no error. -/
def isWanted : Refusal → Bool
  | .helpWanted | .versionWanted => true
  | _ => false

/-- The exit code of a program that ends with a refusal. -/
def exitCode (r : Refusal) : Nat :=
  if r.isWanted then 0 else 2

/-! ### Help -/

/-- How the program is called, with the options that are shown, or any. -/
def usage (program : String) (used : List Flag) : String :=
  let options := if used = [] then ["[OPTIONS]"] else used.eraseDups.map Flag.shape
  "Usage: " ++ " ".intercalate (program :: options)

/-- What help says of a setting. -/
def description : Setting → Option String
  | .databaseUrl => some ("SQLite connection string " ++
      "(`sqlite:///relative.db`, `sqlite:////abs.db`, `sqlite://`)")
  | .debug => some "Debug mode: verbose logs and error details in 500 responses"
  | .host | .port => none
  | .logLevel => some ("trace|debug|info|warn|error; " ++
      "defaults to `debug` in debug mode, else `info`")
  | .logDirectory => some "Absolute directory for rotated log files; stderr only when unset"

/-- The default that help shows for a setting. -/
def shownDefault : Setting → Option String
  | .databaseUrl => some Settings.defaultDatabaseUrl
  | .host => some Settings.defaultHost
  | .port => some (toString Settings.defaultPort)
  | .debug | .logLevel | .logDirectory => none

/-- The column at which descriptions start. -/
def descriptionColumn : Nat :=
  8 + ((Setting.all.map fun s => (Flag.setting s).shape.length).foldl max 0)

/-- An option with its description, whose further lines start at the same column. -/
def helpEntry (start description : String) : String :=
  let indent := List.replicate descriptionColumn ' '
  let continued := description.toList.flatMap fun c => if c = '\n' then c :: indent else [c]
  String.ofList ((start.toList ++ indent).take (max start.length descriptionColumn) ++ continued)

/-- What help says of an option in an environment. -/
def helpLine (e : Environment) : Flag → String
  | .setting s =>
    let value := (e.lookup s.variableName).getD ""
    let parts := (description s).toList ++ [s!"[env: {s.variableName}={value}]"] ++
      ((shownDefault s).map fun d => s!"[default: {d}]").toList
    helpEntry ("      " ++ (Flag.setting s).shape) (" ".intercalate parts)
  | .help => helpEntry "  -h, --help" "Print help"
  | .version => helpEntry "  -V, --version" "Print version"

/-- The text of help. -/
def help (program : String) (e : Environment) : String :=
  "Stores and serves saved fractal configurations over HTTP\n\n" ++ usage program [] ++
    "\n\nOptions:\n" ++ "\n".intercalate (Flag.all.map (helpLine e)) ++ "\n"

/-! ### Messages -/

/-- The first sentence of an error. -/
def complaint : Refusal → String
  | .helpWanted | .versionWanted => ""
  | .unexpected argument _ _ => s!"unexpected argument '{Text.Shown.shown argument}' found"
  | .badValue s text fault =>
    s!"invalid value '{Text.Shown.shown text}' for '{(Flag.setting s).shape}': {fault.message}"
  | .noValue s => s!"a value is required for '{(Flag.setting s).shape}' but none was supplied"
  | .repeated s => s!"the argument '{(Flag.setting s).shape}' cannot be used multiple times"
  | .needlessValue flag text _ =>
    s!"unexpected value '{Text.Shown.shown text}' for '{flag.shape}' found; " ++
      "no more were expected"

/-- What follows the first sentence of an error: a proposal, and how the program is called. -/
def advice (program : String) : Refusal → String
  | .unexpected _ similar used =>
    let proposal := match similar with
      | some f => s!"\n\n  tip: a similar argument exists: '--{f.word}'"
      | none => ""
    proposal ++ "\n\n" ++ usage program used
  | .repeated _ => "\n\n" ++ usage program []
  | .needlessValue _ _ used => "\n\n" ++ usage program used
  | _ => ""

/-- What is written when a command line is refused. -/
def message (program : String) (e : Environment) (r : Refusal) : String :=
  let program := Text.Shown.shown program
  match r with
  | .helpWanted => Text.Shown.shown (help program e)
  | .versionWanted => s!"{programName} {Settings.version}\n"
  | r => "error: " ++ r.complaint ++ r.advice program ++
      "\n\nFor more information, try '--help'.\n"

end Refusal

end FractalArchive
