import FractalArchive.Environment
import FractalArchive.Settings.Basic

/-!
# The six settings

Each setting has an option of the command line and a variable of the environment.  A text is a
value of a setting if the setting's check finds no fault with it.
-/

namespace FractalArchive

/-- What can be set. -/
inductive Setting where
  | databaseUrl
  | debug
  | host
  | port
  | logLevel
  | logDirectory
  deriving DecidableEq, Repr

namespace Setting

/-- The settings in the order in which they are listed and looked for. -/
def all : List Setting :=
  [.databaseUrl, .debug, .host, .port, .logLevel, .logDirectory]

/-- The word of a setting on the command line, without its dashes. -/
def word : Setting → String
  | .databaseUrl => "database-url"
  | .debug => "debug"
  | .host => "host"
  | .port => "port"
  | .logLevel => "log-level"
  | .logDirectory => "log-dir"

/-- The variable of a setting. -/
def variableName : Setting → String
  | .databaseUrl => "BURRITO_DATABASE_URL"
  | .debug => "BURRITO_DEBUG"
  | .host => "BURRITO_HOST"
  | .port => "BURRITO_PORT"
  | .logLevel => "BURRITO_LOG_LEVEL"
  | .logDirectory => "BURRITO_LOG_DIR"

/-- What stands for the value of a setting in messages; debug mode is set by its word alone. -/
def valueName : Setting → Option String
  | .databaseUrl => some "DATABASE_URL"
  | .debug => none
  | .host => some "HOST"
  | .port => some "PORT"
  | .logLevel => some "LOG_LEVEL"
  | .logDirectory => some "LOG_DIR"

/-- Whether a value follows the word of a setting. -/
def takesValue (s : Setting) : Bool :=
  s.valueName.isSome

/-- The text that a word alone stands for. -/
def givenText : String := "true"

end Setting

/-! ### Values -/

/-- Why a text is no value of a setting. -/
inductive ValueFault where
  | emptyNumber
  | invalidDigit
  | tooLarge
  | tooSmall
  /-- A number that is no port. -/
  | notAPort (n : Int)
  | notASwitch
  deriving DecidableEq, Repr

/-- What a message says of a text that is no value. -/
def ValueFault.message : ValueFault → String
  | .emptyNumber => "cannot parse integer from empty string"
  | .invalidDigit => "invalid digit found in string"
  | .tooLarge => "number too large to fit in target type"
  | .tooSmall => "number too small to fit in target type"
  | .notAPort n => s!"{n} is not in 0..={Settings.maxPort}"
  | .notASwitch => "value was not a boolean"

/-- The greatest number that is read. -/
def greatestNumber : Nat := 9223372036854775807

/-- Reads decimal digits as far as the number stays within a limit. -/
def readDigits (limit : Nat) (beyond : ValueFault) (n : Nat) :
    List Char → Except ValueFault Nat
  | [] => .ok n
  | c :: rest =>
    if '0' ≤ c ∧ c ≤ '9' then
      let m := n * 10 + (c.toNat - '0'.toNat)
      if limit < m then .error beyond else readDigits limit beyond m rest
    else .error .invalidDigit

/-- Reads a whole number with an optional sign. -/
def readNumber : List Char → Except ValueFault Int
  | [] => .error .emptyNumber
  | ['+'] | ['-'] => .error .invalidDigit
  | '+' :: digits => (readDigits greatestNumber .tooLarge 0 digits).map Int.ofNat
  | '-' :: digits =>
    (readDigits (greatestNumber + 1) .tooSmall 0 digits).map fun n => - Int.ofNat n
  | digits => (readDigits greatestNumber .tooLarge 0 digits).map Int.ofNat

/-- Reads a port. -/
def readPort (text : String) : Except ValueFault Nat :=
  match readNumber text.toList with
  | .error fault => .error fault
  | .ok n => if 0 ≤ n ∧ n ≤ Settings.maxPort then .ok n.toNat else .error (.notAPort n)

/-- The words for on. -/
def onWords : List String := ["y", "yes", "t", "true", "on", "1"]

/-- The words for off. -/
def offWords : List String := ["n", "no", "f", "false", "off", "0"]

/-- Reads a word for on or off, in any case. -/
def readSwitch (text : String) : Except ValueFault Bool :=
  let small := String.ofList (text.toList.map Char.toLower)
  if small ∈ onWords then .ok true
  else if small ∈ offWords then .ok false
  else .error .notASwitch

/-- The fault of a text as a value of a setting, if it has one. -/
def Setting.fault? (text : String) : Setting → Option ValueFault
  | .port => match readPort text with
    | .ok _ => none
    | .error fault => some fault
  | .debug => match readSwitch text with
    | .ok _ => none
    | .error fault => some fault
  | _ => none

/-- The settings that texts for them stand for; a setting without a text has its default. -/
def Settings.ofTexts (text : Setting → Option String) : Settings where
  databaseUrl := (text .databaseUrl).getD defaultDatabaseUrl
  debug := match (text .debug).map readSwitch with
    | some (.ok on) => on
    | _ => false
  host := (text .host).getD defaultHost
  port := match (text .port).map readPort with
    | some (.ok n) => n
    | _ => defaultPort
  logLevel := text .logLevel
  logDirectory := text .logDirectory

end FractalArchive
