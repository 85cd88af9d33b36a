/-!
# Settings

What the server is told: where the records are, where to listen, and how to log.
-/

namespace FractalArchive

/-- The settings of the server. -/
structure Settings where
  databaseUrl : String
  /-- Whether errors are shown in answers and logs are verbose. -/
  debug : Bool
  host : String
  port : Nat
  logLevel : Option String
  logDirectory : Option String
  deriving DecidableEq, Repr

namespace Settings

/-- The version of the program. -/
def version : String := "0.1.0"

/-- The database when nothing else is said. -/
def defaultDatabaseUrl : String := "sqlite:///burrito.db"

/-- The host when nothing else is said. -/
def defaultHost : String := "127.0.0.1"

/-- The port when nothing else is said. -/
def defaultPort : Nat := 5000

/-- The greatest port. -/
def maxPort : Nat := 65535

/-- The settings when nothing is said. -/
def default : Settings :=
  ⟨defaultDatabaseUrl, false, defaultHost, defaultPort, none, none⟩

/-- Where the server listens. -/
def socketAddress (s : Settings) : String :=
  s!"{s.host}:{s.port}"

/-- The level of the log: the one asked for, or a default that depends on debug mode. -/
def effectiveLogLevel (s : Settings) : String :=
  match s.logLevel with
  | some level => level
  | none => if s.debug then "debug" else "info"

end Settings

end FractalArchive
