import FractalArchive.EnvFile.Load
import FractalArchive.Http.Router
import FractalArchive.Server.Failure
import FractalArchive.Settings.CommandLine

/-!
# A run of the server

The server loads its environment file, reads its settings, sets up its log, connects the store,
listens, answers requests until a signal comes, and closes the store.  Whatever fails on the way
ends the run with a report.
-/

namespace FractalArchive.Server

/-- What a run of the server starts from, and what comes to it. -/
structure Surroundings where
  /-- The words of the command line, the program first. -/
  words : List String
  environment : Environment
  disk : Disk
  /-- The requests in order. -/
  requests : List Http.Request
  /-- What ends the server after the last request. -/
  signal : Signal
  /-- Where the draws come from. -/
  generator : Generator

/-- What a run of the server leaves. -/
structure Ended where
  exitCode : Nat
  /-- What is written to the standard output. -/
  output : String := ""
  /-- What is written to the standard error besides the log. -/
  errors : String := ""
  log : Logging.Log := {}
  disk : Disk
  /-- The events in order; the log takes those of its level. -/
  events : List Event := []
  /-- The answers to the requests, if the server got as far as to listen. -/
  answers : Option (List Http.Answer) := none

/-- The name of the environment file. -/
def environmentFile : String := ".env"

/-- What serving leaves. -/
structure Session where
  failure : Option Failure
  disk : Disk
  events : List Event
  answers : Option (List Http.Answer)

/-- Serves requests with settings until a signal comes. -/
def serve (s : Settings) (w : Surroundings) (disk : Disk) : Session :=
  match Store.connect s.databaseUrl disk with
  | (.error cause, disk, events) => ⟨some (.database s.databaseUrl cause), disk, events, none⟩
  | (.ok store, disk, connected) =>
    match listen s.host s.port with
    | .error cause => ⟨some (.listening s.socketAddress cause), disk, connected, none⟩
    | .ok address =>
      let started := .serverStarted address s.debug store.location Settings.version
      let (answers, site, handled) :=
        Http.Site.handleAll s.debug w.requests ⟨store, disk, w.generator⟩
      let (closed, last) := site.store.close
      let events :=
        connected ++ started :: handled ++ [.signalReceived w.signal, .serverStopped] ++ last
      match closed with
      | .ok _ => ⟨none, site.disk, events, some answers⟩
      | .error cause => ⟨some (.closing cause), site.disk, events, some answers⟩

/-- Runs the server with settings. -/
def runWith (s : Settings) (w : Surroundings) : Ended :=
  let start := Logging.Log.start {} w.disk s.effectiveLogLevel s.logDirectory
  match start.result with
  | .error cause =>
    { exitCode := 1, errors := (Failure.logging cause).report, disk := start.disk }
  | .ok _ =>
    let session := serve s w start.disk
    let (errors, exitCode) := match session.failure with
      | none => ("", 0)
      | some failure => (failure.report, 1)
    { exitCode, errors, log := start.log, disk := session.disk,
      events := start.events ++ session.events, answers := session.answers }

/-- Runs the server. -/
def run (w : Surroundings) : Ended :=
  match EnvFile.load w.disk environmentFile w.environment with
  | (_, some (.unusable name value)) =>
    { exitCode := 101, errors := EnvFile.unusableMessage name value ++ "\n", disk := w.disk }
  | (_, some cause) =>
    { exitCode := 1, errors := (Failure.environmentFile environmentFile cause).report,
      disk := w.disk }
  | (environment, none) =>
    match CommandLine.read w.words environment with
    | .ok s => runWith s w
    | .error refusal =>
      let text := refusal.message (CommandLine.programName w.words) environment
      if refusal.isWanted then { exitCode := refusal.exitCode, output := text, disk := w.disk }
      else { exitCode := refusal.exitCode, errors := text, disk := w.disk }

/-- The run with the lines of its log written to the files; `stamp` is the time they show and
`elapsed` the duration. -/
def Ended.logged (e : Ended) (stamp : String) (elapsed : Nat) : Ended :=
  let (log, disk) := e.log.write e.disk stamp elapsed e.events
  { e with log, disk }

/-- An answer as it is sent over a connection that is closed after it. -/
def sent (a : Http.Answer) : Http.Answer :=
  let measured := a.headers.any fun h => h.1 == "content-length"
  { a with headers := a.headers ++ [("connection", "close")] ++
      (if measured then [] else [Http.Answer.lengthOf ""]) }

end FractalArchive.Server
