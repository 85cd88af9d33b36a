import FractalArchive.Form.Failure
import FractalArchive.Http.Failure

/-!
# Events

What the archive reports about itself.  Every event has a level, an origin and one line of text.
The texts hold ids, counts, lengths, locations and error texts, and no submitted name or state.
-/

namespace FractalArchive

/-- How important an event is. -/
inductive Level where
  | error
  | warn
  | info
  | debug
  | trace
  deriving DecidableEq, Repr

namespace Level

/-- The name of a level in a log. -/
def name : Level → String
  | .error => "ERROR"
  | .warn => "WARN"
  | .info => "INFO"
  | .debug => "DEBUG"
  | .trace => "TRACE"

/-- The place of a level, the most important being first. -/
def rank : Level → Nat
  | .error => 0
  | .warn => 1
  | .info => 2
  | .debug => 3
  | .trace => 4

/-- Whether a log of this level takes an event of that one. -/
def admits (log event : Level) : Bool :=
  event.rank ≤ log.rank

end Level

/-- Which kind of database is opened. -/
inductive OpenMode where
  | file
  | memory
  deriving DecidableEq, Repr

/-- The name of a mode. -/
def OpenMode.name : OpenMode → String
  | .file => "file"
  | .memory => "memory"

/-- The services that are offered. -/
inductive Route where
  | random
  | all
  | add
  deriving DecidableEq, Repr

/-- What ends a running server. -/
inductive Signal where
  | interrupt
  | terminate
  deriving DecidableEq, Repr

/-- The name of a signal in a log. -/
def Signal.name : Signal → String
  | .interrupt => "ctrl_c"
  | .terminate => "sigterm"

/-- What is reported. -/
inductive Event where
  | openStarted (mode : OpenMode)
  /-- The database cannot be opened. -/
  | openFailed (mode : OpenMode) (cause : SqlError)
  /-- The database is open and cannot be brought up to date. -/
  | bootstrapFailed (mode : OpenMode) (cause : StoreError)
  | opened (mode : OpenMode)
  | migrationApplied (version : Nat)
  | sessionOpened
  | sessionFailed (cause : SqlError)
  | storeConnected (location : Location)
  | storeClosed (location : Location)
  | storeNotClosed (location : Location) (cause : StoreError)
  | recordAdded (id : Int) (nameChars stateChars : Nat)
  | recordsListed (count : Nat)
  | nothingPicked
  | recordPicked (id : Int) (pool : Nat)
  | requested (route : Route)
  | addRequested (namePresent statePresent : Bool)
  | requestFailed (cause : Failure)
  | formUnread (cause : FormFailure)
  | processStarted (version : String)
  | loggingStarted (level : String) (directory : Option String)
  | panicCaptured (place payload : String)
  | serverStarted (address : String) (debug : Bool) (location : Location) (version : String)
  | signalReceived (signal : Signal)
  | serverStopped
  deriving DecidableEq, Repr

namespace Event

/-- The level of an event. -/
def level : Event → Level
  | .openStarted _ => .info
  | .openFailed _ _ => .error
  | .bootstrapFailed _ _ => .error
  | .opened _ => .info
  | .migrationApplied _ => .info
  | .sessionOpened => .debug
  | .sessionFailed _ => .error
  | .storeConnected _ => .info
  | .storeClosed _ => .info
  | .storeNotClosed _ _ => .error
  | .recordAdded _ _ _ => .info
  | .recordsListed _ => .debug
  | .nothingPicked => .debug
  | .recordPicked _ _ => .debug
  | .requested _ => .debug
  | .addRequested _ _ => .debug
  | .requestFailed _ => .error
  | .formUnread _ => .debug
  | .processStarted _ => .info
  | .loggingStarted _ _ => .info
  | .panicCaptured _ _ => .error
  | .serverStarted _ _ _ _ => .info
  | .signalReceived _ => .info
  | .serverStopped => .info

/-- The part of the program that reports an event. -/
def origin : Event → String
  | .openStarted _ | .openFailed _ _ | .bootstrapFailed _ _ | .opened _ | .sessionOpened
  | .sessionFailed _ => "burrito_core::db::open"
  | .migrationApplied _ => "burrito_core::db::migrations"
  | .storeConnected _ | .storeClosed _ | .storeNotClosed _ _ => "burrito_core::db::store"
  | .recordAdded _ _ _ | .recordsListed _ | .nothingPicked | .recordPicked _ _ =>
    "burrito_core::service::fractal_service"
  | .requested _ | .addRequested _ _ | .requestFailed _ => "burrito_server::http"
  | .formUnread _ => "burrito_server::form"
  | .processStarted _ | .loggingStarted _ _ | .panicCaptured _ _ => "burrito_core::logging"
  | .serverStarted _ _ _ _ | .signalReceived _ | .serverStopped => "burrito_server"

/-- The name of a service in a log. -/
def routeName : Route → String
  | .random => "random"
  | .all => "all"
  | .add => "add"

/-- The text of an event; `elapsed` is the number of milliseconds since the opening began. -/
def message (elapsed : Nat) : Event → String
  | .openStarted mode => "event=db_open module=db status=start mode=" ++ mode.name
  | .openFailed mode cause =>
    "event=db_open module=db status=error mode=" ++ mode.name ++
      s!" duration_ms={elapsed} error_code=db_open_failed error=" ++ cause.message
  | .bootstrapFailed mode cause =>
    "event=db_open module=db status=error mode=" ++ mode.name ++
      s!" duration_ms={elapsed} error_code=db_bootstrap_failed error=" ++ cause.message
  | .opened mode =>
    "event=db_open module=db status=ok mode=" ++ mode.name ++ s!" duration_ms={elapsed}"
  | .migrationApplied version => s!"event=migration_apply module=db status=ok version={version}"
  | .sessionOpened => "event=db_session module=db status=ok"
  | .sessionFailed cause =>
    "event=db_session module=db status=error error_code=db_open_failed error=" ++ cause.message
  | .storeConnected location =>
    "event=store_connect module=db status=ok location=" ++ location.display
  | .storeClosed location => "event=store_close module=db status=ok location=" ++ location.display
  | .storeNotClosed location cause =>
    "event=store_close module=db status=error location=" ++ location.display ++
      " error=" ++ cause.message
  | .recordAdded id nameChars stateChars =>
    s!"event=fractal_add module=service status=ok id={id} name_chars={nameChars} " ++
      s!"state_chars={stateChars}"
  | .recordsListed count => s!"event=fractal_list module=service status=ok count={count}"
  | .nothingPicked => "event=fractal_random module=service status=empty"
  | .recordPicked id pool =>
    s!"event=fractal_random module=service status=ok id={id} pool={pool}"
  | .requested route => "event=http_request module=http route=" ++ routeName route
  | .addRequested namePresent statePresent =>
    s!"event=http_request module=http route=add name_present={namePresent} " ++
      s!"state_present={statePresent}"
  | .requestFailed cause => "event=http_request module=http status=error error=" ++ cause.message
  | .formUnread cause => cause.message
  | .processStarted version =>
    "event=app_start module=core status=ok platform=linux build_mode=debug version=" ++ version
  | .loggingStarted level directory =>
    "event=logging_init module=core status=ok level=" ++ level ++
      " log_dir=" ++ directory.getD "-"
  | .panicCaptured place payload =>
    "event=panic_captured module=core status=error location=" ++ place ++ " payload=" ++ payload
  | .serverStarted address debug location version =>
    s!"event=server_start module=server status=ok addr={address} debug={debug} database=" ++
      location.display ++ " version=" ++ version
  | .signalReceived signal =>
    "event=server_stop module=server status=signal signal=" ++ signal.name
  | .serverStopped => "event=server_stop module=server status=ok"

end Event

end FractalArchive
