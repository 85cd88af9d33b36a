import FractalArchive.Proofs.Store.Poisoning

/-!
# Closing

A store is used in sessions with any work, each of which ends with a value, with an error or in a
panic (`Used`), and then it is closed.  Closing reports itself in one event, which says how it ended
(`Event.ReportsClosing`), with one exception: a store in memory is poisoned from the first panic on
(`Used.isPoisoned`), and a poisoned store ends with an error and no report (`closing`,
`poisoned_unreported`).
-/

namespace FractalArchive

/-- An event reports that the closing of a store on this location has ended with this result. -/
structure Event.ReportsClosing (event : Event) (location : Location)
    (result : Except StoreError Unit) : Prop where
  info_iff : event.level = .info ↔ result = .ok ()
  error_iff : event.level = .error ↔ ∃ cause, result = .error cause
  message : ∀ elapsed, event.message elapsed = match result with
    | .ok _ => "event=store_close module=db status=ok location=" ++ location.display
    | .error cause => "event=store_close module=db status=error location=" ++ location.display ++
        " error=" ++ cause.message

namespace Store

variable {ε α : Type} {s s' : Store} {disk disk' : Disk} {panics : Bool}

/-! ### Sessions -/

/-- Whether a store is poisoned. -/
def isPoisoned (s : Store) : Bool :=
  match s.backend with
  | .file _ => false
  | .memory _ poisoned => poisoned

/-- A run of sessions from a store and its disk to what they leave; `panics` says whether the work
of one of them panicked. -/
inductive Used : Store → Disk → Bool → Store → Disk → Prop where
  | unused (s : Store) (disk : Disk) : Used s disk false s disk
  | session {ε α : Type} {s s' : Store} {disk disk' : Disk} {panics : Bool}
      (lift : StoreError → ε) (work : Work ε α)
      (more : Used (s.withSession lift work disk).store (s.withSession lift work disk).disk panics
        s' disk') :
      Used s disk ((s.withSession lift work disk).outcome.isPanic || panics) s' disk'

/-- Sessions on a file leave the store as it is. -/
theorem withSession_file (lift : StoreError → ε) (work : Work ε α) (location : Location)
    (path : String) (disk : Disk) :
    ((⟨location, .file path⟩ : Store).withSession lift work disk).store =
      ⟨location, .file path⟩ := by
  unfold withSession
  simp only
  split
  · rfl
  · rfl

theorem withSession_location (lift : StoreError → ε) (work : Work ε α) (s : Store) (disk : Disk) :
    (s.withSession lift work disk).store.location = s.location := by
  obtain ⟨location, path | ⟨contents, poisoned⟩⟩ := s
  · rw [withSession_file]
  · cases poisoned with
    | false => rfl
    | true => rfl

theorem withSession_mode (lift : StoreError → ε) (work : Work ε α) (s : Store) (disk : Disk) :
    (s.withSession lift work disk).store.mode = s.mode := by
  obtain ⟨location, path | ⟨contents, poisoned⟩⟩ := s
  · rw [withSession_file]
  · cases poisoned with
    | false => rfl
    | true => rfl

/-- A session poisons a store in memory when its work panics. -/
theorem withSession_isPoisoned (lift : StoreError → ε) (work : Work ε α) (s : Store)
    (disk : Disk) : (s.withSession lift work disk).store.isPoisoned =
      (s.isPoisoned || s.mode == .memory && (s.withSession lift work disk).outcome.isPanic) := by
  obtain ⟨location, path | ⟨contents, poisoned⟩⟩ := s
  · rw [withSession_file]
    rfl
  · cases poisoned with
    | false => rfl
    | true => rfl

namespace Used

theorem location (used : s.Used disk panics s' disk') : s'.location = s.location := by
  induction used with
  | unused => rfl
  | session lift work more ih => exact ih.trans (withSession_location lift work _ _)

/-- **A store in memory is poisoned** from the first panic on, and a store on a file never is. -/
theorem isPoisoned (used : s.Used disk panics s' disk') :
    s'.isPoisoned = (s.isPoisoned || s.mode == .memory && panics) := by
  induction used with
  | unused s disk => rw [Bool.and_false, Bool.or_false]
  | session lift work more ih =>
      rw [ih, withSession_isPoisoned, withSession_mode, Bool.or_assoc, ← Bool.and_or_distrib_left]

end Used

/-! ### Closing -/

theorem reportsClosing (s : Store) (result : Except StoreError Unit) :
    ∃ event, s.reportClosing result = (result, [event]) ∧
      event.ReportsClosing s.location result := by
  cases result with
  | ok _ => exact ⟨_, rfl, ⟨by simp [Event.level], by simp [Event.level], fun _ => rfl⟩⟩
  | error cause => exact ⟨_, rfl, ⟨by simp [Event.level], by simp [Event.level], fun _ => rfl⟩⟩

/-- A store that is not poisoned reports how its closing ends. -/
theorem closeWith_reports (sound : s.isPoisoned = false) (engine : Except SqlError Unit) :
    ∃ result event, s.closeWith engine = (result, [event]) ∧
      event.ReportsClosing s.location result := by
  obtain ⟨location, path | ⟨contents, poisoned⟩⟩ := s
  · exact ⟨.ok (), reportsClosing ⟨location, .file path⟩ (.ok ())⟩
  · cases sound
    exact ⟨_, reportsClosing ⟨location, .memory contents false⟩ (engine.mapError .sql)⟩

/-- A poisoned store reports nothing. -/
theorem closeWith_poisoned (poisoned : s.isPoisoned = true) (engine : Except SqlError Unit) :
    s.closeWith engine = (.error .poisoned, []) := by
  obtain ⟨location, path | ⟨contents, _⟩⟩ := s
  · cases poisoned
  · cases poisoned
    rfl

/-- A store that has been connected is not poisoned, and is in memory if its location is. -/
theorem connect_sound {url : String} {events : List Event}
    (connected : connect url disk = (.ok s, disk', events)) :
    s.isPoisoned = false ∧ (s.mode = .memory ↔ s.location = .memory) := by
  have parsed := connect_location connected
  cases named : s.location with
  | memory =>
      rw [named] at parsed
      rw [connect_memory parsed] at connected
      cases connected
      exact ⟨rfl, Iff.intro (fun _ => rfl) fun _ => rfl⟩
  | file path =>
      rw [named] at parsed
      obtain ⟨rfl, -⟩ := connect_finds parsed connected
      exact ⟨rfl, ⟨nofun, nofun⟩⟩

/-- **Closing.**  A store is connected, used in any sessions, and closed, whatever the engine
answers to the closing of its connection.  Closing gives one event, which reports how it has ended,
unless the store is in memory and the work of a session has panicked; then closing gives the error
of a poisoned store, and no event. -/
theorem closing {url : String} {disk₁ disk₂ : Disk} {events : List Event}
    (connected : connect url disk = (.ok s, disk₁, events)) (used : s.Used disk₁ panics s' disk₂)
    (engine : Except SqlError Unit) :
    (¬ (s.location = .memory ∧ panics = true) → ∃ result event,
      s'.closeWith engine = (result, [event]) ∧ event.ReportsClosing s.location result) ∧
    (s.location = .memory ∧ panics = true → s'.closeWith engine = (.error .poisoned, [])) := by
  obtain ⟨sound, memory_iff⟩ := connect_sound connected
  have poisoned_iff : s'.isPoisoned = true ↔ s.location = .memory ∧ panics = true := by
    rw [used.isPoisoned, sound, Bool.false_or, Bool.and_eq_true, beq_iff_eq, memory_iff]
  rw [← poisoned_iff, Bool.not_eq_true, ← used.location]
  exact ⟨fun sound => closeWith_reports sound engine,
    fun poisoned => closeWith_poisoned poisoned engine⟩

/-- Work that panics. -/
def panicSample : Work RepositoryError Unit :=
  Work.panic "a"

/-- A store on a file is closed after a panic, and one in memory is refused by the engine. -/
theorem closing_panicSample :
    (∃ s disk events s' disk', connect "a.db" {} = (.ok s, disk, events) ∧
      s.Used disk true s' disk' ∧ ∃ result event, s'.closeWith (.ok ()) = (result, [event]) ∧
        event.ReportsClosing (.file "a.db") result) ∧
      ∃ s disk events, connect ":memory:" {} = (.ok s, disk, events) ∧ s.Used disk false s disk ∧
        ∃ result event, s.closeWith (.error .full) = (result, [event]) ∧
          event.ReportsClosing .memory result := by
  constructor
  · have connected : ∃ s disk events, connect "a.db" {} = (.ok s, disk, events) ∧
        s.location = .file "a.db" ∧ ∃ s' disk', s.Used disk true s' disk' :=
      ⟨_, _, _, rfl, rfl, _, _, .session RepositoryError.store panicSample (.unused _ _)⟩
    obtain ⟨s, disk, events, connected, file, s', disk', used⟩ := connected
    have reports := (closing connected used (.ok ())).1 (by simp [file])
    rw [file] at reports
    exact ⟨s, disk, events, s', disk', connected, used, reports⟩
  · have memory : Location.parse ":memory:" = .ok .memory := rfl
    have connected := connect_memory memory {}
    have used := Used.unused ⟨.memory, .memory (.database .fresh) false⟩ {}
    exact ⟨_, _, _, connected, used, (closing connected used (.error .full)).1 (by simp)⟩

/-- A store in memory in which the work of a session has panicked is closed with an error that is
not reported. -/
theorem poisoned_unreported :
    ∃ s disk events s', connect ":memory:" {} = (.ok s, disk, events) ∧
      s.Used disk true s' disk ∧ s'.close = (.error .poisoned, []) :=
  ⟨_, _, _, _, rfl, .session RepositoryError.store panicSample (.unused _ _), rfl⟩

end Store

end FractalArchive
