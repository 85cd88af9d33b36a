import FractalArchive.Proofs.Store.Holding

/-!
# Connecting

Connecting to a location opens its database and brings it up to date.  What it comes to is decided
by the answer of the engine to the opening (`Engine.opened`) and by whether the database that is
opened can be brought up to date (`Migration.Upgrades`):

* where both are possible, the store is connected, and its database is in the last version;
* where the one or the other is not, nothing changes in any database, and the one report that
  follows the start says why (`Event.ReportsFailedOpening`).

Nothing is assumed of the engine but that opening changes no database
(`Engine.connection_of_opening`); it may refuse any name and fail in any script.  A database is what
a connection to it shows, so a failed opening may at most touch a file in which there is none
(`Disk.connection_store`).
-/

namespace FractalArchive

open Migration (Upgrades pending latestVersion)

variable {engine : Engine} {disk disk₁ : Disk} {url : String} {location : Location}
  {handle : Handle} {c : Connection} {d d' : Database} {cause : SqlError}

/-! ### Databases on a disk -/

namespace Disk

/-- Storing what a connection shows changes no database. -/
theorem connection_store (disk : Disk) (handle other : Handle) :
    (disk.store handle (disk.connection handle)).connection other = disk.connection other := by
  cases handle with
  | own _ => rfl
  | file p readOnly =>
  by_cases unread : ∃ cause, disk.shown p = .unreadable cause
  · obtain ⟨cause, unread⟩ := unread
    rw [store_of_unreadable unread]
  · have read := not_exists.mp unread
    rw [store_of_readable read]
    cases other with
    | own _ => rfl
    | file q readOnly' =>
        refine congrArg (Connection.mk · readOnly') ?_
        by_cases same : q = p
        · rw [same]
          exact shown_put disk (ne_nil_of_readable read) (shown_ne disk p)
        · exact shown_put_of_ne disk _ same

end Disk

/-! ### What the engine answers -/

/-- The kind of database that a location names. -/
def Location.mode : Location → OpenMode
  | .memory => .memory
  | .file _ => .file

/-- What a store keeps of the connection that has been opened. -/
def Location.backend (location : Location) (c : Connection) : Backend :=
  match location with
  | .memory => .memory c.contents false
  | .file path => .file path

/-- What the engine answers to the opening of a location. -/
def Engine.opened (engine : Engine) (location : Location) (disk : Disk) :
    Except SqlError (Handle × Disk) :=
  match location with
  | .memory => engine.openingInMemory.map fun _ => (.own false, disk)
  | .file path => engine.opening path disk

/-- Opening a location changes no database. -/
theorem Engine.connection_of_opened (h : engine.opened location disk = .ok (handle, disk₁))
    (other : Handle) : disk₁.connection other = disk.connection other := by
  cases location with
  | memory =>
      unfold opened at h
      cases answer : engine.openingInMemory with
      | error _ =>
          rw [answer] at h
          cases h
      | ok _ =>
          rw [answer] at h
          cases h
          rfl
  | file path => exact engine.connection_of_opening h other

/-- The reports of the migrations that a database lacks. -/
def Engine.migrated (engine : Engine) (d : Database) : List Event :=
  (pending d.userVersion engine.registry).map fun m => .migrationApplied m.version.toNat

theorem Engine.sound_registry (engine : Engine) : Migration.Sound engine.registry :=
  Migration.sound_registryOf _

/-! ### Reports -/

/-- An event reports that an opening has failed for this cause; the code says in which part. -/
structure Event.ReportsFailedOpening (event : Event) (mode : OpenMode) (code : String)
    (cause : StoreError) : Prop where
  level : event.level = .error
  message : ∀ elapsed : Nat, event.message elapsed =
    "event=db_open module=db status=error mode=" ++ mode.name ++ s!" duration_ms={elapsed}" ++
      " error_code=" ++ code ++ " error=" ++ cause.message

theorem Event.openFailed_reports (mode : OpenMode) (cause : SqlError) :
    (Event.openFailed mode cause).ReportsFailedOpening mode "db_open_failed" (.sql cause) := by
  refine ⟨rfl, fun elapsed => ?_⟩
  have code : toString " error_code=db_open_failed error=" =
      " error_code=" ++ ("db_open_failed" ++ " error=") := by decide
  unfold message StoreError.message
  simp only [String.append_assoc]
  rw [code]
  simp only [String.append_assoc]

theorem Event.bootstrapFailed_reports (mode : OpenMode) (cause : StoreError) :
    (Event.bootstrapFailed mode cause).ReportsFailedOpening mode "db_bootstrap_failed" cause := by
  refine ⟨rfl, fun elapsed => ?_⟩
  have code : toString " error_code=db_bootstrap_failed error=" =
      " error_code=" ++ ("db_bootstrap_failed" ++ " error=") := by decide
  unfold message
  simp only [String.append_assoc]
  rw [code]
  simp only [String.append_assoc]

/-! ### Bringing up to date -/

namespace Opening

theorem bootstrap_of_upgrades (mode : OpenMode) (shown : c.contents = .database d)
    (up : Upgrades engine.registry c.readOnly d d') :
    bootstrap engine mode c = (.ok (), ⟨.database d', c.readOnly⟩,
      .openStarted mode :: engine.migrated d ++ [.opened mode]) := by
  have upgraded := (Migration.upgradeConnection_eq_ok_iff engine.sound_registry).mpr
    ⟨d, d', shown, up, rfl, rfl⟩
  unfold bootstrap
  simp only [upgraded, List.map_map]
  rfl

/-- What cannot be brought up to date stays as it is, and no migration is reported. -/
theorem bootstrap_of_not (mode : OpenMode)
    (stuck : ∀ d d', c.contents = .database d → ¬ Upgrades engine.registry c.readOnly d d') :
    ∃ cause, bootstrap engine mode c =
      (.error cause, c, [.openStarted mode, .bootstrapFailed mode cause]) := by
  cases report : Migration.upgradeConnection engine.registry c with
  | mk outcome left =>
  obtain ⟨c', applied⟩ := left
  cases outcome with
  | ok _ =>
      obtain ⟨d, d', shown, up, -, -⟩ :=
        (Migration.upgradeConnection_eq_ok_iff engine.sound_registry).mp report
      exact absurd up (stuck d d' shown)
  | error cause =>
      have one : engine.registry.length ≤ 1 := Nat.le_refl 1
      obtain ⟨rfl, rfl⟩ := Migration.upgradeConnection_failed one report
      refine ⟨cause, ?_⟩
      unfold bootstrap
      simp only [report]
      rfl

end Opening

/-- The engine on a disk without space, where no script succeeds. -/
def Engine.crowded : Engine :=
  { standard with script := fun _ => .error .full }

/-! ### The ends of connecting -/

namespace Store

/-- The database of a store is this one.  In a file it is what every connection to the file shows; a
database of the connection's own is gone with the connection. -/
def Has (s : Store) (disk : Disk) (handle : Handle) (d : Database) : Prop :=
  match s.backend, handle with
  | .memory contents poisoned, _ => contents = .database d ∧ poisoned = false
  | .file _, .own _ => True
  | .file _, .file p _ =>
    ∀ readOnly, disk.connection (.file p readOnly) = ⟨.database d, readOnly⟩

/-- A location is opened as the engine answers, and then it is reported as connected. -/
theorem connectWith_eq (engine : Engine) (disk : Disk) (named : Location.parse url = .ok location) :
    connectWith engine url disk =
      match Opening.openWith engine location.mode (engine.opened location disk) disk with
      | (.ok c, disk, events) =>
        (.ok ⟨location, location.backend c⟩, disk, events ++ [.storeConnected location])
      | (.error e, disk, events) => (.error e, disk, events) := by
  unfold connectWith
  rw [named]
  cases location with
  | memory => rfl
  | file path => rfl

/-- A database that cannot be opened is left alone. -/
theorem connectWith_unopened (named : Location.parse url = .ok location)
    (fails : engine.opened location disk = .error cause) :
    connectWith engine url disk = (.error (.sql cause), disk,
      [.openStarted location.mode, .openFailed location.mode cause]) := by
  rw [connectWith_eq engine disk named, fails]
  rfl

/-- A database that cannot be brought up to date stays as it is, and so do all others. -/
theorem connectWith_stuck (named : Location.parse url = .ok location)
    (opened : engine.opened location disk = .ok (handle, disk₁))
    (stuck : ∀ d d', (disk.connection handle).contents = .database d →
      ¬ Upgrades engine.registry (disk.connection handle).readOnly d d') :
    ∃ cause disk', connectWith engine url disk = (.error cause, disk',
        [.openStarted location.mode, .bootstrapFailed location.mode cause]) ∧
      ∀ other, disk'.connection other = disk.connection other := by
  have unchanged := Engine.connection_of_opened opened
  rw [← unchanged handle] at stuck
  obtain ⟨cause, bootstrap⟩ := Opening.bootstrap_of_not location.mode stuck
  refine ⟨cause, disk₁.store handle (disk₁.connection handle), ?_, fun other => ?_⟩
  · rw [connectWith_eq engine disk named, opened]
    unfold Opening.openWith
    simp only [bootstrap]
  · rw [Disk.connection_store, unchanged]

/-- A database that can be brought up to date is connected. -/
theorem connectWith_current (named : Location.parse url = .ok location)
    (opened : engine.opened location disk = .ok (handle, disk₁))
    (shown : (disk.connection handle).contents = .database d)
    (up : Upgrades engine.registry (disk.connection handle).readOnly d d') :
    ∃ s disk', connectWith engine url disk = (.ok s, disk', .openStarted location.mode ::
        engine.migrated d ++ [.opened location.mode, .storeConnected location]) ∧
      s.location = location ∧ s.Has disk' handle d' := by
  rw [← Engine.connection_of_opened opened handle] at shown up
  have bootstrap := Opening.bootstrap_of_upgrades location.mode shown up
  let c : Connection := ⟨.database d', (disk₁.connection handle).readOnly⟩
  refine ⟨⟨location, location.backend c⟩, disk₁.store handle c, ?_, rfl, ?_⟩
  · rw [connectWith_eq engine disk named, opened]
    unfold Opening.openWith
    simp only [bootstrap, List.append_assoc, List.cons_append, List.nil_append]
    rfl
  · cases location with
    | memory => exact ⟨rfl, rfl⟩
    | file path =>
        cases handle with
        | own _ => exact trivial
        | file p readOnly =>
            have read : ∀ cause, disk₁.shown p ≠ .unreadable cause := fun cause unread => by
              cases shown.symm.trans unread
            have stored : (disk₁.put p (.file (.database d'))).shown p = .database d' :=
              Disk.shown_put disk₁ (Disk.ne_nil_of_readable read) nofun
            exact fun readOnly' => congrArg (Connection.mk · readOnly') stored

/-- **Connecting** ends in one of four ways, whatever the engine answers, and its reports are those
of the end.  A connection string that names no location is refused without a report.  Otherwise the
start of an opening is reported, and then:

* where the engine refuses the opening, its error is reported and returned, and nothing changes;
* where the database that it opens cannot be brought up to date, the error is reported and returned,
  no migration is reported, and no database changes;
* where it can be, each migration that it lacked is reported, and the store is connected with the
  database in the last version. -/
theorem connecting (engine : Engine) (url : String) (disk : Disk) :
    (∀ e, Location.parse url = .error e →
      connectWith engine url disk = (.error (.unsupportedUrl e.url), disk, [])) ∧
    ∀ location, Location.parse url = .ok location →
      (∀ cause, engine.opened location disk = .error cause →
        ∃ report : Event,
          report.ReportsFailedOpening location.mode "db_open_failed" (.sql cause) ∧
          connectWith engine url disk =
            (.error (.sql cause), disk, [.openStarted location.mode, report])) ∧
      ∀ handle disk₁, engine.opened location disk = .ok (handle, disk₁) →
        let found := disk.connection handle
        (∀ d d', found.contents = .database d → Upgrades engine.registry found.readOnly d d' →
          d'.userVersion = latestVersion ∧
          ∃ s disk', connectWith engine url disk = (.ok s, disk', .openStarted location.mode ::
              engine.migrated d ++ [.opened location.mode, .storeConnected location]) ∧
            s.location = location ∧ s.Has disk' handle d') ∧
        ((∀ d d', found.contents = .database d →
            ¬ Upgrades engine.registry found.readOnly d d') →
          ∃ cause disk', ∃ report : Event,
            report.ReportsFailedOpening location.mode "db_bootstrap_failed" cause ∧
            connectWith engine url disk =
              (.error cause, disk', [.openStarted location.mode, report]) ∧
            ∀ other, disk'.connection other = disk.connection other) := by
  refine ⟨fun e unnamed => ?_, fun location named => ⟨fun cause fails => ?_,
    fun handle disk₁ opened => ⟨fun d d' shown up => ?_, fun stuck => ?_⟩⟩⟩
  · unfold connectWith
    rw [unnamed]
  · exact ⟨_, Event.openFailed_reports _ _, connectWith_unopened named fails⟩
  · exact ⟨up.version, connectWith_current named opened shown up⟩
  · obtain ⟨cause, disk', connected, same⟩ := connectWith_stuck named opened stuck
    exact ⟨cause, disk', _, Event.bootstrapFailed_reports _ _, connected, same⟩

/-- A disk with an empty database, and with one in which an index has the name of the table. -/
def twoDatabases : Disk :=
  { nodes := [(["old.db"], .file (.database {})),
      (["taken.db"], .file (.database ⟨0, { other := true, fractals := .index }⟩))] }

theorem connecting_twoDatabases :
    connect "mysql://a" twoDatabases =
        (.error (.unsupportedUrl "mysql://a"), twoDatabases, []) ∧
      (∃ cause, ∃ report : Event, report.ReportsFailedOpening .file "db_open_failed" cause ∧
        connect "file:old.db?mode=ro&mode=rw" twoDatabases =
          (.error cause, twoDatabases, [.openStarted .file, report])) ∧
      (∃ s disk', connect "old.db" twoDatabases = (.ok s, disk', [.openStarted .file,
          .migrationApplied 1, .opened .file, .storeConnected (.file "old.db")]) ∧
        s.Has disk' (.file ["old.db"] false) .fresh) ∧
      (∃ cause disk', ∃ report : Event,
        report.ReportsFailedOpening .file "db_bootstrap_failed" cause ∧
        connect "taken.db" twoDatabases = (.error cause, disk', [.openStarted .file, report]) ∧
        ∀ other, disk'.connection other = twoDatabases.connection other) ∧
      ∃ cause disk', ∃ report : Event,
        report.ReportsFailedOpening .file "db_bootstrap_failed" cause ∧
        connectWith .crowded "old.db" twoDatabases =
          (.error cause, disk', [.openStarted .file, report]) ∧
        ∀ other, disk'.connection other = twoDatabases.connection other := by
  refine ⟨(connecting .standard "mysql://a" twoDatabases).1 ⟨"mysql://a"⟩ rfl, ?_, ?_, ?_, ?_⟩
  · exact ⟨_, ((connecting .standard "file:old.db?mode=ro&mode=rw" twoDatabases).2
      (.file "file:old.db?mode=ro&mode=rw") rfl).1 (.uriAccess "rw") rfl⟩
  · have up : Upgrades Engine.standard.registry false {} .fresh :=
      ⟨by decide, by decide, rfl, rfl, nofun⟩
    obtain ⟨-, s, disk', connected, -, has⟩ :=
      (((connecting .standard "old.db" twoDatabases).2 (.file "old.db") rfl).2
        (.file ["old.db"] false) _ rfl).1 {} .fresh rfl up
    exact ⟨s, disk', connected, has⟩
  · refine (((connecting .standard "taken.db" twoDatabases).2 (.file "taken.db") rfl).2
      (.file ["taken.db"] false) _ rfl).2 ?_
    intro d d' shown up
    cases shown
    cases up.scripts
  · refine (((connecting .crowded "old.db" twoDatabases).2 (.file "old.db") rfl).2
      (.file ["old.db"] false) _ rfl).2 ?_
    intro d d' shown up
    cases shown
    cases up.scripts

end Store

end FractalArchive
