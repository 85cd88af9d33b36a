import FractalArchive.Proofs.Database.Upgrading
import FractalArchive.Proofs.Disk.Keeping
import FractalArchive.Proofs.Location.Language
import FractalArchive.Store.Basic

/-!
# What a store holds

A store *holds* a database when its sessions work on it: a store in memory that no panic has
poisoned, or a store on a file in which the disk keeps the database (`Holds`).

* `Holds.session`: a session runs its work on the database that the store holds, and afterwards the
  store holds what the work leaves; `memory_session` and `file_session` say so for each kind of
  store, with all that the session leaves;
* `connect_memory`, `connect_new`: a new store holds an empty table of records in the latest
  version;
* `connect_kept`: a file that keeps a database of the latest version is connected without a change.
-/

namespace FractalArchive

theorem ascending_nil : Ascending [] :=
  .nil

/-- An empty table of records in the latest version. -/
def Database.fresh : Database :=
  ⟨versionOf Migration.latestVersion, { fractals := .table { ascending := ascending_nil } }⟩

namespace Store

variable {ε α : Type} {s : Store} {disk disk' : Disk} {d d' : Database} {path url : String}

/-! ### Sessions -/

/-- The kind of database that the store keeps. -/
def mode (s : Store) : OpenMode :=
  match s.backend with
  | .file _ => .file
  | .memory _ _ => .memory

/-- What a session reports before its work, in a store of this kind. -/
def sessionEvents : OpenMode → List Event
  | .file => [.sessionOpened]
  | .memory => []

/-- The sessions of the store work on this database. -/
def Holds (s : Store) (disk : Disk) (d : Database) : Prop :=
  match s.backend with
  | .file path => disk.Keeps path d
  | .memory contents poisoned => contents = .database d ∧ poisoned = false

/-- A session in memory: only a panic keeps the store from being used again. -/
theorem memory_session (memory : s.backend = .memory (.database d) false) (lift : StoreError → ε)
    {work : Work ε α} {outcome : Outcome ε α} {events : List Event}
    (works : work ⟨.database d, false⟩ = ⟨outcome, ⟨.database d', false⟩, events⟩) :
    s.withSession lift work disk =
      ⟨outcome, { s with backend := .memory (.database d') outcome.isPanic }, disk, events⟩ := by
  unfold withSession
  rw [memory]
  simp only [works, Bool.false_eq_true, if_false]

/-- A session on a file: the store stays as it is, and the disk keeps what the work leaves. -/
theorem file_session (file : s.backend = .file path) (keeps : disk.Keeps path d)
    (lift : StoreError → ε) {work : Work ε α} {outcome : Outcome ε α} {events : List Event}
    (works : work ⟨.database d, false⟩ = ⟨outcome, ⟨.database d', false⟩, events⟩) :
    ∃ disk', s.withSession lift work disk = ⟨outcome, s, disk', .sessionOpened :: events⟩ ∧
      disk'.Keeps path d' := by
  obtain ⟨p, opens, connection⟩ := keeps
  refine ⟨disk.store (.file p false) ⟨.database d', false⟩, ?_, Disk.keeps_store opens d'⟩
  unfold withSession
  rw [file]
  simp only [opens, connection, works]

/-- **A session works on the database that the store holds**, and the store, of the same kind as
before, then holds what the work leaves. -/
theorem Holds.session (h : s.Holds disk d) (lift : StoreError → ε) {work : Work ε α}
    {result : Except ε α} {events : List Event}
    (works : work ⟨.database d, false⟩ = ⟨.returned result, ⟨.database d', false⟩, events⟩) :
    ∃ store disk', s.withSession lift work disk =
      ⟨.returned result, store, disk', sessionEvents s.mode ++ events⟩ ∧ store.mode = s.mode ∧
        store.Holds disk' d' := by
  unfold Holds at h
  split at h
  next path file =>
    obtain ⟨disk', session, keeps⟩ := file_session file h lift works
    refine ⟨s, disk', ?_, rfl, ?_⟩
    · unfold mode
      rw [session, file]
      rfl
    · unfold Holds
      rwa [file]
  next contents poisoned memory =>
    obtain ⟨rfl, rfl⟩ := h
    refine ⟨{ s with backend := .memory (.database d') false }, disk, ?_, ?_, rfl, rfl⟩
    · unfold mode
      rw [memory_session memory lift works, memory]
      rfl
    · unfold mode
      rw [memory]

/-! ### Connections -/

theorem upgrade_empty :
    Migration.upgradeConnection Migration.registry ⟨.empty, false⟩ =
      (.ok (), ⟨.database .fresh, false⟩, [Migration.latestVersion]) :=
  rfl

theorem upgrade_latest (h : d.userVersion = Migration.latestVersion) :
    Migration.upgradeConnection Migration.registry ⟨.database d, false⟩ =
      (.ok (), ⟨.database d, false⟩, []) :=
  Migration.upgradeConnection_of_upgrade (Migration.upgrade_of_latest h)

/-- A store in memory is always connected, and is new. -/
theorem connect_memory (memory : Location.parse url = .ok .memory) (disk : Disk) :
    connect url disk = (.ok ⟨.memory, .memory (.database .fresh) false⟩, disk,
      [.openStarted .memory, .migrationApplied Migration.latestVersion, .opened .memory,
        .storeConnected .memory]) := by
  unfold connect connectWith
  rw [memory]
  rfl

/-- What connecting to a file comes to, if it succeeds: the database is opened and brought up to
date. -/
theorem connect_file_eq_ok (file : Location.parse url = .ok (.file path)) {events : List Event}
    (connected : connect url disk = (.ok s, disk', events)) :
    s = ⟨.file path, .file path⟩ ∧ ∃ handle disk₁ c applied,
      disk.openDatabase path = .ok (handle, disk₁) ∧
      Migration.upgradeConnection Migration.registry (disk₁.connection handle) =
        (.ok (), c, applied) ∧ disk' = disk₁.store handle c := by
  unfold connect connectWith Opening.fileWith Opening.openWith Opening.bootstrap at connected
  simp only [file, Engine.opening_standard, Engine.registry_standard] at connected
  cases opens : disk.openDatabase path with
  | error e => simp [opens] at connected
  | ok opened =>
      obtain ⟨handle, disk₁⟩ := opened
      cases upgraded : Migration.upgradeConnection Migration.registry (disk₁.connection handle) with
      | mk outcome left =>
          obtain ⟨c, applied⟩ := left
          cases outcome with
          | error e => simp [opens, upgraded] at connected
          | ok _ =>
              simp only [opens, upgraded] at connected
              obtain ⟨rfl, rfl, -⟩ := connected
              exact ⟨rfl, handle, disk₁, c, applied, rfl, upgraded, rfl⟩

/-- A store on a plain name of no file is new, if it is connected. -/
theorem connect_new (file : Location.parse url = .ok (.file path))
    (plain : ¬ DatabaseName.uriMark <+: octetsOf path)
    (new : disk.node? (disk.resolve path) = none) {events : List Event}
    (connected : connect url disk = (.ok s, disk', events)) :
    s.backend = .file path ∧ disk'.Keeps path .fresh := by
  obtain ⟨rfl, handle, disk₁, c, applied, opens, upgraded, rfl⟩ := connect_file_eq_ok file connected
  have named := Location.isFilePath_of_parse file
  obtain ⟨p, rfl, empty⟩ :=
    Disk.openDatabase_new plain ⟨named.nonempty, named.unmarked⟩ new opens
  rw [empty, upgrade_empty] at upgraded
  obtain ⟨-, rfl, -⟩ := upgraded
  exact ⟨rfl, Disk.keeps_store opens .fresh⟩

/-- A store as a first connection gives it, with the disk afterwards: in memory, or on a plain path
where no file was. -/
inductive IsNew : Store → Disk → Prop where
  | memory {url : String} {s : Store} {before disk : Disk} {events : List Event}
      (memory : Location.parse url = .ok .memory)
      (connected : connect url before = (.ok s, disk, events)) : IsNew s disk
  | file {url path : String} {s : Store} {before disk : Disk} {events : List Event}
      (file : Location.parse url = .ok (.file path))
      (plain : ¬ DatabaseName.uriMark <+: octetsOf path)
      (new : before.node? (before.resolve path) = none)
      (connected : connect url before = (.ok s, disk, events)) : IsNew s disk

/-- **A new store** holds an empty table of records. -/
theorem IsNew.holds (new : IsNew s disk) : s.Holds disk .fresh := by
  cases new with
  | memory memory connected =>
      rw [connect_memory memory] at connected
      obtain ⟨rfl, -⟩ := connected
      exact ⟨rfl, rfl⟩
  | file file plain new connected =>
      obtain ⟨backend, keeps⟩ := connect_new file plain new connected
      unfold Holds
      rwa [backend]

/-- A file whose database can be brought up to date is connected, and keeps what the upgrade
leaves. -/
theorem connect_upgraded (file : Location.parse url = .ok (.file path)) (keeps : disk.Keeps path d)
    {applied : List Nat} (upgraded : Migration.upgradeConnection Migration.registry
      ⟨.database d, false⟩ = (.ok (), ⟨.database d', false⟩, applied)) :
    ∃ disk', disk'.Keeps path d' ∧ connect url disk = (.ok ⟨.file path, .file path⟩, disk',
      .openStarted .file :: applied.map .migrationApplied ++
        [.opened .file] ++ [.storeConnected (.file path)]) := by
  obtain ⟨p, opens, connection⟩ := keeps
  refine ⟨disk.store (.file p false) ⟨.database d', false⟩, Disk.keeps_store opens d', ?_⟩
  unfold connect connectWith Opening.fileWith Opening.openWith Opening.bootstrap
  simp only [file, Engine.opening_standard, Engine.registry_standard, opens, connection, upgraded]

/-- A file that keeps a database of the latest version is connected, and keeps the database. -/
theorem connect_kept (file : Location.parse url = .ok (.file path)) (keeps : disk.Keeps path d)
    (latest : d.userVersion = Migration.latestVersion) :
    ∃ disk', disk'.Keeps path d ∧ connect url disk = (.ok ⟨.file path, .file path⟩, disk',
      [.openStarted .file, .opened .file, .storeConnected (.file path)]) :=
  connect_upgraded file keeps (upgrade_latest latest)

end Store

end FractalArchive
