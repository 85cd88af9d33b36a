import FractalArchive.Proofs.Service.Operations
import FractalArchive.Proofs.Store.Holding

/-!
# Restarts

A run is a list of operations of the service, each in a session of its own, with restarts between
them: the store is closed and connected again.  On a file that is new at first, restarts are
invisible, and the file is like a store in memory: the results are those of the operations alone on
a new store in memory (`restarts_invisible`).

Between any two steps the disk keeps in the file the database that the store in memory holds, and
its version is the latest, so connecting again migrates nothing; every step keeps this (`run_same`).
-/

namespace FractalArchive.Store

open Service (Operation Reply)

/-- A step of a run. -/
inductive Step where
  /-- An operation in a session. -/
  | operate (operation : Operation)
  /-- The store is closed, and connected to this connection string. -/
  | restart (url : String)

/-- Whether a step is an operation. -/
def Step.isOperation : Step → Bool
  | .operate _ => true
  | .restart _ => false

/-- How the operations of a run end, one after another; a restart that fails ends the run. -/
def run : List Step → Store → Disk → Except StoreError (List (Outcome RepositoryError Reply))
  | [], _, _ => .ok []
  | .operate operation :: rest, s, disk =>
    let session := s.withSession RepositoryError.store operation.work disk
    (run rest session.store session.disk).map (session.outcome :: ·)
  | .restart url :: rest, s, disk =>
    match s.close with
    | (.error e, _) => .error e
    | (.ok _, _) =>
      match connect url disk with
      | (.error e, _, _) => .error e
      | (.ok s, disk, _) => run rest s disk

variable {path : String} {s m : Store} {disk other : Disk} {d : Database}

/-- A run on a file that keeps the database of a store in memory. -/
theorem run_same {steps : List Step}
    (same : ∀ url, .restart url ∈ steps → Location.parse url = .ok (.file path))
    (file : s.backend = .file path) (keeps : disk.Keeps path d)
    (memory : m.backend = .memory (.database d) false)
    (latest : d.userVersion = Migration.latestVersion) :
    ∃ results, run steps s disk = .ok results ∧
      run (steps.filter Step.isOperation) m other = .ok results := by
  induction steps generalizing s disk m d with
  | nil => exact ⟨[], rfl, rfl⟩
  | cons step rest ih =>
      have same' := fun url h => same url (List.mem_cons_of_mem step h)
      cases step with
      | operate operation =>
          -- Both sessions run the same work on the same database, and keep what it leaves.
          obtain ⟨result, d', events, works, version⟩ := operation.works d
          obtain ⟨disk', session, keeps'⟩ := file_session file keeps RepositoryError.store works
          obtain ⟨results, left, right⟩ :=
            ih (m := { m with backend := .memory (.database d') false }) same' file keeps' rfl
              (version.trans latest)
          refine ⟨.returned result :: results, ?_, ?_⟩
          · rw [run, session]
            simp only [left]
            rfl
          · rw [List.filter_cons_of_pos rfl, run,
              memory_session memory RepositoryError.store works]
            simp only [Outcome.isPanic, right]
            rfl
      | restart url =>
          -- In memory there is no such step; on the file the database is the same afterwards.
          have parse := same url List.mem_cons_self
          obtain ⟨disk', keeps', connected⟩ := connect_kept parse keeps latest
          obtain ⟨results, left, right⟩ :=
            ih (s := ⟨.file path, .file path⟩) same' rfl keeps' memory latest
          refine ⟨results, ?_, right⟩
          rw [run, close, closeWith, file]
          simp only [connected]
          exact left

/-- **Restarts are invisible.**  On a plain path of no file, any run with restarts gives the results
that its operations give without restarts on a new store in memory. -/
theorem restarts_invisible {url memoryUrl : String} {disk₀ other₀ : Disk}
    {events others : List Event}
    (file : Location.parse url = .ok (.file path))
    (plain : ¬ DatabaseName.uriMark <+: octetsOf path)
    (new : disk₀.node? (disk₀.resolve path) = none)
    (connected : connect url disk₀ = (.ok s, disk, events))
    (memory : Location.parse memoryUrl = .ok .memory)
    (connectedMemory : connect memoryUrl other₀ = (.ok m, other, others))
    {steps : List Step}
    (same : ∀ url, .restart url ∈ steps → Location.parse url = .ok (.file path)) :
    ∃ results, run steps s disk = .ok results ∧
      run (steps.filter Step.isOperation) m other = .ok results := by
  obtain ⟨backend, keeps⟩ := connect_new file plain new connected
  rw [connect_memory memory] at connectedMemory
  obtain ⟨rfl, -⟩ := connectedMemory
  exact run_same same backend keeps rfl rfl

/-- What a disk without files holds after a first connection to `sqlite:///a.db`. -/
def newDisk : Disk :=
  ⟨[], [(["a.db"], .file (.database .fresh))]⟩

theorem restarts_invisible_newDisk :
    ∃ results,
      run [.operate (.add ⟨"a", "b"⟩), .restart "a.db", .operate .list, .restart " sqlite:///a.db",
        .operate .count] ⟨.file "a.db", .file "a.db"⟩ newDisk = .ok results ∧
      run [.operate (.add ⟨"a", "b"⟩), .operate .list, .operate .count]
        ⟨.memory, .memory (.database .fresh) false⟩ {} = .ok results := by
  have first : Location.parse "sqlite:///a.db" = .ok (.file "a.db") := rfl
  have memory : Location.parse ":memory:" = .ok .memory := rfl
  have new : ({} : Disk).node? (({} : Disk).resolve "a.db") = none := rfl
  refine restarts_invisible first (by decide) new rfl memory rfl ?_
  intro url restart
  simp only [List.mem_cons, reduceCtorEq, Step.restart.injEq, List.not_mem_nil, false_or,
    or_false] at restart
  rcases restart with rfl | rfl
  · rfl
  · rfl

end FractalArchive.Store
